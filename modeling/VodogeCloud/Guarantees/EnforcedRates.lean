import Mathlib.Tactic.NormNum
import VodogeCloud.Source.RateLimit

/-!
# The rate a limiter enforces

A limiter forgets a bucket that nobody touched for ten minutes and hands its key a full one
later. Where ten minutes fill a bucket, it behaves as if every key had a bucket of its own
that is never forgotten, so the bound of such a bucket is the bound of the limiter.
-/

set_option autoImplicit false

namespace VodogeCloud.Guarantees.EnforcedRates

open VodogeCloud.Lib.TokenBucket VodogeCloud.Source.RateLimit

/-! ## A limiter at a time -/

/-- A limiter of a rate and a burst: its buckets hold no more than the burst. -/
structure Keeps (rate burst : ℚ) (limiter : Limiter) (now : ℚ) : Prop where
  sameRate : limiter.rate = rate
  sameBurst : limiter.burst = burst
  sameIdle : limiter.idle = 600
  sound : ∀ key bucket, limiter.buckets key = some bucket → bucket.Sound now ∧ bucket.tokens ≤ burst

/-- What a limiter has for a key at a time: a key without a bucket would get a full one. -/
def level (rate burst : ℚ) (limiter : Limiter) (key : String) (time : ℚ) : ℚ :=
  (limiter.buckets key).elim burst fun bucket => bucket.level rate burst time

/-- Ten minutes fill a bucket. -/
structure Settings (rate burst : ℚ) : Prop where
  positive : 0 < rate
  one : 1 ≤ burst
  short : burst ≤ rate * 600

variable {rate burst now time : ℚ} {limiter : Limiter} {key : String}

theorem Settings.nonneg (settings : Settings rate burst) : 0 ≤ burst := zero_le_one.trans settings.one

theorem Keeps.wait (keeps : Keeps rate burst limiter now) (later : now ≤ time) : Keeps rate burst limiter time :=
  { keeps with sound := fun key bucket held =>
      ⟨(keeps.sound key bucket held).1.wait later, (keeps.sound key bucket held).2⟩ }

/-- A difference of times is a duration, or longer than any. -/
theorem sub_eq {now earlier : ℚ} (later : earlier ≤ now) : sub now earlier = min (now - earlier) maxDuration := by
  have least : minDuration ≤ min (now - earlier) maxDuration := by
    refine le_min ?_ (by norm_num [minDuration, maxDuration])
    have negative : minDuration ≤ 0 := by norm_num [minDuration]
    linarith
  exact max_eq_right least

/-- A bucket nobody touched for ten minutes is full. -/
theorem level_idle (settings : Settings rate burst) {bucket : Bucket ℚ} (tokens : 0 ≤ bucket.tokens)
    (idle : 600 ≤ time - bucket.seen) : bucket.level rate burst time = burst := by
  refine min_eq_left ?_
  have gained : rate * 600 ≤ (time - bucket.seen) * rate := by
    rw [mul_comm rate]
    exact mul_le_mul_of_nonneg_right idle settings.positive.le
  linarith [settings.short]

/-- The tokens after a refill are the level: where the difference of times is cut, the bucket
is full anyway. -/
theorem refill_tokens (settings : Settings rate burst) (keeps : Keeps rate burst limiter now) {bucket : Bucket ℚ}
    (sound : bucket.Sound now) (least : bucket.tokens ≤ burst) (later : now ≤ time) :
    (limiter.refill time bucket).tokens = bucket.level rate burst time := by
  have seen : bucket.seen ≤ time := sound.seen.trans later
  unfold Limiter.refill
  dsimp only
  rw [keeps.sameRate, keeps.sameBurst]
  by_cases passed : 0 < sub time bucket.seen
  · rw [if_pos passed]
    have capped : (if burst < bucket.tokens + sub time bucket.seen * rate then burst
        else bucket.tokens + sub time bucket.seen * rate) = min burst (bucket.tokens + sub time bucket.seen * rate) := by
      split
      · next more => exact (min_eq_left more.le).symm
      · next less => exact (min_eq_right (not_lt.mp less)).symm
    rw [capped]
    by_cases short : time - bucket.seen ≤ maxDuration
    · rw [sub_eq seen, min_eq_left short]
      rfl
    · have long : 600 ≤ maxDuration := by norm_num [maxDuration]
      rw [level_idle settings sound.tokens (by linarith)]
      refine min_eq_left ?_
      have gained : rate * 600 ≤ sub time bucket.seen * rate := by
        rw [mul_comm rate, sub_eq seen, min_eq_right (not_le.mp short).le]
        exact mul_le_mul_of_nonneg_right long settings.positive.le
      linarith [settings.short, sound.tokens]
  · rw [if_neg passed]
    have same : time - bucket.seen = 0 := by
      rw [sub_eq seen, lt_min_iff, not_and_or, not_lt, not_lt] at passed
      rcases passed with none_ | small
      · exact le_antisymm none_ (sub_nonneg.mpr seen)
      · exact absurd small (by norm_num [maxDuration])
    unfold Bucket.level
    rw [same, zero_mul, add_zero, min_eq_right least]

theorem held_tokens (settings : Settings rate burst) (keeps : Keeps rate burst limiter now) (later : now ≤ time) :
    (limiter.held key time).tokens = level rate burst limiter key time := by
  unfold Limiter.held Limiter.find level
  cases held : limiter.buckets key with
  | some bucket =>
    obtain ⟨sound, least⟩ := keeps.sound key bucket held
    exact refill_tokens settings keeps sound least later
  | none =>
    have full : (⟨limiter.burst, time⟩ : Bucket ℚ).Sound time := ⟨by rw [keeps.sameBurst]; exact settings.nonneg, le_rfl⟩
    refine (refill_tokens settings (keeps.wait later) full (le_of_eq keeps.sameBurst) le_rfl).trans ?_
    unfold Bucket.level
    dsimp only
    rw [sub_self, zero_mul, add_zero, keeps.sameBurst, min_self]
    rfl

/-! ## One call -/

/-- A call is allowed exactly when its key has a token. -/
theorem allow_iff (settings : Settings rate burst) (keeps : Keeps rate burst limiter now) (later : now ≤ time) :
    (limiter.allow key time).2 = true ↔ 1 ≤ level rate burst limiter key time := by
  rw [← held_tokens settings keeps later, ← not_lt]
  unfold Limiter.allow
  dsimp only
  by_cases few : (limiter.held key time).tokens < 1
  · rw [if_pos few]
    exact iff_of_false Bool.false_ne_true (not_not.mpr few)
  · rw [if_neg few]
    exact iff_of_true rfl few

/-- What a call leaves of the buckets: its own, and what was not swept of the others. -/
theorem allow_buckets (other : String) :
    (limiter.allow key time).1.buckets other =
      if other = key then some ⟨if (limiter.held key time).tokens < 1 then (limiter.held key time).tokens
        else (limiter.held key time).tokens - 1, time⟩
      else (limiter.find key time).1.buckets other := by
  unfold Limiter.allow
  dsimp only
  by_cases few : (limiter.held key time).tokens < 1
  · rw [if_pos few, if_pos few]
    by_cases same : other = key
    · rw [if_pos same, same]
      exact Function.update_self _ _ _
    · rw [if_neg same]
      exact Function.update_of_ne same _ _
  · rw [if_neg few, if_neg few]
    by_cases same : other = key
    · rw [if_pos same, same]
      exact Function.update_self _ _ _
    · rw [if_neg same]
      exact Function.update_of_ne same _ _

/-- The bucket of another key stays, or was idle. -/
theorem find_buckets (other : String) :
    (limiter.find key time).1.buckets other = limiter.buckets other ∨
      (limiter.find key time).1.buckets other = none ∧
        ∃ bucket, limiter.buckets other = some bucket ∧ limiter.idle < sub time bucket.seen := by
  unfold Limiter.find
  cases limiter.buckets key with
  | some bucket => exact Or.inl rfl
  | none =>
    show (limiter.buckets other).filter _ = _ ∨ (limiter.buckets other).filter _ = none ∧ _
    cases held : limiter.buckets other with
    | none => exact Or.inl rfl
    | some bucket =>
      rw [Option.filter_some]
      by_cases idle : limiter.idle < sub time bucket.seen
      · exact Or.inr ⟨if_neg (by simpa using idle), bucket, rfl, idle⟩
      · exact Or.inl (if_pos (by simpa using idle))

theorem serve_settings (call : Call) :
    (limiter.serve call).rate = limiter.rate ∧ (limiter.serve call).burst = limiter.burst ∧
      (limiter.serve call).idle = limiter.idle := by
  unfold Limiter.serve Limiter.allow Limiter.find
  cases limiter.buckets call.key with
  | some bucket =>
    dsimp only
    split
    · exact ⟨rfl, rfl, rfl⟩
    · exact ⟨rfl, rfl, rfl⟩
  | none =>
    dsimp only
    split
    · exact ⟨rfl, rfl, rfl⟩
    · exact ⟨rfl, rfl, rfl⟩

theorem level_nonneg (settings : Settings rate burst) (keeps : Keeps rate burst limiter now) (later : now ≤ time) :
    0 ≤ level rate burst limiter key time := by
  unfold level
  cases held : limiter.buckets key with
  | none => exact settings.nonneg
  | some bucket => exact (keeps.sound key bucket held).1.level_nonneg settings.positive.le settings.nonneg later

theorem level_le_burst : level rate burst limiter key time ≤ burst := by
  unfold level
  cases limiter.buckets key with
  | none => exact le_rfl
  | some bucket => exact Bucket.level_le_burst

theorem Keeps.serve (settings : Settings rate burst) (keeps : Keeps rate burst limiter now) {call : Call}
    (later : now ≤ call.time) : Keeps rate burst (limiter.serve call) call.time := by
  obtain ⟨sameRate, sameBurst, sameIdle⟩ := @serve_settings limiter call
  refine ⟨sameRate.trans keeps.sameRate, sameBurst.trans keeps.sameBurst, sameIdle.trans keeps.sameIdle, ?_⟩
  intro other bucket held
  have shape := held.symm.trans (@allow_buckets call.time limiter call.key other)
  by_cases same : other = call.key
  · rw [if_pos same, Option.some.injEq, held_tokens settings keeps later] at shape
    have most := @level_le_burst rate burst call.time limiter call.key
    have least := @level_nonneg rate burst now call.time limiter call.key settings keeps later
    rw [shape]
    split
    · exact ⟨⟨least, le_rfl⟩, most⟩
    · next enough => exact ⟨⟨sub_nonneg.mpr (not_lt.mp enough), le_rfl⟩, (sub_le_self _ zero_le_one).trans most⟩
  · rw [if_neg same] at shape
    rcases @find_buckets call.time limiter call.key other with stays | ⟨gone, _⟩
    · rw [stays] at shape
      obtain ⟨sound, least⟩ := keeps.sound other bucket shape.symm
      exact ⟨sound.wait later, least⟩
    · rw [gone] at shape
      cases shape

/-- The limiter has for every key what a bucket of its own would have. -/
def Tracks (rate burst : ℚ) (limiter : Limiter) (buckets : String → Bucket ℚ) (now : ℚ) : Prop :=
  ∀ key time, now ≤ time → level rate burst limiter key time = (buckets key).level rate burst time

theorem Tracks.serve (settings : Settings rate burst) (keeps : Keeps rate burst limiter now)
    {buckets : String → Bucket ℚ} (tracks : Tracks rate burst limiter buckets now) {call : Call}
    (later : now ≤ call.time) :
    Tracks rate burst (limiter.serve call)
      (Function.update buckets call.key ((buckets call.key).asked rate burst call.time)) call.time := by
  intro key time after
  unfold level
  rw [show (limiter.serve call).buckets key = _ from allow_buckets key]
  by_cases same : key = call.key
  · rw [if_pos same, same, Function.update_self, held_tokens settings keeps later, tracks call.key call.time later]
    unfold Bucket.asked Bucket.grants
    simp only [Option.elim_some, decide_eq_true_eq, ← not_lt, ite_not]
  · rw [if_neg same, Function.update_of_ne same, ← tracks key time (later.trans after)]
    rcases @find_buckets call.time limiter call.key key with stays | ⟨gone, bucket, held, idle⟩
    · rw [stays]
      rfl
    · -- a forgotten bucket was full
      obtain ⟨sound, _⟩ := keeps.sound key bucket held
      have long : 600 < call.time - bucket.seen := by
        rw [keeps.sameIdle, sub_eq (sound.seen.trans later), lt_min_iff] at idle
        exact idle.1
      unfold level
      rw [gone, held]
      exact (level_idle settings sound.tokens (by linarith)).symm

/-! ## Runs -/

theorem Keeps.run (settings : Settings rate burst) {calls : List Call} (keeps : Keeps rate burst limiter now)
    (ordered : Ordered calls) (later : ∀ call ∈ calls, now ≤ call.time) (after : now ≤ time)
    (last : ∀ call ∈ calls, call.time ≤ time) : Keeps rate burst (limiter.run calls) time := by
  induction calls generalizing limiter now with
  | nil => exact keeps.wait after
  | cons call calls ih =>
    obtain ⟨next, rest⟩ := List.pairwise_cons.mp ordered
    exact ih (keeps.serve settings (later call List.mem_cons_self)) rest next (last call List.mem_cons_self)
      fun other member => last other (List.mem_cons_of_mem _ member)

/-- The times of the calls with a key. -/
def timesOf (key : String) (calls : List Call) : List ℚ := (calls.filter fun call => call.key = key).map Call.time

theorem timesOf_own {call : Call} (same : call.key = key) (calls : List Call) :
    timesOf key (call :: calls) = call.time :: timesOf key calls := by
  unfold timesOf
  rw [List.filter_cons, if_pos (decide_eq_true same)]
  rfl

theorem timesOf_other {call : Call} (other : call.key ≠ key) (calls : List Call) :
    timesOf key (call :: calls) = timesOf key calls := by
  unfold timesOf
  rw [List.filter_cons, if_neg (by rw [decide_eq_true_eq]; exact other)]

/-- The calls with a key are allowed as a bucket of its own grants them. -/
theorem timesOf_allowed (settings : Settings rate burst) {calls : List Call} (keeps : Keeps rate burst limiter now)
    {buckets : String → Bucket ℚ} (tracks : Tracks rate burst limiter buckets now) (ordered : Ordered calls)
    (later : ∀ call ∈ calls, now ≤ call.time) :
    timesOf key (limiter.allowed calls) = (buckets key).granted rate burst (timesOf key calls) := by
  induction calls generalizing limiter buckets now with
  | nil => rfl
  | cons call calls ih =>
    obtain ⟨next, rest⟩ := List.pairwise_cons.mp ordered
    have here := later call List.mem_cons_self
    have tail := ih (keeps.serve settings here) (tracks.serve settings keeps here) rest next
    have answer : (limiter.allow call.key call.time).2 = (buckets call.key).grants rate burst call.time := by
      rw [Bool.eq_iff_iff, allow_iff settings keeps here, tracks call.key call.time here]
      exact decide_eq_true_iff.symm
    have shape : timesOf key (limiter.allowed (call :: calls)) =
        timesOf key (if (limiter.allow call.key call.time).2 then [call] else []) ++
          timesOf key ((limiter.serve call).allowed calls) := by
      unfold timesOf
      rw [Limiter.allowed, List.filter_append, List.map_append]
    rw [shape, tail, answer]
    by_cases same : call.key = key
    · rw [timesOf_own same, Bucket.granted_cons, ← same, Function.update_self]
      congr 1
      split
      · exact timesOf_own rfl []
      · rfl
    · rw [timesOf_other same, Function.update_of_ne (Ne.symm same)]
      split
      · rw [timesOf_other same]
        rfl
      · rfl

/-- How many calls with a key are allowed in a window. -/
def allowedIn (key : String) (start stop : ℚ) (limiter : Limiter) (calls : List Call) : ℕ :=
  (limiter.allowed calls).countP fun call => call.key = key && (start ≤ call.time && call.time ≤ stop)

theorem allowedIn_eq (start stop : ℚ) (calls : List Call) :
    allowedIn key start stop limiter calls = inWindow start stop (timesOf key (limiter.allowed calls)) := by
  unfold allowedIn inWindow timesOf
  rw [List.countP_map, List.countP_filter]
  exact List.countP_congr fun call _ => by
    rw [Function.comp_apply, Bool.and_comm]

/-! ## A new limiter -/

theorem keeps_new (rate : ℚ) (burst : ℤ) (now : ℚ) : Keeps rate burst (new rate burst) now :=
  ⟨rfl, rfl, rfl, fun _ _ held => by cases held⟩

theorem tracks_new (settings : Settings rate burst) {limiter : Limiter} (empty : ∀ key, limiter.buckets key = none)
    (now : ℚ) : Tracks rate burst limiter (fun _ => ⟨burst, now⟩) now := by
  intro key time after
  unfold level Bucket.level
  rw [empty]
  have gained : 0 ≤ (time - now) * rate := mul_nonneg (sub_nonneg.mpr after) settings.positive.le
  exact (min_eq_left (le_add_of_nonneg_right gained)).symm

/-- A time before a list of calls. -/
theorem exists_before (calls : List Call) (ordered : Ordered calls) : ∃ now, ∀ call ∈ calls, now ≤ call.time := by
  cases calls with
  | nil => exact ⟨0, fun _ member => by cases member⟩
  | cons first rest =>
    refine ⟨first.time, fun call member => ?_⟩
    rcases List.mem_cons.mp member with rfl | inRest
    · exact le_rfl
    · exact (List.pairwise_cons.mp ordered).1 call inRest

/-- In every window of every run a key is allowed at most the burst and what the rate adds,
and it is refused only while its bucket holds less than a token. -/
theorem rate_enforced {rate : ℚ} {burst : ℤ} (positive : 0 < rate) (one : 1 ≤ burst) (short : (burst : ℚ) ≤ rate * 600)
    {calls : List Call} (ordered : Ordered calls) (key : String) :
    (∀ start length : ℚ, 0 ≤ length →
      (allowedIn key start (start + length) (new rate burst) calls : ℚ) ≤ burst + rate * length) ∧
    ∀ earlier time later, calls = earlier ++ ⟨key, time⟩ :: later →
      (((new rate burst).run earlier).allow key time).2 = false →
        ∃ bucket, ((new rate burst).run earlier).buckets key = some bucket ∧
          bucket.tokens + (time - bucket.seen) * rate < 1 := by
  have settings : Settings rate (burst : ℚ) := ⟨positive, by exact_mod_cast one, short⟩
  obtain ⟨now, before⟩ := exists_before calls ordered
  have keeps := keeps_new rate burst now
  constructor
  · intro start length nonneg
    have tracks : Tracks rate burst (new rate burst) (fun _ => ⟨burst, now⟩) now := tracks_new settings (fun _ => rfl) now
    have sound : (⟨burst, now⟩ : Bucket ℚ).Sound now := ⟨settings.nonneg, le_rfl⟩
    have times : (timesOf key calls).Pairwise (· ≤ ·) :=
      List.pairwise_map.mpr (ordered.sublist List.filter_sublist)
    have started : ∀ time ∈ timesOf key calls, now ≤ time := by
      intro time member
      obtain ⟨call, inside, rfl⟩ := List.mem_map.mp member
      exact before call (List.mem_of_mem_filter inside)
    have bound := @Bucket.Sound.granted_le_window ℚ _ _ rate burst now start (start + length) ⟨burst, now⟩ _ sound
      positive.le settings.nonneg (timesOf key calls) times started (le_add_of_nonneg_right nonneg)
    rw [allowedIn_eq, timesOf_allowed settings keeps tracks ordered before]
    rw [add_sub_cancel_left, mul_comm] at bound
    exact bound
  · intro earlier time later shape refused
    rw [shape] at ordered before
    obtain ⟨first, _, across⟩ := List.pairwise_append.mp ordered
    have last : ∀ call ∈ earlier, call.time ≤ time := fun call member => across call member _ List.mem_cons_self
    have reached := keeps.run settings first (fun call member => before call (List.mem_append_left _ member))
      (before _ (List.mem_append_right _ List.mem_cons_self)) last
    have few : ¬ 1 ≤ level rate burst ((new rate burst).run earlier) key time := by
      intro enough
      rw [(allow_iff settings reached le_rfl).mpr enough] at refused
      cases refused
    unfold level at few
    cases held : ((new rate burst).run earlier).buckets key with
    | none =>
      rw [held] at few
      exact absurd settings.one few
    | some bucket =>
      rw [held] at few
      refine ⟨bucket, rfl, ?_⟩
      rw [Option.elim_some, Bucket.level, le_min_iff, not_and_or, not_le, not_le] at few
      exact few.resolve_left (not_lt.mpr settings.one)

theorem rate_enforced_sign_in :
    (0 : ℚ) < 1 / 12 ∧ (1 : ℤ) ≤ 5 ∧ ((5 : ℤ) : ℚ) ≤ 1 / 12 * 600 ∧
      Ordered [⟨"a", 0⟩, ⟨"b", 1⟩, ⟨"a", 2⟩] ∧
      (allowedIn "a" 0 (0 + 2) (new (1 / 12) 5) [⟨"a", 0⟩, ⟨"b", 1⟩, ⟨"a", 2⟩] : ℚ) ≤ (5 : ℤ) + 1 / 12 * 2 := by
  have positive : (0 : ℚ) < 1 / 12 := by norm_num
  have short : ((5 : ℤ) : ℚ) ≤ 1 / 12 * 600 := by norm_num
  have ordered : Ordered [⟨"a", 0⟩, ⟨"b", 1⟩, ⟨"a", 2⟩] := by
    unfold Ordered
    norm_num
  exact ⟨positive, by decide, short, ordered, (rate_enforced positive (by decide) short ordered "a").1 0 2 (by norm_num)⟩

end VodogeCloud.Guarantees.EnforcedRates
