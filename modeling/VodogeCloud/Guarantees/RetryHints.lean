import VodogeCloud.Guarantees.EnforcedRates

/-!
# What Retry-After promises

A refused key is told whole seconds: the wait, at least one second and rounded to the
nearest one. A wait with less than half a second behind its last whole one is rounded down,
and who comes back then is refused again. Whatever other keys do meanwhile only helps: a
bucket they sweep comes back full.
-/

set_option autoImplicit false

namespace VodogeCloud.Guarantees.RetryHints

open VodogeCloud.Lib.TokenBucket VodogeCloud.Source.RateLimit VodogeCloud.Guarantees.EnforcedRates

variable {limiter : Limiter} {key : String} {time now need : ℚ} {machine : Option ℚ → ℤ}

/-! ## Seconds -/

/-- A wait in nanoseconds, at least a second. -/
def waited (need : ℚ) : ℤ := max ⌊need * 10 ^ 9⌋ (10 ^ 9)

/-- The seconds a wait is told as. -/
def told (need : ℚ) : ℤ := ⌊(waited need : ℚ) / 10 ^ 9 + 1 / 2⌋

/-- Rounding does not take from a wait: it is at most a second, a whole number of seconds, or
half a second or more behind one. -/
def RoundedUp (need : ℚ) : Prop := need ≤ 1 ∨ Int.fract need = 0 ∨ 1 / 2 ≤ Int.fract need

theorem one_le_told (need : ℚ) : 1 ≤ told need := by
  have least : (10 ^ 9 : ℤ) ≤ waited need := le_max_right _ _
  have least : (10 ^ 9 : ℚ) ≤ waited need := by exact_mod_cast least
  have whole : (1 : ℚ) ≤ (waited need : ℚ) / 10 ^ 9 := (one_le_div (by norm_num)).mpr least
  refine Int.le_floor.mpr ?_
  push_cast
  linarith

/-- A wait of some half seconds is told as the seconds that half a second more completes. -/
theorem le_told {halves whole : ℤ} (reached : (halves : ℚ) / 2 ≤ need) (close : (whole : ℚ) ≤ (halves + 1) / 2) :
    whole ≤ told need := by
  have nanos : halves * (5 * 10 ^ 8) ≤ ⌊need * 10 ^ 9⌋ := by
    refine Int.le_floor.mpr ?_
    push_cast
    linarith
  have most : halves * (5 * 10 ^ 8) ≤ waited need := nanos.trans (le_max_left _ _)
  have most : (halves : ℚ) * (5 * 10 ^ 8) ≤ waited need := by exact_mod_cast most
  have least : (halves : ℚ) / 2 ≤ (waited need : ℚ) / 10 ^ 9 := by
    rw [le_div_iff₀ (by norm_num)]
    linarith
  refine Int.le_floor.mpr ?_
  linarith

/-- A wait with less than half a second behind its last whole one is told as that. -/
theorem told_le (long : 1 < need) (less : Int.fract need < 1 / 2) : told need ≤ ⌊need⌋ := by
  have whole := Int.self_sub_floor need
  have second : (10 ^ 9 : ℤ) ≤ ⌊need * 10 ^ 9⌋ := by
    refine Int.le_floor.mpr ?_
    push_cast
    linarith
  have cut : ((⌊need * 10 ^ 9⌋ : ℤ) : ℚ) ≤ need * 10 ^ 9 := Int.floor_le _
  have most : (waited need : ℚ) / 10 ^ 9 ≤ need := by
    rw [waited, max_eq_left second, div_le_iff₀ (by norm_num)]
    exact cut
  refine Int.lt_add_one_iff.mp (Int.floor_lt.mpr ?_)
  push_cast
  linarith

/-- What is told covers the wait exactly where rounding takes nothing from it. -/
theorem need_le_told_iff : need ≤ told need ↔ RoundedUp need := by
  have whole := Int.self_sub_floor need
  constructor
  · intro covered
    by_contra bad
    rw [RoundedUp, not_or, not_or, not_le, not_le] at bad
    obtain ⟨long, some_, less⟩ := bad
    have least : (told need : ℚ) ≤ ⌊need⌋ := by exact_mod_cast told_le long less
    have positive : 0 < Int.fract need := lt_of_le_of_ne (Int.fract_nonneg need) (Ne.symm some_)
    linarith
  · rintro (short | none_ | half)
    · have one : (1 : ℚ) ≤ told need := by exact_mod_cast one_le_told need
      exact short.trans one
    · have covered := @le_told need (2 * ⌊need⌋) ⌊need⌋ (by push_cast; linarith) (by push_cast; linarith)
      have covered : (⌊need⌋ : ℚ) ≤ told need := by exact_mod_cast covered
      linarith
    · have covered := @le_told need (2 * ⌊need⌋ + 1) (⌊need⌋ + 1) (by push_cast; linarith) (by push_cast; linarith)
      have covered : (⌊need⌋ : ℚ) + 1 ≤ told need := by exact_mod_cast covered
      linarith [Int.fract_lt_one need]

/-! ## The header -/

/-- The wait of a key with less than a token, in seconds. -/
def wait (limiter : Limiter) (tokens : ℚ) : ℚ := (1 - tokens) / limiter.rate

/-- A wait that is a duration is told as it is. -/
theorem retryHeader_eq {bucket : Bucket ℚ} (held : limiter.buckets key = some bucket) (few : bucket.tokens < 1)
    (positive : 0 < limiter.rate) (short : wait limiter bucket.tokens ≤ maxDuration) :
    limiter.retryHeader machine key = told (wait limiter bucket.tokens) := by
  have nonneg : 0 ≤ wait limiter bucket.tokens := div_nonneg (sub_nonneg.mpr few.le) positive.le
  have cut : truncate (wait limiter bucket.tokens * 10 ^ 9) = ⌊wait limiter bucket.tokens * 10 ^ 9⌋ :=
    if_pos (by positivity)
  have inRange : -2 ^ 63 ≤ ⌊wait limiter bucket.tokens * 10 ^ 9⌋ ∧ ⌊wait limiter bucket.tokens * 10 ^ 9⌋ < 2 ^ 63 := by
    constructor
    · have least : 0 ≤ ⌊wait limiter bucket.tokens * 10 ^ 9⌋ := Int.floor_nonneg.mpr (by positivity)
      exact le_trans (by norm_num) least
    · refine Int.floor_lt.mpr ?_
      rw [maxDuration, le_div_iff₀ (by norm_num)] at short
      push_cast
      linarith
  have nanos : limiter.retryAfter machine key = ⌊wait limiter bucket.tokens * 10 ^ 9⌋ := by
    unfold Limiter.retryAfter
    rw [held]
    dsimp only
    rw [if_neg (not_le.mpr few), if_neg positive.ne']
    unfold toDuration
    show (if -2 ^ 63 ≤ truncate (wait limiter bucket.tokens * 10 ^ 9) ∧
      truncate (wait limiter bucket.tokens * 10 ^ 9) < 2 ^ 63 then truncate (wait limiter bucket.tokens * 10 ^ 9)
      else machine (some (wait limiter bucket.tokens))) = _
    rw [cut, if_pos inRange]
  have clamped : (if ⌊wait limiter bucket.tokens * 10 ^ 9⌋ < 10 ^ 9 then 10 ^ 9
      else ⌊wait limiter bucket.tokens * 10 ^ 9⌋ : ℤ) = waited (wait limiter bucket.tokens) := by
    unfold waited
    split
    · next less => exact (max_eq_right less.le).symm
    · next more => exact (max_eq_left (not_lt.mp more)).symm
  have least : (0 : ℚ) ≤ (waited (wait limiter bucket.tokens) : ℚ) / 10 ^ 9 + 1 / 2 := by
    have second : (10 ^ 9 : ℤ) ≤ waited (wait limiter bucket.tokens) := le_max_right _ _
    have second : (10 ^ 9 : ℚ) ≤ waited (wait limiter bucket.tokens) := by exact_mod_cast second
    have nonneg : (0 : ℚ) ≤ waited (wait limiter bucket.tokens) := le_trans (by norm_num) second
    positivity
  unfold Limiter.retryHeader
  dsimp only
  rw [nanos, clamped]
  exact if_pos least

/-! ## Other keys -/

/-- The calls of other keys leave a bucket as it is, or sweep it. -/
theorem run_others {calls : List Call} (others : ∀ call ∈ calls, call.key ≠ key) :
    ((limiter.run calls).buckets key = limiter.buckets key ∨ (limiter.run calls).buckets key = none) ∧
      (limiter.run calls).rate = limiter.rate ∧ (limiter.run calls).burst = limiter.burst := by
  induction calls generalizing limiter with
  | nil => exact ⟨Or.inl rfl, rfl, rfl⟩
  | cons call calls ih =>
    obtain ⟨stays, rate, burst⟩ := @ih (limiter.serve call) fun other member => others other (List.mem_cons_of_mem _ member)
    obtain ⟨sameRate, sameBurst, _⟩ := @serve_settings limiter call
    refine ⟨?_, rate.trans sameRate, burst.trans sameBurst⟩
    have other : key ≠ call.key := fun same => others call List.mem_cons_self same.symm
    have here : (limiter.serve call).buckets key = (limiter.find call.key call.time).1.buckets key :=
      (allow_buckets key).trans (if_neg other)
    rw [here] at stays
    rcases @find_buckets call.time limiter call.key key with same | ⟨gone, _⟩
    · rw [same] at stays
      exact stays
    · rw [gone, or_self] at stays
      exact Or.inr stays

/-- A key without a bucket gets a full one. -/
theorem allow_absent (absent : limiter.buckets key = none) (one : 1 ≤ limiter.burst) :
    (limiter.allow key time).2 = true := by
  have fresh : (limiter.held key time).tokens = limiter.burst := by
    unfold Limiter.held Limiter.find
    rw [absent]
    unfold Limiter.refill
    dsimp only
    rw [if_neg]
    rw [sub_eq le_rfl, sub_self, lt_min_iff, not_and_or]
    exact Or.inl (lt_irrefl _)
  unfold Limiter.allow
  dsimp only
  rw [fresh, if_neg (not_lt.mpr one)]

/-- A bucket that had less than a token has one once enough time passed. -/
theorem allow_held_iff {bucket : Bucket ℚ} (held : limiter.buckets key = some bucket) (few : bucket.tokens < 1) :
    (limiter.allow key time).2 = true ↔
      0 < sub time bucket.seen ∧ 1 ≤ limiter.burst ∧ 1 ≤ bucket.tokens + sub time bucket.seen * limiter.rate := by
  have tokens : limiter.held key time = limiter.refill time bucket := by
    unfold Limiter.held Limiter.find
    rw [held]
  have answer : (limiter.allow key time).2 = true ↔ 1 ≤ (limiter.refill time bucket).tokens := by
    rw [← not_lt, ← tokens]
    unfold Limiter.allow
    dsimp only
    by_cases less : (limiter.held key time).tokens < 1
    · rw [if_pos less]
      exact iff_of_false Bool.false_ne_true (not_not.mpr less)
    · rw [if_neg less]
      exact iff_of_true rfl less
  rw [answer]
  unfold Limiter.refill
  dsimp only
  by_cases passed : 0 < sub time bucket.seen
  · rw [if_pos passed]
    split
    · next more =>
      exact ⟨fun one => ⟨passed, one, one.trans more.le⟩, fun both => both.2.1⟩
    · next less =>
      exact ⟨fun one => ⟨passed, one.trans (not_lt.mp less), one⟩, fun both => both.2.2⟩
  · rw [if_neg passed]
    exact iff_of_false (not_le.mpr few) fun both => passed both.1

/-! ## Honest hints -/

/-- A refused key that waits as it is told is allowed then. `before` and `after` are the calls
of other keys until the header is read and from there on. -/
def Honest (machine : Option ℚ → ℤ) (limiter : Limiter) (key : String) (time : ℚ) : Prop :=
  ∀ (before after : List Call) (answered next : ℚ),
    (∀ call ∈ before ++ after, call.key ≠ key) → time ≤ answered →
    answered + ((limiter.allow key time).1.run before).retryHeader machine key ≤ next →
    (((limiter.allow key time).1.run (before ++ after)).allow key next).2 = true

/-- The bucket of a key that was refused. -/
theorem refused_bucket (refused : (limiter.allow key time).2 = false) :
    (limiter.allow key time).1.buckets key = some (limiter.held key time) ∧ (limiter.held key time).tokens < 1 ∧
      (limiter.held key time).seen = time ∧ (limiter.allow key time).1.rate = limiter.rate ∧
      (limiter.allow key time).1.burst = limiter.burst := by
  have few : (limiter.held key time).tokens < 1 := by
    by_contra enough
    unfold Limiter.allow at refused
    dsimp only at refused
    rw [if_neg enough] at refused
    cases refused
  obtain ⟨rate, burst, _⟩ := @serve_settings limiter ⟨key, time⟩
  refine ⟨?_, few, rfl, rate, burst⟩
  rw [allow_buckets, if_pos rfl, if_pos few]
  rfl

/-- A bucket that is still there at last was there all along. -/
theorem run_present {before after : List Call} (others : ∀ call ∈ before ++ after, call.key ≠ key) {bucket : Bucket ℚ}
    (stays : (limiter.run (before ++ after)).buckets key = some bucket) :
    (limiter.run before).buckets key = limiter.buckets key := by
  rcases (@run_others limiter key before fun call member => others call (List.mem_append_left _ member)).1 with
    same | gone
  · exact same
  · have rest := (@run_others (limiter.run before) key after fun call member =>
      others call (List.mem_append_right _ member)).1
    rw [gone, or_self] at rest
    unfold Limiter.run at rest stays
    rw [List.foldl_append, rest] at stays
    cases stays

/-- Who waits as long as it takes is allowed. -/
theorem allow_waited {bucket : Bucket ℚ} (held : limiter.buckets key = some bucket) (few : bucket.tokens < 1)
    (positive : 0 < limiter.rate) (one : 1 ≤ limiter.burst) (short : wait limiter bucket.tokens ≤ maxDuration)
    (passed : wait limiter bucket.tokens ≤ time - bucket.seen) : (limiter.allow key time).2 = true := by
  have some_ : 0 < wait limiter bucket.tokens := div_pos (sub_pos.mpr few) positive
  have elapsed : wait limiter bucket.tokens ≤ sub time bucket.seen := by
    rw [sub_eq (by linarith)]
    exact le_min passed short
  have filled : wait limiter bucket.tokens * limiter.rate ≤ sub time bucket.seen * limiter.rate :=
    mul_le_mul_of_nonneg_right elapsed positive.le
  have needed : wait limiter bucket.tokens * limiter.rate = 1 - bucket.tokens := div_mul_cancel₀ _ positive.ne'
  exact (allow_held_iff held few).mpr ⟨some_.trans_le elapsed, one, by linarith⟩

/-- A hint is kept exactly where the limiter fills up at all, the wait is a duration, and
rounding takes nothing from it. -/
theorem honest_iff (machine : Option ℚ → ℤ) {limiter : Limiter} {key : String} {time : ℚ}
    (refused : (limiter.allow key time).2 = false) :
    Honest machine limiter key time ↔ 0 < limiter.rate ∧ 1 ≤ limiter.burst ∧
      wait limiter (limiter.held key time).tokens ≤ maxDuration ∧
        RoundedUp (wait limiter (limiter.held key time).tokens) := by
  obtain ⟨held, few, seen, rate, burst⟩ := refused_bucket refused
  have sameWait : wait (limiter.allow key time).1 (limiter.held key time).tokens =
      wait limiter (limiter.held key time).tokens := by
    unfold wait
    rw [rate]
  constructor
  · intro honest
    -- nothing else happens, and the key comes back as told or much later
    have returns : ∀ next, time + (limiter.allow key time).1.retryHeader machine key ≤ next →
        0 < sub next time ∧ 1 ≤ limiter.burst ∧
          1 ≤ (limiter.held key time).tokens + sub next time * limiter.rate := by
      intro next told
      have allowed := honest [] [] time next (fun _ member => by cases member) le_rfl told
      have filled := (allow_held_iff held few).mp allowed
      rw [seen, rate, burst] at filled
      exact filled
    obtain ⟨_, one, _⟩ := returns _ le_rfl
    have positive : 0 < limiter.rate := by
      obtain ⟨passed, _, enough⟩ := returns _ le_rfl
      by_contra stuck
      have nothing := mul_nonpos_of_nonneg_of_nonpos passed.le (not_lt.mp stuck)
      linarith
    have short : wait limiter (limiter.held key time).tokens ≤ maxDuration := by
      obtain ⟨passed, _, enough⟩ := returns
        (time + max ((limiter.allow key time).1.retryHeader machine key : ℚ) maxDuration) (by gcongr; exact le_max_left _ _)
      have most : sub (time + max ((limiter.allow key time).1.retryHeader machine key : ℚ) maxDuration) time ≤ maxDuration :=
        max_le (by norm_num [minDuration, maxDuration]) (min_le_right _ _)
      have filled := mul_le_mul_of_nonneg_right most positive.le
      rw [wait, div_le_iff₀ positive]
      linarith
    refine ⟨positive, one, short, need_le_told_iff.mp ?_⟩
    have header := @retryHeader_eq (limiter.allow key time).1 key machine _ held few (by rw [rate]; exact positive)
      (by rw [sameWait]; exact short)
    rw [sameWait] at header
    obtain ⟨_, _, enough⟩ := returns _ le_rfl
    rw [header] at enough
    have one_ : (1 : ℚ) ≤ told (wait limiter (limiter.held key time).tokens) := by exact_mod_cast one_le_told _
    have most : sub (time + told (wait limiter (limiter.held key time).tokens)) time ≤
        told (wait limiter (limiter.held key time).tokens) := by
      rw [sub_eq (by linarith), add_sub_cancel_left]
      exact min_le_left _ _
    have filled := mul_le_mul_of_nonneg_right most positive.le
    rw [wait, div_le_iff₀ positive]
    have spelled : wait limiter (limiter.held key time).tokens = (1 - (limiter.held key time).tokens) / limiter.rate := rfl
    rw [← spelled]
    linarith
  · rintro ⟨positive, one, short, rounded⟩ before after answered next others later told
    obtain ⟨_, soonRate, _⟩ := @run_others (limiter.allow key time).1 key before fun call member =>
      others call (List.mem_append_left _ member)
    obtain ⟨stays, finalRate, finalBurst⟩ := @run_others (limiter.allow key time).1 key (before ++ after) others
    rcases stays with stays | gone
    · rw [held] at stays
      have soon := (run_present others stays).trans held
      have waitThen : wait ((limiter.allow key time).1.run before) (limiter.held key time).tokens =
          wait limiter (limiter.held key time).tokens := by
        unfold wait
        rw [soonRate, rate]
      have waitLast : wait ((limiter.allow key time).1.run (before ++ after)) (limiter.held key time).tokens =
          wait limiter (limiter.held key time).tokens := by
        unfold wait
        rw [finalRate, rate]
      have header := @retryHeader_eq ((limiter.allow key time).1.run before) key machine _ soon few
        (by rw [soonRate, rate]; exact positive) (by rw [waitThen]; exact short)
      rw [header, waitThen] at told
      have covered := need_le_told_iff.mpr rounded
      refine allow_waited stays few (by rw [finalRate, rate]; exact positive) (by rw [finalBurst, burst]; exact one)
        (by rw [waitLast]; exact short) ?_
      rw [waitLast, seen]
      linarith
    · exact allow_absent gone (by rw [finalBurst, burst]; exact one)

/-! ## The limiter of the sign-in -/

/-- The sign-in limiter, which grants a token every twelve seconds, after its burst was used. -/
def spent : Limiter := (new (1 / 12) 5).run (List.replicate 5 ⟨"a", 0⟩)

theorem honest_spent : (spent.allow "a" 0).2 = false ∧ Honest (fun _ => 0) spent "a" 0 := by
  have refused : (spent.allow "a" 0).2 = false := by decide +kernel
  refine ⟨refused, (honest_iff (fun _ => 0) refused).mpr ⟨by decide +kernel, by decide +kernel, by decide +kernel, ?_⟩⟩
  exact Or.inr (Or.inl (by decide +kernel))

/-- Three quarters of a second later the wait is 11 seconds and a quarter, and 11 are told. -/
theorem not_honest_spent :
    (spent.allow "a" (3 / 4)).2 = false ∧ (spent.allow "a" (3 / 4)).1.retryHeader (fun _ => 0) "a" = 11 ∧
      ((spent.allow "a" (3 / 4)).1.allow "a" (3 / 4 + 11)).2 = false ∧ ¬ Honest (fun _ => 0) spent "a" (3 / 4) := by
  have header : (spent.allow "a" (3 / 4)).1.retryHeader (fun _ => 0) "a" = 11 := by decide +kernel
  have again : ((spent.allow "a" (3 / 4)).1.allow "a" (3 / 4 + 11)).2 = false := by decide +kernel
  refine ⟨by decide +kernel, header, again, fun honest => ?_⟩
  have allowed := honest [] [] (3 / 4) (3 / 4 + 11) (fun _ member => by cases member) le_rfl
    (by
      show 3 / 4 + ((spent.allow "a" (3 / 4)).1.retryHeader (fun _ => 0) "a" : ℚ) ≤ 3 / 4 + 11
      rw [header]
      norm_num)
  exact Bool.false_ne_true (again.symm.trans allowed)

end VodogeCloud.Guarantees.RetryHints
