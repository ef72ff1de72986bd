import Mathlib.Algebra.Order.Field.Basic
import Mathlib.Data.List.Count
import Mathlib.Tactic.Linarith
import Mathlib.Tactic.Ring

/-!
# Token buckets

A bucket gains tokens at a rate up to a burst, and a grant takes one. Between two instants
it grants at most the burst and what the rate adds, whatever it is asked.
-/

set_option autoImplicit false

namespace VodogeCloud.Lib.TokenBucket

variable {α : Type}

/-! ## Windows -/

section

variable [LinearOrder α] {start stop : α}

/-- How many of the times are in a window. -/
def inWindow (start stop : α) (times : List α) : ℕ := times.countP fun time => start ≤ time && time ≤ stop

theorem inWindow_append (earlier later : List α) :
    inWindow start stop (earlier ++ later) = inWindow start stop earlier + inWindow start stop later :=
  List.countP_append

/-- Nothing in a window is earlier or later than all of it. -/
theorem inWindow_outside {times : List α} (outside : ∀ time ∈ times, ¬ (start ≤ time ∧ time ≤ stop)) :
    inWindow start stop times = 0 := by
  refine List.countP_eq_zero.mpr fun time member => ?_
  rw [Bool.and_eq_true, decide_eq_true_eq, decide_eq_true_eq]
  exact outside time member

end

/-! ## Buckets -/

variable [Field α] [LinearOrder α]

/-- The tokens at the last time the bucket was asked. -/
structure Bucket (α : Type) where
  tokens : α
  seen : α

/-- The tokens at a later time. -/
def Bucket.level (rate burst : α) (bucket : Bucket α) (time : α) : α :=
  min burst (bucket.tokens + (time - bucket.seen) * rate)

/-- Whether a token is granted at a time. -/
def Bucket.grants (rate burst : α) (bucket : Bucket α) (time : α) : Bool := 1 ≤ bucket.level rate burst time

/-- The bucket once it was asked. -/
def Bucket.asked (rate burst : α) (bucket : Bucket α) (time : α) : Bucket α where
  tokens := if bucket.grants rate burst time then bucket.level rate burst time - 1 else bucket.level rate burst time
  seen := time

/-- The times a token is granted at. -/
def Bucket.granted (rate burst : α) : Bucket α → List α → List α
  | _, [] => []
  | bucket, time :: times =>
    (if bucket.grants rate burst time then [time] else []) ++
      (bucket.asked rate burst time).granted rate burst times

/-- A bucket at a time: not below empty, and asked before. -/
structure Bucket.Sound (bucket : Bucket α) (now : α) : Prop where
  tokens : 0 ≤ bucket.tokens
  seen : bucket.seen ≤ now

variable {rate burst now time start stop : α} {bucket : Bucket α}

theorem Bucket.level_le_burst : bucket.level rate burst time ≤ burst := min_le_left _ _

theorem Bucket.Sound.wait (sound : bucket.Sound now) (later : now ≤ time) : bucket.Sound time :=
  ⟨sound.tokens, sound.seen.trans later⟩

theorem Bucket.granted_cons (times : List α) :
    bucket.granted rate burst (time :: times) = (if bucket.grants rate burst time then [time] else []) ++
      (bucket.asked rate burst time).granted rate burst times := rfl

theorem Bucket.granted_subset (times : List α) : bucket.granted rate burst times ⊆ times := by
  induction times generalizing bucket with
  | nil => exact List.Subset.refl _
  | cons time times ih =>
    rw [Bucket.granted_cons]
    refine List.append_subset.mpr ⟨?_, fun other member => List.mem_cons_of_mem _ (ih member)⟩
    split
    · exact List.cons_subset.mpr ⟨List.mem_cons_self, List.nil_subset _⟩
    · exact List.nil_subset _

variable [IsStrictOrderedRing α]

/-- Tokens come in at the rate. -/
theorem Bucket.level_le (positive : 0 ≤ rate) (later : now ≤ time) :
    bucket.level rate burst time ≤ bucket.level rate burst now + (time - now) * rate := by
  have gained : 0 ≤ (time - now) * rate := mul_nonneg (sub_nonneg.mpr later) positive
  unfold Bucket.level
  rcases min_choice burst (bucket.tokens + (now - bucket.seen) * rate) with full | filling
  · rw [full]
    exact (min_le_left _ _).trans (le_add_of_nonneg_right gained)
  · rw [filling]
    refine (min_le_right _ _).trans (le_of_eq ?_)
    ring

theorem Bucket.Sound.level_nonneg (sound : bucket.Sound now) (positive : 0 ≤ rate) (burst_nonneg : 0 ≤ burst)
    (later : now ≤ time) : 0 ≤ bucket.level rate burst time :=
  le_min burst_nonneg
    (add_nonneg sound.tokens (mul_nonneg (sub_nonneg.mpr (sound.seen.trans later)) positive))

/-- A bucket that was just asked has what was left. -/
theorem Bucket.level_asked :
    (bucket.asked rate burst time).level rate burst time =
      if bucket.grants rate burst time then bucket.level rate burst time - 1 else bucket.level rate burst time := by
  have least : (if bucket.grants rate burst time then bucket.level rate burst time - 1 else
      bucket.level rate burst time) ≤ burst := by
    split
    · exact (sub_le_self _ zero_le_one).trans Bucket.level_le_burst
    · exact Bucket.level_le_burst
  show min burst ((if bucket.grants rate burst time then bucket.level rate burst time - 1 else
    bucket.level rate burst time) + (time - time) * rate) = _
  rw [sub_self, zero_mul, add_zero, min_eq_right least]

theorem Bucket.Sound.asked (sound : bucket.Sound now) (positive : 0 ≤ rate) (burst_nonneg : 0 ≤ burst)
    (later : now ≤ time) : (bucket.asked rate burst time).Sound time where
  tokens := by
    unfold Bucket.asked
    dsimp only
    split
    · next enough => exact sub_nonneg.mpr (of_decide_eq_true enough)
    · exact sound.level_nonneg positive burst_nonneg later
  seen := le_rfl

/-- What one answer adds to a window is what it takes from the bucket. -/
theorem Bucket.inWindow_answer_le :
    ((inWindow start stop (if bucket.grants rate burst time then [time] else []) : ℕ) : α) +
      (bucket.asked rate burst time).level rate burst time ≤ bucket.level rate burst time := by
  rw [Bucket.level_asked]
  by_cases granted : bucket.grants rate burst time = true
  · rw [if_pos granted, if_pos granted]
    have one : ((inWindow start stop [time] : ℕ) : α) ≤ 1 := by
      have single : inWindow start stop [time] ≤ 1 := List.countP_le_length
      exact_mod_cast single
    linarith
  · rw [if_neg granted, if_neg granted]
    show ((0 : ℕ) : α) + _ ≤ _
    rw [Nat.cast_zero, zero_add]

/-- What is granted up to an instant was in the bucket or came in since. -/
theorem Bucket.Sound.granted_le_level (sound : bucket.Sound now) (positive : 0 ≤ rate) (burst_nonneg : 0 ≤ burst)
    {times : List α} (sorted : times.Pairwise (· ≤ ·)) (later : ∀ time ∈ times, now ≤ time)
    (ahead : now ≤ stop) :
    (inWindow start stop (bucket.granted rate burst times) : α) ≤
      bucket.level rate burst now + (stop - now) * rate := by
  induction times generalizing bucket now with
  | nil =>
    have level := sound.level_nonneg positive burst_nonneg (le_refl now)
    have gained : 0 ≤ (stop - now) * rate := mul_nonneg (sub_nonneg.mpr ahead) positive
    show ((0 : ℕ) : α) ≤ _
    rw [Nat.cast_zero]
    exact add_nonneg level gained
  | cons time times ih =>
    have here : now ≤ time := later time List.mem_cons_self
    obtain ⟨after, sorted⟩ := List.pairwise_cons.mp sorted
    by_cases inside : time ≤ stop
    · have rest := ih (sound.asked positive burst_nonneg here) sorted after inside
      have answer : (inWindow start stop (if bucket.grants rate burst time then [time] else []) : α) +
          (bucket.asked rate burst time).level rate burst time ≤ bucket.level rate burst time := Bucket.inWindow_answer_le
      have gained : bucket.level rate burst time ≤ bucket.level rate burst now + (time - now) * rate :=
        Bucket.level_le positive here
      rw [Bucket.granted_cons, inWindow_append, Nat.cast_add]
      calc ((inWindow start stop (if bucket.grants rate burst time then [time] else []) : ℕ) : α) +
            (inWindow start stop ((bucket.asked rate burst time).granted rate burst times) : α)
          ≤ (inWindow start stop (if bucket.grants rate burst time then [time] else []) : α) +
              ((bucket.asked rate burst time).level rate burst time + (stop - time) * rate) := by gcongr
        _ ≤ bucket.level rate burst time + (stop - time) * rate := by linarith
        _ ≤ bucket.level rate burst now + (stop - now) * rate := by linarith
    · have outside : inWindow start stop (bucket.granted rate burst (time :: times)) = 0 := by
        refine inWindow_outside fun other member both => inside ?_
        rcases List.mem_cons.mp (Bucket.granted_subset _ member) with rfl | inTimes
        · exact both.2
        · exact (after other inTimes).trans both.2
      rw [outside, Nat.cast_zero]
      exact add_nonneg (sound.level_nonneg positive burst_nonneg le_rfl)
        (mul_nonneg (sub_nonneg.mpr ahead) positive)

/-- A window grants at most the burst and what the rate adds in it. -/
theorem Bucket.Sound.granted_le_window (sound : bucket.Sound now) (positive : 0 ≤ rate) (burst_nonneg : 0 ≤ burst)
    {times : List α} (sorted : times.Pairwise (· ≤ ·)) (later : ∀ time ∈ times, now ≤ time)
    (ahead : start ≤ stop) :
    (inWindow start stop (bucket.granted rate burst times) : α) ≤ burst + (stop - start) * rate := by
  induction times generalizing bucket now with
  | nil =>
    show ((0 : ℕ) : α) ≤ _
    rw [Nat.cast_zero]
    exact add_nonneg burst_nonneg (mul_nonneg (sub_nonneg.mpr ahead) positive)
  | cons time times ih =>
    have here : now ≤ time := later time List.mem_cons_self
    obtain ⟨after, rest⟩ := List.pairwise_cons.mp sorted
    by_cases inside : start ≤ time
    · -- all answers fall in the window or behind it, and at most a burst was there when it started
      have ready : ∀ other ∈ time :: times, max now start ≤ other := by
        intro other member
        refine max_le (later other member) ?_
        rcases List.mem_cons.mp member with rfl | inTimes
        · exact inside
        · exact inside.trans (after other inTimes)
      by_cases early : max now start ≤ stop
      · have bound : (inWindow start stop (bucket.granted rate burst (time :: times)) : α) ≤
            bucket.level rate burst (max now start) + (stop - max now start) * rate :=
          (sound.wait (le_max_left now start)).granted_le_level positive burst_nonneg sorted ready early
        have full := @Bucket.level_le_burst α _ _ rate burst (max now start) bucket
        have gained : (stop - max now start) * rate ≤ (stop - start) * rate :=
          mul_le_mul_of_nonneg_right (sub_le_sub_left (le_max_right _ _) _) positive
        linarith
      · have outside : inWindow start stop (bucket.granted rate burst (time :: times)) = 0 :=
          inWindow_outside fun other member both =>
            early ((ready other (Bucket.granted_subset _ member)).trans both.2)
        rw [outside, Nat.cast_zero]
        exact add_nonneg burst_nonneg (mul_nonneg (sub_nonneg.mpr ahead) positive)
    · have outside : inWindow start stop (if bucket.grants rate burst time then [time] else []) = 0 := by
        refine inWindow_outside fun other member both => inside ?_
        split at member
        · rw [← List.mem_singleton.mp member]
          exact both.1
        · cases member
      rw [Bucket.granted_cons, inWindow_append, outside, zero_add]
      exact ih (sound.asked positive burst_nonneg here) rest after

end VodogeCloud.Lib.TokenBucket
