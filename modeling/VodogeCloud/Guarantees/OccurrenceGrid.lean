import VodogeCloud.Guarantees.ScheduleStores
import VodogeCloud.Lib.Grids
import VodogeCloud.Source.ScheduleRoutes

/-!
# The occurrence grid, and how far from its anchor it is exact

A Go duration ends about 292 years from zero. The number of an occurrence is the floor of the
elapsed time over the period as long as the elapsed time, cut off there, stays in its cell; the
time of that occurrence and of the next one due are exact as long as the product of period and
number is a duration. The database rounds the quotient to sixteen digits, which is fine enough
for the same distances.
-/

set_option autoImplicit false

namespace VodogeCloud.Guarantees.OccurrenceGrid

open VodogeCloud.Lib.Grids
open VodogeCloud.Source.Postgres VodogeCloud.Source.Schedule VodogeCloud.Source.ScheduleMemory
open VodogeCloud.Source.ScheduledTasks (TaskRow dueAt micros)
open VodogeCloud.Source.ScheduleRoutes VodogeCloud.Guarantees.ScheduleStores

/-! ## Go durations -/

section Durations

variable {anchor interval at_ : Int}

theorem sub_eq_clamp (a b : GoTime) : sub a b = clamp minDuration maxDuration (a - b) := rfl

theorem period_pos (sane : 60 ≤ interval ∧ interval ≤ 604800) : 0 < interval * second := by
  unfold second
  omega

theorem wrap_period (sane : 60 ≤ interval ∧ interval ≤ 604800) :
    wrap (interval * second) = interval * second := by
  apply wrap_eq
  · unfold second; omega
  · unfold second; omega

theorem wrap_range (value : Int) : minDuration ≤ wrap value ∧ wrap value ≤ maxDuration := by
  unfold wrap minDuration maxDuration
  omega

/-- A number wraps to itself exactly where it is a duration. -/
theorem wrap_eq_iff {value : Int} : wrap value = value ↔ minDuration ≤ value ∧ value ≤ maxDuration := by
  constructor
  · intro same
    have range := wrap_range value
    rwa [same] at range
  · rintro ⟨low, high⟩
    unfold minDuration at low
    unfold maxDuration at high
    exact wrap_eq (by omega) (by omega)

/-- Wrapping a factor first changes nothing. -/
theorem wrap_mul_wrap (a b : Int) : wrap (a * wrap b) = wrap (a * b) := by
  obtain ⟨turns, shift⟩ : ∃ turns, wrap b = b + 2 ^ 64 * turns := by
    refine ⟨-((b + 2 ^ 63) / 2 ^ 64), ?_⟩
    unfold wrap
    omega
  rw [shift, Int.mul_add]
  have factor : a * (2 ^ 64 * turns) = 2 ^ 64 * (a * turns) := by ring
  rw [factor]
  generalize a * turns = k
  generalize a * b = product
  unfold wrap
  omega

/-- The number is the floor of the elapsed time, cut off at the ends of a duration. -/
theorem occurrenceAt_floor (sane : 60 ≤ interval ∧ interval ≤ 604800) :
    occurrenceAt anchor interval at_ =
      clamp minDuration maxDuration (at_ - anchor) / (interval * second) := by
  unfold occurrenceAt
  rw [if_neg (by omega)]
  dsimp only
  rw [wrap_period sane, sub_eq_clamp, tdiv_floor (period_pos sane)]

end Durations

/-! ## The quotient of the database -/

/-- The estimate of the quotient's weight is never above it. -/
theorem weight_le {scaled divisor weight : Nat} (some_ : scaled ≠ 0)
    (estimate : (weight : Int) + 2 =
      if scaled / 10000 ^ Nat.log 10000 scaled ≤ divisor / 10000 ^ Nat.log 10000 divisor then
        (Nat.log 10000 scaled : Int) - Nat.log 10000 divisor - 1
      else (Nat.log 10000 scaled : Int) - Nat.log 10000 divisor) :
    divisor * 10000 ^ (weight + 2) ≤ scaled := by
  have lower := Nat.pow_log_le_self 10000 some_
  have upper := Nat.lt_pow_succ_log_self (by decide : 1 < 10000) divisor
  have rest := Nat.lt_div_mul_add (a := divisor) (Nat.pow_pos (by decide : 0 < 10000) (n := Nat.log 10000 divisor))
  have whole := Nat.div_mul_le_self scaled (10000 ^ Nat.log 10000 scaled)
  generalize Nat.log 10000 scaled = high at *
  generalize Nat.log 10000 divisor = low at *
  split at estimate
  · have place : high = low + 1 + (weight + 2) := by omega
    rw [place, Nat.pow_add] at lower
    exact le_trans (Nat.mul_le_mul_right _ (Nat.le_of_lt upper)) lower
  · next larger =>
    have place : high = low + (weight + 2) := by omega
    generalize scaled / 10000 ^ high = first at *
    generalize divisor / 10000 ^ low = first' at *
    have bound : divisor ≤ first * 10000 ^ low := by
      have next : (first' + 1) * 10000 ^ low ≤ first * 10000 ^ low := Nat.mul_le_mul_right _ (by omega)
      rw [Nat.add_mul, Nat.one_mul] at next
      omega
    calc divisor * 10000 ^ (weight + 2)
        ≤ first * 10000 ^ low * 10000 ^ (weight + 2) := Nat.mul_le_mul_right _ bound
      _ = first * 10000 ^ high := by rw [place, Nat.pow_add 10000 low, Nat.mul_assoc]
      _ ≤ scaled := whole

/-- Three hundred years are rounded to a digit finer than half a microsecond of the period. -/
theorem divScale_fine {span divisor : Nat} (sane : 60 ≤ divisor ∧ divisor ≤ 604800)
    (near : span ≤ 9300000000000000) : 1000000 * divisor < 2 * 10 ^ divScale span divisor := by
  have fine : ∀ scale, 12 ≤ scale → 1000000 * divisor < 2 * 10 ^ scale := by
    intro scale enough
    have grown := Nat.pow_le_pow_right (by decide : 0 < 10) enough
    omega
  unfold divScale
  dsimp only
  by_cases none_ : span = 0
  · apply fine
    subst none_
    simp only [if_pos]
    split
    · omega
    · omega
  rw [if_neg none_]
  generalize estimate : (if span * 100 / 10000 ^ Nat.log 10000 (span * 100) ≤
      divisor / 10000 ^ Nat.log 10000 divisor then
        (Nat.log 10000 (span * 100) : Int) - 2 - Nat.log 10000 divisor - 1
      else (Nat.log 10000 (span * 100) : Int) - 2 - Nat.log 10000 divisor) = quotient
  rcases Int.lt_or_le quotient 2 with low | high
  · apply fine
    omega
  · obtain ⟨weight, rfl⟩ : ∃ weight : Nat, quotient = weight := ⟨quotient.toNat, by omega⟩
    have reached := @weight_le (span * 100) divisor weight (by omega) (by
      rw [← estimate]
      split
      · omega
      · omega)
    have two : weight = 2 := by
      by_contra other
      have grown := Nat.pow_le_pow_right (by decide : 0 < 10000) (by omega : 5 ≤ weight + 2)
      have more := Nat.mul_le_mul_left divisor grown
      omega
    subst two
    show 1000000 * divisor < 2 * 10 ^ 8
    omega

/-- Over such a span the database takes the floor. -/
theorem epochQuotient_floor {span : Int} {divisor : Nat} (sane : 60 ≤ divisor ∧ divisor ≤ 604800)
    (near : span.natAbs ≤ 9300000000000000) :
    epochQuotient span divisor = span / (1000000 * divisor : Nat) := by
  have fine := divScale_fine sane near
  have whole : 0 < 1000000 * divisor := by omega
  unfold epochQuotient
  dsimp only
  rw [rounded_floor whole fine, rounded_ceil whole fine]
  generalize 1000000 * divisor = step at *
  by_cases forward : 0 ≤ span
  · obtain ⟨count, rfl⟩ := Int.eq_ofNat_of_zero_le forward
    rw [if_pos forward, Int.natAbs_natCast, Int.natCast_ediv]
  · obtain ⟨count, rfl⟩ : ∃ count : Nat, span = -count := ⟨span.natAbs, by omega⟩
    rw [if_neg forward, Int.natAbs_neg, Int.natAbs_natCast, eq_comm]
    have parts := Nat.div_add_mod (count + step - 1) step
    have less := Nat.mod_lt (count + step - 1) whole
    rw [Int.ediv_eq_iff_of_pos (by omega : (0 : Int) < step), Int.neg_mul]
    generalize (count + step - 1) / step = ceiling at *
    have product : ((step * ceiling : Nat) : Int) = ceiling * step := by
      push_cast
      ring
    omega

/-! ## The grid -/

section Grid

variable {anchor interval t last : Int} {anchorAtMs : Option Int}

/-- The grid of an anchor and an interval at the instant `t`, for a task that has last run
`last`. -/
structure OnGrid (anchor interval t last : Int) : Prop where
  cell : ∀ n, (anchor + n * (interval * second) ≤ t ∧ t < anchor + (n + 1) * (interval * second)) ↔
    n = Source.ScheduleMemory.occurrenceAt anchor interval t
  sql : ∀ row : TaskRow, row.intervalSeconds = interval → row.anchorAt = micros anchor →
    dueAt row (micros t) = Source.ScheduleMemory.occurrenceAt anchor interval t
  reached : Source.ScheduleMemory.occurrenceTime anchor interval
    (Source.ScheduleMemory.occurrenceAt anchor interval t) ≤ t
  next : nextDueAt anchor interval last = anchor + interval * second * (last + 1)

/-- `t` lies in a whole cell that a duration from the anchor reaches. -/
def WithinDurations (anchor interval t : Int) : Prop :=
  (minDuration / (interval * second) + 1) * (interval * second) ≤ t - anchor ∧
    t - anchor < (maxDuration / (interval * second) + 1) * (interval * second)

/-- A requested anchor is a whole number of milliseconds. -/
theorem requestedAnchor_micros (asked : requestedAnchor anchorAtMs = some anchor) :
    anchor = 1000 * (anchor / 1000) := by
  simp only [requestedAnchor, Option.filter_eq_some_iff, Option.map_eq_some_iff] at asked
  obtain ⟨⟨milliseconds, _, rfl⟩, _⟩ := asked
  unfold unixMilli
  omega

/-- The cell numbered `n` after the anchor. -/
theorem cell_iff (sane : 60 ≤ interval ∧ interval ≤ 604800) (n : Int) :
    (anchor + n * (interval * second) ≤ t ∧ t < anchor + (n + 1) * (interval * second)) ↔
      n = (t - anchor) / (interval * second) := by
  rw [← inCell_iff (period_pos sane)]
  unfold InCell
  generalize n * (interval * second) = lower
  generalize (n + 1) * (interval * second) = upper
  omega

theorem occurrenceAt_exact_iff (sane : 60 ≤ interval ∧ interval ≤ 604800) :
    (t - anchor) / (interval * second) = Source.ScheduleMemory.occurrenceAt anchor interval t ↔
      minDuration / (interval * second) * (interval * second) ≤ t - anchor ∧
        t - anchor < (maxDuration / (interval * second) + 1) * (interval * second) := by
  rw [occurrenceAt_floor sane, eq_comm]
  exact clamp_div_iff (period_pos sane) (by decide)

/-- The least duration is not a multiple of a period: two to the 63rd is not a multiple of
five. -/
theorem lowest_cell (sane : 60 ≤ interval ∧ interval ≤ 604800) :
    minDuration / (interval * second) * (interval * second) < minDuration ∧
      minDuration < (minDuration / (interval * second) + 1) * (interval * second) := by
  have around := inCell_div (period_pos sane) minDuration
  unfold InCell at around
  have other : minDuration / (interval * second) * (interval * second) ≠ minDuration := by
    rw [← Int.mul_assoc]
    generalize minDuration / (interval * second) * interval = k
    unfold second minDuration
    omega
  omega

/-- So the time of the lowest occurrence wraps past every instant in its cell. -/
theorem lowest_wraps (sane : 60 ≤ interval ∧ interval ≤ 604800) :
    0 < wrap (interval * second * (minDuration / (interval * second))) := by
  have lowest := lowest_cell sane
  rw [Int.mul_comm (interval * second)]
  rw [Int.add_mul, Int.one_mul] at lowest
  generalize minDuration / (interval * second) * (interval * second) = product at *
  unfold second minDuration at lowest
  unfold wrap
  omega

theorem occurrenceTime_wrap (sane : 60 ≤ interval ∧ interval ≤ 604800) (n : Int) :
    Source.ScheduleMemory.occurrenceTime anchor interval n = anchor + wrap (interval * second * n) := by
  unfold Source.ScheduleMemory.occurrenceTime
  rw [wrap_period sane]

/-- An occurrence has been reached at the instant it is the number of, unless it is the
lowest one. -/
theorem reached_iff (sane : 60 ≤ interval ∧ interval ≤ 604800)
    (low : minDuration / (interval * second) * (interval * second) ≤ t - anchor)
    (high : t - anchor < (maxDuration / (interval * second) + 1) * (interval * second)) :
    Source.ScheduleMemory.occurrenceTime anchor interval ((t - anchor) / (interval * second)) ≤ t ↔
      (minDuration / (interval * second) + 1) * (interval * second) ≤ t - anchor := by
  have positive := period_pos sane
  have lowest := lowest_cell sane
  have highest := inCell_div positive maxDuration
  have inside := inCell_div positive (t - anchor)
  unfold InCell at highest inside
  rw [occurrenceTime_wrap sane]
  constructor
  · intro before
    by_contra under
    have number : (t - anchor) / (interval * second) = minDuration / (interval * second) :=
      ((inCell_iff positive).mp ⟨low, by omega⟩).symm
    have wraps := lowest_wraps sane
    have wrapped : anchor + wrap (interval * second * (minDuration / (interval * second))) ≤ t := by
      rwa [number] at before
    have negative : (minDuration / (interval * second) + 1) * (interval * second) ≤ 0 := by
      have sign := Int.ediv_lt_of_lt_mul positive (by unfold minDuration; omega : minDuration < 0 * (interval * second))
      exact Int.mul_nonpos_of_nonpos_of_nonneg (by omega) (Int.le_of_lt positive)
    omega
  · intro above
    rw [← Int.le_ediv_iff_mul_le positive] at above
    rw [← Int.ediv_lt_iff_lt_mul positive] at high
    have least : (minDuration / (interval * second) + 1) * (interval * second) ≤
        (t - anchor) / (interval * second) * (interval * second) :=
      Int.mul_le_mul_of_nonneg_right above (Int.le_of_lt positive)
    have most : (t - anchor) / (interval * second) * (interval * second) ≤
        maxDuration / (interval * second) * (interval * second) :=
      Int.mul_le_mul_of_nonneg_right (by omega) (Int.le_of_lt positive)
    have unwrapped := wrap_eq_iff.mpr (⟨by omega, by omega⟩ :
      minDuration ≤ (t - anchor) / (interval * second) * (interval * second) ∧
        (t - anchor) / (interval * second) * (interval * second) ≤ maxDuration)
    rw [Int.mul_comm, unwrapped]
    show anchor + (t - anchor) / (interval * second) * (interval * second) ≤ t
    omega

/-- The database counts the cells of whole microseconds, which are the same cells. -/
theorem dueAt_floor (sane : 60 ≤ interval ∧ interval ≤ 604800)
    (asked : requestedAnchor anchorAtMs = some anchor) (within : WithinDurations anchor interval t)
    {row : TaskRow} (length : row.intervalSeconds = interval) (place : row.anchorAt = micros anchor) :
    dueAt row (micros t) = (t - anchor) / (interval * second) := by
  have whole := requestedAnchor_micros asked
  have span : t / 1000 - anchor / 1000 = (t - anchor) / 1000 := by omega
  have around := lowest_cell sane
  have positive := period_pos sane
  have highest := inCell_div positive maxDuration
  unfold WithinDurations at within
  unfold InCell at highest
  simp only [Int.add_mul, Int.one_mul] at around within highest
  have step : 1000 * ((1000000 * row.intervalSeconds : Nat) : Int) = interval * second := by
    unfold second
    omega
  unfold dueAt
  rw [place]
  show epochQuotient (t / 1000 - anchor / 1000) row.intervalSeconds = _
  rw [span, epochQuotient_floor (by omega), Int.ediv_ediv_of_nonneg (by decide), step]
  unfold second minDuration maxDuration at *
  omega

/-- **The grid is exact where durations reach.** The number of an occurrence is the one cell of
the grid that the instant lies in, the database counts the same one, its time has come, and the
next one is due one interval after the last, exactly as long as the instant lies in a whole cell
that a duration from the anchor reaches and the distance of the next one is a duration. -/
theorem grid_exact_iff (asked : requestedAnchor anchorAtMs = some anchor)
    (sane : 60 ≤ interval ∧ interval ≤ 604800) :
    OnGrid anchor interval t last ↔
      WithinDurations anchor interval t ∧
        minDuration ≤ interval * second * (last + 1) ∧ interval * second * (last + 1) ≤ maxDuration := by
  have next : nextDueAt anchor interval last = anchor + interval * second * (last + 1) ↔
      minDuration ≤ interval * second * (last + 1) ∧ interval * second * (last + 1) ≤ maxDuration := by
    unfold nextDueAt
    rw [if_neg (by omega), wrap_period sane, wrap_mul_wrap, ← wrap_eq_iff]
    exact ⟨Int.add_left_cancel, congrArg (anchor + ·)⟩
  constructor
  · intro grid
    have floor : (t - anchor) / (interval * second) = Source.ScheduleMemory.occurrenceAt anchor interval t :=
      (grid.cell _).mp ((cell_iff sane _).mpr rfl)
    obtain ⟨low, high⟩ := (occurrenceAt_exact_iff sane).mp floor
    have reached := grid.reached
    rw [← floor] at reached
    exact ⟨⟨(reached_iff sane low high).mp reached, high⟩, next.mp grid.next⟩
  · rintro ⟨within, near⟩
    have low : minDuration / (interval * second) * (interval * second) ≤ t - anchor := by
      have lowest := lowest_cell sane
      have first := within.1
      omega
    have floor := (occurrenceAt_exact_iff sane).mpr ⟨low, within.2⟩
    refine ⟨?_, ?_, ?_, next.mpr near⟩
    · intro n
      rw [← floor]
      exact cell_iff sane n
    · intro row length place
      rw [← floor]
      exact dueAt_floor sane asked within length place
    · rw [← floor]
      exact (reached_iff sane low within.2).mpr within.1

/-- New Year 2026 on the hourly grid of the epoch. -/
theorem grid_of_the_epoch : OnGrid 0 3600 1767225600000000000 490896 := by
  have near : WithinDurations 0 3600 1767225600000000000 := ⟨by decide, by decide⟩
  exact (@grid_exact_iff 0 3600 1767225600000000000 490896 (some 0) (by decide) (by decide)).mpr
    ⟨near, by decide, by decide⟩

/-- An hourly grid anchored at the start of 1700 is 326 years long by 2026, and the elapsed time
stops at 292: the number is that of an hour of 1992. -/
theorem anchor_of_1700 :
    requestedAnchor (some (-8520336000000)) = some (-8520336000000000000) ∧
      Source.ScheduleMemory.occurrenceAt (-8520336000000000000) 3600 1767225600000000000 = 2562047 ∧
      ¬ OnGrid (-8520336000000000000) 3600 1767225600000000000 2562047 := by
  refine ⟨by decide, by decide, ?_⟩
  intro grid
  have number : 2857656 = Source.ScheduleMemory.occurrenceAt (-8520336000000000000) 3600
      1767225600000000000 := (grid.cell 2857656).mp (by decide)
  exact absurd number (by decide)

end Grid

end VodogeCloud.Guarantees.OccurrenceGrid
