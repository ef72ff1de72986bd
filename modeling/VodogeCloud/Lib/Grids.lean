import Mathlib.Tactic.Ring
import Mathlib.Tactic.Common

/-!
# The cells of a grid

A positive step cuts the integers into cells `[n * step, (n + 1) * step)`. The number of
the cell of `x` is the floor of `x / step`, and that is what is computed by a quotient that
truncates and is then corrected, by a difference that was clamped to a range (as long as
both ends leave `x` in its cell), and by a quotient that is rounded to a fixed number of
digits first (as long as a digit is finer than the step allows).
-/

set_option autoImplicit false

namespace VodogeCloud.Lib.Grids

/-- `x` lies in the cell numbered `n`. -/
def InCell (step x n : Int) : Prop := n * step ≤ x ∧ x < (n + 1) * step

theorem inCell_iff {step x n : Int} (positive : 0 < step) : InCell step x n ↔ n = x / step := by
  unfold InCell
  rw [← Int.le_ediv_iff_mul_le positive, ← Int.ediv_lt_iff_lt_mul positive]
  omega

theorem inCell_div {step : Int} (positive : 0 < step) (x : Int) : InCell step x (x / step) :=
  (inCell_iff positive).mpr rfl

/-- A truncated quotient, one less where a negative number is no multiple. -/
theorem tdiv_floor {step : Int} (positive : 0 < step) (x : Int) :
    (if x < 0 ∧ x.tmod step ≠ 0 then x.tdiv step - 1 else x.tdiv step) = x / step := by
  have multiple := @Int.dvd_iff_tmod_eq_zero step x
  rw [Int.tdiv_eq_ediv, Int.sign_eq_one_of_pos positive]
  by_cases negative : x < 0
  · by_cases exact_ : step ∣ x
    · rw [if_neg (fun both => both.2 (multiple.mp exact_)), if_pos (Or.inr exact_), Int.add_zero]
    · rw [if_pos ⟨negative, fun zero => exact_ (multiple.mpr zero)⟩, if_neg (by omega)]
      omega
  · rw [if_neg (fun both => negative both.1), if_pos (Or.inl (by omega)), Int.add_zero]

/-- `x` where it lies between the ends, and the nearer end elsewhere. -/
def clamp (low high x : Int) : Int := max low (min high x)

/-- Clamping keeps the cell exactly from the first cell that the ends reach to the last. -/
theorem clamp_div_iff {low high step x : Int} (positive : 0 < step) (ordered : low ≤ high) :
    clamp low high x / step = x / step ↔
      low / step * step ≤ x ∧ x < (high / step + 1) * step := by
  have lowest := inCell_div positive low
  have highest := inCell_div positive high
  unfold InCell at lowest highest
  rw [← Int.le_ediv_iff_mul_le positive, ← Int.ediv_lt_iff_lt_mul positive]
  unfold clamp
  rcases Int.lt_or_le x low with below | inside
  · have down := Int.ediv_le_ediv positive (Int.le_of_lt below)
    have across := Int.ediv_le_ediv positive ordered
    rw [max_eq_left (by omega)]
    omega
  · rcases Int.lt_or_le high x with above | within
    · have up := Int.ediv_le_ediv positive (Int.le_of_lt above)
      have across := Int.ediv_le_ediv positive ordered
      rw [min_eq_left (Int.le_of_lt above), max_eq_right ordered]
      omega
    · have up := Int.ediv_le_ediv positive within
      have down := Int.ediv_le_ediv positive inside
      rw [min_eq_right within, max_eq_right inside]
      omega

/-! ## Rounding to a fixed number of digits first -/

/-- The rounded quotient in units of a digit: whole steps, and what rounding leaves of the
rest. -/
theorem rounded_eq {count whole unit : Nat} (positive : 0 < whole) (fine : whole < 2 * unit) :
    ∃ rest, (2 * count * unit + whole) / (2 * whole) = count / whole * unit + rest ∧ rest < unit ∧
      (rest = 0 ↔ count % whole = 0) := by
  have less := Nat.mod_lt count positive
  have parts := Nat.div_add_mod count whole
  generalize count / whole = quotient at *
  generalize count % whole = remainder at *
  have split_ : 2 * count * unit + whole =
      2 * remainder * unit + whole + 2 * whole * (quotient * unit) := by
    rw [← parts]
    ring
  refine ⟨(2 * remainder * unit + whole) / (2 * whole), ?_, ?_, ?_⟩
  · rw [split_, Nat.add_mul_div_left _ _ (by omega), Nat.add_comm]
  · rw [Nat.div_lt_iff_lt_mul (by omega)]
    have most : (remainder + 1) * unit ≤ whole * unit := Nat.mul_le_mul_right _ less
    have spread : 2 * remainder * unit + 2 * unit = 2 * ((remainder + 1) * unit) := by ring
    have swap : unit * (2 * whole) = 2 * (whole * unit) := by ring
    omega
  · rw [Nat.div_eq_zero_iff_lt (by omega)]
    constructor
    · intro small
      by_contra some_
      have one : 1 * unit ≤ remainder * unit := Nat.mul_le_mul_right _ (by omega)
      have swap : 2 * remainder * unit = 2 * (remainder * unit) := by ring
      omega
    · rintro rfl
      omega

theorem rounded_floor {count whole unit : Nat} (positive : 0 < whole) (fine : whole < 2 * unit) :
    (2 * count * unit + whole) / (2 * whole) / unit = count / whole := by
  obtain ⟨rest, rounded, less, _⟩ := @rounded_eq count whole unit positive fine
  rw [rounded, Nat.add_comm, Nat.add_mul_div_right _ _ (by omega), Nat.div_eq_of_lt less, Nat.zero_add]

theorem rounded_ceil {count whole unit : Nat} (positive : 0 < whole) (fine : whole < 2 * unit) :
    ((2 * count * unit + whole) / (2 * whole) + unit - 1) / unit = (count + whole - 1) / whole := by
  obtain ⟨rest, rounded, less, exact_⟩ := @rounded_eq count whole unit positive fine
  have parts := Nat.div_add_mod count whole
  have smaller := Nat.mod_lt count positive
  rw [rounded]
  generalize count / whole = quotient at *
  generalize count % whole = remainder at *
  by_cases none_ : remainder = 0
  · have whole_ : rest = 0 := exact_.mpr none_
    subst none_ whole_
    have left_ : quotient * unit + 0 + unit - 1 = unit - 1 + quotient * unit := by omega
    have right_ : count + whole - 1 = whole - 1 + quotient * whole := by
      rw [← parts, Nat.mul_comm]
      omega
    rw [left_, right_, Nat.add_mul_div_right _ _ (by omega), Nat.add_mul_div_right _ _ positive,
      Nat.div_eq_of_lt (by omega), Nat.div_eq_of_lt (by omega)]
  · have some_ : rest ≠ 0 := fun zero => none_ (exact_.mp zero)
    have left_ : quotient * unit + rest + unit - 1 = rest - 1 + (quotient + 1) * unit := by
      rw [Nat.add_mul]
      omega
    have right_ : count + whole - 1 = remainder - 1 + (quotient + 1) * whole := by
      rw [← parts, Nat.mul_comm, Nat.add_mul]
      omega
    rw [left_, right_, Nat.add_mul_div_right _ _ (by omega), Nat.add_mul_div_right _ _ positive,
      Nat.div_eq_of_lt (by omega), Nat.div_eq_of_lt (by omega)]

end VodogeCloud.Lib.Grids
