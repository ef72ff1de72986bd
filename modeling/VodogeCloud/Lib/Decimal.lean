import Mathlib.Tactic.Common

/-!
# Numbers in decimal digits

The text of a natural number consists of digits and determines the number; the text
of an integer determines it too.
-/

set_option autoImplicit false

namespace VodogeCloud.Lib.Decimal

theorem toList_natText (n : Nat) : (toString n).toList = Nat.toDigits 10 n := Nat.toList_repr

theorem isDigit_of_mem_natText {n : Nat} {c : Char} (member : c ∈ (toString n).toList) :
    c.isDigit = true := by
  rw [toList_natText] at member
  exact Nat.isDigit_of_mem_toDigits (by decide) (by decide) member

theorem natText_ne_nil (n : Nat) : (toString n).toList ≠ [] := by
  rw [toList_natText]
  exact Nat.toDigits_ne_nil

/-- The value a reader gives to digits. -/
theorem value_natText (n : Nat) :
    (toString n).toList.foldl (fun value digit => value * 10 + (digit.toNat - '0'.toNat)) 0 = n := by
  have read := @Nat.ofDigitChars_ten_toDigits n
  rw [Nat.ofDigitChars_eq_foldl] at read
  rw [toList_natText]
  simpa only [Nat.mul_comm 10] using read

theorem natText_injective {a b : Nat} (same : toString a = toString b) : a = b := by
  rw [← value_natText a, ← value_natText b, same]

theorem intText_injective {a b : Int} (same : toString a = toString b) : a = b := by
  have minus : ∀ n m : Nat, toString n ≠ "-" ++ toString m := by
    intro n m equal
    have first : '-' ∈ (toString n).toList := by
      rw [equal, String.toList_append]
      exact List.mem_append_left _ (by decide)
    have digit := isDigit_of_mem_natText first
    revert digit
    decide
  cases a with
  | ofNat n =>
    cases b with
    | ofNat m => exact congrArg Int.ofNat (natText_injective same)
    | negSucc m => exact absurd same (minus n (m + 1))
  | negSucc n =>
    cases b with
    | ofNat m => exact absurd same.symm (minus m (n + 1))
    | negSucc m =>
      have texts : "-" ++ toString (n + 1) = "-" ++ toString (m + 1) := same
      have lists := congrArg String.toList texts
      rw [String.toList_append, String.toList_append, List.append_cancel_left_eq] at lists
      have numbers := natText_injective (String.toList_inj.mp lists)
      rw [Nat.succ.inj numbers]

/-- Two lists of digits before the same other character are cut at it. -/
theorem digits_append_inj {a b rest rest' : List Char} {mark : Char}
    (digitsA : ∀ c ∈ a, c.isDigit = true) (digitsB : ∀ c ∈ b, c.isDigit = true)
    (other : mark.isDigit = false) (same : a ++ mark :: rest = b ++ mark :: rest') :
    a = b ∧ rest = rest' := by
  induction a generalizing b with
  | nil =>
    cases b with
    | nil => exact ⟨rfl, (List.cons.inj same).2⟩
    | cons first others =>
      have digit := digitsB first List.mem_cons_self
      rw [← (List.cons.inj same).1, other] at digit
      cases digit
  | cons head tail ih =>
    cases b with
    | nil =>
      have digit := digitsA head List.mem_cons_self
      rw [(List.cons.inj same).1, other] at digit
      cases digit
    | cons first others =>
      obtain ⟨rfl, later⟩ := List.cons.inj same
      obtain ⟨tails, rests⟩ := ih (fun c member => digitsA c (List.mem_cons_of_mem _ member))
        (fun c member => digitsB c (List.mem_cons_of_mem _ member)) later
      exact ⟨by rw [tails], rests⟩

end VodogeCloud.Lib.Decimal
