import Mathlib.Data.Char
import Mathlib.Data.List.DropRight
import VodogeCloud.Source.ServeDevice

/-!
# Trimmed texts

What `strings.TrimSpace` leaves of a text: nothing of one that is white space only, and all
of one that has none at either end.
-/

set_option autoImplicit false

namespace VodogeCloud.Guarantees.TrimmedTexts

open VodogeCloud.Source.ServeDevice (trimSpace isSpace)

theorem trimSpace_toList (text : String) :
    (trimSpace text).toList = (text.toList.dropWhile isSpace).rdropWhile isSpace := by
  unfold trimSpace
  rw [String.toList_ofList]
  rfl

theorem trimSpace_trimSpace (text : String) : trimSpace (trimSpace text) = trimSpace text := by
  rw [← String.toList_inj, trimSpace_toList, trimSpace_toList]
  generalize cut : text.toList.dropWhile isSpace = rest
  have front : (rest.rdropWhile isSpace).dropWhile isSpace = rest.rdropWhile isSpace := by
    rw [List.dropWhile_eq_self_iff]
    intro filled
    have front := List.rdropWhile_prefix isSpace rest
    have long : 0 < rest.length := lt_of_lt_of_le filled front.length_le
    rw [front.getElem filled]
    subst cut
    exact List.dropWhile_get_zero_not isSpace _ long
  rw [front, List.rdropWhile_idempotent]

/-- What trimming leaves was there before. -/
theorem trimSpace_subset {text : String} {c : Char} (member : c ∈ (trimSpace text).toList) : c ∈ text.toList := by
  rw [trimSpace_toList] at member
  exact (List.dropWhile_suffix _).subset ((List.rdropWhile_prefix _ _).subset member)

/-- A kind of characters up to `z` that has none of the narrow spaces has no space. -/
theorem not_space_of_narrow {kind : Char → Bool} {c : Char} (of_kind : kind c = true) (narrow : c ≤ 'z')
    (apart : ([' ', '\t', '\n', '\x0b', '\x0c', '\r', '\u0085', '\u00a0', '\u1680', '\u2028', '\u2029',
      '\u202f', '\u205f', '\u3000'].all fun x => !kind x) = true) : isSpace c = false := by
  by_contra space
  rw [Bool.not_eq_false] at space
  unfold isSpace at space
  rcases Bool.or_eq_true_iff.mp space with known | wide
  · have plain := List.all_eq_true.mp apart c (List.contains_iff_mem.mp known)
    rw [of_kind] at plain
    cases plain
  · obtain ⟨low, _⟩ := Bool.and_eq_true_iff.mp wide
    exact absurd (le_trans (of_decide_eq_true low) narrow) (by decide)

theorem digit_not_space {c : Char} (digit : c.isDigit = true) : isSpace c = false := by
  have narrow : c ≤ '9' := by
    unfold Char.isDigit at digit
    simp only [ge_iff_le, Bool.and_eq_true, decide_eq_true_eq] at digit
    exact digit.2
  exact not_space_of_narrow digit (le_trans narrow (by decide)) rfl

theorem trimSpace_digits {text : String} (plain : text.toList.all Char.isDigit = true) : trimSpace text = text := by
  have kept : ∀ c ∈ text.toList, ¬ isSpace c = true := by
    intro c member
    rw [digit_not_space (List.all_eq_true.mp plain c member)]
    decide
  rw [← String.toList_inj, trimSpace_toList]
  have front : text.toList.dropWhile isSpace = text.toList := by
    rw [List.dropWhile_eq_self_iff]
    exact fun filled => kept _ (List.getElem_mem filled)
  rw [front, List.rdropWhile_eq_self_iff]
  exact fun filled => kept _ (List.getLast_mem filled)

/-- Nothing is left exactly of white space. -/
theorem trimSpace_eq_empty_iff {text : String} : trimSpace text = "" ↔ ∀ c ∈ text.toList, isSpace c = true := by
  rw [← String.toList_inj, trimSpace_toList, String.toList_empty]
  constructor
  · intro nothing c member
    rw [List.rdropWhile_eq_nil_iff] at nothing
    by_contra solid
    have kept : c ∈ text.toList.dropWhile isSpace := by
      have split := List.takeWhile_append_dropWhile (p := isSpace) (l := text.toList)
      rw [← split, List.mem_append] at member
      exact member.resolve_left fun front => solid (List.mem_takeWhile_imp front)
    exact solid (nothing c kept)
  · intro space
    rw [List.dropWhile_eq_nil_iff.mpr space]
    rfl

theorem trimSpace_empty : trimSpace "" = "" := trimSpace_eq_empty_iff.mpr (by simp)

end VodogeCloud.Guarantees.TrimmedTexts
