import VodogeCloud.Guarantees.SettingsRoundTrip
import VodogeCloud.Guarantees.TenantHosts

/-!
# What the console sees of a secret

Two settings documents that differ in their secrets alone, through `Redact`
(apps/gateway/internal/settings/settings.go:419-431). A secret that is text is hidden. One
that is a number, a list or an object passes: `asString` reads it as empty, and no check
asks for its type before its channel is switched on.
-/

set_option autoImplicit false

namespace VodogeCloud.Guarantees.HiddenSecrets

open VodogeCloud.Lib.NestedMaps
open VodogeCloud.Source.Postgres VodogeCloud.Source.CommandRedaction VodogeCloud.Source.Settings
open VodogeCloud.Source.CardDelivery (anyFields)
open VodogeCloud.Guarantees.RedactedCopies VodogeCloud.Guarantees.SettingsRoundTrip
open VodogeCloud.Guarantees.TenantHosts (asciiCasing)

/-- Some Go map stands for the document. -/
def IsDocument (document : Document) : Prop :=
  ∃ heap ref, Reads (· < heap.length) heap (.map ref) (.obj document)

/-- The documents are one once the values at the secret paths are blanked. -/
def SameOutside (section_ : String) (a b : Document) : Prop :=
  json.adjustAll (fun _ => some .null) (secretPaths section_) a =
    json.adjustAll (fun _ => some .null) (secretPaths section_) b

instance (section_ : String) (a b : Document) : Decidable (SameOutside section_ a b) :=
  inferInstanceAs (Decidable (_ = _))

/-- At a path, the documents hold the same, or each a text that is not empty. -/
def HiddenAt (path : String) (a b : Document) : Prop :=
  lookup a path = lookup b path ∨ asString (lookup a path) ≠ "" ∧ asString (lookup b path) ≠ ""

/-- What `Redact` shows of what stands at a path. -/
def shown (value : Jsonb) : Jsonb := (conceal value).getD value

theorem asString_shown (value : Jsonb) : asString (some (shown value)) = "" ↔ asString (some value) = "" := by
  unfold shown conceal
  by_cases blank : asString (some value) = ""
  · rw [if_neg (not_not_intro blank), Option.getD_none]
  · rw [if_pos blank, Option.getD_some]
    exact iff_of_false redacted_some blank

theorem shown_eq_iff (a b : Jsonb) :
    shown a = shown b ↔ a = b ∨ asString (some a) ≠ "" ∧ asString (some b) ≠ "" := by
  by_cases blankA : asString (some a) = ""
  · by_cases blankB : asString (some b) = ""
    · unfold shown conceal
      rw [if_neg (not_not_intro blankA), if_neg (not_not_intro blankB), Option.getD_none, Option.getD_none]
      exact ⟨Or.inl, fun h => h.elim id fun both => absurd blankA both.1⟩
    · refine iff_of_false (fun same => ?_) ?_
      · exact blankB ((asString_shown b).mp (same ▸ (asString_shown a).mpr blankA))
      · rintro (rfl | both)
        · exact blankB blankA
        · exact both.1 blankA
  · by_cases blankB : asString (some b) = ""
    · refine iff_of_false (fun same => ?_) ?_
      · exact blankA ((asString_shown a).mp (same ▸ (asString_shown b).mpr blankB))
      · rintro (rfl | both)
        · exact blankA blankB
        · exact both.2 blankB
    · unfold shown conceal
      rw [if_pos blankA, if_pos blankB]
      exact iff_of_true rfl (Or.inr ⟨blankA, blankB⟩)

/-- Blanked at the paths, two documents have something at the same ones. -/
theorem isSome_of_sameOutside {section_ : String} {a b : Document} (outside : SameOutside section_ a b) {keys : List String}
    (member : keys ∈ secretPaths section_) : (json.lookup keys a).isSome = (json.lookup keys b).isSome := by
  have reads := fun document : Document => @lookup_adjustAll String Jsonb _ json (fun _ => some .null) keys document
    (secretPaths section_) (secretPaths_some section_) (secretPaths_apart section_) member
  have same := congrArg (fun document => (json.lookup keys document).isSome) outside
  simp only [reads, Option.isSome_map] at same
  exact same

theorem mem_secretPaths {section_ path : String} (member : path ∈ (secretFields section_).getD []) :
    keysOf path ∈ secretPaths section_ := List.mem_map_of_mem member

/-- The documents read the same at a secret path once they are redacted. -/
theorem lookup_shown_iff {section_ path : String} {a b : Document} (outside : SameOutside section_ a b)
    (member : path ∈ (secretFields section_).getD []) :
    (lookup a path).map shown = (lookup b path).map shown ↔ HiddenAt path a b := by
  have there := isSome_of_sameOutside outside (mem_secretPaths member)
  unfold HiddenAt lookup
  cases heldA : json.lookup (keysOf path) a with
  | none =>
    rw [heldA, Option.isSome_none] at there
    have heldB : json.lookup (keysOf path) b = none := by
      rw [← Option.isNone_iff_eq_none, ← Option.not_isSome, ← there]
      rfl
    rw [heldB]
    exact iff_of_true rfl (Or.inl rfl)
  | some value =>
    rw [heldA, Option.isSome_some] at there
    obtain ⟨other, heldB⟩ := Option.isSome_iff_exists.mp there.symm
    rw [heldB, Option.map_some, Option.map_some, Option.some.injEq, Option.some.injEq]
    exact shown_eq_iff value other

/-- Two stored documents of a section that differ in their secrets alone are redacted to one
document exactly where each secret in which they differ is a text in both, and not empty. -/
theorem redact_same_iff (floats : Floats) (section_ : String) (rawA rawB a b : Document)
    (decodedA : anyFields floats.number rawA = some a) (decodedB : anyFields floats.number rawB = some b)
    (isA : IsDocument a) (isB : IsDocument b) (outside : SameOutside section_ a b) :
    redact floats.number section_ a = redact floats.number section_ b ↔
      ∀ path ∈ (secretFields section_).getD [], HiddenAt path a b := by
  have some_ := secretPaths_some section_
  have apart := secretPaths_apart section_
  have reads : ∀ (document : Document) (path : String), path ∈ (secretFields section_).getD [] →
      json.lookup (keysOf path) (json.adjustAll conceal (secretPaths section_) document) = (lookup document path).map shown :=
    fun document path member => lookup_adjustAll some_ apart (mem_secretPaths member)
  rw [redact_decoded decodedA, redact_decoded decodedB]
  constructor
  · intro same path member
    rw [← lookup_shown_iff outside member, ← reads a path member, same, reads b path member]
  · intro hidden
    have distinct : ∀ document : Document, IsDocument document → ∀ keys ∈ secretPaths section_,
        json.Distinct keys (json.adjustAll conceal (secretPaths section_) document) := by
      rintro document ⟨heap, ref, stands⟩ keys member
      exact distinct_adjustAll (fun other inPaths => apart_of_mem apart member inPaths) (distinct_of_reads keys stands)
    refine eq_of_blanked some_ apart (distinct a isA) (distinct b isB) .null ?_ ?_
    · rw [adjustAll_const_adjustAll some_ apart, adjustAll_const_adjustAll some_ apart]
      exact outside
    · intro keys member
      obtain ⟨path, listed, rfl⟩ := List.mem_map.mp member
      rw [reads a path listed, reads b path listed]
      exact (lookup_shown_iff outside listed).mpr (hidden path listed)

/-! ## Inputs -/

def asciiTexts : Texts := ⟨asciiCasing, id⟩

/-- A document whose webhook secret is the value. -/
def withSecret (value : Jsonb) : Document := [("webhook", .obj [("enabled", .bool false), ("secret", value)])]

theorem withSecret_isDocument {value : Jsonb} (scalar : isScalar value = true) : IsDocument (withSecret value) := by
  refine ⟨[.map [("enabled", .plain (.bool false)), ("secret", .plain value)], .map [("webhook", .map 0)]], 1, ?_⟩
  unfold Reads
  refine ⟨by simp, _, rfl, by simp, rfl, ?_, trivial⟩
  unfold Reads
  refine ⟨by simp, _, rfl, by simp, rfl, ?_, rfl, ?_, trivial⟩
  · unfold Reads
    exact ⟨rfl, rfl⟩
  · unfold Reads
    exact ⟨rfl, scalar⟩

theorem text_secrets_hidden :
    redact some "notifications" (withSecret (.str "a")) = redact some "notifications" (withSecret (.str "b")) :=
  (redact_same_iff ⟨some, fun h => by rw [← Option.some.inj h]⟩ "notifications" (withSecret (.str "a"))
    (withSecret (.str "b")) (withSecret (.str "a")) (withSecret (.str "b")) (by decide +kernel) (by decide +kernel)
    (withSecret_isDocument rfl) (withSecret_isDocument rfl) (by decide +kernel)).mpr (by
      unfold HiddenAt
      decide +kernel)

/-- A number saved as the secret is shown. -/
theorem number_secret_shown :
    (validate asciiTexts "notifications" (withSecret (.num 12345)) = .ok (withSecret (.num 12345)) ∧
      validate asciiTexts "notifications" (withSecret (.num 67890)) = .ok (withSecret (.num 67890))) ∧
    SameOutside "notifications" (withSecret (.num 12345)) (withSecret (.num 67890)) ∧
    ¬ redact some "notifications" (withSecret (.num 12345)) = redact some "notifications" (withSecret (.num 67890)) := by
  refine ⟨⟨rfl, rfl⟩, by decide +kernel, by decide +kernel⟩

end VodogeCloud.Guarantees.HiddenSecrets
