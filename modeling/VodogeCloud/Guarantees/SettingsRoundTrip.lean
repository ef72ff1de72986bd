import VodogeCloud.Guarantees.SettingsCopies

/-!
# Saving back what was shown

`Merge` after `Redact` (apps/gateway/internal/settings/settings.go:419-503). The six secret
paths of the notifications lead to different places, so a turn of either loop concerns the
other paths not at all.
-/

set_option autoImplicit false

namespace VodogeCloud.Guarantees.SettingsRoundTrip

open VodogeCloud.Lib.NestedMaps
open VodogeCloud.Source.Postgres VodogeCloud.Source.CommandRedaction VodogeCloud.Source.Settings
open VodogeCloud.Source.CardDelivery (anyOf anyFields anyItems)
open VodogeCloud.Guarantees.RedactedCopies VodogeCloud.Guarantees.SettingsCopies

/-! ## The secret paths -/

/-- The secrets of a section, as keys. -/
def secretPaths (section_ : String) : List (List String) := ((secretFields section_).getD []).map keysOf

theorem secretPaths_apart (section_ : String) : (secretPaths section_).Pairwise Apart := by
  unfold secretPaths secretFields
  split
  · decide
  · exact List.Pairwise.nil

theorem secretPaths_some (section_ : String) : [] ∉ secretPaths section_ := by
  unfold secretPaths secretFields
  split
  · decide
  · exact List.not_mem_nil

/-! ## Decoded documents -/

mutual

/-- A decoded value passes the encoder and the decoder unchanged. -/
theorem anyOf_stable (floats : Floats) : ∀ (raw : Jsonb) {value : Jsonb}, anyOf floats.number raw = some value →
    anyOf floats.number value = some value
  | .null, _, read | .bool _, _, read | .str _, _, read => by
    rw [anyOf, Option.some.injEq] at read
    rw [← read, anyOf]
  | .num q, _, read => by
    rw [anyOf, Option.map_eq_some_iff] at read
    obtain ⟨number, read, rfl⟩ := read
    rw [anyOf, floats.stable read, Option.map_some]
  | .arr items, _, read => by
    rw [anyOf, Option.map_eq_some_iff] at read
    obtain ⟨values, read, rfl⟩ := read
    rw [anyOf, anyItems_stable floats items read, Option.map_some]
  | .obj fields, _, read => by
    rw [anyOf, Option.map_eq_some_iff] at read
    obtain ⟨values, read, rfl⟩ := read
    rw [anyOf, anyFields_stable floats fields read, Option.map_some]

theorem anyItems_stable (floats : Floats) : ∀ (raw : List Jsonb) {values : List Jsonb},
    anyItems floats.number raw = some values → anyItems floats.number values = some values
  | [], _, read => by
    rw [anyItems, Option.some.injEq] at read
    rw [← read, anyItems]
  | item :: rest, _, read => by
    rw [anyItems] at read
    obtain ⟨value, first, read⟩ := Option.bind_eq_some_iff.mp read
    obtain ⟨values, later, same⟩ := Option.bind_eq_some_iff.mp read
    cases same
    rw [anyItems, anyOf_stable floats item first, anyItems_stable floats rest later]
    rfl

theorem anyFields_stable (floats : Floats) : ∀ (raw : List (String × Jsonb)) {values : List (String × Jsonb)},
    anyFields floats.number raw = some values → anyFields floats.number values = some values
  | [], _, read => by
    rw [anyFields, Option.some.injEq] at read
    rw [← read, anyFields]
  | (key, item) :: rest, _, read => by
    rw [anyFields] at read
    obtain ⟨value, first, read⟩ := Option.bind_eq_some_iff.mp read
    obtain ⟨values, later, same⟩ := Option.bind_eq_some_iff.mp read
    cases same
    rw [anyFields, anyOf_stable floats item first, anyFields_stable floats rest later]
    rfl

end

theorem deepCopy_decoded {floats : Floats} {raw document : Document} (decoded : anyFields floats.number raw = some document) :
    deepCopy floats.number document = document := by
  rw [deepCopy, anyFields_stable floats raw decoded, Option.getD_some]

/-- Along any path, the maps of a document that a Go value stands for have each key once. -/
theorem distinct_of_reads {allowed : Nat → Prop} {heap : Heap} : ∀ (keys : List String) {ref : Nat} {document : Document},
    Reads allowed heap (.map ref) (.obj document) → json.Distinct keys document
  | [], _, _, _ => trivial
  | key :: rest, ref, document, reads => by
    obtain ⟨distinct, each⟩ := reads_map reads
    refine ⟨by rwa [← fields_names each], fun inner inside => ?_⟩
    rcases readsFields_get key each with ⟨_, absent⟩ | ⟨value, held, _, stood, readsHeld⟩
    · rw [Nest.into, absent] at inside
      cases inside
    · rw [Nest.into, stood, Option.bind_some] at inside
      rcases asMap_of_reads readsHeld with ⟨flat, _⟩ | ⟨deeper, fields, rfl, rfl⟩
      · rw [show json.fields held = asMap held from rfl, flat] at inside
        cases inside
      · cases inside
        exact distinct_of_reads rest readsHeld

/-! ## The loops -/

/-- What `Redact` makes of a value under a secret path; none leaves it. -/
def conceal (value : Jsonb) : Option Jsonb := if asString (some value) ≠ "" then some (.str redacted) else none

theorem redactPath_eq (clone : Document) (path : String) : redactPath clone path = json.adjust conceal (keysOf path) clone := by
  unfold redactPath lookup Nest.adjust
  cases json.lookup (keysOf path) clone with
  | none => rfl
  | some value =>
    rw [Option.bind_some, conceal]
    dsimp only
    split
    · rfl
    · rfl

theorem redact_eq (number : Rat → Option Rat) (section_ : String) (document : Document) :
    redact number section_ document =
      match secretFields section_ with
      | none => document
      | some _ => json.adjustAll conceal (secretPaths section_) (deepCopy number document) := by
  unfold redact secretPaths
  cases secretFields section_ with
  | none => rfl
  | some paths =>
    dsimp only
    rw [Option.getD_some, Nest.adjustAll, List.foldl_map]
    exact congrArg (fun turn => paths.foldl turn _) (funext₂ redactPath_eq)

theorem redact_decoded {floats : Floats} {raw document : Document} (decoded : anyFields floats.number raw = some document)
    (section_ : String) :
    redact floats.number section_ document = json.adjustAll conceal (secretPaths section_) document := by
  rw [redact_eq]
  cases known : secretFields section_ with
  | none =>
    rw [secretPaths, known]
    rfl
  | some paths => rw [deepCopy_decoded decoded]

theorem redacted_some : redacted ≠ "" := by decide

theorem placeholder_iff (value : Jsonb) : asString (some value) = redacted ↔ value = .str redacted := by
  constructor
  · intro same
    cases value with
    | str text => exact congrArg Jsonb.str same
    | _ => exact absurd same.symm redacted_some
  · rintro rfl
    rfl

/-- `Merge` reads what stands at the path; a placeholder is what was stored, or nothing. -/
theorem lookup_mergePath_self {stored incoming : Document} {path : String} (some_ : keysOf path ≠ [])
    (shown : lookup incoming path = some (.str redacted)) :
    lookup (mergePath stored incoming path) path = lookup stored path := by
  rw [mergePath, shown]
  dsimp only
  rw [if_neg (not_not_intro ((placeholder_iff _).mpr rfl))]
  cases held : lookup stored path with
  | none => exact lookup_unset_self _ _
  | some previous => exact lookup_set_self some_ _ _

theorem mergePath_of_other {stored incoming : Document} {path : String}
    (other : lookup incoming path ≠ some (.str redacted)) : mergePath stored incoming path = incoming := by
  unfold mergePath
  cases held : lookup incoming path with
  | none => rfl
  | some value =>
    dsimp only
    rw [if_pos]
    intro placeholder
    rw [held, (placeholder_iff value).mp placeholder] at other
    exact other rfl

theorem lookup_mergePath_apart {stored incoming : Document} {path : String} {keys : List String}
    (apart : lookup incoming path = some (.str redacted) → Apart (keysOf path) keys) :
    json.lookup keys (mergePath stored incoming path) = json.lookup keys incoming := by
  by_cases shown : lookup incoming path = some (.str redacted)
  · rw [mergePath, shown]
    dsimp only
    rw [if_neg (not_not_intro ((placeholder_iff _).mpr rfl))]
    cases held : lookup stored path with
    | none => exact lookup_unset_apart (apart shown) _
    | some previous => exact lookup_set_apart (apart shown) _ _
  · rw [mergePath_of_other shown]

/-- The loop leaves every place that no placeholder is at, above or below. -/
theorem lookup_merge_apart {stored : Document} {keys : List String} : ∀ {paths : List String} {incoming : Document},
    (paths.map keysOf).Pairwise Apart →
      (∀ path ∈ paths, lookup incoming path = some (.str redacted) → Apart (keysOf path) keys) →
      json.lookup keys (paths.foldl (mergePath stored) incoming) = json.lookup keys incoming
  | [], _, _, _ => rfl
  | path :: rest, incoming, apart, clear => by
    rw [List.map_cons, List.pairwise_cons] at apart
    rw [List.foldl_cons, lookup_merge_apart apart.2]
    · exact lookup_mergePath_apart (clear path List.mem_cons_self)
    · intro other member shown
      have first := apart.1 _ (List.mem_map_of_mem member)
      rw [lookup, lookup_mergePath_apart fun _ => first] at shown
      exact clear other (List.mem_cons_of_mem _ member) shown

/-- Where a placeholder stands, the loop leaves what is stored. -/
theorem lookup_merge_placeholder {stored : Document} {path : String} : ∀ {paths : List String} {incoming : Document},
    (paths.map keysOf).Pairwise Apart → [] ∉ paths.map keysOf → path ∈ paths →
      lookup incoming path = some (.str redacted) →
      lookup (paths.foldl (mergePath stored) incoming) path = lookup stored path
  | first :: rest, incoming, apart, some_, member, shown => by
    rw [List.map_cons, List.pairwise_cons] at apart
    rw [List.map_cons, List.mem_cons, not_or] at some_
    rw [List.foldl_cons]
    rcases List.mem_cons.mp member with rfl | later
    · rw [lookup, lookup_merge_apart apart.2]
      · exact lookup_mergePath_self (Ne.symm some_.1) shown
      · exact fun other inRest _ => (apart.1 _ (List.mem_map_of_mem inRest)).symm
    · refine lookup_merge_placeholder apart.2 some_.2 later ?_
      rw [lookup, lookup_mergePath_apart fun _ => apart.1 _ (List.mem_map_of_mem later)]
      exact shown

/-- Over what `Redact` shows, the loop of `Merge` puts back what is stored. -/
theorem merge_shown {stored : Document} : ∀ {paths : List String} {incoming : Document},
    (paths.map keysOf).Pairwise Apart → [] ∉ paths.map keysOf →
      (∀ keys ∈ paths.map keysOf, json.Distinct keys incoming) →
      (∀ path ∈ paths, lookup incoming path =
        (lookup stored path).map fun value => (conceal value).getD value) →
      paths.foldl (mergePath stored) incoming = json.restoreAll stored (paths.map keysOf) incoming
  | [], _, _, _, _, _ => rfl
  | path :: rest, incoming, apart, some_, distinct, shown => by
    rw [List.map_cons, List.pairwise_cons] at apart
    rw [List.map_cons, List.mem_cons, not_or] at some_
    rw [List.map_cons] at distinct
    have turn : mergePath stored incoming path = json.restore stored (keysOf path) incoming := by
      have here := shown path List.mem_cons_self
      unfold Nest.restore
      cases held : json.lookup (keysOf path) stored with
      | none =>
        rw [lookup, lookup, held, Option.map_none] at here
        rw [mergePath, lookup, here]
      | some value =>
        rw [lookup, lookup, held, Option.map_some] at here
        unfold conceal at here
        by_cases blank : asString (some value) = ""
        · rw [if_neg (not_not_intro blank), Option.getD_none] at here
          rw [mergePath, lookup, here]
          dsimp only
          rw [if_pos (by rw [blank]; exact Ne.symm redacted_some), set_held (distinct _ List.mem_cons_self) here]
        · rw [if_pos blank, Option.getD_some] at here
          rw [mergePath, lookup, here, lookup, held]
          dsimp only
          rw [if_neg (not_not_intro ((placeholder_iff _).mpr rfl))]
          rfl
    rw [List.foldl_cons, List.map_cons, restoreAll_cons, turn]
    refine merge_shown apart.2 some_.2 ?_ ?_
    · intro keys member
      unfold Nest.restore
      split
      · exact distinct_set (Or.inr (apart.1 keys member).symm) _ (distinct keys (List.mem_cons_of_mem _ member))
      · exact distinct keys (List.mem_cons_of_mem _ member)
    · intro other member
      rw [← shown other (List.mem_cons_of_mem _ member), lookup, lookup, Nest.restore]
      split
      · exact lookup_set_apart (apart.1 _ (List.mem_map_of_mem member)) _ _
      · rfl

/-- `Merge` undoes `Redact`. -/
theorem merge_redact {floats : Floats} {raw document : Document} (decoded : anyFields floats.number raw = some document)
    {allowed : Nat → Prop} {heap : Heap} {ref : Nat} (reads : Reads allowed heap (.map ref) (.obj document))
    (section_ : String) : merge section_ (redact floats.number section_ document) document = document := by
  have distinct : ∀ keys ∈ secretPaths section_, json.Distinct keys document :=
    fun keys _ => distinct_of_reads keys reads
  have apart := secretPaths_apart section_
  have some_ := secretPaths_some section_
  rw [redact_decoded decoded, merge]
  have undone := @restoreAll_adjustAll String Jsonb _ json conceal document (secretPaths section_) some_ apart distinct
  cases known : secretFields section_ with
  | none =>
    rw [secretPaths, known]
    rfl
  | some paths =>
    have named : secretPaths section_ = paths.map keysOf := by rw [secretPaths, known, Option.getD_some]
    rw [named] at apart some_ distinct undone ⊢
    dsimp only
    rw [merge_shown apart some_, undone]
    · intro keys member
      exact distinct_adjustAll (fun other inPaths => apart_of_mem apart member inPaths) (distinct keys member)
    · intro path member
      exact lookup_adjustAll some_ apart (List.mem_map_of_mem member)

/-! ## The round trip -/

/-- Saving back what was shown. The stored document is decoded from what the database holds
and stands on a heap. `Redact` answers with a copy and changes no object; `Merge` of what it
shows is the stored document. In a merged edit, a place with the placeholder holds what is
stored there, or nothing where nothing is, and a place that no placeholder is at, above or
below holds what the edit says. -/
theorem saved_back_unchanged (floats : Floats) (section_ : String) (raw stored : Document) (heap : Heap) (ref : Nat)
    (decoded : anyFields floats.number raw = some stored)
    (reads : Reads (· < heap.length) heap (.map ref) (.obj stored)) :
    (∀ fuel, sizeOf (Jsonb.obj stored) < fuel → ∃ heap' clone,
      redactAt floats.number fuel section_ heap ref = some (heap', clone) ∧ Extends heap heap' ∧
        Reads (fun _ => True) heap' (.map clone) (.obj (redact floats.number section_ stored))) ∧
    merge section_ (redact floats.number section_ stored) stored = stored ∧
    ∀ edited : Document,
      (∀ path ∈ (secretFields section_).getD [], lookup edited path = some (.str redacted) →
        lookup (merge section_ edited stored) path = lookup stored path) ∧
      ∀ keys : List String,
        (∀ path ∈ (secretFields section_).getD [], lookup edited path = some (.str redacted) → Apart (keysOf path) keys) →
        json.lookup keys (merge section_ edited stored) = json.lookup keys edited := by
  refine ⟨fun fuel enough => redactAt_reads section_ (anyFields_stable floats raw decoded) reads enough,
    merge_redact decoded reads section_, fun edited => ?_⟩
  have apart := secretPaths_apart section_
  have some_ := secretPaths_some section_
  unfold secretPaths at apart some_
  unfold merge
  cases known : secretFields section_ with
  | none => exact ⟨fun path member => absurd member List.not_mem_nil, fun keys _ => rfl⟩
  | some paths =>
    rw [known, Option.getD_some] at apart some_
    rw [Option.getD_some]
    exact ⟨fun path member shown => lookup_merge_placeholder apart some_ member shown,
      fun keys clear => lookup_merge_apart apart clear⟩

/-- A webhook with a secret, on the heap. -/
def webhookHeap : Heap :=
  [.map [("enabled", .plain (.bool true)), ("secret", .plain (.str "k"))], .map [("webhook", .map 0)]]

def webhookDocument : Document := [("webhook", .obj [("enabled", .bool true), ("secret", .str "k")])]

theorem webhook_reads : Reads (· < webhookHeap.length) webhookHeap (.map 1) (.obj webhookDocument) := by
  unfold Reads
  refine ⟨by decide, _, rfl, by decide, rfl, ?_, trivial⟩
  unfold Reads
  refine ⟨by decide, _, rfl, by decide, rfl, ?_, rfl, ?_, trivial⟩
  · unfold Reads
    exact ⟨rfl, rfl⟩
  · unfold Reads
    exact ⟨rfl, rfl⟩

theorem webhook_saved_back :
    merge "notifications" (redact some "notifications" webhookDocument) webhookDocument = webhookDocument :=
  (saved_back_unchanged ⟨some, fun h => by rw [← Option.some.inj h]⟩ "notifications" webhookDocument webhookDocument
    webhookHeap 1 (by decide) webhook_reads).2.1

end VodogeCloud.Guarantees.SettingsRoundTrip
