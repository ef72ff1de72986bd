import VodogeCloud.Guarantees.SessionTurns
import VodogeCloud.Source.EdgeContract

/-!
# Decoding payloads that conform to the contract

A conforming object names each property once and under its own name, so the Go
decoder finds for every field of its struct the property of that name or nothing. What
is left to chance is how a number is written: the decoder takes an integer into an
`int64` only when it is spelt without fraction and exponent.
-/

set_option autoImplicit false

namespace VodogeCloud.Guarantees.ConformingPayloads

open VodogeCloud.Lib.NetAddress (hexDigit)
open VodogeCloud.Source.Postgres VodogeCloud.Source.EdgeContract VodogeCloud.Source.GoJson
open VodogeCloud.Source.CommandLifecycle (foldChar fieldValues int64Value)
open VodogeCloud.Source VodogeCloud.Lib.Transactions

/-! ## Objects -/

section Objects

variable {required optional : List String} {fields : Fields} {name : String}

/-- The only name of a list that the decoder takes for `name` is `name` itself. -/
def alone (names : List String) (name : String) : Bool :=
  names.all fun other => !((chars other).map foldChar = (chars name).map foldChar) || other = name

end Objects

/-! ## Strings -/

section Uuids

/-- Cut a list in front of a place. -/
theorem cut {text : List Char} {from_ size : Nat} {c : Char} (at_ : text[from_ + size]? = some c) :
    text.drop from_ = (text.drop from_).take size ++ c :: text.drop (from_ + size + 1) := by
  conv_lhs => rw [← List.take_append_drop size (text.drop from_)]
  obtain ⟨inside, same⟩ := List.getElem?_eq_some_iff.mp at_
  rw [List.drop_drop, List.drop_eq_getElem_cons inside, same]

end Uuids

/-! ## Fields of a struct -/

section Fields

variable {fields : Fields} {name : String} {value : Json}

/-- An integer as Go reads one: without fraction and exponent. -/
def plainInteger : Json → Bool
  | .num _ none => true
  | _ => false

end Fields

/-! ## The three payloads the session decodes -/

section Payloads

variable {fields : Fields}

end Payloads

/-! ## Documents the server takes as jsonb -/

/-- The string has a NUL. -/
def hasNul (text : List JsonChar) : Bool := decide (JsonChar.scalar '\x00' ∈ text)

mutual

def containsNul : Json → Bool
  | .str text => hasNul text
  | .arr items => containsNulItems items
  | .obj fields => containsNulFields fields
  | _ => false

def containsNulItems : List Json → Bool
  | [] => false
  | item :: rest => containsNul item || containsNulItems rest

def containsNulFields : List (List JsonChar × Json) → Bool
  | [] => false
  | (key, item) :: rest => hasNul key || containsNul item || containsNulFields rest

end

section Documents

variable {float : FloatFormat}

/-- The server takes the document exactly when it holds no NUL. -/
def NulDecides (document : Json) : Prop :=
  (∃ value, jsonbIn document = .ok value) ↔ containsNul document = false

theorem mapM_charIn_chars (plain : List Char) :
    (plain.map JsonChar.scalar).mapM charIn = .ok plain := by
  induction plain with
  | nil => rfl
  | cons c rest ih =>
    rw [List.map_cons, List.mapM_cons, ih]
    rfl

/-- A Go string, written as JSON. -/
theorem textIn_chars (text : String) :
    (∃ value, textIn (chars text) = .ok value) ↔ hasNul (chars text) = false := by
  unfold textIn hasNul
  rw [decide_eq_false_iff_not]
  constructor
  · rintro ⟨value, read⟩ nul
    rw [if_pos nul] at read
    cases read
  · intro clean
    rw [if_neg clean]
    exact ⟨text, by rw [chars, mapM_charIn_chars, Except.map, String.ofList_toList]⟩

theorem exists_map_ok {ε α β : Type} {x : Except ε α} {f : α → β} :
    (∃ b, x.map f = .ok b) ↔ ∃ a, x = .ok a := by
  constructor
  · rintro ⟨b, read⟩
    obtain ⟨a, taken, _⟩ := map_eq_ok.mp read
    exact ⟨a, taken⟩
  · rintro ⟨a, read⟩
    exact ⟨f a, map_eq_ok.mpr ⟨a, read, rfl⟩⟩

theorem nulDecides_str (text : String) : NulDecides (.str (chars text)) := by
  unfold NulDecides
  rw [jsonbIn, containsNul, exists_map_ok, textIn_chars]

/-- A number as Go writes it is one the server takes. -/
theorem numericIn_encoded (mantissa : Int) (exponent : Option Int) :
    ∃ value, numericIn (float.encode mantissa exponent).1 (float.encode mantissa exponent).2 =
      .ok value := by
  have digits := float.digits mantissa exponent
  have powers := float.exponents mantissa exponent
  generalize float.encode mantissa exponent = written at digits powers ⊢
  obtain ⟨m, e⟩ := written
  have size : (Nat.toDigits 10 m.natAbs).length ≤ 21 :=
    (Nat.length_toDigits_le_iff (by decide) (by decide)).mpr digits
  have power : -400 ≤ e.getD 0 ∧ e.getD 0 ≤ 400 := by
    cases e with
    | none => decide
    | some power => exact powers power rfl
  unfold numericIn
  dsimp only
  rw [if_neg (by omega)]
  split
  · exact ⟨_, rfl⟩
  · exact ⟨_, rfl⟩

theorem jsonbInItems_iff {items : List Json} (each : ∀ item ∈ items, NulDecides item) :
    (∃ values, jsonbInItems items = .ok values) ↔ containsNulItems items = false := by
  induction items with
  | nil => exact ⟨fun _ => rfl, fun _ => ⟨[], rfl⟩⟩
  | cons item rest ih =>
    have first : (∃ value, jsonbIn item = .ok value) ↔ containsNul item = false :=
      each item List.mem_cons_self
    have later := ih fun other member => each other (List.mem_cons_of_mem _ member)
    rw [jsonbInItems, containsNulItems, Bool.or_eq_false_iff, ← later, ← first]
    constructor
    · rintro ⟨values, read⟩
      obtain ⟨value, one, read⟩ := bind_success read
      obtain ⟨others, more, _⟩ := bind_success read
      exact ⟨⟨value, one⟩, others, more⟩
    · rintro ⟨⟨value, one⟩, others, more⟩
      exact ⟨value :: others, by rw [one, more]; rfl⟩

theorem jsonbInFields_iff {fields : Fields}
    (each : ∀ field ∈ fields, (∃ name, field.1 = chars name) ∧ NulDecides field.2) :
    (∃ values, jsonbInFields fields = .ok values) ↔ containsNulFields fields = false := by
  induction fields with
  | nil => exact ⟨fun _ => rfl, fun _ => ⟨[], rfl⟩⟩
  | cons field rest ih =>
    obtain ⟨key, item⟩ := field
    obtain ⟨⟨name, rfl⟩, decides⟩ := each (key, item) List.mem_cons_self
    have first : (∃ value, jsonbIn item = .ok value) ↔ containsNul item = false := decides
    have later := ih fun other member => each other (List.mem_cons_of_mem _ member)
    rw [jsonbInFields, containsNulFields, Bool.or_eq_false_iff, Bool.or_eq_false_iff, ← later, ← first,
      ← textIn_chars]
    constructor
    · rintro ⟨values, read⟩
      obtain ⟨text, named, read⟩ := bind_success read
      obtain ⟨value, one, read⟩ := bind_success read
      obtain ⟨others, more, _⟩ := bind_success read
      exact ⟨⟨⟨text, named⟩, value, one⟩, others, more⟩
    · rintro ⟨⟨⟨text, named⟩, value, one⟩, others, more⟩
      exact ⟨insertField text value others, by rw [named, one, more]; rfl⟩

theorem nulDecides_obj {fields : Fields}
    (each : ∀ field ∈ fields, (∃ name, field.1 = chars name) ∧ NulDecides field.2) :
    NulDecides (.obj fields) := by
  unfold NulDecides
  rw [jsonbIn, containsNul, exists_map_ok, jsonbInFields_iff each]

theorem nulDecides_arr {items : List Json} (each : ∀ item ∈ items, NulDecides item) :
    NulDecides (.arr items) := by
  unfold NulDecides
  rw [jsonbIn, containsNul, exists_map_ok, jsonbInItems_iff each]

theorem mem_setKey {key : String} {value : Json} {map : Fields} {field : List JsonChar × Json}
    (member : field ∈ setKey key value map) : field ∈ map ∨ (field = (chars key, value)) := by
  induction map with
  | nil => exact Or.inr (List.mem_singleton.mp member)
  | cons first rest ih =>
    obtain ⟨other, kept⟩ := first
    unfold setKey at member
    split at member
    · next same =>
      rcases List.mem_cons.mp member with rfl | inRest
      · exact Or.inr (by rw [same])
      · exact Or.inl (List.mem_cons_of_mem _ inRest)
    · split at member
      · rcases List.mem_cons.mp member with rfl | inMap
        · exact Or.inr rfl
        · exact Or.inl inMap
      · rcases List.mem_cons.mp member with rfl | inRest
        · exact Or.inl List.mem_cons_self
        · exact (ih inRest).imp_left fun old => List.mem_cons_of_mem _ old

mutual

/-- What Go writes back is refused by the server only for a NUL. -/
theorem reencode_nulDecides : ∀ {document written : Json},
    reencode float document = some written → NulDecides written
  | .null, _, h => by
    cases h
    exact ⟨fun _ => rfl, fun _ => ⟨.null, rfl⟩⟩
  | .bool flag, _, h => by
    cases h
    exact ⟨fun _ => rfl, fun _ => ⟨.bool flag, rfl⟩⟩
  | .num mantissa exponent, _, h => by
    unfold reencode at h
    split at h
    · cases h
      obtain ⟨value, taken⟩ := @numericIn_encoded float mantissa exponent
      exact ⟨fun _ => rfl, fun _ => ⟨.num value, by rw [jsonbIn, taken]; rfl⟩⟩
    · cases h
  | .str text, _, h => by
    cases h
    exact nulDecides_str (goString text)
  | .arr items, _, h => by
    obtain ⟨values, written, rfl⟩ := Option.map_eq_some_iff.mp h
    exact nulDecides_arr (reencodeItems_nulDecides written)
  | .obj fields, _, h => by
    obtain ⟨values, written, rfl⟩ := Option.map_eq_some_iff.mp h
    exact nulDecides_obj (reencodeFields_nulDecides written (by simp))

theorem reencodeItems_nulDecides : ∀ {items values : List Json},
    reencodeItems float items = some values → ∀ value ∈ values, NulDecides value
  | [], _, h => by
    cases h
    simp
  | item :: rest, _, h => by
    obtain ⟨first, one, h⟩ := Option.bind_eq_some_iff.mp h
    obtain ⟨others, more, h⟩ := Option.bind_eq_some_iff.mp h
    cases h
    intro value member
    rcases List.mem_cons.mp member with rfl | inRest
    · exact reencode_nulDecides one
    · exact reencodeItems_nulDecides more value inRest

theorem reencodeFields_nulDecides : ∀ {fields map values : Fields},
    reencodeFields float fields map = some values →
    (∀ field ∈ map, (∃ name, field.1 = chars name) ∧ NulDecides field.2) →
    ∀ field ∈ values, (∃ name, field.1 = chars name) ∧ NulDecides field.2
  | [], _, _, h, before => by
    cases h
    exact before
  | (key, item) :: rest, map, _, h, before => by
    obtain ⟨value, one, h⟩ := Option.bind_eq_some_iff.mp h
    refine reencodeFields_nulDecides h fun field member => ?_
    rcases mem_setKey member with old | rfl
    · exact before field old
    · exact ⟨⟨goString key, rfl⟩, reencode_nulDecides one⟩

end

end Documents

end VodogeCloud.Guarantees.ConformingPayloads
