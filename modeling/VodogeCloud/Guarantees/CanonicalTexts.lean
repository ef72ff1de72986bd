import VodogeCloud.Lib.Transactions
import VodogeCloud.Source.CapabilityMatrix

/-!
# One document, three texts

`Canonical` sorts the keys of every object by their bytes, so what it writes is the
text of the stored document with its keys sorted, under the escapes of the Go encoder.
serde_json writes the same with fewer escapes. The two texts are equal exactly where
no key and no string has one of the five characters that Go escapes for HTML.
-/

set_option autoImplicit false

namespace VodogeCloud.Guarantees.CanonicalTexts

open VodogeCloud.Lib VodogeCloud.Lib.Transactions VodogeCloud.Source.Postgres
open VodogeCloud.Source.GoJson
open VodogeCloud.Source.JsonText VodogeCloud.Source.CapabilityMatrix

/-! ## Canonical documents -/

mutual

/-- A document whose numbers all have a property. -/
def AllNumbers (p : Int → Option Int → Prop) : Json → Prop
  | .num mantissa exponent => p mantissa exponent
  | .arr items => AllNumbersItems p items
  | .obj fields => AllNumbersFields p fields
  | _ => True

def AllNumbersItems (p : Int → Option Int → Prop) : List Json → Prop
  | [] => True
  | item :: rest => AllNumbers p item ∧ AllNumbersItems p rest

def AllNumbersFields (p : Int → Option Int → Prop) : List (List JsonChar × Json) → Prop
  | [] => True
  | (_, value) :: rest => AllNumbers p value ∧ AllNumbersFields p rest

end

/-- Go and PostgreSQL write the number alike. -/
def SameNumber (mantissa : Int) (exponent : Option Int) : Prop :=
  ∀ value, numericIn mantissa exponent = .ok value → goNumber mantissa exponent = numericOut value

/-- The text of a key or a string. -/
def plain (text : List JsonChar) : List Char := text.map scalarOf

mutual

/-- A document as `Canonical` writes them: keys in byte order and whole characters. -/
def Canonical : Json → Prop
  | .num mantissa exponent => SameNumber mantissa exponent
  | .str text => text = chars (goString text)
  | .arr items => CanonicalItems items
  | .obj fields => (fields.map fun field => plain field.1).Pairwise (· < ·) ∧ CanonicalFields fields
  | _ => True

def CanonicalItems : List Json → Prop
  | [] => True
  | item :: rest => Canonical item ∧ CanonicalItems rest

def CanonicalFields : List (List JsonChar × Json) → Prop
  | [] => True
  | (key, value) :: rest => key = chars (goString key) ∧ Canonical value ∧ CanonicalFields rest

end

theorem plain_chars (text : String) : plain (chars text) = text.toList := by
  simp [plain, chars, Function.comp_def, scalarOf]

theorem setKey_keys {key : String} {value : Json} {fields : List (List JsonChar × Json)}
    {text : List Char} (member : text ∈ (setKey key value fields).map fun field => plain field.1) :
    text = key.toList ∨ text ∈ fields.map fun field => plain field.1 := by
  induction fields with
  | nil =>
    simp only [setKey, List.map_cons, List.map_nil, List.mem_singleton, plain_chars] at member
    exact Or.inl member
  | cons field rest ih =>
    unfold setKey at member
    by_cases same : chars key = field.1
    · rw [if_pos same] at member
      exact Or.inr member
    · rw [if_neg same] at member
      by_cases before : key.toList < field.1.map scalarOf
      · rw [if_pos before, List.map_cons, List.mem_cons, plain_chars] at member
        exact member
      · rw [if_neg before, List.map_cons, List.mem_cons] at member
        rcases member with first | later
        · exact Or.inr (List.mem_cons.mpr (Or.inl first))
        · rcases ih later with own | old
          · exact Or.inl own
          · exact Or.inr (List.mem_cons_of_mem _ old)

/-- A map stays in order when a key is set. -/
theorem setKey_canonical {key : String} {value : Json} {fields : List (List JsonChar × Json)}
    (fit : Canonical value) (canonical : Canonical (.obj fields)) :
    Canonical (.obj (setKey key value fields)) := by
  induction fields with
  | nil => exact ⟨List.pairwise_singleton _ _, by rw [goString_chars], fit, trivial⟩
  | cons field rest ih =>
    obtain ⟨sorted, named, inner, others⟩ := canonical
    rw [List.map_cons, List.pairwise_cons] at sorted
    have rest_ : Canonical (.obj rest) := ⟨sorted.2, others⟩
    unfold setKey
    by_cases same : chars key = field.1
    · rw [if_pos same]
      exact ⟨List.pairwise_cons.mpr sorted, named, fit, others⟩
    · rw [if_neg same]
      by_cases before : key.toList < field.1.map scalarOf
      · rw [if_pos before]
        refine ⟨List.pairwise_cons.mpr ⟨fun text member => ?_, List.pairwise_cons.mpr sorted⟩,
          by rw [goString_chars], fit, named, inner, others⟩
        show plain (chars key) < text
        rw [plain_chars]
        rcases List.mem_cons.mp member with rfl | later
        · exact before
        · exact List.lt_trans before (sorted.1 text later)
      · rw [if_neg before]
        obtain ⟨sortedRest, canonicalRest⟩ := ih rest_
        refine ⟨List.pairwise_cons.mpr ⟨fun text member => ?_, sortedRest⟩, named, inner, canonicalRest⟩
        rcases setKey_keys member with rfl | old
        · -- Neither the same nor before, so after.
          by_contra late
          have equal : plain field.1 = key.toList := List.le_antisymm (List.not_lt.mp before) (List.not_lt.mp late)
          have texts : goString field.1 = key := by
            show String.ofList (plain field.1) = key
            rw [equal]
            exact String.ofList_toList
          rw [named, texts] at same
          exact same rfl
        · exact sorted.1 text old

/-- The number is written alike once it went through a float64. -/
def SameEncoded (float : FloatFormat) (mantissa : Int) (exponent : Option Int) : Prop :=
  SameNumber (float.encode mantissa exponent).1 (float.encode mantissa exponent).2

mutual

theorem reencode_canonical {float : FloatFormat} : ∀ {raw value : Json},
    AllNumbers (SameEncoded float) raw → reencode float raw = some value → Canonical value
  | .null, _, _, h => by
    cases h
    trivial
  | .bool _, _, _, h => by
    cases h
    trivial
  | .num mantissa exponent, value, exact_, h => by
    unfold reencode at h
    split at h
    · cases h
      exact exact_
    · cases h
  | .str text, _, _, h => by
    cases h
    show chars (goString text) = chars (goString (chars (goString text)))
    rw [goString_chars]
  | .arr items, _, exact_, h => by
    unfold reencode at h
    obtain ⟨values, done, rfl⟩ := Option.map_eq_some_iff.mp h
    exact reencodeItems_canonical exact_ done
  | .obj fields, _, exact_, h => by
    unfold reencode at h
    obtain ⟨values, done, rfl⟩ := Option.map_eq_some_iff.mp h
    exact reencodeFields_canonical exact_ (show Canonical (.obj []) from ⟨List.Pairwise.nil, trivial⟩) done

theorem reencodeItems_canonical {float : FloatFormat} : ∀ {items values : List Json},
    AllNumbersItems (SameEncoded float) items → reencodeItems float items = some values →
    CanonicalItems values
  | [], _, _, h => by
    cases h
    trivial
  | item :: rest, values, exact_, h => by
    unfold reencodeItems at h
    obtain ⟨value, first, h⟩ := Option.bind_eq_some_iff.mp h
    obtain ⟨others, later, h⟩ := Option.bind_eq_some_iff.mp h
    cases h
    exact ⟨reencode_canonical exact_.1 first, reencodeItems_canonical exact_.2 later⟩

theorem reencodeFields_canonical {float : FloatFormat} :
    ∀ {fields map values : List (List JsonChar × Json)},
    AllNumbersFields (SameEncoded float) fields → Canonical (.obj map) →
    reencodeFields float fields map = some values → Canonical (.obj values)
  | [], _, _, _, canonical, h => by
    cases h
    exact canonical
  | (key, item) :: rest, map, values, exact_, canonical, h => by
    unfold reencodeFields at h
    obtain ⟨value, first, h⟩ := Option.bind_eq_some_iff.mp h
    exact reencodeFields_canonical exact_.2
      (setKey_canonical (reencode_canonical exact_.1 first) canonical) h

end

/-! ## The stored document with its keys sorted -/

theorem mapM_charIn : ∀ {text : List JsonChar} {read : List Char},
    text.mapM charIn = .ok read → read = plain text
  | [], _, h => by
    cases h
    rfl
  | .loneSurrogate _ :: _, _, h => by
    rw [List.mapM_cons] at h
    cases h
  | .scalar c :: rest, read, h => by
    rw [List.mapM_cons] at h
    cases later : rest.mapM charIn with
    | error err =>
      rw [later] at h
      cases h
    | ok others =>
      rw [later] at h
      cases h
      rw [mapM_charIn later]
      rfl

theorem textIn_plain {text : List JsonChar} {read : String} (h : textIn text = .ok read) :
    read.toList = plain text := by
  unfold textIn at h
  split at h
  · cases h
  · obtain ⟨whole, done, rfl⟩ := map_eq_ok.mp h
    rw [String.toList_ofList]
    exact mapM_charIn done

theorem orderedFields_eq_map (escape : Char → List Char) (fields : List (String × Jsonb)) :
    orderedFields escape fields = fields.map fun field => (field.1.toList, orderedText escape field.2) := by
  induction fields with
  | nil => rfl
  | cons field rest ih => rw [orderedFields, ih, List.map_cons]

/-- A key with the text of its value. -/
def goPair (field : List JsonChar × Json) : List Char × List Char := (plain field.1, goText field.2)

theorem goFields_eq_map (fields : List (List JsonChar × Json)) :
    goFields fields = (fields.map goPair).map fun field => quoted goEscape field.1 ++ ':' :: field.2 := by
  induction fields with
  | nil => rfl
  | cons field rest ih =>
    rw [goFields, ih]
    rfl

/-- Sorting brings a list back that was in strict order by its keys. -/
theorem insertionSort_of_perm {sorted other : List (List Char × List Char)}
    (strict : (sorted.map Prod.fst).Pairwise (· < ·)) (perm : other.Perm sorted) :
    other.insertionSort (fun a b => a.1 ≤ b.1) = sorted := by
  have distinct : (sorted.map Prod.fst).Nodup := by
    refine strict.imp fun {a b} less equal => ?_
    rw [equal] at less
    exact List.lt_irrefl b less
  have total : Std.Total (fun a b : List Char × List Char => a.1 ≤ b.1) := ⟨fun a b => le_total a.1 b.1⟩
  have trans : IsTrans (List Char × List Char) (fun a b => a.1 ≤ b.1) := ⟨fun _ _ _ => le_trans⟩
  have same := (List.perm_insertionSort (fun a b : List Char × List Char => a.1 ≤ b.1) other).trans perm
  refine List.Perm.eq_of_pairwise (fun a b ha hb le ge => ?_) (List.pairwise_insertionSort _ other)
    ((List.pairwise_map.mp strict).imp le_of_lt) same
  exact List.inj_on_of_nodup_map distinct (same.mem_iff.mp ha) hb (le_antisymm le ge)

mutual

/-- `Canonical` writes the stored document with its keys sorted. -/
theorem goText_of_jsonbIn : ∀ {document : Json} {value : Jsonb}, Canonical document →
    jsonbIn document = .ok value → goText document = orderedText goEscape value
  | .null, _, _, h => by
    cases h
    rfl
  | .bool _, _, _, h => by
    cases h
    rfl
  | .num mantissa exponent, _, same, h => by
    obtain ⟨number, read, rfl⟩ := map_eq_ok.mp h
    exact same number read
  | .str text, _, _, h => by
    obtain ⟨whole, read, rfl⟩ := map_eq_ok.mp h
    rw [orderedText, textIn_plain read]
    rfl
  | .arr items, _, canonical, h => by
    obtain ⟨values, read, rfl⟩ := map_eq_ok.mp h
    rw [goText, orderedText, goItems_of_jsonbIn canonical read]
  | .obj fields, _, canonical, h => by
    obtain ⟨values, read, rfl⟩ := map_eq_ok.mp h
    have perm := goPairs_of_jsonbIn canonical.2 canonical.1 read
    rw [goText, orderedText, goFields_eq_map, insertionSort_of_perm ?_ perm]
    rw [List.map_map]
    exact canonical.1

theorem goItems_of_jsonbIn : ∀ {items : List Json} {values : List Jsonb}, CanonicalItems items →
    jsonbInItems items = .ok values → goItems items = orderedItems goEscape values
  | [], _, _, h => by
    cases h
    rfl
  | item :: rest, _, canonical, h => by
    unfold jsonbInItems at h
    obtain ⟨value, first, h⟩ := bind_success h
    obtain ⟨others, later, h⟩ := bind_success h
    cases h
    rw [goItems, orderedItems, goText_of_jsonbIn canonical.1 first, goItems_of_jsonbIn canonical.2 later]

theorem goPairs_of_jsonbIn : ∀ {fields : List (List JsonChar × Json)} {values : List (String × Jsonb)},
    CanonicalFields fields → (fields.map fun field => plain field.1).Pairwise (· < ·) →
    jsonbInFields fields = .ok values → (orderedFields goEscape values).Perm (fields.map goPair)
  | [], _, _, _, h => by
    cases h
    exact List.Perm.refl _
  | (key, item) :: rest, _, canonical, sorted, h => by
    unfold jsonbInFields at h
    obtain ⟨name, named, h⟩ := bind_success h
    obtain ⟨value, first, h⟩ := bind_success h
    obtain ⟨others, later, h⟩ := bind_success h
    cases h
    rw [List.map_cons, List.pairwise_cons] at sorted
    have ih := goPairs_of_jsonbIn canonical.2.2 sorted.2 later
    rw [orderedFields_eq_map] at ih ⊢
    have fresh : name ∉ others.map Prod.fst := by
      intro member
      obtain ⟨field, inOthers, rfl⟩ := List.mem_map.mp member
      obtain ⟨source, inRest, pair⟩ := List.mem_map.mp (ih.mem_iff.mp (List.mem_map_of_mem inOthers))
      have again : plain source.1 = plain key := by
        rw [← textIn_plain named]
        exact congrArg Prod.fst pair
      have less := sorted.1 (plain source.1) (List.mem_map_of_mem inRest)
      rw [again] at less
      exact List.lt_irrefl _ less
    have placed := (@insertField_perm name value others fresh).map
      fun field => (field.1.toList, orderedText goEscape field.2)
    refine placed.trans ?_
    rw [List.map_cons, List.map_cons, textIn_plain named, ← goText_of_jsonbIn canonical.2.1 first]
    exact ih.cons _

end

/-! ## Documents whose keys both encoders order alike -/

mutual

/-- Every object of the column has its keys in byte order. -/
def InByteOrder : Jsonb → Prop
  | .arr items => ItemsInByteOrder items
  | .obj fields => (fields.map fun field => field.1.toList).Pairwise (· < ·) ∧ FieldsInByteOrder fields
  | _ => True

def ItemsInByteOrder : List Jsonb → Prop
  | [] => True
  | item :: rest => InByteOrder item ∧ ItemsInByteOrder rest

def FieldsInByteOrder : List (String × Jsonb) → Prop
  | [] => True
  | (_, value) :: rest => InByteOrder value ∧ FieldsInByteOrder rest

end

mutual

/-- The column then gives back what `Canonical` wrote. -/
theorem compactText_inByteOrder : ∀ {value : Jsonb}, InByteOrder value → compactText value = orderedText goEscape value
  | .null, _ | .bool _, _ | .num _, _ | .str _, _ => rfl
  | .arr items, ordered => by rw [compactText, orderedText, compactItems_inByteOrder ordered]
  | .obj fields, ordered => by
    rw [compactText, orderedText, insertionSort_of_perm ?_ (List.Perm.refl _), compactFields_inByteOrder ordered.2]
    rw [orderedFields_eq_map, List.map_map]
    exact ordered.1

theorem compactItems_inByteOrder : ∀ {items : List Jsonb}, ItemsInByteOrder items →
    compactItems items = orderedItems goEscape items
  | [], _ => rfl
  | item :: rest, ordered => by
    rw [compactItems, orderedItems, compactText_inByteOrder ordered.1, compactItems_inByteOrder ordered.2]

theorem compactFields_inByteOrder : ∀ {fields : List (String × Jsonb)}, FieldsInByteOrder fields →
    compactFields fields = (orderedFields goEscape fields).map fun field => quoted goEscape field.1 ++ ':' :: field.2
  | [], _ => rfl
  | (key, value) :: rest, ordered => by
    rw [compactFields, orderedFields, List.map_cons, compactText_inByteOrder ordered.1,
      compactFields_inByteOrder ordered.2]

end

/-! ## Whole numbers -/

/-- The JSON number has this value. -/
def NumberIs (mantissa : Int) (exponent : Option Int) (value : Int) : Prop :=
  match exponent.getD 0 with
  | .ofNat up => mantissa * 10 ^ up = value
  | .negSucc down => mantissa = value * 10 ^ (down + 1)

/-- An integer below 2^53 in size. -/
def Whole (mantissa : Int) (exponent : Option Int) : Prop :=
  ∃ value, NumberIs mantissa exponent value ∧ value.natAbs < 2 ^ 53

/-- Such an integer is a float64, and Go writes it without point and exponent. -/
def ExactIntegers (float : FloatFormat) : Prop :=
  ∀ mantissa exponent value, NumberIs mantissa exponent value → value.natAbs < 2 ^ 53 →
    float.encode mantissa exponent = (value, none)

theorem digitsOf_short {n : Nat} (small : n < 2 ^ 53) : (digitsOf n).length ≤ 16 := by
  refine (Nat.length_toDigits_le_iff (by decide) (by decide)).mpr ?_
  have power : 2 ^ 53 < 10 ^ 16 := by decide
  omega

theorem sameNumber_of_small {value : Int} (small : value.natAbs < 2 ^ 53) : SameNumber value none := by
  intro number read
  have short := digitsOf_short small
  have whole : number = (value : Rat) := by
    unfold numericIn at read
    have length : ¬(((none : Option Int).getD 0 : Int) < -16383 ∨
        (value ≠ 0 ∧ ((Nat.toDigits 10 value.natAbs).length : Int) + (none : Option Int).getD 0 > 131072)) := by
      unfold digitsOf at short
      simp only [Option.getD_none]
      omega
    dsimp only at read
    rw [if_neg length, if_pos (by simp)] at read
    cases read
    simp
  have plainPoint : ¬(value ≠ 0 ∧ (((digitsOf value.natAbs).length : Int) - 1 + (none : Option Int).getD 0 < -6 ∨
      21 ≤ ((digitsOf value.natAbs).length : Int) - 1 + (none : Option Int).getD 0)) := by
    simp only [Option.getD_none]
    omega
  unfold goNumber numericOut
  dsimp only
  rw [if_neg plainPoint, whole]
  simp

theorem sameEncoded_of_whole {float : FloatFormat} (integers : ExactIntegers float) {mantissa : Int}
    {exponent : Option Int} (whole : Whole mantissa exponent) : SameEncoded float mantissa exponent := by
  obtain ⟨value, number, small⟩ := whole
  unfold SameEncoded
  rw [integers mantissa exponent value number small]
  exact sameNumber_of_small small

mutual

theorem AllNumbers.imp {p q : Int → Option Int → Prop} (step : ∀ m e, p m e → q m e) :
    ∀ {document : Json}, AllNumbers p document → AllNumbers q document
  | .null, _ => trivial
  | .bool _, _ => trivial
  | .num mantissa exponent, holds => step mantissa exponent holds
  | .str _, _ => trivial
  | .arr _, holds => AllNumbersItems.imp step holds
  | .obj _, holds => AllNumbersFields.imp step holds

theorem AllNumbersItems.imp {p q : Int → Option Int → Prop} (step : ∀ m e, p m e → q m e) :
    ∀ {items : List Json}, AllNumbersItems p items → AllNumbersItems q items
  | [], _ => trivial
  | _ :: _, holds => ⟨AllNumbers.imp step holds.1, AllNumbersItems.imp step holds.2⟩

theorem AllNumbersFields.imp {p q : Int → Option Int → Prop} (step : ∀ m e, p m e → q m e) :
    ∀ {fields : List (List JsonChar × Json)}, AllNumbersFields p fields → AllNumbersFields q fields
  | [], _ => trivial
  | _ :: _, holds => ⟨AllNumbers.imp step holds.1, AllNumbersFields.imp step holds.2⟩

end

/-! ## The escapes -/

/-- No character that only Go escapes. -/
def NoHtml (text : List Char) : Prop := ∀ c ∈ text, htmlSpecial c = false

mutual

/-- No key and no string has a character that only Go escapes. -/
def Plain : Jsonb → Prop
  | .str text => NoHtml text.toList
  | .arr items => PlainItems items
  | .obj fields => PlainFields fields
  | _ => True

def PlainItems : List Jsonb → Prop
  | [] => True
  | item :: rest => Plain item ∧ PlainItems rest

def PlainFields : List (String × Jsonb) → Prop
  | [] => True
  | (key, value) :: rest => NoHtml key.toList ∧ Plain value ∧ PlainFields rest

end

theorem quoted_noHtml {text : List Char} (clean : NoHtml text) :
    quoted goEscape text = quoted requiredEscape text := by
  have same : text.flatMap goEscape = text.flatMap requiredEscape :=
    List.flatMap_congr fun c member => if_neg (by rw [clean c member]; decide)
  rw [quoted, quoted, same]

theorem noHtml_of_plainFields {fields : List (String × Jsonb)} (clean : PlainFields fields) :
    ∀ field ∈ fields, NoHtml field.1.toList := by
  induction fields with
  | nil => intro field member; cases member
  | cons first rest ih =>
    intro field member
    rcases List.mem_cons.mp member with rfl | later
    · exact clean.1
    · exact ih clean.2.2 field later

mutual

/-- Without such a character the two encoders write the same. -/
theorem orderedText_plain : ∀ {value : Jsonb}, Plain value →
    orderedText goEscape value = orderedText requiredEscape value
  | .null, _ => rfl
  | .bool _, _ => rfl
  | .num _, _ => rfl
  | .str _, clean => quoted_noHtml clean
  | .arr items, clean => by rw [orderedText, orderedText, orderedItems_plain clean]
  | .obj fields, clean => by
    rw [orderedText, orderedText, orderedFields_plain clean]
    have keys : ∀ field ∈ (orderedFields requiredEscape fields).insertionSort (fun a b => a.1 ≤ b.1),
        quoted goEscape field.1 ++ ':' :: field.2 = quoted requiredEscape field.1 ++ ':' :: field.2 := by
      intro field member
      rw [List.mem_insertionSort, orderedFields_eq_map] at member
      obtain ⟨source, inFields, rfl⟩ := List.mem_map.mp member
      rw [quoted_noHtml (noHtml_of_plainFields clean source inFields)]
    rw [List.map_congr_left keys]

theorem orderedItems_plain : ∀ {items : List Jsonb}, PlainItems items →
    orderedItems goEscape items = orderedItems requiredEscape items
  | [], _ => rfl
  | _ :: _, clean => by
    rw [orderedItems, orderedItems, orderedText_plain clean.1, orderedItems_plain clean.2]

theorem orderedFields_plain : ∀ {fields : List (String × Jsonb)}, PlainFields fields →
    orderedFields goEscape fields = orderedFields requiredEscape fields
  | [], _ => rfl
  | _ :: _, clean => by
    rw [orderedFields, orderedFields, orderedText_plain clean.2.1, orderedFields_plain clean.2.2]

end

/-! ## The lengths of the two texts -/

theorem escape_length (c : Char) : (requiredEscape c).length ≤ (goEscape c).length ∧
    ((goEscape c).length ≤ (requiredEscape c).length → htmlSpecial c = false) := by
  cases special : htmlSpecial c with
  | false =>
    rw [goEscape, special, if_neg (by decide)]
    exact ⟨le_refl _, fun _ => rfl⟩
  | true =>
    have one : (requiredEscape c).length = 1 := by
      simp only [htmlSpecial, Bool.or_eq_true, decide_eq_true_eq] at special
      rcases special with (((rfl | rfl) | rfl) | rfl) | rfl <;> decide
    have six : (goEscape c).length = 6 := by
      rw [goEscape, special, if_pos rfl]
      rfl
    omega

theorem quoted_length (text : List Char) :
    (quoted requiredEscape text).length ≤ (quoted goEscape text).length ∧
    ((quoted goEscape text).length ≤ (quoted requiredEscape text).length → NoHtml text) := by
  simp only [quoted, List.length_append, List.length_cons, List.length_nil]
  induction text with
  | nil => exact ⟨le_refl _, fun _ c member => nomatch member⟩
  | cons c rest ih =>
    have first := escape_length c
    simp only [List.flatMap_cons, List.length_append]
    refine ⟨by omega, fun equal d member => ?_⟩
    rcases List.mem_cons.mp member with rfl | later
    · exact first.2 (by omega)
    · exact ih.2 (by omega) d later

theorem enclosed_length (first last : Char) (pieces : List (List Char)) :
    (enclosed first last pieces).length = (pieces.map List.length).sum + (pieces.length - 1) + 2 := by
  have inner : (separated pieces).length = (pieces.map List.length).sum + (pieces.length - 1) := by
    unfold separated
    induction pieces with
    | nil => rfl
    | cons piece rest ih =>
      cases rest with
      | nil => simp
      | cons second others =>
        simp only [List.intersperse_cons_cons, List.flatten_cons, List.length_append, List.length_cons,
          List.length_nil, List.map_cons, List.sum_cons] at ih ⊢
        omega
  simp only [enclosed, List.length_cons, List.length_append, List.length_nil, inner]

/-- The characters of the fields of an object, whatever their order. -/
def fieldsLength (escape : Char → List Char) (fields : List (String × Jsonb)) : Nat :=
  (fields.map fun field => (quoted escape field.1.toList).length + 1 + (orderedText escape field.2).length).sum

theorem object_length (escape : Char → List Char) (fields : List (String × Jsonb)) :
    (orderedText escape (.obj fields)).length = fieldsLength escape fields + (fields.length - 1) + 2 := by
  have sorted := List.perm_insertionSort (fun a b : List Char × List Char => a.1 ≤ b.1)
    (orderedFields escape fields)
  rw [orderedText, enclosed_length, List.length_map, sorted.length_eq, List.map_map,
    (sorted.map _).sum_nat, orderedFields_eq_map, List.length_map, List.map_map]
  unfold fieldsLength
  congr 4
  funext field
  simp only [Function.comp_apply, List.length_append, List.length_cons]
  omega

mutual

/-- Go never writes less, and as much only where there is nothing to escape. -/
theorem orderedText_length : ∀ value : Jsonb,
    (orderedText requiredEscape value).length ≤ (orderedText goEscape value).length ∧
    ((orderedText goEscape value).length ≤ (orderedText requiredEscape value).length → Plain value)
  | .null => ⟨le_refl _, fun _ => trivial⟩
  | .bool _ => ⟨le_refl _, fun _ => trivial⟩
  | .num _ => ⟨le_refl _, fun _ => trivial⟩
  | .str text => quoted_length text.toList
  | .arr items => by
    have inner := orderedItems_length items
    simp only [orderedText, enclosed_length]
    exact ⟨by omega, fun equal => inner.2.2 (by omega)⟩
  | .obj fields => by
    have inner := fieldsLength_le fields
    simp only [object_length]
    exact ⟨by omega, fun equal => inner.2 (by omega)⟩

theorem orderedItems_length : ∀ items : List Jsonb,
    (orderedItems requiredEscape items).length = (orderedItems goEscape items).length ∧
    ((orderedItems requiredEscape items).map List.length).sum ≤
      ((orderedItems goEscape items).map List.length).sum ∧
    (((orderedItems goEscape items).map List.length).sum ≤
      ((orderedItems requiredEscape items).map List.length).sum → PlainItems items)
  | [] => ⟨rfl, le_refl _, fun _ => trivial⟩
  | item :: rest => by
    have first := orderedText_length item
    have later := orderedItems_length rest
    simp only [orderedItems, List.length_cons, List.map_cons, List.sum_cons]
    exact ⟨by omega, by omega, fun equal => ⟨first.2 (by omega), later.2.2 (by omega)⟩⟩

theorem fieldsLength_le : ∀ fields : List (String × Jsonb),
    fieldsLength requiredEscape fields ≤ fieldsLength goEscape fields ∧
    (fieldsLength goEscape fields ≤ fieldsLength requiredEscape fields → PlainFields fields)
  | [] => ⟨le_refl _, fun _ => trivial⟩
  | (key, value) :: rest => by
    have name := quoted_length key.toList
    have first := orderedText_length value
    have later := fieldsLength_le rest
    simp only [fieldsLength, List.map_cons, List.sum_cons] at later ⊢
    exact ⟨by omega, fun equal => ⟨name.2 (by omega), first.2 (by omega), later.2 (by omega)⟩⟩

end

/-- The text Go hashes is the text the edge hashes exactly where there is nothing to escape. -/
theorem texts_agree_iff (value : Jsonb) : orderedText goEscape value = serdeText value ↔ Plain value :=
  ⟨fun same => (orderedText_length value).2 (le_of_eq (congrArg List.length same)), orderedText_plain⟩

end VodogeCloud.Guarantees.CanonicalTexts
