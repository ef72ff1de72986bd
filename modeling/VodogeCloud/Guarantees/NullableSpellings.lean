import VodogeCloud.Source.ContractCodegen

/-!
# The two spellings of a nullable field

`anyOf [T, null]` and `type: [t, "null"]`. Rust reads both for every type; Go, TypeScript and
the walk for the constraints know the second spelling of a plain string alone.
-/

set_option autoImplicit false

namespace VodogeCloud.Guarantees.NullableSpellings

open VodogeCloud.Source.ContractCodegen

/-! ## The generator's subset -/

/-- The nodes a field is declared with. A string may carry the marker of a wire type. -/
inductive FieldType where
  | string (wireType : Option String)
  | boolean
  | integer
  | number
  | enum (first : String) (rest : List String)
  | array (items : FieldType)

/-- The name under `type`. -/
def FieldType.typeName : FieldType → String
  | .string _ | .enum _ _ => "string"
  | .boolean => "boolean"
  | .integer => "integer"
  | .number => "number"
  | .array _ => "array"

def FieldType.keywords (T : FieldType) (type : TypeKeyword) : Keywords :=
  match T with
  | .string wireType => { wireType := wireType, type := some type }
  | .enum first rest => { enum := some (first :: rest), type := some type }
  | _ => { type := some type }

def FieldType.items : FieldType → Option FieldType
  | .array items => some items
  | _ => none

/-- The node under a given `type`. -/
def FieldType.nodeAs : FieldType → TypeKeyword → Schema
  | .array items, type => .node { type := some type } [] (some (items.nodeAs (.one items.typeName))) []
  | T, type => .node (T.keywords type) [] none []

def FieldType.node (T : FieldType) : Schema := T.nodeAs (.one T.typeName)

def nullNode : Schema := .node { type := some (.one "null") } [] none []

/-- `anyOf: [T, {"type": "null"}]`. -/
def FieldType.anyOfNull (T : FieldType) : Schema := .node {} [T.node, nullNode] none []

/-- `T` with `type: [t, "null"]`. -/
def FieldType.typeOrNull (T : FieldType) : Schema := T.nodeAs (.many [T.typeName, "null"])

/-- The payload with one field. -/
def payload (field : String) (spec : Schema) : Schema :=
  .node { type := some (.one "object") } [] none [(field, spec)]

/-- The texts of a TypeScript union, in any order. -/
def SameUnion (a b : String) : Prop := ∀ member, member ∈ a.splitOn " | " ↔ member ∈ b.splitOn " | "

/-- The spellings of a field mean the same in every binding: an optional of the type. -/
structure SpellingsAgree (defs : Definitions) (count : Nat) (field : String) (T : FieldType) : Prop where
  rust : rustType defs T.typeOrNull = rustType defs T.anyOfNull
  rustOptional : rustType defs T.anyOfNull = "Option<" ++ rustType defs T.node ++ ">"
  go : goType defs T.typeOrNull = goType defs T.anyOfNull
  goOptional : goType defs T.anyOfNull = "*" ++ goType defs T.node
  ts : SameUnion (tsType defs T.typeOrNull) (tsType defs T.anyOfNull)
  tsOptional : SameUnion (tsType defs T.anyOfNull) (tsType defs T.node ++ " | null")
  constraints : collectConstraints defs count (payload field T.typeOrNull) =
    collectConstraints defs count (payload field T.anyOfNull)

/-- The marker that makes a string a number on the wire. -/
def FieldType.marked : FieldType → Bool
  | .string wireType => wireType = some "u64-decimal"
  | _ => false

theorem isU64Decimal_nodeAs (T : FieldType) (type : TypeKeyword) :
    isU64Decimal (T.nodeAs type) = T.marked := by
  cases T with
  | string wireType => rfl
  | boolean => rfl
  | integer => rfl
  | number => rfl
  | enum first rest => rfl
  | array items => rfl

variable (defs : Definitions)

/-! ## Rust -/

theorem rust_string {wireType : Option String} (unmarked : (FieldType.string wireType).marked = false) :
    rustType defs (FieldType.string wireType).node = "String" := by
  have plain : isU64Decimal ((FieldType.string wireType).nodeAs (.one "string")) ≠ true := by
    rw [isU64Decimal_nodeAs, unmarked]
    decide
  exact if_neg plain

theorem rust_plain (T : FieldType) (unmarked : T.marked = false) :
    startsWith (rustType defs T.node) "Option<" = false := by
  cases T with
  | string wireType =>
    rw [rust_string defs unmarked]
    decide
  | boolean =>
    show startsWith "bool" "Option<" = false
    decide
  | integer =>
    show startsWith "i64" "Option<" = false
    decide
  | number =>
    show startsWith "f64" "Option<" = false
    decide
  | enum first rest =>
    show startsWith "String" "Option<" = false
    decide
  | array items =>
    show startsWith ("Vec<" ++ rustType defs items.node ++ ">") "Option<" = false
    unfold startsWith
    rw [String.toList_append, String.toList_append]
    rfl

theorem rust_anyOfNull (T : FieldType) :
    rustType defs T.anyOfNull = rustOption (rustType defs T.node) := by
  cases T with
  | string wireType => rfl
  | boolean => rfl
  | integer => rfl
  | number => rfl
  | enum first rest => rfl
  | array items => rfl

/-- The Rust printer reads the second spelling of every type as it reads the first. -/
theorem rust_typeOrNull (T : FieldType) (unmarked : T.marked = false) :
    rustType defs T.typeOrNull = rustOption (rustType defs T.node) := by
  cases T with
  | string wireType =>
    have plain : isU64Decimal ((FieldType.string wireType).nodeAs (.many ["string", "null"])) ≠ true := by
      rw [isU64Decimal_nodeAs, unmarked]
      decide
    have single : isU64Decimal ((FieldType.string wireType).nodeAs (.one "string")) ≠ true := by
      rw [isU64Decimal_nodeAs, unmarked]
      decide
    exact (if_neg plain).trans (congrArg rustOption (if_neg single).symm)
  | boolean => rfl
  | integer => rfl
  | number => rfl
  | enum first rest => rfl
  | array items => rfl

theorem rust_optional (T : FieldType) (unmarked : T.marked = false) :
    rustType defs T.anyOfNull = "Option<" ++ rustType defs T.node ++ ">" := by
  have plain := rust_plain defs T unmarked
  rw [rust_anyOfNull]
  exact if_neg (by rw [plain]; decide)

/-! ## Go -/

/-- The one type whose second spelling the other two printers know. -/
def FieldType.isPlainString : FieldType → Bool
  | .string wireType => wireType ≠ some "u64-decimal"
  | _ => false

theorem go_anyOfNull (T : FieldType) : goType defs T.anyOfNull = goPointer (goType defs T.node) := by
  cases T with
  | string wireType => rfl
  | boolean => rfl
  | integer => rfl
  | number => rfl
  | enum first rest => rfl
  | array items => rfl

theorem go_string (wireType : Option String) : goType defs (FieldType.string wireType).node = "string" := by
  show (if _ then _ else _) = _
  split
  · rfl
  · rfl

theorem go_typeOrNull (T : FieldType) : goType defs T.typeOrNull =
    match T with
    | .string _ => if T.marked then "string" else "*string"
    | .enum _ _ => "string"
    | _ => "any" := by
  cases T with
  | string wireType => rfl
  | boolean => rfl
  | integer => rfl
  | number => rfl
  | enum first rest => rfl
  | array items => rfl

theorem goPointer_array (inner : String) : goPointer ("[]" ++ inner) = "*" ++ ("[]" ++ inner) := by
  have slice : startsWith ("[]" ++ inner) "*" = false := by
    unfold startsWith
    rw [String.toList_append]
    rfl
  exact if_neg (by rw [slice]; decide)

theorem pointer_ne_any (inner : String) : "any" ≠ "*" ++ inner := by
  intro same
  have letters := congrArg String.toList same
  rw [String.toList_append] at letters
  cases letters

/-- Go makes no pointer of the second spelling of anything but a plain string. -/
theorem go_typeOrNull_ne (T : FieldType) (other : T.isPlainString = false) :
    goType defs T.typeOrNull ≠ goType defs T.anyOfNull := by
  rw [go_typeOrNull, go_anyOfNull]
  cases T with
  | string wireType =>
    have marked : (FieldType.string wireType).marked = true := by
      simpa [FieldType.isPlainString, FieldType.marked] using other
    dsimp only
    rw [if_pos marked, go_string]
    decide
  | boolean =>
    show "any" ≠ goPointer "bool"
    decide
  | integer =>
    show "any" ≠ goPointer "int64"
    decide
  | number =>
    show "any" ≠ goPointer "float64"
    decide
  | enum first rest =>
    show "string" ≠ goPointer "string"
    decide
  | array items =>
    show "any" ≠ goPointer ("[]" ++ goType defs items.node)
    rw [goPointer_array]
    exact pointer_ne_any _

theorem go_plainString {wireType : Option String} (unmarked : (FieldType.string wireType).marked = false) :
    goType defs (FieldType.string wireType).typeOrNull = "*string" ∧
      goType defs (FieldType.string wireType).anyOfNull = "*string" := by
  refine ⟨?_, ?_⟩
  · rw [go_typeOrNull]
    exact if_neg (by rw [unmarked]; decide)
  · rw [go_anyOfNull, go_string]
    decide

/-! ## TypeScript and the constraints, of a plain string -/

theorem ts_plainString {wireType : Option String} (unmarked : (FieldType.string wireType).marked = false) :
    tsType defs (FieldType.string wireType).node = "string" ∧
      tsType defs (FieldType.string wireType).typeOrNull = "string | null" ∧
      tsType defs (FieldType.string wireType).anyOfNull = "string | null" := by
  have single : isU64Decimal ((FieldType.string wireType).nodeAs (.one "string")) ≠ true := by
    rw [isU64Decimal_nodeAs, unmarked]
    decide
  have plain : isU64Decimal ((FieldType.string wireType).nodeAs (.many ["string", "null"])) ≠ true := by
    rw [isU64Decimal_nodeAs, unmarked]
    decide
  have node : tsType defs (FieldType.string wireType).node = "string" := if_neg single
  refine ⟨node, if_neg plain, ?_⟩
  show union [tsType defs (FieldType.string wireType).node, "null"] = _
  rw [node]
  decide

theorem constraints_plainString (count : Nat) (field : String) (wireType : Option String) :
    collectConstraints defs count (payload field (FieldType.string wireType).typeOrNull) = [] ∧
      collectConstraints defs count (payload field (FieldType.string wireType).anyOfNull) = [] :=
  ⟨rfl, rfl⟩

/-! ## The spellings -/

/-- The two spellings mean the same in every binding for a plain string and for nothing else. -/
theorem spellings_agree_iff (count : Nat) (field : String) (T : FieldType) :
    SpellingsAgree defs count field T ↔ T.isPlainString = true := by
  constructor
  · intro agree
    by_contra other
    exact go_typeOrNull_ne defs T (Bool.eq_false_iff.mpr other) agree.go
  · intro plain
    match T, plain with
    | .string wireType, plain =>
      have unmarked : (FieldType.string wireType).marked = false := by
        simpa [FieldType.isPlainString, FieldType.marked] using plain
      obtain ⟨goMany, goPair⟩ := go_plainString defs unmarked
      obtain ⟨tsNode, tsMany, tsPair⟩ := ts_plainString defs unmarked
      obtain ⟨foundMany, foundPair⟩ := constraints_plainString defs count field wireType
      exact {
        rust := (rust_typeOrNull defs _ unmarked).trans (rust_anyOfNull defs _).symm
        rustOptional := rust_optional defs _ unmarked
        go := goMany.trans goPair.symm
        goOptional := by
          rw [goPair, go_string]
          decide
        ts := fun member => by rw [tsMany, tsPair]
        tsOptional := fun member => by
          rw [tsPair, tsNode]
          rfl
        constraints := foundMany.trans foundPair.symm }

/-- An enum under the second spelling is checked nowhere. -/
theorem enum_unchecked (count : Nat) (field first : String) (rest : List String) :
    collectConstraints defs count (payload field (FieldType.enum first rest).anyOfNull) = [(field, first :: rest)] ∧
      collectConstraints defs count (payload field (FieldType.enum first rest).typeOrNull) = [] :=
  ⟨rfl, rfl⟩

/-- The nullable boolean `SubscriptionCapability` declares four times, in Go. -/
theorem boolean_spellings_differ :
    ¬ SpellingsAgree (fun _ => nullNode) 0 "sms_send" .boolean ∧
      goType (fun _ => nullNode) FieldType.boolean.typeOrNull = "any" ∧
      goType (fun _ => nullNode) FieldType.boolean.anyOfNull = "*bool" := by
  have pair : goType (fun _ => nullNode) FieldType.boolean.anyOfNull = "*bool" := by
    rw [go_anyOfNull]
    show goPointer "bool" = _
    decide
  refine ⟨fun agree => ?_, rfl, pair⟩
  have same := agree.go
  rw [pair] at same
  exact absurd same (by decide)

end VodogeCloud.Guarantees.NullableSpellings
