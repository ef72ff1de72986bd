import VodogeCloud.Source.CommandLifecycle

/-!
# Decoding a payload

What `json.Unmarshal` leaves in the fields of the structs the session decodes
(packages/contract/go/contract.go:42-51, 105-108, 124-131, 335-343). A key
reaches a field without regard to case, a later occurrence overwrites an earlier
one, null leaves a plain field alone, and one value of the wrong type fails the
whole call. A `*any` field is decoded into Go values and written back by
`detailsJSON` (apps/gateway/internal/wss/serve.go:735-748), which turns its
numbers into float64 and its unpaired surrogates into U+FFFD.
-/

set_option autoImplicit false

namespace VodogeCloud.Source.GoJson

open VodogeCloud.Source.Postgres
open VodogeCloud.Source.CommandLifecycle (fieldValues int64Value)

/-- A decoded character; an unpaired surrogate becomes U+FFFD. -/
def scalarOf : JsonChar → Char
  | .scalar c => c
  | .loneSurrogate _ => '�'

/-- A JSON string as the Go string it decodes to. -/
def goString (text : List JsonChar) : String := String.ofList (text.map scalarOf)

theorem goString_chars (text : String) : goString (chars text) = text := by
  unfold goString chars
  rw [List.map_map]
  have same : scalarOf ∘ JsonChar.scalar = id := rfl
  rw [same, List.map_id, String.ofList_toList]

/-- The fields a struct is filled from; null fills none. -/
def structFields : Json → Option (List (List JsonChar × Json))
  | .obj fields => some fields
  | .null => some []
  | _ => none

/-- A `string` field. -/
def stringField (name : String) (fields : List (List JsonChar × Json)) : Option String :=
  (fieldValues name fields).foldlM (fun held value =>
    match value with
    | .str text => some (goString text)
    | .null => some held
    | _ => none) ""

/-- A `*string` field; null takes the pointer away again. -/
def stringPointer (name : String) (fields : List (List JsonChar × Json)) : Option (Option String) :=
  (fieldValues name fields).foldlM (fun _ value =>
    match value with
    | .str text => some (some (goString text))
    | .null => some none
    | _ => none) none

/-- An `int64` field. -/
def int64Field (name : String) (fields : List (List JsonChar × Json)) : Option Int :=
  (fieldValues name fields).foldlM (fun held value =>
    match value with
    | .null => some held
    | other => int64Value other) 0

/-- A `*int64` field that is decoded and not read. -/
def int64Pointer (name : String) (fields : List (List JsonChar × Json)) : Option Unit :=
  (fieldValues name fields).foldlM (fun _ value =>
    match value with
    | .null => some ()
    | other => (int64Value other).map fun _ => ()) ()

/-! ## float64 -/

/-- Numbers from here on round to infinity, which `strconv.ParseFloat` refuses:
half a unit above the largest float64. -/
def floatLimit : Nat := 2 ^ 1024 - 2 ^ 970

/-- The number is a float64 once rounded. -/
def floatFits (mantissa : Int) (exponent : Option Int) : Bool :=
  match exponent.getD 0 with
  | .ofNat up => mantissa.natAbs * 10 ^ up < floatLimit
  | .negSucc down => mantissa.natAbs < floatLimit * 10 ^ (down + 1)

/-- How the encoder of the Go library writes the float64 nearest to a number: the
fewest digits that read back as the same float64, without an exponent from
1e-6 up to 1e21. -/
structure FloatFormat where
  encode : Int → Option Int → Int × Option Int
  digits : ∀ mantissa exponent, (encode mantissa exponent).1.natAbs < 10 ^ 21
  exponents : ∀ mantissa exponent, ∀ power ∈ (encode mantissa exponent).2, -400 ≤ power ∧ power ≤ 400

/-! ## Values of type any -/

/-- A map keeps one value per key, and the encoder sorts the keys. -/
def setKey (key : String) (value : Json) : List (List JsonChar × Json) → List (List JsonChar × Json)
  | [] => [(chars key, value)]
  | (other, kept) :: rest =>
    if chars key = other then (other, value) :: rest
    else if key.toList < other.map scalarOf then (chars key, value) :: (other, kept) :: rest
    else (other, kept) :: setKey key value rest

mutual

/-- A value decoded into `any` and encoded again. -/
def reencode (float : FloatFormat) : Json → Option Json
  | .null => some .null
  | .bool value => some (.bool value)
  | .num mantissa exponent =>
    if floatFits mantissa exponent then
      some (.num (float.encode mantissa exponent).1 (float.encode mantissa exponent).2)
    else none
  | .str text => some (.str (chars (goString text)))
  | .arr items => (reencodeItems float items).map .arr
  | .obj fields => (reencodeFields float fields []).map .obj

def reencodeItems (float : FloatFormat) : List Json → Option (List Json)
  | [] => some []
  | item :: rest => do
    let value ← reencode float item
    let values ← reencodeItems float rest
    return value :: values

def reencodeFields (float : FloatFormat) :
    List (List JsonChar × Json) → List (List JsonChar × Json) → Option (List (List JsonChar × Json))
  | [], map => some map
  | (key, item) :: rest, map => do
    let value ← reencode float item
    reencodeFields float rest (setKey (goString key) value map)

end

/-- A `*any` field through `detailsJSON`: absent, null and the pointer taken away
again are all no details. -/
def detailsField (float : FloatFormat) (name : String) (fields : List (List JsonChar × Json)) :
    Option (Option Json) :=
  (fieldValues name fields).foldlM (fun _ value =>
    match value with
    | .null => some none
    | other => (reencode float other).map some) none

end VodogeCloud.Source.GoJson
