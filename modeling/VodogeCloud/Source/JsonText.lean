import Mathlib.Data.Char
import Mathlib.Data.List.Lex
import VodogeCloud.Lib.Sha256
import VodogeCloud.Source.GoJson

/-!
# JSON as bytes

The three encoders whose output is hashed or compared: `json.Marshal` of the Go
library, the output of a jsonb column once `json.Marshal` has compacted it as a
`json.RawMessage`, and serde_json over a BTreeMap, as the edge is said to render a
matrix. They differ in the order of keys, in the characters they escape and in how
they write a number.
-/

set_option autoImplicit false

namespace VodogeCloud.Source.JsonText

open VodogeCloud.Lib VodogeCloud.Source.Postgres
open VodogeCloud.Source.GoJson (scalarOf)

/-! ## Strings -/

/-- `\u` and four digits. -/
def unicodeEscape (c : Char) : List Char :=
  ['\\', 'u', nibble c.toNat 3, nibble c.toNat 2, nibble c.toNat 1, nibble c.toNat 0]

/-- The escapes JSON requires, the short ones where there are any. -/
def requiredEscape (c : Char) : List Char :=
  if c = '"' then ['\\', '"']
  else if c = '\\' then ['\\', '\\']
  else if c = '\x08' then ['\\', 'b']
  else if c = '\x0c' then ['\\', 'f']
  else if c = '\n' then ['\\', 'n']
  else if c = '\r' then ['\\', 'r']
  else if c = '\t' then ['\\', 't']
  else if c < ' ' then unicodeEscape c
  else [c]

/-- What `json.Marshal` escapes besides, for HTML and JavaScript. -/
def htmlSpecial (c : Char) : Bool :=
  c = '<' || c = '>' || c = '&' || c = '\u2028' || c = '\u2029'

def goEscape (c : Char) : List Char := if htmlSpecial c then unicodeEscape c else requiredEscape c

def quoted (escape : Char → List Char) (text : List Char) : List Char :=
  '"' :: text.flatMap escape ++ ['"']

/-- A Go string through `json.Marshal`. -/
def goQuote (text : String) : List Char := quoted goEscape text.toList

/-! ## Numbers -/

def digitsOf (n : Nat) : List Char := Nat.toDigits 10 n

def signed (value : Int) (digits : List Char) : List Char := if value < 0 then '-' :: digits else digits

/-- The decimal notation of `digits * 10 ^ (-places)`. -/
def pointed (digits : List Char) (places : Nat) : List Char :=
  let padded := List.replicate (places + 1 - digits.length) '0' ++ digits
  padded.take (padded.length - places) ++ '.' :: padded.drop (padded.length - places)

/-- The float64 `mantissa * 10 ^ exponent` in its fewest digits: an exponent is written
below 1e-6 and from 1e21 on. -/
def goNumber (mantissa : Int) (exponent : Option Int) : List Char :=
  let digits := digitsOf mantissa.natAbs
  let power := exponent.getD 0
  let point := digits.length - 1 + power
  signed mantissa <|
    if mantissa ≠ 0 ∧ (point < -6 ∨ 21 ≤ point) then
      (match digits with
        | first :: second :: rest => first :: '.' :: second :: rest
        | other => other) ++ 'e' :: (if point < 0 then '-' else '+') :: digitsOf point.natAbs
    else if 0 ≤ power then digits ++ List.replicate power.toNat '0'
    else pointed digits (-power).toNat

/-- `numeric_out` of a number without trailing zeros. -/
def numericOut (value : Rat) : List Char :=
  signed value.num <|
    if value.den = 1 then digitsOf value.num.natAbs
    else
      let places := ((List.range 16384).find? fun k => 10 ^ k % value.den = 0).getD 0
      pointed (digitsOf (value.num.natAbs * (10 ^ places / value.den))) places

/-! ## Values -/

def separated (pieces : List (List Char)) : List Char :=
  (pieces.intersperse [',']).flatten

def enclosed (open_ close : Char) (pieces : List (List Char)) : List Char :=
  open_ :: separated pieces ++ [close]

def boolText (value : Bool) : List Char := if value then "true".toList else "false".toList

/-- A field with its key, as `json.Marshal` writes it. -/
def member (key : String) (value : List Char) : List Char := goQuote key ++ ':' :: value

mutual

/-- `json.Marshal` of a value whose maps are written in the order given. -/
def goText : Json → List Char
  | .null => "null".toList
  | .bool value => boolText value
  | .num mantissa exponent => goNumber mantissa exponent
  | .str text => quoted goEscape (text.map scalarOf)
  | .arr items => enclosed '[' ']' (goItems items)
  | .obj fields => enclosed '\x7b' '\x7d' (goFields fields)

def goItems : List Json → List (List Char)
  | [] => []
  | item :: rest => goText item :: goItems rest

def goFields : List (List JsonChar × Json) → List (List Char)
  | [] => []
  | (key, value) :: rest =>
    (quoted goEscape (key.map scalarOf) ++ ':' :: goText value) :: goFields rest

end

mutual

/-- A jsonb value as text, without its spaces and with the escapes that `json.Marshal`
adds to a raw message. -/
def compactText : Jsonb → List Char
  | .null => "null".toList
  | .bool value => boolText value
  | .num value => numericOut value
  | .str text => quoted goEscape text.toList
  | .arr items => enclosed '[' ']' (compactItems items)
  | .obj fields => enclosed '\x7b' '\x7d' (compactFields fields)

def compactItems : List Jsonb → List (List Char)
  | [] => []
  | item :: rest => compactText item :: compactItems rest

def compactFields : List (String × Jsonb) → List (List Char)
  | [] => []
  | (key, value) :: rest =>
    (quoted goEscape key.toList ++ ':' :: compactText value) :: compactFields rest

end

mutual

/-- A value with its keys in byte order, without spaces, under an escape. -/
def orderedText (escape : Char → List Char) : Jsonb → List Char
  | .null => "null".toList
  | .bool value => boolText value
  | .num value => numericOut value
  | .str text => quoted escape text.toList
  | .arr items => enclosed '[' ']' (orderedItems escape items)
  | .obj fields =>
    enclosed '\x7b' '\x7d' (((orderedFields escape fields).insertionSort (fun a b => a.1 ≤ b.1)).map
      fun field => quoted escape field.1 ++ ':' :: field.2)

def orderedItems (escape : Char → List Char) : List Jsonb → List (List Char)
  | [] => []
  | item :: rest => orderedText escape item :: orderedItems escape rest

/-- The keys with the text of their values. -/
def orderedFields (escape : Char → List Char) : List (String × Jsonb) → List (List Char × List Char)
  | [] => []
  | (key, value) :: rest => (key.toList, orderedText escape value) :: orderedFields escape rest

end

/-- serde_json over a BTreeMap: keys in byte order, no spaces, the required escapes. -/
def serdeText : Jsonb → List Char := orderedText requiredEscape

/-! ## Hashes -/

/-- The UTF-8 bytes of a text. -/
def utf8 (text : List Char) : List UInt8 := text.flatMap String.utf8EncodeChar

/-- `hex.EncodeToString(sum[:])`. -/
def sha256Hex (text : List Char) : String := String.ofList (Sha256.hex (Sha256.digest (utf8 text)))

/-- `hex.EncodeToString(sum[:8])`. -/
def fingerprint (text : List Char) : String :=
  String.ofList (Sha256.hex ((Sha256.digest (utf8 text)).take 8))

end VodogeCloud.Source.JsonText
