import VodogeCloud.Lib.JsonTree
import VodogeCloud.Lib.SortedEntries
import VodogeCloud.Source.JsonText

/-!
# Scrubbing a payload

`stripNulls` and `scrubValue` (apps/gateway/internal/ingress/sanitize.go:37-100) on the text
of a payload: the scan for the escape, the decoding into `any` with its numbers kept as
written, Go maps walked in any order, and `json.Marshal`. A payload is a Unicode text with
the document it spells. Decoding and scrubbing look at no number, so they are stated for any
type of numbers; the journal scrubs the documents it reads with them too.
-/

set_option autoImplicit false

namespace VodogeCloud.Source.NulScrub

open VodogeCloud.Lib VodogeCloud.Lib.SortedEntries
open VodogeCloud.Lib.NetAddress (hexDigit)
open VodogeCloud.Source.Postgres (JsonChar)
open VodogeCloud.Source.GoJson (scalarOf)
open VodogeCloud.Source.JsonText (boolText)

/-! ## Strings as spelt -/

structure HexDigit where
  digit : Char
  hex : (hexDigit digit).isSome = true
  deriving DecidableEq

def HexDigit.value (hex : HexDigit) : Nat := ((hexDigit hex.digit).get hex.hex).val

/-- The escapes of one letter. -/
inductive ShortEscape where
  | quote | backslash | slash | backspace | formFeed | newline | carriageReturn | tab
  deriving DecidableEq

def ShortEscape.letter : ShortEscape → Char
  | .quote => '"'
  | .backslash => '\\'
  | .slash => '/'
  | .backspace => 'b'
  | .formFeed => 'f'
  | .newline => 'n'
  | .carriageReturn => 'r'
  | .tab => 't'

def ShortEscape.char : ShortEscape → Char
  | .quote => '"'
  | .backslash => '\\'
  | .slash => '/'
  | .backspace => '\x08'
  | .formFeed => '\x0c'
  | .newline => '\n'
  | .carriageReturn => '\r'
  | .tab => '\t'

/-- A character of a JSON string as it is spelt. -/
inductive Spelt where
  | plain (c : Char) (allowed : ' ' ≤ c ∧ c ≠ '"' ∧ c ≠ '\\')
  | short (escape : ShortEscape)
  | unicode (first second third fourth : HexDigit)
  deriving DecidableEq

def Spelt.text : Spelt → List Char
  | .plain c _ => [c]
  | .short escape => ['\\', escape.letter]
  | .unicode first second third fourth => ['\\', 'u', first.digit, second.digit, third.digit, fourth.digit]

def unitOf (first second third fourth : HexDigit) : Nat :=
  ((first.value * 16 + second.value) * 16 + third.value) * 16 + fourth.value

def isHigh (unit : Nat) : Bool := 0xD800 ≤ unit && unit < 0xDC00
def isLow (unit : Nat) : Bool := 0xDC00 ≤ unit && unit < 0xE000

/-- A code unit by itself. -/
def unitChar (unit : Nat) : JsonChar :=
  if isHigh unit || isLow unit then .loneSurrogate unit else .scalar (Char.ofNat unit)

/-- `utf16.DecodeRune` of a surrogate pair. -/
def pairChar (high low : Nat) : JsonChar :=
  .scalar (Char.ofNat ((high - 0xD800) * 0x400 + (low - 0xDC00) + 0x10000))

/-- The code points of a string; two escapes that make a surrogate pair are one. -/
def readText : List Spelt → List JsonChar
  | [] => []
  | .plain c _ :: rest => .scalar c :: readText rest
  | .short escape :: rest => .scalar escape.char :: readText rest
  | [.unicode a b c d] => [unitChar (unitOf a b c d)]
  | .unicode a b c d :: next :: rest =>
    match next with
    | .unicode e f g h =>
      if isHigh (unitOf a b c d) && isLow (unitOf e f g h) then
        pairChar (unitOf a b c d) (unitOf e f g h) :: readText rest
      else unitChar (unitOf a b c d) :: readText (next :: rest)
    | _ => unitChar (unitOf a b c d) :: readText (next :: rest)

/-! ## Numbers as spelt -/

def isDigit (c : Char) : Bool := '0' ≤ c && c ≤ '9'

/-- What is left after the integer digits; nothing of a number without any. -/
def afterInteger : List Char → Option (List Char)
  | [] => none
  | c :: rest =>
    if c = '0' then some rest
    else if '1' ≤ c && c ≤ '9' then some (rest.dropWhile isDigit)
    else none

def afterFraction : List Char → List Char
  | '.' :: digit :: rest => if isDigit digit then rest.dropWhile isDigit else '.' :: digit :: rest
  | other => other

/-- A sign without a digit leaves the number invalid. -/
def afterExponent : List Char → Option (List Char)
  | mark :: next :: rest =>
    if mark = 'e' || mark = 'E' then
      if next = '+' || next = '-' then
        if rest.isEmpty then none else some (rest.dropWhile isDigit)
      else some ((next :: rest).dropWhile isDigit)
    else some (mark :: next :: rest)
  | other => some other

/-- `isValidNumber` of encoding/json. -/
def isValidNumber (text : List Char) : Bool :=
  let unsigned := match text with
    | '-' :: rest => rest
    | other => other
  match (afterInteger unsigned).bind fun rest => afterExponent (afterFraction rest) with
  | some [] => true
  | _ => false

structure Numeral where
  text : List Char
  valid : isValidNumber text = true
  deriving DecidableEq

/-! ## Documents -/

/-- A document as spelt, as its code points, and as Go values. -/
abbrev Document := JsonTree Numeral (List Spelt)
abbrev Content := JsonTree Numeral (List JsonChar)
abbrev GoTree (ν : Type) := JsonTree ν (List Char)
abbrev GoValue := GoTree Numeral
abbrev Entries := List (List Char × GoValue)

/-- What a document says. -/
def content (document : Document) : Content := document.map readText

def quotedText (text : List Spelt) : List Char := '"' :: text.flatMap Spelt.text ++ ['"']

def isBlank (text : List Char) : Bool := text.all fun c => c = ' ' || c = '\t' || c = '\n' || c = '\r'

mutual

/-- The texts of a document, with white space wherever JSON allows it. -/
inductive Spells : List Char → Document → Prop
  | null : Spells "null".toList .null
  | bool (value : Bool) : Spells (boolText value) (.bool value)
  | num (value : Numeral) : Spells value.text (.num value)
  | str (text : List Spelt) : Spells (quotedText text) (.str text)
  | noItems {blank : List Char} (space : isBlank blank) : Spells ('[' :: blank ++ [']']) (.arr [])
  | arr {text : List Char} {items : List Document} (each : SpellsItems text items) :
      Spells ('[' :: text ++ [']']) (.arr items)
  | noFields {blank : List Char} (space : isBlank blank) : Spells ('\x7b' :: blank ++ ['\x7d']) (.obj [])
  | obj {text : List Char} {fields : List (List Spelt × Document)} (each : SpellsFields text fields) :
      Spells ('\x7b' :: text ++ ['\x7d']) (.obj fields)
  | spaced {before text after : List Char} {document : Document} (spaceBefore : isBlank before)
      (spells : Spells text document) (spaceAfter : isBlank after) : Spells (before ++ text ++ after) document

inductive SpellsItems : List Char → List Document → Prop
  | last {text : List Char} {item : Document} (spells : Spells text item) : SpellsItems text [item]
  | more {text later : List Char} {item : Document} {items : List Document} (spells : Spells text item)
      (each : SpellsItems later items) : SpellsItems (text ++ ',' :: later) (item :: items)

inductive SpellsFields : List Char → List (List Spelt × Document) → Prop
  | last {before between text : List Char} (key : List Spelt) {item : Document} (spaceBefore : isBlank before)
      (spaceBetween : isBlank between) (spells : Spells text item) :
      SpellsFields (before ++ quotedText key ++ between ++ ':' :: text) [(key, item)]
  | more {before between text later : List Char} (key : List Spelt) {item : Document}
      {fields : List (List Spelt × Document)} (spaceBefore : isBlank before) (spaceBetween : isBlank between)
      (spells : Spells text item) (each : SpellsFields later fields) :
      SpellsFields (before ++ quotedText key ++ between ++ ':' :: text ++ ',' :: later) ((key, item) :: fields)

end

/-- A payload that is valid JSON. -/
structure Payload where
  text : List Char
  document : Document
  spells : Spells text document

/-! ## Decoding into any -/

variable {ν : Type}

mutual

/-- `decoder.Decode` with `UseNumber`: an unpaired surrogate becomes U+FFFD and of the values of
one key the last stays. -/
def decode : JsonTree ν (List JsonChar) → GoTree ν
  | .null => .null
  | .bool value => .bool value
  | .num value => .num value
  | .str text => .str (text.map scalarOf)
  | .arr items => .arr (decodeItems items)
  | .obj fields => .obj (setAll (decodeFields fields))

def decodeItems : List (JsonTree ν (List JsonChar)) → List (GoTree ν)
  | [] => []
  | item :: rest => decode item :: decodeItems rest

def decodeFields : List (List JsonChar × JsonTree ν (List JsonChar)) → List (List Char × GoTree ν)
  | [] => []
  | (key, item) :: rest => (key.map scalarOf, decode item) :: decodeFields rest

end

/-- The scanner's limit on open arrays and objects. -/
def maxNestingDepth : Nat := 10000

/-! ## Scrubbing -/

/-- The order in which `range` goes through each map, told by where the map is in the document.
What is permuted are the entries already cleaned, one for each entry visited. -/
structure MapOrder (ν : Type) where
  visit : List Nat → List (List Char × GoTree ν) → List (List Char × GoTree ν)
  permuted : ∀ path entries, (visit path entries).Perm entries

def MapOrder.forwards : MapOrder ν := ⟨fun _ entries => entries, fun _ entries => List.Perm.refl entries⟩
def MapOrder.backwards : MapOrder ν := ⟨fun _ entries => entries.reverse, fun _ entries => entries.reverse_perm⟩

/-- `strings.ReplaceAll(text, "\x00", "")`. -/
def withoutNuls (text : List Char) : List Char := text.filter fun c => c ≠ '\x00'

mutual

/-- `scrubValue`. -/
def scrubValue (order : MapOrder ν) (path : List Nat) : GoTree ν → GoTree ν × Bool
  | .str text => if '\x00' ∈ text then (.str (withoutNuls text), true) else (.str text, false)
  | .arr items =>
    let cleaned := scrubItems order path 0 items
    (.arr cleaned.1, cleaned.2)
  | .obj entries =>
    let cleaned := scrubEntries order path 0 entries
    (.obj (setAll (order.visit path cleaned.1)), cleaned.2)
  | value => (value, false)

def scrubItems (order : MapOrder ν) (path : List Nat) (index : Nat) :
    List (GoTree ν) → List (GoTree ν) × Bool
  | [] => ([], false)
  | item :: rest =>
    let cleaned := scrubValue order (index :: path) item
    let others := scrubItems order path (index + 1) rest
    ((if cleaned.2 then cleaned.1 else item) :: others.1, cleaned.2 || others.2)

def scrubEntries (order : MapOrder ν) (path : List Nat) (index : Nat) :
    List (List Char × GoTree ν) → List (List Char × GoTree ν) × Bool
  | [] => ([], false)
  | (key, item) :: rest =>
    let cleanKey := if '\x00' ∈ key then withoutNuls key else key
    let cleanItem := scrubValue order (index :: path) item
    let others := scrubEntries order path (index + 1) rest
    ((cleanKey, cleanItem.1) :: others.1, decide ('\x00' ∈ key) || cleanItem.2 || others.2)

end

/-! ## Encoding -/

theorem hexDigit_digitChar : ∀ digit : Fin 16, (hexDigit (Nat.digitChar digit)).isSome = true := by decide

def hexOf (value : Nat) : HexDigit :=
  ⟨Nat.digitChar (value % 16), hexDigit_digitChar ⟨value % 16, Nat.mod_lt _ (by decide)⟩⟩

def unicodeSpelling (c : Char) : Spelt :=
  .unicode (hexOf (c.toNat / 4096)) (hexOf (c.toNat / 256)) (hexOf (c.toNat / 16)) (hexOf c.toNat)

/-- How `json.Marshal` writes a character. -/
def goSpelling (c : Char) : Spelt :=
  if JsonText.htmlSpecial c then unicodeSpelling c
  else if quote : c = '"' then .short .quote
  else if backslash : c = '\\' then .short .backslash
  else if c = '\x08' then .short .backspace
  else if c = '\x0c' then .short .formFeed
  else if c = '\n' then .short .newline
  else if c = '\r' then .short .carriageReturn
  else if c = '\t' then .short .tab
  else if control : c < ' ' then unicodeSpelling c
  else .plain c ⟨not_lt.mp control, quote, backslash⟩

mutual

/-- A document without white space. -/
def compact : Document → List Char
  | .null => "null".toList
  | .bool value => boolText value
  | .num value => value.text
  | .str text => quotedText text
  | .arr items => '[' :: compactItems items ++ [']']
  | .obj fields => '\x7b' :: compactFields fields ++ ['\x7d']

def compactItems : List Document → List Char
  | [] => []
  | item :: rest => if rest.isEmpty then compact item else compact item ++ ',' :: compactItems rest

def compactFields : List (List Spelt × Document) → List Char
  | [] => []
  | (key, item) :: rest =>
    if rest.isEmpty then quotedText key ++ ':' :: compact item
    else quotedText key ++ ':' :: compact item ++ ',' :: compactFields rest

end

theorem spells_compactItems {items : List Document} (each : ∀ item ∈ items, Spells (compact item) item)
    (some_ : items ≠ []) : SpellsItems (compactItems items) items := by
  induction items with
  | nil => exact absurd rfl some_
  | cons item rest ih =>
    obtain ⟨own, others⟩ := List.forall_mem_cons.mp each
    cases rest with
    | nil => exact .last own
    | cons next later => exact .more own (ih others (List.cons_ne_nil next later))

theorem spells_compactFields {fields : List (List Spelt × Document)}
    (each : ∀ field ∈ fields, Spells (compact field.2) field.2) (some_ : fields ≠ []) :
    SpellsFields (compactFields fields) fields := by
  induction fields with
  | nil => exact absurd rfl some_
  | cons field rest ih =>
    obtain ⟨own, others⟩ := List.forall_mem_cons.mp each
    cases rest with
    | nil =>
      have one := @SpellsFields.last [] [] _ field.1 field.2 rfl rfl own
      rwa [List.nil_append, List.append_nil] at one
    | cons next later =>
      have one := @SpellsFields.more [] [] _ _ field.1 field.2 _ rfl rfl own (ih others (List.cons_ne_nil next later))
      rwa [List.nil_append, List.append_nil] at one

theorem spells_compact (document : Document) : Spells (compact document) document := by
  induction document using JsonTree.induction with
  | null => exact .null
  | bool value => exact .bool value
  | num value => exact .num value
  | str text => exact .str text
  | arr items ih =>
    cases items with
    | nil => exact @Spells.noItems [] rfl
    | cons item rest => exact .arr (spells_compactItems ih (List.cons_ne_nil item rest))
  | obj fields ih =>
    cases fields with
    | nil => exact @Spells.noFields [] rfl
    | cons field rest => exact .obj (spells_compactFields ih (List.cons_ne_nil field rest))

/-- `json.Marshal`; the numbers are valid, so it has nothing to fail on. -/
def marshal (value : GoValue) : Payload :=
  let document := value.map (List.map goSpelling)
  ⟨compact document, document, spells_compact document⟩

/-! ## The whole function -/

def nulEscape : List Char := ['\\', 'u', '0', '0', '0', '0']

/-- `stripNulls`. -/
def stripNulls (order : MapOrder Numeral) (payload : Payload) : Payload × Bool :=
  if ¬ nulEscape <:+: payload.text then (payload, false)
  else if maxNestingDepth < payload.document.nesting then (payload, false)
  else
    match scrubValue order [] (decode (content payload.document)) with
    | (_, false) => (payload, false)
    | (cleaned, true) => (marshal cleaned, true)

end VodogeCloud.Source.NulScrub
