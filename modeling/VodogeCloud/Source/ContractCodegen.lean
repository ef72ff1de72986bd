import VodogeCloud.Source.JsonText

/-!
# The contract's code generator

`rust_type`, `go_type`, `ts_type` and `collect_constraints` of
packages/contract/codegen/generate.py:56-57, 85-238, 446-484. A node of the schema keeps the
keywords these four read. Every `$ref` of the schema has its definition; `anyOf` holds at
least one node where it is written, so none stands for a node without the keyword.
-/

set_option autoImplicit false

namespace VodogeCloud.Source.ContractCodegen

open VodogeCloud.Source.Postgres (nibble)
open VodogeCloud.Source.JsonText (requiredEscape quoted)

/-- The keyword `type`: a name or a list of names. -/
inductive TypeKeyword where
  | one (name : String)
  | many (names : List String)
  deriving DecidableEq, Repr

/-- The keywords of a node that hold no node. `const` is the JSON text of its value. -/
structure Keywords where
  wireType : Option String := none
  ref : Option String := none
  enum : Option (List String) := none
  const : Option String := none
  oneOf : Bool := false
  allOf : Bool := false
  type : Option TypeKeyword := none
  deriving DecidableEq, Repr

inductive Schema where
  | node (keywords : Keywords) (anyOf : List Schema) (items : Option Schema)
      (properties : List (String × Schema))

def Schema.keywords : Schema → Keywords
  | .node keywords _ _ _ => keywords

def Schema.anyOf : Schema → List Schema
  | .node _ anyOf _ _ => anyOf

/-- `$defs`. -/
abbrev Definitions := String → Schema

def Schema.isNull (schema : Schema) : Bool := schema.keywords.type = some (.one "null")

def isU64Decimal (schema : Schema) : Bool := schema.keywords.wireType = some "u64-decimal"

/-- A definition that is nothing but a constrained string. -/
def isStringScalar (schema : Schema) : Bool :=
  schema.keywords.type = some (.one "string") && schema.keywords.enum.isNone &&
    schema.keywords.const.isNone && schema.anyOf.isEmpty && !schema.keywords.oneOf && !schema.keywords.allOf

def startsWith (text head : String) : Bool := head.toList.isPrefixOf text.toList

/-- `schema.get("enum")` where it counts as true. -/
def Keywords.hasEnum (keywords : Keywords) : Bool :=
  match keywords.enum with
  | some (_ :: _) => true
  | _ => false

/-- The one node beside a null, where `anyOf` is such a pair; its text is given with
whether it is a null. -/
def nullablePair (texts : List (Bool × String)) : Option String :=
  match texts.filter (fun text => !text.1) with
  | [text] => if texts.length = 2 then some text.2 else none
  | _ => none

/-- The one type beside "null", where a list of types is such a pair. -/
def nullableType (names : List String) : Option String :=
  match names.filter (fun name => name ≠ "null") with
  | [name] => if names.length = 2 then some name else none
  | _ => none

/-! ## Rust -/

def rustOption (inner : String) : String :=
  if startsWith inner "Option<" then inner else "Option<" ++ inner ++ ">"

/-- A node whose `type` is a single name, its items printed already. -/
def rustNamed (keywords : Keywords) (items type : String) : String :=
  if keywords.hasEnum && type = "string" then "String"
  else if keywords.const.isSome then "String"
  else if type = "string" then "String"
  else if type = "boolean" then "bool"
  else if type = "integer" then "i64"
  else if type = "number" then "f64"
  else if type = "object" then "ContextValue"
  else if type = "array" then "Vec<" ++ items ++ ">"
  else "ContextValue"

def rustRef (defs : Definitions) (name : String) : String :=
  if isU64Decimal (defs name) then "u64"
  else if name = "NullableString" then "Option<String>"
  else if isStringScalar (defs name) then "String"
  else if name = "EpochMillis" then "i64"
  else name

mutual

def rustType (defs : Definitions) : Schema → String
  | .node keywords anyOf items properties =>
    if isU64Decimal (.node keywords anyOf items properties) then "u64"
    else
      match keywords.ref, rustEach defs anyOf, keywords.type with
      | some name, _, _ => rustRef defs name
      | none, first :: rest, _ =>
        match nullablePair (first :: rest) with
        | some inner => rustOption inner
        | none => "ContextValue"
      | none, [], some (.one type) => rustNamed keywords (rustItems defs items) type
      | none, [], some (.many types) =>
        if keywords.const.isSome then "String"
        else
          match nullableType types with
          | some type => rustOption (rustNamed keywords (rustItems defs items) type)
          | none => "ContextValue"
      | none, [], none => if keywords.const.isSome then "String" else "ContextValue"

/-- An array without `items` holds nodes without keywords. -/
def rustItems (defs : Definitions) : Option Schema → String
  | some item => rustType defs item
  | none => "ContextValue"

def rustEach (defs : Definitions) : List Schema → List (Bool × String)
  | [] => []
  | item :: rest => (item.isNull, rustType defs item) :: rustEach defs rest

end

/-! ## Go -/

def goPointer (inner : String) : String :=
  if startsWith inner "*" then inner else "*" ++ inner

def goRef (defs : Definitions) (name : String) : String :=
  if isU64Decimal (defs name) then "string"
  else if isStringScalar (defs name) then "string"
  else if name = "NullableString" then "*string"
  else if name = "EpochMillis" then "int64"
  else if name = "ContextValue" then "any"
  else name

/-- A node that is no reference and no union, its items printed already. -/
def goPlain (keywords : Keywords) (items : String) : String :=
  if keywords.type = some (.one "string") || keywords.const.isSome || keywords.hasEnum then "string"
  else if keywords.type = some (.one "boolean") then "bool"
  else if keywords.type = some (.one "integer") then "int64"
  else if keywords.type = some (.one "number") then "float64"
  else if keywords.type = some (.one "array") then "[]" ++ items
  else if keywords.type = some (.many ["string", "null"]) then "*string"
  else "any"

mutual

def goType (defs : Definitions) : Schema → String
  | .node keywords anyOf items properties =>
    if isU64Decimal (.node keywords anyOf items properties) then "string"
    else
      match keywords.ref, goEach defs anyOf with
      | some name, _ => goRef defs name
      | none, first :: rest =>
        match nullablePair (first :: rest) with
        | some inner => goPointer inner
        | none => "any"
      | none, [] => goPlain keywords (goItems defs items)

def goItems (defs : Definitions) : Option Schema → String
  | some item => goType defs item
  | none => "any"

def goEach (defs : Definitions) : List Schema → List (Bool × String)
  | [] => []
  | item :: rest => (item.isNull, goType defs item) :: goEach defs rest

end

/-! ## TypeScript -/

/-- `\u` and four digits of a UTF-16 unit. -/
def unitEscape (unit : Nat) : List Char :=
  ['\\', 'u', nibble unit 3, nibble unit 2, nibble unit 1, nibble unit 0]

/-- `json.dumps` of a character: what is outside ASCII is escaped, beyond the basic plane as
a pair. -/
def pythonEscape (c : Char) : List Char :=
  if c.toNat < 127 then requiredEscape c
  else if c.toNat < 65536 then unitEscape c.toNat
  else unitEscape (55296 + (c.toNat - 65536) / 1024) ++ unitEscape (56320 + (c.toNat - 65536) % 1024)

def jsonDumps (text : String) : String := String.ofList (quoted pythonEscape text.toList)

def union (members : List String) : String := " | ".intercalate members

def tsRef (defs : Definitions) (name : String) : String :=
  if isU64Decimal (defs name) then "string"
  else if name = "NullableString" then "string | null"
  else if name = "EpochMillis" then "number"
  else name

/-- A node that is no reference and no union, its items printed already. -/
def tsPlain (keywords : Keywords) (items : String) : String :=
  if keywords.hasEnum && keywords.type = some (.one "string") then
    union ((keywords.enum.getD []).map jsonDumps)
  else
    match keywords.const with
    | some value => value
    | none =>
      if keywords.type = some (.one "string") then "string"
      else if keywords.type = some (.one "boolean") then "boolean"
      else if keywords.type = some (.one "integer") || keywords.type = some (.one "number") then "number"
      else if keywords.type = some (.one "array") then "Array<" ++ items ++ ">"
      else if keywords.type = some (.many ["string", "null"]) then "string | null"
      else if keywords.type = some (.one "null") then "null"
      else if keywords.type = some (.one "object") then "ContextValue"
      else "unknown"

mutual

def tsType (defs : Definitions) : Schema → String
  | .node keywords anyOf items properties =>
    if isU64Decimal (.node keywords anyOf items properties) then "string"
    else
      match keywords.ref, tsEach defs anyOf with
      | some name, _ => tsRef defs name
      | none, first :: rest => union (first :: rest)
      | none, [] => tsPlain keywords (tsItems defs items)

def tsItems (defs : Definitions) : Option Schema → String
  | some item => tsType defs item
  | none => "unknown"

def tsEach (defs : Definitions) : List Schema → List String
  | [] => []
  | item :: rest => tsType defs item :: tsEach defs rest

end

/-! ## Constraints -/

abbrev Found := List (String × List String)

mutual

/-- `walk`, given what a reference leads to. -/
def walk (follow : String → String → Found) (path : String) : Schema → Found
  | .node keywords anyOf items properties =>
    match keywords.ref with
    | some name => follow name path
    | none =>
      if anyOf.isEmpty then
        if keywords.hasEnum && keywords.type = some (.one "string") then
          [(path, keywords.enum.getD [])]
        else if keywords.type = some (.one "array") && items.isSome then
          walkItems follow (path ++ "[]") items
        else walkProperties follow path properties
      else walkEach follow path anyOf

def walkItems (follow : String → String → Found) (path : String) : Option Schema → Found
  | some item => walk follow path item
  | none => []

def walkEach (follow : String → String → Found) (path : String) : List Schema → Found
  | [] => []
  | item :: rest =>
    (if item.isNull then [] else walk follow path item) ++ walkEach follow path rest

def walkProperties (follow : String → String → Found) (path : String) : List (String × Schema) → Found
  | [] => []
  | (field, spec) :: rest =>
    walk follow (if path = "" then field else path ++ "." ++ field) spec ++ walkProperties follow path rest

end

/-- A definition already on the branch is not followed again, so as many turns as there are
definitions follow every branch to its end. -/
def walkRef (defs : Definitions) : Nat → List String → String → String → Found
  | 0, _, _, _ => []
  | turns + 1, seen, name, path =>
    if name ∈ seen then [] else walk (walkRef defs turns (name :: seen)) path (defs name)

/-- `collect_constraints`, of a schema with so many definitions. -/
def collectConstraints (defs : Definitions) (count : Nat) (schema : Schema) : Found :=
  walk (walkRef defs count []) "" schema

end VodogeCloud.Source.ContractCodegen
