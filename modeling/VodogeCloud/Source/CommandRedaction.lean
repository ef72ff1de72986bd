import VodogeCloud.Source.CardDelivery
import VodogeCloud.Source.CommandCatalogue

/-!
# Credentials out of sight

`secretKeys`, `SecretKeys`, `Redact`, `redactValue` and `RedactJSON`
(apps/gateway/internal/commands/redact.go:35-137), the audit row of an issued command
(apps/gateway/cmd/gateway/main.go:1708-1727) and the payload that `ListCommands` selects
(apps/gateway/internal/catalog/catalog.go:770).

`Redact` is modelled twice. On documents it is a function. On a heap it is what the source
says: a new map or slice is made and filled while the old one is read.
-/

set_option autoImplicit false

namespace VodogeCloud.Source.CommandRedaction

open VodogeCloud.Source.Postgres VodogeCloud.Source.CommandCatalogue
open VodogeCloud.Source.CardDelivery (anyFields)
open VodogeCloud.Source.CommandLifecycle (jsonbObject)
open VodogeCloud.Source.ProxyConfig (splitOn)

/-- `Redacted`. -/
def redacted : String := "••••••••"

/-- `secretKeys`: the tagged fields that have a name in JSON. -/
def secretKeys : List String :=
  (requestTags.filter fun tag => tag.2 && tag.1 ≠ "" && tag.1 ≠ "-").map Prod.fst

/-- `SecretKeys`. -/
def sortedSecretKeys : List String := secretKeys.insertionSort fun a b => a.toList ≤ b.toList

def isSecret (key : String) : Bool := secretKeys.contains key

/-! ## Documents -/

/-- What stands under a secret key; no text stays no text. -/
def concealed (value : Jsonb) : Jsonb := if value = .str "" then value else .str redacted

mutual

/-- `redactValue`, on a document. -/
def redactDocument : Jsonb → Jsonb
  | .obj fields => .obj (redactFields fields)
  | .arr items => .arr (redactItems items)
  | other => other

def redactFields : List (String × Jsonb) → List (String × Jsonb)
  | [] => []
  | (key, value) :: rest =>
    (key, if isSecret key then concealed value else redactDocument value) :: redactFields rest

def redactItems : List Jsonb → List Jsonb
  | [] => []
  | item :: rest => redactDocument item :: redactItems rest

end

/-- What `RedactJSON` answers when it cannot read the payload. -/
def redactionFailed : Jsonb := jsonbObject [("redaction_failed", .str "payload is not a json object")]

/-- `RedactJSON`, between the documents of its argument and of its answer; `number` is the
way of a number through a float64. A null decodes to no map. -/
def redactJson (number : Rat → Option Rat) : Jsonb → Jsonb
  | .null => .null
  | .obj fields =>
    match anyFields number fields with
    | some document => .obj (redactFields document)
    | none => redactionFailed
  | _ => redactionFailed

/-- A row of app.audit_log. -/
structure AuditEvent where
  actor : String
  action : String
  target : String
  detail : Jsonb
  deriving DecidableEq, Repr

/-- The row of an issued command. -/
def auditEvent (number : Rat → Option Rat) (request : Request) (spec : Spec) (payload : Jsonb) : AuditEvent where
  actor := "console"
  action := spec.kind
  target := request.deviceId
  detail := redactJson number payload

/-- `jsonb - text[]`. -/
def jsonbMinus (value : Jsonb) (keys : List String) : Except PgError Jsonb :=
  match value with
  | .obj fields => .ok (.obj (fields.filter fun field => !keys.contains field.1))
  | .arr items => .ok (.arr (items.filter fun item => !keys.any fun key => item = .str key))
  | _ => .error ⟨"22023", "cannot delete from scalar"⟩

/-- `string_to_array($3, ',')` of the joined keys. -/
def listedKeys : List String := (splitOn ',' (String.intercalate "," sortedSecretKeys).toList).map String.ofList

/-- The payload `ListCommands` selects. -/
def listedPayload (payload : Jsonb) : Except PgError Jsonb := jsonbMinus payload listedKeys

/-! ## Values on the heap -/

/-- A Go `any` that came out of JSON: a plain value, or a reference. -/
inductive GoValue where
  | plain (value : Jsonb)
  | map (ref : Nat)
  | slice (ref : Nat)

inductive Object where
  | map (fields : List (String × GoValue))
  | slice (items : List GoValue)

/-- What was allocated so far; a reference is a position. -/
abbrev Heap := List Object

/-- `m[key] = value`. -/
def assign (key : String) (value : GoValue) (fields : List (String × GoValue)) : List (String × GoValue) :=
  if fields.any fun field => field.1 = key then fields.map fun field => if field.1 = key then (key, value) else field
  else fields ++ [(key, value)]

def setKey (heap : Heap) (ref : Nat) (key : String) (value : GoValue) : Heap :=
  heap.modify ref fun object =>
    match object with
    | .map fields => .map (assign key value fields)
    | other => other

def setIndex (heap : Heap) (ref index : Nat) (value : GoValue) : Heap :=
  heap.modify ref fun object =>
    match object with
    | .slice items => .slice (items.set index value)
    | other => other

/-- `value.(string)` and empty. -/
def isEmptyText : GoValue → Bool
  | .plain (.str text) => text = ""
  | _ => false

/-- The loop over a map, into its clone. -/
def redactEntries (visit : Heap → GoValue → Option (Heap × GoValue)) (clone : Nat) :
    Heap → List (String × GoValue) → Option Heap
  | heap, [] => some heap
  | heap, (key, value) :: rest =>
    if isSecret key then
      if isEmptyText value then redactEntries visit clone (setKey heap clone key value) rest
      else redactEntries visit clone (setKey heap clone key (.plain (.str redacted))) rest
    else do
      let (heap, value) ← visit heap value
      redactEntries visit clone (setKey heap clone key value) rest

/-- The loop over a slice, into the new one. -/
def redactElements (visit : Heap → GoValue → Option (Heap × GoValue)) (clone : Nat) :
    Heap → Nat → List GoValue → Option Heap
  | heap, _, [] => some heap
  | heap, index, value :: rest => do
    let (heap, value) ← visit heap value
    redactElements visit clone (setIndex heap clone index value) (index + 1) rest

/-- `redactValue`, and `Redact` on a map; the fuel bounds the depth of the value. -/
def redactValue : Nat → Heap → GoValue → Option (Heap × GoValue)
  | 0, _, _ => none
  | _ + 1, heap, .plain value => some (heap, .plain value)
  | fuel + 1, heap, .map ref =>
    match heap[ref]? with
    | some (.map fields) => do
      let heap' ← redactEntries (redactValue fuel) heap.length (heap ++ [.map []]) fields
      return (heap', .map heap.length)
    | _ => none
  | fuel + 1, heap, .slice ref =>
    match heap[ref]? with
    | some (.slice items) => do
      let blank := .slice (List.replicate items.length (.plain .null))
      let heap' ← redactElements (redactValue fuel) heap.length (heap ++ [blank]) 0 items
      return (heap', .slice heap.length)
    | _ => none

end VodogeCloud.Source.CommandRedaction
