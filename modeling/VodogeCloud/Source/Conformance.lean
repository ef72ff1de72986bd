import VodogeCloud.Source.NetUrl

/-!
# Checking a payload against the enums of the contract

`violations`, `valuesAt` and `contains` of apps/gateway/internal/wss/conformance.go:27-106,
and the generated table `PayloadConstraints` (packages/contract/go/contract.go:598-632). A
document decoded into `any` keeps its JSON value here; a key found twice reads as its last
value. `%q` is a parameter, its tables of printable characters being the library's.
-/

set_option autoImplicit false

namespace VodogeCloud.Source.Conformance

open VodogeCloud.Source.Postgres
open VodogeCloud.Source.GoJson (goString floatFits)
open VodogeCloud.Source.NetUrl (before after)

structure FieldConstraint where
  path : String
  enum : List String
  deriving DecidableEq, Repr

/-- `PayloadConstraints`; a kind without an entry is constrained by nothing. -/
def payloadConstraints : String → List FieldConstraint
  | "UplinkGap" => [⟨"reason", ["queue_capacity", "storage_corruption", "operator_purge"]⟩]
  | "CommandReceipt" => [⟨"status", ["accepted", "duplicate", "retry_later"]⟩]
  | "SmsReceived" =>
    [⟨"bearer", ["cs", "ims", "nas", "unknown"]⟩, ⟨"encoding", ["gsm7", "ucs2", "8bit", "unknown"]⟩]
  | "SmsStatusReport" => [⟨"status", ["delivered", "pending", "failed", "unknown"]⟩]
  | "DeviceState" =>
    [⟨"modems[].state", ["online", "offline", "recovering", "unknown"]⟩,
      ⟨"modems[].registration", ["registered", "searching", "denied", "unregistered", "unknown"]⟩,
      ⟨"modems[].discovery", ["qmi", "at"]⟩,
      ⟨"modems[].apn_contexts[].auth", ["none", "pap", "chap", "pap_or_chap"]⟩,
      ⟨"modems[].apn_contexts[].source", ["configured"]⟩,
      ⟨"modems[].capability.sms_mo", ["supported", "degraded", "unsupported", "unknown"]⟩,
      ⟨"modems[].capability.sms_mt", ["supported", "degraded", "unsupported", "unknown"]⟩,
      ⟨"modems[].capability.origin", ["rule", "fallback"]⟩,
      ⟨"discoveries[].transport", ["qmi", "at", "serial"]⟩,
      ⟨"discoveries[].state", ["manageable", "probe_failed", "at_only", "found", "claimed"]⟩]
  | "CommandResult" => [⟨"status", ["succeeded", "failed", "unknown", "expired", "cancelled"]⟩]
  | "EsimInventory" => [⟨"profiles[].state", ["enabled", "disabled", "deleted", "unknown"]⟩]
  | "Alert" => [⟨"level", ["info", "warning", "error", "critical"]⟩]
  | "ProtocolError" =>
    [⟨"code", ["invalid_envelope", "frame_too_large", "unsupported_version", "wrong_direction",
      "device_id_mismatch", "sequence_conflict", "sequence_state_invalid", "connection_superseded",
      "rate_limited"]⟩]
  | _ => []

/-! ## Decoding into any -/

mutual

/-- Every number of the document is a float64. -/
def numbersFit : Json → Bool
  | .num mantissa exponent => floatFits mantissa exponent
  | .arr items => numbersFitItems items
  | .obj fields => numbersFitFields fields
  | _ => true

def numbersFitItems : List Json → Bool
  | [] => true
  | item :: rest => numbersFit item && numbersFitItems rest

def numbersFitFields : List (List JsonChar × Json) → Bool
  | [] => true
  | (_, item) :: rest => numbersFit item && numbersFitFields rest

end

mutual

/-- How many arrays and objects are open at once. -/
def nesting : Json → Nat
  | .arr items => nestingItems items + 1
  | .obj fields => nestingFields fields + 1
  | _ => 0

def nestingItems : List Json → Nat
  | [] => 0
  | item :: rest => max (nesting item) (nestingItems rest)

def nestingFields : List (List JsonChar × Json) → Nat
  | [] => 0
  | (_, item) :: rest => max (nesting item) (nestingFields rest)

end

/-- `json.Unmarshal` into an `any` takes the document. -/
def decodes (document : Json) : Bool := numbersFit document && nesting document ≤ 10000

/-- `object[field]` of a value that is a map. -/
def objectField (node : Json) (field : String) : Option Json :=
  match node with
  | .obj fields => ((fields.filter fun entry => goString entry.1 = field).getLast?).map Prod.snd
  | _ => none

/-- `object[field].([]any)`; a value that is no array has no elements to visit. -/
def elements : Option Json → List Json
  | some (.arr items) => items
  | _ => []

/-- `node.(string)`. -/
def stringOf : Json → Option String
  | .str text => some (goString text)
  | _ => none

/-! ## The walk -/

theorem after_length {separator : Char} {path : List Char} (some_ : path ≠ []) :
    (after separator path).length < path.length := by
  have whole : 0 < path.length := List.length_pos_iff.mpr some_
  have kept := List.length_dropWhile_le (· ≠ separator) path
  unfold after
  rw [List.length_drop]
  omega

/-- `strings.HasSuffix(head, "[]")`. -/
def isArrayHead (head : List Char) : Bool := "[]".toList.isSuffixOf head

def valuesAt (node : Json) (path : List Char) : List String :=
  if path = [] then (stringOf node).toList
  else
    let head := before '.' path
    let rest := after '.' path
    if isArrayHead head then
      (elements (objectField node (String.ofList (head.take (head.length - 2))))).flatMap fun item =>
        valuesAt item rest
    else
      match objectField node (String.ofList head) with
      | some child => valuesAt child rest
      | none => []
termination_by path.length
decreasing_by all_goals exact after_length ‹_›

/-- The line that names a value outside its enum. -/
def violation (quote : String → String) (constraint : FieldConstraint) (actual : String) : String :=
  constraint.path ++ "=" ++ quote actual ++ " not in \x7b" ++ ",".intercalate constraint.enum ++ "\x7d"

/-- `violations`; a payload is absent where it is no JSON. -/
def violations (quote : String → String) (kind : String) (payload : Option Json) : List String :=
  let constraints := payloadConstraints kind
  if constraints = [] then []
  else
    match payload with
    | none => [kind ++ " payload is not valid JSON"]
    | some document =>
      if !decodes document then [kind ++ " payload is not valid JSON"]
      else
        constraints.flatMap fun constraint =>
          ((valuesAt document constraint.path.toList).filter
            fun actual => !constraint.enum.contains actual).map (violation quote constraint)

end VodogeCloud.Source.Conformance
