import VodogeCloud.Source.CommandCatalogue
import VodogeCloud.Source.Schedule

/-!
# What a schedule may ask for

`Validate` and `buildRequest` (apps/gateway/internal/schedule/schedule.go:281-376) and
`SQL.Resolve` (apps/gateway/internal/schedule/store.go:177-261): a task is tried with
stand-in identifiers when it is saved, and built for the target of its selector on every
run. `Validate` is given the task itself, never a nil pointer.
-/

set_option autoImplicit false

namespace VodogeCloud.Source.ScheduleValidation

open VodogeCloud.Source.Postgres VodogeCloud.Source.GoJson VodogeCloud.Source.CommandCatalogue
open VodogeCloud.Source.CommandLifecycle (fieldValues int64Value)
open VodogeCloud.Source.ServeDevice (trimSpace)
open VodogeCloud.Source.Schedule (Selector Target)

/-! ## The stored request -/

/-- A `bool` field. -/
def boolField (name : String) (fields : List (List JsonChar × Json)) : Option Bool :=
  (fieldValues name fields).foldlM (fun held value =>
    match value with
    | .bool flag => some flag
    | .null => some held
    | _ => none) false

/-- A pointer field whose values are read by `decode`; null takes the pointer away again. -/
def pointerField {α : Type} (decode : Json → Option α) (name : String)
    (fields : List (List JsonChar × Json)) : Option (Option α) :=
  (fieldValues name fields).foldlM (fun _ value =>
    match value with
    | .null => some none
    | other => (decode other).map some) none

def boolValue : Json → Option Bool
  | .bool flag => some flag
  | _ => none

/-- The texts 0 and -0 are one number here; a Go uint64 takes the first alone. -/
def uint64Value : Json → Option Nat
  | .num value none => if 0 ≤ value ∧ value < 2 ^ 64 then some value.toNat else none
  | _ => none

/-- `json.Unmarshal` into a `commands.Request`. -/
def decodeRequest (raw : Json) : Option Request := do
  let fields ← structFields raw
  return {
    deviceId := ← stringField "device_id" fields
    kind := ← stringField "kind" fields
    modemImei := ← stringField "modem_imei" fields
    to_ := ← stringField "to" fields
    body := ← stringField "body" fields
    command := ← stringField "command" fields
    timeoutMs := ← int64Field "timeout_ms" fields
    force := ← boolField "force" fields
    code := ← stringField "code" fields
    stage := ← stringField "stage" fields
    enabled := ← pointerField boolValue "enabled" fields
    mode := ← stringField "mode" fields
    plmn := ← stringField "plmn" fields
    profileIccid := ← stringField "iccid" fields
    nickname := ← stringPointer "nickname" fields
    candidateKey := ← stringField "candidate_key" fields
    note := ← stringField "note" fields
    family := ← stringField "family" fields
    logAfter := ← pointerField uint64Value "log_after" fields
    logLimit := ← pointerField int64Value "log_limit" fields
    logContains := ← stringField "log_contains" fields
    cid := ← pointerField int64Value "cid" fields
    pdpType := ← stringField "pdp_type" fields
    apn := ← stringField "apn" fields
    username := ← stringPointer "username" fields
    password := ← stringPointer "password" fields
    auth := ← stringField "auth" fields
    usbnetMode := ← stringField "usbnet_mode" fields
    targetIccid := ← stringField "target_iccid" fields
    sequenceNumber := ← pointerField int64Value "sequence_number" fields
    smdpAddress := ← stringField "smdp_address" fields
    activationCode := ← stringField "activation_code" fields
    confirmationCode := ← stringField "confirmation_code" fields
    version := ← stringField "version" fields
    url := ← stringField "url" fields
    sha256 := ← stringField "sha256" fields
    signature := ← stringField "signature" fields }

/-- The bytes of a `json.RawMessage`. -/
inductive RawMessage where
  | empty
  | text (value : Json)
  /-- Not JSON. -/
  | malformed

/-- `if len(task.Request) == 0`. -/
def RawMessage.orObject : RawMessage → RawMessage
  | .empty => .text (.obj [])
  | other => other

/-- The request of a task as a struct. No bytes are not read and leave the zero value,
which an object without fields gives too. -/
def RawMessage.request : RawMessage → Except String Request
  | .malformed => .error "request is not a command object"
  | .empty => given (decodeRequest (.obj [])) "request is not a command object"
  | .text value => given (decodeRequest value) "request is not a command object"

/-! ## A task -/

/-- The fields of `Task` that `Validate` and `buildRequest` read. -/
structure Task where
  name : String
  action : String
  commandKind : String
  selector : Selector
  request : RawMessage
  intervalSeconds : Int

def placeholderDeviceId : String := "00000000-0000-4000-8000-000000000000"

def placeholderImei : String := "000000000000000"

/-- `buildRequest`; `quote` is the `%q` of a message. -/
def buildRequest (quote : String → String) (task : Task) (target : Target) : Except String Jsonb := do
  let request ← task.request.request
  let (_, payload) ← buildPayload quote
    { request with kind := task.commandKind, deviceId := target.deviceId, modemImei := target.modemImei }
  return payload

/-- What a mode needs of the selector. -/
def selectorRule (selector : Selector) : Except String Unit :=
  if selector.mode = "card" then
    require (trimSpace selector.iccid ≠ "") "selector.iccid is required when mode is card"
  else if selector.mode = "device" then
    require (trimSpace selector.deviceId ≠ "") "selector.device_id is required when mode is device"
  else .error "selector.mode must be card or device"

/-- The rules for a task that sends a command. -/
def commandRule (quote : String → String) (task : Task) : Except String Unit :=
  match lookup task.commandKind with
  | none => .error ("unsupported command kind " ++ quote task.commandKind ++ ", expected one of " ++
      String.intercalate ", " kinds)
  | some spec => do
    require (!(spec.needsModem && task.selector.mode = "device" && trimSpace task.selector.modemImei = ""))
      (task.commandKind ++ " acts on a module, so selector.modem_imei is required in device mode")
    let _ ← buildRequest quote task ⟨placeholderDeviceId, placeholderImei, ""⟩
    return ()

/-- `Validate`: the task as it leaves it. -/
def validate (quote : String → String) (task : Task) : Except String Task := do
  let named := { task with name := trimSpace task.name }
  require (named.name ≠ "") "name is required"
  require (60 ≤ task.intervalSeconds && task.intervalSeconds ≤ 604800)
    "interval_seconds must be between 60 and 604800"
  selectorRule task.selector
  let whole := { named with request := task.request.orObject }
  if task.action = "public_ip_check" then
    require (task.commandKind = "") "command_kind is not allowed for a public_ip_check task"
  else if task.action = "command" then commandRule quote whole
  else .error "action must be command or public_ip_check"
  return whole

/-! ## The target -/

/-- The columns of `app.modems` that a selector is resolved by. -/
structure Modem where
  deviceId : Uuid
  imei : Option String
  iccid : Option String
  managed : Bool
  updatedAt : Timestamp
  deriving DecidableEq, Repr

/-- The devices and modems of the tenant. -/
structure Inventory where
  devices : List Uuid
  modems : List Modem

def unknownTarget : String := "scheduled task target could not be resolved"

def ambiguousTarget : String := "scheduled task target is ambiguous"

/-- `ORDER BY updated_at DESC LIMIT 2` of the managed modems with the card. -/
def modemsWithCard (inventory : Inventory) (iccid : String) : List Modem :=
  ((inventory.modems.filter fun modem => modem.iccid = some iccid && modem.managed).mergeSort
    fun a b => decide (b.updatedAt ≤ a.updatedAt)).take 2

/-- The card of a module of the device, where it is known. -/
def knownCard (inventory : Inventory) (device : Uuid) (imei : String) : String :=
  if imei = "" then ""
  else ((inventory.modems.find? fun modem => modem.deviceId = device && modem.imei = some imei).bind
    Modem.iccid).getD ""

/-- `SQL.Resolve`. -/
def resolve (inventory : Inventory) (selector : Selector) : Except String Target :=
  if selector.mode = "card" then
    match modemsWithCard inventory (trimSpace selector.iccid) with
    | [] => .error unknownTarget
    | [modem] =>
      if modem.imei.getD "" = "" then .error unknownTarget
      else .ok ⟨uuidOut modem.deviceId, modem.imei.getD "", modem.iccid.getD ""⟩
    | _ => .error ambiguousTarget
  else if selector.mode = "device" then
    match uuidIn (trimSpace selector.deviceId) with
    | .error err => .error err.text
    | .ok device =>
      if inventory.devices.contains device then
        .ok ⟨uuidOut device, trimSpace selector.modemImei,
          knownCard inventory device (trimSpace selector.modemImei)⟩
      else .error unknownTarget
  else .error unknownTarget

end VodogeCloud.Source.ScheduleValidation
