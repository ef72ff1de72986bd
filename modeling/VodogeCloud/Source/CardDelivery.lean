import VodogeCloud.Source.CardPolicies
import VodogeCloud.Source.JsonText
import VodogeCloud.Source.PendingCommands

/-!
# Card policies on their way to a device

`pushCardPolicies` and `enqueueCardPolicies`
(apps/gateway/cmd/gateway/card_routes.go:153-235), `reconcileCardPolicies`
(main.go:2200-2227), `CardPolicyKey` (internal/commands/queue.go:156-171) and
`redeliverCardPolicy` with `contractCardPolicyPayload`
(internal/commands/lifecycle.go:351-475).

Each of these runs as a series of statements of its own transactions, under READ
COMMITTED, so a handler is a value that says which statement comes next and a run
interleaves the statements of any number of handlers with the writes of the command
lifecycle.
-/

set_option autoImplicit false

namespace VodogeCloud.Source.CardDelivery

open VodogeCloud.Lib VodogeCloud.Source.Postgres VodogeCloud.Source.CommandTables
open VodogeCloud.Source.CommandLifecycle VodogeCloud.Source.PendingCommands
open VodogeCloud.Source.CardPolicies VodogeCloud.Source.JsonText

/-! ## The command -/

/-- `contract.SubscriptionCapability`. Its fields are of type any: absent is the nil
interface, which is left out; a nil pointer in the interface is written as null. -/
structure SubscriptionCapability where
  smsSend : Option Jsonb
  smsReceive : Option Jsonb
  data : Option Jsonb
  voice : Option Jsonb
  deriving DecidableEq, Repr

/-- `contract.CardPolicy`. -/
structure CardPolicy where
  iccid : String
  cellularEnabled : Bool
  vertical : String
  apn : Option String
  capability : Option SubscriptionCapability
  deriving DecidableEq, Repr

/-- `contract.UpdateCardPolicyCommand`. -/
structure UpdateCardPolicyCommand where
  kind : String
  policyVersion : String
  policies : List CardPolicy
  deriving DecidableEq, Repr

/-- A `*bool` stored into an interface. -/
def pointer : Option Bool → Jsonb
  | none => .null
  | some value => .bool value

/-- The entry `enqueueCardPolicies` makes of a row. A capability is carried only where
one of its four parts is declared. -/
def contractPolicy (row : PolicyRow) : CardPolicy where
  iccid := row.iccid
  cellularEnabled := row.cellularEnabled
  vertical := row.vertical
  apn := row.apn
  capability :=
    if row.smsSend.isSome || row.smsReceive.isSome || row.data.isSome || row.voice.isSome then
      some ⟨some (pointer row.smsSend), some (pointer row.smsReceive), some (pointer row.data),
        some (pointer row.voice)⟩
    else none

def commandOfRows (version : String) (rows : List PolicyRow) : UpdateCardPolicyCommand :=
  ⟨"UpdateCardPolicy", version, rows.map contractPolicy⟩

/-- The fields of a capability that are not left out. -/
def capabilityFields (capability : SubscriptionCapability) : List (String × Jsonb) :=
  (capability.smsSend.map (Prod.mk "sms_send")).toList ++
    (capability.smsReceive.map (Prod.mk "sms_receive")).toList ++
    (capability.data.map (Prod.mk "data")).toList ++ (capability.voice.map (Prod.mk "voice")).toList

def policyFields (policy : CardPolicy) : List (String × Jsonb) :=
  [("iccid", .str policy.iccid), ("cellular_enabled", .bool policy.cellularEnabled),
    ("vertical", .str policy.vertical)] ++ (policy.apn.map fun apn => ("apn", Jsonb.str apn)).toList ++
    (policy.capability.map fun capability =>
      ("capability", jsonbObject (capabilityFields capability))).toList

/-- What the `::jsonb` cast makes of the encoded command. -/
def commandJsonb (command : UpdateCardPolicyCommand) : Jsonb :=
  jsonbObject [("kind", .str command.kind), ("policy_version", .str command.policyVersion),
    ("policies", .arr (command.policies.map fun policy => jsonbObject (policyFields policy)))]

/-- The value of a capability: a boolean or null, as a push makes them. -/
def anyText (value : Jsonb) : List Char := compactText value

def policyText (policy : CardPolicy) : List Char :=
  enclosed '\x7b' '\x7d' ([member "iccid" (goQuote policy.iccid),
    member "cellular_enabled" (boolText policy.cellularEnabled),
    member "vertical" (goQuote policy.vertical)] ++
    (policy.apn.map fun apn => member "apn" (goQuote apn)).toList ++
    (policy.capability.map fun capability => member "capability" (enclosed '\x7b' '\x7d'
      ((capabilityFields capability).map fun field => member field.1 (anyText field.2)))).toList)

/-- The bytes of the encoded command. -/
def commandText (command : UpdateCardPolicyCommand) : List Char :=
  enclosed '\x7b' '\x7d' [member "kind" (goQuote command.kind),
    member "policy_version" (goQuote command.policyVersion),
    member "policies" (enclosed '[' ']' (command.policies.map policyText))]

/-- `CardPolicyKey`. -/
def cardPolicyKey (deviceId version : String) (payload : List Char) : String :=
  "update_card_policy:" ++ deviceId ++ ":" ++ version ++ ":" ++ fingerprint payload

/-! ## The command read back

`json.Unmarshal` of a stored payload. Its keys are the gateway's own, so none differs
from a field's name in its case alone. -/

mutual

/-- A value decoded into any and encoded again; `number` is the way of a number through
a float64. -/
def anyOf (number : Rat → Option Rat) : Jsonb → Option Jsonb
  | .null => some .null
  | .bool value => some (.bool value)
  | .num value => (number value).map .num
  | .str text => some (.str text)
  | .arr items => (anyItems number items).map .arr
  | .obj fields => (anyFields number fields).map .obj

def anyItems (number : Rat → Option Rat) : List Jsonb → Option (List Jsonb)
  | [] => some []
  | item :: rest => do
    let value ← anyOf number item
    let values ← anyItems number rest
    return value :: values

def anyFields (number : Rat → Option Rat) : List (String × Jsonb) → Option (List (String × Jsonb))
  | [] => some []
  | (key, item) :: rest => do
    let value ← anyOf number item
    let values ← anyFields number rest
    return (key, value) :: values

end

/-- A value of the type a field has; null and no value leave the field at its zero. -/
def readField {α : Type} (zero : α) (read : Jsonb → Option α) : Option Jsonb → Option α
  | none => some zero
  | some .null => some zero
  | some value => read value

def readString : Option Jsonb → Option String :=
  readField "" fun value =>
    match value with
    | .str text => some text
    | _ => none

def readBool : Option Jsonb → Option Bool :=
  readField false fun value =>
    match value with
    | .bool flag => some flag
    | _ => none

def readCapability (number : Rat → Option Rat) : Option Jsonb → Option (Option SubscriptionCapability) :=
  readField none fun value =>
    if value.isObject then do
      let smsSend ← readField none (fun value => (anyOf number value).map some) (value.get "sms_send")
      let smsReceive ← readField none (fun value => (anyOf number value).map some) (value.get "sms_receive")
      let data ← readField none (fun value => (anyOf number value).map some) (value.get "data")
      let voice ← readField none (fun value => (anyOf number value).map some) (value.get "voice")
      return some ⟨smsSend, smsReceive, data, voice⟩
    else none

/-- One element of `policies`. -/
def readPolicy (number : Rat → Option Rat) (value : Jsonb) : Option CardPolicy :=
  readField ⟨"", false, "", none, none⟩ (fun value =>
    if value.isObject then do
      let iccid ← readString (value.get "iccid")
      let cellularEnabled ← readBool (value.get "cellular_enabled")
      let vertical ← readString (value.get "vertical")
      let apn ← readField none (fun value => (readString (some value)).map some) (value.get "apn")
      let capability ← readCapability number (value.get "capability")
      return ⟨iccid, cellularEnabled, vertical, apn, capability⟩
    else none) (some value)

def readCommand (number : Rat → Option Rat) (value : Jsonb) : Option UpdateCardPolicyCommand :=
  readField ⟨"", "", []⟩ (fun value =>
    if value.isObject then do
      let kind ← readString (value.get "kind")
      let policyVersion ← readString (value.get "policy_version")
      let policies ← readField [] (fun value =>
        match value with
        | .arr items => items.mapM (readPolicy number)
        | _ => none) (value.get "policies")
      return ⟨kind, policyVersion, policies⟩
    else none) (some value)

/-- `contractCardPolicyPayload`. -/
def contractCardPolicyPayload (number : Rat → Option Rat) (stored : Jsonb) : Option Jsonb :=
  match readCommand number stored with
  | none => none
  | some command =>
    if command.kind = "" || command.policies.isEmpty then none else some (commandJsonb command)

/-! ## Handlers -/

/-- A handler between two of its statements. -/
inductive Handler where
  /-- A `Save` or `Delete` has committed; its `pushCardPolicies` comes next. -/
  | saved (tenant : Uuid)
  /-- `pushCardPolicies` after `List`. -/
  | listed (tenant : Uuid) (rows : List PolicyRow)
  /-- `pushCardPolicies` before `enqueueCardPolicies` for the first of the devices. -/
  | pushing (tenant : Uuid) (version : String) (rows : List PolicyRow) (devices : List Uuid)
  /-- `reconcileCardPolicies` after `Version`. -/
  | versioned (tenant device : Uuid) (version : String)
  /-- `reconcileCardPolicies` before `enqueueCardPolicies`. -/
  | resuming (tenant device : Uuid) (version : String) (rows : List PolicyRow)
  /-- `redeliverCardPolicy` after its SELECT found a row to repeat; `now` is the clock it
  was called with and `started` the start of its transaction. -/
  | redelivering (tenant device : Uuid) (row : CommandRow) (payload : Jsonb) (now started : Timestamp)
  deriving DecidableEq

def Handler.tenant : Handler → Uuid
  | .saved tenant => tenant
  | .listed tenant _ => tenant
  | .pushing tenant _ _ _ => tenant
  | .versioned tenant _ _ => tenant
  | .resuming tenant _ _ _ => tenant
  | .redelivering tenant _ _ _ _ _ => tenant

/-- What one statement takes from outside: the keys the database generates, the clocks
of the database and of the gateway, and the devices of the tenant. -/
structure Draw where
  commandId : Uuid
  outboxId : Nat
  database : Timestamp
  gateway : Timestamp
  devices : List Uuid

/-- What does not change: the calendar, the device foreign key and the way of a number
through a float64. -/
structure World where
  calendar : Calendar
  registered : Uuid → Uuid → Bool
  number : Rat → Option Rat

structure Delivery where
  cards : CardDb
  commands : CommandDb
  handlers : List Handler

def Delivery.start : Delivery := ⟨CardDb.empty, CommandDb.empty, []⟩

/-- The command `enqueueCardPolicies` queues. -/
def pushArgs (tenant device : Uuid) (version : String) (rows : List PolicyRow) (gateway : Timestamp) :
    EnqueueArgs :=
  ⟨tenant, device, .updateCardPolicy, commandJsonb (commandOfRows version rows),
    cardPolicyKey (uuidOut device) version (commandText (commandOfRows version rows)),
    gateway + cardPolicyTTL⟩

/-- The command `redeliverCardPolicy` queues. -/
def repeatArgs (tenant device : Uuid) (row : CommandRow) (payload : Jsonb) (now : Timestamp) :
    EnqueueArgs :=
  ⟨tenant, device, .updateCardPolicy, payload,
    cardPolicyRevivalKey row.idempotencyKey (cardPolicyAttempts row.idempotencyKey),
    now + cardPolicyTTL⟩

/-- An enqueue whose error is dropped or logged. -/
def enqueued (world : World) (args : EnqueueArgs) (draw : Draw) (issuedAt : Timestamp)
    (commands : CommandDb) : CommandDb :=
  match enqueueCommand world.registered (some args.tenantId) args draw.commandId draw.outboxId issuedAt
      commands with
  | .ok (after, _) => after
  | .error _ => commands

/-- The next statement of a handler: the command tables after it, and what is left of
the handler. -/
def advance (world : World) (draw : Draw) (cards : CardDb) (commands : CommandDb) :
    Handler → CommandDb × Option Handler
  | .saved tenant =>
    if cards.list tenant = [] then (commands, none) else (commands, some (.listed tenant (cards.list tenant)))
  | .listed tenant rows => (commands, some (.pushing tenant (cards.version tenant) rows draw.devices))
  | .pushing _ _ _ [] => (commands, none)
  | .pushing tenant version rows (device :: rest) =>
    (enqueued world (pushArgs tenant device version rows draw.gateway) draw draw.database commands,
      some (.pushing tenant version rows rest))
  | .versioned tenant device version =>
    if cards.list tenant = [] then (commands, none)
    else (commands, some (.resuming tenant device version (cards.list tenant)))
  | .resuming tenant device version rows =>
    (enqueued world (pushArgs tenant device version rows draw.gateway) draw draw.database commands, none)
  | .redelivering tenant device row payload now started =>
    (enqueued world (repeatArgs tenant device row payload now) draw started commands, none)

/-- The SELECT of `redeliverCardPolicy` and its decision. -/
def redelivery (world : World) (tenant device : Uuid) (now started : Timestamp)
    (commands : CommandDb) : Option Handler := do
  let row ← newestCardPolicy tenant device commands
  if (planCardPolicyRedelivery row now).isSome then none
  else
    let payload ← contractCardPolicyPayload world.number row.payload
    return .redelivering tenant device row payload now started

inductive Event where
  /-- `writeCardPolicy` up to the commit of `Save`. -/
  | save (tenant : Uuid) (policy : Policy) (now : Timestamp)
  /-- `deleteCardPolicy` up to the commit of `Delete`. -/
  | delete (tenant : Uuid) (iccid : String)
  /-- `reconcileCardPolicies` up to `Version`. -/
  | resume (tenant device : Uuid) (held : String)
  /-- `redeliverCardPolicy` up to its SELECT. -/
  | read (tenant device : Uuid) (now started : Timestamp)
  /-- The next statement of the handler at the index. -/
  | advance (index : Nat) (draw : Draw)
  /-- The handler at the index gives up. -/
  | drop (index : Nat)
  /-- A write of the command lifecycle, or a command of another kind. -/
  | lifecycle (op : CommandOp)

/-- An enqueue of a card policy; only the handlers above make one. -/
def ordersPolicy : CommandOp → Bool
  | .enqueueCommand _ _ args _ _ _ => args.kind = .updateCardPolicy
  | _ => false

/-- The handler at an index replaced by what is left of it. -/
def replaceAt (handlers : List Handler) (index : Nat) (left : Option Handler) : List Handler :=
  handlers.take index ++ left.toList ++ handlers.drop (index + 1)

def step (world : World) (state : Delivery) : Event → Delivery
  | .save tenant policy now =>
    match state.cards.save tenant policy now with
    | .ok cards => { state with cards := cards, handlers := state.handlers ++ [.saved tenant] }
    | .error _ => state
  | .delete tenant iccid =>
    match state.cards.delete tenant iccid with
    | .ok cards => { state with cards := cards, handlers := state.handlers ++ [.saved tenant] }
    | .error _ => state
  | .resume tenant device held =>
    if held ≠ "" ∧ held = state.cards.version tenant then state
    else { state with
      handlers := state.handlers ++ [.versioned tenant device (state.cards.version tenant)] }
  | .read tenant device now started =>
    { state with
      handlers := state.handlers ++ (redelivery world tenant device now started state.commands).toList }
  | .advance index draw =>
    match state.handlers[index]? with
    | none => state
    | some handler =>
      let (commands, left) := advance world draw state.cards state.commands handler
      { state with commands := commands, handlers := replaceAt state.handlers index left }
  | .drop index => { state with handlers := replaceAt state.handlers index none }
  | .lifecycle op =>
    if ordersPolicy op then state
    else
      match op.apply world.calendar state.commands with
      | .ok commands => { state with commands := commands }
      | .error _ => state

end VodogeCloud.Source.CardDelivery
