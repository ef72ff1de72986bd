import VodogeCloud.Source.GoJson
import VodogeCloud.Source.IngressStore
import VodogeCloud.Source.PendingCommands

/-!
# One device session

`Server.ServeDevice` (apps/gateway/internal/wss/serve.go:196-560) with the frame
codec and the helpers below it (589-760), and `Hub.Bind`, `Touch` and `Unbind`
(apps/gateway/internal/session/hub.go:52-123). A frame is one turn of the loop:
the state it leaves, the frames written, and either the session the loop goes on
with or the error `ServeDevice` returns.

The handlers `Receipts` and `Results` are wired, as the gateway of the
deployment wires them. Metrics, logs, wakeup hints, uptime marks and
notifications report and never decide; they are left out, and so is the check
`violations`, which only logs. A write to the connection succeeds or not as the
environment says. Lost connections to the database are taken up where sessions
are interleaved.
-/

set_option autoImplicit false

namespace VodogeCloud.Source.ServeDevice

open VodogeCloud.Source.Postgres VodogeCloud.Source.IngressWindow
open VodogeCloud.Source.CommandTables (CommandDb)
open VodogeCloud.Source.CommandLifecycle (recordReceipt settlingRecordResult CommandResult Receipt)
open VodogeCloud.Source.IngressStore VodogeCloud.Source.GoJson VodogeCloud.Source.PendingCommands
open VodogeCloud.Source.MemoryJournal (StoreError Status Window Result)
open VodogeCloud.Source.NulScrub (MapOrder)

/-! ## The hub -/

/-- `identity.Device`: the subject of the certificate. `commonName` is the device
id as it is written there. -/
structure Device where
  tenantId : Uuid
  deviceId : Uuid
  commonName : String
  deriving DecidableEq, Repr

structure Connection where
  id : String
  device : Device
  lastPacketAt : Timestamp
  deriving DecidableEq, Repr

/-- The two indexes of the hub. -/
structure Hub where
  byDevice : String → Option Connection
  byID : String → Option String

def Hub.new : Hub := ⟨fun _ => none, fun _ => none⟩

/-- `Bind`; the connection it replaces is the one of the device before it. -/
def Hub.bind (hub : Hub) (connection : Connection) : Hub :=
  let byID := match hub.byDevice connection.device.commonName with
    | some previous => Function.update hub.byID previous.id none
    | none => hub.byID
  { byDevice := Function.update hub.byDevice connection.device.commonName (some connection)
    byID := Function.update byID connection.id (some connection.device.commonName) }

/-- The live binding of a connection id, with the device it is kept under. -/
def Hub.bound (hub : Hub) (connectionId : String) : Option (String × Connection) :=
  match hub.byID connectionId with
  | none => none
  | some device =>
    match hub.byDevice device with
    | none => none
    | some connection => if connection.id = connectionId then some (device, connection) else none

/-- `Touch`; absent when the connection is not the live one. -/
def Hub.touch (hub : Hub) (connectionId : String) (now : Timestamp) : Option Hub :=
  (hub.bound connectionId).map fun (device, connection) =>
    ⟨Function.update hub.byDevice device (some { connection with lastPacketAt := now }), hub.byID⟩

/-- `Unbind`. -/
def Hub.unbind (hub : Hub) (connectionId : String) : Hub :=
  match hub.bound connectionId with
  | none => hub
  | some (device, _) =>
    ⟨Function.update hub.byDevice device none, Function.update hub.byID connectionId none⟩

/-! ## Frames -/

/-- A WebSocket message; `document` is absent when its bytes are not JSON. -/
structure Frame where
  binary : Bool
  size : Nat
  document : Option Json

/-- `contract.Envelope`. -/
structure Envelope where
  v : Int
  kind : String
  id : String
  ts : Int
  deviceId : String
  seq : Option String
  traceId : Option String
  payload : Option Json

/-- Why `ServeDevice` returns. -/
inductive ServeError where
  | closed
  | decode (what : String)
  | protocol (text : String)
  | store (err : StoreError)
  | database (err : PgError)
  deriving DecidableEq, Repr

def protocolVersion : Int := 1

def maxFrameBytes : Nat := 1048576

/-- `json.Unmarshal` into an envelope; a raw payload takes any value. -/
def envelopeOf (document : Json) : Option Envelope := do
  let fields ← structFields document
  let v ← int64Field "v" fields
  let kind ← stringField "kind" fields
  let id ← stringField "id" fields
  let ts ← int64Field "ts" fields
  let deviceId ← stringField "device_id" fields
  let seq ← stringPointer "seq" fields
  let traceId ← stringPointer "trace_id" fields
  return ⟨v, kind, id, ts, deviceId, seq, traceId,
    (CommandLifecycle.fieldValues "payload" fields).getLast?⟩

/-- `decodeEnvelope`. -/
def decodeEnvelope (document : Option Json) : Except ServeError Envelope :=
  match document.bind envelopeOf with
  | none => .error (.decode "envelope")
  | some envelope =>
    if envelope.v ≠ protocolVersion then
      .error (.protocol ("unsupported protocol version " ++ toString envelope.v))
    else if envelope.kind = "" ∨ envelope.id = "" ∨ envelope.deviceId = "" then
      .error (.protocol "envelope kind, id, and device_id are required")
    else .ok envelope

/-- `readEnvelope`. -/
def readEnvelope (frame : Frame) : Except ServeError Envelope :=
  if frame.binary = false then .error (.protocol "only binary frames are allowed")
  else if maxFrameBytes < frame.size then .error (.protocol "frame too large")
  else decodeEnvelope frame.document

/-- `unicode.IsSpace`. -/
def isSpace (c : Char) : Bool :=
  [' ', '\t', '\n', '\x0b', '\x0c', '\r', '\u0085', '\u00a0', '\u1680', '\u2028', '\u2029',
    '\u202f', '\u205f', '\u3000'].contains c || ('\u2000' ≤ c && c ≤ '\u200a')

/-- `strings.TrimSpace`. -/
def trimSpace (text : String) : String :=
  String.ofList (((text.toList.dropWhile isSpace).reverse.dropWhile isSpace).reverse)

/-- `MatchesEnvelope`. -/
def Device.matchesEnvelope (device : Device) (deviceId : String) : Bool :=
  device.commonName = trimSpace deviceId

/-- `parseSeq`: `strconv.ParseUint` in base ten, and not zero. -/
def parseSeq (raw : String) : Option Nat :=
  if raw = "" ∨ raw.toList.any (fun c => c < '0' || '9' < c) then none
  else
    let seq := raw.toList.foldl (fun value c => value * 10 + (c.toNat - '0'.toNat)) 0
    if seq < 2 ^ 64 ∧ seq ≠ 0 then some seq else none

/-! ## Payloads -/

structure PingPayload where
  connectionId : String
  sentAt : Int
  deriving DecidableEq, Repr

def pingPayload (payload : Json) : Option PingPayload := do
  let fields ← structFields payload
  let connectionId ← stringField "connection_id" fields
  let sentAt ← int64Field "sent_at" fields
  return ⟨connectionId, sentAt⟩

structure CommandReceiptPayload where
  cmdId : String
  deliveryId : String
  status : String
  receivedAt : Int
  deriving DecidableEq, Repr

def commandReceiptPayload (payload : Json) : Option CommandReceiptPayload := do
  let fields ← structFields payload
  let cmdId ← stringField "cmd_id" fields
  let deliveryId ← stringField "delivery_id" fields
  let status ← stringField "status" fields
  let receivedAt ← int64Field "received_at" fields
  let _ ← int64Pointer "retry_after_ms" fields
  let _ ← stringPointer "reason_code" fields
  return ⟨cmdId, deliveryId, status, receivedAt⟩

structure CommandResultPayload where
  cmdId : String
  status : String
  completedAt : Int
  attempts : Int
  reasonCode : Option String
  reason : Option String
  details : Option Json

def commandResultPayload (float : FloatFormat) (payload : Json) : Option CommandResultPayload := do
  let fields ← structFields payload
  let cmdId ← stringField "cmd_id" fields
  let status ← stringField "status" fields
  let completedAt ← int64Field "completed_at" fields
  let attempts ← int64Field "attempts" fields
  let reasonCode ← stringPointer "reason_code" fields
  let reason ← stringPointer "reason" fields
  let details ← detailsField float "details" fields
  return ⟨cmdId, status, completedAt, attempts, reasonCode, reason, details⟩

/-- `time.UnixMilli` as a timestamptz argument: microseconds since 2000 in an
int64, which the server takes in its own range or as minus infinity. -/
def timestampArg (millis : Int) : Except PgError Timestamp :=
  let wire := (millis * 1000 - 946684800000000).bmod (2 ^ 64)
  if wire = -9223372036854775808 ∨ (-211813488000000000 ≤ wire ∧ wire < 9223371331200000000) then
    .ok (wire + 946684800000000)
  else .error ⟨"22008", "timestamp out of range"⟩

/-! ## The environment of a session -/

/-- What is written to the device. -/
inductive Reply where
  | resumeAck (connectionId : String) (window : Window) (serverTime : Timestamp)
  | uplinkAck (connectionId : String) (window : Window)
  | pong (connectionId pingId : String) (serverTime : Timestamp)
  | commandDeliver (pending : PendingCommand)
  deriving DecidableEq, Repr

/-- The database: the journal, the command tables, and what the projections of
the journal write. -/
structure Cloud (σ : Type) where
  journal : IngressDb
  commands : CommandDb
  rest : σ

structure Gateway (σ : Type) where
  hub : Hub
  cloud : Cloud σ

/-- What one turn takes from outside. -/
structure Environment (σ : Type) extends Surroundings where
  /-- The projection of `accept_ingress`. -/
  project : σ → IngressRow → Except PgError σ
  /-- How the scrub of a payload goes through its maps. -/
  order : MapOrder Number
  float : FloatFormat
  /-- Whether a write reaches the socket. -/
  write : Reply → Bool
  /-- `server.now()`. -/
  now : Timestamp
  /-- `now()` of the database as `record_unstorable_ingress` formats it. -/
  recordedAt : String

/-- The variables of the loop. -/
structure Session where
  device : Device
  connectionId : String
  lastPendingCheck : Timestamp
  deriving DecidableEq, Repr

/-- One turn of the loop. -/
structure Turn (σ : Type) where
  gateway : Gateway σ
  sent : List Reply
  next : Except ServeError Session

variable {σ : Type}

/-- `ServeDevice` returns: the deferred `Unbind` runs. -/
def stop (session : Session) (gateway : Gateway σ) (sent : List Reply) (err : ServeError) : Turn σ :=
  ⟨{ gateway with hub := gateway.hub.unbind session.connectionId }, sent, .error err⟩

/-- The loop goes on. -/
def goOn (session : Session) (gateway : Gateway σ) (sent : List Reply) : Turn σ :=
  ⟨gateway, sent, .ok session⟩

/-- Write a frame; a failed write ends the session. -/
def reply (env : Environment σ) (session : Session) (gateway : Gateway σ) (frame : Reply) : Turn σ :=
  if env.write frame then goOn session gateway [frame] else stop session gateway [] .closed

/-- A turn after frames that were written before it. -/
def Turn.after (turn : Turn σ) (sent : List Reply) : Turn σ := { turn with sent := sent ++ turn.sent }

/-- The gateway after a statement on the command tables. -/
def Gateway.withCommands (gateway : Gateway σ) (commands : CommandDb) : Gateway σ :=
  { gateway with cloud := { gateway.cloud with commands := commands } }

/-- The gateway after a statement on the journal. -/
def Gateway.withJournal (gateway : Gateway σ) (journal : IngressDb) (rest : σ) : Gateway σ :=
  { gateway with cloud := { gateway.cloud with journal := journal, rest := rest } }

/-! ## The cases of the switch -/

def servePing (env : Environment σ) (session : Session) (envelope : Envelope) (gateway : Gateway σ) :
    Turn σ :=
  match envelope.payload.bind pingPayload with
  | none => stop session gateway [] (.decode "ping payload")
  | some ping =>
    if ping.connectionId ≠ session.connectionId then
      stop session gateway [] (.protocol "ping connection_id does not match session")
    else reply env session gateway (.pong session.connectionId envelope.id env.now)

/-- `RecordReceipt` with the values of the frame. -/
def receiptStatement (device : Device) (envelopeId : String) (payload : CommandReceiptPayload)
    (now : Timestamp) (db : CommandDb) : Except PgError CommandDb := do
  let receivedAt ← timestampArg payload.receivedAt
  recordReceipt device.tenantId
    ⟨envelopeId, payload.cmdId, payload.deliveryId, payload.status, receivedAt⟩ now db

def serveReceipt (env : Environment σ) (session : Session) (envelope : Envelope)
    (gateway : Gateway σ) : Turn σ :=
  match envelope.payload.bind commandReceiptPayload with
  | none => stop session gateway [] (.decode "command receipt")
  | some payload =>
    match receiptStatement session.device envelope.id payload env.now gateway.cloud.commands with
    | .error err => stop session gateway [] (.database err)
    | .ok commands => goOn session (gateway.withCommands commands) []

/-- `RecordResult` with the values of the frame. -/
def resultStatement (device : Device) (payload : CommandResultPayload) (database : Timestamp)
    (db : CommandDb) : Except PgError CommandDb := do
  let completedAt ← timestampArg payload.completedAt
  settlingRecordResult device.tenantId
    ⟨payload.cmdId, payload.status, completedAt, payload.attempts, payload.reasonCode.getD "",
      payload.reason.getD "", payload.details⟩ database db

/-- The `ResultHandler` part of the sequenced case. -/
def serveResult (env : Environment σ) (session : Session) (envelope : Envelope)
    (gateway : Gateway σ) : Turn σ :=
  match envelope.payload.bind (commandResultPayload env.float) with
  | none => stop session gateway [] (.decode "command result")
  | some payload =>
    match resultStatement session.device payload env.database gateway.cloud.commands with
    | .error err => stop session gateway [] (.database err)
    | .ok commands => goOn session (gateway.withCommands commands) []

/-- The record of a sequenced envelope. -/
def recordOf (device : Device) (envelope : Envelope) (seq : Nat) : SqlRecord :=
  ⟨device.tenantId, device.deviceId, envelope.id, seq, envelope.kind, envelope.payload⟩

/-- `Journal.Accept` refused the record for good: tombstone, then the journal as
it really is. A tombstone that could not be written is only logged. -/
def serveUnstorable (env : Environment σ) (session : Session) (record : SqlRecord) (reason : String)
    (gateway : Gateway σ) : Turn σ :=
  let journal := (recordUnstorable { record with payload := none } reason env.database
    env.recordedAt gateway.cloud.journal).1
  let gateway := gateway.withJournal journal gateway.cloud.rest
  match snapshot record.tenantId record.deviceId journal with
  | .error err => stop session gateway [] (.store err)
  | .ok window => reply env session gateway (.uplinkAck session.connectionId window)

/-- `Journal.Accept` stored the record: the ack is written first. -/
def serveStored (env : Environment σ) (session : Session) (envelope : Envelope) (window : Window)
    (gateway : Gateway σ) : Turn σ :=
  let ack := Reply.uplinkAck session.connectionId window
  if env.write ack then
    if envelope.kind = "CommandResult" then (serveResult env session envelope gateway).after [ack]
    else goOn session gateway [ack]
  else stop session gateway [] .closed

def serveRecord (env : Environment σ) (session : Session) (envelope : Envelope)
    (gateway : Gateway σ) : Turn σ :=
  match envelope.seq with
  | none => stop session gateway [] (.protocol (envelope.kind ++ " requires seq"))
  | some raw =>
    match parseSeq raw with
    | none => stop session gateway [] (.protocol ("invalid seq \"" ++ raw ++ "\""))
    | some seq =>
      let record := recordOf session.device envelope seq
      match accept env.order env.project record env.database gateway.cloud.journal gateway.cloud.rest with
      | (_, _, .error (.malformed text)) => serveUnstorable env session record text gateway
      | (_, _, .error err) => stop session gateway [] (.store err)
      | (journal, rest, .ok result) =>
        serveStored env session envelope result.window (gateway.withJournal journal rest)

/-- The kinds of the sequenced case. -/
def sequencedCase : List String :=
  ["SmsReceived", "SmsStatusReport", "DeviceState", "CommandResult", "EsimInventory", "Alert",
    "ProxyTraffic"]

/-- `switch envelope.Kind`. -/
def serveKind (env : Environment σ) (session : Session) (envelope : Envelope) (gateway : Gateway σ) :
    Turn σ :=
  if envelope.kind = "Ping" then servePing env session envelope gateway
  else if envelope.kind = "CommandReceipt" then serveReceipt env session envelope gateway
  else if envelope.kind ∈ sequencedCase then serveRecord env session envelope gateway
  else stop session gateway [] (.protocol ("unexpected envelope " ++ envelope.kind))

/-! ## The loop -/

/-- Five seconds. -/
def pendingEvery : Int := 5000000

/-- The CommandDeliver frames of one pending read, up to the first that cannot be
written; true when all were. -/
def deliverAll (env : Environment σ) : List PendingCommand → List Reply × Bool
  | [] => ([], true)
  | pending :: rest =>
    if expired env.now pending.command then deliverAll env rest
    else if env.write (.commandDeliver pending) then
      let (sent, all) := deliverAll env rest
      (.commandDeliver pending :: sent, all)
    else ([], false)

/-- The command tables and the deliveries of a pending read, when one is due. -/
def duePending (env : Environment σ) (session : Session) (commands : CommandDb) :
    CommandDb × List PendingCommand :=
  if pendingEvery ≤ env.now - session.lastPendingCheck then
    pendingForDevice env.toSurroundings session.device.tenantId session.device.deviceId env.now
      commands
  else (commands, [])

/-- The session after the check. -/
def checkedPending (env : Environment σ) (session : Session) : Session :=
  if pendingEvery ≤ env.now - session.lastPendingCheck then
    { session with lastPendingCheck := env.now }
  else session

/-- One envelope through the loop body. -/
def serveEnvelope (env : Environment σ) (session : Session) (envelope : Envelope)
    (gateway : Gateway σ) : Turn σ :=
  if session.device.matchesEnvelope envelope.deviceId = false then
    stop session gateway [] (.protocol "envelope device_id does not match certificate")
  else
    match gateway.hub.touch session.connectionId env.now with
    | none => stop session gateway [] (.protocol "connection superseded")
    | some hub =>
      let pending := duePending env session gateway.cloud.commands
      let gateway := { gateway with hub := hub }.withCommands pending.1
      let session := checkedPending env session
      match deliverAll env pending.2 with
      | (sent, false) => stop session gateway sent .closed
      | (sent, true) => (serveKind env session envelope gateway).after sent

/-- One frame through the loop body. -/
def serveFrame (env : Environment σ) (session : Session) (frame : Frame) (gateway : Gateway σ) :
    Turn σ :=
  match readEnvelope frame with
  | .error err => stop session gateway [] err
  | .ok envelope => serveEnvelope env session envelope gateway

end VodogeCloud.Source.ServeDevice
