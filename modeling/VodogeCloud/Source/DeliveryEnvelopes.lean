import VodogeCloud.Lib.CivilTime
import VodogeCloud.Source.EventPages
import VodogeCloud.Source.ServeDevice

/-!
# The envelopes a session writes

`ServeDevice` up to its loop (apps/gateway/internal/wss/serve.go:214-293), the loop as rounds
of `serveFrame`, and the id `writeEnvelope` gives a frame: `kindEnvelopeID` (657-674,
709-722). The clock is read for the pending commands, and again for the frame that answers.
-/

set_option autoImplicit false

namespace VodogeCloud.Source.DeliveryEnvelopes

open VodogeCloud.Lib.CivilTime (padded)
open VodogeCloud.Source.Postgres VodogeCloud.Source.ServeDevice VodogeCloud.Source.GoJson
open VodogeCloud.Source.CommandTables (CommandDb)
open VodogeCloud.Source.PendingCommands (PendingCommand pendingForDevice expired)
open VodogeCloud.Source.EventPages (unixMilli)
open VodogeCloud.Source.IngressStore (snapshot)

/-! ## Ids -/

def replyKind : Reply → String
  | .resumeAck _ _ _ => "ResumeAck"
  | .uplinkAck _ _ => "UplinkAck"
  | .pong _ _ _ => "Pong"
  | .commandDeliver _ => "CommandDeliver"

def kindOffset (kind : String) : Int :=
  if kind = "ResumeAck" then 1
  else if kind = "Pong" then 2
  else if kind = "UplinkAck" then 3
  else 0

/-- `now.UnixMilli()%1_000_000_000000`, which has the sign of the time. -/
def millisOf (now : Timestamp) : Int := (unixMilli now).tmod 1000000000000

/-- The sum of `kindEnvelopeID`, in a uint64. -/
def idNumber (kind : String) (now : Timestamp) : Nat :=
  ((kindOffset kind + millisOf now) % 18446744073709551616).toNat

def kindEnvelopeID (kind : String) (now : Timestamp) : List Char :=
  "00000000-0000-4000-8000-".toList ++ padded 12 (idNumber kind now)

/-- A frame as `writeEnvelope` wrote it. -/
structure Written where
  frame : Reply
  now : Timestamp
  deriving DecidableEq, Repr

def Written.id (written : Written) : List Char := kindEnvelopeID (replyKind written.frame) written.now

/-- The command a frame delivers. -/
def deliveredCommand : Reply → Option Uuid
  | .commandDeliver pending => some pending.command.id
  | _ => none

/-! ## Before the loop -/

/-- A `[]string` field that is decoded and not read. -/
def stringsField (name : String) (fields : List (List JsonChar × Json)) : Option Unit :=
  (CommandLifecycle.fieldValues name fields).foldlM (fun _ value =>
    match value with
    | .null => some ()
    | .arr items => if items.all (fun item => item matches .str _ | .null) then some () else none
    | _ => none) ()

/-- The connection id of a `contract.ResumePayload`. -/
def resumeConnectionId (payload : Json) : Option String := do
  let fields ← structFields payload
  let connectionId ← stringField "connection_id" fields
  let _ ← stringField "last_assigned_seq" fields
  let _ ← stringPointer "lowest_retained_seq" fields
  let _ ← stringField "last_acked_seq" fields
  let _ ← stringsField "pending_gap_ids" fields
  let _ ← stringField "capability_matrix_version" fields
  let _ ← stringPointer "card_policy_version" fields
  let _ ← stringPointer "edge_version" fields
  let _ ← int64Pointer "queue_records" fields
  let _ ← int64Pointer "queue_bytes" fields
  return connectionId

variable {σ : Type}

/-- What a frame finds: the database may have been written since the last one, and so may
the hub. -/
structure Arrival (σ : Type) where
  env : Environment σ
  gateway : Gateway σ
  frame : Frame

/-- A frame of the loop, and `server.now()` when it is answered. -/
structure Round (σ : Type) extends Arrival σ where
  answeredAt : Timestamp

/-- How the Resume is taken: `ResumeReport` may write the command tables. -/
structure Opening (σ : Type) extends Arrival σ where
  device : Device
  resumeReport : CommandDb → CommandDb

/-- The checks of the Resume; the id of the connection. -/
def readResume (device : Device) (frame : Frame) : Except ServeError String := do
  let envelope ← readEnvelope frame
  if envelope.kind ≠ "Resume" then .error (.protocol "first envelope must be Resume")
  else if device.matchesEnvelope envelope.deviceId = false then
    .error (.protocol "envelope device_id does not match certificate")
  else
    match envelope.payload.bind resumeConnectionId with
    | none => .error (.decode "resume payload")
    | some connectionId =>
      if connectionId = "" then .error (.protocol "resume connection_id is required") else .ok connectionId

/-- The pending read of the Resume. -/
def Opening.batch (opening : Opening σ) : CommandDb × List PendingCommand :=
  pendingForDevice opening.env.toSurroundings opening.device.tenantId opening.device.deviceId opening.env.now
    (opening.resumeReport opening.gateway.cloud.commands)

/-- The session is bound and told where the journal stands, then the pending commands follow. -/
def Opening.resume (opening : Opening σ) : Turn σ :=
  match readResume opening.device opening.frame with
  | .error err => ⟨opening.gateway, [], .error err⟩
  | .ok connectionId =>
    let env := opening.env
    let hub := opening.gateway.hub.bind ⟨connectionId, opening.device, env.now⟩
    let gateway := { opening.gateway with hub := hub }
    let session : Session := ⟨opening.device, connectionId, env.now⟩
    match snapshot opening.device.tenantId opening.device.deviceId gateway.cloud.journal with
    | .error err => stop session gateway [] (.store err)
    | .ok window =>
      let ack := Reply.resumeAck connectionId window env.now
      if env.write ack then
        let gateway := gateway.withCommands opening.batch.1
        match deliverAll env opening.batch.2 with
        | (sent, false) => stop session gateway (ack :: sent) .closed
        | (sent, true) => goOn session gateway (ack :: sent)
      else stop session gateway [] .closed

/-! ## The session -/

/-- The frames of a turn, each with the reading of the clock it is written with. -/
def Turn.written (turn : Turn σ) (clock : Reply → Timestamp) : List Written :=
  turn.sent.map fun frame => ⟨frame, clock frame⟩

/-- The deliveries have the reading of their pending read, a Pong and an UplinkAck their own. -/
def Round.clock (round : Round σ) : Reply → Timestamp
  | .pong _ _ _ => round.answeredAt
  | .uplinkAck _ _ => round.answeredAt
  | _ => round.env.now

/-- The loop over the frames that arrive, until one ends the session. -/
def loop : Session → List (Round σ) → List Written
  | _, [] => []
  | session, round :: rounds =>
    let turn := serveFrame round.env session round.frame round.gateway
    Turn.written turn round.clock ++
      match turn.next with
      | .ok next => loop next rounds
      | .error _ => []

/-- `ServeDevice`, as the frames it writes. -/
def serveDevice (opening : Opening σ) (rounds : List (Round σ)) : List Written :=
  let turn := opening.resume
  Turn.written turn (fun _ => opening.env.now) ++
    match turn.next with
    | .ok session => loop session rounds
    | .error _ => []

end VodogeCloud.Source.DeliveryEnvelopes
