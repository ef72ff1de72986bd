import VodogeCloud.Source.PendingCommands
import VodogeCloud.Source.ScheduledTasks

/-!
# Sends and the messages that mirror them

The console send `enqueueCommand` (apps/gateway/cmd/gateway/main.go:1682-1746),
the scheduled send with `mirrorScheduledCommand` (main.go:744-765), the two
halves of `settlingResults.RecordResult` (main.go:2029-2073) and
`SQL.RecordOutbound` (apps/gateway/internal/messaging/messaging.go:269-281), as a
system: every transaction is one step, and between the two transactions of a
send or of a result anything else may happen, a crash of the gateway among it.
An id the database returns as text and takes back as uuid is kept as uuid.
-/

set_option autoImplicit false

namespace VodogeCloud.Source.OutboundSends

open VodogeCloud.Lib VodogeCloud.Source.Postgres VodogeCloud.Source.CommandTables
open VodogeCloud.Source.CommandLifecycle
open VodogeCloud.Source.PendingCommands (Surroundings pendingForDevice)
open VodogeCloud.Source.Schedule (Plan)
open VodogeCloud.Source.ScheduledTasks (ScheduleDb Env fire)

/-- `INSERT INTO app.messages ... ON CONFLICT (command_id) WHERE command_id IS NOT
NULL DO NOTHING`; true when the row was inserted. -/
def insertMessage (db : CommandDb) (registered : Uuid → Uuid → Bool) (row : MessageRow) :
    Except PgError (CommandDb × Bool) :=
  if taken : row.commandId.isSome ∧ ∃ other ∈ db.messages, other.commandId = row.commandId then
    .ok (db, false)
  else
    match found : db.messages.find row.id with
    | some _ => .error ⟨"23505", "duplicate key value violates unique constraint \"messages_pkey\""⟩
    | none =>
      if registered row.tenantId row.deviceId = false then
        .error ⟨"23503", "insert or update on table \"messages\" violates foreign key constraint \"messages_device_tenant_fkey\""⟩
      else
        .ok ({ db with
          messages := db.messages.insert row (Table.find_eq_none_iff.mp found)
          valid := by
            refine ⟨db.valid.idempotencyKey, db.valid.outboxCommand, db.valid.outboxUnique,
              db.valid.leaseShape, db.valid.receiptCommand, db.valid.retryShape, ?_⟩
            intro a memberA b memberB present same
            rcases Table.mem_insert.mp memberA with oldA | rfl
            · rcases Table.mem_insert.mp memberB with oldB | rfl
              · exact db.valid.messageCommand a oldA b oldB present same
              · exact absurd ⟨same ▸ present, a, oldA, same⟩ taken
            · rcases Table.mem_insert.mp memberB with oldB | rfl
              · exact absurd ⟨present, b, oldB, same.symm⟩ taken
              · rfl }, true)

/-- `messaging.Message` of a send. -/
structure Outbound where
  tenantId : Uuid
  deviceId : Uuid
  peer : String
  body : String
  commandId : Uuid
  deriving DecidableEq, Repr

/-- The row `RecordOutbound` inserts; peer and body are not read here. -/
def Outbound.row (message : Outbound) (id : Uuid) (now : Timestamp) : MessageRow where
  id := id
  tenantId := message.tenantId
  deviceId := message.deviceId
  commandId := some message.commandId
  direction := .outbound
  status := .queued
  failureReason := none
  receivedAt := now
  providerReference := none

/-- `SQL.RecordOutbound`. -/
def recordOutbound (registered : Uuid → Uuid → Bool) (message : Outbound) (id : Uuid)
    (now : Timestamp) (db : CommandDb) : Except PgError CommandDb := do
  if '\x00' ∈ message.peer.toList ∨ '\x00' ∈ message.body.toList then
    .error ⟨"22021", "invalid byte sequence for encoding \"UTF8\": 0x00"⟩
  else
    let (db', _) ← insertMessage db registered (message.row id now)
    return db'

/-! ## The system -/

/-- A result `RecordResult` has committed and `SettleOutbound` has not seen. -/
structure Unsettled where
  tenantId : Uuid
  result : CommandResult

/-- `SettleOutbound` with the arguments `settlingResults` gives it. -/
def Unsettled.settle (half : Unsettled) (now : Timestamp) (db : CommandDb) :
    Except PgError CommandDb :=
  settleOutbound half.tenantId half.result.commandId
    (if half.result.status = "succeeded" then .sent else .failed)
    (if half.result.reason = "" then half.result.reasonCode else half.result.reason)
    (messageReference half.result.details) now db

/-- The database, and the operations that are between their two transactions. -/
structure Sends where
  schedule : ScheduleDb
  unmirrored : List Outbound
  unsettled : List Unsettled

def Sends.commands (sends : Sends) : CommandDb := sends.schedule.commands

def Sends.withCommands (sends : Sends) (commands : CommandDb) : Sends :=
  { sends with schedule := { sends.schedule with commands := commands } }

/-- No send and no result is half done. -/
def Sends.idle (sends : Sends) : Prop := sends.unmirrored = [] ∧ sends.unsettled = []

/-- One transaction, or the end of the process between two. `peer` and `body` are
what the message of a send will say. -/
inductive SendOp where
  | enqueue (registered : Uuid → Uuid → Bool) (args : EnqueueArgs) (id : Uuid) (outboxId : Nat)
      (now : Timestamp) (peer body : String)
  | fire (env : Env) (tenant : Uuid) (plan : Plan Uuid) (peer body : String)
  | recordOutbound (index : Nat) (registered : Uuid → Uuid → Bool) (id : Uuid) (now : Timestamp)
  | dropOutbound (index : Nat)
  | recordReceipt (tenant : Uuid) (receipt : Receipt) (now : Timestamp)
  | recordResult (tenant : Uuid) (result : CommandResult) (now : Timestamp)
  | settleOutbound (index : Nat) (now : Timestamp)
  | dropResult (index : Nat)
  | resume (around : Surroundings) (tenant device : Uuid) (now : Timestamp)
  | expireCommand (context : Option Uuid) (tenant command : Uuid) (expiredAt : Option Timestamp)
  | expireOverdueCommands (context : Option Uuid) (tenant device : Uuid) (now : Option Timestamp)
  | expireOverdueTenantCommands (context : Option Uuid) (tenant : Uuid) (now : Option Timestamp)

/-- The tables after a statement; an error rolls back. -/
def Sends.commit {α : Type} (sends : Sends) (outcome : Except PgError (CommandDb × α)) : Sends :=
  match outcome with
  | .ok (commands, _) => sends.withCommands commands
  | .error _ => sends

/-- A send whose command is committed: an SMS still has to be mirrored. -/
def Sends.issued (sends : Sends) (sms : Bool) (message : Outbound) : Sends :=
  if sms then { sends with unmirrored := sends.unmirrored ++ [message] } else sends

def Sends.step (calendar : Calendar) (sends : Sends) : SendOp → Sends
  | .enqueue registered args id outboxId now peer body =>
    match enqueueCommand registered (some args.tenantId) args id outboxId now sends.commands with
    | .ok (commands, command) =>
      (sends.withCommands commands).issued (args.kind = .sendSms)
        ⟨args.tenantId, args.deviceId, peer, body, command.id⟩
    | .error _ => sends
  | .fire env tenant plan peer body =>
    match uuidIn plan.deviceId, fire env tenant plan sends.schedule with
    | .ok device, .ok (schedule, id) =>
      { sends with schedule := schedule }.issued (plan.kind = "send_sms")
        ⟨tenant, device, peer, body, id⟩
    | _, _ => sends
  | .recordOutbound index registered id now =>
    match sends.unmirrored[index]? with
    | none => sends
    | some message =>
      { sends with unmirrored := sends.unmirrored.eraseIdx index }.commit
        ((recordOutbound registered message id now sends.commands).map fun db => (db, ()))
  | .dropOutbound index => { sends with unmirrored := sends.unmirrored.eraseIdx index }
  | .recordReceipt tenant receipt now =>
    sends.commit ((recordReceipt tenant receipt now sends.commands).map fun db => (db, ()))
  | .recordResult tenant result now =>
    match recordResult tenant result now sends.commands with
    | .ok commands =>
      { sends.withCommands commands with unsettled := sends.unsettled ++ [⟨tenant, result⟩] }
    | .error _ => sends
  | .settleOutbound index now =>
    match sends.unsettled[index]? with
    | none => sends
    | some half =>
      { sends with unsettled := sends.unsettled.eraseIdx index }.commit
        ((half.settle now sends.commands).map fun db => (db, ()))
  | .dropResult index => { sends with unsettled := sends.unsettled.eraseIdx index }
  | .resume around tenant device now =>
    sends.withCommands (pendingForDevice around tenant device now sends.commands).1
  | .expireCommand context tenant command expiredAt =>
    sends.commit (expireCommand calendar context tenant command expiredAt sends.commands)
  | .expireOverdueCommands context tenant device now =>
    sends.commit (expireOverdueCommands calendar context tenant device now sends.commands)
  | .expireOverdueTenantCommands context tenant now =>
    sends.commit (expireOverdueTenantCommands calendar context tenant now sends.commands)

end VodogeCloud.Source.OutboundSends
