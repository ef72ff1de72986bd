import VodogeCloud.Source.CommandLifecycle
import VodogeCloud.Source.DeviceProjection

/-!
# Delivery reports

The `SmsStatusReport` branch of `app.accept_ingress` (0066_modem_registry.sql:448-491),
and with it the two ways in which a device's records reach a sent message: the
report itself, and the result of the command, which `settlingResults.RecordResult`
applies (apps/gateway/cmd/gateway/main.go:2029-2073).
-/

set_option autoImplicit false

namespace VodogeCloud.Source.DeliveryReports

open VodogeCloud.Lib VodogeCloud.Source.Postgres VodogeCloud.Source.CommandTables
open VodogeCloud.Source.CommandLifecycle VodogeCloud.Source.DeviceProjection
open VodogeCloud.Source.IngressWindow (IngressRow)

/-- The columns of a message that only a report reads or writes. -/
structure Delivery where
  peer : String
  createdAt : Timestamp
  deliveredAt : Option Timestamp
  deliveryCode : Option Int
  deriving DecidableEq, Repr

/-- The messages, with the further columns of each. -/
structure Inbox where
  db : CommandDb
  delivery : Uuid → Delivery

/-! ## Reading a report -/

/-- What the network did. -/
inductive Outcome where
  | delivered (at_ : Timestamp)
  | undelivered
  deriving DecidableEq, Repr

/-- The SET list of the UPDATE. -/
structure Report where
  outcome : Option Outcome
  code : Option Int
  deriving DecidableEq, Repr

/-- `to_timestamp(COALESCE(delivered_at, reported_at, 0) / 1000.0)`. -/
def deliveredInstant (casts : Casts) (payload : Jsonb) : Except PgError Timestamp :=
  match casts.field payload "delivered_at" with
  | some text => do casts.toTimestamp (← casts.bigint text)
  | none => casts.instant payload "reported_at"

/-- The two CASE expressions. 'pending' says that neither outcome has happened. -/
def readOutcome (casts : Casts) (payload : Jsonb) : Except PgError (Option Outcome) :=
  match casts.field payload "status" with
  | some "delivered" => (deliveredInstant casts payload).map fun at_ => some (.delivered at_)
  | some "failed" => .ok (some .undelivered)
  | _ => .ok none

def readReport (casts : Casts) (payload : Jsonb) : Except PgError Report := do
  let outcome ← readOutcome casts payload
  let code ← (casts.field payload "status_code").mapM casts.integer
  return ⟨outcome, code⟩

/-! ## Applying it -/

def Outcome.status : Outcome → MessageStatus
  | .delivered _ => .delivered
  | .undelivered => .undelivered

/-- `delivered_at` after the outcome. -/
def Outcome.deliveredAt (outcome : Outcome) (stored : Option Timestamp) : Option Timestamp :=
  match outcome with
  | .delivered at_ => some at_
  | .undelivered => stored

def Report.mark (report : Report) (row : MessageRow) : MessageRow :=
  { row with status := (report.outcome.map Outcome.status).getD row.status }

theorem Report.mark_identity (report : Report) (row : MessageRow) :
    (report.mark row).identity = row.identity := rfl

def Report.write (report : Report) (stored : Delivery) : Delivery :=
  { stored with
    deliveredAt := match report.outcome with
      | some outcome => outcome.deliveredAt stored.deliveredAt
      | none => stored.deliveredAt
    deliveryCode := coalesce report.code stored.deliveryCode }

/-- A message the report may be about. -/
def candidate (record : IngressRow) (peer : Option String) (reference : Option Int)
    (delivery : Uuid → Delivery) (row : MessageRow) : Bool :=
  row.tenantId = record.tenantId && row.deviceId = record.deviceId && row.direction = .outbound &&
    some (delivery row.id).peer = peer && reference.isSome && row.providerReference = reference

/-- `ORDER BY created_at DESC LIMIT 1`; of equal ones the first. -/
def newest (delivery : Uuid → Delivery) (rows : List MessageRow) : Option MessageRow :=
  rows.foldl (fun best row => match best with
    | none => some row
    | some best => if (delivery best.id).createdAt < (delivery row.id).createdAt then some row else some best)
    none

def projectStatusReport (casts : Casts) (record : IngressRow) (inbox : Inbox) :
    Except PgError Inbox := do
  let reference ← (casts.field record.payload "reference").mapM casts.integer
  match newest inbox.delivery (inbox.db.messages.rows.filter
      (candidate record (casts.field record.payload "peer") reference inbox.delivery)) with
  | none => return inbox
  | some message =>
    let report ← readReport casts record.payload
    return {
      db := inbox.db.updateMessages (fun row => row.id = message.id) report.mark report.mark_identity
      delivery := Function.update inbox.delivery message.id (report.write (inbox.delivery message.id)) }

/-! ## What reaches the inbox -/

/-- A record of the device that was accepted. -/
inductive Arrival where
  | result (tenant : Uuid) (result : CommandResult) (now : Timestamp)
  | report (record : IngressRow)

def arrive (casts : Casts) (inbox : Inbox) : Arrival → Except PgError Inbox
  | .result tenant result now => do
    let db ← settlingRecordResult tenant result now inbox.db
    return { inbox with db := db }
  | .report record => projectStatusReport casts record inbox

/-- The inbox after the records of a list, in its order. -/
def arriveAll (casts : Casts) (arrivals : List Arrival) (inbox : Inbox) : Except PgError Inbox :=
  arrivals.foldlM (arrive casts) inbox

end VodogeCloud.Source.DeliveryReports
