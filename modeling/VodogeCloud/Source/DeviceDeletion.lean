import VodogeCloud.Lib.Table
import VodogeCloud.Source.Enrollment

/-!
# Deleting a device

`app.delete_device` (0024_delete_device.sql:16-57) over the eleven tables it goes through
and the foreign keys between them (0001_regional_data.sql, 0002_command_dispatch_lifecycle.sql,
0003_ingress.sql, 0006_enrollment.sql, 0017_proxy.sql). Of a row only the columns that the
statements or a foreign key read are kept. The tables that follow a device by
`ON DELETE CASCADE` alone (ingress_pruned, device_uptime, modem_candidates, alerts,
modem_registry) are one list.

Every statement sees the rows of the calling tenant, for the owner of the function is under
FORCE ROW LEVEL SECURITY. A foreign key is checked against all rows at the end of the
statement, and an error rolls the whole call back.
-/

set_option autoImplicit false

namespace VodogeCloud.Source.DeviceDeletion

open VodogeCloud.Lib VodogeCloud.Source.Postgres VodogeCloud.Source.Enrollment

/-! ## Rows -/

structure ModemRef where
  id : Uuid
  tenantId : Uuid
  deviceId : Uuid
  deriving DecidableEq, Repr

structure MessageRef where
  tenantId : Uuid
  deviceId : Uuid
  modemId : Option Uuid
  deriving DecidableEq, Repr

structure InstanceRef where
  id : Uuid
  tenantId : Uuid
  deviceId : Uuid
  deriving DecidableEq, Repr

structure TrafficRef where
  tenantId : Uuid
  instanceId : Uuid
  deriving DecidableEq, Repr

structure CommandRef where
  id : Uuid
  tenantId : Uuid
  deviceId : Uuid
  deriving DecidableEq, Repr

structure AttemptRef where
  tenantId : Uuid
  commandId : Uuid
  deliveryId : Uuid
  deriving DecidableEq, Repr

structure ReceiptRef where
  tenantId : Uuid
  commandId : Uuid
  deliveryId : Option Uuid
  deriving DecidableEq, Repr

structure OutboxRef where
  tenantId : Uuid
  commandId : Uuid
  deriving DecidableEq, Repr

/-- A row of `app.ingress`, or of a table that follows its device. -/
structure DeviceRef where
  tenantId : Uuid
  deviceId : Uuid
  deriving DecidableEq, Repr

/-- What devices have reported and have been sent. -/
structure History where
  modems : List ModemRef
  messages : List MessageRef
  instances : List InstanceRef
  traffic : List TrafficRef
  commands : List CommandRef
  attempts : List AttemptRef
  receipts : List ReceiptRef
  outbox : List OutboxRef
  ingress : List DeviceRef
  followers : List DeviceRef
  deriving DecidableEq, Repr

structure DeviceDb where
  enroll : EnrollDb
  history : History

/-! ## Foreign keys and the check on codes -/

/-- `enrollment_codes_one_time`. -/
def oneTime (row : CodeRow) : Bool := row.usedAt.isSome = row.deviceId.isSome

/-- Some table still refers to the device, by a key that does not cascade. -/
def referredTo (tenant device : Uuid) (db : DeviceDb) : Option String :=
  if db.history.messages.any fun row => row.tenantId = tenant && row.deviceId = device then
    some "messages_device_tenant_fkey"
  else if db.history.commands.any fun row => row.tenantId = tenant && row.deviceId = device then
    some "commands_device_tenant_fkey"
  else if db.history.ingress.any fun row => row.tenantId = tenant && row.deviceId = device then
    some "ingress_device_tenant_fkey"
  else if db.enroll.codes.rows.any fun row => row.tenantId = tenant && row.deviceId = some device then
    some "enrollment_codes_device_tenant_fkey"
  else if db.enroll.certificates.rows.any fun row => row.tenantId = tenant && row.deviceId = device then
    some "device_certificates_device_tenant_fkey"
  else if db.history.instances.any fun row => row.tenantId = tenant && row.deviceId = device then
    some "proxy_instances_device_fkey"
  else none

def foreignKeyError (table constraint : String) : PgError :=
  ⟨"23503", "update or delete on table \"" ++ table ++ "\" violates foreign key constraint \"" ++ constraint ++ "\""⟩

/-- The keys between the tables and the check on codes. -/
structure Constraints (db : DeviceDb) : Prop where
  codes : ∀ row ∈ db.enroll.codes, oneTime row = true
  codeDevices : ∀ row ∈ db.enroll.codes, ∀ device, row.deviceId = some device →
    ∃ other ∈ db.enroll.devices, other.id = device ∧ other.tenantId = row.tenantId
  certificates : ∀ row ∈ db.enroll.certificates,
    ∃ other ∈ db.enroll.devices, other.id = row.deviceId ∧ other.tenantId = row.tenantId
  modems : ∀ row ∈ db.history.modems,
    ∃ other ∈ db.enroll.devices, other.id = row.deviceId ∧ other.tenantId = row.tenantId
  messages : ∀ row ∈ db.history.messages,
    ∃ other ∈ db.enroll.devices, other.id = row.deviceId ∧ other.tenantId = row.tenantId
  messageModems : ∀ row ∈ db.history.messages, ∀ modem, row.modemId = some modem →
    ∃ other ∈ db.history.modems, other.id = modem ∧ other.tenantId = row.tenantId
  instances : ∀ row ∈ db.history.instances,
    ∃ other ∈ db.enroll.devices, other.id = row.deviceId ∧ other.tenantId = row.tenantId
  traffic : ∀ row ∈ db.history.traffic, ∃ other ∈ db.history.instances, other.id = row.instanceId
  commands : ∀ row ∈ db.history.commands,
    ∃ other ∈ db.enroll.devices, other.id = row.deviceId ∧ other.tenantId = row.tenantId
  attempts : ∀ row ∈ db.history.attempts,
    ∃ other ∈ db.history.commands, other.id = row.commandId ∧ other.tenantId = row.tenantId
  receipts : ∀ row ∈ db.history.receipts,
    ∃ other ∈ db.history.commands, other.id = row.commandId ∧ other.tenantId = row.tenantId
  receiptAttempts : ∀ row ∈ db.history.receipts, ∀ delivery, row.deliveryId = some delivery →
    ∃ other ∈ db.history.attempts,
      other.tenantId = row.tenantId ∧ other.commandId = row.commandId ∧ other.deliveryId = delivery
  outbox : ∀ row ∈ db.history.outbox,
    ∃ other ∈ db.history.commands, other.id = row.commandId ∧ other.tenantId = row.tenantId
  ingress : ∀ row ∈ db.history.ingress,
    ∃ other ∈ db.enroll.devices, other.id = row.deviceId ∧ other.tenantId = row.tenantId
  followers : ∀ row ∈ db.history.followers, ∃ other ∈ db.enroll.devices, other.id = row.deviceId

/-! ## The statements -/

section Statements

variable (tenant device : Uuid)

/-- `SELECT id FROM app.commands WHERE device_id = p_device_id`. -/
def commandIds (history : History) : List Uuid :=
  (history.commands.filter fun row => row.tenantId = tenant && row.deviceId = device).map CommandRef.id

def instanceIds (history : History) : List Uuid :=
  (history.instances.filter fun row => row.tenantId = tenant && row.deviceId = device).map InstanceRef.id

def deleteMessages (history : History) : History :=
  { history with messages := history.messages.filter fun row => !(row.tenantId = tenant && row.deviceId = device) }

def deleteTraffic (history : History) : History :=
  { history with
    traffic := history.traffic.filter fun row =>
      !(row.tenantId = tenant && (instanceIds tenant device history).contains row.instanceId) }

/-- The traffic of an instance goes with it. -/
def deleteInstances (history : History) : History :=
  { history with
    traffic := history.traffic.filter fun row => !(instanceIds tenant device history).contains row.instanceId
    instances := history.instances.filter fun row => !(row.tenantId = tenant && row.deviceId = device) }

/-- A receipt that names a delivery holds its attempt. -/
def deleteAttempts (history : History) : Except PgError History :=
  let doomed := history.attempts.filter fun row =>
    row.tenantId = tenant && (commandIds tenant device history).contains row.commandId
  if history.receipts.any fun receipt => doomed.any fun row =>
      receipt.tenantId = row.tenantId && receipt.commandId = row.commandId && receipt.deliveryId = some row.deliveryId then
    .error (foreignKeyError "command_delivery_attempts" "command_receipts_delivery_attempt_fkey")
  else .ok { history with attempts := history.attempts.filter fun row => !doomed.contains row }

def deleteReceipts (history : History) : History :=
  { history with
    receipts := history.receipts.filter fun row =>
      !(row.tenantId = tenant && (commandIds tenant device history).contains row.commandId) }

def deleteOutbox (history : History) : History :=
  { history with
    outbox := history.outbox.filter fun row =>
      !(row.tenantId = tenant && (commandIds tenant device history).contains row.commandId) }

/-- Attempts, receipts and wakeups of a command go with it; there are none left. -/
def deleteCommands (history : History) : History :=
  { history with
    commands := history.commands.filter fun row => !(row.tenantId = tenant && row.deviceId = device) }

def deleteIngress (history : History) : History :=
  { history with
    ingress := history.ingress.filter fun row => !(row.tenantId = tenant && row.deviceId = device) }

/-- The statements before the certificates. -/
def deleteHistory (history : History) : Except PgError History := do
  let history := deleteInstances tenant device (deleteTraffic tenant device (deleteMessages tenant device history))
  let history ← deleteAttempts tenant device history
  return deleteIngress tenant device
    (deleteCommands tenant device (deleteOutbox tenant device (deleteReceipts tenant device history)))

def deleteCertificates (enroll : EnrollDb) : EnrollDb :=
  { enroll with
    certificates := enroll.certificates.delete fun row => row.tenantId = tenant && row.deviceId = device }

def boundTo (row : CodeRow) : Bool := row.tenantId = tenant && row.deviceId = some device

/-- `SET device_id = NULL`. -/
def unbind (row : CodeRow) : CodeRow := { row with deviceId := none }

theorem unbind_code (row : CodeRow) : (unbind row).code = row.code := rfl

/-- `UPDATE app.enrollment_codes SET device_id = NULL WHERE device_id = p_device_id`. -/
def unbindCodes (enroll : EnrollDb) : Except PgError EnrollDb :=
  if enroll.codes.rows.any fun row => boundTo tenant device row && !oneTime (unbind row) then
    .error ⟨"23514", "new row for relation \"enrollment_codes\" violates check constraint \"enrollment_codes_one_time\""⟩
  else .ok { enroll with codes := enroll.codes.update (boundTo tenant device) unbind unbind_code }

/-- A message of another device may name a modem of this one. -/
def deleteModems (history : History) : Except PgError History :=
  let doomed := history.modems.filter fun row => row.tenantId = tenant && row.deviceId = device
  if history.messages.any fun message => doomed.any fun row =>
      message.tenantId = row.tenantId && message.modemId = some row.id then
    .error (foreignKeyError "modems" "messages_modem_tenant_fkey")
  else .ok { history with modems := history.modems.filter fun row => !doomed.contains row }

def deleteDeviceRow (db : DeviceDb) : Except PgError DeviceDb :=
  match referredTo tenant device db with
  | some constraint => .error (foreignKeyError "devices" constraint)
  | none =>
    .ok {
      enroll := { db.enroll with
        devices := db.enroll.devices.delete fun row => row.tenantId = tenant && row.id = device }
      history := { db.history with
        followers := db.history.followers.filter fun row => row.deviceId ≠ device } }

/-- `app.delete_device` in the context of a tenant. -/
def deleteDevice (db : DeviceDb) : Except PgError (DeviceDb × Bool) :=
  if (db.enroll.devices.rows.any fun row => row.tenantId = tenant && row.id = device) = false then .ok (db, false)
  else do
    let history ← deleteHistory tenant device db.history
    let enroll ← unbindCodes tenant device (deleteCertificates tenant device db.enroll)
    let history ← deleteModems tenant device history
    let db ← deleteDeviceRow tenant device { enroll := enroll, history := history }
    return (db, true)

end Statements

/-! ## Runs -/

structure State where
  db : DeviceDb
  issues : List Issue

/-- A statement of an enrolment, a write elsewhere, or a deletion. -/
inductive Event where
  | enrol (event : Enrollment.Event)
  /-- `SQLCodes.Create`. -/
  | createCode (tenant : Uuid) (code : String) (expiresAt : Timestamp)
  /-- A tenant is registered, suspended or made active again. -/
  | setTenant (row : TenantRow)
  /-- `RenameDevice` and the projections: everything of a device but its id and its tenant. -/
  | editDevice (device : Uuid) (imei name vertical : String)
  /-- Whatever devices report or are sent from here on. -/
  | record (history : History)
  | deleteDevice (tenant device : Uuid)

def newCode (tenant : Uuid) (code : String) (expiresAt : Timestamp) : CodeRow :=
  ⟨code, tenant, expiresAt, none, none⟩

def editRow (imei name vertical : String) (row : DeviceRow) : DeviceRow :=
  { row with imei := imei, name := name, vertical := vertical }

theorem editRow_id (imei name vertical : String) (row : DeviceRow) : (editRow imei name vertical row).id = row.id := rfl

def keepTenant (new row : TenantRow) : TenantRow := { new with id := row.id }

theorem keepTenant_id (new row : TenantRow) : (keepTenant new row).id = row.id := rfl

def step (quotas : Uuid → Option Int) (state : State) : Event → State
  | .enrol event =>
    let next := Enrollment.step quotas ⟨state.db.enroll, state.issues⟩ event
    { db := { state.db with enroll := next.db }, issues := next.issues }
  | .createCode tenant code expiresAt =>
    if fresh : ∀ other ∈ state.db.enroll.codes, other.code ≠ (newCode tenant code expiresAt).code then
      { state with db := { state.db with
          enroll := { state.db.enroll with codes := state.db.enroll.codes.insert (newCode tenant code expiresAt) fresh } } }
    else state
  | .setTenant row =>
    { state with db := { state.db with
        enroll := { state.db.enroll with tenants := state.db.enroll.tenants.upsert row (keepTenant row) (keepTenant_id row) } } }
  | .editDevice device imei name vertical =>
    { state with db := { state.db with
        enroll := { state.db.enroll with
          devices := state.db.enroll.devices.update (fun row => row.id = device) (editRow imei name vertical)
            (editRow_id imei name vertical) } } }
  | .record history => { state with db := { state.db with history := history } }
  | .deleteDevice tenant device =>
    match deleteDevice tenant device state.db with
    | .ok (db, _) => { state with db := db }
    | .error _ => state

end VodogeCloud.Source.DeviceDeletion
