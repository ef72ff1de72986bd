import VodogeCloud.Lib.Table
import VodogeCloud.Source.CommandLifecycle

/-!
# Enrolling devices

`app.consume_enrollment_code` and its tables (0006_enrollment.sql), `SQLIssuer.Issue`
and `checkDeviceQuota` (apps/gateway/internal/enroll/sql.go:28-141).

`Issue` is one transaction at read committed: each statement sees what is committed when
it starts and what the transaction itself wrote, and nothing of it is seen before it
commits. A call is its statements one by one. `FOR UPDATE` on the code makes a second
transaction with the same code wait until the first is over.
-/

set_option autoImplicit false

namespace VodogeCloud.Source.Enrollment

open VodogeCloud.Lib VodogeCloud.Source.Postgres
open VodogeCloud.Source.CommandLifecycle (blank)

/-! ## Rows -/

/-- A row of `app.tenants`. -/
structure TenantRow where
  id : Uuid
  region : String
  status : String
  deriving DecidableEq, Repr

/-- A row of `app.devices`. -/
structure DeviceRow where
  id : Uuid
  tenantId : Uuid
  imei : String
  name : String
  vertical : String
  deriving DecidableEq, Repr

/-- A row of `app.enrollment_codes`. -/
structure CodeRow where
  code : String
  tenantId : Uuid
  expiresAt : Timestamp
  usedAt : Option Timestamp
  deviceId : Option Uuid
  deriving DecidableEq, Repr

/-- A row of `app.device_certificates`. -/
structure CertificateRow where
  fingerprint : String
  serial : String
  tenantId : Uuid
  deviceId : Uuid
  notBefore : Timestamp
  notAfter : Timestamp
  deriving DecidableEq, Repr

structure EnrollDb where
  tenants : Table TenantRow.id
  devices : Table DeviceRow.id
  codes : Table CodeRow.code
  certificates : Table CertificateRow.fingerprint

/-! ## The function -/

/-- `btrim`. -/
def btrim (text : String) : String :=
  String.ofList (((text.toList.dropWhile (· = ' ')).reverse.dropWhile (· = ' ')).reverse)

/-- The name of the new device: the hint, where it is one and not a CSR. -/
def deviceName (hint : String) : String :=
  if 1 ≤ (btrim hint).length ∧ (btrim hint).length ≤ 128 ∧ contains hint "-----" = false then btrim hint
  else "enrolled"

/-- A code that was used is bound to the device. -/
def useCode (now : Timestamp) (device : Uuid) (row : CodeRow) : CodeRow :=
  { row with usedAt := some now, deviceId := some device }

/-- `consume_enrollment_code` in the context of the tenant: the device it inserts and the
code it updates. -/
def consumeEnrollmentCode (db : EnrollDb) (tenant : Uuid) (code hint : String) (device : Uuid) (now : Timestamp) :
    Except PgError (DeviceRow × CodeRow) :=
  if blank code then .error ⟨"22023", "enrollment code is required"⟩
  else
    match db.tenants.find tenant with
    | none => .error ⟨"P0002", "enrollment tenant not found"⟩
    | some row =>
      if row.status ≠ "active" then .error ⟨"55000", "enrollment tenant is not active"⟩
      else
        match (db.codes.find code).filter (fun row => row.tenantId = tenant) with
        | none => .error ⟨"P0002", "enrollment code not found"⟩
        | some row =>
          if row.usedAt ≠ none then .error ⟨"55000", "enrollment code already used"⟩
          else if row.expiresAt ≤ now then .error ⟨"22000", "enrollment code expired"⟩
          else
            .ok (⟨device, tenant, "enroll-" ++ uuidOut device, deviceName hint, "edge"⟩, useCode now device row)

/-! ## The transaction -/

inductive IssueError where
  | quotaExceeded (enrolled quota : Int)
  | database (err : PgError)
  | sign
  deriving DecidableEq, Repr

inductive Phase where
  | started
  /-- `checkDeviceQuota` let the call pass. -/
  | counted
  /-- The code is locked; the device and the code are written and not committed. -/
  | consumed (device : DeviceRow) (code : CodeRow)
  /-- The certificate is signed and inserted, and not committed. -/
  | inserted (device : DeviceRow) (code : CodeRow) (certificate : CertificateRow)
  | committed (device : Uuid)
  | refused (reason : IssueError)
  deriving DecidableEq, Repr

structure Issue where
  tenantId : Uuid
  code : String
  hint : String
  phase : Phase
  deriving DecidableEq, Repr

/-- What the transaction writes to the code of the call. -/
def Issue.locks (call : Issue) (code : String) : Bool :=
  match call.phase with
  | .consumed _ row => row.code = code
  | .inserted _ row _ => row.code = code
  | _ => false

structure State where
  db : EnrollDb
  issues : List Issue

/-- `count(*)` of the devices a tenant sees. -/
def enrolled (db : EnrollDb) (tenant : Uuid) : Nat := db.devices.rows.countP (·.tenantId = tenant)

/-- `checkDeviceQuota`; no quota is no limit. -/
def checkDeviceQuota (quota : Option Int) (count : Nat) : Except IssueError Unit :=
  match quota with
  | none => .ok ()
  | some quota => if quota ≤ count then .error (.quotaExceeded count quota) else .ok ()

/-- The constraints of `app.device_certificates`. -/
def certificateError (db : EnrollDb) (row : CertificateRow) : Option PgError :=
  if row.fingerprint.length ≠ 64 ∨ row.fingerprint.toList.any (fun c => !(c.isDigit || ('a' ≤ c && c ≤ 'f'))) then
    some ⟨"23514", "new row for relation \"device_certificates\" violates check constraint \"device_certificates_fingerprint_sha256\""⟩
  else if blank row.serial then
    some ⟨"23514", "new row for relation \"device_certificates\" violates check constraint \"device_certificates_serial_nonempty\""⟩
  else if row.notAfter ≤ row.notBefore then
    some ⟨"23514", "new row for relation \"device_certificates\" violates check constraint \"device_certificates_validity\""⟩
  else if ∃ other ∈ db.certificates, other.serial = row.serial then
    some ⟨"23505", "duplicate key value violates unique constraint \"device_certificates_serial_key\""⟩
  else if ∃ other ∈ db.certificates, other.fingerprint = row.fingerprint then
    some ⟨"23505", "duplicate key value violates unique constraint \"device_certificates_fingerprint_key\""⟩
  else none

/-- The row as the transaction wrote it. -/
def writeCode (written row : CodeRow) : CodeRow := { written with code := row.code }

theorem writeCode_code (written row : CodeRow) : (writeCode written row).code = row.code := rfl

/-- The commit. A device or a certificate that another transaction has brought in since
breaks a key. -/
def commit (device : DeviceRow) (code : CodeRow) (certificate : CertificateRow) (db : EnrollDb) :
    Except PgError EnrollDb :=
  if freshDevice : ∀ other ∈ db.devices, other.id ≠ device.id then
    if freshCertificate : ∀ other ∈ db.certificates, other.fingerprint ≠ certificate.fingerprint then
      if ∃ other ∈ db.certificates, other.serial = certificate.serial then
        .error ⟨"23505", "duplicate key value violates unique constraint \"device_certificates_serial_key\""⟩
      else if ∃ other ∈ db.devices, other.tenantId = device.tenantId ∧ other.imei = device.imei then
        .error ⟨"23505", "duplicate key value violates unique constraint \"devices_tenant_imei_key\""⟩
      else
        .ok { db with
          devices := db.devices.insert device freshDevice
          codes := db.codes.update (fun row => row.code = code.code) (writeCode code) (writeCode_code code)
          certificates := db.certificates.insert certificate freshCertificate }
    else .error ⟨"23505", "duplicate key value violates unique constraint \"device_certificates_fingerprint_key\""⟩
  else .error ⟨"23505", "duplicate key value violates unique constraint \"devices_pkey\""⟩

inductive Event where
  | issue (tenant : Uuid) (code hint : String)
  | count (index : Nat)
  | consume (index : Nat) (device : Uuid) (now : Timestamp)
  /-- `sign`, which may fail, and the INSERT. -/
  | insert (index : Nat) (certificate : Option CertificateRow)
  | commit (index : Nat)
  /-- The connection or the context is gone: the transaction rolls back. -/
  | abandon (index : Nat)

section Steps

variable (quotas : Uuid → Option Int)

def State.proceed (state : State) (index : Nat) (next : Issue → Phase) : State :=
  { state with issues := state.issues.modify index fun call => { call with phase := next call } }

def count (db : EnrollDb) (call : Issue) : Phase :=
  match call.phase with
  | .started =>
    match checkDeviceQuota (quotas call.tenantId) (enrolled db call.tenantId) with
    | .error reason => .refused reason
    | .ok () => .counted
  | other => other

/-- A locked code is waited for. -/
def consume (state : State) (device : Uuid) (now : Timestamp) (call : Issue) : Phase :=
  match call.phase with
  | .counted =>
    if state.issues.any (·.locks call.code) then .counted
    else
      match consumeEnrollmentCode state.db call.tenantId call.code call.hint device now with
      | .error err => .refused (.database err)
      | .ok (row, code) => .consumed row code
  | other => other

def insertCertificate (db : EnrollDb) (certificate : Option CertificateRow) (call : Issue) : Phase :=
  match call.phase with
  | .consumed device code =>
    match certificate with
    | none => .refused .sign
    | some row =>
      match certificateError db row with
      | some err => .refused (.database err)
      | none => .inserted device code row
  | other => other

def abandon (call : Issue) : Phase :=
  match call.phase with
  | .committed device => .committed device
  | .refused reason => .refused reason
  | _ => .refused (.database ⟨"", "driver: bad connection"⟩)

/-- The transaction a commit is about. -/
def Issue.written (call : Issue) : Option (DeviceRow × CodeRow × CertificateRow) :=
  match call.phase with
  | .inserted device code certificate => some (device, code, certificate)
  | _ => none

theorem Issue.written_some {call : Issue} {device : DeviceRow} {code : CodeRow} {certificate : CertificateRow}
    (h : call.written = some (device, code, certificate)) : call.phase = .inserted device code certificate := by
  unfold Issue.written at h
  split at h
  · next held =>
    cases h
    exact held
  · cases h

def commitIssue (state : State) (index : Nat) : State :=
  match state.issues[index]?.bind Issue.written with
  | none => state
  | some (device, code, certificate) =>
    match commit device code certificate state.db with
    | .error err => state.proceed index fun _ => .refused (.database err)
    | .ok db => { state.proceed index (fun _ => .committed device.id) with db := db }

def step (state : State) : Event → State
  | .issue tenant code hint => { state with issues := state.issues ++ [⟨tenant, code, hint, .started⟩] }
  | .count index => state.proceed index (count quotas state.db)
  | .consume index device now => state.proceed index (consume state device now)
  | .insert index certificate => state.proceed index (insertCertificate state.db certificate)
  | .commit index => commitIssue state index
  | .abandon index => state.proceed index abandon

end Steps

end VodogeCloud.Source.Enrollment
