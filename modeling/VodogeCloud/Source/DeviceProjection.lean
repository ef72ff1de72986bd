import VodogeCloud.Source.IngressWrites

/-!
# What a DeviceState record does to the tables of its device

The `DeviceState` branch of `app.accept_ingress` (0066_modem_registry.sql:152-440)
and the triggers on `app.ingress`: `project_ingress_row`
(0029_drop_trigger_projection.sql:42-64), `project_managed_modems`
(0055_retire_unmanaged_modems.sql:30-103) and `project_modem_candidates`
(0056_serial_candidates_and_projection_safety.sql:53-121). The columns
`created_at`, `updated_at` and `reconciled_at` and the surrogate `id` of a modem are
left out: nothing here reads them.

A text that is read as a number is read by the server's input functions, which are
a parameter. A jsonb number keeps its value and not its spelling.
-/

set_option autoImplicit false

namespace VodogeCloud.Source.DeviceProjection

open VodogeCloud.Lib VodogeCloud.Source.Postgres VodogeCloud.Source.IngressWindow
open VodogeCloud.Source.IngressWrites

/-- What a numeric(5,1) column holds. -/
inductive Numeric where
  | nan
  | value (value : Rat)
  deriving DecidableEq, Repr

/-- The input functions of the server. `text` is what `->>` prints for a number,
an array or an object; `percent` is numeric input into a numeric(5,1) column;
`toTimestamp` takes the milliseconds that are divided by 1000.0. -/
structure Casts where
  text : Jsonb → String
  bigint : String → Except PgError Int
  integer : String → Except PgError Int
  boolean : String → Except PgError Bool
  percent : String → Except PgError Numeric
  toTimestamp : Int → Except PgError Timestamp

/-! ## Reading a payload -/

/-- `value ? key`. -/
def hasKey (value : Jsonb) (key : String) : Bool := (value.get key).isSome

/-- A jsonb value as text; JSON null is NULL. -/
def Casts.textOf (casts : Casts) : Jsonb → Option String
  | .null => none
  | .bool value => some (if value then "true" else "false")
  | .str text => some text
  | other => some (casts.text other)

/-- `value ->> key`. -/
def Casts.field (casts : Casts) (value : Jsonb) (key : String) : Option String :=
  (value.get key).bind casts.textOf

/-- `NULLIF(text, '')`. -/
def nullif (text : Option String) : Option String := text.filter (· ≠ "")

/-- `to_timestamp(COALESCE((value ->> key)::bigint, 0) / 1000.0)`. -/
def Casts.instant (casts : Casts) (value : Jsonb) (key : String) : Except PgError Timestamp := do
  let milliseconds ← (casts.field value key).mapM casts.bigint
  casts.toTimestamp (milliseconds.getD 0)

/-- `jsonb_array_elements`. -/
def arrayElements : Jsonb → Except PgError (List Jsonb)
  | .arr items => .ok items
  | .obj _ => .error ⟨"22023", "cannot extract elements from an object"⟩
  | _ => .error ⟨"22023", "cannot extract elements from a scalar"⟩

/-- `jsonb_array_elements(COALESCE(value -> key, '[]'))`. -/
def elementsAt (value : Jsonb) (key : String) : Except PgError (List Jsonb) :=
  arrayElements ((value.get key).getD (.arr []))

/-- `COALESCE(new, old)`. -/
def coalesce {α : Type} (new old : Option α) : Option α := new.or old

/-! ## app.devices -/

/-- The host columns. -/
structure Host where
  publicIp : Option String
  cpuPercent : Option Numeric
  memoryUsedBytes : Option Int
  memoryTotalBytes : Option Int
  diskUsedBytes : Option Int
  diskTotalBytes : Option Int
  netRxBytesPerSec : Option Int
  netTxBytesPerSec : Option Int
  cpuModel : Option String
  kernel : Option String
  hostname : Option String
  hostReportedAt : Option Timestamp
  deriving DecidableEq, Repr

structure DeviceStateRow where
  id : Uuid
  tenantId : Uuid
  lastSeenAt : Option Timestamp
  state : Jsonb
  host : Host
  deriving DecidableEq, Repr

/-- `GREATEST(COALESCE(stored, seen), seen)`. -/
def greatest (stored : Option Timestamp) (seen : Timestamp) : Timestamp := max (stored.getD seen) seen

/-- The host columns of a payload that has a `host` key. -/
def readHost (casts : Casts) (payload : Jsonb) (observed : Timestamp) : Except PgError Host := do
  let host := (payload.get "host").getD .null
  let cpuPercent ← (casts.field host "cpu_percent").mapM casts.percent
  let memoryUsedBytes ← (casts.field host "memory_used_bytes").mapM casts.bigint
  let memoryTotalBytes ← (casts.field host "memory_total_bytes").mapM casts.bigint
  let diskUsedBytes ← (casts.field host "disk_used_bytes").mapM casts.bigint
  let diskTotalBytes ← (casts.field host "disk_total_bytes").mapM casts.bigint
  let netRxBytesPerSec ← (casts.field host "net_rx_bytes_per_sec").mapM casts.bigint
  let netTxBytesPerSec ← (casts.field host "net_tx_bytes_per_sec").mapM casts.bigint
  return {
    publicIp := nullif (casts.field host "public_ip")
    cpuPercent, memoryUsedBytes, memoryTotalBytes, diskUsedBytes, diskTotalBytes
    netRxBytesPerSec, netTxBytesPerSec
    cpuModel := nullif (casts.field host "cpu_model")
    kernel := nullif (casts.field host "kernel")
    hostname := nullif (casts.field host "hostname")
    hostReportedAt := some observed }

/-- `CASE WHEN payload ? 'host' THEN ... ELSE` the stored columns. -/
def hostBlock (casts : Casts) (payload : Jsonb) (observed : Timestamp) :
    Except PgError (Option Host) :=
  if hasKey payload "host" then (readHost casts payload observed).map some else .ok none

/-- The SET list of `UPDATE app.devices`. -/
def observeDevice (observed : Timestamp) (payload : Jsonb) (host : Option Host)
    (row : DeviceStateRow) : DeviceStateRow :=
  { row with
    lastSeenAt := some (greatest row.lastSeenAt observed)
    state := payload
    host := host.getD row.host }

theorem observeDevice_id (observed : Timestamp) (payload : Jsonb) (host : Option Host)
    (row : DeviceStateRow) : (observeDevice observed payload host row).id = row.id := rfl

/-- The row of the record's device. -/
def DeviceStateRow.of (tenant device : Uuid) (row : DeviceStateRow) : Bool :=
  row.tenantId = tenant && row.id = device

def projectDevice (casts : Casts) (record : IngressRow) (observed : Timestamp)
    (devices : Table DeviceStateRow.id) : Except PgError (Table DeviceStateRow.id) := do
  let host ← hostBlock casts record.payload observed
  return devices.update (DeviceStateRow.of record.tenantId record.deviceId)
    (observeDevice observed record.payload host) (observeDevice_id observed record.payload host)

/-! ## app.modems -/

/-- The columns that follow the observation, NULL included. -/
structure Live where
  state : Option String
  registration : Option String
  signalDbm : Option Int
  rsrp : Option Int
  rsrq : Option Int
  sinr : Option Int
  servingPlmn : Option String
  family : String
  discovery : Option String
  manageable : Option Bool
  capability : Jsonb
  controlPort : Option String
  usbDevice : Option String
  deriving DecidableEq, Repr

/-- The columns that belong to the card. -/
structure Card where
  iccid : Option String
  imsi : Option String
  homePlmn : Option String
  msisdn : Option String
  msisdnIccid : Option String
  deriving DecidableEq, Repr

/-- The columns that a pass which could not read them leaves alone. -/
structure Kept where
  firmware : Option String
  apnContexts : Option Jsonb
  adoptionNote : Option String
  adoptedAt : Option Timestamp
  adoptedBy : Option String
  deriving DecidableEq, Repr

structure Observation where
  lastSeenAt : Option Timestamp
  live : Live
  card : Card
  kept : Kept
  deriving DecidableEq, Repr

structure ModemRow where
  tenantId : Uuid
  deviceId : Uuid
  imei : String
  seen : Observation
  managed : Bool
  deriving DecidableEq, Repr

/-- `modems_device_imei_key`. -/
def ModemRow.key (row : ModemRow) : Uuid × Uuid × String := (row.tenantId, row.deviceId, row.imei)

def ModemRow.of (tenant device : Uuid) (row : ModemRow) : Bool :=
  row.tenantId = tenant && row.deviceId = device

/-- The VALUES list of the upsert, and the checks on it: `modems_discovery_valid`
and `modems_capability_is_object`. -/
def readModem (casts : Casts) (observed : Timestamp) (modem : Jsonb) :
    Except PgError Observation := do
  let signalDbm ← (casts.field modem "signal_dbm").mapM casts.integer
  let rsrp ← (casts.field modem "rsrp").mapM casts.integer
  let rsrq ← (casts.field modem "rsrq").mapM casts.integer
  let sinr ← (casts.field modem "sinr").mapM casts.integer
  let manageable ← (casts.field modem "manageable").mapM casts.boolean
  let adoptedMs ← (casts.field modem "adopted_at").mapM casts.bigint
  let adoptedAt ← adoptedMs.mapM casts.toTimestamp
  let discovery := casts.field modem "discovery"
  let capability := (modem.get "capability").getD (.obj [])
  if ¬ (discovery.all fun how => how = "qmi" || how = "at") then
    .error ⟨"23514", "new row for relation \"modems\" violates check constraint \"modems_discovery_valid\""⟩
  else if ¬ capability.isObject then
    .error ⟨"23514", "new row for relation \"modems\" violates check constraint \"modems_capability_is_object\""⟩
  else return {
    lastSeenAt := some observed
    live := {
      state := casts.field modem "state"
      registration := casts.field modem "registration"
      signalDbm, rsrp, rsrq, sinr
      servingPlmn := nullif (casts.field modem "serving_plmn")
      family := (casts.field modem "family").getD "unknown"
      discovery, manageable, capability
      controlPort := nullif (casts.field modem "control_port")
      usbDevice := nullif (casts.field modem "usb_device") }
    card := {
      iccid := nullif (casts.field modem "iccid")
      imsi := nullif (casts.field modem "imsi")
      homePlmn := nullif (casts.field modem "home_plmn")
      msisdn := nullif (casts.field modem "msisdn")
      msisdnIccid := nullif (casts.field modem "msisdn_iccid") }
    kept := {
      firmware := nullif (casts.field modem "firmware")
      apnContexts := (modem.get "apn_contexts").filter fun value =>
        match value with
        | .arr _ => true
        | _ => false
      adoptionNote := nullif (casts.field modem "adoption_note")
      adoptedAt
      adoptedBy := nullif (casts.field modem "adopted_by") } }

/-- The CASE of the four card columns: what was read, else what is stored while
the card is the same, else NULL. -/
def carried (old new : Card) (column : Card → Option String) : Option String :=
  if (column new).isSome then column new
  else if old.iccid = coalesce new.iccid old.iccid then column old
  else none

/-- `DO UPDATE SET`. -/
def mergeObservation (old new : Observation) : Observation where
  lastSeenAt := (new.lastSeenAt.map (greatest old.lastSeenAt)).or old.lastSeenAt
  live := new.live
  card := {
    iccid := coalesce new.card.iccid old.card.iccid
    imsi := carried old.card new.card Card.imsi
    homePlmn := carried old.card new.card Card.homePlmn
    msisdn := carried old.card new.card Card.msisdn
    msisdnIccid := carried old.card new.card Card.msisdnIccid }
  kept := {
    firmware := coalesce new.kept.firmware old.kept.firmware
    apnContexts := coalesce new.kept.apnContexts old.kept.apnContexts
    adoptionNote := coalesce new.kept.adoptionNote old.kept.adoptionNote
    adoptedAt := coalesce new.kept.adoptedAt old.kept.adoptedAt
    adoptedBy := coalesce new.kept.adoptedBy old.kept.adoptedBy }

/-- `WHERE EXCLUDED.last_seen_at >= COALESCE(stored, EXCLUDED.last_seen_at)`. -/
def notOlder (old new : Observation) : Bool :=
  new.lastSeenAt.any fun at_ => old.lastSeenAt.getD at_ ≤ at_

def observeModem (new : Observation) (row : ModemRow) : ModemRow :=
  if notOlder row.seen new then { row with seen := mergeObservation row.seen new } else row

theorem observeModem_key (new : Observation) (row : ModemRow) :
    (observeModem new row).key = row.key := by
  unfold observeModem
  split
  · rfl
  · rfl

/-- One turn of the loop over `modems`. -/
def projectModem (casts : Casts) (record : IngressRow) (observed : Timestamp)
    (modems : Table ModemRow.key) (modem : Jsonb) : Except PgError (Table ModemRow.key) :=
  match nullif (casts.field modem "modem_imei") with
  | none => .ok modems
  | some imei => do
    let seen ← readModem casts observed modem
    return modems.upsert ⟨record.tenantId, record.deviceId, imei, seen, true⟩ (observeModem seen)
      (observeModem_key seen)

def projectModems (casts : Casts) (record : IngressRow) (observed : Timestamp)
    (modems : Table ModemRow.key) : Except PgError (Table ModemRow.key) := do
  let entries ← elementsAt record.payload "modems"
  entries.foldlM (projectModem casts record observed) modems

/-! ## app.modem_registry -/

/-- The columns of an adoption. -/
structure Adoption where
  adoptedAt : Timestamp
  adoptedBy : String
  family : Option String
  note : Option String
  usbDevice : Option String
  deriving DecidableEq, Repr

structure RegistryRow where
  tenantId : Uuid
  deviceId : Uuid
  imei : String
  adoption : Adoption
  deriving DecidableEq, Repr

/-- `modem_registry_pkey`. -/
def RegistryRow.key (row : RegistryRow) : Uuid × Uuid × String :=
  (row.tenantId, row.deviceId, row.imei)

def RegistryRow.of (tenant device : Uuid) (row : RegistryRow) : Bool :=
  row.tenantId = tenant && row.deviceId = device

def readAdoption (casts : Casts) (entry : Jsonb) : Except PgError Adoption := do
  let adoptedAt ← casts.instant entry "adopted_at"
  return {
    adoptedAt
    adoptedBy := (nullif (casts.field entry "adopted_by")).getD "unknown"
    family := nullif (casts.field entry "family")
    note := nullif (casts.field entry "adoption_note")
    usbDevice := nullif (casts.field entry "usb_device") }

def mergeAdoption (new : Adoption) (row : RegistryRow) : RegistryRow :=
  { row with
    adoption := { new with
      family := coalesce new.family row.adoption.family
      usbDevice := coalesce new.usbDevice row.adoption.usbDevice } }

theorem mergeAdoption_key (new : Adoption) (row : RegistryRow) :
    (mergeAdoption new row).key = row.key := rfl

/-- One turn of the loop over `adoptions`; the key column takes no NULL. -/
def projectAdoption (casts : Casts) (record : IngressRow) (registry : Table RegistryRow.key)
    (entry : Jsonb) : Except PgError (Table RegistryRow.key) := do
  let adoption ← readAdoption casts entry
  match casts.field entry "modem_imei" with
  | none => .error ⟨"23502", "null value in column \"imei\" of relation \"modem_registry\" violates not-null constraint"⟩
  | some imei =>
    return registry.upsert ⟨record.tenantId, record.deviceId, imei, adoption⟩ (mergeAdoption adoption)
      (mergeAdoption_key adoption)

/-- A DeviceState of the device with a higher sequence is in the journal. The
record itself is there too, but not above itself. -/
def newerState (journal : List IngressRow) (record : IngressRow) : Bool :=
  journal.any fun newer =>
    newer.deviceId = record.deviceId && newer.kind = "DeviceState" && record.seq < newer.seq

def projectAdoptions (casts : Casts) (journal : List IngressRow) (record : IngressRow)
    (registry : Table RegistryRow.key) : Except PgError (Table RegistryRow.key) :=
  if hasKey record.payload "adoptions" && !newerState journal record then do
    let entries ← arrayElements ((record.payload.get "adoptions").getD .null)
    let registry ← entries.foldlM (projectAdoption casts record) registry
    return registry.delete fun row => row.of record.tenantId record.deviceId &&
      !entries.any fun entry => casts.field entry "modem_imei" = some row.imei
  else .ok registry

/-! ## app.modem_candidates -/

structure Candidate where
  usbDevice : Option String
  transport : String
  controlPort : String
  vendorId : Option String
  productId : Option String
  state : String
  imei : Option String
  detail : String
  lastSeen : Timestamp
  deriving DecidableEq, Repr

structure CandidateRow where
  tenantId : Uuid
  deviceId : Uuid
  candidateKey : String
  candidate : Candidate
  deriving DecidableEq, Repr

/-- `modem_candidates_pkey`. -/
def CandidateRow.key (row : CandidateRow) : Uuid × Uuid × String :=
  (row.tenantId, row.deviceId, row.candidateKey)

def CandidateRow.of (tenant device : Uuid) (row : CandidateRow) : Bool :=
  row.tenantId = tenant && row.deviceId = device

/-- The VALUES list, and `modem_candidates_transport_known` and
`modem_candidates_state_known`. -/
def readCandidate (casts : Casts) (entry : Jsonb) : Except PgError Candidate := do
  let lastSeen ← casts.instant entry "last_seen"
  let transport := (casts.field entry "transport").getD "at"
  let state := (casts.field entry "state").getD "found"
  if transport ∉ ["qmi", "at", "serial"] then
    .error ⟨"23514", "new row for relation \"modem_candidates\" violates check constraint \"modem_candidates_transport_known\""⟩
  else if state ∉ ["manageable", "probe_failed", "at_only", "found", "claimed"] then
    .error ⟨"23514", "new row for relation \"modem_candidates\" violates check constraint \"modem_candidates_state_known\""⟩
  else return {
    usbDevice := nullif (casts.field entry "usb_device")
    transport
    controlPort := (casts.field entry "control_port").getD ""
    vendorId := nullif (casts.field entry "vendor_id")
    productId := nullif (casts.field entry "product_id")
    state
    imei := nullif (casts.field entry "imei")
    detail := (casts.field entry "detail").getD ""
    lastSeen }

def replaceCandidate (new : Candidate) (row : CandidateRow) : CandidateRow :=
  { row with candidate := new }

theorem replaceCandidate_key (new : Candidate) (row : CandidateRow) :
    (replaceCandidate new row).key = row.key := rfl

/-- One turn of the loop over `discoveries`. -/
def projectCandidate (casts : Casts) (record : IngressRow) (candidates : Table CandidateRow.key)
    (entry : Jsonb) : Except PgError (Table CandidateRow.key) :=
  match nullif (casts.field entry "candidate_key") with
  | none => .ok candidates
  | some key => do
    let candidate ← readCandidate casts entry
    return candidates.upsert ⟨record.tenantId, record.deviceId, key, candidate⟩
      (replaceCandidate candidate) (replaceCandidate_key candidate)

/-- `v_keys`. -/
def candidateKeys (casts : Casts) (entries : List Jsonb) : List String :=
  entries.filterMap fun entry => nullif (casts.field entry "candidate_key")

/-- The block inside `BEGIN ... EXCEPTION`. -/
def replaceCandidates (casts : Casts) (record : IngressRow) (candidates : Table CandidateRow.key) :
    Except PgError (Table CandidateRow.key) := do
  let entries ← elementsAt record.payload "discoveries"
  let candidates ← entries.foldlM (projectCandidate casts record) candidates
  return candidates.delete fun row =>
    row.of record.tenantId record.deviceId && !(candidateKeys casts entries).contains row.candidateKey

/-- `app.project_modem_candidates`: an error undoes the block and is dropped. -/
def projectModemCandidates (casts : Casts) (record : IngressRow)
    (candidates : Table CandidateRow.key) : Table CandidateRow.key :=
  if hasKey record.payload "discoveries" then
    match replaceCandidates casts record candidates with
    | .ok replaced => replaced
    | .error _ => candidates
  else candidates

/-! ## The managed flag -/

/-- `jsonb_array_elements_text(payload -> 'managed_imeis')`, when it is an array. -/
def managedImeis (casts : Casts) (payload : Jsonb) : Option (List (Option String)) :=
  match payload.get "managed_imeis" with
  | some (.arr items) => some (items.map casts.textOf)
  | _ => none

/-- `imei = ANY (imeis)`: unknown when it is not found and a NULL is among them. -/
def anyOf (imei : String) (imeis : List (Option String)) : Option Bool :=
  if imeis.contains (some imei) then some true
  else if imeis.contains none then none
  else some false

/-- `managed <> (imei = ANY (imeis))`. -/
def flagDiffers (imeis : List (Option String)) (row : ModemRow) : Bool :=
  (anyOf row.imei imeis).any (· ≠ row.managed)

def setManaged (imeis : List (Option String)) (row : ModemRow) : ModemRow :=
  { row with managed := (anyOf row.imei imeis).getD row.managed }

theorem setManaged_key (imeis : List (Option String)) (row : ModemRow) :
    (setManaged imeis row).key = row.key := rfl

/-- `app.apply_managed_modems`, from the trigger. -/
def projectManagedModems (casts : Casts) (record : IngressRow) (modems : Table ModemRow.key) :
    Table ModemRow.key :=
  match managedImeis casts record.payload with
  | none => modems
  | some imeis =>
    modems.update (fun row => row.of record.tenantId record.deviceId && flagDiffers imeis row)
      (setManaged imeis) (setManaged_key imeis)

/-! ## The whole record -/

structure DeviceTables where
  devices : Table DeviceStateRow.id
  modems : Table ModemRow.key
  registry : Table RegistryRow.key
  candidates : Table CandidateRow.key

/-- The triggers, then the branch of `accept_ingress`. -/
def projectDeviceState (casts : Casts) (journal : List IngressRow) (record : IngressRow)
    (tables : DeviceTables) : Except PgError DeviceTables := do
  let flagged := projectManagedModems casts record tables.modems
  let candidates := projectModemCandidates casts record tables.candidates
  let observed ← casts.instant record.payload "observed_at"
  let devices ← projectDevice casts record observed tables.devices
  let modems ← projectModems casts record observed flagged
  let registry ← projectAdoptions casts journal record tables.registry
  return { devices, modems, registry, candidates }

/-- `app.project_ingress_row`: liveness, for every kind. -/
def touchDevice (record : IngressRow) (row : DeviceStateRow) : DeviceStateRow :=
  { row with lastSeenAt := some (greatest row.lastSeenAt record.receivedAt) }

theorem touchDevice_id (record : IngressRow) (row : DeviceStateRow) :
    (touchDevice record row).id = row.id := rfl

def projectIngressRow (record : IngressRow) (tables : DeviceTables) : DeviceTables :=
  { tables with
    devices := tables.devices.update (DeviceStateRow.of record.tenantId record.deviceId)
      (touchDevice record) (touchDevice_id record) }

/-! ## Accepting records -/

variable {τ : Type}

/-- The branches of the other kinds write tables of their own, `τ`, and may read
these. -/
def projectIngress (casts : Casts) (others : DeviceTables → τ → IngressRow → Except PgError τ)
    (journal : List IngressRow) (tables : DeviceTables × τ) (record : IngressRow) :
    Except PgError (DeviceTables × τ) :=
  if record.kind = "DeviceState" then
    (projectDeviceState casts journal record tables.1).map fun projected => (projected, tables.2)
  else (others tables.1 tables.2 record).map fun rest => (tables.1, rest)

structure Intake (τ : Type) where
  journal : IngressDb
  tables : DeviceTables
  rest : τ

structure AcceptOp where
  context : Option Uuid
  args : AcceptArgs
  now : Timestamp

/-- One call of `app.accept_ingress`. Liveness is stamped last here and first by
the trigger: both take the larger of two times. -/
def acceptRecord (casts : Casts) (others : DeviceTables → τ → IngressRow → Except PgError τ)
    (op : AcceptOp) (intake : Intake τ) : Except PgError (Intake τ) := do
  let (journal, (tables, rest), status, _) ← acceptIngress
    (projectIngress casts others intake.journal.ingress.rows) op.context op.args op.now
    intake.journal (intake.tables, intake.rest)
  return {
    journal
    tables := match status with
      | .inserted => projectIngressRow (op.args.row op.now) tables
      | .duplicate => tables
    rest }

end VodogeCloud.Source.DeviceProjection
