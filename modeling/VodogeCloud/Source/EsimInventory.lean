import VodogeCloud.Source.DeviceProjection

/-!
# The eSIM inventory

`app.esim_profiles` and `app.project_esim_inventory` (0026_esim_inventory.sql:12-108),
called by `app.accept_ingress` for an `EsimInventory` (0066_modem_registry.sql:442-443).
-/

set_option autoImplicit false

namespace VodogeCloud.Source.EsimInventory

open VodogeCloud.Lib VodogeCloud.Source.Postgres VodogeCloud.Source.DeviceProjection

/-- `esim_profiles_state_known`. -/
inductive ProfileState where
  | enabled
  | disabled
  | deleted
  | unknown
  deriving DecidableEq, Repr

def profileState : String → Option ProfileState
  | "enabled" => some .enabled
  | "disabled" => some .disabled
  | "deleted" => some .deleted
  | "unknown" => some .unknown
  | _ => none

structure ProfileRow where
  tenantId : Uuid
  eid : String
  iccid : String
  state : ProfileState
  nickname : Option String
  modemImei : Option String
  deviceId : Uuid
  collectedAt : Timestamp
  deriving DecidableEq, Repr

/-- `esim_profiles_pkey`. -/
def ProfileRow.key (row : ProfileRow) : Uuid × String × String := (row.tenantId, row.eid, row.iccid)

/-- The arguments that a chip's inventories share and those that differ. -/
structure InventoryArgs where
  tenantId : Uuid
  deviceId : Uuid
  payload : Jsonb
  deriving DecidableEq, Repr

/-- Digits only, and as many as allowed. -/
def digitString (shortest longest : Nat) (text : String) : Bool :=
  text.toList.all Char.isDigit && shortest ≤ text.length && text.length ≤ longest

/-- `SET state = 'deleted', collected_at = v_at`. -/
def markDeleted (at_ : Timestamp) (row : ProfileRow) : ProfileRow :=
  { row with state := .deleted, collectedAt := at_ }

theorem markDeleted_key (at_ : Timestamp) (row : ProfileRow) : (markDeleted at_ row).key = row.key := rfl

/-- The non-empty iccids of the profiles. -/
def listedIccids (casts : Casts) (profiles : List Jsonb) : List String :=
  profiles.filterMap fun profile => nullif (casts.field profile "iccid")

/-- The proposed row, with the checks of the table. -/
def proposeProfile (casts : Casts) (args : InventoryArgs) (eid iccid : String) (at_ : Timestamp)
    (profile : Jsonb) : Except PgError ProfileRow :=
  if ¬ digitString 32 32 eid then
    .error ⟨"23514", "new row for relation \"esim_profiles\" violates check constraint \"esim_profiles_eid_shape\""⟩
  else if ¬ digitString 19 20 iccid then
    .error ⟨"23514", "new row for relation \"esim_profiles\" violates check constraint \"esim_profiles_iccid_shape\""⟩
  else
    match profileState ((casts.field profile "state").getD "unknown") with
    | none => .error ⟨"23514", "new row for relation \"esim_profiles\" violates check constraint \"esim_profiles_state_known\""⟩
    | some state => .ok {
        tenantId := args.tenantId
        eid := eid
        iccid := iccid
        state := state
        nickname := nullif (casts.field profile "nickname")
        modemImei := casts.field args.payload "modem_imei"
        deviceId := args.deviceId
        collectedAt := at_ }

/-- `DO UPDATE SET ... WHERE EXCLUDED.collected_at >= collected_at`. -/
def replaceProfile (new row : ProfileRow) : ProfileRow :=
  if row.collectedAt ≤ new.collectedAt then
    { row with
      state := new.state
      nickname := coalesce new.nickname row.nickname
      modemImei := new.modemImei
      deviceId := new.deviceId
      collectedAt := new.collectedAt }
  else row

theorem replaceProfile_key (new row : ProfileRow) : (replaceProfile new row).key = row.key := by
  unfold replaceProfile
  split
  · rfl
  · rfl

/-- One turn of the loop over `profiles`. -/
def projectProfile (casts : Casts) (args : InventoryArgs) (eid : String) (at_ : Timestamp)
    (table : Table ProfileRow.key) (profile : Jsonb) : Except PgError (Table ProfileRow.key) :=
  match nullif (casts.field profile "iccid") with
  | none => .ok table
  | some iccid => do
    let row ← proposeProfile casts args eid iccid at_ profile
    return table.upsert row (replaceProfile row) (replaceProfile_key row)

/-- The rows the mark-as-deleted UPDATE hits. -/
def unlistedHit (casts : Casts) (tenant : Uuid) (eid : String) (at_ : Timestamp)
    (profiles : List Jsonb) (row : ProfileRow) : Bool :=
  row.tenantId = tenant && row.eid = eid && row.collectedAt < at_ &&
    !(listedIccids casts profiles).contains row.iccid

/-- `app.project_esim_inventory`. -/
def projectEsimInventory (casts : Casts) (args : InventoryArgs) (table : Table ProfileRow.key) :
    Except PgError (Table ProfileRow.key) := do
  let at_ ← casts.instant args.payload "collected_at"
  match nullif (casts.field args.payload "eid") with
  | none => return table
  | some eid =>
    let profiles ← elementsAt args.payload "profiles"
    profiles.foldlM (projectProfile casts args eid at_)
      (table.update (unlistedHit casts args.tenantId eid at_ profiles) (markDeleted at_)
        (markDeleted_key at_))

end VodogeCloud.Source.EsimInventory
