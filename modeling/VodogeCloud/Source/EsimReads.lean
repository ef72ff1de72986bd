import VodogeCloud.Lib.LatestPerKey
import VodogeCloud.Source.Postgres

/-!
# What the modules said about their chips

`parseEsimInfoResult`, `latestEsimChipReads` and `latestEsimProfileListings`
(apps/console/lib/catalog.ts:1180-1199, 1279-1343, 1422-1533, 1558-1608, 1805-1823, 2124-2126)
over the rows of relayed commands. A `Map` of JavaScript remembers the order of its keys and
`sort` is stable. `localeCompare` is a parameter: `collate a b` says that `a` does not come
after `b`.
-/

set_option autoImplicit false

namespace VodogeCloud.Source.EsimReads

open VodogeCloud.Source.Postgres VodogeCloud.Lib.LatestPerKey

/-! ## Values -/

/-- A property of a value, absent where the value is no object. -/
def property (value : Option Jsonb) (name : String) : Option Jsonb := value.bind (·.get name)

/-- An empty text is no text. -/
def asString : Option Jsonb → Option String
  | some (.str text) => if text = "" then none else some text
  | _ => none

def asNumber : Option Jsonb → Option Rat
  | some (.num value) => some value
  | _ => none

def asBoolean : Option Jsonb → Option Bool
  | some (.bool value) => some value
  | _ => none

def arrayOf : Option Jsonb → List Jsonb
  | some (.arr items) => items
  | _ => []

def stringsOf (value : Option Jsonb) : List String :=
  (arrayOf value).filterMap fun item =>
    match item with
    | .str text => some text
    | _ => none

/-- `typeof value === "object"`, of a value that is not null. -/
def isRecord : Jsonb → Bool
  | .obj _ | .arr _ => true
  | _ => false

/-! ## One reading -/

structure EsimChipInfo where
  profileVersion : Option String
  sgp22Version : Option String
  firmwareVersion : Option String
  installedApplications : Option Rat
  freeNonVolatileMemory : Option Rat
  freeVolatileMemory : Option Rat
  uiccCapabilities : List String
  ts102241Version : Option String
  globalPlatformVersion : Option String
  rspCapabilities : List String
  ciKeyIdsForVerification : List String
  ciKeyIdsForSigning : List String
  category : Option Rat
  forbiddenProfilePolicyRules : List String
  ppVersion : Option String
  sasAccreditationNumber : Option String
  decodedFields : Rat
  deriving DecidableEq, Repr

structure EsimReadProfile where
  iccid : String
  enabled : Bool
  label : Option String
  name : Option String
  nickname : Option String
  provider : Option String
  profileClass : Option Rat
  isdpAid : Option String
  deriving DecidableEq, Repr

structure EsimNotificationRow where
  sequenceNumber : Rat
  operations : List String
  address : String
  iccid : Option String
  deriving DecidableEq, Repr

structure EsimInfoResult where
  imei : String
  eid : String
  chip : EsimChipInfo
  profiles : List EsimReadProfile
  notifications : List EsimNotificationRow
  notificationsError : Option String
  profilesError : Option String
  deriving DecidableEq, Repr

/-- A profile without an ICCID is dropped. -/
def parseEsimReadProfile (value : Jsonb) : Option EsimReadProfile :=
  let row := property (some value)
  (asString (row "iccid")).map fun iccid =>
    { iccid
      enabled := asBoolean (row "enabled") = some true
      label := asString (row "label")
      name := asString (row "name")
      nickname := asString (row "nickname")
      provider := asString (row "provider")
      profileClass := asNumber (row "class")
      isdpAid := asString (row "isdp_aid") }

def parseEsimNotification (value : Jsonb) : Option EsimNotificationRow :=
  let row := property (some value)
  match asNumber (row "sequence_number"), asString (row "address") with
  | some sequenceNumber, some address =>
    some { sequenceNumber, address, operations := stringsOf (row "operations"), iccid := asString (row "iccid") }
  | _, _ => none

def parseEsimInfoResult (value : Option Jsonb) : Option EsimInfoResult :=
  let row := property value
  let chip := property (row "chip")
  match asString (row "eid"), asString (row "imei") with
  | some eid, some imei =>
    some
      { imei, eid
        chip :=
          { profileVersion := asString (chip "profile_version")
            sgp22Version := asString (chip "sgp22_version")
            firmwareVersion := asString (chip "firmware_version")
            installedApplications := asNumber (chip "installed_applications")
            freeNonVolatileMemory := asNumber (chip "free_non_volatile_memory")
            freeVolatileMemory := asNumber (chip "free_volatile_memory")
            uiccCapabilities := stringsOf (chip "uicc_capabilities")
            ts102241Version := asString (chip "ts102241_version")
            globalPlatformVersion := asString (chip "global_platform_version")
            rspCapabilities := stringsOf (chip "rsp_capabilities")
            ciKeyIdsForVerification := stringsOf (chip "ci_key_ids_for_verification")
            ciKeyIdsForSigning := stringsOf (chip "ci_key_ids_for_signing")
            category := asNumber (chip "category")
            forbiddenProfilePolicyRules := stringsOf (chip "forbidden_profile_policy_rules")
            ppVersion := asString (chip "pp_version")
            sasAccreditationNumber := asString (chip "sas_accreditation_number")
            decodedFields := (asNumber (chip "decoded_fields")).getD 0 }
        profiles := (arrayOf (row "profiles")).filterMap parseEsimReadProfile
        notifications := (arrayOf (row "notifications")).filterMap parseEsimNotification
        notificationsError := asString (row "notifications_error")
        profilesError := asString (row "profiles_error") }
  | _, _ => none

/-! ## The latest readings -/

/-- Of a row of a relayed command, what the two functions read. -/
structure EsimCommandRow where
  kind : String
  status : String
  completedAt : Option Int
  payload : Option Jsonb
  details : Option Jsonb
  deriving DecidableEq, Repr

/-- `row.completed_at ?? 0`. -/
def EsimCommandRow.at (row : EsimCommandRow) : Int := row.completedAt.getD 0

structure EsimChipReading where
  info : EsimInfoResult
  completedAt : Option Int
  deriving DecidableEq, Repr

def EsimChipReading.eid (reading : EsimChipReading) : String := reading.info.eid

def EsimChipReading.imei (reading : EsimChipReading) : String := reading.info.imei

/-- `reading.completedAt ?? 0`. -/
def EsimChipReading.at (reading : EsimChipReading) : Int := reading.completedAt.getD 0

/-- A row that is a successful reading of a chip. -/
def chipReading (row : EsimCommandRow) : Option EsimChipReading :=
  if row.kind ≠ "read_esim_info" ∨ row.status ≠ "succeeded" then none
  else (parseEsimInfoResult row.details).map fun info => ⟨info, row.completedAt⟩

/-- The successful readings of chips. -/
def readings (rows : List EsimCommandRow) : List EsimChipReading := rows.filterMap chipReading

/-- The order `latestEsimChipReads` sorts by. -/
def EidOrder (collate : String → String → Bool) (left right : EsimChipReading) : Prop :=
  collate left.eid right.eid = true

instance (collate : String → String → Bool) : DecidableRel (EidOrder collate) :=
  fun left right => inferInstanceAs (Decidable (collate left.eid right.eid = true))

/-- The most recent successful reading of each EID. -/
def latestEsimChipReads (collate : String → String → Bool) (rows : List EsimCommandRow) :
    List EsimChipReading :=
  (latest EsimChipReading.eid EsimChipReading.at (readings rows)).insertionSort (EidOrder collate)

/-! ## The latest listings -/

structure EsimProfileListing where
  modemImei : String
  eid : Option String
  profiles : List EsimReadProfile
  profilesError : Option String
  collectedAt : Int
  deriving DecidableEq, Repr

/-- `eidByImei`: of the readings that name a module the last one is kept. -/
def eidByImei (collate : String → String → Bool) (rows : List EsimCommandRow) (imei : String) :
    Option String :=
  (((latestEsimChipReads collate rows).filter fun reading => reading.imei = imei).getLast?).map
    EsimChipReading.eid

def esimChipCommands : List String := ["read_esim_info", "list_esim_profiles"]

/-- A row that is a successful listing, with the EID a module's listings borrow. -/
def profileListing (borrowed : String → Option String) (row : EsimCommandRow) :
    Option EsimProfileListing :=
  if row.status ≠ "succeeded" ∨ row.kind ∉ esimChipCommands then none
  else
    match row.details with
    | none => none
    | some details =>
      if !isRecord details then none
      else
        let body := property (some details)
        ((asString (body "imei")).or (asString (property row.payload "modem_imei"))).map fun modemImei =>
          { modemImei
            eid := (asString (body "eid")).or (borrowed modemImei)
            profiles := (arrayOf (body "profiles")).filterMap parseEsimReadProfile
            profilesError := asString (body "profiles_error")
            collectedAt := row.at }

def ImeiOrder (collate : String → String → Bool) (left right : EsimProfileListing) : Prop :=
  collate left.modemImei right.modemImei = true

instance (collate : String → String → Bool) : DecidableRel (ImeiOrder collate) :=
  fun left right => inferInstanceAs (Decidable (collate left.modemImei right.modemImei = true))

def latestEsimProfileListings (collate : String → String → Bool) (rows : List EsimCommandRow) :
    List EsimProfileListing :=
  (latest EsimProfileListing.modemImei EsimProfileListing.collectedAt
    (rows.filterMap (profileListing (eidByImei collate rows)))).insertionSort (ImeiOrder collate)

end VodogeCloud.Source.EsimReads
