import VodogeCloud.Lib.CivilTime
import VodogeCloud.Lib.Joins
import VodogeCloud.Source.DeviceProjection
import VodogeCloud.Source.EventPages

/-!
# The list of modules the console shows

`ListModems` and `msisdnPending` (apps/gateway/internal/catalog/catalog.go:811-1033)
over `app.modems` and `app.modem_registry` (0066_modem_registry.sql:29-77). Row level
security leaves the rows of the tenant in each table. The order of texts is that of
the database's collation, which is a parameter. A jsonb column is scanned as its value.
-/

set_option autoImplicit false

namespace VodogeCloud.Source.ModemList

open VodogeCloud.Lib VodogeCloud.Lib.CivilTime VodogeCloud.Lib.Joins
open VodogeCloud.Source.Postgres VodogeCloud.Source.IngressWindow
open VodogeCloud.Source.IngressWrites VodogeCloud.Source.DeviceProjection
open VodogeCloud.Source.EventPages (unixMilli)

/-- The column `id` of `app.modems`: its primary key, drawn by the server. -/
structure ModemIds (modems : Table ModemRow.key) where
  id : ModemRow → Uuid
  primary : (modems.rows.map id).Nodup

/-! ## The query -/

/-- One row of the result set. -/
structure ListedRow where
  id : String
  deviceId : String
  imei : String
  family : String
  iccid : Option String
  state : Option String
  registration : Option String
  signalDbm : Option Int
  rsrp : Option Int
  rsrq : Option Int
  sinr : Option Int
  discovery : Option String
  manageable : Option Bool
  homePlmn : Option String
  servingPlmn : Option String
  smsMo : Option String
  smsMt : Option String
  carrierProfile : Option String
  origin : Option String
  lastSeenAt : Option Timestamp
  firmware : Option String
  msisdn : Option String
  msisdnIccid : Option String
  controlPort : Option String
  usbDevice : Option String
  apnContexts : Option Jsonb
  adoptionNote : Option String
  adoptedAt : Option Timestamp
  adoptedBy : Option String
  observed : Bool

/-- The first branch: a module that is not in the registry. -/
def observedRow (casts : Casts) (id : ModemRow → Uuid) (row : ModemRow) : ListedRow where
  id := uuidOut (id row)
  deviceId := uuidOut row.deviceId
  imei := row.imei
  family := row.seen.live.family
  iccid := row.seen.card.iccid
  state := row.seen.live.state
  registration := row.seen.live.registration
  signalDbm := row.seen.live.signalDbm
  rsrp := row.seen.live.rsrp
  rsrq := row.seen.live.rsrq
  sinr := row.seen.live.sinr
  discovery := row.seen.live.discovery
  manageable := row.seen.live.manageable
  homePlmn := row.seen.card.homePlmn
  servingPlmn := row.seen.live.servingPlmn
  smsMo := casts.field row.seen.live.capability "sms_mo"
  smsMt := casts.field row.seen.live.capability "sms_mt"
  carrierProfile := casts.field row.seen.live.capability "carrier_profile"
  origin := casts.field row.seen.live.capability "origin"
  lastSeenAt := row.seen.lastSeenAt
  firmware := row.seen.kept.firmware
  msisdn := row.seen.card.msisdn
  msisdnIccid := row.seen.card.msisdnIccid
  controlPort := row.seen.live.controlPort
  usbDevice := row.seen.live.usbDevice
  apnContexts := row.seen.kept.apnContexts
  adoptionNote := row.seen.kept.adoptionNote
  adoptedAt := row.seen.kept.adoptedAt
  adoptedBy := row.seen.kept.adoptedBy
  observed := true

/-- The second branch: a row of the registry, with its row of `app.modems` or NULLs. -/
def registeredRow (casts : Casts) (id : ModemRow → Uuid) (pair : RegistryRow × Option ModemRow) :
    ListedRow :=
  let r := pair.1
  let m := pair.2
  let live := m.map fun row => row.seen.live
  let card := m.map fun row => row.seen.card
  let kept := m.map fun row => row.seen.kept
  { id := (m.map fun row => uuidOut (id row)).getD ("registry:" ++ r.imei)
    deviceId := uuidOut r.deviceId
    imei := r.imei
    family := (coalesce (live.map Live.family) r.adoption.family).getD "unknown"
    iccid := card.bind Card.iccid
    state := live.bind Live.state
    registration := live.bind Live.registration
    signalDbm := live.bind Live.signalDbm
    rsrp := live.bind Live.rsrp
    rsrq := live.bind Live.rsrq
    sinr := live.bind Live.sinr
    discovery := live.bind Live.discovery
    manageable := live.bind Live.manageable
    homePlmn := card.bind Card.homePlmn
    servingPlmn := live.bind Live.servingPlmn
    smsMo := live.bind fun live => casts.field live.capability "sms_mo"
    smsMt := live.bind fun live => casts.field live.capability "sms_mt"
    carrierProfile := live.bind fun live => casts.field live.capability "carrier_profile"
    origin := live.bind fun live => casts.field live.capability "origin"
    lastSeenAt := m.bind fun row => row.seen.lastSeenAt
    firmware := kept.bind Kept.firmware
    msisdn := card.bind Card.msisdn
    msisdnIccid := card.bind Card.msisdnIccid
    controlPort := live.bind Live.controlPort
    usbDevice := live.bind Live.usbDevice
    apnContexts := kept.bind Kept.apnContexts
    adoptionNote := r.adoption.note
    adoptedAt := some r.adoption.adoptedAt
    adoptedBy := some r.adoption.adoptedBy
    observed := m.isSome }

/-- The rows of `app.modems` that the tenant sees. -/
def ownModems (tenant : Uuid) (modems : Table ModemRow.key) : List ModemRow :=
  modems.rows.filter fun row => row.tenantId = tenant

/-- The rows of `app.modem_registry` that the tenant sees. -/
def ownRegistry (tenant : Uuid) (registry : Table RegistryRow.key) : List RegistryRow :=
  registry.rows.filter fun row => row.tenantId = tenant

/-- `ORDER BY last_seen_at DESC NULLS LAST, imei`. -/
def listedBefore (imeiLe : String → String → Bool) (a b : ListedRow) : Bool :=
  match a.lastSeenAt, b.lastSeenAt with
  | some seen, some other => other < seen || (seen = other && imeiLe a.imei b.imei)
  | some _, none => true
  | none, some _ => false
  | none, none => imeiLe a.imei b.imei

/-- The two branches under UNION ALL. -/
def unionAll (casts : Casts) (id : ModemRow → Uuid) (modems : List ModemRow)
    (registry : List RegistryRow) : List ListedRow :=
  (antiJoin ModemRow.key RegistryRow.key (modems.filter ModemRow.managed) registry).map
      (observedRow casts id) ++
    (leftJoin RegistryRow.key ModemRow.key registry modems).map (registeredRow casts id)

def listQuery (casts : Casts) (imeiLe : String → String → Bool) (tenant : Uuid)
    (modems : Table ModemRow.key) (id : ModemRow → Uuid) (registry : Table RegistryRow.key) :
    List ListedRow :=
  (unionAll casts id (ownModems tenant modems) (ownRegistry tenant registry)).insertionSort
    fun a b => listedBefore imeiLe a b

/-! ## The answer -/

structure Modem where
  id : String
  deviceId : String
  imei : String
  family : String
  iccid : Option String
  state : Option String
  registration : Option String
  signalDbm : Option Int
  rsrp : Option Int
  rsrq : Option Int
  sinr : Option Int
  discovery : Option String
  manageable : Option Bool
  homePlmn : Option String
  servingPlmn : Option String
  smsMo : Option String
  smsMt : Option String
  carrierProfile : Option String
  capabilityOrigin : Option String
  lastSeen : Option Int
  firmware : Option String
  msisdn : Option String
  msisdnPending : Bool
  controlPort : Option String
  usbDevice : Option String
  apnContexts : Option Jsonb
  observed : Bool
  adoptionNote : Option String
  adoptedAt : Option String
  adoptedBy : Option String

/-- Which kind of empty the empty number is. -/
def msisdnPending (msisdn msisdnIccid iccid discovery : Option String) : Bool :=
  if msisdn.isSome then false
  else if discovery = some "at" then false
  else
    match msisdnIccid, iccid with
    -- no card, so nothing to wait for
    | none, none => false
    | some readFrom, some inserted => readFrom ≠ inserted
    | _, _ => true

/-- `Time.UTC().Format(time.RFC3339)`. -/
def rfc3339 (at_ : Timestamp) : String := String.ofList (utcText (at_ / 1000000))

def scanModem (row : ListedRow) : Modem where
  id := row.id
  deviceId := row.deviceId
  imei := row.imei
  family := row.family
  iccid := row.iccid
  state := row.state
  registration := row.registration
  signalDbm := row.signalDbm
  rsrp := row.rsrp
  rsrq := row.rsrq
  sinr := row.sinr
  discovery := row.discovery
  manageable := row.manageable
  homePlmn := row.homePlmn
  servingPlmn := row.servingPlmn
  smsMo := row.smsMo
  smsMt := row.smsMt
  carrierProfile := row.carrierProfile
  capabilityOrigin := row.origin
  lastSeen := row.lastSeenAt.map unixMilli
  firmware := row.firmware
  msisdn := row.msisdn
  msisdnPending := msisdnPending row.msisdn row.msisdnIccid row.iccid row.discovery
  controlPort := row.controlPort
  usbDevice := row.usbDevice
  apnContexts := row.apnContexts
  observed := row.observed
  adoptionNote := row.adoptionNote
  adoptedAt := row.adoptedAt.map rfc3339
  adoptedBy := row.adoptedBy

def listModems (casts : Casts) (imeiLe : String → String → Bool) (tenant : Uuid)
    (modems : Table ModemRow.key) (ids : ModemIds modems) (registry : Table RegistryRow.key) :
    List Modem :=
  (listQuery casts imeiLe tenant modems ids.id registry).map scanModem

end VodogeCloud.Source.ModemList
