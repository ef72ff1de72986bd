import VodogeCloud.Source.DeviceProjection

/-!
# Proxy traffic

`app.project_proxy_traffic` (0019_proxy_traffic_projection.sql:16-60) into
`app.proxy_traffic` (0017_proxy.sql:99-111), the ProxyTraffic branch of
`app.accept_ingress`. `date_trunc('hour', ...)` depends on the time zone of the
session and is a parameter; so is the set of the proxy instances.
-/

set_option autoImplicit false

namespace VodogeCloud.Source.ProxyTraffic

open VodogeCloud.Lib VodogeCloud.Source.Postgres VodogeCloud.Source.IngressWindow
open VodogeCloud.Source.IngressWrites VodogeCloud.Source.DeviceProjection

/-- The three counters of a row. -/
@[ext] structure Figures where
  bytesUp : Int
  bytesDown : Int
  connections : Int
  deriving DecidableEq, Repr

def Figures.add (a b : Figures) : Figures :=
  ⟨a.bytesUp + b.bytesUp, a.bytesDown + b.bytesDown, a.connections + b.connections⟩

structure TrafficRow where
  tenantId : Uuid
  instanceId : Uuid
  hour : Timestamp
  figures : Figures
  deriving DecidableEq, Repr

/-- `proxy_traffic_pkey`. -/
def TrafficRow.key (row : TrafficRow) : Uuid × Uuid × Timestamp :=
  (row.tenantId, row.instanceId, row.hour)

/-- What the projection takes from the server: the casts, `date_trunc` to the hour, and
the ids in `app.proxy_instances` with their tenants. -/
structure TrafficCasts extends Casts where
  truncHour : Timestamp → Timestamp
  proxyInstance : Uuid → Uuid → Bool

/-- `v_hour`. -/
def TrafficCasts.hour (casts : TrafficCasts) (payload : Jsonb) : Except PgError Timestamp :=
  (casts.instant payload "reported_at").map casts.truncHour

/-- `COALESCE((v_entry ->> key)::bigint, 0)`. -/
def TrafficCasts.count (casts : TrafficCasts) (entry : Jsonb) (key : String) : Except PgError Int :=
  ((casts.field entry key).mapM casts.bigint).map (·.getD 0)

/-- One entry of `instances`; absent where the loop CONTINUEs. -/
def readTraffic (casts : TrafficCasts) (tenant : Uuid) (entry : Jsonb) :
    Except PgError (Option (Uuid × Figures)) :=
  match nullif (casts.field entry "instance_id") with
  | none => .ok none
  | some text => do
    let id ← uuidIn text
    if casts.proxyInstance tenant id then
      let bytesUp ← casts.count entry "bytes_up"
      let bytesDown ← casts.count entry "bytes_down"
      let connections ← casts.count entry "connections"
      return some (id, ⟨bytesUp, bytesDown, connections⟩)
    else return none

/-- The result of a bigint addition, or the overflow error. -/
def sumInRange (figures : Figures) : Except PgError Figures :=
  let inRange (value : Int) : Bool := -9223372036854775808 ≤ value && value ≤ 9223372036854775807
  if inRange figures.bytesUp && inRange figures.bytesDown && inRange figures.connections then
    .ok figures
  else .error ⟨"22003", "bigint out of range"⟩

/-- What the row's counters become. -/
def merged (traffic : Table TrafficRow.key) (row : TrafficRow) : Except PgError Figures :=
  match traffic.find row.key with
  | some stored => sumInRange (stored.figures.add row.figures)
  | none => .ok row.figures

def setFigures (figures : Figures) (row : TrafficRow) : TrafficRow := { row with figures := figures }

theorem setFigures_key (figures : Figures) (row : TrafficRow) : (setFigures figures row).key = row.key :=
  rfl

/-- The INSERT ... ON CONFLICT DO UPDATE, with `proxy_traffic_hour_is_whole`. -/
def recordTraffic (casts : TrafficCasts) (traffic : Table TrafficRow.key) (row : TrafficRow) :
    Except PgError (Table TrafficRow.key) :=
  if casts.truncHour row.hour ≠ row.hour then
    .error ⟨"23514", "new row for relation \"proxy_traffic\" violates check constraint \"proxy_traffic_hour_is_whole\""⟩
  else do
    let figures ← merged traffic row
    return traffic.upsert row (setFigures figures) (setFigures_key figures)

/-- One turn of the loop over `instances`. -/
def projectEntry (casts : TrafficCasts) (tenant : Uuid) (hour : Timestamp)
    (traffic : Table TrafficRow.key) (entry : Jsonb) : Except PgError (Table TrafficRow.key) := do
  match ← readTraffic casts tenant entry with
  | none => return traffic
  | some (id, figures) => recordTraffic casts traffic ⟨tenant, id, hour, figures⟩

/-- `app.project_proxy_traffic`. -/
def projectProxyTraffic (casts : TrafficCasts) (record : IngressRow)
    (traffic : Table TrafficRow.key) : Except PgError (Table TrafficRow.key) := do
  let hour ← casts.hour record.payload
  let entries ← elementsAt record.payload "instances"
  entries.foldlM (projectEntry casts record.tenantId hour) traffic

variable {τ : Type}

/-- The branches of the other kinds write tables of their own, `τ`. -/
def projectTraffic (casts : TrafficCasts)
    (others : Table TrafficRow.key → τ → IngressRow → Except PgError τ)
    (tables : Table TrafficRow.key × τ) (record : IngressRow) :
    Except PgError (Table TrafficRow.key × τ) :=
  if record.kind = "ProxyTraffic" then
    (projectProxyTraffic casts record tables.1).map fun traffic => (traffic, tables.2)
  else (others tables.1 tables.2 record).map fun rest => (tables.1, rest)

end VodogeCloud.Source.ProxyTraffic
