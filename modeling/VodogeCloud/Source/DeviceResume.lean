import VodogeCloud.Source.MatrixDelivery

/-!
# What a resume stores and sends

`recordResume`, `reconcileCardPolicies` and `reconcileMatrix`
(apps/gateway/cmd/gateway/main.go:2097-2227) with `app.record_device_resume`
(0025_device_health.sql:27-62), over the stores of the gateway and the handlers that are
under way in it.

Each part of `recordResume` goes on where another failed, so its errors are a list
beside the state.
-/

set_option autoImplicit false

namespace VodogeCloud.Source.DeviceResume

open VodogeCloud.Lib VodogeCloud.Source.Postgres VodogeCloud.Source.CommandTables
open VodogeCloud.Source.CommandLifecycle VodogeCloud.Source.GoJson VodogeCloud.Source.CapabilityMatrix
open VodogeCloud.Source.CardPolicies
open VodogeCloud.Source.CardDelivery (World Draw pushArgs)
open VodogeCloud.Source.MatrixDelivery (matrixArgs enqueue reconciliation)

/-- `wss.DeviceReport`. -/
structure DeviceReport where
  edgeVersion : String
  matrixVersion : String
  cardPolicyVersion : String
  queueRecords : Int
  queueBytes : Int
  deriving DecidableEq, Repr

/-- The columns of `app.devices` a resume writes. -/
structure DeviceHealth where
  id : Uuid
  tenantId : Uuid
  edgeVersion : Option String
  matrixVersion : Option String
  queueRecords : Option Int
  queueBytes : Option Int
  resumedAt : Option Timestamp
  deriving DecidableEq, Repr

def DeviceHealth.resumed (report : DeviceReport) (now : Timestamp) (row : DeviceHealth) : DeviceHealth where
  id := row.id
  tenantId := row.tenantId
  edgeVersion := nullIfEmpty (some report.edgeVersion) <|> row.edgeVersion
  matrixVersion := nullIfEmpty (some report.matrixVersion) <|> row.matrixVersion
  queueRecords := some report.queueRecords
  queueBytes := some report.queueBytes
  resumedAt := some now

theorem resumed_id (report : DeviceReport) (now : Timestamp) (row : DeviceHealth) :
    (row.resumed report now).id = row.id := rfl

/-- `app.record_device_resume`. -/
def recordDeviceResume (tenant device : Uuid) (report : DeviceReport) (now : Timestamp)
    (devices : Table DeviceHealth.id) : Except PgError (Table DeviceHealth.id) :=
  if [report.edgeVersion, report.matrixVersion].any fun text => text.toList.contains '\x00' then
    .error ⟨"22021", "invalid byte sequence for encoding \"UTF8\": 0x00"⟩
  else
    .ok (devices.update (fun row => row.tenantId = tenant && row.id = device)
      (DeviceHealth.resumed report now) (resumed_id report now))

/-- `reconcileCardPolicies`. -/
def reconcileCardPolicies (world : World) (tenant device : Uuid) (held : String) (draw : Draw)
    (cards : CardDb) (commands : CommandDb) : Except PgError CommandDb :=
  if held ≠ "" ∧ held = cards.version tenant then .ok commands
  else if cards.list tenant = [] then .ok commands
  else
    (enqueueCommand world.registered (some tenant)
      (pushArgs tenant device (cards.version tenant) (cards.list tenant) draw.gateway) draw.commandId
      draw.outboxId draw.database commands).map Prod.fst

/-- `reconcileMatrix`. -/
def reconcileMatrix (world : World) (tenant device : Uuid) (held : String) (draw : Draw)
    (matrices : MatrixDb) (commands : CommandDb) : Except PgError CommandDb :=
  match reconciliation tenant held matrices with
  | none => .ok commands
  | some overlay => enqueue world tenant overlay (matrixArgs tenant device overlay draw.gateway) draw commands

/-! ## The gateway -/

structure Gateway where
  devices : Table DeviceHealth.id
  cards : CardDb
  matrices : MatrixDb
  commands : CommandDb
  cardHandlers : List CardDelivery.Handler
  matrixHandlers : List MatrixDelivery.Handler

/-- The store a statement leaves, and its error. -/
def settled {α : Type} (before : α) : Except PgError α → α × List PgError
  | .ok after => (after, [])
  | .error err => (before, [err])

/-- What the statements of one resume take from outside. -/
structure ResumeDraw where
  recorded : Timestamp
  policies : Draw
  matrix : Draw

/-- `recordResume`, with the store errors it met. -/
def recordResume (world : World) (tenant device : Uuid) (report : DeviceReport) (draw : ResumeDraw)
    (gateway : Gateway) : Gateway × List PgError :=
  let (devices, errors) :=
    settled gateway.devices (recordDeviceResume tenant device report draw.recorded gateway.devices)
  let (pushed, cardErrors) := settled gateway.commands
    (reconcileCardPolicies world tenant device report.cardPolicyVersion draw.policies gateway.cards gateway.commands)
  let (commands, matrixErrors) := settled pushed
    (reconcileMatrix world tenant device report.matrixVersion draw.matrix gateway.matrices pushed)
  ({ gateway with devices := devices, commands := commands }, errors ++ cardErrors ++ matrixErrors)

inductive Event where
  /-- A device is enrolled. -/
  | enrolled (device : DeviceHealth)
  | cards (event : CardDelivery.Event)
  | matrices (event : MatrixDelivery.Event)
  | resume (tenant device : Uuid) (report : DeviceReport) (draw : ResumeDraw)

def step (world : World) (float : FloatFormat) (gateway : Gateway) : Event → Gateway
  | .enrolled device =>
    if fresh : ∀ other ∈ gateway.devices, other.id ≠ device.id then
      { gateway with devices := gateway.devices.insert device fresh }
    else gateway
  | .cards event =>
    let after := CardDelivery.step world ⟨gateway.cards, gateway.commands, gateway.cardHandlers⟩ event
    { gateway with cards := after.cards, commands := after.commands, cardHandlers := after.handlers }
  | .matrices event =>
    let after := MatrixDelivery.step world float ⟨gateway.matrices, gateway.commands, gateway.matrixHandlers⟩ event
    { gateway with matrices := after.matrices, commands := after.commands, matrixHandlers := after.handlers }
  | .resume tenant device report draw => (recordResume world tenant device report draw gateway).1

def Gateway.start : Gateway := ⟨.empty, CardDb.empty, .empty, CommandDb.empty, [], []⟩

/-- The state after a run. -/
def reached (world : World) (float : FloatFormat) (events : List Event) : Gateway :=
  events.foldl (step world float) Gateway.start

end VodogeCloud.Source.DeviceResume
