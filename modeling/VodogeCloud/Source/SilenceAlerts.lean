import VodogeCloud.Source.DeviceProjection

/-!
# Announcing devices that have gone quiet

`RaiseSilenceAlerts` (apps/gateway/internal/catalog/catalog.go:1401-1480) beside the liveness
that accepted DeviceState records leave (0029_drop_trigger_projection.sql:42-66 and
0066_modem_registry.sql:157-163), over the rows of one tenant as row-level security shows
them. The statement reads one snapshot and its rows are seen once its transaction commits;
nothing else keeps two of them apart. A replayed record touches nothing, and a statement that
fails leaves nothing behind.
-/

set_option autoImplicit false

namespace VodogeCloud.Source.SilenceAlerts

open VodogeCloud.Lib VodogeCloud.Source.Postgres
open VodogeCloud.Source.DeviceProjection VodogeCloud.Source.IngressWindow

/-! ## Tables -/

/-- What the statement reads of a row of app.devices. -/
structure SeenRow where
  id : Uuid
  lastSeenAt : Option Timestamp
  deriving DecidableEq

/-- A row of app.alerts. -/
structure AlertRow where
  deviceId : Uuid
  level : String
  code : String
  message : String
  context : Jsonb
  occurredAt : Timestamp

/-- `last_seen_at` once a DeviceState record is in: the trigger takes the time it was received,
the projection the time it was observed. -/
def seenAt (stored : Option Timestamp) (received observed : Timestamp) : Timestamp :=
  greatest (some (greatest stored received)) observed

/-- The same in the order in which `acceptRecord` takes the two. -/
theorem seenAt_accepted (record : IngressRow) (observed : Timestamp) (payload : Jsonb) (host : Option Host)
    (row : DeviceStateRow) :
    (touchDevice record (observeDevice observed payload host row)).lastSeenAt =
      some (seenAt row.lastSeenAt record.receivedAt observed) := by
  show some (max (max _ observed) record.receivedAt) = some (max (max _ record.receivedAt) observed)
  cases row.lastSeenAt with
  | none =>
    show some (max (max observed observed) record.receivedAt) = some (max (max record.receivedAt record.receivedAt) observed)
    rw [max_self, max_self, max_comm]
  | some stored => exact congrArg some (max_right_comm stored observed record.receivedAt)

/-! ## The statement -/

/-- `int64(quiet.Seconds())` of a positive duration in nanoseconds. -/
def wholeSeconds (quiet : Int) : Int := quiet / 1000000000

def silentAlert (device : Uuid) (lastSeen : Timestamp) (quiet : Int) (now : Timestamp) : AlertRow where
  deviceId := device
  level := "error"
  code := "agent_silent"
  message := "no state report for " ++ toString ((now - lastSeen) / 60000000) ++ " minutes"
  context := .obj [("last_seen_at", .num (lastSeen / 1000)), ("quiet_seconds", .num (wholeSeconds quiet))]
  occurredAt := now

/-- The WHERE clause, and the row it selects. -/
def announce (quiet : Int) (now : Timestamp) (alerts : List AlertRow) (row : SeenRow) : Option AlertRow :=
  match row.lastSeenAt with
  | none => none
  | some lastSeen =>
    if lastSeen < now - 1000000 * wholeSeconds quiet ∧
        ¬ ∃ existing ∈ alerts, existing.deviceId = row.id ∧ existing.code = "agent_silent" ∧ lastSeen < existing.occurredAt then
      some (silentAlert row.id lastSeen quiet now)
    else none

/-- The rows `RaiseSilenceAlerts` inserts. -/
def raiseSilenceAlerts (quiet : Int) (now : Timestamp) (devices : Table SeenRow.id) (alerts : List AlertRow) :
    List AlertRow :=
  if quiet ≤ 0 then [] else devices.rows.filterMap (announce quiet now alerts)

/-! ## Runs -/

structure Watchdog where
  devices : Table SeenRow.id
  alerts : List AlertRow
  /-- What the gateways that have read and not committed will insert. -/
  inFlight : List (Nat × List AlertRow)

def Watchdog.start (devices : Table SeenRow.id) : Watchdog := ⟨devices, [], []⟩

def Watchdog.busy (watchdog : Watchdog) (gateway : Nat) : Bool := watchdog.inFlight.any fun open_ => open_.1 = gateway

inductive Step where
  /-- A DeviceState record is inserted. -/
  | accept (device : Uuid) (received observed : Timestamp)
  /-- A tick of a gateway takes its snapshot; a gateway runs one at a time. -/
  | read (gateway : Nat) (quiet : Int) (now : Timestamp)
  | commit (gateway : Nat)

def sawDevice (device : Uuid) (received observed : Timestamp) (devices : Table SeenRow.id) : Table SeenRow.id :=
  devices.update (fun row => row.id = device)
    (fun row => { row with lastSeenAt := some (seenAt row.lastSeenAt received observed) }) fun _ => rfl

def step (watchdog : Watchdog) : Step → Watchdog
  | .accept device received observed => { watchdog with devices := sawDevice device received observed watchdog.devices }
  | .read gateway quiet now =>
    if watchdog.busy gateway then watchdog
    else
      { watchdog with
        inFlight := (gateway, raiseSilenceAlerts quiet now watchdog.devices watchdog.alerts) :: watchdog.inFlight }
  | .commit gateway =>
    { watchdog with
      alerts := watchdog.alerts ++ (watchdog.inFlight.filter fun open_ => open_.1 = gateway).flatMap Prod.snd
      inFlight := watchdog.inFlight.filter fun open_ => open_.1 ≠ gateway }

def run (watchdog : Watchdog) (steps : List Step) : Watchdog := steps.foldl step watchdog

end VodogeCloud.Source.SilenceAlerts
