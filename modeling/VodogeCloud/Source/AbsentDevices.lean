import VodogeCloud.Source.SessionHub

/-!
# Devices that stay away

`absentDevices` (apps/gateway/cmd/gateway/main.go:825-898) over the hub of
apps/gateway/internal/session/hub.go. `Report` holds the map's lock and asks the hub once for
each device in it, while sessions bind and end; it is modelled as one turn a device, with any
calls of the hub between the turns. A gateway without a notifier is left out.
-/

set_option autoImplicit false

namespace VodogeCloud.Source.AbsentDevices

open VodogeCloud.Source.Postgres VodogeCloud.Source.ServeDevice

/-- `offlineGrace`: ninety seconds. -/
def offlineGrace : Int := 90000000

structure Absence where
  tenantId : Uuid
  since : Timestamp
  told : Bool
  deriving DecidableEq

/-- The map of `absentDevices`, by the device id of the certificate. -/
abbrev Away := String → Option Absence

/-- `newAbsentDevices`. -/
def newAbsentDevices : Away := fun _ => none

/-- `Left`: repeats keep the first time. -/
def left (device : Device) (now : Timestamp) (away : Away) : Away :=
  if (away device.commonName).isSome then away
  else Function.update away device.commonName (some ⟨device.tenantId, now, false⟩)

/-! ## Report -/

/-- `Round(time.Second)`: halves go away from zero. -/
def roundedSeconds (elapsed : Int) : Int :=
  if elapsed < 0 then -((-elapsed + 500000) / 1000000) else (elapsed + 500000) / 1000000

/-- `Duration.String` of whole seconds. -/
def durationText (seconds : Int) : String :=
  let total := seconds.natAbs
  let minutes := toString (total / 60 % 60) ++ "m" ++ toString (total % 60) ++ "s"
  (if seconds < 0 then "-" else "") ++
    (if total < 60 then toString total ++ "s"
    else if total < 3600 then minutes
    else toString (total / 3600) ++ "h" ++ minutes)

/-- The `device.offline` event. -/
structure Notice where
  tenantId : Uuid
  title : String
  body : String
  raisedAt : Timestamp
  deriving DecidableEq

def offlineNotice (device : String) (absence : Absence) (now : Timestamp) : Notice where
  tenantId := absence.tenantId
  title := "设备离线"
  body := "设备 " ++ device ++ " 已经 " ++ durationText (roundedSeconds (now - absence.since)) ++
    " 没有连上来。在控制台的设备页查看。"
  raisedAt := now

/-- The gateway's hub and the map beside it. -/
structure Watch where
  hub : Hub
  away : Away

def Watch.start : Watch := ⟨Hub.new, newAbsentDevices⟩

/-- The turn of `Report` for one device. -/
def turn (device : String) (now : Timestamp) (watch : Watch) : Watch × Option Notice :=
  match watch.away device with
  | none => (watch, none)
  | some absence =>
    if (watch.hub.lookup device).isSome then
      ({ watch with away := Function.update watch.away device none }, none)
    else if absence.told || now - absence.since < offlineGrace then (watch, none)
    else
      ({ watch with away := Function.update watch.away device (some { absence with told := true }) },
        some (offlineNotice device absence now))

/-! ## Runs -/

/-- A call of the hub, the end of a session or a turn of `Report`. -/
inductive Step where
  | hub (call : HubOp)
  | left (device : Device) (now : Timestamp)
  | turn (device : String) (now : Timestamp)

def step (watch : Watch) : Step → Watch × Option Notice
  | .hub call => ({ watch with hub := call.apply watch.hub }, none)
  | .left device now => ({ watch with away := left device now watch.away }, none)
  | .turn device now => turn device now watch

def run (watch : Watch) (steps : List Step) : Watch := steps.foldl (fun watch next => (step watch next).1) watch

/-- What a step raises for a device. -/
def raisedFor (device : String) (watch : Watch) : Step → Option Notice
  | .turn other now => if other = device then (turn other now watch).2 else none
  | _ => none

/-- What a run raises for a device, in order. -/
def announcements (device : String) (watch : Watch) : List Step → List Notice
  | [] => []
  | next :: rest => (raisedFor device watch next).toList ++ announcements device (step watch next).1 rest

end VodogeCloud.Source.AbsentDevices
