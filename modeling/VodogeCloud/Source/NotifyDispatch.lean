import VodogeCloud.Source.Postgres

/-!
# The notification dispatcher

`New`, `Notify`, `Close`, `run`, `fanOut` and `runLane`
(apps/gateway/internal/notify/dispatch.go:125-350) with `section` (notify.go:180-186), as
goroutines that take turns: any number of calls of `Notify`, the one that reads the intake
queue, and one for each lane. A `select` is one step. What the settings answer, and what an
attempt at a channel comes to, its retries included, are answers of the step; that `Close`
waits and cancels what is left shows in these answers alone. `onResult` stands for the
hook and for the counter of deliveries beside it.

A call of `Notify` is known by its number, which its event carries along.
-/

set_option autoImplicit false

namespace VodogeCloud.Source.NotifyDispatch

open VodogeCloud.Source.Postgres (Jsonb)

structure Event where
  kind : String
  tenantId : String
  title : String
  body : String
  deriving DecidableEq

abbrev Settings := List (String × Jsonb)

/-- `Channel`. A name is a key of the settings and holds no NUL. -/
structure Channel where
  name : String
  configured : Settings → Bool
  plain : '\x00' ∉ name.toList

/-- `section`. -/
def sectionOf (settings : Settings) (name : String) : Settings :=
  match settings.lookup name with
  | some (.obj nested) => nested
  | _ => []

structure Options where
  depth : Int
  laneDepth : Int
  maxLanes : Int

def orDefault (given : Int) (default : Nat) : Nat := if given ≤ 0 then default else given.toNat

structure Dispatcher where
  channels : List Channel
  depth : Nat
  laneDepth : Nat
  maxLanes : Nat

/-- `New`. -/
def Dispatcher.new (channels : List Channel) (options : Options) : Dispatcher where
  channels := channels
  depth := orDefault options.depth 256
  laneDepth := orDefault options.laneDepth 64
  maxLanes := orDefault options.maxLanes 64

/-! ## Goroutines -/

/-- A call of `Notify` is before its first `select`, between the two, or back. -/
inductive Stage
  | entered
  | passed
  | returned
  deriving DecidableEq

structure Call where
  event : Event
  stage : Stage

structure Job where
  call : Nat
  event : Event
  config : Settings

/-- A lane and its goroutine, with the job it is at. -/
structure Lane where
  key : String
  channel : Channel
  queue : List Job
  busy : Option Job

/-- The goroutine of `run`: at a `select`, of its outer loop or of the one that drains; in
`fanOut` before the settings are read, and before the channels that are left. -/
inductive Intake
  | selecting (draining : Bool)
  | reading (draining : Bool) (call : Nat) (event : Event)
  | offering (draining : Bool) (call : Nat) (event : Event) (settings : Settings) (rest : List Channel)
  | exited

structure State where
  calls : List Call
  queue : List (Nat × Event)
  stopping : Bool
  intake : Intake
  lanes : List Lane

def State.initial : State := ⟨[], [], false, .selecting false, []⟩

inductive DropReason
  | queueFull
  | laneFull
  | laneLimit
  | noSettings
  deriving DecidableEq

/-- What a run is judged by: how calls return, what is read for an event, and the calls of
`dropped` and `onResult`. -/
inductive Observation
  /-- The call found the dispatcher stopping. -/
  | silent (call : Nat)
  | queued (call : Nat) (event : Event)
  /-- Queued behind the goroutine of `run`, which has returned. -/
  | late (call : Nat) (event : Event)
  | fannedOut (call : Nat) (settings : Settings)
  | dropped (reason : DropReason) (channel : String) (call : Nat)
  | onResult (channel : String) (call : Nat) (event : Event) (delivered : Bool)

inductive Step
  | notify (event : Event)
  | check (call : Nat)
  | send (call : Nat)
  | close
  | receive
  | drain
  | exit
  | settings (answer : Option Settings)
  | offer
  | take (lane : Nat)
  | result (lane : Nat) (delivered : Bool)

def laneKey (tenantId name : String) : String := tenantId ++ "\x00" ++ name

/-- A job is sent to a lane, or dropped when the lane is behind. -/
def sendJob (dispatcher : Dispatcher) (lanes : List Lane) (index : Nat) (channel : Channel) (job : Job) :
    List Lane × Option Observation :=
  match lanes[index]? with
  | none => (lanes, none)
  | some open_ =>
    if open_.queue.length < dispatcher.laneDepth then
      (lanes.set index { open_ with queue := open_.queue ++ [job] }, none)
    else (lanes, some (.dropped .laneFull channel.name job.call))

/-- One turn of the loop of `fanOut`. -/
def offer (dispatcher : Dispatcher) (lanes : List Lane) (channel : Channel) (settings : Settings) (call : Nat)
    (event : Event) : List Lane × Option Observation :=
  let config := sectionOf settings channel.name
  if channel.configured config = false then (lanes, none)
  else
    let key := laneKey event.tenantId channel.name
    match lanes.findIdx? fun lane => lane.key = key with
    | some index => sendJob dispatcher lanes index channel ⟨call, event, config⟩
    | none =>
      if dispatcher.maxLanes ≤ lanes.length then (lanes, some (.dropped .laneLimit channel.name call))
      else
        sendJob dispatcher (lanes ++ [⟨key, channel, [], none⟩]) lanes.length channel ⟨call, event, config⟩

def State.step (dispatcher : Dispatcher) (state : State) : Step → Option (State × Option Observation)
  | .notify event => some ({ state with calls := state.calls ++ [⟨event, .entered⟩] }, none)
  | .check call =>
    match state.calls[call]? with
    | some ⟨event, .entered⟩ =>
      if state.stopping then
        some ({ state with calls := state.calls.set call ⟨event, .returned⟩ }, some (.silent call))
      else some ({ state with calls := state.calls.set call ⟨event, .passed⟩ }, none)
    | _ => none
  | .send call =>
    match state.calls[call]? with
    | some ⟨event, .passed⟩ =>
      let returned := { state with calls := state.calls.set call ⟨event, .returned⟩ }
      if state.queue.length < dispatcher.depth then
        some ({ returned with queue := state.queue ++ [(call, event)] },
          some (match state.intake with
            | .exited => .late call event
            | _ => .queued call event))
      else some (returned, some (.dropped .queueFull "" call))
    | _ => none
  | .close => some ({ state with stopping := true }, none)
  | .receive =>
    match state.intake, state.queue with
    | .selecting draining, (call, event) :: rest =>
      some ({ state with intake := .reading draining call event, queue := rest }, none)
    | _, _ => none
  | .drain =>
    match state.intake, state.stopping with
    | .selecting false, true => some ({ state with intake := .selecting true }, none)
    | _, _ => none
  | .exit =>
    match state.intake, state.queue with
    | .selecting true, [] => some ({ state with intake := .exited }, none)
    | _, _ => none
  | .settings answer =>
    match state.intake, answer with
    | .reading draining call _, none =>
      some ({ state with intake := .selecting draining }, some (.dropped .noSettings "" call))
    | .reading draining call event, some settings =>
      some ({ state with intake := .offering draining call event settings dispatcher.channels },
        some (.fannedOut call settings))
    | _, _ => none
  | .offer =>
    match state.intake with
    | .offering draining _ _ _ [] => some ({ state with intake := .selecting draining }, none)
    | .offering draining call event settings (channel :: rest) =>
      let (lanes, observation) := NotifyDispatch.offer dispatcher state.lanes channel settings call event
      some ({ state with intake := .offering draining call event settings rest, lanes }, observation)
    | _ => none
  | .take index =>
    match state.lanes[index]? with
    | some lane =>
      match lane.busy, lane.queue with
      | none, job :: rest =>
        some ({ state with lanes := state.lanes.set index { lane with busy := some job, queue := rest } }, none)
      | _, _ => none
    | none => none
  | .result index delivered =>
    match state.lanes[index]? with
    | some lane =>
      match lane.busy with
      | some job =>
        some ({ state with lanes := state.lanes.set index { lane with busy := none } },
          some (.onResult lane.channel.name job.call job.event delivered))
      | none => none
    | none => none

/-- The steps taken one after the other, and all that is observed. -/
def State.run (dispatcher : Dispatcher) (state : State) : List Step → Option (State × List Observation)
  | [] => some (state, [])
  | step :: steps =>
    match state.step dispatcher step with
    | none => none
    | some (next, observation) =>
      match next.run dispatcher steps with
      | none => none
      | some (last, observations) => some (last, observation.toList ++ observations)

end VodogeCloud.Source.NotifyDispatch
