import VodogeCloud.Source.ServeDevice

/-!
# The hub and the sessions that share it

`Hub.Lookup` and `Hub.SweepIdle` (apps/gateway/internal/session/hub.go:89-134) beside
the operations `ServeDevice` uses, and `ServeDevice`
(apps/gateway/internal/wss/serve.go:196-330) cut wherever another goroutine can come
in between: the hub is locked for one call at a time, and a frame is read, touched
and served in three steps.

Whoever replaces or sweeps a connection closes its socket after the hub has let go
of it. A read may fail at any moment here, so closing a socket adds no run.
-/

set_option autoImplicit false

namespace VodogeCloud.Source.ServeDevice

open VodogeCloud.Source.Postgres

/-- `IdleTimeout`: ninety seconds. -/
def idleTimeout : Int := 90000000

/-- Silent for `IdleTimeout` or longer. -/
def Connection.idle (connection : Connection) (now : Timestamp) : Bool :=
  idleTimeout ≤ now - connection.lastPacketAt

/-- `Lookup`. -/
def Hub.lookup (hub : Hub) (device : String) : Option Connection := hub.byDevice device

/-- One turn of the loop of `SweepIdle`. -/
def Hub.sweepDevice (now : Timestamp) (hub : Hub) (device : String) : Hub :=
  match hub.byDevice device with
  | none => hub
  | some connection =>
    if connection.idle now then
      ⟨Function.update hub.byDevice device none, Function.update hub.byID connection.id none⟩
    else hub

/-- `SweepIdle`. A map is walked in no particular order: `order` lists its keys. -/
def Hub.sweepIdle (hub : Hub) (order : List String) (now : Timestamp) : Hub :=
  order.foldl (Hub.sweepDevice now) hub

/-- A call that writes the hub. -/
inductive HubOp where
  | bind (connection : Connection)
  | touch (connectionId : String) (now : Timestamp)
  | unbind (connectionId : String)
  | sweepIdle (order : List String) (now : Timestamp)

def HubOp.apply (hub : Hub) : HubOp → Hub
  | .bind connection => hub.bind connection
  | .touch connectionId now => (hub.touch connectionId now).getD hub
  | .unbind connectionId => hub.unbind connectionId
  | .sweepIdle order now => hub.sweepIdle order now

end VodogeCloud.Source.ServeDevice

namespace VodogeCloud.Source.SessionHub

open VodogeCloud.Source.Postgres VodogeCloud.Source.PendingCommands VodogeCloud.Source.ServeDevice

variable {σ : Type}

/-- The loop body after `Touch`. -/
def serveTouched (env : Environment σ) (session : Session) (envelope : Envelope)
    (gateway : Gateway σ) : Turn σ :=
  let pending := duePending env session gateway.cloud.commands
  let gateway := gateway.withCommands pending.1
  let session := checkedPending env session
  match deliverAll env pending.2 with
  | (sent, false) => stop session gateway sent .closed
  | (sent, true) => (serveKind env session envelope gateway).after sent

/-- The loop body is the check of the device id, `Touch` and the rest. -/
theorem serveEnvelope_eq (env : Environment σ) (session : Session) (envelope : Envelope)
    (gateway : Gateway σ) :
    serveEnvelope env session envelope gateway =
      if session.device.matchesEnvelope envelope.deviceId = false then
        stop session gateway [] (.protocol "envelope device_id does not match certificate")
      else
        match gateway.hub.touch session.connectionId env.now with
        | none => stop session gateway [] (.protocol "connection superseded")
        | some hub => serveTouched env session envelope { gateway with hub := hub } := rfl

/-! ## Sessions -/

/-- Where a session stands. `bound` is how many sessions had bound when the frame
was read. -/
inductive Phase where
  /-- `Bind` has returned. -/
  | resuming
  | reading
  /-- `Touch` is next. -/
  | read (envelope : Envelope) (bound : Nat)
  /-- The rest of the loop body is next. -/
  | touched (envelope : Envelope) (bound : Nat)
  /-- `ServeDevice` returns; the deferred `Unbind` is next. -/
  | returning
  | ended

def Phase.live : Phase → Bool
  | .ended => false
  | _ => true

structure Running where
  session : Session
  phase : Phase

/-- A frame that was handed to the rest of the loop body, and the session it went
through. Only there is a record accepted, or a receipt or a result recorded. -/
structure Served where
  session : Nat
  envelope : Envelope
  bound : Nat

/-- The sessions, in the order of their `Bind`, over one hub and one database. -/
structure Sessions (σ : Type) where
  hub : Hub
  cloud : Cloud σ
  running : List Running
  served : List Served

/-- A gateway that nobody has connected to. -/
def Sessions.start (cloud : Cloud σ) : Sessions σ := ⟨Hub.new, cloud, [], []⟩

def Sessions.advance (state : Sessions σ) (index : Nat) (session : Session) (phase : Phase) :
    Sessions σ :=
  { state with running := state.running.set index ⟨session, phase⟩ }

/-- `Bind`, of a session whose Resume has named a connection id. -/
def bindStep (connection : Connection) (state : Sessions σ) : Sessions σ :=
  if connection.id = "" then state
  else
    let session : Session := ⟨connection.device, connection.id, connection.lastPacketAt⟩
    { state with
      hub := state.hub.bind connection
      running := state.running ++ [⟨session, .resuming⟩] }

/-- `deliverPending` of the Resume. -/
def resumeStep (index : Nat) (env : Environment σ) (state : Sessions σ) : Sessions σ :=
  match state.running[index]? with
  | some ⟨session, .resuming⟩ =>
    let pending := pendingForDevice env.toSurroundings session.device.tenantId
      session.device.deviceId env.now state.cloud.commands
    let state := { state with cloud := { state.cloud with commands := pending.1 } }
    state.advance index session (if (deliverAll env pending.2).2 then .reading else .returning)
  | _ => state

/-- `readEnvelope` and `MatchesEnvelope`. -/
def readStep (index : Nat) (frame : Frame) (state : Sessions σ) : Sessions σ :=
  match state.running[index]? with
  | some ⟨session, .reading⟩ =>
    state.advance index session
      (match readEnvelope frame with
      | .error _ => .returning
      | .ok envelope =>
        if session.device.matchesEnvelope envelope.deviceId then
          .read envelope state.running.length
        else .returning)
  | _ => state

/-- `Touch`. -/
def touchStep (index : Nat) (now : Timestamp) (state : Sessions σ) : Sessions σ :=
  match state.running[index]? with
  | some ⟨session, .read envelope bound⟩ =>
    match state.hub.touch session.connectionId now with
    | none => state.advance index session .returning
    | some hub => { state with hub := hub }.advance index session (.touched envelope bound)
  | _ => state

/-- The rest of the loop body; its own `Unbind` is a step by itself. -/
def serveStep (index : Nat) (env : Environment σ) (state : Sessions σ) : Sessions σ :=
  match state.running[index]? with
  | some ⟨session, .touched envelope bound⟩ =>
    let turn := serveTouched env session envelope ⟨state.hub, state.cloud⟩
    let state := { state with
      cloud := turn.gateway.cloud
      served := ⟨index, envelope, bound⟩ :: state.served }
    match turn.next with
    | .ok next => state.advance index next .reading
    | .error _ => state.advance index session .returning
  | _ => state

/-- A read or the `Snapshot` of the Resume fails. -/
def loseStep (index : Nat) (state : Sessions σ) : Sessions σ :=
  match state.running[index]? with
  | some ⟨session, .resuming⟩ => state.advance index session .returning
  | some ⟨session, .reading⟩ => state.advance index session .returning
  | _ => state

/-- The deferred `Unbind`. -/
def unbindStep (index : Nat) (state : Sessions σ) : Sessions σ :=
  match state.running[index]? with
  | some ⟨session, .returning⟩ =>
    { state with hub := state.hub.unbind session.connectionId }.advance index session .ended
  | _ => state

inductive Event (σ : Type) where
  | bind (connection : Connection)
  | resume (index : Nat) (env : Environment σ)
  | read (index : Nat) (frame : Frame)
  | touch (index : Nat) (now : Timestamp)
  | serve (index : Nat) (env : Environment σ)
  | lose (index : Nat)
  | unbind (index : Nat)
  | sweep (order : List String) (now : Timestamp)
  /-- Another writer of the database. -/
  | elsewhere (cloud : Cloud σ)

def step (state : Sessions σ) : Event σ → Sessions σ
  | .bind connection => bindStep connection state
  | .resume index env => resumeStep index env state
  | .read index frame => readStep index frame state
  | .touch index now => touchStep index now state
  | .serve index env => serveStep index env state
  | .lose index => loseStep index state
  | .unbind index => unbindStep index state
  | .sweep order now => { state with hub := state.hub.sweepIdle order now }
  | .elsewhere cloud => { state with cloud := cloud }

/-- The device whose session takes the step. -/
def Event.by_ (state : Sessions σ) : Event σ → Option String
  | .bind connection => some connection.device.commonName
  | .resume index _ | .read index _ | .touch index _ | .serve index _ | .lose index
  | .unbind index => (state.running[index]?).map fun running => running.session.device.commonName
  | .sweep _ _ => none
  | .elsewhere _ => none

end VodogeCloud.Source.SessionHub
