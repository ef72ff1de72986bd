import VodogeCloud.Source.CapabilityMatrix
import VodogeCloud.Source.CardDelivery

/-!
# Capability matrices on their way to a device

`publishLedger` (apps/gateway/cmd/gateway/ledger_routes.go:111-200), `putMatrix`
(apps/gateway/cmd/gateway/main.go:1588-1649) and `reconcileMatrix` (main.go:2139-2174).

A handler is a value that says which statement comes next, as with card policies. The
ledger and the device catalogue are read before anything is written, so what they gave
is an argument of a publish.
-/

set_option autoImplicit false

namespace VodogeCloud.Source.MatrixDelivery

open VodogeCloud.Lib VodogeCloud.Source.Postgres VodogeCloud.Source.CommandTables
open VodogeCloud.Source.CommandLifecycle VodogeCloud.Source.GoJson VodogeCloud.Source.JsonText
open VodogeCloud.Source.CapabilityMatrix
open VodogeCloud.Source.CardDelivery (World Draw)

/-- `MatrixTTL`, two hours. -/
def matrixTTL : Int := 7200000000

/-- The day a matrix put by hand has. -/
def putTTL : Int := 86400000000

/-! ## The commands -/

/-- The command of `publishLedger` and of `reconcileMatrix`. -/
def matrixArgs (tenant device : Uuid) (overlay : Overlay) (gateway : Timestamp) (payload : Jsonb) :
    EnqueueArgs :=
  ⟨tenant, device, .updateCapabilityMatrix, payload,
    matrixKey (uuidOut device) overlay.version (payloadText overlay), gateway + matrixTTL⟩

/-- The command of `putMatrix`. -/
def putArgs (tenant device : Uuid) (overlay : Overlay) (expires : Timestamp) (payload : Jsonb) :
    EnqueueArgs :=
  ⟨tenant, device, .updateCapabilityMatrix, payload,
    "matrix:" ++ overlay.version ++ ":" ++ uuidOut device, expires⟩

/-- `Enqueue` in a transaction of the tenant; the statement casts the payload. -/
def enqueue (world : World) (tenant : Uuid) (overlay : Overlay) (args : Jsonb → EnqueueArgs) (draw : Draw)
    (commands : CommandDb) : Except PgError CommandDb := do
  let payload ← commandPayload overlay
  let (after, _) ← enqueueCommand world.registered (some tenant) (args payload) draw.commandId draw.outboxId
    draw.database commands
  return after

/-! ## Handlers -/

/-- A handler between two of its statements. -/
inductive Handler where
  /-- `publishLedger` after `Put`; `ListDevices` comes next. -/
  | published (tenant : Uuid) (overlay : Overlay)
  /-- `publishLedger` before `Enqueue` for the first of the devices. -/
  | publishing (tenant : Uuid) (overlay : Overlay) (devices : List Uuid)
  /-- `putMatrix` after `Put`; `ListDevices` comes next. -/
  | stored (tenant : Uuid) (overlay : Overlay)
  /-- `putMatrix` before `Enqueue` for the first of the devices. -/
  | putting (tenant : Uuid) (overlay : Overlay) (expires : Timestamp) (devices : List Uuid)
  /-- `reconcileMatrix` before `Enqueue`. -/
  | resuming (tenant device : Uuid) (overlay : Overlay)

structure Delivery where
  matrices : MatrixDb
  commands : CommandDb
  handlers : List Handler

def Delivery.start : Delivery := ⟨.empty, CommandDb.empty, []⟩

/-- The next statement of a handler: the command tables after it, and what is left of
the handler. A publish goes on past an error, and a put stops there. -/
def advance (world : World) (draw : Draw) (commands : CommandDb) : Handler → CommandDb × Option Handler
  | .published tenant overlay => (commands, some (.publishing tenant overlay draw.devices))
  | .publishing _ _ [] => (commands, none)
  | .publishing tenant overlay (device :: rest) =>
    match enqueue world tenant overlay (matrixArgs tenant device overlay draw.gateway) draw commands with
    | .ok after => (after, some (.publishing tenant overlay rest))
    | .error _ => (commands, some (.publishing tenant overlay rest))
  | .stored tenant overlay => (commands, some (.putting tenant overlay (draw.gateway + putTTL) draw.devices))
  | .putting _ _ _ [] => (commands, none)
  | .putting tenant overlay expires (device :: rest) =>
    match enqueue world tenant overlay (putArgs tenant device overlay expires) draw commands with
    | .ok after => (after, some (.putting tenant overlay expires rest))
    | .error _ => (commands, none)
  | .resuming tenant device overlay =>
    match enqueue world tenant overlay (matrixArgs tenant device overlay draw.gateway) draw commands with
    | .ok after => (after, none)
    | .error _ => (commands, none)

inductive Event where
  /-- `publishLedger` up to the commit of `Put`. -/
  | publish (tenant : Uuid) (version : String) (entries : List Entry) (supported : List SupportedDevice)
  /-- `putMatrix` up to the commit of `Put`. -/
  | put (tenant : Uuid) (matrix : Json)
  /-- `reconcileMatrix` up to `Get`. -/
  | resume (tenant device : Uuid) (held : String)
  /-- The next statement of the handler at the index. -/
  | advance (index : Nat) (draw : Draw)
  /-- The handler at the index gives up. -/
  | drop (index : Nat)
  /-- A write of the command lifecycle, or a command of another kind. -/
  | lifecycle (op : CommandOp)

/-- An enqueue of a matrix; only the handlers above make one. -/
def ordersMatrix : CommandOp → Bool
  | .enqueueCommand _ _ args _ _ _ => args.kind = .updateCapabilityMatrix
  | _ => false

/-- `Parse` and `Put`, and the handler that goes on from there. -/
def store (float : FloatFormat) (tenant : Uuid) (raw : Json) (next : Overlay → Handler) (state : Delivery) :
    Delivery :=
  match parse float raw with
  | .error _ => state
  | .ok overlay =>
    match CapabilityMatrix.put tenant overlay state.matrices with
    | .ok matrices => { state with matrices := matrices, handlers := state.handlers ++ [next overlay] }
    | .error _ => state

/-- `Get` and the decision of `reconcileMatrix`. -/
def reconciliation (tenant : Uuid) (held : String) (matrices : MatrixDb) : Option Overlay := do
  let overlay ← CapabilityMatrix.get tenant matrices
  if overlay.version = "" ∨ held = overlay.version then none else return overlay

def step (world : World) (float : FloatFormat) (state : Delivery) : Event → Delivery
  | .publish tenant version entries supported =>
    if entries.isEmpty then state
    else store float tenant (document version entries supported) (.published tenant) state
  | .put tenant matrix => store float tenant matrix (.stored tenant) state
  | .resume tenant device held =>
    match reconciliation tenant held state.matrices with
    | some overlay => { state with handlers := state.handlers ++ [.resuming tenant device overlay] }
    | none => state
  | .advance index draw =>
    match state.handlers[index]? with
    | none => state
    | some handler =>
      let (commands, left) := advance world draw state.commands handler
      { state with
        commands := commands
        handlers := state.handlers.take index ++ left.toList ++ state.handlers.drop (index + 1) }
  | .drop index =>
    { state with handlers := state.handlers.take index ++ state.handlers.drop (index + 1) }
  | .lifecycle op =>
    if ordersMatrix op then state
    else
      match op.apply world.calendar state.commands with
      | .ok commands => { state with commands := commands }
      | .error _ => state

end VodogeCloud.Source.MatrixDelivery
