import VodogeCloud.Source.MatrixDelivery

/-!
# The request that puts a matrix

`putMatrix` (apps/gateway/cmd/gateway/main.go:1588-1649) from the request to its
answer. Each of its statements is a transaction of its own, `Put` first and then one
`Enqueue` for each device of the catalogue, and any call can also fail before it
reaches the database.
-/

set_option autoImplicit false

namespace VodogeCloud.Source.MatrixRequest

open VodogeCloud.Lib VodogeCloud.Source.Postgres VodogeCloud.Source.CommandTables
open VodogeCloud.Source.CommandLifecycle VodogeCloud.Source.GoJson VodogeCloud.Source.CapabilityMatrix
open VodogeCloud.Source.MatrixDelivery
open VodogeCloud.Source.CardDelivery (World Draw)

structure Request where
  /-- `tenantFromRequest`; without a tenant it has answered. -/
  tenant : Option Uuid
  /-- The body, where it is JSON. -/
  body : Option Json

/-- The `matrix` of the body, where it has one. -/
def Request.matrix (request : Request) : Option Json := do
  let fields ← structFields (← request.body)
  (fieldValues "matrix" fields).getLast?

/-- A device of the catalogue, and the call of `Enqueue` for it. -/
structure Call where
  device : Uuid
  reaches : Bool
  draw : Draw

/-- What the statements meet outside the tables. -/
structure Calls where
  /-- `Put` reaches the database. -/
  put : Bool
  /-- `time.Now()` at the loop. -/
  gateway : Timestamp
  /-- `ListDevices`, where it is answered. -/
  devices : Option (List Call)

structure Stores where
  matrices : MatrixDb
  commands : CommandDb

inductive Answer where
  /-- Written by `tenantFromRequest`. -/
  | refused
  /-- 400: invalid matrix, or what `Parse` says. -/
  | badRequest
  /-- 500: matrix, catalog or command queue unavailable. -/
  | unavailable
  /-- 200 with the number queued. -/
  | stored (queued : Nat)
  deriving DecidableEq, Repr

def Answer.isError : Answer → Bool
  | .stored _ => false
  | _ => true

/-- `Enqueue` for one device. -/
def enqueueCall (world : World) (tenant : Uuid) (overlay : Overlay) (expires : Timestamp) (call : Call)
    (commands : CommandDb) : Option CommandDb :=
  if call.reaches then
    (enqueue world tenant overlay (putArgs tenant call.device overlay expires) call.draw commands).toOption
  else none

/-- The loop: the tables, how many were queued, and whether it came to its end. -/
def enqueueAll (world : World) (tenant : Uuid) (overlay : Overlay) (expires : Timestamp) :
    List Call → Nat → CommandDb → CommandDb × Nat × Bool
  | [], queued, commands => (commands, queued, true)
  | call :: rest, queued, commands =>
    match enqueueCall world tenant overlay expires call commands with
    | some after => enqueueAll world tenant overlay expires rest (queued + 1) after
    | none => (commands, queued, false)

/-- `matrix.Put`. -/
def putCall (calls : Calls) (tenant : Uuid) (overlay : Overlay) (matrices : MatrixDb) : Option MatrixDb :=
  if calls.put then (CapabilityMatrix.put tenant overlay matrices).toOption else none

/-- From `Put` on. `CommandPayload` marshals what `Canonical` wrote, which succeeds. -/
def putOverlay (world : World) (calls : Calls) (tenant : Uuid) (overlay : Overlay) (stores : Stores) :
    Stores × Answer :=
  match putCall calls tenant overlay stores.matrices with
  | none => (stores, .unavailable)
  | some matrices =>
    match calls.devices with
    | none => ({ stores with matrices := matrices }, .unavailable)
    | some devices =>
      match enqueueAll world tenant overlay (calls.gateway + putTTL) devices 0 stores.commands with
      | (commands, queued, true) => (⟨matrices, commands⟩, .stored queued)
      | (commands, _, false) => (⟨matrices, commands⟩, .unavailable)

def putMatrix (world : World) (float : FloatFormat) (calls : Calls) (request : Request) (stores : Stores) :
    Stores × Answer :=
  match request.tenant with
  | none => (stores, .refused)
  | some tenant =>
    match request.matrix with
    | none => (stores, .badRequest)
    | some raw =>
      match parse float raw with
      | .error _ => (stores, .badRequest)
      | .ok overlay => putOverlay world calls tenant overlay stores

end VodogeCloud.Source.MatrixRequest
