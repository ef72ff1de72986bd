import VodogeCloud.Lib.CivilTime
import VodogeCloud.Source.MatrixRequest
import VodogeCloud.Source.Schedule

/-!
# The request that publishes a ledger

`publishLedger` (apps/gateway/cmd/gateway/ledger_routes.go:111-200) from the request to its
answer, over the rows of `app.support_ledger` (0046_support_ledger.sql). Each of its
statements is a transaction of its own, and any call can also fail before it reaches the
database. An `Enqueue` that fails is passed over.
-/

set_option autoImplicit false

namespace VodogeCloud.Source.LedgerPublish

open VodogeCloud.Lib VodogeCloud.Lib.CivilTime VodogeCloud.Source.Postgres VodogeCloud.Source.CommandTables
open VodogeCloud.Source.CommandLifecycle VodogeCloud.Source.GoJson VodogeCloud.Source.JsonText
open VodogeCloud.Source.CapabilityMatrix VodogeCloud.Source.MatrixDelivery
open VodogeCloud.Source.CardDelivery (World)
open VodogeCloud.Source.MatrixRequest (Call Stores)
open VodogeCloud.Source.Schedule (GoTime second)

/-! ## The ledger -/

/-- A row of `app.support_ledger`, without the evidence, which no document shows. -/
structure LedgerRow where
  tenantId : Uuid
  entry : Entry
  deriving DecidableEq, Repr

def LedgerRow.pairing (row : LedgerRow) : Uuid × String × String :=
  (row.tenantId, row.entry.modemFamily, row.entry.carrier)

abbrev LedgerDb := Table LedgerRow.pairing

/-- The rows `List` reads; the collation of the database orders them. -/
def LedgerDb.entries (tenant : Uuid) (ledger : LedgerDb) : List Entry :=
  (ledger.rows.filter fun row => row.tenantId = tenant).map LedgerRow.entry

/-! ## The request -/

/-- What the statements meet outside the tables of matrices and commands. -/
structure Calls where
  /-- `List`, where it is answered. -/
  entries : Option (List Entry)
  /-- `time.Now()` at the version. -/
  clock : GoTime
  /-- `readCatalogue`, where it is answered. -/
  supported : Option (List SupportedDevice)
  /-- `Put` reaches the database. -/
  put : Bool
  /-- `ListDevices`, where it is answered. -/
  devices : Option (List Call)

inductive Answer where
  /-- Written by `tenantFromRequest`. -/
  | refused
  | failed (status : Nat) (message : String)
  | published (version : String) (rules devices : Nat)
  deriving DecidableEq, Repr

/-- `time.Now().UTC().Format("2006-01-02T15:04:05Z")`. -/
def version (clock : GoTime) : String := String.ofList (utcText (clock / second))

/-- `Enqueue` for one device. -/
def sendCall (world : World) (tenant : Uuid) (overlay : Overlay) (call : Call) (commands : CommandDb) :
    Option CommandDb :=
  if call.reaches then
    (enqueue world tenant overlay (matrixArgs tenant call.device overlay call.draw.gateway) call.draw
      commands).toOption
  else none

/-- The loop: the tables, and how many were sent. -/
def sendAll (world : World) (tenant : Uuid) (overlay : Overlay) :
    List Call → Nat → CommandDb → CommandDb × Nat
  | [], sent, commands => (commands, sent)
  | call :: rest, sent, commands =>
    match sendCall world tenant overlay call commands with
    | some after => sendAll world tenant overlay rest (sent + 1) after
    | none => sendAll world tenant overlay rest sent commands

/-- `matrix.Put`. -/
def putCall (calls : Calls) (tenant : Uuid) (overlay : Overlay) (matrices : MatrixDb) : Option MatrixDb :=
  if calls.put then (CapabilityMatrix.put tenant overlay matrices).toOption else none

/-- From `Put` on. `CommandPayload` marshals what `Canonical` wrote, which succeeds. -/
def publishOverlay (world : World) (calls : Calls) (tenant : Uuid) (overlay : Overlay) (rules : Nat)
    (stores : Stores) : Stores × Answer :=
  match putCall calls tenant overlay stores.matrices with
  | none => (stores, .failed 500 "matrix could not be stored")
  | some matrices =>
    match calls.devices with
    | none => ({ stores with matrices := matrices }, .failed 500 "devices unavailable")
    | some devices =>
      let (commands, sent) := sendAll world tenant overlay devices 0 stores.commands
      (⟨matrices, commands⟩, .published (version calls.clock) rules sent)

def publishLedger (world : World) (float : FloatFormat) (calls : Calls) (tenant : Option Uuid)
    (stores : Stores) : Stores × Answer :=
  match tenant with
  | none => (stores, .refused)
  | some tenant =>
    match calls.entries with
    | none => (stores, .failed 500 "ledger unavailable")
    | some [] => (stores, .failed 400 "the ledger is empty; nothing would be supported")
    | some (entry :: rest) =>
      match calls.supported with
      | none => (stores, .failed 500 "supported device list unavailable")
      | some supported =>
        match parse float (document (version calls.clock) (entry :: rest) supported) with
        | .error _ => (stores, .failed 500 "matrix could not be rendered")
        | .ok overlay => publishOverlay world calls tenant overlay (entry :: rest).length stores

end VodogeCloud.Source.LedgerPublish
