import VodogeCloud.Source.CommandLifecycle

/-!
# Commands waiting for a device

`SQLPending.PendingForDevice` and `redeliverCardPolicy`
(apps/gateway/internal/commands/lifecycle.go:22-108, 374-446) with the pure
decision they rest on (apps/gateway/internal/commands/queue.go:110-247). The two
run in separate transactions and neither reports an error to its caller.

`contractCardPolicyPayload` renders a stored payload again through the contract
type; it is a parameter here, absent where the payload cannot be read.
-/

set_option autoImplicit false

namespace VodogeCloud.Source.PendingCommands

open VodogeCloud.Lib VodogeCloud.Source.Postgres VodogeCloud.Source.CommandTables
open VodogeCloud.Source.CommandLifecycle

/-! ## The card policy a device never took -/

/-- Thirty minutes. -/
def cardPolicyTTL : Int := 1800000000

def maxCardPolicyDeliveries : Nat := 3

/-- `revivalSuffix`: the key before `:r<digits>`, and the digits. -/
def revivalSuffix (key : String) : Option (List Char × List Char) :=
  let digits := (key.toList.reverse.takeWhile Char.isDigit).reverse
  match key.toList.reverse.dropWhile Char.isDigit with
  | 'r' :: ':' :: front => if digits = [] then none else some (front.reverse, digits)
  | _ => none

/-- `cardPolicyAttempts`. `strconv.Atoi` refuses what does not fit an int64. -/
def cardPolicyAttempts (key : String) : Nat :=
  match revivalSuffix key with
  | none => 1
  | some (_, digits) =>
    let attempt := digits.foldl (fun value digit => value * 10 + (digit.toNat - '0'.toNat)) 0
    if bigintMax < attempt ∨ attempt < 1 then 1 else attempt + 1

/-- `cardPolicyRevivalKey`. -/
def cardPolicyRevivalKey (key : String) (attempt : Nat) : String :=
  (match revivalSuffix key with
    | none => key
    | some (front, _) => String.ofList front) ++ ":r" ++ toString attempt

/-- `newestCardPolicySQL`. -/
def newestCardPolicy (tenant device : Uuid) (db : CommandDb) : Option CommandRow :=
  (db.commands.rows.filter (fun row =>
    row.tenantId = tenant && row.deviceId = device && row.kind = .updateCardPolicy)).foldl
    (fun best row =>
      match best with
      | some held => if held.issuedAt < row.issuedAt then some row else some held
      | none => some row) none

/-- `c.result -> 'late_result' IS NOT NULL`. -/
def late (row : CommandRow) : Bool := (row.result.bind (·.get "late_result")).isSome

/-- `planCardPolicyRedelivery`: the reason not to repeat the row. -/
def planCardPolicyRedelivery (row : CommandRow) (now : Timestamp) : Option String :=
  if row.acceptedAt.isSome then some "the device acknowledged it"
  else if late row then some "the device answered it after it expired"
  else if row.status = .succeeded ∨ row.status = .failed ∨ row.status = .unknown then
    some "the device already answered it"
  else if row.status = .cancelled then some "an operator cancelled it"
  else if row.status ≠ .expired ∧ now < row.expiresAt then some "it is still deliverable"
  else if maxCardPolicyDeliveries ≤ cardPolicyAttempts row.idempotencyKey then
    some "its redelivery budget is spent"
  else none

/-- What a pending read takes from outside the tables. -/
structure Surroundings where
  calendar : Calendar
  /-- `contractCardPolicyPayload`. -/
  contractCardPolicyPayload : Jsonb → Option Jsonb
  /-- The device foreign key of `app.commands`. -/
  registered : Uuid → Uuid → Bool
  /-- The keys the database generates. -/
  commandId : Uuid
  outboxId : Nat
  /-- `now()` of the transaction. -/
  database : Timestamp

/-- `redeliverCardPolicy`. An error rolls its transaction back and is logged. -/
def redeliverCardPolicy (around : Surroundings) (tenant device : Uuid) (now : Timestamp)
    (db : CommandDb) : CommandDb :=
  match newestCardPolicy tenant device db with
  | none => db
  | some row =>
    match planCardPolicyRedelivery row now with
    | some _ => db
    | none =>
      match around.contractCardPolicyPayload row.payload with
      | none => db
      | some payload =>
        match enqueueCommand around.registered (some tenant)
            ⟨tenant, device, .updateCardPolicy, payload,
              cardPolicyRevivalKey row.idempotencyKey (cardPolicyAttempts row.idempotencyKey),
              now + cardPolicyTTL⟩
            around.commandId around.outboxId around.database db with
        | .ok (db', _) => db'
        | .error _ => db

/-! ## The pending read -/

/-- `dispatch.PendingCommand`. -/
structure PendingCommand where
  command : CommandRow
  attempt : Nat
  deriving DecidableEq, Repr

/-- `GREATEST(COALESCE(o.attempt_count, 0), 1)` over the left join. -/
def attemptOf (db : CommandDb) (row : CommandRow) : Nat :=
  max (((db.outbox.rows.find? (fun wakeup =>
    wakeup.tenantId = row.tenantId && wakeup.commandId = row.id)).map OutboxRow.attemptCount).getD 0) 1

/-- The SELECT: `ORDER BY c.issued_at LIMIT 32`. -/
def pendingRows (tenant device : Uuid) (now : Timestamp) (db : CommandDb) : List PendingCommand :=
  (((db.commands.rows.filter (fun row => row.tenantId = tenant && row.deviceId = device &&
    row.status.deliverable && now < row.expiresAt)).insertionSort
      (fun a b => a.issuedAt ≤ b.issuedAt)).take 32).map fun row => ⟨row, attemptOf db row⟩

/-- `PendingForDevice`: the tables after it, and what is to be delivered. -/
def pendingForDevice (around : Surroundings) (tenant device : Uuid) (now : Timestamp)
    (db : CommandDb) : CommandDb × List PendingCommand :=
  let db1 := redeliverCardPolicy around tenant device now db
  match expireOverdueCommands around.calendar (some tenant) tenant device (some now) db1 with
  | .ok (db2, _) => (db2, pendingRows tenant device now db2)
  | .error _ => (db1, [])

/-- `Command.Expired`. -/
def expired (now : Timestamp) (row : CommandRow) : Bool := row.expiresAt ≤ now

end VodogeCloud.Source.PendingCommands
