import VodogeCloud.Source.ServeDevice

/-!
# The journal page by page

`SQL.ListEvents` (apps/gateway/internal/catalog/catalog.go:677-734) and `listJournal`
(cmd/gateway/main.go:1817-1852) from the resolved tenant on. `app.ingress` holds
`received_at` in microseconds (0003_ingress.sql:7-22); an `EventRow` and its cursor carry
milliseconds. Two devices can have rows of one time and one sequence, and the server may
give these in either order, so a query comes with the order it was answered in.
-/

set_option autoImplicit false

namespace VodogeCloud.Source.EventPages

open VodogeCloud.Lib VodogeCloud.Source.Postgres VodogeCloud.Source.IngressWindow
open VodogeCloud.Source.ServeDevice (timestampArg)

/-- `app.ingress`, with the range of a `timestamptz`. -/
structure Journal where
  ingress : Table IngressRow.key
  range : ∀ row ∈ ingress, -211813488000000000 ≤ row.receivedAt - 946684800000000 ∧
    row.receivedAt - 946684800000000 < 9223371331200000000

/-! ## Parameters -/

/-- The digits of a number in base ten. -/
def digitsValue (digits : List Char) : Option Nat :=
  if digits ≠ [] ∧ digits.all Char.isDigit then
    some (digits.foldl (fun value digit => value * 10 + (digit.toNat - '0'.toNat)) 0)
  else none

def inInt64 (n : Int) : Option Int :=
  if -9223372036854775808 ≤ n ∧ n < 9223372036854775808 then some n else none

/-- `strconv.ParseInt` in base ten, and `strconv.Atoi`. -/
def parseInt (text : String) : Option Int :=
  match text.toList with
  | '-' :: digits => (digitsValue digits).bind fun n => inInt64 (-n)
  | '+' :: digits => (digitsValue digits).bind fun n => inInt64 n
  | digits => (digitsValue digits).bind fun n => inInt64 n

/-- The query of a request; a parameter that is absent is empty. -/
structure Params where
  deviceId : String
  kind : String
  payload : String
  before : String
  limit : String
  deriving DecidableEq, Repr

structure EventQuery where
  deviceId : String
  kind : String
  before : Int
  limit : Int
  withPayload : Bool
  deriving DecidableEq, Repr

/-- A number that does not parse is as good as none. -/
def eventQuery (params : Params) : EventQuery where
  deviceId := params.deviceId
  kind := params.kind
  before := if params.before = "" then 0 else (parseInt params.before).getD 0
  limit := if params.limit = "" then 0 else (parseInt params.limit).getD 0
  withPayload := params.payload = "1"

/-! ## ListEvents -/

structure EventRow where
  seq : Nat
  deviceId : String
  kind : String
  receivedAt : Int
  payload : Option Jsonb
  deriving DecidableEq, Repr

/-- `time.Time.UnixMilli`. -/
def unixMilli (at_ : Timestamp) : Int := at_ / 1000

def pageSize (limit : Int) : Nat := if limit ≤ 0 ∨ 500 < limit then 100 else limit.toNat

/-- `$2`, unless it is empty. -/
def deviceArg (deviceId : String) : Except PgError (Option Uuid) :=
  if deviceId = "" then .ok none else (uuidIn deviceId).map some

/-- `$1`: the cursor, or a minute after now, which is in nanoseconds since the epoch. -/
def beforeArg (before : Int) (now : Nat) : Except PgError Timestamp :=
  if 0 < before then timestampArg before else .ok (((now : Int) + 60000000000) / 1000)

/-- The filter of a query, under the policy of the table. -/
def selects (tenant : Uuid) (device : Option Uuid) (kind : String) (row : IngressRow) : Bool :=
  decide (row.tenantId = tenant) && (device.all fun id => decide (row.deviceId = id)) &&
    (decide (kind = "") || decide (row.kind = kind))

/-- `ORDER BY received_at DESC, seq DESC`. -/
def notBefore (a b : IngressRow) : Prop :=
  b.receivedAt < a.receivedAt ∨ (b.receivedAt = a.receivedAt ∧ b.seq ≤ a.seq)

instance (a b : IngressRow) : Decidable (notBefore a b) := inferInstanceAs (Decidable (_ ∨ _))

def eventRow (withPayload : Bool) (row : IngressRow) : EventRow where
  seq := row.seq
  deviceId := uuidOut row.deviceId
  kind := row.kind
  receivedAt := unixMilli row.receivedAt
  payload := if withPayload then some row.payload else none

/-- The rows of a query before its limit. -/
def Journal.candidates (journal : Journal) (tenant : Uuid) (query : EventQuery) (now : Nat) :
    Except PgError (List IngressRow) := do
  let device ← deviceArg query.deviceId
  let before ← beforeArg query.before now
  return (journal.ingress.rows.filter (selects tenant device query.kind)).filter fun row => row.receivedAt < before

/-- `ListEvents` with the order of the answer; none where the server cannot answer in it. -/
def listEvents (journal : Journal) (tenant : Uuid) (query : EventQuery) (now : Nat) (order : List IngressRow) :
    Option (Except PgError (List EventRow)) :=
  match journal.candidates tenant query now with
  | .error err => some (.error err)
  | .ok rows =>
    if order.Perm rows ∧ order.Pairwise notBefore then
      some (.ok ((order.take (pageSize query.limit)).map (eventRow query.withPayload)))
    else none

/-! ## listJournal -/

structure Response where
  events : List EventRow
  nextBefore : Int
  deriving DecidableEq, Repr

/-- The cursor is the time of the last event. -/
def response (events : List EventRow) : Response := ⟨events, (events.getLast?.map EventRow.receivedAt).getD 0⟩

def listJournal (journal : Journal) (tenant : Uuid) (params : Params) (now : Nat) (order : List IngressRow) :
    Option (Except String Response) :=
  (listEvents journal tenant (eventQuery params) now order).map fun
    | .error _ => .error "journal unavailable"
    | .ok events => .ok (response events)

/-! ## Paging -/

/-- The cursor a client passes: none at first, then the one of the page before. -/
def cursor (pages : Nat → Response) : Nat → String
  | 0 => ""
  | page + 1 => toString (pages page).nextBefore

/-- A client pages until a page is empty, each request with its own clock and order. -/
def Paging (journal : Journal) (tenant : Uuid) (params : Params) (clock : Nat → Nat) (pages : Nat → Response) : Prop :=
  ∀ page, (∀ earlier < page, (pages earlier).events ≠ []) → ∃ order,
    listJournal journal tenant { params with before := cursor pages page } (clock page) order = some (.ok (pages page))

end VodogeCloud.Source.EventPages
