import Mathlib.Data.Char
import Mathlib.Data.List.Lex
import Mathlib.Data.List.Sort
import VodogeCloud.Lib.Table
import VodogeCloud.Source.Postgres

/-!
# Card policies

`cards.Policy` with `List`, `Save`, `Delete` and `Version`
(apps/gateway/internal/cards/cards.go:20-214) over `app.card_policies`
(0022_card_policies.sql:14-31, 0045_card_subscription_capability.sql). `Validate`
runs before `Save` and only narrows what `Save` is given, which is every policy here.

`extract(epoch from updated_at)` goes through a float64 on its way to whole seconds.
Until the year 2514 its error is smaller than the microsecond that separates a
timestamp from the next second, so the seconds are those of the timestamp.
-/

set_option autoImplicit false

namespace VodogeCloud.Source.CardPolicies

open VodogeCloud.Lib VodogeCloud.Source.Postgres

/-- `cards.Policy` as a request brings it. -/
structure Policy where
  iccid : String
  cellularEnabled : Bool
  smsSend : Option Bool
  smsReceive : Option Bool
  data : Option Bool
  voice : Option Bool
  vertical : String
  apn : Option String
  note : String
  deriving DecidableEq, Repr

/-- `^[0-9]{19,20}$`. -/
def isIccid (text : String) : Bool :=
  text.toList.all Char.isDigit && (text.toList.length = 19 || text.toList.length = 20)

def knownVertical (vertical : String) : Bool := vertical = "cn" || vertical = "intl"

/-! ## The table -/

structure PolicyRow where
  tenantId : Uuid
  iccid : String
  cellularEnabled : Bool
  vertical : String
  apn : Option String
  note : Option String
  updatedAt : Timestamp
  smsSend : Option Bool
  smsReceive : Option Bool
  data : Option Bool
  voice : Option Bool
  deriving DecidableEq, Repr

/-- `card_policies_pkey`. -/
def PolicyRow.key (row : PolicyRow) : Uuid × String := (row.tenantId, row.iccid)

/-- The three CHECK constraints. -/
def PolicyRow.sound (row : PolicyRow) : Bool :=
  isIccid row.iccid && knownVertical row.vertical &&
    row.apn.all (fun apn => 1 ≤ apn.length && apn.length ≤ 128)

/-- The constraint a row violates; the server takes them by name. -/
def soundViolation (row : PolicyRow) : PgError :=
  let name :=
    if row.apn.all (fun apn => 1 ≤ apn.length && apn.length ≤ 128) = false then "card_policies_apn_length"
    else if isIccid row.iccid = false then "card_policies_iccid_shape"
    else "card_policies_vertical_known"
  ⟨"23514", "new row for relation \"card_policies\" violates check constraint \"" ++ name ++ "\""⟩

/-- `app.card_policies`. -/
structure CardDb where
  policies : Table PolicyRow.key
  valid : ∀ row ∈ policies, row.sound = true

def CardDb.empty : CardDb := ⟨Table.empty, fun _ member => absurd member List.not_mem_nil⟩

/-- The row an INSERT would add. -/
def newRow (tenant : Uuid) (policy : Policy) (now : Timestamp) : PolicyRow where
  tenantId := tenant
  iccid := policy.iccid
  cellularEnabled := policy.cellularEnabled
  vertical := policy.vertical
  apn := policy.apn
  note := if policy.note = "" then none else some policy.note
  updatedAt := now
  smsSend := policy.smsSend
  smsReceive := policy.smsReceive
  data := policy.data
  voice := policy.voice

/-- The DO UPDATE SET clause: every column of the row but its key. -/
def replaceWith (row : PolicyRow) (stored : PolicyRow) : PolicyRow :=
  { row with tenantId := stored.tenantId, iccid := stored.iccid }

theorem replaceWith_key (row stored : PolicyRow) : (replaceWith row stored).key = stored.key := rfl

/-- `Save`; `now` is the start of its transaction. -/
def CardDb.save (tenant : Uuid) (policy : Policy) (now : Timestamp) (db : CardDb) :
    Except PgError CardDb :=
  if ([policy.iccid, policy.vertical, policy.apn.getD "", policy.note].any
      fun text => text.toList.contains '\x00') then
    .error ⟨"22021", "invalid byte sequence for encoding \"UTF8\": 0x00"⟩
  else if sound : (newRow tenant policy now).sound = true then
    .ok {
      policies := db.policies.upsert (newRow tenant policy now) (replaceWith (newRow tenant policy now))
        (replaceWith_key _)
      valid := by
        intro row member
        rcases Table.mem_upsert.mp member with ⟨old, _⟩ | ⟨old, inTable, same, rfl⟩ | ⟨rfl, _⟩
        · exact db.valid row old
        · have iccid : old.iccid = (newRow tenant policy now).iccid := congrArg Prod.snd same
          rw [PolicyRow.sound, replaceWith, iccid]
          exact sound
        · exact sound }
  else .error (soundViolation (newRow tenant policy now))

/-- `Delete`. -/
def CardDb.delete (tenant : Uuid) (iccid : String) (db : CardDb) : Except PgError CardDb :=
  if iccid.toList.contains '\x00' then
    .error ⟨"22021", "invalid byte sequence for encoding \"UTF8\": 0x00"⟩
  else
    .ok {
      policies := db.policies.delete (fun row => row.tenantId = tenant && row.iccid = iccid)
      valid := fun row member => db.valid row (Table.mem_delete.mp member).1 }

/-- `List`: the tenant's rows, `ORDER BY iccid`. The ids are digits, which every
collation orders alike. -/
def CardDb.list (tenant : Uuid) (db : CardDb) : List PolicyRow :=
  (db.policies.rows.filter (fun row => row.tenantId = tenant)).insertionSort
    (fun a b => a.iccid.toList ≤ b.iccid.toList)

/-- Whole seconds since the epoch, toward zero. -/
def seconds (at_ : Timestamp) : Int := at_.tdiv 1000000

/-- `max(extract(epoch from updated_at))` in whole seconds; zero of no rows. -/
def latestSecond (rows : List PolicyRow) : Int :=
  seconds ((rows.map PolicyRow.updatedAt).max?.getD 0)

/-- `Version`. -/
def CardDb.version (tenant : Uuid) (db : CardDb) : String :=
  toString (db.list tenant).length ++ "-" ++ toString (latestSecond (db.list tenant))

end VodogeCloud.Source.CardPolicies
