import VodogeCloud.Source.CardPolicies
import VodogeCloud.Source.ServeDevice

/-!
# Card policies as the console reads them

`Validate`, `SQL.List` and `SQL.Get` (apps/gateway/internal/cards/cards.go:46-155), and
`writeCardPolicy` (cmd/gateway/card_routes.go:58-96) from the decoded body on. Both reads
select the same ten columns. `Rows.Scan` of database/sql counts its targets against the
columns of the result when it runs, and assigns them in order.

`extract(epoch from updated_at) * 1000` is a numeric that goes through a float64. Until
the year 2248 its error is smaller than the microsecond that separates a timestamp from
the next millisecond, so the milliseconds are those of the timestamp.
-/

set_option autoImplicit false

namespace VodogeCloud.Source.CardReads

open VodogeCloud.Lib VodogeCloud.Source.Postgres VodogeCloud.Source.CardPolicies
open VodogeCloud.Source.ServeDevice (trimSpace)

/-- The bound of `Validate`, in bytes. -/
def maxAPN : Nat := 128

/-- The APN that `Validate` keeps; an empty one means no override. -/
def validateAPN : Option String → Except String (Option String)
  | none => .ok none
  | some apn =>
    if trimSpace apn = "" then .ok none
    else if maxAPN < (trimSpace apn).utf8ByteSize then .error "apn must be 128 characters or fewer"
    else .ok (some (trimSpace apn))

/-- The vertical that `Validate` keeps. -/
def defaultVertical (vertical : String) : String := if vertical = "" then "cn" else vertical

/-- `Validate`: the policy as it is stored, or the reason it is refused. -/
def validate (policy : Policy) : Except String Policy :=
  if isIccid (trimSpace policy.iccid) = false then .error "iccid must be 19 or 20 digits"
  else if knownVertical (defaultVertical policy.vertical) = false then .error "vertical must be cn or intl"
  else do
    let apn ← validateAPN policy.apn
    return { policy with
      iccid := trimSpace policy.iccid
      vertical := defaultVertical policy.vertical
      apn := apn }

/-- `cards.Policy`, with the field that only a stored row fills. -/
structure StoredPolicy extends Policy where
  updatedAt : Int
  deriving DecidableEq, Repr

/-! ## Result rows -/

/-- A value of a result row as the driver hands it over. -/
inductive Cell where
  | null
  | text (value : String)
  | boolean (value : Bool)
  | numeric (thousandths : Int)
  deriving DecidableEq, Repr

structure Column where
  name : String
  cell : Cell
  deriving DecidableEq, Repr

def ofText : Option String → Cell
  | none => .null
  | some value => .text value

def ofBoolean : Option Bool → Cell
  | none => .null
  | some value => .boolean value

/-- The select list of `List` and `Get`. -/
def columns (row : PolicyRow) : List Column :=
  [⟨"iccid", .text row.iccid⟩, ⟨"cellular_enabled", .boolean row.cellularEnabled⟩,
    ⟨"vertical", .text row.vertical⟩, ⟨"apn", ofText row.apn⟩,
    ⟨"coalesce", .text (row.note.getD "")⟩, ⟨"?column?", .numeric row.updatedAt⟩,
    ⟨"sms_send", ofBoolean row.smsSend⟩, ⟨"sms_receive", ofBoolean row.smsReceive⟩,
    ⟨"data", ofBoolean row.data⟩, ⟨"voice", ofBoolean row.voice⟩]

/-- What a read holds while it scans: the policy, `apn` and `updated`. -/
structure Scanned where
  policy : Policy
  apn : Option String
  updated : Int
  deriving DecidableEq, Repr

def Scanned.zero : Scanned where
  policy := ⟨"", false, none, none, none, none, "", none, ""⟩
  apn := none
  updated := 0

/-- A scan target: what it does to the variables, or why it cannot take the value. -/
abbrev Target : Type := Cell → Scanned → Except String Scanned

def unsupported (cell : Cell) (type : String) : String :=
  match cell with
  | .null => "converting NULL to " ++ type ++ " is unsupported"
  | _ => "unsupported Scan, storing into type *" ++ type

/-- `*string`. -/
def intoString (put : String → Scanned → Scanned) : Target := fun cell scanned =>
  match cell with
  | .text value => .ok (put value scanned)
  | _ => .error (unsupported cell "string")

/-- `*bool`. -/
def intoBool (put : Bool → Scanned → Scanned) : Target := fun cell scanned =>
  match cell with
  | .boolean value => .ok (put value scanned)
  | _ => .error (unsupported cell "bool")

/-- `*float64`. -/
def intoFloat (put : Int → Scanned → Scanned) : Target := fun cell scanned =>
  match cell with
  | .numeric thousandths => .ok (put thousandths scanned)
  | _ => .error (unsupported cell "float64")

/-- `*sql.NullString`. -/
def intoNullString (put : Option String → Scanned → Scanned) : Target := fun cell scanned =>
  match cell with
  | .null => .ok (put none scanned)
  | .text value => .ok (put (some value) scanned)
  | _ => .error (unsupported cell "string")

/-- `**bool`. -/
def intoBoolPointer (put : Option Bool → Scanned → Scanned) : Target := fun cell scanned =>
  match cell with
  | .null => .ok (put none scanned)
  | .boolean value => .ok (put (some value) scanned)
  | _ => .error (unsupported cell "bool")

/-- The assignments of one row, in the order of its columns. -/
def assign : Nat → List Column → List Target → Scanned → Except String Scanned
  | index, column :: columns, target :: targets, scanned =>
    match target column.cell scanned with
    | .ok next => assign (index + 1) columns targets next
    | .error why =>
      .error ("sql: Scan error on column index " ++ toString index ++ ", name \"" ++ column.name ++ "\": " ++ why)
  | _, _, _, scanned => .ok scanned

/-- `Rows.Scan`. -/
def scan (columns : List Column) (targets : List Target) : Except String Scanned :=
  if targets.length ≠ columns.length then
    .error ("sql: expected " ++ toString columns.length ++ " destination arguments in Scan, not " ++
      toString targets.length)
  else assign 0 columns targets Scanned.zero

/-- The six targets that both reads name. -/
def commonTargets : List Target :=
  [intoString fun value s => { s with policy := { s.policy with iccid := value } },
    intoBool fun value s => { s with policy := { s.policy with cellularEnabled := value } },
    intoString fun value s => { s with policy := { s.policy with vertical := value } },
    intoNullString fun value s => { s with apn := value },
    intoString fun value s => { s with policy := { s.policy with note := value } },
    intoFloat fun value s => { s with updated := value }]

/-- The scan of `List`. -/
def listTargets : List Target :=
  commonTargets ++
    [intoBoolPointer fun value s => { s with policy := { s.policy with smsSend := value } },
      intoBoolPointer fun value s => { s with policy := { s.policy with smsReceive := value } },
      intoBoolPointer fun value s => { s with policy := { s.policy with data := value } },
      intoBoolPointer fun value s => { s with policy := { s.policy with voice := value } }]

/-- The scan of `Get`. -/
def getTargets : List Target := commonTargets

/-- `int64(updated)`. -/
def milliseconds (thousandths : Int) : Int := thousandths.tdiv 1000

/-- What both reads do once the row is scanned. -/
def Scanned.finish (scanned : Scanned) : StoredPolicy where
  toPolicy := { scanned.policy with apn := scanned.apn }
  updatedAt := milliseconds scanned.updated

def readRow (targets : List Target) (row : PolicyRow) : Except String StoredPolicy := do
  let scanned ← scan (columns row) targets
  return scanned.finish

/-! ## The reads -/

/-- `SQL.List`. -/
def listPolicies (tenant : Uuid) (db : CardDb) : Except String (List StoredPolicy) :=
  (db.list tenant).mapM (readRow listTargets)

/-- `SQL.Get`: the row under the primary key, within the tenant's rows. -/
def getPolicy (tenant : Uuid) (iccid : String) (db : CardDb) : Except String (Option StoredPolicy) :=
  if iccid.toList.contains '\x00' then
    .error "invalid byte sequence for encoding \"UTF8\": 0x00"
  else
    match db.policies.find (tenant, iccid) with
    | none => .ok none
    | some row => (readRow getTargets row).map some

/-- What a route answers instead of a policy. -/
structure Refusal where
  status : Nat
  text : String
  deriving DecidableEq, Repr

/-- `readCardPolicy`. -/
def readCardPolicy (tenant : Uuid) (iccid : String) (db : CardDb) : Except Refusal StoredPolicy :=
  match getPolicy tenant iccid db with
  | .error _ => .error ⟨500, "policies unavailable"⟩
  | .ok none => .error ⟨404, "no policy for that card"⟩
  | .ok (some policy) => .ok policy

/-- `writeCardPolicy`: the state it leaves and the policy it answers. The second read is
used only when it succeeds. -/
def writeCardPolicy (tenant : Uuid) (pathIccid : String) (body : StoredPolicy) (now : Timestamp)
    (db : CardDb) : Except Refusal (CardDb × StoredPolicy) :=
  match validate { body.toPolicy with iccid := pathIccid } with
  | .error reason => .error ⟨400, reason⟩
  | .ok policy =>
    match db.save tenant policy now with
    | .error _ => .error ⟨500, "policy could not be saved"⟩
    | .ok after =>
      match getPolicy tenant policy.iccid after with
      | .ok (some stored) => .ok (after, stored)
      | _ => .ok (after, { toPolicy := policy, updatedAt := body.updatedAt })

end VodogeCloud.Source.CardReads
