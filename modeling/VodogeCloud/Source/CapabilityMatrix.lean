import VodogeCloud.Source.JsonText

/-!
# The capability matrix

`ledger.Document` and `supportShape` (apps/gateway/internal/ledger/ledger.go:271-344),
`Parse`, `Canonical`, `CommandPayload`, `Get` and `Put` of
apps/gateway/internal/matrix/matrix.go:79-190 over `app.capability_matrix`
(0009_capability_matrix.sql), and `MatrixKey`
(apps/gateway/internal/commands/queue.go:144-154).

A document travels as a `json.RawMessage`: the bytes `Canonical` wrote, or the bytes a
jsonb column gives back. A number of a document is its value, so the JSON texts 0 and -0
are one number.
-/

set_option autoImplicit false

namespace VodogeCloud.Source.CapabilityMatrix

open VodogeCloud.Lib VodogeCloud.Source.Postgres VodogeCloud.Source.CommandTables
open VodogeCloud.Source.CommandLifecycle VodogeCloud.Source.GoJson VodogeCloud.Source.JsonText

/-! ## The ledger as a document -/

/-- The fields of `ledger.Entry` that a document shows. -/
structure Entry where
  modemFamily : String
  carrier : String
  smsMo : Option String
  smsMt : Option String
  data : Option String
  voice : Option String
  bearer : String
  reason : Option String
  deriving DecidableEq, Repr

/-- `ledger.SupportedDevice`. -/
structure SupportedDevice where
  usbVendor : String
  usbProduct : String
  strategy : String
  enabled : Bool
  note : Option String
  deriving DecidableEq, Repr

def text (value : String) : Json := .str (chars value)

def object (fields : List (String × Json)) : Json :=
  .obj (fields.map fun field => (chars field.1, field.2))

/-- A pointer to a text that is not empty. -/
def nonEmpty (value : Option String) : Option String := value.filter (· ≠ "")

/-- `supportShape`. -/
def supportShape (value bearer : String) (reason : Option String) : Json :=
  if value = "supported" then object [("kind", text "supported"), ("bearer", text bearer)]
  else if value = "unsupported" then
    object (("kind", text "unsupported") ::
      ((nonEmpty reason).map fun reason => ("reason", text reason)).toList)
  else object [("kind", text "probe")]

/-- One operation of a rule, where it was measured. -/
def operation (name : String) (value : Option String) (entry : Entry) : List (String × Json) :=
  (value.map fun value => (name, supportShape value entry.bearer entry.reason)).toList

def rule (entry : Entry) : Json :=
  object ([("modem_family", text entry.modemFamily), ("carrier", text entry.carrier)] ++
    operation "sms_mo" entry.smsMo entry ++ operation "sms_mt" entry.smsMt entry ++
    operation "data" entry.data entry ++ operation "voice" entry.voice entry)

def deviceShape (device : SupportedDevice) : Json :=
  object ([("usb", text (device.usbVendor ++ ":" ++ device.usbProduct)),
    ("strategy", text device.strategy), ("enabled", .bool device.enabled)] ++
    ((nonEmpty device.note).map fun note => ("note", text note)).toList)

/-- By family and carrier, by bytes. -/
def entryLe (a b : Entry) : Bool :=
  if a.modemFamily ≠ b.modemFamily then decide (a.modemFamily.toList < b.modemFamily.toList)
  else decide (a.carrier.toList ≤ b.carrier.toList)

/-- `ledger.Document`. Without a device the key is left out. -/
def document (version : String) (entries : List Entry) (devices : List SupportedDevice) : Json :=
  object ([("version", text version), ("rule", .arr ((entries.insertionSort fun a b => entryLe a b).map rule))] ++
    if devices.isEmpty then [] else [("device", .arr (devices.map deviceShape))])

/-! ## Overlays -/

/-- The bytes of a document. -/
inductive RawMessage where
  /-- As `Canonical` wrote them. -/
  | written (value : Json)
  /-- As the jsonb column gives them back. -/
  | column (value : Jsonb)

/-- The bytes within a larger `json.Marshal`, which compacts them. -/
def RawMessage.text : RawMessage → List Char
  | .written value => goText value
  | .column value => compactText value

/-- The bytes under a `::jsonb` cast. -/
def RawMessage.value : RawMessage → Except PgError Jsonb
  | .written value => jsonbIn value
  | .column value => .ok value

structure Overlay where
  version : String
  sha256 : String
  document : RawMessage

/-- Why a document is refused. -/
inductive InvalidDocument where
  /-- A number is no float64. -/
  | number
  | notAnObject
  /-- `version` is no string or `rule` no array. -/
  | fieldType
  | noVersion
  | noRules
  deriving DecidableEq, Repr

/-- `Canonical`: the document decoded into a map and encoded again. -/
def canonical (float : FloatFormat) (raw : Json) : Except InvalidDocument Json :=
  match reencode float raw with
  | none => .error .number
  | some value => if value.isObject then .ok value else .error .notAnObject

/-- The number of elements of a `[]json.RawMessage` field. -/
def rawMessages (name : String) (fields : List (List JsonChar × Json)) : Option Nat :=
  (fieldValues name fields).foldlM (fun _ value =>
    match value with
    | .arr items => some items.length
    | .null => some 0
    | _ => none) 0

/-- `Parse`. -/
def parse (float : FloatFormat) (raw : Json) : Except InvalidDocument Overlay := do
  let value ← canonical float raw
  let fields := (structFields value).getD []
  match stringField "version" fields, rawMessages "rule" fields with
  | some version, some rules =>
    if version = "" then .error .noVersion
    else if rules = 0 then .error .noRules
    else return ⟨version, sha256Hex (goText value), .written value⟩
  | _, _ => .error .fieldType

/-! ## The store -/

/-- A row of `app.capability_matrix`. -/
structure MatrixRow where
  tenantId : Uuid
  version : String
  sha256 : String
  document : Jsonb
  deriving DecidableEq, Repr

abbrev MatrixDb := Table MatrixRow.tenantId

/-- The row takes the other columns of the new one. -/
def overwriteWith (row stored : MatrixRow) : MatrixRow := { row with tenantId := stored.tenantId }

theorem overwriteWith_tenant (row stored : MatrixRow) :
    (overwriteWith row stored).tenantId = stored.tenantId := rfl

/-- `Put`. -/
def put (tenant : Uuid) (overlay : Overlay) (db : MatrixDb) : Except PgError MatrixDb :=
  if overlay.version.toList.contains '\x00' then
    .error ⟨"22021", "invalid byte sequence for encoding \"UTF8\": 0x00"⟩
  else
    match overlay.document.value with
    | .error err => .error err
    | .ok value =>
      if value.isObject = false then
        .error ⟨"23514", "new row for relation \"capability_matrix\" violates check constraint \"capability_matrix_document_is_object\""⟩
      else if blank overlay.sha256 then
        .error ⟨"23514", "new row for relation \"capability_matrix\" violates check constraint \"capability_matrix_sha256_not_empty\""⟩
      else if blank overlay.version then
        .error ⟨"23514", "new row for relation \"capability_matrix\" violates check constraint \"capability_matrix_version_not_empty\""⟩
      else
        .ok (db.upsert ⟨tenant, overlay.version, overlay.sha256, value⟩
          (overwriteWith ⟨tenant, overlay.version, overlay.sha256, value⟩) (overwriteWith_tenant _))

/-- `Get`. -/
def get (tenant : Uuid) (db : MatrixDb) : Option Overlay :=
  (db.find tenant).map fun row => ⟨row.version, row.sha256, .column row.document⟩

/-! ## The command -/

/-- The bytes of `CommandPayload`. -/
def payloadText (overlay : Overlay) : List Char :=
  enclosed '\x7b' '\x7d' [member "kind" (goQuote "UpdateCapabilityMatrix"),
    member "matrix_version" (goQuote overlay.version), member "matrix_sha256" (goQuote overlay.sha256),
    member "matrix" overlay.document.text]

def payloadObject (version sha256 : String) (value : Jsonb) : Jsonb :=
  jsonbObject [("kind", .str "UpdateCapabilityMatrix"), ("matrix_version", .str version),
    ("matrix_sha256", .str sha256), ("matrix", value)]

/-- What the `::jsonb` cast makes of `CommandPayload`. -/
def commandPayload (overlay : Overlay) : Except PgError Jsonb :=
  overlay.document.value.map (payloadObject overlay.version overlay.sha256)

/-- `MatrixKey`. -/
def matrixKey (deviceId version : String) (payload : List Char) : String :=
  "update_capability_matrix:" ++ deviceId ++ ":" ++ version ++ ":" ++ fingerprint payload

end VodogeCloud.Source.CapabilityMatrix
