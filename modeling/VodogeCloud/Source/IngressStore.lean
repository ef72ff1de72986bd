import VodogeCloud.Source.IngressWrites
import VodogeCloud.Source.MemoryJournal
import VodogeCloud.Source.NulScrub

/-!
# The PostgreSQL store of the gateway

`apps/gateway/internal/ingress/sql.go:41-236`, with the scrubbing of
`apps/gateway/internal/ingress/sanitize.go:37-98` as it acts on a document: `SQLStore.Accept`,
`RecordUnstorable` and `Snapshot` over the functions of the database, the
decoding of a window and the classification of errors. The server reads the text
arguments before it runs the function, so a malformed uuid or a document jsonb
cannot hold fails without entering it. A transaction binds the tenant it was
opened for. Lost connections and deadlines are not errors of the server; they
are taken up where sessions are modelled.
-/

set_option autoImplicit false

namespace VodogeCloud.Source.IngressStore

open VodogeCloud.Lib VodogeCloud.Lib.SequenceGaps
open VodogeCloud.Source.Postgres VodogeCloud.Source.IngressWindow
open VodogeCloud.Source.IngressWrites
open VodogeCloud.Source.NulScrub (GoTree MapOrder decode scrubValue)
open VodogeCloud.Source.MemoryJournal (Record StoreError Status Window Result)

/-! ## Decoding a window -/

/-- `parseDecimal`, in uint64 arithmetic. -/
def parseDigits : List Char → Nat → Option Nat
  | [], value => some value
  | r :: rest, value =>
    if r < '0' ∨ '9' < r then none
    else parseDigits rest ((value * 10 + (r.toNat - '0'.toNat)) % 2 ^ 64)

def parseDecimal (raw : String) : Except StoreError Nat :=
  if raw = "" then .error (.invalidRecord "invalid ingress record: empty sequence")
  else
    match parseDigits raw.toList 0 with
    | some value => .ok value
    | none => .error (.invalidRecord ("invalid ingress record: invalid sequence \"" ++ raw ++ "\""))

def parseRange (item : EncodedRange) : Except StoreError Gap := do
  let first ← parseDecimal item.fromText
  let through ← parseDecimal item.throughText
  return ⟨first, through⟩

/-- `parseWindow`. -/
def parseWindow (row : WindowRow) : Except StoreError Window := do
  let ranges ← row.missingRanges.mapM parseRange
  return ⟨row.committedThrough, ranges, row.moreMissing⟩

/-! ## Errors -/

/-- `mapSQLError`: the text is looked at before the class. -/
def mapSQLError (err : PgError) : StoreError :=
  if contains err.text "sequence conflict" then .conflict ("sequence conflict: " ++ err.text)
  else if err.isDataError then .malformed ("record cannot be stored: " ++ err.text)
  else .other err.text

/-! ## Scrubbing -/

/-- A number as it was spelt. -/
abbrev Number := Int × Option Int

mutual

/-- The document as a tree of code points. -/
def tree : Json → JsonTree Number (List JsonChar)
  | .null => .null
  | .bool value => .bool value
  | .num mantissa exponent => .num (mantissa, exponent)
  | .str text => .str text
  | .arr items => .arr (treeItems items)
  | .obj fields => .obj (treeFields fields)

def treeItems : List Json → List (JsonTree Number (List JsonChar))
  | [] => []
  | item :: rest => tree item :: treeItems rest

def treeFields : List (List JsonChar × Json) → List (List JsonChar × JsonTree Number (List JsonChar))
  | [] => []
  | (key, item) :: rest => (key, tree item) :: treeFields rest

end

mutual

/-- `json.Marshal`. -/
def marshal : GoTree Number → Json
  | .null => .null
  | .bool value => .bool value
  | .num value => .num value.1 value.2
  | .str text => .str (text.map .scalar)
  | .arr items => .arr (marshalItems items)
  | .obj entries => .obj (marshalEntries entries)

def marshalItems : List (GoTree Number) → List Json
  | [] => []
  | item :: rest => marshal item :: marshalItems rest

def marshalEntries : List (List Char × GoTree Number) → List (List JsonChar × Json)
  | [] => []
  | (key, item) :: rest => (key.map .scalar, marshal item) :: marshalEntries rest

end

/-- `stripNulls`. A document that decodes without a NUL is passed on as it came, repeated keys
and all. The scan before it passes on only documents that have none, and the payload of an
envelope that was decoded is never nested too deep for the decoder. -/
def stripNulls (order : MapOrder Number) (payload : Json) : Json :=
  match scrubValue order [] (decode (tree payload)) with
  | (_, false) => payload
  | (cleaned, true) => marshal cleaned

/-- Of a repeated key the last value stays, so that a number the cast refuses can be gone. -/
example : stripNulls .forwards (.obj [(chars "x", .str (chars "\x00")), (chars "n", .num 1 (some 999999)),
    (chars "n", .num 1 none)]) = .obj [(chars "n", .num 1 none), (chars "x", .str [])] := rfl

/-! ## The three calls -/

/-- `int64(seq)`. -/
def int64 (seq : Nat) : Bigint where
  value := (seq : Int).bmod (2 ^ 64)
  lower := by
    have := Int.le_bmod (x := seq) (m := 2 ^ 64) (by decide)
    omega
  upper := by
    have := Int.bmod_lt (x := seq) (m := 2 ^ 64) (by decide)
    omega

/-- The record as the session hands it over: tenant and device come from the
certificate, whose subject carries uuids (identity.go:4-8); the envelope id is
whatever text the device sent. An absent payload is not valid JSON. -/
structure SqlRecord where
  tenantId : Uuid
  deviceId : Uuid
  envelopeId : String
  seq : Nat
  kind : String
  payload : Option Json

variable {σ : Type}

/-- The statement `Accept` runs. -/
def acceptStatement (order : MapOrder Number) (project : σ → IngressRow → Except PgError σ)
    (record : SqlRecord) (payload : Json) (now : Timestamp) (db : IngressDb) (rest : σ) :
    Except PgError (IngressDb × σ × AcceptStatus × WindowRow) := do
  let envelopeId ← uuidIn record.envelopeId
  let document ← jsonbIn (stripNulls order payload)
  acceptIngress project (some record.tenantId)
    ⟨record.tenantId, record.deviceId, int64 record.seq, envelopeId, record.kind, document⟩ now db rest

def acceptStatus : AcceptStatus → Status
  | .inserted => .inserted
  | .duplicate => .duplicate

/-- `SQLStore.Accept`: the state after the call, and its answer. `order` is how the maps of this
call are walked. -/
def accept (order : MapOrder Number) (project : σ → IngressRow → Except PgError σ) (record : SqlRecord)
    (now : Timestamp) (db : IngressDb) (rest : σ) : IngressDb × σ × Except StoreError Result :=
  match record.payload with
  | none => (db, rest, .error (.invalidRecord "invalid ingress record: payload is not JSON"))
  | some payload =>
    match acceptStatement order project record payload now db rest with
    | .error err => (db, rest, .error (mapSQLError err))
    | .ok (db', rest', status, row) =>
      (db', rest', (parseWindow row).map fun window => ⟨acceptStatus status, window⟩)

/-- `SQLStore.RecordUnstorable`. -/
def recordUnstorable (record : SqlRecord) (reason : String) (now : Timestamp) (recordedAt : String)
    (db : IngressDb) : IngressDb × Except StoreError Unit :=
  if record.envelopeId = "" then
    (db, .error (.invalidRecord "invalid ingress record: tenant, device, and envelope are required"))
  else
    match (do
      let envelopeId ← uuidIn record.envelopeId
      recordUnstorableIngress (some record.tenantId)
        ⟨record.tenantId, record.deviceId, int64 record.seq, envelopeId, record.kind, some reason⟩
        now recordedAt db) with
    | .error err => (db, .error (.other ("record unstorable ingress: " ++ err.text)))
    | .ok (db', _) => (db', .ok ())

/-- `SQLStore.Snapshot`. -/
def snapshot (tenant device : Uuid) (db : IngressDb) : Except StoreError Window :=
  match ingressWindow (some tenant) tenant device db with
  | .error err => .error (.other err.text)
  | .ok row => parseWindow row

/-! ## A window survives its encoding -/

theorem parseDigits_append (front back : List Char) (value : Nat) :
    parseDigits (front ++ back) value = (parseDigits front value).bind (parseDigits back) := by
  induction front generalizing value with
  | nil => rfl
  | cons r rest ih =>
    simp only [List.cons_append, parseDigits]
    split
    · rfl
    · exact ih _

theorem parseDigits_digit {d : Nat} (small : d < 10) (value : Nat) :
    parseDigits [Nat.digitChar d] value = some ((value * 10 + d) % 2 ^ 64) := by
  have digit : ¬ (Nat.digitChar d < '0' ∨ '9' < Nat.digitChar d) ∧
      (Nat.digitChar d).toNat - '0'.toNat = d := by
    revert d
    decide
  simp only [parseDigits, if_neg digit.1, digit.2]

theorem parseDigits_toDigits (n : Nat) : parseDigits (Nat.toDigits 10 n) 0 = some (n % 2 ^ 64) := by
  induction n using Nat.strongRecOn with
  | ind n ih =>
    rw [Nat.toDigits_eq_if (by decide)]
    split
    · next small => simpa using parseDigits_digit small 0
    · next large =>
      rw [parseDigits_append, ih (n / 10) (by omega), Option.bind_some,
        parseDigits_digit (Nat.mod_lt n (by decide))]
      congr 1
      omega

/-- Decimal text of a uint64 reads back as the number. -/
theorem parseDecimal_toString {n : Nat} (fits : n < 2 ^ 64) : parseDecimal (toString n) = .ok n := by
  have digits : (toString n).toList = Nat.toDigits 10 n := Nat.toList_repr
  have nonempty : toString n ≠ "" := by
    intro empty
    rw [empty] at digits
    exact Nat.toDigits_ne_nil digits.symm
  unfold parseDecimal
  rw [if_neg nonempty, digits, parseDigits_toDigits, Nat.mod_eq_of_lt fits]

theorem parseRange_encodeRange {gap : Gap} (first : gap.first < 2 ^ 64) (last : gap.last < 2 ^ 64) :
    parseRange (encodeRange gap) = .ok gap := by
  simp only [parseRange, encodeRange, parseDecimal_toString first, parseDecimal_toString last]
  rfl

theorem parseRanges_encode {gaps : List Gap}
    (fits : ∀ gap ∈ gaps, gap.first < 2 ^ 64 ∧ gap.last < 2 ^ 64) :
    (gaps.map encodeRange).mapM parseRange = .ok gaps := by
  induction gaps with
  | nil => rfl
  | cons gap rest ih =>
    have head := fits gap (by simp)
    rw [List.map_cons, List.mapM_cons, parseRange_encodeRange head.1 head.2,
      ih (fun g member => fits g (by simp [member]))]
    rfl

/-- The gaps of a stored journal are uint64 ranges. -/
theorem gaps_fit (db : IngressDb) (tenant device : Uuid) :
    ∀ gap ∈ db.gaps tenant device, gap.first < 2 ^ 64 ∧ gap.last < 2 ^ 64 := by
  intro gap member
  have isGap := ((gaps_gapList db tenant device).complete gap).mp member
  obtain ⟨row, inTable, _, same⟩ := isGap.closes
  have range := (db.valid.seqRange row inTable).2
  have nonempty := isGap.nonempty
  have bound : bigintMax < 2 ^ 64 := by decide
  omega

/-- What the gateway reads from `ingress_window`. -/
def readWindow (db : IngressDb) (tenant device : Uuid) : Window :=
  ⟨(db.window tenant device).committedThrough, (db.gaps tenant device).take rangeLimit,
    decide (rangeLimit < (db.gaps tenant device).length)⟩

theorem parseWindow_window (db : IngressDb) (tenant device : Uuid) :
    parseWindow (db.window tenant device) = .ok (readWindow db tenant device) := by
  unfold parseWindow
  rw [window_ranges, window_more, parseRanges_encode]
  · rfl
  · exact fun gap member => gaps_fit db tenant device gap (List.mem_of_mem_take member)

theorem snapshot_eq (tenant device : Uuid) (db : IngressDb) :
    snapshot tenant device db = .ok (readWindow db tenant device) := by
  simp only [snapshot, ingressWindow, ne_eq, not_true_eq_false, if_false]
  exact parseWindow_window db tenant device

end VodogeCloud.Source.IngressStore
