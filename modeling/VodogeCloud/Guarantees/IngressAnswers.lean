import VodogeCloud.Lib.Transactions
import VodogeCloud.Source.ServeDevice

/-!
# What the journal answers

Every answer of `SQLStore.Accept` and `RecordUnstorable`, by what the record is
and what the journal holds. A record is stopped on its way to the INSERT by its
own shape alone, and such a refusal is the same in every state. What reaches the
INSERT meets the row at its sequence, the envelope index, the device key and the
projection, in that order.
-/

set_option autoImplicit false

namespace VodogeCloud.Guarantees.IngressAnswers

open VodogeCloud.Lib VodogeCloud.Lib.Transactions
open VodogeCloud.Source.Postgres VodogeCloud.Source.IngressWindow VodogeCloud.Source.IngressWrites
open VodogeCloud.Source.IngressStore VodogeCloud.Source.ServeDevice
open VodogeCloud.Source.MemoryJournal (StoreError Status Window Result)
open VodogeCloud.Source.NulScrub (MapOrder)

/-- The text `mapSQLError` looks for before it looks at the class. -/
def misread (err : PgError) : Bool := contains err.text "sequence conflict"

theorem mapSQLError_misread {err : PgError} (h : misread err = true) :
    mapSQLError err = .conflict ("sequence conflict: " ++ err.text) := by
  unfold misread at h
  unfold mapSQLError
  rw [if_pos h]

theorem mapSQLError_data {err : PgError} (readable : misread err = false)
    (data : err.isDataError = true) :
    mapSQLError err = .malformed ("record cannot be stored: " ++ err.text) := by
  unfold misread at readable
  unfold mapSQLError
  rw [if_neg (by simp [readable]), if_pos data]

theorem sequenceConflict_misread (args : AcceptArgs) : misread (sequenceConflict args) = true := by
  have cut : "sequence conflict for device ".toList =
      "sequence conflict".toList ++ " for device ".toList := by decide
  simp only [misread, contains, sequenceConflict, PgError.text, String.toList_append,
    decide_eq_true_eq, cut, List.append_assoc]
  exact ⟨"ERROR: ".toList, _, List.append_assoc _ _ _⟩

/-! ## On the way to the INSERT -/

/-- The record reaches the INSERT with these arguments. -/
structure Offered (order : MapOrder Number) (record : SqlRecord) (args : AcceptArgs) : Prop where
  payload : ∃ payload, record.payload = some payload ∧ jsonbIn (stripNulls order payload) = .ok args.payload
  envelope : uuidIn record.envelopeId = .ok args.envelopeId
  object : args.payload.isObject = true
  small : record.seq < 2 ^ 63
  same : args.tenantId = record.tenantId ∧ args.deviceId = record.deviceId ∧
    args.seq = int64 record.seq ∧ args.kind = record.kind

/-- What the loop hands over: a sequenced kind and a sequence `parseSeq` admits. -/
structure Sequenced (record : SqlRecord) : Prop where
  kind : record.kind ∈ sequencedKinds
  positive : 0 < record.seq
  fits : record.seq < 2 ^ 64

/-- The envelope id is not a uuid and its text is misread. -/
def Misread (record : SqlRecord) : Prop :=
  ∃ err, uuidIn record.envelopeId = .error err ∧ misread err = true

theorem int64_small {seq : Nat} (small : seq < 2 ^ 63) : (int64 seq).value = seq := by
  unfold int64
  dsimp only
  rw [Int.bmod_def]
  split <;> omega

theorem int64_large {seq : Nat} (large : ¬ seq < 2 ^ 63) (fits : seq < 2 ^ 64) :
    (int64 seq).value < 1 := by
  unfold int64
  dsimp only
  rw [Int.bmod_def]
  split <;> omega

theorem int64_toNat {seq : Nat} (small : seq < 2 ^ 63) : (int64 seq).value.toNat = seq := by
  rw [int64_small small]
  rfl

theorem uuidIn_error_data {text : String} {err : PgError} (h : uuidIn text = .error err) :
    err.isDataError = true := by
  unfold uuidIn at h
  split at h
  · cases h
    decide
  · split at h
    · cases h
    · cases h
      show (startsWith "22P02" "22" || startsWith "22P02" "23") = true
      decide

theorem jsonErrors_plain : ∀ err ∈ jsonErrors, err.isDataError = true ∧ misread err = false := by
  decide

section Accept

variable {σ : Type} {order : MapOrder Number} {project : σ → IngressRow → Except PgError σ} {record : SqlRecord}
  {args : AcceptArgs} {now : Timestamp} {db : IngressDb} {rest : σ}

/-- Refused by its own shape under one order of its maps: the same error in every state. -/
theorem accept_refused (sequenced : Sequenced record) (refused : ¬ ∃ args, Offered order record args)
    {payload : Json} (present : record.payload = some payload) :
    ∃ err, err.isDataError = true ∧ (misread err = true ↔ Misread record) ∧
      ∀ (project : σ → IngressRow → Except PgError σ) (now : Timestamp) (db : IngressDb) (rest : σ),
        accept order project record now db rest = (db, rest, .error (mapSQLError err)) := by
  cases envelope : uuidIn record.envelopeId with
  | error err =>
    refine ⟨err, uuidIn_error_data envelope, ?_, ?_⟩
    · constructor
      · exact fun h => ⟨err, envelope, h⟩
      · rintro ⟨other, same, h⟩
        rw [envelope] at same
        cases same
        exact h
    · intro project now db rest
      simp only [accept, present, acceptStatement, envelope, bind, Except.bind]
  | ok id =>
    have readable : ¬ Misread record := by
      rintro ⟨err, failed, _⟩
      rw [envelope] at failed
      cases failed
    cases document : jsonbIn (stripNulls order payload) with
    | error err =>
      obtain ⟨data, plain⟩ := jsonErrors_plain err (jsonbIn_error document)
      refine ⟨err, data, by simp [plain, readable], ?_⟩
      intro project now db rest
      simp only [accept, present, acceptStatement, envelope, document, bind, Except.bind]
    | ok value =>
      by_cases small : record.seq < 2 ^ 63
      · have other : value.isObject = false := by
          rw [Bool.eq_false_iff]
          intro object
          exact refused ⟨⟨record.tenantId, record.deviceId, int64 record.seq, id, record.kind, value⟩,
            ⟨payload, present, document⟩, envelope, object, small, rfl, rfl, rfl, rfl⟩
        have positive : ¬ (int64 record.seq).value < 1 := by
          rw [int64_small small]
          have := sequenced.positive
          omega
        refine ⟨⟨"22023", "ingress payload must be a JSON object"⟩, by decide, ?_, ?_⟩
        · have plain : misread ⟨"22023", "ingress payload must be a JSON object"⟩ = false := by
            decide
          simp [plain, readable]
        · intro project now db rest
          simp only [accept, present, acceptStatement, envelope, document, bind, Except.bind,
            acceptIngress, acceptGuards, ne_eq, not_true_eq_false, if_false, positive,
            sequenced.kind, other, Bool.false_eq_true, not_false_eq_true, if_true]
      · refine ⟨⟨"22023", "ingress seq must be >= 1"⟩, by decide, ?_, ?_⟩
        · have plain : misread ⟨"22023", "ingress seq must be >= 1"⟩ = false := by decide
          simp [plain, readable]
        · intro project now db rest
          simp only [accept, present, acceptStatement, envelope, document, bind, Except.bind,
            acceptIngress, acceptGuards, ne_eq, not_true_eq_false, if_false,
            int64_large small sequenced.fits, if_true]

/-- The row the INSERT is about. -/
theorem Offered.key (offered : Offered order record args) :
    (args.row now).key = (record.deviceId, record.seq) := by
  obtain ⟨_, device, seq, _⟩ := offered.same
  simp only [AcceptArgs.row, IngressRow.key, device, seq, int64_toNat offered.small]

/-- What `Accept` does with a record that reaches the INSERT. -/
theorem accept_offered (offered : Offered order record args) :
    accept order project record now db rest =
      match acceptIngress project (some record.tenantId) args now db rest with
      | .error err => (db, rest, .error (mapSQLError err))
      | .ok (db', rest', status, row) =>
        (db', rest', (parseWindow row).map fun window => ⟨acceptStatus status, window⟩) := by
  obtain ⟨payload, present, document⟩ := offered.payload
  obtain ⟨tenant, device, seq, kind⟩ := offered.same
  have same : args = ⟨record.tenantId, record.deviceId, int64 record.seq, args.envelopeId,
      record.kind, args.payload⟩ := by
    rw [← tenant, ← device, ← seq, ← kind]
  simp only [accept, present, acceptStatement, offered.envelope, document, bind, Except.bind]
  rewrite [← same]
  cases acceptIngress project (some record.tenantId) args now db rest <;> rfl

theorem acceptGuards_offered (sequenced : Sequenced record) (offered : Offered order record args) :
    acceptGuards (some record.tenantId) args = .ok () := by
  obtain ⟨tenant, _, seq, kind⟩ := offered.same
  have positive : ¬ args.seq.value < 1 := by
    rw [seq, int64_small offered.small]
    have := sequenced.positive
    omega
  have known : args.kind ∈ sequencedKinds := by rw [kind]; exact sequenced.kind
  simp only [acceptGuards, tenant, ne_eq, not_true_eq_false, if_false, positive, known,
    offered.object]

theorem row_range (sequenced : Sequenced record) (offered : Offered order record args) :
    0 < (args.row now).seq ∧ (args.row now).seq ≤ bigintMax := by
  have seq : (args.row now).seq = record.seq :=
    congrArg Prod.snd (show (args.row now).key = (record.deviceId, record.seq) from offered.key)
  rw [seq]
  have := offered.small
  exact ⟨sequenced.positive, by unfold bigintMax; omega⟩

/-! ## At the INSERT -/

/-- The index of envelope ids and the device key let a new row in. -/
structure Insertable (db : IngressDb) (tenant device envelope : Uuid) : Prop where
  unused : ∀ other ∈ db.ingress, other.envelopeId ≠ envelope
  registered : ∃ row ∈ db.devices, row.id = device ∧ row.tenantId = tenant

theorem insertIngress_found {row existing : IngressRow} (range : 0 < row.seq ∧ row.seq ≤ bigintMax)
    (object : row.payload.isObject = true) (found : db.ingress.find row.key = some existing) :
    insertIngress db row = .ok (db, false) := by
  unfold insertIngress
  rw [dif_neg (not_not.mpr range), dif_neg (not_not.mpr object)]
  split
  · rfl
  · next absent => rw [found] at absent; cases absent

theorem insertIngress_barred {row : IngressRow} (range : 0 < row.seq ∧ row.seq ≤ bigintMax)
    (object : row.payload.isObject = true) (absent : db.ingress.find row.key = none)
    (barred : ¬ Insertable db row.tenantId row.deviceId row.envelopeId) :
    ∃ err, insertIngress db row = .error err ∧ err.isDataError = true ∧ misread err = false := by
  unfold insertIngress
  rw [dif_neg (not_not.mpr range), dif_neg (not_not.mpr object)]
  split
  · next existing found => rw [absent] at found; cases found
  · split
    · exact ⟨_, rfl, by decide, by decide +kernel⟩
    · next unused =>
      split
      · exact ⟨_, rfl, by decide, by decide +kernel⟩
      · next registered =>
        refine absurd ⟨fun other member same => unused ⟨other, member, same⟩, ?_⟩ barred
        exact not_not.mp registered

theorem insertIngress_new {row : IngressRow} (range : 0 < row.seq ∧ row.seq ≤ bigintMax)
    (object : row.payload.isObject = true) (absent : db.ingress.find row.key = none)
    (open_ : Insertable db row.tenantId row.deviceId row.envelopeId) :
    ∃ db', insertIngress db row = .ok (db', true) ∧ db'.devices = db.devices ∧
      db'.pruned = db.pruned ∧ ∀ other, other ∈ db'.ingress ↔ other ∈ db.ingress ∨ other = row := by
  cases outcome : insertIngress db row with
  | error err =>
    unfold insertIngress at outcome
    rw [dif_neg (not_not.mpr range), dif_neg (not_not.mpr object)] at outcome
    split at outcome
    · cases outcome
    · split at outcome
      · next taken =>
        obtain ⟨other, member, same⟩ := taken
        exact absurd same (open_.unused other member)
      · split at outcome
        · next stranger => exact absurd open_.registered stranger
        · cases outcome
  | ok result =>
    obtain ⟨db', inserted⟩ := result
    rcases insertIngress_cases outcome with ⟨_, _, existing, found⟩ | ⟨rfl, _, members, devices, marks⟩
    · rw [absent] at found
      cases found
    · exact ⟨db', rfl, devices, marks, members⟩

/-! ## The answers -/

section Answers

variable (sequenced : Sequenced record) (offered : Offered order record args)
include sequenced offered

/-- Where the sequence is taken, the insert adds nothing and its row is read again. -/
theorem found_again {existing : IngressRow} (found : db.ingress.find (record.deviceId, record.seq) = some existing) :
    (∀ now, insertIngress db (args.row now) = .ok (db, false)) ∧
      db.ingress.find (args.deviceId, args.seq.value.toNat) = some existing := by
  obtain ⟨_, device, seq, _⟩ := offered.same
  constructor
  · intro now
    exact insertIngress_found (row_range sequenced offered) offered.object (by rw [offered.key]; exact found)
  · rw [device, seq, int64_toNat offered.small]
    exact found

/-- The row at the sequence says the same. -/
theorem accept_duplicate {existing : IngressRow}
    (found : db.ingress.find (record.deviceId, record.seq) = some existing)
    (agrees : sameRecord (some record.tenantId) args existing = true) :
    accept order project record now db rest =
      (db, rest, .ok ⟨.duplicate, readWindow db record.tenantId record.deviceId⟩) := by
  obtain ⟨untouched, again⟩ := found_again sequenced offered found
  obtain ⟨tenant, device, _, _⟩ := offered.same
  rw [accept_offered offered]
  simp only [acceptIngress, acceptGuards_offered sequenced offered, untouched now, bind, Except.bind,
    Bool.false_eq_true, if_false, again, agrees, if_true]
  simp only [ingressWindow, tenant, device, ne_eq, not_true_eq_false, if_false, pure, Except.pure,
    parseWindow_window]
  rfl

/-- The row at the sequence says something else. -/
theorem accept_conflict {existing : IngressRow}
    (found : db.ingress.find (record.deviceId, record.seq) = some existing)
    (differs : sameRecord (some record.tenantId) args existing = false) :
    ∃ text, accept order project record now db rest = (db, rest, .error (.conflict text)) := by
  obtain ⟨untouched, again⟩ := found_again sequenced offered found
  refine ⟨"sequence conflict: " ++ (sequenceConflict args).text, ?_⟩
  rw [accept_offered offered]
  simp only [acceptIngress, acceptGuards_offered sequenced offered, untouched now, bind, Except.bind,
    Bool.false_eq_true, if_false, again, differs, mapSQLError_misread (sequenceConflict_misread args)]

/-- No row yet, and none may be added. -/
theorem accept_barred (absent : db.ingress.find (record.deviceId, record.seq) = none)
    (barred : ¬ Insertable db record.tenantId record.deviceId args.envelopeId) :
    ∃ text, accept order project record now db rest = (db, rest, .error (.malformed text)) := by
  obtain ⟨tenant, device, _, _⟩ := offered.same
  obtain ⟨err, failed, data, readable⟩ :=
    @insertIngress_barred db (args.row now) (row_range sequenced offered) offered.object
      (by rw [offered.key]; exact absent) (by simpa only [AcceptArgs.row, tenant, device] using barred)
  refine ⟨"record cannot be stored: " ++ err.text, ?_⟩
  rw [accept_offered offered]
  simp only [acceptIngress, acceptGuards_offered sequenced offered, failed, bind, Except.bind,
    mapSQLError_data readable data]

/-- A new row whose projection fails: both are rolled back. -/
theorem accept_unprojected {err : PgError}
    (absent : db.ingress.find (record.deviceId, record.seq) = none)
    (open_ : Insertable db record.tenantId record.deviceId args.envelopeId)
    (failed : projectInserted project (args.row now) rest = .error err) :
    accept order project record now db rest = (db, rest, .error (mapSQLError err)) := by
  obtain ⟨tenant, device, _, _⟩ := offered.same
  obtain ⟨db', inserted, _⟩ :=
    @insertIngress_new db (args.row now) (row_range sequenced offered) offered.object
      (by rw [offered.key]; exact absent) (by simpa only [AcceptArgs.row, tenant, device] using open_)
  rw [accept_offered offered]
  simp only [acceptIngress, acceptGuards_offered sequenced offered, inserted, bind, Except.bind,
    if_true, failed]

/-- A new row. -/
theorem accept_inserted {rest' : σ}
    (absent : db.ingress.find (record.deviceId, record.seq) = none)
    (open_ : Insertable db record.tenantId record.deviceId args.envelopeId)
    (projected : projectInserted project (args.row now) rest = .ok rest') :
    ∃ db', accept order project record now db rest =
        (db', rest', .ok ⟨.inserted, readWindow db' record.tenantId record.deviceId⟩) ∧
      db'.devices = db.devices ∧ db'.pruned = db.pruned ∧
      ∀ other, other ∈ db'.ingress ↔ other ∈ db.ingress ∨ other = args.row now := by
  obtain ⟨tenant, device, _, _⟩ := offered.same
  obtain ⟨db', inserted, devices, marks, members⟩ :=
    @insertIngress_new db (args.row now) (row_range sequenced offered) offered.object
      (by rw [offered.key]; exact absent) (by simpa only [AcceptArgs.row, tenant, device] using open_)
  refine ⟨db', ?_, devices, marks, members⟩
  rw [accept_offered offered]
  simp only [acceptIngress, acceptGuards_offered sequenced offered, inserted, bind, Except.bind,
    if_true, projected, ingressWindow, tenant, device, ne_eq, not_true_eq_false, if_false, pure,
    Except.pure, parseWindow_window]
  rfl

end Answers

end Accept

/-! ## Tombstones -/

section Tombstone

variable {record : SqlRecord} {reason recordedAt : String} {now : Timestamp} {db : IngressDb}

/-- The row a tombstone adds. -/
def tombstone (record : SqlRecord) (id : Uuid) (reason recordedAt : String) (now : Timestamp) :
    IngressRow :=
  ⟨record.deviceId, record.seq, record.tenantId, id, unstorableKind,
    tombstonePayload record.kind reason recordedAt, now⟩

/-- The database function with a sequence it admits. -/
theorem recordUnstorableIngress_eq {args : UnstorableArgs} (positive : ¬ args.seq.value ≤ 0) :
    recordUnstorableIngress (some args.tenantId) args now recordedAt db =
      (insertIngress db ⟨args.deviceId, args.seq.value.toNat, args.tenantId, args.envelopeId,
        unstorableKind, tombstonePayload args.kind (args.reason.getD "") recordedAt, now⟩).map
        fun done => (done.1, if done.2 then .inserted else .duplicate) := by
  unfold recordUnstorableIngress
  rw [if_neg positive, if_neg (not_not.mpr rfl)]
  cases insertIngress db ⟨args.deviceId, args.seq.value.toNat, args.tenantId, args.envelopeId,
    unstorableKind, tombstonePayload args.kind (args.reason.getD "") recordedAt, now⟩ <;> rfl

theorem recordUnstorableIngress_negative {args : UnstorableArgs} (negative : args.seq.value ≤ 0) :
    recordUnstorableIngress (some args.tenantId) args now recordedAt db =
      .error ⟨"22023", "ingress seq must be positive, got " ++ toString args.seq.value⟩ := by
  unfold recordUnstorableIngress
  exact if_pos negative

/-- A tombstone is the INSERT of one row, or nothing at all. -/
theorem recordUnstorable_journal (fits : record.seq < 2 ^ 64) :
    (∃ id, uuidIn record.envelopeId = .ok id ∧ record.seq < 2 ^ 63 ∧ 0 < record.seq ∧
      (recordUnstorable record reason now recordedAt db).1 =
        match insertIngress db (tombstone record id reason recordedAt now) with
        | .ok (db', _) => db'
        | .error _ => db) ∨
    ((¬ ∃ id, uuidIn record.envelopeId = .ok id ∧ record.seq < 2 ^ 63 ∧ 0 < record.seq) ∧
      (recordUnstorable record reason now recordedAt db).1 = db) := by
  unfold recordUnstorable
  -- `int64` must not be evaluated: its bounds are large literals
  have small_value := @int64_small record.seq
  have large_value := fun large => @int64_large record.seq large fits
  generalize int64 record.seq = seq at small_value large_value ⊢
  cases envelope : uuidIn record.envelopeId with
  | error err =>
    refine Or.inr ⟨?_, ?_⟩
    · rintro ⟨id, impossible, _⟩
      cases impossible
    · split <;> rfl
  | ok id =>
    have named : record.envelopeId ≠ "" := by
      intro empty
      rw [empty] at envelope
      cases envelope
    rw [if_neg named]
    by_cases admitted : record.seq < 2 ^ 63 ∧ 0 < record.seq
    · obtain ⟨small, above⟩ := admitted
      refine Or.inl ⟨id, rfl, small, above, ?_⟩
      have value := small_value small
      have positive : ¬ seq.value ≤ 0 := by omega
      have body := @recordUnstorableIngress_eq recordedAt now db
        ⟨record.tenantId, record.deviceId, seq, id, record.kind, some reason⟩ positive
      simp only [value, Int.toNat_natCast, Option.getD_some] at body
      rw [ok_bind, body]
      unfold tombstone
      cases insertIngress db ⟨record.deviceId, record.seq, record.tenantId, id, unstorableKind,
        tombstonePayload record.kind reason recordedAt, now⟩ <;> rfl
    · refine Or.inr ⟨fun ⟨_, _, small, above⟩ => admitted ⟨small, above⟩, ?_⟩
      have negative : seq.value ≤ 0 := by
        by_cases small : record.seq < 2 ^ 63
        · have := small_value small
          omega
        · have := large_value small
          omega
      have body := @recordUnstorableIngress_negative recordedAt now db
        ⟨record.tenantId, record.deviceId, seq, id, record.kind, some reason⟩ negative
      rw [ok_bind, body]

theorem tombstone_range (id : Uuid) (small : record.seq < 2 ^ 63) (above : 0 < record.seq) :
    0 < (tombstone record id reason recordedAt now).seq ∧
      (tombstone record id reason recordedAt now).seq ≤ bigintMax := by
  unfold tombstone bigintMax
  exact ⟨above, by dsimp only; omega⟩

/-- The sequence is taken: the tombstone resolves to nothing. -/
theorem recordUnstorable_found {existing : IngressRow} (fits : record.seq < 2 ^ 64)
    (found : db.ingress.find (record.deviceId, record.seq) = some existing) :
    (recordUnstorable record reason now recordedAt db).1 = db := by
  rcases recordUnstorable_journal fits with ⟨id, _, small, above, written⟩ | ⟨_, same⟩
  · rw [written, insertIngress_found (tombstone_range id small above) rfl found]
  · exact same

/-- The sequence is filled. -/
theorem recordUnstorable_new {id : Uuid} (fits : record.seq < 2 ^ 64)
    (envelope : uuidIn record.envelopeId = .ok id) (small : record.seq < 2 ^ 63)
    (above : 0 < record.seq) (absent : db.ingress.find (record.deviceId, record.seq) = none)
    (open_ : Insertable db record.tenantId record.deviceId id) :
    ∀ other, other ∈ (recordUnstorable record reason now recordedAt db).1.ingress ↔
      other ∈ db.ingress ∨ other = tombstone record id reason recordedAt now := by
  rcases recordUnstorable_journal fits with ⟨id', envelope', _, _, written⟩ | ⟨refused, _⟩
  · rw [envelope] at envelope'
    cases envelope'
    obtain ⟨db', inserted, _, _, members⟩ := @insertIngress_new db
      (tombstone record id reason recordedAt now) (tombstone_range id small above) rfl absent open_
    rw [written, inserted]
    exact members
  · exact absurd ⟨id, envelope, small, above⟩ refused

/-- Nothing is written where the id is not a uuid, the sequence is no bigint or
the row is kept out. -/
theorem recordUnstorable_barred (fits : record.seq < 2 ^ 64)
    (absent : db.ingress.find (record.deviceId, record.seq) = none)
    (barred : ¬ ∃ id, uuidIn record.envelopeId = .ok id ∧ record.seq < 2 ^ 63 ∧
      Insertable db record.tenantId record.deviceId id) :
    (recordUnstorable record reason now recordedAt db).1 = db := by
  rcases recordUnstorable_journal fits with ⟨id, envelope, small, above, written⟩ | ⟨_, same⟩
  · obtain ⟨err, failed, _⟩ := @insertIngress_barred db
      (tombstone record id reason recordedAt now) (tombstone_range id small above) rfl absent
      (fun open_ => barred ⟨id, envelope, small, open_⟩)
    rw [written, failed]
  · exact same

end Tombstone

end VodogeCloud.Guarantees.IngressAnswers
