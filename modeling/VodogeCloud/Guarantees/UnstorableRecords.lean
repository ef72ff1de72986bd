import VodogeCloud.Guarantees.IngressRetention
import VodogeCloud.Guarantees.SessionTurns

/-!
# Records the journal refuses

A record `SQLStore.Accept` refuses as malformed is replaced by a tombstone, so
that the prefix can go past it. Two things are settled here: for which refused
records the session goes on and the sequence ends up filled, and what happens
when the device offers a tombstoned record again.
-/

set_option autoImplicit false

namespace VodogeCloud.Guarantees.UnstorableRecords

open VodogeCloud.Lib VodogeCloud.Lib.Transactions
open VodogeCloud.Source.Postgres VodogeCloud.Source.IngressWindow VodogeCloud.Source.IngressWrites
open VodogeCloud.Source.IngressStore VodogeCloud.Source.ServeDevice
open VodogeCloud.Source.MemoryJournal (StoreError Status Window Result)
open VodogeCloud.Source.NulScrub (MapOrder)
open VodogeCloud.Guarantees.IngressAnswers VodogeCloud.Guarantees.SessionTurns
open VodogeCloud.Guarantees.IngressRetention (run_keeps)

variable {σ : Type}

/-- What a projection raises is a value or a constraint PostgreSQL rejects. -/
def RaisesDataErrors (project : σ → IngressRow → Except PgError σ) : Prop :=
  ∀ rest row err, project rest row = .error err → err.isDataError = true

theorem projectInserted_data {project : σ → IngressRow → Except PgError σ}
    (raises : RaisesDataErrors project) {row : IngressRow} {rest : σ} {err : PgError}
    (h : projectInserted project row rest = .error err) : err.isDataError = true := by
  unfold projectInserted at h
  split at h
  · exact raises rest row err h
  · cases h

theorem Offered.unique {order : MapOrder Number} {record : SqlRecord} {a b : AcceptArgs}
    (first : Offered order record a) (second : Offered order record b) : a = b := by
  obtain ⟨payload, present, document⟩ := first.payload
  obtain ⟨payload', present', document'⟩ := second.payload
  rw [present] at present'
  cases present'
  have payloads : a.payload = b.payload := Except.ok.inj (document.symm.trans document')
  have envelopes : a.envelopeId = b.envelopeId :=
    Except.ok.inj (first.envelope.symm.trans second.envelope)
  obtain ⟨tenant, device, seq, kind⟩ := first.same
  obtain ⟨tenant', device', seq', kind'⟩ := second.same
  cases a
  cases b
  simp_all

theorem mapSQLError_malformed {err : PgError} {text : String}
    (h : mapSQLError err = .malformed text) : misread err = false := by
  cases found : misread err with
  | false => rfl
  | true =>
    rw [mapSQLError_misread found] at h
    cases h

section OneBadRecord

variable {env : Environment σ} {session : Session} {envelope : Envelope} {gateway : Gateway σ}
  {seq : Nat}

/-- There is a row at this sequence of the device. -/
def Filled (journal : IngressDb) (device : Uuid) (seq : Nat) : Prop :=
  ∃ row ∈ journal.ingress, row.deviceId = device ∧ row.seq = seq

theorem filled_iff {journal : IngressDb} {device : Uuid} {seq : Nat} :
    Filled journal device seq ↔ ∃ existing, journal.ingress.find (device, seq) = some existing := by
  constructor
  · rintro ⟨row, member, rfl, rfl⟩
    exact ⟨row, Table.find_eq_some_iff.mpr ⟨member, rfl⟩⟩
  · rintro ⟨row, found⟩
    obtain ⟨member, key⟩ := Table.find_eq_some_iff.mp found
    exact ⟨row, member, congrArg Prod.fst key, congrArg Prod.snd key⟩

theorem not_filled {journal : IngressDb} {device : Uuid} {seq : Nat}
    (absent : journal.ingress.find (device, seq) = none) : ¬ Filled journal device seq := by
  intro filled
  obtain ⟨existing, found⟩ := filled_iff.mp filled
  rw [absent] at found
  cases found

/-- The refused records that cost only themselves. A row at the sequence is a
conflict for everything that reaches the INSERT. Where there is none, the
tombstone has to pass the same types, index and key as the record. -/
def Expendable (env : Environment σ) (record : SqlRecord) (journal : IngressDb) (rest : σ) : Prop :=
  record.payload.isSome = true ∧
    ((Filled journal record.deviceId record.seq ∧ (¬ ∃ args, Offered env.order record args) ∧
        ¬ Misread record) ∨
      (¬ Filled journal record.deviceId record.seq ∧ record.seq < 2 ^ 63 ∧
        (∃ id, uuidIn record.envelopeId = .ok id ∧
          Insertable journal record.tenantId record.deviceId id) ∧
        ∀ args err, Offered env.order record args →
          projectInserted env.project (args.row env.database) rest = .error err →
          misread err = false))

theorem Insertable.uuid {order : MapOrder Number} {record : SqlRecord} {journal : IngressDb} {args : AcceptArgs}
    (offered : Offered order record args)
    (h : ∃ id, uuidIn record.envelopeId = .ok id ∧
      Insertable journal record.tenantId record.deviceId id) :
    Insertable journal record.tenantId record.deviceId args.envelopeId := by
  obtain ⟨id, envelope, open_⟩ := h
  rw [offered.envelope] at envelope
  cases envelope
  exact open_

/-- The sequence is filled, or the tombstone of the record can fill it. -/
def Buriable (record : SqlRecord) (journal : IngressDb) : Prop :=
  Filled journal record.deviceId record.seq ∨
    (record.seq < 2 ^ 63 ∧ ∃ id, uuidIn record.envelopeId = .ok id ∧
      Insertable journal record.tenantId record.deviceId id)

/-- Whether the tombstone of a refused record fills an empty sequence. -/
theorem filled_buried {record : SqlRecord} {journal : IngressDb} {reason : String}
    (sequenced : Sequenced record) :
    Filled (buried env record reason journal) record.deviceId record.seq ↔ Buriable record journal := by
  cases found : journal.ingress.find (record.deviceId, record.seq) with
  | some existing =>
    have same : buried env record reason journal = journal :=
      @recordUnstorable_found { record with payload := none } _ _ _ _ _ sequenced.fits found
    rw [same]
    exact ⟨Or.inl, fun _ => filled_iff.mpr ⟨existing, found⟩⟩
  | none =>
    by_cases open_ : ∃ id, uuidIn record.envelopeId = .ok id ∧ record.seq < 2 ^ 63 ∧
        Insertable journal record.tenantId record.deviceId id
    · obtain ⟨id, envelope, small, insertable⟩ := open_
      have members := @recordUnstorable_new { record with payload := none } reason env.recordedAt
        env.database journal id sequenced.fits envelope small sequenced.positive found insertable
      refine ⟨fun _ => Or.inr ⟨small, id, envelope, insertable⟩, fun _ => ?_⟩
      exact ⟨_, (members _).mpr (Or.inr rfl), rfl, rfl⟩
    · have same : buried env record reason journal = journal :=
        @recordUnstorable_barred { record with payload := none } _ _ _ _ sequenced.fits found open_
      rw [same]
      refine ⟨Or.inl, ?_⟩
      rintro (filled | ⟨small, id, envelope, insertable⟩)
      · exact filled
      · exact absurd ⟨id, envelope, small, insertable⟩ open_

/-- What a malformed answer leads to. -/
theorem serveRecord_buried (writes : ∀ frame, env.write frame = true)
    (frame : SequencedFrame envelope seq) {journal : IngressDb} {rest : σ} {text : String}
    (answer : accept env.order env.project (recordOf session.device envelope seq) env.database
      gateway.cloud.journal gateway.cloud.rest = (journal, rest, .error (.malformed text))) :
    Alive (serveRecord env session envelope gateway) ∧
      (serveRecord env session envelope gateway).gateway.cloud.journal =
        buried env (recordOf session.device envelope seq) text gateway.cloud.journal ∧
      (serveRecord env session envelope gateway).sent =
        [.uplinkAck session.connectionId
          (readWindow (serveRecord env session envelope gateway).gateway.cloud.journal
            session.device.tenantId session.device.deviceId)] := by
  rw [serveRecord_malformed frame answer, serveUnstorable_writes writes]
  exact ⟨alive_goOn, rfl, rfl⟩

section Refusals

variable {record : SqlRecord} {journal : IngressDb} {rest : σ}

/-- `Accept` refuses the record, and the refusal can be buried exactly when the record is
expendable. -/
def Refuses (env : Environment σ) (record : SqlRecord) (journal : IngressDb) (rest : σ) : Prop :=
  ∃ journal' rest' err,
    accept env.order env.project record env.database journal rest = (journal', rest', .error err) ∧
    ((∃ text, err = .malformed text) ∧ Buriable record journal ↔ Expendable env record journal rest)

/-- Nothing to insert: the document is no JSON. -/
theorem refuses_absent (absent : record.payload = none) : Refuses env record journal rest := by
  refine ⟨journal, rest, .invalidRecord "invalid ingress record: payload is not JSON", ?_, ?_⟩
  · simp only [accept, absent]
  · constructor
    · rintro ⟨⟨text, same⟩, _⟩
      cases same
    · rintro ⟨present, _⟩
      rw [absent] at present
      cases present

/-- Another record is at the sequence. -/
theorem refuses_conflict {args : AcceptArgs} {existing : IngressRow} (sequenced : Sequenced record)
    (offered : Offered env.order record args)
    (found : journal.ingress.find (record.deviceId, record.seq) = some existing)
    (differs : sameRecord (some record.tenantId) args existing = false) :
    Refuses env record journal rest := by
  obtain ⟨text, answer⟩ := accept_conflict sequenced offered found differs
  refine ⟨_, _, _, answer, ?_⟩
  constructor
  · rintro ⟨⟨text, same⟩, _⟩
    cases same
  · rintro ⟨_, ⟨_, shapeless, _⟩ | ⟨empty, _⟩⟩
    · exact absurd ⟨args, offered⟩ shapeless
    · exact absurd (filled_iff.mpr ⟨existing, found⟩) empty

/-- The sequence is free, and its projection refuses the row. -/
theorem refuses_unprojected {args : AcceptArgs} {err : PgError} (raises : RaisesDataErrors env.project)
    (present : record.payload.isSome = true) (sequenced : Sequenced record)
    (offered : Offered env.order record args)
    (found : journal.ingress.find (record.deviceId, record.seq) = none)
    (open_ : Insertable journal record.tenantId record.deviceId args.envelopeId)
    (projected : projectInserted env.project (args.row env.database) rest = .error err) :
    Refuses env record journal rest := by
  have empty := not_filled found
  have answer := accept_unprojected sequenced offered found open_ projected
  cases text : misread err with
  | true =>
    rw [mapSQLError_misread text] at answer
    refine ⟨_, _, _, answer, ?_⟩
    constructor
    · rintro ⟨⟨text, same⟩, _⟩
      cases same
    · rintro ⟨_, ⟨filled, _⟩ | ⟨_, _, _, readable⟩⟩
      · exact absurd filled empty
      · rw [readable args err offered projected] at text
        cases text
  | false =>
    rw [mapSQLError_data text (projectInserted_data raises projected)] at answer
    refine ⟨_, _, _, answer, ?_⟩
    constructor
    · rintro ⟨_, filled | ⟨small, insertable⟩⟩
      · exact absurd filled empty
      · refine ⟨present, Or.inr ⟨empty, small, insertable, ?_⟩⟩
        intro args' err' offered' projected'
        rw [← Offered.unique offered offered', projected] at projected'
        cases projected'
        exact text
    · rintro ⟨_, ⟨filled, _⟩ | ⟨_, small, insertable, _⟩⟩
      · exact absurd filled empty
      · exact ⟨⟨_, rfl⟩, Or.inr ⟨small, insertable⟩⟩

/-- The sequence is free, and the index or the key bars the row. -/
theorem refuses_barred {args : AcceptArgs} (sequenced : Sequenced record) (offered : Offered env.order record args)
    (found : journal.ingress.find (record.deviceId, record.seq) = none)
    (barred : ¬ Insertable journal record.tenantId record.deviceId args.envelopeId) :
    Refuses env record journal rest := by
  have empty := not_filled found
  obtain ⟨text, answer⟩ := accept_barred sequenced offered found barred
  refine ⟨_, _, _, answer, ?_⟩
  constructor
  · rintro ⟨_, filled | ⟨_, insertable⟩⟩
    · exact absurd filled empty
    · exact absurd (Insertable.uuid offered insertable) barred
  · rintro ⟨_, ⟨filled, _⟩ | ⟨_, _, insertable, _⟩⟩
    · exact absurd filled empty
    · exact absurd (Insertable.uuid offered insertable) barred

/-- The statement never gets its arguments. -/
theorem refuses_shapeless (present : record.payload.isSome = true) (sequenced : Sequenced record)
    (shapeless : ¬ ∃ args, Offered env.order record args) : Refuses env record journal rest := by
  obtain ⟨payload, same⟩ := Option.isSome_iff_exists.mp present
  obtain ⟨err, data, text, answer⟩ := accept_refused sequenced shapeless same
  have answer := answer env.project env.database journal rest
  by_cases wrong : Misread record
  · rw [mapSQLError_misread (text.mpr wrong)] at answer
    refine ⟨_, _, _, answer, ?_⟩
    constructor
    · rintro ⟨⟨text, same⟩, _⟩
      cases same
    · rintro ⟨_, ⟨_, _, readable⟩ | ⟨_, _, ⟨id, envelope, _⟩, _⟩⟩
      · exact absurd wrong readable
      · obtain ⟨other, failed, _⟩ := wrong
        rw [envelope] at failed
        cases failed
  · have readable : misread err = false := by
      rw [Bool.eq_false_iff]
      exact fun h => wrong (text.mp h)
    rw [mapSQLError_data readable data] at answer
    refine ⟨_, _, _, answer, ?_⟩
    constructor
    · rintro ⟨_, buriable⟩
      refine ⟨present, ?_⟩
      by_cases filled : Filled journal record.deviceId record.seq
      · exact Or.inl ⟨filled, shapeless, wrong⟩
      · obtain ⟨small, insertable⟩ := buriable.resolve_left filled
        exact Or.inr ⟨filled, small, insertable,
          fun args _ offered _ => absurd ⟨args, offered⟩ shapeless⟩
    · rintro ⟨_, ⟨filled, _⟩ | ⟨_, small, insertable, _⟩⟩
      · exact ⟨⟨_, rfl⟩, Or.inl filled⟩
      · exact ⟨⟨_, rfl⟩, Or.inr ⟨small, insertable⟩⟩

/-- Every refusal is one of these. -/
theorem refuses_of_not_ok (raises : RaisesDataErrors env.project) (sequenced : Sequenced record)
    (refused : ∀ result, (accept env.order env.project record env.database journal rest).2.2 ≠ .ok result) :
    Refuses env record journal rest := by
  have stored : ∀ {journal' : IngressDb} {rest' : σ} {result : Result},
      accept env.order env.project record env.database journal rest = (journal', rest', .ok result) → False :=
    fun answer => refused _ (by rw [answer])
  by_cases present : record.payload.isSome = true
  · by_cases shaped : ∃ args, Offered env.order record args
    · obtain ⟨args, offered⟩ := shaped
      cases found : journal.ingress.find (record.deviceId, record.seq) with
      | some existing =>
        cases same : sameRecord (some record.tenantId) args existing with
        | true => exact (stored (accept_duplicate sequenced offered found same)).elim
        | false => exact refuses_conflict sequenced offered found same
      | none =>
        by_cases open_ : Insertable journal record.tenantId record.deviceId args.envelopeId
        · cases projected : projectInserted env.project (args.row env.database) rest with
          | ok rest' =>
            obtain ⟨db', answer, _⟩ := accept_inserted sequenced offered found open_ projected
            exact (stored answer).elim
          | error err => exact refuses_unprojected raises present sequenced offered found open_ projected
        · exact refuses_barred sequenced offered found open_
    · exact refuses_shapeless present sequenced shaped
  · exact refuses_absent (Option.not_isSome_iff_eq_none.mp present)

end Refusals

/-- The sequenced case on a refused record. -/
theorem serveRecord_expendable (raises : RaisesDataErrors env.project)
    (writes : ∀ frame, env.write frame = true) (frame : SequencedFrame envelope seq)
    (refused : ∀ result, (accept env.order env.project (recordOf session.device envelope seq) env.database
      gateway.cloud.journal gateway.cloud.rest).2.2 ≠ .ok result) :
    (Alive (serveRecord env session envelope gateway) ∧
      Filled (serveRecord env session envelope gateway).gateway.cloud.journal
        session.device.deviceId seq) ↔
      Expendable env (recordOf session.device envelope seq) gateway.cloud.journal
        gateway.cloud.rest := by
  have sequenced := frame.sequenced session.device
  obtain ⟨journal, rest, err, answer, expendable⟩ := refuses_of_not_ok raises sequenced refused
  rw [← expendable]
  by_cases malformed : ∃ text, err = .malformed text
  · obtain ⟨text, rfl⟩ := malformed
    obtain ⟨alive, journals, _⟩ := serveRecord_buried writes frame answer
    rw [journals]
    refine (and_congr (iff_of_true alive ⟨text, rfl⟩) ?_)
    exact filled_buried sequenced
  · rw [serveRecord_refused frame answer fun text same => malformed ⟨text, same⟩]
    exact iff_of_false (fun h => not_alive_stop h.1) fun h => malformed h.1

/-- For every sequenced frame of a bound session whose record `Accept` refuses:
the session goes on and the sequence is filled exactly when the record is
expendable. -/
theorem refused_record_costs_itself {frame : Frame} (raises : RaisesDataErrors env.project)
    (read : readEnvelope frame = .ok envelope) (sequenced : SequencedFrame envelope seq)
    (live : Live env session envelope gateway)
    (refused : ∀ result, (accept env.order env.project (recordOf session.device envelope seq) env.database
      gateway.cloud.journal gateway.cloud.rest).2.2 ≠ .ok result) :
    (Alive (serveFrame env session frame gateway) ∧
      Filled (serveFrame env session frame gateway).gateway.cloud.journal
        session.device.deviceId seq) ↔
      Expendable env (recordOf session.device envelope seq) gateway.cloud.journal
        gateway.cloud.rest := by
  obtain ⟨hub, sent, turn⟩ := serveFrame_record read sequenced live
  rw [turn, alive_after, after_gateway]
  have body := @serveRecord_expendable _ env (checkedPending env session) envelope
    ({ gateway with hub := hub }.withCommands (commandsSeen env session gateway)) seq raises
    live.writes sequenced (by rw [checkedPending_device]; exact refused)
  rw [checkedPending_device] at body
  exact body

end OneBadRecord

/-! ## A payload that is no object -/

def envelopeId : String := "00000000-0000-4000-8000-000000000001"

def listFrame : Frame :=
  sampleFrame "Alert" envelopeId [(chars "seq", .str (chars "1"))] (.arr [])

def listEnvelope : Envelope :=
  ⟨1, "Alert", envelopeId, 0, sampleName, some "1", none, some (.arr [])⟩

theorem list_refused : (accept .forwards (fun (rest : Unit) _ => .ok rest) (recordOf sampleDevice listEnvelope 1) 0
    sampleJournal ()).2.2 = .error (.malformed
      "record cannot be stored: ERROR: ingress payload must be a JSON object (SQLSTATE 22023)") := by
  decide

/-- It is refused, and costs only itself. -/
theorem list_record_costs_itself :
    Alive (serveFrame (sampleEnvironment (fun rest _ => .ok rest)) sampleSession listFrame
        (sampleGateway () .empty)) ∧
      Filled (serveFrame (sampleEnvironment (fun rest _ => .ok rest)) sampleSession listFrame
        (sampleGateway () .empty)).gateway.cloud.journal 7 1 := by
  refine (@refused_record_costs_itself Unit (sampleEnvironment (fun rest _ => .ok rest))
    sampleSession listEnvelope (sampleGateway () .empty) 1 listFrame nofun rfl
    ⟨by decide, "1", rfl, by decide⟩ (live_sample rfl (by decide)) ?_).mpr ?_
  · exact fun result stored => by cases list_refused.symm.trans stored
  · refine ⟨rfl, Or.inr ⟨by unfold Filled; decide, by decide, ?_, ?_⟩⟩
    · exact ⟨0x00000000000040008000000000000001#128, by decide,
        ⟨by decide, by decide⟩⟩
    · intro args err offered
      obtain ⟨payload, present, document⟩ := offered.payload
      cases present
      have object := offered.object
      rw [jsonbIn_isObject document] at object
      cases object

/-! ## A record whose id is not a uuid -/

/-- A text message under an envelope id that is not a uuid. -/
def namelessFrame : Frame :=
  sampleFrame "SmsReceived" "msg-1" [(chars "seq", .str (chars "1"))] (.obj [])

def namelessEnvelope : Envelope :=
  ⟨1, "SmsReceived", "msg-1", 0, sampleName, some "1", none, some (.obj [])⟩

/-- No state stores it, and the tombstone needs the same uuid: the session goes
on and the sequence stays empty. -/
theorem nameless_record_stalls :
    readEnvelope namelessFrame = .ok namelessEnvelope ∧ parseSeq "1" = some 1 ∧
    (∀ (order : MapOrder Number) (project : Unit → IngressRow → Except PgError Unit) (now : Timestamp)
      (db : IngressDb) (rest : Unit) (result : Result),
      (accept order project (recordOf sampleDevice namelessEnvelope 1) now db rest).2.2 ≠ .ok result) ∧
    Live (sampleEnvironment (fun rest _ => .ok rest)) sampleSession namelessEnvelope
      (sampleGateway () .empty) ∧
    ¬ (Alive (serveFrame (sampleEnvironment (fun rest _ => .ok rest)) sampleSession namelessFrame
          (sampleGateway () .empty)) ∧
        Filled (serveFrame (sampleEnvironment (fun rest _ => .ok rest)) sampleSession namelessFrame
          (sampleGateway () .empty)).gateway.cloud.journal 7 1) := by
  refine ⟨rfl, by decide, ?_, (live_sample rfl (by decide)), ?_⟩
  · intro order project now db rest result
    have shape : uuidIn "msg-1" = .error ⟨"22P02", "invalid input syntax for type uuid: \"msg-1\""⟩ := by
      decide
    simp [accept, recordOf, namelessEnvelope, acceptStatement, shape, bind, Except.bind]
  · rintro ⟨_, filled⟩
    revert filled
    unfold Filled
    decide +kernel

/-! ## Offering a tombstoned record again -/

section Replay

variable {env later : Environment σ} {session other : Session} {envelope : Envelope}
  {gateway next : Gateway σ} {seq : Nat} {frame : Frame}

/-- The session goes on and its answer is an ack of the journal as it is. -/
def AnsweredAsIs (session : Session) (turn : Turn σ) : Prop :=
  Alive turn ∧
    .uplinkAck session.connectionId (readWindow turn.gateway.cloud.journal
      session.device.tenantId session.device.deviceId) ∈ turn.sent

/-- A record that was malformed once has no envelope id that is taken for a conflict. -/
theorem readable_of_malformed {record : SqlRecord} (sequenced : Sequenced record) {db db' : IngressDb}
    {rest rest' : σ} {text : String}
    (malformed : accept env.order env.project record env.database db rest = (db', rest', .error (.malformed text))) :
    ¬ Misread record := by
  intro wrong
  have shapeless : ¬ ∃ args, Offered env.order record args := by
    rintro ⟨args, offered⟩
    obtain ⟨err, failed, _⟩ := wrong
    cases failed.symm.trans offered.envelope
  cases present : record.payload with
  | none =>
    simp only [accept, present] at malformed
    cases malformed
  | some payload =>
    obtain ⟨other, _, text, answer⟩ := accept_refused sequenced shapeless present
    rw [answer env.project env.database db rest] at malformed
    have readable := mapSQLError_malformed (Except.error.inj (congrArg (·.2.2) malformed))
    cases readable.symm.trans (text.mpr wrong)

/-- Where the maps of the replay are walked so that the record is stopped before the INSERT, it
is malformed again. -/
theorem replay_refused_again (sequenced : SequencedFrame envelope seq)
    (writes : ∀ frame, later.write frame = true) {journal : IngressDb} {rest : σ} {text : String}
    (malformed : accept env.order env.project (recordOf session.device envelope seq) env.database
      gateway.cloud.journal gateway.cloud.rest = (journal, rest, .error (.malformed text)))
    (shapeless : ¬ ∃ args, Offered later.order (recordOf session.device envelope seq) args)
    (device : other.device = session.device) :
    AnsweredAsIs other (serveRecord later other envelope next) := by
  have record := sequenced.sequenced session.device
  have readable := readable_of_malformed record malformed
  cases present : (recordOf session.device envelope seq).payload with
  | none =>
    simp only [accept, present] at malformed
    cases malformed
  | some payload =>
    obtain ⟨err, data, text, answer⟩ := accept_refused record shapeless present
    have again := answer later.project later.database next.cloud.journal next.cloud.rest
    have plain : misread err = false := by
      rw [Bool.eq_false_iff]
      exact fun wrong => readable (text.mp wrong)
    rw [mapSQLError_data plain data, ← device] at again
    obtain ⟨alive, _, sent⟩ := serveRecord_buried writes sequenced again
    exact ⟨alive, by rw [sent]; exact List.mem_singleton.mpr rfl⟩

/-- A tombstone differs from every record the loop can offer. -/
theorem tombstone_differs {order : MapOrder Number} {record : SqlRecord} {args : AcceptArgs} {row : IngressRow}
    (sequenced : Sequenced record) (offered : Offered order record args) (dead : row.kind = unstorableKind) :
    sameRecord (some record.tenantId) args row = false := by
  have kind : row.kind ≠ args.kind := by
    rw [dead, offered.same.2.2.2]
    intro same
    have known := sequenced.kind
    rw [← same] at known
    revert known
    decide
  simp [sameRecord, kind]

/-- Where it reaches the INSERT, the tombstone at its sequence is a conflict. -/
theorem replay_conflicts (sequenced : SequencedFrame envelope seq) {row : IngressRow}
    (member : row ∈ next.cloud.journal.ingress) (key : row.key = (other.device.deviceId, seq))
    (dead : row.kind = unstorableKind)
    (offered : ∃ args, Offered later.order (recordOf other.device envelope seq) args) :
    ∃ text, serveRecord later other envelope next = stop other next [] (.store (.conflict text)) := by
  obtain ⟨args, offered⟩ := offered
  have record := sequenced.sequenced other.device
  have found : next.cloud.journal.ingress.find (other.device.deviceId, seq) = some row :=
    Table.find_eq_some_iff.mpr ⟨member, key⟩
  obtain ⟨text, answer⟩ := accept_conflict record offered found
    (tombstone_differs record offered dead)
  exact ⟨text, serveRecord_refused sequenced answer nofun⟩

/-- A record refused as malformed and tombstoned, then any run of the journal,
then the same frame on any session of the device: it is answered with the journal
as it is exactly when its own shape, the maps walked as in that replay, stops it
before the INSERT. -/
theorem tombstoned_record_replay (read : readEnvelope frame = .ok envelope)
    (sequenced : SequencedFrame envelope seq) {journal : IngressDb} {rest : σ} {text : String}
    (malformed : accept env.order env.project (recordOf session.device envelope seq) env.database
      gateway.cloud.journal gateway.cloud.rest = (journal, rest, .error (.malformed text)))
    {row : IngressRow}
    (member : row ∈ (serveFrame env session frame gateway).gateway.cloud.journal.ingress)
    (key : row.key = (session.device.deviceId, seq)) (dead : row.kind = unstorableKind)
    (project : σ → IngressRow → Except PgError σ)
    (minus : Timestamp → Interval → Except PgError Timestamp) (ops : List JournalOp)
    (reached : (next.cloud.journal, next.cloud.rest) =
      run (JournalOp.apply project minus)
        ((serveFrame env session frame gateway).gateway.cloud.journal,
          (serveFrame env session frame gateway).gateway.cloud.rest) ops)
    (device : other.device = session.device) (live : Live later other envelope next) :
    AnsweredAsIs other (serveFrame later other frame next) ↔
      ¬ ∃ args, Offered later.order (recordOf session.device envelope seq) args := by
  have kept : row ∈ next.cloud.journal.ingress := by
    have inside := run_keeps project minus
      ((serveFrame env session frame gateway).gateway.cloud.journal,
        (serveFrame env session frame gateway).gateway.cloud.rest) ops member
      (by rw [dead]; decide)
    rw [← reached] at inside
    exact inside
  obtain ⟨hub, sent, turn⟩ := serveFrame_record read sequenced live
  rw [turn]
  have sameDevice : (checkedPending later other).device = session.device := by
    rw [checkedPending_device, device]
  constructor
  · rintro ⟨alive, _⟩ offered
    rw [← sameDevice] at offered key
    obtain ⟨text, ended⟩ := @replay_conflicts _ later (checkedPending later other) envelope
      ({ next with hub := hub }.withCommands (commandsSeen later other next)) seq sequenced row kept
      key dead offered
    rw [ended, alive_after] at alive
    exact not_alive_stop alive
  · intro shapeless
    obtain ⟨alive, ack⟩ := @replay_refused_again _ env later session (checkedPending later other)
      envelope gateway ({ next with hub := hub }.withCommands (commandsSeen later other next)) seq
      sequenced live.writes journal rest text malformed shapeless sameDevice
    rw [checkedPending_connectionId, checkedPending_device] at ack
    exact ⟨alive, List.mem_append_right sent ack⟩

end Replay

/-- The list payload again: no object reaches the INSERT, so it is answered. -/
theorem list_record_replay :
    AnsweredAsIs sampleSession (serveFrame (sampleEnvironment (fun rest _ => .ok rest)) sampleSession
      listFrame (serveFrame (sampleEnvironment (fun rest _ => .ok rest)) sampleSession listFrame
        (sampleGateway () .empty)).gateway) := by
  refine (@tombstoned_record_replay Unit (sampleEnvironment (fun rest _ => .ok rest))
    (sampleEnvironment (fun rest _ => .ok rest)) sampleSession sampleSession listEnvelope
    (sampleGateway () .empty) _ 1 listFrame rfl ⟨by decide, "1", rfl, by decide⟩ sampleJournal ()
    "record cannot be stored: ERROR: ingress payload must be a JSON object (SQLSTATE 22023)" ?_
    ⟨7, 1, 5, 0x00000000000040008000000000000001#128, "Unstorable",
      tombstonePayload "Alert"
        "record cannot be stored: ERROR: ingress payload must be a JSON object (SQLSTATE 22023)" "",
      0⟩ ?_ rfl rfl (fun rest _ => .ok rest) (fun now _ => .ok now) [] rfl rfl
    (live_sample rfl (by decide +kernel))).mpr ?_
  · exact Prod.ext rfl (Prod.ext rfl list_refused)
  · rw [← Table.mem_rows]
    decide +kernel
  · rintro ⟨args, offered⟩
    obtain ⟨payload, present, document⟩ := offered.payload
    cases present
    have object := offered.object
    rw [jsonbIn_isObject document] at object
    cases object

/-! ## A record its projection refuses -/

/-- `COALESCE(NULLIF(p_payload ->> key, ''), 'unknown')` against a CHECK that lists
labels, 'unknown' among them; the text of any other JSON value is no label. -/
def labelled (payload : Jsonb) (key : String) (labels : List String) : Bool :=
  match payload.get key with
  | none => true
  | some .null => true
  | some (.str text) => text = "" || labels.contains text
  | some _ => false

/-- The SmsReceived branch as far as `messages_bearer_valid` and
`messages_encoding_valid` decide it. -/
def projectSms (rest : Unit) (row : IngressRow) : Except PgError Unit :=
  if row.kind ≠ "SmsReceived" then .ok rest
  else if labelled row.payload "bearer" ["cs", "ims", "nas", "unknown"] = false then
    .error ⟨"23514", "new row for relation \"messages\" violates check constraint \"messages_bearer_valid\""⟩
  else if labelled row.payload "encoding" ["gsm7", "ucs2", "8bit", "unknown"] = false then
    .error ⟨"23514", "new row for relation \"messages\" violates check constraint \"messages_encoding_valid\""⟩
  else .ok rest

/-- A text message whose bearer is one the table used to know. -/
def smsPayload : Json :=
  .obj [(chars "modem_imei", .str (chars "860000000000001")), (chars "peer", .str (chars "10086")),
    (chars "body", .str (chars "hi")), (chars "received_at", .num 1700000000000 none),
    (chars "bearer", .str (chars "sgs")), (chars "encoding", .str (chars "gsm7"))]

def smsFrame : Frame :=
  sampleFrame "SmsReceived" envelopeId [(chars "seq", .str (chars "1"))] smsPayload

def smsEnvelope : Envelope :=
  ⟨1, "SmsReceived", envelopeId, 0, sampleName, some "1", none, some smsPayload⟩

/-- The gateway after the message was offered once. -/
def smsRefused : Gateway Unit :=
  (serveFrame (sampleEnvironment projectSms) sampleSession smsFrame (sampleGateway () .empty)).gateway

/-- Refused as malformed, tombstoned, and offered again: the session ends with a
sequence conflict. -/
theorem tombstoned_sms_replay_conflicts :
    readEnvelope smsFrame = .ok smsEnvelope ∧
    (accept .forwards projectSms (recordOf sampleDevice smsEnvelope 1) 0 sampleJournal ()).2.2 =
      .error (.malformed "record cannot be stored: ERROR: new row for relation \"messages\" violates check constraint \"messages_bearer_valid\" (SQLSTATE 23514)") ∧
    (∃ row ∈ smsRefused.cloud.journal.ingress, row.key = (7, 1) ∧ row.kind = unstorableKind) ∧
    Live (sampleEnvironment projectSms) sampleSession smsEnvelope smsRefused ∧
    (serveFrame (sampleEnvironment projectSms) sampleSession smsFrame smsRefused).next =
      .error (.store (.conflict "sequence conflict: ERROR: sequence conflict for device 00000000-0000-0000-0000-000000000007 seq 1 (SQLSTATE 23P01)")) ∧
    ¬ AnsweredAsIs sampleSession
      (serveFrame (sampleEnvironment projectSms) sampleSession smsFrame smsRefused) := by
  have ended : (serveFrame (sampleEnvironment projectSms) sampleSession smsFrame smsRefused).next =
      .error (.store (.conflict "sequence conflict: ERROR: sequence conflict for device 00000000-0000-0000-0000-000000000007 seq 1 (SQLSTATE 23P01)")) := by
    decide +kernel
  refine ⟨rfl, by decide +kernel, by decide +kernel,
    (live_sample rfl (by decide +kernel)), ended, ?_⟩
  rintro ⟨⟨session, running⟩, _⟩
  rw [ended] at running
  cases running

end VodogeCloud.Guarantees.UnstorableRecords
