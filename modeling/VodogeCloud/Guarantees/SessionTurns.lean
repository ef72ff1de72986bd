import VodogeCloud.Guarantees.IngressAnswers

/-!
# One turn of a bound session

What the loop body does with an envelope once the checks before the switch are
passed: the pending read only touches the command tables, and the sequenced case
is decided by the answer of the journal.
-/

set_option autoImplicit false

namespace VodogeCloud.Guarantees.SessionTurns

open VodogeCloud.Lib
open VodogeCloud.Source.Postgres VodogeCloud.Source.IngressWindow VodogeCloud.Source.IngressStore
open VodogeCloud.Source.IngressWrites (sequencedKinds)
open VodogeCloud.Source.ServeDevice VodogeCloud.Source.PendingCommands
open VodogeCloud.Source.MemoryJournal (StoreError Status Window Result)
open VodogeCloud.Guarantees.IngressAnswers

variable {σ : Type} {env : Environment σ} {session : Session} {envelope : Envelope}
  {gateway : Gateway σ}

/-- `ServeDevice` did not return. -/
def Alive (turn : Turn σ) : Prop := ∃ next, turn.next = .ok next

theorem alive_goOn {sent : List Reply} : Alive (goOn session gateway sent) := ⟨session, rfl⟩

theorem not_alive_stop {sent : List Reply} {err : ServeError} :
    ¬ Alive (stop session gateway sent err) := by
  rintro ⟨next, running⟩
  cases running

@[simp] theorem alive_after {turn : Turn σ} {sent : List Reply} :
    Alive (turn.after sent) ↔ Alive turn := Iff.rfl

@[simp] theorem after_gateway {turn : Turn σ} {sent : List Reply} :
    (turn.after sent).gateway = turn.gateway := rfl

/-! ## What every turn of the switch is -/

/-- A turn that goes on does so with its session, and none of its frames delivers a command. -/
structure Answers (session : Session) (turn : Turn σ) : Prop where
  keeps : ∀ next, turn.next = .ok next → next = session
  quiet : ∀ frame ∈ turn.sent, ∀ pending, frame ≠ .commandDeliver pending

theorem answers_stop {err : ServeError} : Answers session (stop session gateway [] err) where
  keeps := nofun
  quiet _ member := nomatch member

theorem answers_goOn {sent : List Reply} (quiet : ∀ frame ∈ sent, ∀ pending, frame ≠ .commandDeliver pending) :
    Answers session (goOn session gateway sent) where
  keeps := by
    rintro next ⟨⟩
    rfl
  quiet := quiet

theorem answers_goOn_silent : Answers session (goOn session gateway []) :=
  answers_goOn fun _ member => nomatch member

theorem Answers.after {turn : Turn σ} {sent : List Reply} (answers : Answers session turn)
    (quiet : ∀ frame ∈ sent, ∀ pending, frame ≠ .commandDeliver pending) :
    Answers session (turn.after sent) where
  keeps := answers.keeps
  quiet frame member := by
    rcases List.mem_append.mp member with first | later
    · exact quiet frame first
    · exact answers.quiet frame later

theorem quiet_one {frame : Reply} (other : ∀ pending, frame ≠ .commandDeliver pending) :
    ∀ sent ∈ [frame], ∀ pending, sent ≠ .commandDeliver pending := by
  intro sent member
  rw [List.mem_singleton.mp member]
  exact other

theorem quiet_ack {id : String} {window : Window} :
    ∀ sent ∈ [Reply.uplinkAck id window], ∀ pending, sent ≠ .commandDeliver pending :=
  quiet_one fun _ same => by cases same

theorem answers_reply {frame : Reply} (other : ∀ pending, frame ≠ .commandDeliver pending) :
    Answers session (reply env session gateway frame) := by
  unfold reply
  split
  · exact answers_goOn (quiet_one other)
  · exact answers_stop

theorem servePing_answers : Answers session (servePing env session envelope gateway) := by
  unfold servePing
  split
  · exact answers_stop
  · split
    · exact answers_stop
    · exact answers_reply fun _ same => by cases same

theorem serveReceipt_answers : Answers session (serveReceipt env session envelope gateway) := by
  unfold serveReceipt
  split
  · exact answers_stop
  · split
    · exact answers_stop
    · exact answers_goOn_silent

theorem serveResult_answers : Answers session (serveResult env session envelope gateway) := by
  unfold serveResult
  split
  · exact answers_stop
  · split
    · exact answers_stop
    · exact answers_goOn_silent

theorem serveUnstorable_answers {record : SqlRecord} {reason : String} :
    Answers session (serveUnstorable env session record reason gateway) := by
  unfold serveUnstorable
  dsimp only
  split
  · exact answers_stop
  · exact answers_reply fun _ same => by cases same

theorem serveStored_answers {window : Window} :
    Answers session (serveStored env session envelope window gateway) := by
  unfold serveStored
  dsimp only
  split
  · split
    · exact serveResult_answers.after quiet_ack
    · exact answers_goOn quiet_ack
  · exact answers_stop

theorem serveRecord_answers : Answers session (serveRecord env session envelope gateway) := by
  unfold serveRecord
  split
  · exact answers_stop
  · split
    · exact answers_stop
    · dsimp only
      split
      · exact serveUnstorable_answers
      · exact answers_stop
      · exact serveStored_answers

theorem serveKind_answers : Answers session (serveKind env session envelope gateway) := by
  unfold serveKind
  split
  · exact servePing_answers
  · split
    · exact serveReceipt_answers
    · split
      · exact serveRecord_answers
      · exact answers_stop

/-! ## Before the switch -/

/-- The session is bound to the device of the envelope and its socket works. -/
structure Live (env : Environment σ) (session : Session) (envelope : Envelope)
    (gateway : Gateway σ) : Prop where
  device : session.device.matchesEnvelope envelope.deviceId = true
  bound : (gateway.hub.touch session.connectionId env.now).isSome = true
  writes : ∀ frame, env.write frame = true

theorem deliverAll_writes (writes : ∀ frame, env.write frame = true)
    (pending : List PendingCommand) : (deliverAll env pending).2 = true := by
  induction pending with
  | nil => rfl
  | cons first rest ih =>
    unfold deliverAll
    split
    · exact ih
    · rw [if_pos (writes _)]
      exact ih

/-- The command tables the switch sees. -/
def commandsSeen (env : Environment σ) (session : Session) (gateway : Gateway σ) :
    VodogeCloud.Source.CommandTables.CommandDb :=
  (duePending env session gateway.cloud.commands).1

/-- Before the switch only the hub and the command tables change. -/
theorem serveEnvelope_live (live : Live env session envelope gateway) :
    ∃ hub sent, serveEnvelope env session envelope gateway =
      (serveKind env (checkedPending env session) envelope
        ({ gateway with hub := hub }.withCommands (commandsSeen env session gateway))).after sent := by
  obtain ⟨hub, touched⟩ := Option.isSome_iff_exists.mp live.bound
  have all := deliverAll_writes live.writes (duePending env session gateway.cloud.commands).2
  refine ⟨hub, (deliverAll env (duePending env session gateway.cloud.commands).2).1, ?_⟩
  unfold serveEnvelope
  rw [if_neg (by simp [live.device]), touched]
  dsimp only
  cases delivered : deliverAll env (duePending env session gateway.cloud.commands).2 with
  | mk sent complete =>
    rw [delivered] at all
    cases all
    rfl

theorem checkedPending_device : (checkedPending env session).device = session.device := by
  unfold checkedPending
  split <;> rfl

theorem checkedPending_connectionId :
    (checkedPending env session).connectionId = session.connectionId := by
  unfold checkedPending
  split <;> rfl

theorem serveKind_record (kind : envelope.kind ∈ sequencedCase) :
    serveKind env session envelope gateway = serveRecord env session envelope gateway := by
  have ping : envelope.kind ≠ "Ping" := fun same => by rw [same] at kind; revert kind; decide
  have receipt : envelope.kind ≠ "CommandReceipt" := fun same => by
    rw [same] at kind
    revert kind
    decide
  unfold serveKind
  rw [if_neg ping, if_neg receipt, if_pos kind]

/-! ## The sequenced case -/

theorem parseSeq_range {raw : String} {seq : Nat} (h : parseSeq raw = some seq) :
    0 < seq ∧ seq < 2 ^ 64 := by
  unfold parseSeq at h
  split at h
  · cases h
  · dsimp only at h
    split at h
    · next range =>
      cases h
      omega
    · cases h

/-- The envelope is one the sequenced case takes, at this sequence. -/
structure SequencedFrame (envelope : Envelope) (seq : Nat) : Prop where
  kind : envelope.kind ∈ sequencedCase
  seq : ∃ raw, envelope.seq = some raw ∧ parseSeq raw = some seq

theorem SequencedFrame.sequenced {seq : Nat} (frame : SequencedFrame envelope seq)
    (device : Device) : Sequenced (recordOf device envelope seq) := by
  obtain ⟨raw, _, parsed⟩ := frame.seq
  obtain ⟨positive, fits⟩ := parseSeq_range parsed
  have known : ∀ kind ∈ sequencedCase, kind ∈ sequencedKinds := by decide
  exact ⟨known _ frame.kind, positive, fits⟩

variable {seq : Nat}

theorem serveRecord_malformed (frame : SequencedFrame envelope seq)
    {journal : IngressDb} {rest : σ} {text : String}
    (answer : accept env.order env.project (recordOf session.device envelope seq) env.database
      gateway.cloud.journal gateway.cloud.rest = (journal, rest, .error (.malformed text))) :
    serveRecord env session envelope gateway =
      serveUnstorable env session (recordOf session.device envelope seq) text gateway := by
  obtain ⟨raw, present, parsed⟩ := frame.seq
  unfold serveRecord
  rw [present]
  dsimp only
  rw [parsed]
  dsimp only
  rw [answer]

/-- Any other refusal ends the session. -/
theorem serveRecord_refused (frame : SequencedFrame envelope seq)
    {journal : IngressDb} {rest : σ} {err : StoreError}
    (answer : accept env.order env.project (recordOf session.device envelope seq) env.database
      gateway.cloud.journal gateway.cloud.rest = (journal, rest, .error err))
    (other : ∀ text, err ≠ .malformed text) :
    serveRecord env session envelope gateway = stop session gateway [] (.store err) := by
  obtain ⟨raw, present, parsed⟩ := frame.seq
  unfold serveRecord
  rw [present]
  dsimp only
  rw [parsed]
  dsimp only
  rw [answer]
  cases err with
  | malformed text => exact absurd rfl (other text)
  | conflict text => rfl
  | invalidRecord text => rfl
  | other text => rfl

theorem serveRecord_stored (frame : SequencedFrame envelope seq)
    {journal : IngressDb} {rest : σ} {result : Result}
    (answer : accept env.order env.project (recordOf session.device envelope seq) env.database
      gateway.cloud.journal gateway.cloud.rest = (journal, rest, .ok result)) :
    serveRecord env session envelope gateway =
      serveStored env session envelope result.window (gateway.withJournal journal rest) := by
  obtain ⟨raw, present, parsed⟩ := frame.seq
  unfold serveRecord
  rw [present]
  dsimp only
  rw [parsed]
  dsimp only
  rw [answer]

/-- The journal after the tombstone of a refused record. -/
def buried (env : Environment σ) (record : SqlRecord) (reason : String) (journal : IngressDb) :
    IngressDb :=
  (recordUnstorable { record with payload := none } reason env.database env.recordedAt journal).1

/-- The answer to a refused record is the journal as it is. -/
theorem serveUnstorable_writes (writes : ∀ frame, env.write frame = true) (record : SqlRecord)
    (reason : String) :
    serveUnstorable env session record reason gateway =
      goOn session
        (gateway.withJournal (buried env record reason gateway.cloud.journal) gateway.cloud.rest)
        [.uplinkAck session.connectionId
          (readWindow (buried env record reason gateway.cloud.journal) record.tenantId
            record.deviceId)] := by
  unfold serveUnstorable
  dsimp only
  rw [snapshot_eq]
  dsimp only
  unfold reply
  rw [if_pos (writes _)]
  rfl

/-- A frame whose envelope passes the checks before the switch. -/
theorem serveFrame_record {frame : Frame} (read : readEnvelope frame = .ok envelope)
    (sequenced : SequencedFrame envelope seq) (live : Live env session envelope gateway) :
    ∃ hub sent, serveFrame env session frame gateway =
      (serveRecord env (checkedPending env session) envelope
        ({ gateway with hub := hub }.withCommands (commandsSeen env session gateway))).after sent := by
  obtain ⟨hub, sent, turn⟩ := serveEnvelope_live live
  refine ⟨hub, sent, ?_⟩
  unfold serveFrame
  rw [read]
  dsimp only
  rw [turn, serveKind_record sequenced.kind]

/-! ## A gateway with one device -/

def sampleName : String := "00000000-0000-0000-0000-000000000007"

/-- Device 7 of tenant 5. -/
def sampleDevice : Device := ⟨5, 7, sampleName⟩

/-- Its journal, still empty. -/
def sampleJournal : IngressDb where
  devices := ⟨[⟨7, 5⟩], List.nodup_singleton _⟩
  ingress := Table.empty
  pruned := Table.empty
  valid := {
    seqRange := fun _ member => absurd member List.not_mem_nil
    payloadObject := fun _ member => absurd member List.not_mem_nil
    envelopeUnique := fun _ member => absurd member List.not_mem_nil
    ingressDevice := fun _ member => absurd member List.not_mem_nil
    prunedPositive := fun _ member => absurd member List.not_mem_nil }

/-- A session of the device at the start of the clock. -/
def sampleSession : Session := ⟨sampleDevice, "c1", 0⟩

/-- A gateway that serves it over the given command tables. -/
def sampleGateway (rest : σ) (commands : VodogeCloud.Source.CommandTables.CommandDb) : Gateway σ :=
  ⟨Hub.new.bind ⟨"c1", sampleDevice, 0⟩, ⟨sampleJournal, commands, rest⟩⟩

/-- The numbers of the samples are integers, which Go writes as it read them. -/
def sampleFloat : VodogeCloud.Source.GoJson.FloatFormat where
  encode mantissa _ := (if mantissa.natAbs < 10 ^ 21 then mantissa else 0, none)
  digits := by
    intro mantissa exponent
    dsimp only
    split
    · assumption
    · decide
  exponents := nofun

/-- A working socket and database. -/
def sampleEnvironment (project : σ → IngressRow → Except PgError σ) : Environment σ where
  calendar := ⟨fun _ _ => none, fun _ _ => none, fun _ => ""⟩
  contractCardPolicyPayload := fun _ => none
  registered := fun tenant device => tenant = 5 && device = 7
  commandId := 0
  outboxId := 0
  database := 0
  project := project
  order := .forwards
  float := sampleFloat
  write := fun _ => true
  now := 0
  recordedAt := ""

/-- A frame of the device. -/
def sampleFrame (kind id : String) (seq : List (List JsonChar × Json)) (payload : Json) : Frame :=
  ⟨true, 256, some (.obj ([(chars "v", .num 1 none), (chars "kind", .str (chars kind)),
    (chars "id", .str (chars id)), (chars "ts", .num 0 none),
    (chars "device_id", .str (chars sampleName))] ++ seq ++ [(chars "payload", payload)]))⟩

theorem sampleDevice_matches : sampleDevice.matchesEnvelope sampleName = true := by decide

/-- The sample session is bound in every state its hub is left in. -/
theorem live_sample {project : σ → IngressRow → Except PgError σ} {gateway : Gateway σ}
    {envelope : Envelope} (device : envelope.deviceId = sampleName)
    (bound : (gateway.hub.touch "c1" 0).isSome = true) :
    Live (sampleEnvironment project) sampleSession envelope gateway :=
  ⟨by rw [device]; exact sampleDevice_matches, bound, fun _ => rfl⟩

end VodogeCloud.Guarantees.SessionTurns
