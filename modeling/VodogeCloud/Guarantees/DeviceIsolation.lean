import VodogeCloud.Guarantees.SessionTurns
import VodogeCloud.Guarantees.TerminalCommands

/-!
# What a device can do to another device's commands

The certificate names the device, but `RecordReceipt`, `RecordResult` and
`SettleOutbound` select rows by the command id of the payload and by the tenant.
A frame that names a command of its own device, or none, leaves the rows of every
other command alone; a frame that names an open command of another device of the
tenant changes it.
-/

set_option autoImplicit false

namespace VodogeCloud.Guarantees.DeviceIsolation

open VodogeCloud.Lib VodogeCloud.Lib.Transactions
open VodogeCloud.Source.Postgres VodogeCloud.Source.CommandTables VodogeCloud.Source.CommandLifecycle
open VodogeCloud.Source.PendingCommands VodogeCloud.Source.ServeDevice
open VodogeCloud.Source.IngressStore (accept)
open VodogeCloud.Guarantees VodogeCloud.Guarantees.LifecycleSteps VodogeCloud.Guarantees.SessionTurns

/-- The command of this tenant and id was issued to another device. -/
def Other (db : CommandDb) (device tenant id : Uuid) : Prop :=
  ∃ command ∈ db.commands, command.tenantId = tenant ∧ command.id = id ∧ command.deviceId ≠ device

/-- Every row that belongs to a command of another device is as it was. -/
structure SparesOthers (device : Uuid) (db db' : CommandDb) : Prop where
  commands : ∀ row : CommandRow, row.deviceId ≠ device → (row ∈ db.commands ↔ row ∈ db'.commands)
  outbox : ∀ row : OutboxRow, Other db device row.tenantId row.commandId →
    (row ∈ db.outbox ↔ row ∈ db'.outbox)
  receipts : ∀ row : ReceiptRow, Other db device row.tenantId row.commandId →
    (row ∈ db.receipts ↔ row ∈ db'.receipts)
  messages : ∀ (row : MessageRow) (id : Uuid), row.commandId = some id →
    Other db device row.tenantId id → (row ∈ db.messages ↔ row ∈ db'.messages)

section Statements

variable {device : Uuid} {db db' : CommandDb}

theorem SparesOthers.refl (device : Uuid) (db : CommandDb) : SparesOthers device db db :=
  ⟨fun _ _ => Iff.rfl, fun _ _ => Iff.rfl, fun _ _ => Iff.rfl, fun _ _ _ _ => Iff.rfl⟩

theorem SparesOthers.other (h : SparesOthers device db db') {tenant id : Uuid} :
    Other db device tenant id ↔ Other db' device tenant id := by
  constructor
  · rintro ⟨command, member, sameTenant, sameId, differs⟩
    exact ⟨command, (h.commands command differs).mp member, sameTenant, sameId, differs⟩
  · rintro ⟨command, member, sameTenant, sameId, differs⟩
    exact ⟨command, (h.commands command differs).mpr member, sameTenant, sameId, differs⟩

theorem SparesOthers.trans {a b c : CommandDb} (first : SparesOthers device a b)
    (second : SparesOthers device b c) : SparesOthers device a c where
  commands row differs := (first.commands row differs).trans (second.commands row differs)
  outbox row other := (first.outbox row other).trans (second.outbox row (first.other.mp other))
  receipts row other := (first.receipts row other).trans (second.receipts row (first.other.mp other))
  messages row id named other :=
    (first.messages row id named other).trans (second.messages row id named (first.other.mp other))

/-- A statement that changes no row with the property `P`. -/
theorem mem_iff_of_update {ρ : Type} {before after : ρ → Prop} {hit : ρ → Bool} {change : ρ → ρ}
    {P : ρ → Prop} (written : ∀ row, after row ↔ ∃ old, before old ∧ row = if hit old then change old else old)
    (keeps : ∀ old, before old → hit old = true → P (change old) → P old)
    (misses : ∀ old, before old → P old → hit old = false) (row : ρ) (chosen : P row) :
    before row ↔ after row := by
  rw [written]
  constructor
  · intro member
    exact ⟨row, member, by simp [misses row member chosen]⟩
  · rintro ⟨old, member, rfl⟩
    cases reached : hit old with
    | false => simpa [reached] using member
    | true =>
      simp only [reached, if_true] at chosen
      have missed := misses old member (keeps old member reached chosen)
      rw [reached] at missed
      cases missed

theorem spares_updateCommands {hit : CommandRow → Bool} {change : CommandRow → CommandRow}
    {keeps : ∀ row, (change row).identity = row.identity}
    (own : ∀ row ∈ db.commands, hit row = true → row.deviceId = device) :
    SparesOthers device db (db.updateCommands hit change keeps) where
  commands := by
    apply mem_iff_of_update (fun row => @mem_updateCommands db hit change keeps row)
    · intro old _ _ differs
      rwa [show (change old).deviceId = old.deviceId from congrArg (·.2.2.1) (keeps old)] at differs
    · intro old member differs
      rw [Bool.eq_false_iff]
      exact fun reached => differs (own old member reached)
  outbox _ _ := Iff.rfl
  receipts _ _ := Iff.rfl
  messages _ _ _ _ := Iff.rfl

theorem spares_updateOutbox {hit : OutboxRow → Bool} {change : OutboxRow → OutboxRow}
    {keeps : ∀ row, (change row).identity = row.identity}
    (h : db.updateOutbox hit change keeps = .ok db')
    (own : ∀ row ∈ db.outbox, hit row = true → ¬ Other db device row.tenantId row.commandId) :
    SparesOthers device db db' := by
  obtain ⟨rows, commands, receipts, messages, _⟩ := updateOutbox_ok h
  refine ⟨fun _ _ => by rw [commands], ?_, fun _ _ => by rw [receipts],
    fun _ _ _ _ => by rw [messages]⟩
  apply mem_iff_of_update rows
  · intro old _ _ other
    rwa [show (change old).tenantId = old.tenantId from congrArg (·.2.1) (keeps old),
      show (change old).commandId = old.commandId from congrArg (·.2.2) (keeps old)] at other
  · intro old member other
    rw [Bool.eq_false_iff]
    exact fun reached => own old member reached other

theorem spares_updateMessages {hit : MessageRow → Bool} {change : MessageRow → MessageRow}
    {keeps : ∀ row, (change row).identity = row.identity}
    (own : ∀ row ∈ db.messages, hit row = true → ∀ id, row.commandId = some id →
      ¬ Other db device row.tenantId id) :
    SparesOthers device db (db.updateMessages hit change keeps) where
  commands _ _ := Iff.rfl
  outbox _ _ := Iff.rfl
  receipts _ _ := Iff.rfl
  messages := by
    have one : ∀ row : MessageRow,
        (∃ id, row.commandId = some id ∧ Other db device row.tenantId id) →
        (row ∈ db.messages ↔ row ∈ (db.updateMessages hit change keeps).messages) := by
      apply mem_iff_of_update (fun row => @mem_updateMessages db hit change keeps row)
      · intro old _ _ other
        rwa [show (change old).tenantId = old.tenantId from congrArg (·.2.1) (keeps old),
          show (change old).commandId = old.commandId from congrArg (·.2.2.2.1) (keeps old)] at other
      · rintro old member ⟨id, named, other⟩
        rw [Bool.eq_false_iff]
        exact fun reached => own old member reached id named other
    exact fun row id named other => one row ⟨id, named, other⟩

/-- A row that belongs to no other device's command may be added. -/
theorem spares_insertReceipt {row : ReceiptRow} {inserted : Bool}
    (h : db.insertReceipt row = .ok (db', inserted))
    (own : ¬ Other db device row.tenantId row.commandId) : SparesOthers device db db' := by
  rcases (insertReceipt_cases h).2 with ⟨_, rfl, _⟩ | ⟨_, _, _, rows, commands, outbox, messages, _⟩
  · exact SparesOthers.refl device _
  · refine ⟨fun _ _ => by rw [commands], fun _ _ => by rw [outbox], ?_,
      fun _ _ _ _ => by rw [messages]⟩
    intro other foreign
    rw [rows]
    refine ⟨Or.inl, ?_⟩
    rintro (old | rfl)
    · exact old
    · exact absurd foreign own

theorem spares_insertCommand {registered : Uuid → Uuid → Bool} {row : CommandRow} {inserted : Bool}
    (h : db.insertCommand registered row = .ok (db', inserted)) (own : row.deviceId = device) :
    SparesOthers device db db' := by
  rcases insertCommand_cases h with ⟨_, rfl, _⟩ | ⟨_, _, _, rows, outbox, receipts, messages, _⟩
  · exact SparesOthers.refl device _
  · refine ⟨?_, fun _ _ => by rw [outbox], fun _ _ => by rw [receipts],
      fun _ _ _ _ => by rw [messages]⟩
    intro other differs
    rw [rows]
    refine ⟨Or.inl, ?_⟩
    rintro (old | rfl)
    · exact old
    · exact absurd own differs

theorem spares_insertOutbox {row : OutboxRow} (h : db.insertOutbox row = .ok db')
    (own : ¬ Other db device row.tenantId row.commandId) : SparesOthers device db db' := by
  obtain ⟨rows, commands, receipts, messages, _⟩ := insertOutbox_ok h
  refine ⟨fun _ _ => by rw [commands], ?_, fun _ _ => by rw [receipts],
    fun _ _ _ _ => by rw [messages]⟩
  intro other foreign
  rw [rows]
  refine ⟨Or.inl, ?_⟩
  rintro (old | rfl)
  · exact old
  · exact absurd foreign own

/-- A command is only one device's. -/
theorem not_other {command : CommandRow} {tenant : Uuid} (member : command ∈ db.commands)
    (own : command.deviceId = device) : ¬ Other db device tenant command.id := by
  rintro ⟨foreign, inTable, _, sameId, differs⟩
  rw [Table.eq_of_key inTable member sameId] at differs
  exact differs own

end Statements

/-! ## The pending read -/

section Pending

variable {device : Uuid} {db db' : CommandDb}

theorem enqueueCommand_spares {registered : Uuid → Uuid → Bool} {context : Option Uuid}
    {args : EnqueueArgs} {id : Uuid} {outboxId : Nat} {now : Timestamp} {row : CommandRow}
    (h : enqueueCommand registered context args id outboxId now db = .ok (db', row))
    (own : args.deviceId = device) : SparesOthers device db db' := by
  obtain ⟨_, _, body⟩ := bind_success h
  clear h
  split at body
  · cases body
  · obtain ⟨⟨db1, inserted⟩, attempt, body⟩ := bind_success body
    have first : SparesOthers device db db1 := spares_insertCommand attempt own
    dsimp only at body
    split at body
    · next new =>
      obtain ⟨db2, wrote, body⟩ := bind_success body
      cases body
      refine first.trans (spares_insertOutbox wrote ?_)
      rcases insertCommand_cases attempt with ⟨no, _⟩ | ⟨_, _, _, rows, _⟩
      · rw [no] at new
        cases new
      · exact not_other ((rows (args.command id now)).mpr (Or.inr rfl)) own
    · split at body
      · split at body
        · cases body
        · cases body
          exact first
      · cases body

theorem redeliverCardPolicy_spares (around : Surroundings) (tenant device : Uuid) (now : Timestamp)
    (db : CommandDb) : SparesOthers device db (redeliverCardPolicy around tenant device now db) := by
  unfold redeliverCardPolicy
  split
  · exact SparesOthers.refl device db
  · split
    · exact SparesOthers.refl device db
    · split
      · exact SparesOthers.refl device db
      · split
        · next queued => exact enqueueCommand_spares queued rfl
        · exact SparesOthers.refl device db

theorem expireOverdueCommands_spares {calendar : Calendar} {context : Option Uuid} {tenant : Uuid}
    {now : Option Timestamp} {count : Nat}
    (h : expireOverdueCommands calendar context tenant device now db = .ok (db', count)) :
    SparesOthers device db db' := by
  obtain ⟨_, _, h⟩ := bind_success h
  obtain ⟨db2, written, h⟩ := bind_success h
  cases h
  set hit : CommandRow → Bool := fun row =>
    row.tenantId = tenant && row.deviceId = device && overdue now row with hitDef
  have own : ∀ row ∈ db.commands, hit row = true → row.deviceId = device := by
    intro row _ reached
    simp only [hitDef, Bool.and_eq_true, decide_eq_true_eq] at reached
    exact reached.1.2
  have first := @spares_updateCommands device db hit (expireRow calendar (now.getD 0))
    (expireRow_identity calendar (now.getD 0)) own
  -- the ids of the sweep are commands of the device
  have mine : ∀ {tenant' id : Uuid}, id ∈ (db.commands.rows.filter hit).map CommandRow.id →
      ¬ Other db device tenant' id := by
    intro tenant' id member
    obtain ⟨command, swept, rfl⟩ := List.mem_map.mp member
    obtain ⟨inTable, reached⟩ := List.mem_filter.mp swept
    exact not_other inTable (own command inTable reached)
  have second : SparesOthers device _ db2 := spares_updateOutbox written (by
    intro row _ reached other
    simp only [wakeupIn, Bool.and_eq_true, List.contains_iff_mem] at reached
    exact mine reached.1.2 (first.other.mpr other))
  refine (first.trans second).trans (spares_updateMessages ?_)
  intro row _ reached id named other
  simp only [queuedMessageOf, Bool.and_eq_true, named, Option.any_some,
    List.contains_iff_mem] at reached
  exact mine reached.1.1.2 ((first.trans second).other.mpr other)

theorem pendingForDevice_spares (around : Surroundings) (tenant device : Uuid) (now : Timestamp)
    (db : CommandDb) : SparesOthers device db (pendingForDevice around tenant device now db).1 := by
  have first := redeliverCardPolicy_spares around tenant device now db
  unfold pendingForDevice
  dsimp only
  split
  · next swept => exact first.trans (expireOverdueCommands_spares swept)
  · exact first

end Pending

/-! ## The statements of a frame -/

section Frames

variable {device : Uuid} {db db' : CommandDb}

theorem commandOf_own {tenant id : Uuid} (own : ¬ Other db device tenant id) :
    ∀ row ∈ db.commands, commandOf tenant id row = true → row.deviceId = device := by
  intro row member reached
  simp only [commandOf, Bool.and_eq_true, decide_eq_true_eq] at reached
  by_contra differs
  exact own ⟨row, member, reached.1, reached.2, differs⟩

theorem recordReceipt_spares {tenant : Uuid} {receipt : Receipt} {now : Timestamp}
    (h : recordReceipt tenant receipt now db = .ok db')
    (own : ∀ id, uuidIn receipt.commandId = .ok id → ¬ Other db device tenant id) :
    SparesOthers device db db' := by
  obtain ⟨_, commandId, _, db1, inserted, named, attempt, written⟩ := recordReceipt_cases h
  have first : SparesOthers device db db1 := spares_insertReceipt attempt (own commandId named)
  rcases written with ⟨_, rfl⟩ | ⟨_, rfl⟩
  · refine first.trans (spares_updateCommands ?_)
    intro row member reached
    rw [Bool.and_eq_true] at reached
    exact commandOf_own (fun other => own commandId named (first.other.mpr other)) row member
      reached.1
  · exact first

theorem recordResult_spares {tenant : Uuid} {result : CommandResult} {now : Timestamp}
    (h : recordResult tenant result now db = .ok db')
    (own : ∀ id, uuidIn result.commandId = .ok id → ¬ Other db device tenant id) :
    SparesOthers device db db' := by
  obtain ⟨status, _, h⟩ := bind_success h
  obtain ⟨detail, _, h⟩ := bind_success h
  obtain ⟨commandId, named, h⟩ := bind_success h
  dsimp only at h
  have own := own commandId named
  have outbox : ∀ {middle : CommandDb}, SparesOthers device db middle →
      middle.updateOutbox (wakeupOf tenant commandId) (publishRow now) (publishRow_identity now) =
        .ok db' → SparesOthers device db db' := by
    intro middle first written
    refine first.trans (spares_updateOutbox written ?_)
    intro row _ reached other
    simp only [wakeupOf, Bool.and_eq_true, decide_eq_true_eq] at reached
    rw [reached.1.1, reached.1.2] at other
    exact own (first.other.mpr other)
  split at h
  · refine outbox (spares_updateCommands ?_) h
    intro row member reached
    simp only [resultHit, Bool.and_eq_true] at reached
    exact commandOf_own own row member reached.1
  · refine outbox (spares_updateCommands ?_) h
    intro row member reached
    simp only [lateHit, Bool.and_eq_true] at reached
    exact commandOf_own own row member reached.1

theorem settleOutbound_spares {tenant : Uuid} {commandId reason : String} {status : MessageStatus}
    {reference : Option Int} {now : Timestamp}
    (h : settleOutbound tenant commandId status reason reference now db = .ok db')
    (own : ∀ id, uuidIn commandId = .ok id → ¬ Other db device tenant id) :
    SparesOthers device db db' := by
  obtain ⟨command, named, rfl⟩ := TerminalCommands.settleOutbound_ok h
  apply spares_updateMessages
  intro row _ reached id same other
  simp only [settleHit, Bool.and_eq_true, decide_eq_true_eq] at reached
  obtain ⟨⟨⟨sameTenant, sameCommand⟩, _⟩, _⟩ := reached
  rw [sameCommand] at same
  cases same
  rw [sameTenant] at other
  exact own _ named other

theorem settlingRecordResult_spares {tenant : Uuid} {result : CommandResult} {now : Timestamp}
    (h : settlingRecordResult tenant result now db = .ok db')
    (own : ∀ id, uuidIn result.commandId = .ok id → ¬ Other db device tenant id) :
    SparesOthers device db db' := by
  obtain ⟨db1, recorded, h⟩ := bind_success h
  have first := recordResult_spares recorded own
  dsimp only at h
  split at h
  · next settled =>
    cases h
    exact first.trans (settleOutbound_spares settled
      (fun id named other => own id named (first.other.mpr other)))
  · cases h
    exact first

end Frames

/-! ## A frame -/

section Turns

variable {σ : Type} {env : Environment σ} {session : Session} {envelope : Envelope}
  {gateway : Gateway σ}

/-- The command a receipt or a result speaks of. -/
def namedCommand (env : Environment σ) (envelope : Envelope) : Option Uuid :=
  if envelope.kind = "CommandReceipt" then
    (envelope.payload.bind commandReceiptPayload).bind fun payload => (uuidIn payload.cmdId).toOption
  else if envelope.kind = "CommandResult" then
    (envelope.payload.bind (commandResultPayload env.float)).bind fun payload =>
      (uuidIn payload.cmdId).toOption
  else none

/-- The frame names no command of another device of the tenant. -/
def NamesOwn (env : Environment σ) (device : Device) (envelope : Envelope) (db : CommandDb) : Prop :=
  ∀ id, namedCommand env envelope = some id → ¬ Other db device.deviceId device.tenantId id

theorem serveReceipt_spares (kind : envelope.kind = "CommandReceipt")
    (own : NamesOwn env session.device envelope gateway.cloud.commands) :
    SparesOthers session.device.deviceId gateway.cloud.commands
      (serveReceipt env session envelope gateway).gateway.cloud.commands := by
  unfold serveReceipt
  split
  · exact SparesOthers.refl _ _
  · next payload decoded =>
    split
    · exact SparesOthers.refl _ _
    · next commands written =>
      obtain ⟨receivedAt, _, written⟩ := bind_success written
      refine recordReceipt_spares written fun id named => own id ?_
      dsimp only at named
      unfold namedCommand
      rw [if_pos kind, decoded, Option.bind_some, named]
      rfl

theorem serveResult_spares (kind : envelope.kind = "CommandResult")
    (own : NamesOwn env session.device envelope gateway.cloud.commands) :
    SparesOthers session.device.deviceId gateway.cloud.commands
      (serveResult env session envelope gateway).gateway.cloud.commands := by
  unfold serveResult
  split
  · exact SparesOthers.refl _ _
  · next payload decoded =>
    split
    · exact SparesOthers.refl _ _
    · next commands written =>
      obtain ⟨completedAt, _, written⟩ := bind_success written
      refine settlingRecordResult_spares written fun id named => own id ?_
      dsimp only at named
      unfold namedCommand
      rw [if_neg (by rw [kind]; decide), if_pos kind, decoded, Option.bind_some, named]
      rfl

/-- The journal and the command tables are apart: only `RecordResult` writes the
latter. -/
theorem serveRecord_spares (kind : envelope.kind = "CommandResult")
    (own : NamesOwn env session.device envelope gateway.cloud.commands) :
    SparesOthers session.device.deviceId gateway.cloud.commands
      (serveRecord env session envelope gateway).gateway.cloud.commands := by
  unfold serveRecord
  split
  · exact SparesOthers.refl _ _
  · split
    · exact SparesOthers.refl _ _
    · dsimp only
      split
      · unfold serveUnstorable reply
        dsimp only
        split
        · exact SparesOthers.refl _ _
        · split
          · exact SparesOthers.refl _ _
          · exact SparesOthers.refl _ _
      · exact SparesOthers.refl _ _
      · next journal rest result _ =>
        unfold serveStored
        dsimp only
        rw [if_pos kind]
        split
        · exact @serveResult_spares _ env session envelope (gateway.withJournal journal rest) kind own
        · exact SparesOthers.refl _ _

/-- A receipt or a result that names its own device's command, through the switch. -/
theorem serveKind_spares (kind : envelope.kind = "CommandReceipt" ∨ envelope.kind = "CommandResult")
    (own : NamesOwn env session.device envelope gateway.cloud.commands) :
    SparesOthers session.device.deviceId gateway.cloud.commands
      (serveKind env session envelope gateway).gateway.cloud.commands := by
  unfold serveKind
  rcases kind with receipt | result
  · rw [if_neg (by rw [receipt]; decide), if_pos receipt]
    exact serveReceipt_spares receipt own
  · rw [if_neg (by rw [result]; decide), if_neg (by rw [result]; decide),
      if_pos (by rw [result]; decide)]
    exact serveRecord_spares result own

theorem duePending_spares (commands : CommandDb) :
    SparesOthers session.device.deviceId commands (duePending env session commands).1 := by
  unfold duePending
  split
  · exact pendingForDevice_spares _ _ _ _ _
  · exact SparesOthers.refl _ _

/-- The pending read before it sweeps and enqueues for the session's device only. -/
theorem serveEnvelope_spares
    (kind : envelope.kind = "CommandReceipt" ∨ envelope.kind = "CommandResult")
    (own : NamesOwn env session.device envelope gateway.cloud.commands) :
    SparesOthers session.device.deviceId gateway.cloud.commands
      (serveEnvelope env session envelope gateway).gateway.cloud.commands := by
  have first := @duePending_spares _ env session gateway.cloud.commands
  unfold serveEnvelope
  split
  · exact SparesOthers.refl _ _
  · split
    · exact SparesOthers.refl _ _
    · next hub _ =>
      dsimp only
      split
      · exact first
      · refine first.trans ?_
        rw [after_gateway]
        have turn := @serveKind_spares _ env (checkedPending env session) envelope
          ({ gateway with hub := hub }.withCommands (duePending env session gateway.cloud.commands).1)
          kind
        rw [checkedPending_device] at turn
        exact turn fun id named other => own id named (first.other.mpr other)

/-! ## What a frame that names another device's command does -/

/-- The frame speaks for the command: an acceptance, or a stored result with one
of the five statuses. -/
def SpeaksFor (env : Environment σ) (device : Device) (envelope : Envelope) (gateway : Gateway σ)
    (id : Uuid) : Prop :=
  (envelope.kind = "CommandReceipt" ∧ ∃ payload,
    envelope.payload.bind commandReceiptPayload = some payload ∧ uuidIn payload.cmdId = .ok id ∧
      (payload.status = "accepted" ∨ payload.status = "duplicate")) ∨
  (envelope.kind = "CommandResult" ∧ (∃ payload,
      envelope.payload.bind (commandResultPayload env.float) = some payload ∧
        uuidIn payload.cmdId = .ok id ∧ payload.status ∈ terminalStatuses) ∧
    ∃ seq, SequencedFrame envelope seq ∧ ∃ journal rest result,
      accept env.order env.project (recordOf device envelope seq) env.database gateway.cloud.journal
        gateway.cloud.rest = (journal, rest, .ok result))

theorem recordReceipt_accepts {tenant id : Uuid} {receipt : Receipt} {now : Timestamp}
    {db db' : CommandDb} (h : recordReceipt tenant receipt now db = .ok db')
    (status : receipt.status = "accepted" ∨ receipt.status = "duplicate")
    (named : uuidIn receipt.commandId = .ok id) :
    ∀ row ∈ db'.commands, commandOf tenant id row = true → row.status.deliverable = false := by
  obtain ⟨_, id', _, db1, _, named', _, written⟩ := recordReceipt_cases h
  cases named.symm.trans named'
  rcases written with ⟨_, rfl⟩ | ⟨other, _⟩
  swap
  · exact absurd status other
  intro row member own
  obtain ⟨old, _, rfl⟩ := mem_updateCommands.mp member
  split at own
  · next reached =>
    rw [if_pos reached]
    rfl
  · next missed =>
    rw [if_neg missed]
    simpa [own] using missed

theorem settlingRecordResult_commands {tenant : Uuid} {result : CommandResult} {now : Timestamp}
    {db db' : CommandDb} (h : settlingRecordResult tenant result now db = .ok db') :
    ∃ db1, recordResult tenant result now db = .ok db1 ∧ db'.commands = db1.commands := by
  obtain ⟨db1, recorded, h⟩ := bind_success h
  refine ⟨db1, recorded, ?_⟩
  dsimp only at h
  split at h
  · next settled =>
    cases h
    obtain ⟨_, _, rfl⟩ := TerminalCommands.settleOutbound_ok settled
    rfl
  · cases h
    rfl

/-- No row of the command is deliverable once the frame has gone through. -/
theorem serveKind_delivers {id : Uuid} (writes : ∀ frame, env.write frame = true)
    (speaks : SpeaksFor env session.device envelope gateway id)
    (alive : Alive (serveKind env session envelope gateway)) :
    ∀ row ∈ (serveKind env session envelope gateway).gateway.cloud.commands.commands,
      commandOf session.device.tenantId id row = true → row.status.deliverable = false := by
  rcases speaks with ⟨kind, payload, decoded, named, status⟩ |
    ⟨kind, ⟨payload, decoded, named, status⟩, seq, frame, journal, rest, result, stored⟩
  · have turn : serveKind env session envelope gateway = serveReceipt env session envelope gateway := by
      unfold serveKind
      rw [if_neg (by rw [kind]; decide), if_pos kind]
    rw [turn] at alive ⊢
    unfold serveReceipt at alive ⊢
    rw [decoded] at alive ⊢
    dsimp only at alive ⊢
    split at alive
    · exact absurd alive not_alive_stop
    · next commands written =>
      obtain ⟨receivedAt, _, written⟩ := bind_success written
      exact recordReceipt_accepts written status named
  · rw [serveKind_record (by rw [kind]; decide), serveRecord_stored frame stored] at alive ⊢
    unfold serveStored at alive ⊢
    dsimp only at alive ⊢
    rw [if_pos (writes _), if_pos kind] at alive ⊢
    rw [alive_after] at alive
    rw [after_gateway]
    unfold serveResult at alive ⊢
    rw [decoded] at alive ⊢
    dsimp only at alive ⊢
    split at alive
    · exact absurd alive not_alive_stop
    · next commands written =>
      obtain ⟨completedAt, _, written⟩ := bind_success written
      obtain ⟨db1, recorded, same⟩ := settlingRecordResult_commands written
      obtain ⟨ended, read, terminal⟩ := TerminalCommands.terminalStatuses_statusIn status
      intro row member own
      have inTable : row ∈ db1.commands := by rwa [← same]
      have final := TerminalCommands.recordResult_ends recorded read terminal named row inTable own
      rw [Bool.eq_false_iff]
      intro open_
      rw [TerminalCommands.deliverable_not_terminal open_] at final
      cases final

theorem serveEnvelope_delivers {id : Uuid} (live : Live env session envelope gateway)
    (speaks : SpeaksFor env session.device envelope gateway id)
    (alive : Alive (serveEnvelope env session envelope gateway)) :
    ∀ row ∈ (serveEnvelope env session envelope gateway).gateway.cloud.commands.commands,
      commandOf session.device.tenantId id row = true → row.status.deliverable = false := by
  obtain ⟨hub, sent, turn⟩ := serveEnvelope_live live
  rw [turn, alive_after] at alive
  rw [turn, after_gateway]
  have body := @serveKind_delivers _ env (checkedPending env session) envelope
    ({ gateway with hub := hub }.withCommands (commandsSeen env session gateway)) id live.writes
  rw [checkedPending_device] at body
  exact body speaks alive

/-- A deliverable command of another device that the frame speaks for is changed. -/
theorem serveEnvelope_touches {command : CommandRow} (live : Live env session envelope gateway)
    (speaks : SpeaksFor env session.device envelope gateway command.id)
    (alive : Alive (serveEnvelope env session envelope gateway))
    (member : command ∈ gateway.cloud.commands.commands)
    (tenant : command.tenantId = session.device.tenantId)
    (foreign : command.deviceId ≠ session.device.deviceId)
    (open_ : command.status.deliverable = true) :
    ¬ SparesOthers session.device.deviceId gateway.cloud.commands
      (serveEnvelope env session envelope gateway).gateway.cloud.commands := by
  intro spares
  have after := (spares.commands command foreign).mp member
  have changed := serveEnvelope_delivers live speaks alive command after (by
    simp [commandOf, tenant])
  rw [open_] at changed
  cases changed

end Turns

/-! ## Runs -/

section Runs

variable {σ : Type}

/-- One frame on one session. -/
structure Sending (σ : Type) where
  env : Environment σ
  session : Session
  frame : Frame

def send (gateway : Gateway σ) (sending : Sending σ) : Gateway σ :=
  (serveFrame sending.env sending.session sending.frame gateway).gateway

/-- A receipt or a result on a session of the device that names no command of
another one; a frame that cannot be read names none. -/
structure Confined (device : Device) (gateway : Gateway σ) (sending : Sending σ) : Prop where
  session : sending.session.device = device
  kind : ∀ envelope, readEnvelope sending.frame = .ok envelope →
    envelope.kind = "CommandReceipt" ∨ envelope.kind = "CommandResult"
  own : ∀ envelope, readEnvelope sending.frame = .ok envelope →
    NamesOwn sending.env device envelope gateway.cloud.commands

theorem send_spares {device : Device} {gateway : Gateway σ} {sending : Sending σ}
    (confined : Confined device gateway sending) :
    SparesOthers device.deviceId gateway.cloud.commands (send gateway sending).cloud.commands := by
  unfold send serveFrame
  split
  · exact SparesOthers.refl _ _
  · next envelope read =>
    have turn := @serveEnvelope_spares _ sending.env sending.session envelope gateway
      (confined.kind envelope read)
    rw [confined.session] at turn
    exact turn (confined.own envelope read)

/-- Every run of receipts and results of a device that name none of another
device's commands leaves the rows of all of those as they were, and a live one
that speaks for a deliverable command of another device changes it. -/
theorem devices_keep_apart (device : Device) (gateway : Gateway σ) :
    (∀ sendings : List (Sending σ), Guarded send (Confined device) gateway sendings →
      SparesOthers device.deviceId gateway.cloud.commands
        (sendings.foldl send gateway).cloud.commands) ∧
    (∀ (sending : Sending σ) (envelope : Envelope) (command : CommandRow),
      sending.session.device = device → readEnvelope sending.frame = .ok envelope →
      Live sending.env sending.session envelope gateway →
      Alive (serveFrame sending.env sending.session sending.frame gateway) →
      command ∈ gateway.cloud.commands.commands → command.tenantId = device.tenantId →
      command.deviceId ≠ device.deviceId → command.status.deliverable = true →
      SpeaksFor sending.env device envelope gateway command.id →
      ¬ SparesOthers device.deviceId gateway.cloud.commands (send gateway sending).cloud.commands) := by
  constructor
  · intro sendings guarded
    refine @foldl_guarded _ _ send
      (fun state => SparesOthers device.deviceId gateway.cloud.commands state.cloud.commands)
      (Confined device) ?_ gateway (SparesOthers.refl _ _) sendings guarded
    exact fun state sending before confined => before.trans (send_spares confined)
  · rintro sending envelope command rfl read live alive member tenant foreign open_ speaks
    unfold serveFrame at alive
    unfold send serveFrame
    rw [read] at alive ⊢
    exact serveEnvelope_touches live speaks alive member tenant foreign open_

end Runs

/-! ## Two devices of one tenant -/

/-- A command for one device, with its wakeup. -/
def enqueueFor (device command : Uuid) (key : String) : CommandOp :=
  .enqueueCommand (fun _ _ => true) (some 5) ⟨5, device, .restartModem, .obj [], key, 1000⟩ command
    command.toNat 0

/-- Command 1 is device 7's, command 2 is device 8's. -/
def twoCommands : CommandDb :=
  run (CommandOp.apply TerminalCommands.plainCalendar) .empty [enqueueFor 7 1 "a", enqueueFor 8 2 "b"]

/-- Device 7 accepts a command. -/
def acceptance (command : String) : Sending Unit where
  env := sampleEnvironment (fun rest _ => .ok rest)
  session := sampleSession
  frame := sampleFrame "CommandReceipt" "00000000-0000-4000-8000-000000000009" []
    (.obj [(chars "cmd_id", .str (chars command)), (chars "delivery_id", .str (chars "d")),
      (chars "status", .str (chars "accepted")), (chars "received_at", .num 0 none)])

def ownId : String := "00000000-0000-0000-0000-000000000001"

def foreignId : String := "00000000-0000-0000-0000-000000000002"

def acceptanceEnvelope (command : String) : Envelope :=
  ⟨1, "CommandReceipt", "00000000-0000-4000-8000-000000000009", 0, sampleName, none, none,
    some (.obj [(chars "cmd_id", .str (chars command)), (chars "delivery_id", .str (chars "d")),
      (chars "status", .str (chars "accepted")), (chars "received_at", .num 0 none)])⟩

/-- The command of device 8 as it was enqueued. -/
def foreignCommand : CommandRow :=
  (EnqueueArgs.mk 5 8 .restartModem (.obj []) "b" 1000).command 2 0

theorem acceptance_read : readEnvelope (acceptance ownId).frame = .ok (acceptanceEnvelope ownId) := rfl

/-- Device 7 accepts its own command: device 8's stays as it was. -/
theorem own_acceptance_spares :
    SparesOthers 7 twoCommands
      ([acceptance ownId].foldl send (sampleGateway () twoCommands)).cloud.commands := by
  refine (devices_keep_apart sampleDevice (sampleGateway () twoCommands)).1 [acceptance ownId]
    ⟨⟨rfl, ?_, ?_⟩, trivial⟩
  · intro envelope read
    cases acceptance_read.symm.trans read
    exact Or.inl rfl
  · intro envelope read
    cases acceptance_read.symm.trans read
    intro id named
    have one : namedCommand (acceptance ownId).env (acceptanceEnvelope ownId) = some 1 := by
      decide
    cases one.symm.trans named
    rintro ⟨command, member, _, same, differs⟩
    have rows : ∀ row ∈ twoCommands.commands, row.id = 1 → row.deviceId = 7 := by decide
    exact differs (rows command member same)

/-- Device 7 accepts the command of device 8: it is no longer queued. -/
theorem foreign_acceptance_lands :
    readEnvelope (acceptance foreignId).frame = .ok (acceptanceEnvelope foreignId) ∧
    Live (acceptance foreignId).env sampleSession (acceptanceEnvelope foreignId)
      (sampleGateway () twoCommands) ∧
    foreignCommand ∈ twoCommands.commands ∧ foreignCommand.deviceId ≠ sampleDevice.deviceId ∧
    ({ foreignCommand with status := .accepted, acceptedAt := some 0 } : CommandRow) ∈
      (send (sampleGateway () twoCommands) (acceptance foreignId)).cloud.commands.commands ∧
    ¬ SparesOthers sampleDevice.deviceId twoCommands
      (send (sampleGateway () twoCommands) (acceptance foreignId)).cloud.commands := by
  have member : foreignCommand ∈ twoCommands.commands := by
    rw [← Table.mem_rows]
    decide
  have gone : ∀ row ∈ (send (sampleGateway () twoCommands) (acceptance foreignId)).cloud.commands.commands,
      row ≠ foreignCommand := by
    decide
  refine ⟨rfl, live_sample rfl (by decide), member, by decide, ?_, ?_⟩
  · rw [← Table.mem_rows]
    decide
  · intro spares
    exact gone _ ((spares.commands foreignCommand (by decide)).mp member) rfl

end VodogeCloud.Guarantees.DeviceIsolation
