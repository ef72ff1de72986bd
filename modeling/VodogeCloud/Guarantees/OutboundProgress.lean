import VodogeCloud.Guarantees.DeliveryOrder
import VodogeCloud.Guarantees.MirroredMessages
import VodogeCloud.Source.MessageWriters

/-!
# Outbound messages move forward

Five writers share the status of an outbound message, each behind a condition of
its own. Every one of them either leaves the message or takes it a stage further:
queued, given up, sent, and last what the network said of it. The two that may come
too late, the answer of the device and the expiry, no longer find a message that is
sent; the report finds it by a reference that none of them takes away.
-/

set_option autoImplicit false

namespace VodogeCloud.Guarantees.OutboundProgress

open VodogeCloud.Lib VodogeCloud.Lib.Transactions
open VodogeCloud.Source.Postgres VodogeCloud.Source.CommandTables VodogeCloud.Source.CommandLifecycle
open VodogeCloud.Source.DeviceProjection VodogeCloud.Source.DeliveryReports
open VodogeCloud.Source.MessageWriters
open VodogeCloud.Guarantees.LifecycleSteps VodogeCloud.Guarantees.TerminalCommands
open VodogeCloud.Guarantees.ResultReplay

/-! ## One message -/

/-- How far a message has come. -/
def stage : MessageStatus → Nat
  | .received => 0
  | .queued => 0
  | .failed => 1
  | .sent => 2
  | .delivered => 3
  | .undelivered => 3

theorem stage_le (status : MessageStatus) : stage status ≤ 3 := by
  cases status <;> decide

structure Onward (row after : MessageRow) : Prop where
  stage : stage row.status ≤ stage after.status
  unqueued : row.status ≠ .queued → after.status ≠ .queued
  reference : row.providerReference.isSome = true → after.providerReference.isSome = true

theorem Onward.refl (row : MessageRow) : Onward row row := ⟨Nat.le_refl _, id, id⟩

theorem Onward.trans {a b c : MessageRow} (first : Onward a b) (second : Onward b c) : Onward a c :=
  ⟨Nat.le_trans first.stage second.stage, fun started => second.unqueued (first.unqueued started),
    fun known => second.reference (first.reference known)⟩

/-- The command of the message is expired or cancelled. -/
def GivenUp (db : CommandDb) (row : MessageRow) : Prop :=
  ∃ command ∈ db.commands, row.commandId = some command.id ∧ command.tenantId = row.tenantId ∧
    givenUp command.status

theorem settleHit_parts {db : CommandDb} {tenant command : Uuid} {row : MessageRow}
    (hit : settleHit tenant command db.commands.rows row = true) :
    row.status = .queued ∨ (row.status = .failed ∧ GivenUp db row) := by
  simp only [settleHit, Bool.and_eq_true, Bool.or_eq_true, decide_eq_true_eq, List.any_eq_true] at hit
  obtain ⟨⟨⟨tenant_, named⟩, _⟩, queued | ⟨failed, other, member, late⟩⟩ := hit
  · exact Or.inl queued
  · obtain ⟨own, gone⟩ := lateHit_iff.mp late
    simp only [commandOf, Bool.and_eq_true, decide_eq_true_eq] at own
    exact Or.inr ⟨failed, other, member, by rw [named, own.2], by rw [own.1, tenant_], gone⟩

theorem settledStatus_cases (succeeded : Bool) :
    settledStatus succeeded = .sent ∨ settledStatus succeeded = .failed := by
  cases succeeded with
  | true => exact Or.inl rfl
  | false => exact Or.inr rfl

section Writers

variable {db : CommandDb} {row : MessageRow}

theorem settleMessage_onward {tenant command : Uuid} {succeeded : Bool} {reason : String}
    {reference : Option Int} {now : Timestamp}
    (hit : settleHit tenant command db.commands.rows row = true) :
    Onward row (settleMessage (settledStatus succeeded) reason reference now row) := by
  have kept : row.providerReference.isSome = true → (reference <|> row.providerReference).isSome = true := by
    intro known
    cases reference with
    | none => exact known
    | some number => rfl
  rcases settleHit_parts hit with queued | ⟨failed, _⟩
  · refine ⟨by rw [queued]; exact Nat.zero_le _, fun started => absurd queued started, kept⟩
  · rcases settledStatus_cases succeeded with sent | refused
    · refine ⟨?_, fun _ => ?_, kept⟩
      · simp [settleMessage, failed, sent, stage]
      · simp [settleMessage, failed, sent]
    · refine ⟨?_, fun _ => ?_, kept⟩
      · simp [settleMessage, failed, refused]
      · simp [settleMessage, failed, refused]

theorem failMessage_onward {text : MessageRow → String} (queued : row.status = .queued) :
    Onward row (failMessage text row) :=
  ⟨by rw [queued]; exact Nat.zero_le _, fun started => absurd queued started, id⟩

theorem mark_onward (report : Report) : Onward row (report.mark row) := by
  cases outcome : report.outcome with
  | none =>
    have same : report.mark row = row := by
      unfold Report.mark
      rw [outcome]
      rfl
    rw [same]
    exact Onward.refl row
  | some told =>
    have status : (report.mark row).status = told.status := by
      unfold Report.mark
      rw [outcome]
      rfl
    refine ⟨?_, fun _ => ?_, id⟩
    · rw [status]
      cases told with
      | delivered at_ => exact stage_le row.status
      | undelivered => exact stage_le row.status
    · rw [status]
      cases told with
      | delivered at_ => nofun
      | undelivered => nofun

end Writers

/-! ## One transaction -/

/-- Every message is still there, and stands as `turn` says to what it was. -/
def Carries (turn : MessageRow → MessageRow → Prop) (db db' : CommandDb) : Prop :=
  ∀ row ∈ db.messages, ∃ after ∈ db'.messages, after.identity = row.identity ∧ turn row after

theorem Carries.mono {turn wider : MessageRow → MessageRow → Prop} {db db' : CommandDb}
    (carries : Carries turn db db') (implies : ∀ row after, turn row after → wider row after) :
    Carries wider db db' := by
  intro row member
  obtain ⟨after, inTable, same, done⟩ := carries row member
  exact ⟨after, inTable, same, implies row after done⟩

theorem carries_same {turn : MessageRow → MessageRow → Prop} (refl : ∀ row, turn row row) {db db' : CommandDb}
    (kept : ∀ row ∈ db.messages, row ∈ db'.messages) : Carries turn db db' :=
  fun row member => ⟨row, kept row member, rfl, refl row⟩

/-- What a transaction writes to a message, where it writes one. -/
def Written (db : CommandDb) (op : MessageOp) (row after : MessageRow) : Prop :=
  match op with
  | .settleOutbound tenant commandId succeeded reason reference now =>
    ∃ command, uuidIn commandId = .ok command ∧ settleHit tenant command db.commands.rows row = true ∧
      after = settleMessage (settledStatus succeeded) reason reference now row
  | .expireCommand _ _ _ _ | .expireOverdueCommands _ _ _ _ | .expireOverdueTenantCommands _ _ _ =>
    row.status = .queued ∧ ∃ text, after = failMessage text row
  | .statusReport _ => ∃ report : Report, after = report.mark row
  | .recordOutbound _ _ _ _ | .elsewhere _ => False

/-- Left as it was, or written. -/
def Turn (db : CommandDb) (op : MessageOp) (row after : MessageRow) : Prop :=
  after = row ∨ Written db op row after

section Step

variable {casts : Casts} {calendar : Calendar} {inbox next : Inbox}

theorem carries_update {turn : MessageRow → MessageRow → Prop} (refl : ∀ row, turn row row) {db : CommandDb}
    {hit : MessageRow → Bool} {change : MessageRow → MessageRow}
    {keeps : ∀ row, (change row).identity = row.identity}
    (writes : ∀ row, hit row = true → turn row (change row)) :
    Carries turn db (db.updateMessages hit change keeps) := by
  intro row member
  refine ⟨if hit row then change row else row, mem_updateMessages.mpr ⟨row, member, rfl⟩, ?_⟩
  split
  · next reached => exact ⟨keeps row, writes row reached⟩
  · exact ⟨rfl, refl row⟩

theorem expiry_carries {db db2 : CommandDb} {hit : CommandRow → Bool} {at_ : Timestamp} {tenant : Uuid}
    {ids : List Uuid} {wakeups : OutboxRow → Bool} {settleRow : OutboxRow → OutboxRow}
    {keepsRow : ∀ row, (settleRow row).identity = row.identity} {text : MessageRow → String}
    (settled : (db.updateCommands hit (expireRow calendar at_)
      (expireRow_identity calendar at_)).updateOutbox wakeups settleRow keepsRow = .ok db2) :
    Carries (fun row after => after = row ∨ row.status = .queued ∧ ∃ text, after = failMessage text row)
      db (db2.updateMessages (queuedMessageOf tenant ids) (failMessage text) (failMessage_identity text)) := by
  obtain ⟨_, _, _, messages, _⟩ := updateOutbox_ok settled
  have untouched : db2.messages = db.messages := messages
  have written := @carries_update
    (fun row after => after = row ∨ row.status = .queued ∧ ∃ text, after = failMessage text row)
    (fun _ => Or.inl rfl) db2 (queuedMessageOf tenant ids) (failMessage text) (failMessage_identity text)
    (fun row reached => by
      simp only [queuedMessageOf, Bool.and_eq_true, decide_eq_true_eq] at reached
      exact Or.inr ⟨reached.2, text, rfl⟩)
  intro row member
  exact written row (by rwa [untouched])

theorem expireSweep_carries {tenant : Uuid} {hit : CommandRow → Bool} {now : Timestamp} {db db' : CommandDb}
    {count : Nat} (h : expireSweep calendar tenant hit now db = .ok (db', count)) :
    Carries (fun row after => after = row ∨ row.status = .queued ∧ ∃ text, after = failMessage text row)
      db db' := by
  obtain ⟨db2, settled, h⟩ := bind_success h
  cases h
  exact expiry_carries settled

theorem projectStatusReport_carries {record : Source.IngressWindow.IngressRow}
    (h : projectStatusReport casts record inbox = .ok next) :
    Carries (fun row after => after = row ∨ ∃ report : Report, after = report.mark row) inbox.db next.db := by
  obtain ⟨reference, _, h⟩ := bind_success h
  split at h
  · cases h
    exact carries_same (fun _ => Or.inl rfl) fun _ member => member
  · obtain ⟨report, _, h⟩ := bind_success h
    cases h
    exact @carries_update _ (fun _ => Or.inl rfl) _ _ _ report.mark_identity fun row _ => Or.inr ⟨report, rfl⟩

theorem apply_carries {op : MessageOp} (h : op.apply casts calendar inbox = .ok next) :
    Carries (Turn inbox.db op) inbox.db next.db := by
  cases op with
  | recordOutbound registered message id now =>
    obtain ⟨db', recorded, h⟩ := bind_success h
    cases h
    refine carries_same (fun _ => Or.inl rfl) fun row member => ?_
    rcases MirroredMessages.recordOutbound_cases recorded with rfl | ⟨_, _, members⟩
    · exact member
    · exact (members row).mpr (Or.inl member)
  | settleOutbound tenant commandId succeeded reason reference now =>
    obtain ⟨db', settled, h⟩ := bind_success h
    cases h
    obtain ⟨command, named, rfl⟩ := settleOutbound_ok settled
    exact @carries_update _ (fun _ => Or.inl rfl) _ _ _ (settleMessage_identity _ reason reference now)
      fun row hit => Or.inr ⟨command, named, hit, rfl⟩
  | expireCommand context tenant command expiredAt =>
    obtain ⟨⟨db', expired⟩, done, h⟩ := bind_success h
    cases h
    rcases expireCommand_cases done with rfl | ⟨_, _, _, _, _, settled, rfl⟩
    · exact carries_same (fun _ => Or.inl rfl) fun _ member => member
    · exact expiry_carries settled
  | expireOverdueCommands context tenant device now =>
    obtain ⟨⟨db', count⟩, done, h⟩ := bind_success h
    cases h
    obtain ⟨_, _, swept⟩ := bind_success done
    exact expireSweep_carries swept
  | expireOverdueTenantCommands context tenant now =>
    obtain ⟨⟨db', count⟩, done, h⟩ := bind_success h
    cases h
    obtain ⟨_, _, swept⟩ := bind_success done
    exact expireSweep_carries swept
  | statusReport record => exact projectStatusReport_carries h
  | elsewhere after =>
    cases h
    refine carries_same (fun _ => Or.inl rfl) fun row member => ?_
    split
    · next same =>
      show row ∈ after.messages
      rw [← Table.mem_rows, same]
      exact member
    · exact member

theorem Turn.onward {db : CommandDb} {op : MessageOp} {row after : MessageRow} (turn : Turn db op row after) :
    Onward row after := by
  rcases turn with rfl | written
  · exact Onward.refl after
  · cases op with
    | settleOutbound tenant commandId succeeded reason reference now =>
      obtain ⟨command, _, hit, rfl⟩ := written
      exact settleMessage_onward hit
    | expireCommand context tenant command expiredAt =>
      obtain ⟨queued, text, rfl⟩ := written
      exact failMessage_onward queued
    | expireOverdueCommands context tenant device now =>
      obtain ⟨queued, text, rfl⟩ := written
      exact failMessage_onward queued
    | expireOverdueTenantCommands context tenant now =>
      obtain ⟨queued, text, rfl⟩ := written
      exact failMessage_onward queued
    | statusReport record =>
      obtain ⟨report, rfl⟩ := written
      exact mark_onward report
    | recordOutbound registered message id now => exact written.elim
    | elsewhere after => exact written.elim

/-! ## Runs -/

variable (casts calendar)

/-- The message after one more transaction, which may have failed. -/
theorem settle_carries (op : MessageOp) (inbox : Inbox) :
    Carries (Turn inbox.db op) inbox.db (settle (MessageOp.apply casts calendar) inbox op).db := by
  cases outcome : op.apply casts calendar inbox with
  | ok next =>
    rw [settle_of_ok outcome]
    exact apply_carries outcome
  | error err =>
    rw [settle_of_error outcome]
    exact carries_same (fun _ => Or.inl rfl) fun _ member => member

theorem run_onward (inbox : Inbox) (ops : List MessageOp) :
    Carries Onward inbox.db (run (MessageOp.apply casts calendar) inbox ops).db := by
  refine foldl_rel (R := fun a b : Inbox => Carries Onward a.db b.db) ?_ ?_ ?_ inbox ops
  · exact fun state => carries_same Onward.refl fun _ member => member
  · intro a b c first second row member
    obtain ⟨middle, inMiddle, same, onward⟩ := first row member
    obtain ⟨after, inTable, same', onward'⟩ := second middle inMiddle
    exact ⟨after, inTable, same'.trans same, onward.trans onward'⟩
  · exact fun state op => (settle_carries casts calendar op state).mono fun _ _ => Turn.onward

/-- What `SettleOutbound` may do to a message. -/
def Answered (db : CommandDb) (row after : MessageRow) : Prop :=
  after = row ∨ row.status = .queued ∨
    (row.status = .failed ∧ GivenUp db row ∧ (after.status = row.status ∨ after.status = .sent))

theorem settleOutbound_answers (tenant : Uuid) (commandId : String) (succeeded : Bool) (reason : String)
    (reference : Option Int) (now : Timestamp) (inbox : Inbox) :
    Carries (Answered inbox.db) inbox.db (settle (MessageOp.apply casts calendar) inbox
      (.settleOutbound tenant commandId succeeded reason reference now)).db := by
  refine (settle_carries casts calendar _ inbox).mono fun row after turn => ?_
  rcases turn with kept | ⟨command, _, hit, rfl⟩
  · exact Or.inl kept
  · rcases settleHit_parts hit with queued | ⟨failed, gone⟩
    · exact Or.inr (Or.inl queued)
    · refine Or.inr (Or.inr ⟨failed, gone, ?_⟩)
      rcases settledStatus_cases succeeded with sent | refused
      · exact Or.inr (by simp [settleMessage, failed, sent])
      · exact Or.inl (by simp [settleMessage, failed, refused])

/-- `SettleOutbound` and the three expiry functions. -/
def settles : MessageOp → Bool
  | .settleOutbound _ _ _ _ _ _ => true
  | .expireCommand _ _ _ _ => true
  | .expireOverdueCommands _ _ _ _ => true
  | .expireOverdueTenantCommands _ _ _ => true
  | _ => false

/-- What was sent is left as it is. -/
theorem late_spares {op : MessageOp} (late : settles op = true) (inbox : Inbox) {row : MessageRow}
    (member : row ∈ inbox.db.messages) (gone : row.status ∈ [.sent, .delivered, .undelivered]) :
    row ∈ (settle (MessageOp.apply casts calendar) inbox op).db.messages := by
  obtain ⟨after, inTable, _, turn⟩ := settle_carries casts calendar op inbox row member
  have waiting : row.status ≠ .queued ∧ row.status ≠ .failed := by
    simp only [List.mem_cons, List.not_mem_nil, or_false] at gone
    rcases gone with sent | delivered | undelivered
    · simp [sent]
    · simp [delivered]
    · simp [undelivered]
  rcases turn with rfl | written
  · exact inTable
  · cases op with
    | settleOutbound tenant commandId succeeded reason reference now =>
      obtain ⟨command, _, hit, _⟩ := written
      rcases settleHit_parts hit with queued | ⟨failed, _⟩
      · exact absurd queued waiting.1
      · exact absurd failed waiting.2
    | expireCommand context tenant command expiredAt => exact absurd written.1 waiting.1
    | expireOverdueCommands context tenant device now => exact absurd written.1 waiting.1
    | expireOverdueTenantCommands context tenant now => exact absurd written.1 waiting.1
    | recordOutbound registered message id now => cases late
    | statusReport record => cases late
    | elsewhere after => cases late

/-- From every inbox, in every run of the writers and in every state of it: the
messages there are move forward only and keep a reference once they have one,
`SettleOutbound` reaches none but those that wait and those the cloud gave up, it and
the expiry functions leave alone what was sent, and a command has one message. -/
theorem outbound_messages_move_forward (inbox : Inbox) (early later : List MessageOp) :
    let reached := run (MessageOp.apply casts calendar) inbox early
    Carries Onward reached.db (run (MessageOp.apply casts calendar) reached later).db ∧
    (∀ tenant commandId succeeded reason reference now,
      Carries (Answered reached.db) reached.db (settle (MessageOp.apply casts calendar) reached
        (.settleOutbound tenant commandId succeeded reason reference now)).db) ∧
    (∀ op : MessageOp, settles op = true → ∀ row ∈ reached.db.messages,
      row.status ∈ [.sent, .delivered, .undelivered] →
      row ∈ (settle (MessageOp.apply casts calendar) reached op).db.messages) ∧
    ∀ a ∈ reached.db.messages, ∀ b ∈ reached.db.messages, a.commandId.isSome = true →
      a.commandId = b.commandId → a = b := by
  intro reached
  refine ⟨run_onward casts calendar reached later, ?_, ?_, ?_⟩
  · intro tenant commandId succeeded reason reference now
    exact settleOutbound_answers casts calendar tenant commandId succeeded reason reference now reached
  · intro op late row member gone
    exact late_spares casts calendar late reached member gone
  · exact fun a memberA b memberB known same => reached.db.valid.messageCommand a memberA b memberB known same

end Step

/-- The command of tenant 1, and no message yet. -/
def emptyInbox : Inbox := ⟨oneCommand, fun _ => ⟨"", 0, none, none⟩⟩

/-- Its message is recorded, the cloud gives the command up, the device answers that
it was sent. -/
def lateAnswer : List MessageOp :=
  [.recordOutbound (fun _ _ => true) ⟨1, 2, "+100", "hello", 3⟩ 9 1,
    .expireOverdueTenantCommands (some 1) 1 (some 1000),
    .settleOutbound 1 "00000000-0000-0000-0000-000000000003" true "" (some 7) 1001]

def statusesAfter (steps : Nat) : List (MessageStatus × Option Int) :=
  (run (MessageOp.apply AcceptedRecords.plainCasts plainCalendar) emptyInbox
    (lateAnswer.take steps)).db.messages.rows.map fun row => (row.status, row.providerReference)

theorem late_answer_moves_forward :
    [statusesAfter 1, statusesAfter 2, statusesAfter 3] =
      [[(.queued, none)], [(.failed, none)], [(.sent, some 7)]] ∧
    Carries Onward
      (run (MessageOp.apply AcceptedRecords.plainCasts plainCalendar) emptyInbox (lateAnswer.take 1)).db
      (run (MessageOp.apply AcceptedRecords.plainCasts plainCalendar)
        (run (MessageOp.apply AcceptedRecords.plainCasts plainCalendar) emptyInbox (lateAnswer.take 1))
        (lateAnswer.drop 1)).db :=
  ⟨by decide,
    (outbound_messages_move_forward AcceptedRecords.plainCasts plainCalendar emptyInbox (lateAnswer.take 1)
      (lateAnswer.drop 1)).1⟩

end VodogeCloud.Guarantees.OutboundProgress
