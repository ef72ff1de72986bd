import VodogeCloud.Lib.Transactions
import VodogeCloud.Source.CommandLifecycle

/-!
# What a function of the lifecycle did when it committed

One lemma for each function: the statements it ran, with what its checks found before
them. What holds over a run of the lifecycle is read off these and not off the functions.
-/

set_option autoImplicit false

namespace VodogeCloud.Guarantees.LifecycleSteps

open VodogeCloud.Lib.Transactions
open VodogeCloud.Source.Postgres VodogeCloud.Source.CommandTables
open VodogeCloud.Source.CommandLifecycle

variable {calendar : Calendar} {context : Option Uuid} {tenant : Uuid} {now : Timestamp}
  {db db' : CommandDb}

/-! ## The dispatcher -/

theorem claimCommandOutbox_ok {args : ClaimArgs} {locked : OutboxRow → Bool}
    {claimed : List ClaimedRow}
    (h : claimCommandOutbox calendar context args locked now db = .ok (db', claimed)) :
    ∃ worker until_, db.updateOutbox
      (fun row => (takeInOrder args.limit locked
        (db.outbox.rows.filter (claimable args.tenantId now db.commands.rows))).contains row.id)
      (leaseRow worker until_) (leaseRow_identity worker until_) = .ok db' := by
  obtain ⟨_, _, h⟩ := bind_success h
  split at h
  · cases h
  · obtain ⟨_, h⟩ := check_success h
    obtain ⟨_, h⟩ := check_success h
    obtain ⟨_, h⟩ := check_success h
    obtain ⟨_, h⟩ := check_success h
    obtain ⟨until_, _, h⟩ := bind_success h
    obtain ⟨_, written, h⟩ := bind_success h
    cases h
    exact ⟨_, until_, written⟩

theorem markCommandOutboxPublished_ok {outboxId : Nat} {worker : Option String} {updated : Bool}
    (h : markCommandOutboxPublished context tenant outboxId worker now db = .ok (db', updated)) :
    ∃ holder, db.updateOutbox (heldBy tenant outboxId holder now) (markPublishedRow now)
      (markPublishedRow_identity now) = .ok db' := by
  obtain ⟨_, _, h⟩ := bind_success h
  split at h
  · cases h
  · obtain ⟨_, h⟩ := check_success h
    obtain ⟨_, written, h⟩ := bind_success h
    cases h
    exact ⟨_, written⟩

theorem requeueUnresolvedOutbox_ok {after : Option Interval} {limit : Option Int}
    {locked : OutboxRow → Bool} {count : Nat}
    (h : requeueUnresolvedOutbox calendar context tenant after limit locked now db =
      .ok (db', count)) :
    ∃ before, db.updateOutbox
      (fun row => (takeInOrder limit locked
        (db.outbox.rows.filter (stale tenant before db.commands.rows))).contains row.id)
      (requeueRow now) (requeueRow_identity now) = .ok db' := by
  obtain ⟨_, _, h⟩ := bind_success h
  obtain ⟨_, h⟩ := check_success h
  obtain ⟨_, h⟩ := check_success h
  obtain ⟨before, _, h⟩ := bind_success h
  obtain ⟨_, written, h⟩ := bind_success h
  cases h
  exact ⟨before, written⟩

theorem retryCommandOutboxWakeup_ok {outboxId : Nat} {worker : Option String}
    {availableAt : Option Timestamp} {reason : Option String} {updated : Bool}
    (h : retryCommandOutboxWakeup context tenant outboxId worker availableAt reason now db =
      .ok (db', updated)) :
    ∃ holder at_ text, db.updateOutbox (heldBy tenant outboxId holder now) (retryRow at_ text)
      (retryRow_identity at_ text) = .ok db' := by
  obtain ⟨_, _, h⟩ := bind_success h
  split at h
  · cases h
  · obtain ⟨_, h⟩ := check_success h
    split at h
    · cases h
    · obtain ⟨_, h⟩ := check_success h
      split at h
      · cases h
      · obtain ⟨_, h⟩ := check_success h
        obtain ⟨_, written, h⟩ := bind_success h
        cases h
        exact ⟨_, _, _, written⟩

/-! ## Expiry -/

/-- Nothing was due, or the command was expired with its wakeups and its message. -/
theorem expireCommand_cases {command : Uuid} {expiredAt : Option Timestamp} {expired : Bool}
    (h : expireCommand calendar context tenant command expiredAt db = .ok (db', expired)) :
    db' = db ∨ ∃ at_ existing settled,
      db.commands.rows.find? (commandOf tenant command) = some existing ∧
      existing.status.deliverable = true ∧
      (db.updateCommands (commandOf tenant command) (expireRow calendar at_)
        (expireRow_identity calendar at_)).updateOutbox (wakeupOf tenant command) (resolveRow at_)
          (resolveRow_identity at_) = .ok settled ∧
      db' = settled.updateMessages (queuedMessageOf tenant [command])
        (failMessage fun _ => unreceiptedText) (failMessage_identity _) := by
  obtain ⟨_, _, h⟩ := bind_success h
  split at h
  · cases h
  · split at h
    · cases h
    · next existing found =>
      split at h
      · cases h
        exact Or.inl rfl
      · next due =>
        obtain ⟨settled, written, h⟩ := bind_success h
        cases h
        rw [not_or] at due
        exact Or.inr ⟨_, existing, settled, found, by simpa using due.1, written, rfl⟩

/-! ## Deliveries, receipts and results -/

/-- A receipt touches neither the commands nor their wakeups. -/
theorem insertReceipt_frame {row : ReceiptRow} {inserted : Bool}
    (h : db.insertReceipt row = .ok (db', inserted)) :
    db'.commands = db.commands ∧ db'.outbox = db.outbox := by
  rcases (insertReceipt_cases h).2 with ⟨_, rfl, _⟩ | ⟨_, _, _, _, commands, outbox, _⟩
  · exact ⟨rfl, rfl⟩
  · exact ⟨commands, outbox⟩

/-- The attempt is known, the command is not deliverable any more, or the attempt was
inserted and the command dispatched. -/
theorem recordCommandDeliveryAttempt_cases {args : AttemptArgs} {recorded : Bool}
    (h : recordCommandDeliveryAttempt context args db = .ok (db', recorded)) :
    db' = db ∨ ∃ command row at_ attempted,
      db.commands.rows.find? (commandOf args.tenantId args.commandId) = some command ∧
      command.status.deliverable = true ∧ db.insertAttempt row = .ok attempted ∧
      db' = attempted.updateCommands (commandOf args.tenantId args.commandId) (dispatchRow at_)
        (dispatchRow_identity at_) := by
  obtain ⟨_, _, h⟩ := bind_success h
  split at h
  · next at_ _ _ _ =>
    obtain ⟨_, h⟩ := check_success h
    split at h
    · cases h
    · next command found =>
      split at h
      · split at h
        · cases h
          exact Or.inl rfl
        · cases h
      · split at h
        · cases h
          exact Or.inl rfl
        · next deliverable =>
          obtain ⟨_, h⟩ := check_success h
          obtain ⟨_, h⟩ := check_success h
          obtain ⟨attempted, inserted, h⟩ := bind_success h
          cases h
          exact Or.inr ⟨command, _, at_, attempted, found, by simpa using deliverable, inserted, rfl⟩
  · cases h

/-- A replay, or a new receipt: then the command was accepted and its wakeups resolved, or
a deliverable one put off, or nothing more was written. -/
theorem applyCommandReceipt_cases {args : ReceiptArgs} {replayed : Bool}
    (h : applyCommandReceipt calendar context args now db = .ok (db', replayed)) :
    db' = db ∨ ∃ commandId command row noted,
      args.commandId = some commandId ∧
      db.commands.rows.find? (commandOf args.tenantId commandId) = some command ∧
      db.insertReceipt row = .ok (noted, true) ∧
      ((command.status.deliverable = true ∧
          (noted.updateCommands (commandOf args.tenantId commandId) (acceptRow now)
            (acceptRow_identity now)).updateOutbox (wakeupOf args.tenantId commandId) (resolveRow now)
              (resolveRow_identity now) = .ok db') ∨
        noted.updateOutbox (wakeupOf args.tenantId commandId) (resolveRow now)
          (resolveRow_identity now) = .ok db' ∨
        (∃ retryAt reasonCode, noted.updateOutbox (wakeupOf args.tenantId commandId)
          (deferRow retryAt reasonCode) (deferRow_identity retryAt reasonCode) = .ok db') ∨
        db' = noted) := by
  obtain ⟨_, _, h⟩ := bind_success h
  split at h
  · next commandId _ _ _ named _ _ =>
    obtain ⟨_, h⟩ := check_success h
    obtain ⟨_, h⟩ := check_success h
    obtain ⟨_, h⟩ := check_success h
    obtain ⟨_, h⟩ := check_success h
    obtain ⟨kind, _, h⟩ := bind_success h
    split at h
    · split at h
      · cases h
        exact Or.inl rfl
      · cases h
    · obtain ⟨_, h⟩ := check_success h
      split at h
      · cases h
      · next command found =>
        obtain ⟨⟨noted, inserted⟩, attempt, h⟩ := bind_success h
        dsimp only at h
        obtain ⟨isNew, h⟩ := check_success h
        rw [Bool.not_eq_false] at isNew
        rw [isNew] at attempt
        refine Or.inr ⟨commandId, command, _, noted, named, found, attempt, ?_⟩
        split at h
        · obtain ⟨_, written, h⟩ := bind_success h
          cases h
          by_cases due : command.status.deliverable = true
          · rw [if_pos due] at written
            exact Or.inl ⟨due, written⟩
          · rw [if_neg due] at written
            exact Or.inr (Or.inl written)
        · split at h
          · obtain ⟨_, written, h⟩ := bind_success h
            cases h
            exact Or.inr (Or.inr (Or.inl ⟨_, _, written⟩))
          · cases h
            exact Or.inr (Or.inr (Or.inr rfl))
  · cases h

/-- The result that is there already, or the first one of an open command. -/
theorem applyCommandResult_cases {args : ResultArgs} {replayed : Bool}
    (h : applyCommandResult calendar context args now db = .ok (db', replayed)) :
    ∃ commandId command, args.commandId = some commandId ∧
      db.commands.rows.find? (commandOf args.tenantId commandId) = some command ∧
      (db.updateOutbox (wakeupOf args.tenantId commandId) (resolveRow now)
          (resolveRow_identity now) = .ok db' ∨
        (command.status.open = true ∧ ∃ status at_ result,
          (db.updateCommands (commandOf args.tenantId commandId) (finishRow status at_ result)
            (finishRow_identity status at_ result)).updateOutbox (wakeupOf args.tenantId commandId)
              (resolveRow now) (resolveRow_identity now) = .ok db')) := by
  obtain ⟨_, _, h⟩ := bind_success h
  split at h
  · next commandId at_ _ named _ _ =>
    obtain ⟨_, h⟩ := check_success h
    obtain ⟨_, h⟩ := check_success h
    obtain ⟨_, h⟩ := check_success h
    obtain ⟨_, h⟩ := check_success h
    split at h
    · cases h
    · next command found =>
      obtain ⟨_, h⟩ := check_success h
      obtain ⟨status, _, h⟩ := bind_success h
      refine ⟨commandId, command, named, found, ?_⟩
      dsimp only at h
      split at h
      · split at h
        · obtain ⟨_, written, h⟩ := bind_success h
          cases h
          exact Or.inl written
        · cases h
      · next alive =>
        obtain ⟨_, written, h⟩ := bind_success h
        cases h
        exact Or.inr ⟨by simpa using alive, status, at_, _, written⟩
  · cases h

/-- The receipt is noted, and an acceptance reaches a deliverable command. -/
theorem recordReceipt_cases {receipt : Receipt} (h : recordReceipt tenant receipt now db = .ok db') :
    ∃ id commandId kind noted inserted, uuidIn receipt.commandId = .ok commandId ∧
      db.insertReceipt ⟨id, tenant, commandId, kind, .obj [], receipt.receivedAt, none, none, none⟩ =
        .ok (noted, inserted) ∧
      (((receipt.status = "accepted" ∨ receipt.status = "duplicate") ∧
          db' = noted.updateCommands (fun row => commandOf tenant commandId row && row.status.deliverable)
            (fun row => { row with status := .accepted, acceptedAt := some now }) (fun _ => rfl)) ∨
        (¬ (receipt.status = "accepted" ∨ receipt.status = "duplicate") ∧ db' = noted)) := by
  obtain ⟨id, _, h⟩ := bind_success h
  obtain ⟨commandId, named, h⟩ := bind_success h
  obtain ⟨kind, _, h⟩ := bind_success h
  obtain ⟨⟨noted, inserted⟩, attempt, h⟩ := bind_success h
  refine ⟨id, commandId, kind, noted, inserted, named, attempt, ?_⟩
  dsimp only at h
  split at h
  · next accepted =>
    cases h
    exact Or.inl ⟨accepted, rfl⟩
  · next other =>
    cases h
    exact Or.inr ⟨other, rfl⟩

end VodogeCloud.Guarantees.LifecycleSteps
