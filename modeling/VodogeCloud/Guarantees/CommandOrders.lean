import VodogeCloud.Guarantees.EnqueuedCommands
import VodogeCloud.Guarantees.TerminalCommands

/-!
# What stays of a command

The lifecycle writes the status of a command and the times and results that go with
it; what was ordered, of which device and until when, is written once. `Touched` lists
what an operation can do to one command: leave it, dispatch it, expire it, or, where
the operation is an answer to this command, record the answer.
-/

set_option autoImplicit false

namespace VodogeCloud.Guarantees.CommandOrders

open VodogeCloud.Lib VodogeCloud.Lib.Transactions
open VodogeCloud.Source.Postgres VodogeCloud.Source.CommandTables
open VodogeCloud.Source.CommandLifecycle
open VodogeCloud.Guarantees.LifecycleSteps
open VodogeCloud.Guarantees.EnqueuedCommands (enqueueCommand_cases)
open VodogeCloud.Guarantees.TerminalCommands (commandOf_unique)

/-- The columns no statement updates. -/
def order (row : CommandRow) :
    (Uuid × Uuid × Uuid × CommandKind) × Jsonb × String × Timestamp × Timestamp :=
  ((row.id, row.tenantId, row.deviceId, row.kind), row.payload, row.idempotencyKey, row.issuedAt,
    row.expiresAt)

/-- The command an operation is an answer to. -/
def answers : CommandOp → Option Uuid
  | .applyCommandReceipt _ args _ => args.commandId
  | .applyCommandResult _ args _ => args.commandId
  | .recordReceipt _ receipt _ => (uuidIn receipt.commandId).toOption
  | .recordResult _ result _ => (uuidIn result.commandId).toOption
  | _ => none

inductive Touched (answered : Option Uuid) (row : CommandRow) : CommandRow → Prop
  | kept : Touched answered row row
  | dispatched (at_ : Timestamp) (due : row.status.deliverable = true) :
    Touched answered row (dispatchRow at_ row)
  | expired (calendar : Calendar) (at_ : Timestamp) : Touched answered row (expireRow calendar at_ row)
  | answered {after : CommandRow} (own : answered = some row.id) (same : order after = order row) :
    Touched answered row after

theorem Touched.order_eq {answered : Option Uuid} {row after : CommandRow}
    (h : Touched answered row after) : order after = order row := by
  cases h with
  | kept => rfl
  | dispatched => rfl
  | expired => rfl
  | answered _ same => exact same

theorem Touched.fields {answered : Option Uuid} {row after : CommandRow}
    (h : Touched answered row after) :
    after.id = row.id ∧ after.tenantId = row.tenantId ∧ after.deviceId = row.deviceId ∧
      after.kind = row.kind ∧ after.payload = row.payload ∧
      after.idempotencyKey = row.idempotencyKey ∧ after.issuedAt = row.issuedAt := by
  have same := h.order_eq
  simp only [order, Prod.mk.injEq] at same
  obtain ⟨⟨id, tenant, device, kind⟩, payload, key, issued, _⟩ := same
  exact ⟨id, tenant, device, kind, payload, key, issued⟩

/-- Each command is touched and none comes or goes. -/
structure Rewritten (answered : Option Uuid) (db db' : CommandDb) : Prop where
  onward : ∀ row ∈ db.commands, ∃ after ∈ db'.commands, Touched answered row after
  back : ∀ after ∈ db'.commands, ∃ row ∈ db.commands, Touched answered row after

section Statements

variable {answered : Option Uuid} {db db' : CommandDb}

theorem rewritten_of_eq (same : db'.commands = db.commands) : Rewritten answered db db' := by
  constructor
  · intro row member
    exact ⟨row, by rwa [same], .kept⟩
  · intro after member
    rw [same] at member
    exact ⟨after, member, .kept⟩

theorem rewritten_updateCommands {middle : CommandDb} {hit : CommandRow → Bool}
    {change : CommandRow → CommandRow} {keeps : ∀ row, (change row).identity = row.identity}
    (before : middle.commands = db.commands)
    (after : db'.commands = (middle.updateCommands hit change keeps).commands)
    (touch : ∀ row ∈ db.commands, hit row = true → Touched answered row (change row)) :
    Rewritten answered db db' := by
  have once : ∀ row ∈ db.commands, Touched answered row (if hit row then change row else row) := by
    intro row member
    by_cases reached : hit row = true
    · rw [if_pos reached]
      exact touch row member reached
    · rw [if_neg reached]
      exact .kept
  constructor
  · intro row member
    refine ⟨_, ?_, once row member⟩
    rw [after]
    exact mem_updateCommands.mpr ⟨row, by rwa [before], rfl⟩
  · intro row member
    rw [after] at member
    obtain ⟨old, inOld, rfl⟩ := mem_updateCommands.mp member
    rw [before] at inOld
    exact ⟨old, inOld, once old inOld⟩

/-- A statement that answers the command it names. -/
theorem touched_by_answer {tenant id : Uuid} {row after : CommandRow}
    (named : answered = some id) (reached : commandOf tenant id row = true)
    (same : order after = order row) : Touched answered row after := by
  simp only [commandOf, Bool.and_eq_true, decide_eq_true_eq] at reached
  exact .answered (named.trans (congrArg some reached.2.symm)) same

end Statements

section Operations

variable {db db' : CommandDb} {calendar : Calendar}

theorem claimCommandOutbox_commands {context : Option Uuid} {args : ClaimArgs}
    {locked : OutboxRow → Bool} {now : Timestamp} {claimed : List ClaimedRow}
    (h : claimCommandOutbox calendar context args locked now db = .ok (db', claimed)) :
    db'.commands = db.commands := by
  obtain ⟨_, _, written⟩ := claimCommandOutbox_ok h
  exact (updateOutbox_ok written).2.1

theorem markCommandOutboxPublished_commands {context : Option Uuid} {tenant : Uuid} {outboxId : Nat}
    {worker : Option String} {now : Timestamp} {updated : Bool}
    (h : markCommandOutboxPublished context tenant outboxId worker now db = .ok (db', updated)) :
    db'.commands = db.commands := by
  obtain ⟨_, written⟩ := markCommandOutboxPublished_ok h
  exact (updateOutbox_ok written).2.1

theorem requeueUnresolvedOutbox_commands {context : Option Uuid} {tenant : Uuid}
    {after : Option Interval} {limit : Option Int} {locked : OutboxRow → Bool} {now : Timestamp}
    {count : Nat}
    (h : requeueUnresolvedOutbox calendar context tenant after limit locked now db =
      .ok (db', count)) : db'.commands = db.commands := by
  obtain ⟨_, written⟩ := requeueUnresolvedOutbox_ok h
  exact (updateOutbox_ok written).2.1

theorem retryCommandOutboxWakeup_commands {context : Option Uuid} {tenant : Uuid} {outboxId : Nat}
    {worker : Option String} {availableAt : Option Timestamp} {reason : Option String}
    {now : Timestamp} {updated : Bool}
    (h : retryCommandOutboxWakeup context tenant outboxId worker availableAt reason now db =
      .ok (db', updated)) : db'.commands = db.commands := by
  obtain ⟨_, _, _, written⟩ := retryCommandOutboxWakeup_ok h
  exact (updateOutbox_ok written).2.1

theorem recordCommandDeliveryAttempt_rewrites {context : Option Uuid} {args : AttemptArgs}
    {recorded : Bool} (h : recordCommandDeliveryAttempt context args db = .ok (db', recorded)) :
    Rewritten none db db' := by
  rcases recordCommandDeliveryAttempt_cases h with rfl | ⟨command, row, at_, db1, found, deliverable, inserted, rfl⟩
  · exact rewritten_of_eq rfl
  · refine rewritten_updateCommands (insertAttempt_ok inserted).1 rfl
      fun row member reached => .dispatched _ ?_
    rw [commandOf_unique found member reached]
    exact deliverable

theorem applyCommandReceipt_rewrites {context : Option Uuid} {args : ReceiptArgs} {now : Timestamp}
    {replayed : Bool} (h : applyCommandReceipt calendar context args now db = .ok (db', replayed)) :
    Rewritten args.commandId db db' := by
  rcases applyCommandReceipt_cases h with rfl | ⟨commandId, command, row, db1, named, _, attempt, written⟩
  · exact rewritten_of_eq rfl
  · have frame := (insertReceipt_frame attempt).1
    rcases written with ⟨_, resolved⟩ | resolved | ⟨_, _, deferred⟩ | rfl
    · exact rewritten_updateCommands frame (updateOutbox_ok resolved).2.1 fun row _ reached =>
        touched_by_answer named reached rfl
    · exact rewritten_of_eq ((updateOutbox_ok resolved).2.1.trans frame)
    · exact rewritten_of_eq ((updateOutbox_ok deferred).2.1.trans frame)
    · exact rewritten_of_eq frame

theorem applyCommandResult_rewrites {context : Option Uuid} {args : ResultArgs} {now : Timestamp}
    {replayed : Bool} (h : applyCommandResult calendar context args now db = .ok (db', replayed)) :
    Rewritten args.commandId db db' := by
  obtain ⟨commandId, command, named, _, written⟩ := applyCommandResult_cases h
  rcases written with again | ⟨_, status, at_, result, ended⟩
  · exact rewritten_of_eq (updateOutbox_ok again).2.1
  · exact rewritten_updateCommands rfl (updateOutbox_ok ended).2.1 fun row _ reached =>
      touched_by_answer named reached rfl

theorem recordReceipt_rewrites {tenant : Uuid} {receipt : Receipt} {now : Timestamp}
    (h : recordReceipt tenant receipt now db = .ok db') :
    Rewritten (uuidIn receipt.commandId).toOption db db' := by
  obtain ⟨_, commandId, _, db1, inserted, named, attempt, written⟩ := recordReceipt_cases h
  have frame := (insertReceipt_frame attempt).1
  rcases written with ⟨_, rfl⟩ | ⟨_, rfl⟩
  · refine rewritten_updateCommands frame rfl fun row _ reached => ?_
    rw [Bool.and_eq_true] at reached
    exact touched_by_answer (by rw [named]; rfl) reached.1 rfl
  · exact rewritten_of_eq frame

theorem recordResult_rewrites {tenant : Uuid} {result : CommandResult} {now : Timestamp}
    (h : recordResult tenant result now db = .ok db') :
    Rewritten (uuidIn result.commandId).toOption db db' := by
  obtain ⟨status, _, h⟩ := bind_success h
  obtain ⟨detail, _, h⟩ := bind_success h
  obtain ⟨commandId, named, h⟩ := bind_success h
  have answered : (uuidIn result.commandId).toOption = some commandId := by
    rw [named]
    rfl
  dsimp only at h
  obtain ⟨_, commands, _⟩ := updateOutbox_ok h
  by_cases changed : db.commands.rows.any (resultHit tenant commandId) = true
  · rw [if_pos changed] at commands
    refine rewritten_updateCommands rfl commands fun row _ reached => ?_
    rw [resultHit, Bool.and_eq_true] at reached
    exact touched_by_answer answered reached.1 rfl
  · rw [if_neg changed] at commands
    refine rewritten_updateCommands rfl commands fun row _ reached => ?_
    rw [lateHit, Bool.and_eq_true] at reached
    exact touched_by_answer answered reached.1 rfl

theorem expireCommand_rewrites {context : Option Uuid} {tenant command : Uuid}
    {expiredAt : Option Timestamp} {expired : Bool}
    (h : expireCommand calendar context tenant command expiredAt db = .ok (db', expired)) :
    Rewritten none db db' := by
  rcases expireCommand_cases h with rfl | ⟨at_, existing, db2, _, _, written, rfl⟩
  · exact rewritten_of_eq rfl
  · exact rewritten_updateCommands rfl (updateOutbox_ok written).2.1
      fun row _ _ => .expired calendar _

theorem expireSweep_rewrites {tenant : Uuid} {hit : CommandRow → Bool} {now : Timestamp} {count : Nat}
    (h : expireSweep calendar tenant hit now db = .ok (db', count)) : Rewritten none db db' := by
  obtain ⟨db2, written, h⟩ := bind_success h
  cases h
  exact rewritten_updateCommands rfl (updateOutbox_ok written).2.1 fun row _ _ => .expired calendar _

/-- An operation adds the command it enqueues, or touches the commands there are. -/
theorem apply_rewrites {op : CommandOp} (h : op.apply calendar db = .ok db') :
    (∃ registered context args id outboxId now row,
      op = .enqueueCommand registered context args id outboxId now ∧
      enqueueCommand registered context args id outboxId now db = .ok (db', row)) ∨
    Rewritten (answers op) db db' := by
  cases op with
  | recordReceipt => exact Or.inr (recordReceipt_rewrites h)
  | recordResult => exact Or.inr (recordResult_rewrites h)
  | enqueueCommand registered context args id outboxId now =>
    obtain ⟨⟨_, row⟩, done, rfl⟩ := map_success h
    exact Or.inl ⟨registered, context, args, id, outboxId, now, row, rfl, done⟩
  | claimCommandOutbox =>
    obtain ⟨⟨_, _⟩, done, rfl⟩ := map_success h
    exact Or.inr (rewritten_of_eq (claimCommandOutbox_commands done))
  | markCommandOutboxPublished =>
    obtain ⟨⟨_, _⟩, done, rfl⟩ := map_success h
    exact Or.inr (rewritten_of_eq (markCommandOutboxPublished_commands done))
  | requeueUnresolvedOutbox =>
    obtain ⟨⟨_, _⟩, done, rfl⟩ := map_success h
    exact Or.inr (rewritten_of_eq (requeueUnresolvedOutbox_commands done))
  | retryCommandOutboxWakeup =>
    obtain ⟨⟨_, _⟩, done, rfl⟩ := map_success h
    exact Or.inr (rewritten_of_eq (retryCommandOutboxWakeup_commands done))
  | recordCommandDeliveryAttempt =>
    obtain ⟨⟨_, _⟩, done, rfl⟩ := map_success h
    exact Or.inr (recordCommandDeliveryAttempt_rewrites done)
  | applyCommandReceipt =>
    obtain ⟨⟨_, _⟩, done, rfl⟩ := map_success h
    exact Or.inr (applyCommandReceipt_rewrites done)
  | applyCommandResult =>
    obtain ⟨⟨_, _⟩, done, rfl⟩ := map_success h
    exact Or.inr (applyCommandResult_rewrites done)
  | expireCommand =>
    obtain ⟨⟨_, _⟩, done, rfl⟩ := map_success h
    exact Or.inr (expireCommand_rewrites done)
  | expireOverdueCommands =>
    obtain ⟨⟨_, _⟩, done, rfl⟩ := map_success h
    obtain ⟨_, _, swept⟩ := bind_success done
    exact Or.inr (expireSweep_rewrites swept)
  | expireOverdueTenantCommands =>
    obtain ⟨⟨_, _⟩, done, rfl⟩ := map_success h
    obtain ⟨_, _, swept⟩ := bind_success done
    exact Or.inr (expireSweep_rewrites swept)

/-- An operation that enqueues no command of a kind leaves those there are, but for their
status. -/
theorem apply_keeps_kind {kind : CommandKind} {op : CommandOp}
    (other : ∀ registered context args id outboxId now,
      op = .enqueueCommand registered context args id outboxId now → args.kind ≠ kind)
    (h : op.apply calendar db = .ok db') :
    (∀ row ∈ db.commands, ∃ after ∈ db'.commands, Touched (answers op) row after) ∧
      ∀ after ∈ db'.commands, after.kind = kind → ∃ row ∈ db.commands, Touched (answers op) row after := by
  rcases apply_rewrites h with ⟨registered, context, args, id, outboxId, now, row, rfl, done⟩ | rewritten
  · rcases enqueueCommand_cases done with ⟨rfl, _⟩ | ⟨rfl, _, _, members⟩
    · exact ⟨fun row member => ⟨row, member, .kept⟩, fun row member _ => ⟨row, member, .kept⟩⟩
    · refine ⟨fun row member => ⟨row, (members row).mpr (Or.inl member), .kept⟩, ?_⟩
      intro after member same
      rcases (members after).mp member with old | rfl
      · exact ⟨after, old, .kept⟩
      · exact absurd same (other registered context args id outboxId now rfl)
  · exact ⟨rewritten.onward, fun after member _ => rewritten.back after member⟩

end Operations

end VodogeCloud.Guarantees.CommandOrders
