import VodogeCloud.Guarantees.ResultReplay
import VodogeCloud.Guarantees.ScheduleStores
import VodogeCloud.Source.OutboundSends

/-!
# A finished send does not show as queued

The command of a send and the message that mirrors it are written by separate
transactions. An expiry writes both at once; a result writes the command first
and the message second; the message itself is inserted after the command. The
invariant is that a terminal command with a queued message has a settlement under
way. It is kept by every step but two: inserting the message of a command that is
over already, and losing a settlement.
-/

set_option autoImplicit false

namespace VodogeCloud.Guarantees.MirroredMessages

open VodogeCloud.Lib VodogeCloud.Lib.Transactions
open VodogeCloud.Source.Postgres VodogeCloud.Source.CommandTables VodogeCloud.Source.CommandLifecycle
open VodogeCloud.Source.PendingCommands (Surroundings pendingForDevice redeliverCardPolicy)
open VodogeCloud.Source.ScheduledTasks (ScheduleDb)
open VodogeCloud.Source.OutboundSends
open VodogeCloud.Guarantees.LifecycleSteps VodogeCloud.Guarantees.TerminalCommands
open VodogeCloud.Guarantees.ResultReplay (Parsed settleHit_eq recordResult_parsed)

/-- The message mirrors the command and still shows as queued. -/
def Waiting (command : CommandRow) (message : MessageRow) : Prop :=
  message.commandId = some command.id ∧ message.direction = .outbound ∧ message.status = .queued

/-- The command of a message exists, in the message's tenant. -/
def Owned (db : CommandDb) : Prop :=
  ∀ message ∈ db.messages, ∀ id, message.commandId = some id →
    ∃ command ∈ db.commands, command.id = id ∧ command.tenantId = message.tenantId

/-- A step that queues no message and ends no command without its message. -/
structure Quiet (db db' : CommandDb) : Prop where
  kept : ∀ command ∈ db.commands,
    ∃ after ∈ db'.commands, after.id = command.id ∧ after.tenantId = command.tenantId
  ended : ∀ after ∈ db'.commands, after.status.terminal = true →
    (∃ command ∈ db.commands, command.id = after.id ∧ command.tenantId = after.tenantId ∧
      command.status.terminal = true) ∨
    ∀ message ∈ db'.messages, ¬ Waiting after message
  queued : ∀ message ∈ db'.messages, message.status = .queued → message ∈ db.messages
  named : ∀ message ∈ db'.messages, ∃ old ∈ db.messages,
    old.commandId = message.commandId ∧ old.tenantId = message.tenantId

section Steps

variable {db db' : CommandDb}

theorem Quiet.refl (db : CommandDb) : Quiet db db where
  kept command member := ⟨command, member, rfl, rfl⟩
  ended after member terminal := Or.inl ⟨after, member, rfl, rfl, terminal⟩
  queued _ member _ := member
  named message member := ⟨message, member, rfl, rfl⟩

theorem Quiet.trans {a b c : CommandDb} (first : Quiet a b) (second : Quiet b c) : Quiet a c where
  kept command member := by
    obtain ⟨middle, inMiddle, sameId, sameTenant⟩ := first.kept command member
    obtain ⟨after, inAfter, sameId', sameTenant'⟩ := second.kept middle inMiddle
    exact ⟨after, inAfter, sameId'.trans sameId, sameTenant'.trans sameTenant⟩
  ended after member terminal := by
    rcases second.ended after member terminal with ⟨middle, inMiddle, sameId, sameTenant, terminal'⟩ | none_
    · rcases first.ended middle inMiddle terminal' with ⟨old, inOld, sameId', sameTenant', terminal''⟩ | none_
      · exact Or.inl ⟨old, inOld, sameId'.trans sameId, sameTenant'.trans sameTenant, terminal''⟩
      · refine Or.inr fun message inTable waiting => ?_
        refine none_ message (second.queued message inTable waiting.2.2) ?_
        exact ⟨by rw [sameId]; exact waiting.1, waiting.2⟩
    · exact Or.inr none_
  queued message member status :=
    first.queued message (second.queued message member status) status
  named message member := by
    obtain ⟨middle, inMiddle, sameCommand, sameTenant⟩ := second.named message member
    obtain ⟨old, inOld, sameCommand', sameTenant'⟩ := first.named middle inMiddle
    exact ⟨old, inOld, sameCommand'.trans sameCommand, sameTenant'.trans sameTenant⟩

theorem Quiet.owned (quiet : Quiet db db') (owned : Owned db) : Owned db' := by
  intro message member id named
  obtain ⟨old, inOld, sameCommand, sameTenant⟩ := quiet.named message member
  obtain ⟨command, inTable, sameId, tenant⟩ := owned old inOld id (sameCommand.trans named)
  obtain ⟨after, inAfter, sameId', tenant'⟩ := quiet.kept command inTable
  exact ⟨after, inAfter, sameId'.trans sameId, (tenant'.trans tenant).trans sameTenant⟩

/-- Tables other than commands and messages do not matter. -/
theorem Quiet.of_eq (commands : db'.commands = db.commands) (messages : db'.messages = db.messages) :
    Quiet db db' where
  kept command member := ⟨command, by rwa [commands], rfl, rfl⟩
  ended after member terminal := Or.inl ⟨after, by rwa [← commands], rfl, rfl, terminal⟩
  queued message member _ := by rwa [← messages]
  named message member := ⟨message, by rwa [← messages], rfl, rfl⟩

/-- A statement on the commands that ends none. -/
theorem quiet_updateCommands {hit : CommandRow → Bool} {change : CommandRow → CommandRow}
    {keeps : ∀ row, (change row).identity = row.identity}
    (alive : ∀ row ∈ db.commands, hit row = true → (change row).status.terminal = true →
      row.status.terminal = true) :
    Quiet db (db.updateCommands hit change keeps) where
  kept command member := by
    refine ⟨_, mem_updateCommands.mpr ⟨command, member, rfl⟩, ?_, ?_⟩
    · split
      · exact congrArg (·.1) (keeps command)
      · rfl
    · split
      · exact congrArg (·.2.1) (keeps command)
      · rfl
  ended after member terminal := by
    obtain ⟨old, inOld, rfl⟩ := mem_updateCommands.mp member
    split at terminal
    · next reached =>
      rw [if_pos reached]
      exact Or.inl ⟨old, inOld, (congrArg (·.1) (keeps old)).symm,
        (congrArg (·.2.1) (keeps old)).symm, alive old inOld reached terminal⟩
    · next missed =>
      rw [if_neg missed]
      exact Or.inl ⟨old, inOld, rfl, rfl, terminal⟩
  queued _ member _ := member
  named message member := ⟨message, member, rfl, rfl⟩

/-- A statement on the messages that queues none. -/
theorem quiet_updateMessages {hit : MessageRow → Bool} {change : MessageRow → MessageRow}
    {keeps : ∀ row, (change row).identity = row.identity}
    (settles : ∀ row ∈ db.messages, hit row = true → (change row).status ≠ .queued) :
    Quiet db (db.updateMessages hit change keeps) where
  kept command member := ⟨command, member, rfl, rfl⟩
  ended after member terminal := Or.inl ⟨after, member, rfl, rfl, terminal⟩
  queued message member status := by
    obtain ⟨old, inOld, rfl⟩ := mem_updateMessages.mp member
    split at status
    · next reached => exact absurd status (settles old inOld reached)
    · next missed => rwa [if_neg missed]
  named message member := by
    obtain ⟨old, inOld, rfl⟩ := mem_updateMessages.mp member
    refine ⟨old, inOld, ?_, ?_⟩
    · split
      · exact (congrArg (·.2.2.2.1) (keeps old)).symm
      · rfl
    · split
      · exact (congrArg (·.2.1) (keeps old)).symm
      · rfl

/-! ## The operations -/

theorem enqueueCommand_quiet {registered : Uuid → Uuid → Bool} {context : Option Uuid}
    {args : EnqueueArgs} {id : Uuid} {outboxId : Nat} {now : Timestamp} {row : CommandRow}
    (h : enqueueCommand registered context args id outboxId now db = .ok (db', row)) :
    Quiet db db' ∧ row ∈ db'.commands ∧ row.tenantId = args.tenantId := by
  obtain ⟨_, _, body⟩ := bind_success h
  clear h
  split at body
  · cases body
  · obtain ⟨⟨db1, inserted⟩, attempt, body⟩ := bind_success body
    have first : Quiet db db1 := by
      rcases insertCommand_cases attempt with ⟨_, rfl, _⟩ | ⟨_, _, _, rows, _, _, messages, _⟩
      · exact Quiet.refl db1
      · constructor
        · intro command member
          exact ⟨command, (rows command).mpr (Or.inl member), rfl, rfl⟩
        · intro after member terminal
          rcases (rows after).mp member with old | rfl
          · exact Or.inl ⟨after, old, rfl, rfl, terminal⟩
          · cases terminal
        · intro message member _
          rwa [← messages]
        · intro message member
          exact ⟨message, by rwa [← messages], rfl, rfl⟩
    dsimp only at body
    split at body
    · next new =>
      obtain ⟨db2, wrote, body⟩ := bind_success body
      cases body
      obtain ⟨_, commands, _, messages, _⟩ := insertOutbox_ok wrote
      refine ⟨first.trans (Quiet.of_eq commands messages), ?_, rfl⟩
      rcases insertCommand_cases attempt with ⟨no, _⟩ | ⟨_, _, _, rows, _⟩
      · rw [no] at new
        cases new
      · rw [commands]
        exact (rows _).mpr (Or.inr rfl)
    · split at body
      · next existing found =>
        split at body
        · cases body
        · cases body
          have tenant := List.find?_some found
          simp only [Bool.and_eq_true, decide_eq_true_eq] at tenant
          exact ⟨first, List.mem_of_find?_eq_some found, tenant.1⟩
      · cases body

theorem recordReceipt_quiet {tenant : Uuid} {receipt : Receipt} {now : Timestamp}
    (h : recordReceipt tenant receipt now db = .ok db') : Quiet db db' := by
  obtain ⟨_, commandId, _, db1, inserted, _, attempt, written⟩ := recordReceipt_cases h
  have first : Quiet db db1 := by
    rcases (insertReceipt_cases attempt).2 with ⟨_, rfl, _⟩ | ⟨_, _, _, _, commands, _, messages, _⟩
    · exact Quiet.refl db1
    · exact Quiet.of_eq commands messages
  rcases written with ⟨_, rfl⟩ | ⟨_, rfl⟩
  · exact first.trans (quiet_updateCommands fun _ _ _ terminal => by cases terminal)
  · exact first

/-- A command that an expiry ends takes its message with it. -/
theorem expiry_quiet {calendar : Calendar} {tenant : Uuid} {hit : CommandRow → Bool}
    {at_ : Timestamp} {ids : List Uuid} {settleRow : OutboxRow → OutboxRow}
    {wakeups : OutboxRow → Bool} {keepsRow : ∀ row, (settleRow row).identity = row.identity}
    {text : MessageRow → String} {db2 : CommandDb} (owned : Owned db)
    (selects : ∀ row ∈ db.commands, hit row = true → row.tenantId = tenant ∧ row.id ∈ ids)
    (settled : (db.updateCommands hit (expireRow calendar at_)
      (expireRow_identity calendar at_)).updateOutbox wakeups settleRow keepsRow = .ok db2) :
    Quiet db (db2.updateMessages (queuedMessageOf tenant ids) (failMessage text)
      (failMessage_identity text)) := by
  obtain ⟨_, commands, _, messages, _⟩ := updateOutbox_ok settled
  have ends : ∀ row ∈ db2.messages, queuedMessageOf tenant ids row = true →
      (failMessage text row).status ≠ .queued := fun _ _ _ => by simp [failMessage]
  have last := @quiet_updateMessages db2 (queuedMessageOf tenant ids) (failMessage text)
    (failMessage_identity text) ends
  constructor
  · intro command member
    refine ⟨if hit command then expireRow calendar at_ command else command, ?_, ?_⟩
    · show _ ∈ db2.commands
      rw [commands]
      exact mem_updateCommands.mpr ⟨command, member, rfl⟩
    · split <;> exact ⟨rfl, rfl⟩
  · intro after member terminal
    have inTable : after ∈ db2.commands := member
    rw [commands] at inTable
    obtain ⟨old, inOld, rfl⟩ := mem_updateCommands.mp inTable
    by_cases reached : hit old = true
    · right
      intro message inMessages waiting
      rw [if_pos reached] at waiting
      have before : message ∈ db2.messages := last.queued message inMessages waiting.2.2
      have inDb : message ∈ db.messages := by rwa [messages] at before
      obtain ⟨owner, inCommands, sameId, sameTenant⟩ := owned message inDb old.id waiting.1
      have same : owner = old := Table.eq_of_key inCommands inOld sameId
      subst same
      obtain ⟨tenant', inIds⟩ := selects owner inOld reached
      -- the message was selected, so it is not queued any more
      have chosen : queuedMessageOf tenant ids message = true := by
        have named : message.commandId = some owner.id := waiting.1
        simp [queuedMessageOf, ← sameTenant, tenant', named, waiting.2.1, waiting.2.2, inIds]
      obtain ⟨origin, inOrigin, written⟩ := mem_updateMessages.mp inMessages
      have sameRow : origin = message := by
        have keys : origin.id = message.id := by
          rw [written]
          split <;> rfl
        exact Table.eq_of_key inOrigin before keys
      subst sameRow
      rw [if_pos chosen] at written
      have status' := congrArg MessageRow.status written
      rw [waiting.2.2] at status'
      cases status'
    · rw [if_neg reached] at terminal ⊢
      exact Or.inl ⟨old, inOld, rfl, rfl, terminal⟩
  · intro message member status
    have before := last.queued message member status
    rw [messages] at before
    exact before
  · intro message member
    obtain ⟨old, inOld, same⟩ := last.named message member
    rw [messages] at inOld
    exact ⟨old, inOld, same⟩

theorem expireSweep_quiet {calendar : Calendar} {tenant : Uuid} {hit : CommandRow → Bool}
    {now : Timestamp} {count : Nat} (owned : Owned db)
    (selects : ∀ row ∈ db.commands, hit row = true → row.tenantId = tenant)
    (h : expireSweep calendar tenant hit now db = .ok (db', count)) : Quiet db db' := by
  obtain ⟨db2, settled, h⟩ := bind_success h
  cases h
  refine expiry_quiet owned (fun row member reached => ⟨selects row member reached, ?_⟩) settled
  exact List.mem_map.mpr ⟨row, List.mem_filter.mpr ⟨member, reached⟩, rfl⟩

theorem expireOverdueCommands_quiet {calendar : Calendar} {context : Option Uuid}
    {tenant device : Uuid} {now : Option Timestamp} {count : Nat} (owned : Owned db)
    (h : expireOverdueCommands calendar context tenant device now db = .ok (db', count)) :
    Quiet db db' := by
  obtain ⟨_, _, h⟩ := bind_success h
  refine expireSweep_quiet owned (fun row _ reached => ?_) h
  simp only [Bool.and_eq_true, decide_eq_true_eq] at reached
  exact reached.1.1

theorem expireOverdueTenantCommands_quiet {calendar : Calendar} {context : Option Uuid}
    {tenant : Uuid} {now : Option Timestamp} {count : Nat} (owned : Owned db)
    (h : expireOverdueTenantCommands calendar context tenant now db = .ok (db', count)) :
    Quiet db db' := by
  obtain ⟨_, _, h⟩ := bind_success h
  refine expireSweep_quiet owned (fun row _ reached => ?_) h
  simp only [Bool.and_eq_true, decide_eq_true_eq] at reached
  exact reached.1

theorem expireCommand_quiet {calendar : Calendar} {context : Option Uuid} {tenant command : Uuid}
    {expiredAt : Option Timestamp} {expired : Bool} (owned : Owned db)
    (h : expireCommand calendar context tenant command expiredAt db = .ok (db', expired)) :
    Quiet db db' := by
  rcases expireCommand_cases h with rfl | ⟨at_, existing, db2, _, _, settled, rfl⟩
  · exact Quiet.refl _
  · refine expiry_quiet owned (fun row _ reached => ?_) settled
    simp only [commandOf, Bool.and_eq_true, decide_eq_true_eq] at reached
    exact ⟨reached.1, by simp [reached.2]⟩

theorem pendingForDevice_quiet (around : Surroundings) (tenant device : Uuid) (now : Timestamp)
    (owned : Owned db) : Quiet db (pendingForDevice around tenant device now db).1 := by
  have first : Quiet db (redeliverCardPolicy around tenant device now db) := by
    unfold redeliverCardPolicy
    split
    · exact Quiet.refl db
    · split
      · exact Quiet.refl db
      · split
        · exact Quiet.refl db
        · split
          · next queued => exact (enqueueCommand_quiet queued).1
          · exact Quiet.refl db
  unfold pendingForDevice
  dsimp only
  split
  · next swept => exact first.trans (expireOverdueCommands_quiet (first.owned owned) swept)
  · exact first

end Steps

/-! ## The system -/

section System

variable {sends : Sends} {calendar : Calendar}

/-- The result speaks of the command. -/
def Unsettled.about (half : Unsettled) (command : CommandRow) : Prop :=
  half.tenantId = command.tenantId ∧ uuidIn half.result.commandId = .ok command.id

/-- Every half-done operation is about a command that exists, and a terminal
command with a queued message has a settlement under way. -/
structure Covered (sends : Sends) : Prop where
  owned : Owned sends.commands
  issued : ∀ message ∈ sends.unmirrored, ∃ command ∈ sends.commands.commands,
    command.id = message.commandId ∧ command.tenantId = message.tenantId
  parsed : ∀ half ∈ sends.unsettled, ∃ status detail id, Parsed half.result status detail id
  waiting : ∀ command ∈ sends.commands.commands, command.status.terminal = true →
    ∀ message ∈ sends.commands.messages, Waiting command message →
      ∃ half ∈ sends.unsettled, Unsettled.about half command

/-- The steps that keep it: a message is inserted while its command is not over,
and a settlement that is lost, or fails on its reference, has no queued message
to settle. -/
def Meets (sends : Sends) : SendOp → Prop
  | .recordOutbound index _ _ _ => ∀ message, sends.unmirrored[index]? = some message →
      (∀ other ∈ sends.commands.messages, other.commandId ≠ some message.commandId) →
      ∀ command ∈ sends.commands.commands, command.id = message.commandId →
        command.status.terminal = false
  | .dropResult index => ∀ half, sends.unsettled[index]? = some half →
      ∀ command ∈ sends.commands.commands, Unsettled.about half command →
        ∀ message ∈ sends.commands.messages, ¬ Waiting command message
  | .settleOutbound index _ => ∀ half, sends.unsettled[index]? = some half →
      ResultReplay.fits half.result = true ∨
        ∀ command ∈ sends.commands.commands, Unsettled.about half command →
          ∀ message ∈ sends.commands.messages, ¬ Waiting command message
  | _ => True

/-- A quiet step keeps it, whatever half-done operations stay. -/
theorem Covered.quiet {next : Sends} (covered : Covered sends)
    (quiet : Quiet sends.commands next.commands)
    (issued : ∀ message ∈ next.unmirrored, message ∈ sends.unmirrored ∨
      ∃ command ∈ next.commands.commands,
        command.id = message.commandId ∧ command.tenantId = message.tenantId)
    (same : next.unsettled = sends.unsettled) : Covered next where
  owned := quiet.owned covered.owned
  issued message member := by
    rcases issued message member with old | new
    · obtain ⟨command, inTable, sameId, sameTenant⟩ := covered.issued message old
      obtain ⟨after, inAfter, sameId', sameTenant'⟩ := quiet.kept command inTable
      exact ⟨after, inAfter, sameId'.trans sameId, sameTenant'.trans sameTenant⟩
    · exact new
  parsed half member := covered.parsed half (same ▸ member)
  waiting after member terminal message inMessages waiting := by
    rcases quiet.ended after member terminal with ⟨command, inTable, sameId, sameTenant, terminal'⟩ | none_
    · obtain ⟨half, inHalf, tenant, named⟩ := covered.waiting command inTable terminal' message
        (quiet.queued message inMessages waiting.2.2)
        ⟨by rw [sameId]; exact waiting.1, waiting.2⟩
      exact ⟨half, same ▸ inHalf, tenant.trans sameTenant, by rw [named, sameId]⟩
    · exact absurd waiting (none_ message inMessages)

theorem Covered.commit {α : Type} {outcome : Except PgError (CommandDb × α)}
    (covered : Covered sends)
    (quiet : ∀ db value, outcome = .ok (db, value) → Quiet sends.commands db) :
    Covered (sends.commit outcome) := by
  unfold Sends.commit
  split
  · next db value =>
    exact covered.quiet (quiet db value rfl) (fun message member => Or.inl member) rfl
  · exact covered

/-- A send whose command is there joins the half-done ones. -/
theorem Covered.issue {sms : Bool} {message : Outbound} (covered : Covered sends)
    (there : ∃ command ∈ sends.commands.commands,
      command.id = message.commandId ∧ command.tenantId = message.tenantId) :
    Covered (sends.issued sms message) := by
  unfold Sends.issued
  split
  · refine covered.quiet (Quiet.refl _) (fun other member => ?_) rfl
    rcases List.mem_append.mp member with old | new
    · exact Or.inl old
    · rw [List.mem_singleton.mp new]
      exact Or.inr there
  · exact covered

/-- What is left of a list after one position is taken out. -/
theorem mem_or_mem_eraseIdx {α : Type} {items : List α} {index : Nat} {item other : α}
    (at_ : items[index]? = some item) (member : other ∈ items) :
    other = item ∨ other ∈ items.eraseIdx index := by
  induction items generalizing index with
  | nil => cases member
  | cons first rest ih =>
    cases index with
    | zero =>
      simp only [List.getElem?_cons_zero, Option.some.injEq] at at_
      rcases List.mem_cons.mp member with rfl | inRest
      · exact Or.inl at_
      · exact Or.inr inRest
    | succ index =>
      simp only [List.getElem?_cons_succ] at at_
      rcases List.mem_cons.mp member with rfl | inRest
      · exact Or.inr List.mem_cons_self
      · exact (ih at_ inRest).imp id (List.mem_cons_of_mem _)

theorem fire_quiet {env : Source.ScheduledTasks.Env} {tenant id : Uuid}
    {plan : Source.Schedule.Plan Uuid} {schedule schedule' : ScheduleDb}
    (h : Source.ScheduledTasks.fire env tenant plan schedule = .ok (schedule', id)) :
    Quiet schedule.commands schedule'.commands ∧
      ∃ command ∈ schedule'.commands.commands, command.id = id ∧ command.tenantId = tenant := by
  obtain ⟨_, _, h⟩ := bind_success h
  obtain ⟨_, _, h⟩ := bind_success h
  obtain ⟨_, _, h⟩ := bind_success h
  obtain ⟨_, _, h⟩ := bind_success h
  obtain ⟨⟨commands, command⟩, queued, h⟩ := bind_success h
  obtain ⟨⟨db1, _⟩, finished, h⟩ := bind_success h
  cases h
  obtain ⟨_, _, finished⟩ := bind_success finished
  cases finished
  obtain ⟨quiet, member, sameTenant⟩ := enqueueCommand_quiet queued
  exact ⟨quiet, command, member, rfl, sameTenant⟩

/-- The row `RecordOutbound` adds, if it adds one. -/
theorem recordOutbound_cases {registered : Uuid → Uuid → Bool} {message : Outbound} {id : Uuid}
    {now : Timestamp} {db db' : CommandDb} (h : recordOutbound registered message id now db = .ok db') :
    db' = db ∨ ((∀ other ∈ db.messages, other.commandId ≠ some message.commandId) ∧
      db'.commands = db.commands ∧
      ∀ other, other ∈ db'.messages ↔ other ∈ db.messages ∨ other = message.row id now) := by
  unfold recordOutbound at h
  split at h
  · cases h
  · obtain ⟨⟨db1, inserted⟩, wrote, h⟩ := bind_success h
    cases h
    unfold insertMessage at wrote
    split at wrote
    · cases wrote
      exact Or.inl rfl
    · next free =>
      split at wrote
      · cases wrote
      · next absent =>
        split at wrote
        · cases wrote
        · cases wrote
          refine Or.inr ⟨fun other member same => free ⟨rfl, other, member, same⟩, rfl, fun other => ?_⟩
          exact @Table.mem_insert _ _ _ _ _ _ (Table.find_eq_none_iff.mp absent)

/-- The message of a command that is not over. -/
theorem Covered.recordOutbound {registered : Uuid → Uuid → Bool} {message : Outbound} {id : Uuid}
    {now : Timestamp} {db : CommandDb} (covered : Covered sends) (inList : message ∈ sends.unmirrored)
    (alive : (∀ other ∈ sends.commands.messages, other.commandId ≠ some message.commandId) →
      ∀ command ∈ sends.commands.commands, command.id = message.commandId →
        command.status.terminal = false)
    (h : Source.OutboundSends.recordOutbound registered message id now sends.commands = .ok db) :
    Covered (sends.withCommands db) := by
  rcases recordOutbound_cases h with rfl | ⟨free, commands, rows⟩
  · exact covered
  · obtain ⟨owner, inTable, sameId, sameTenant⟩ := covered.issued message inList
    refine ⟨?_, ?_, covered.parsed, ?_⟩
    · intro other member id named
      show ∃ command ∈ db.commands, _
      rw [commands]
      rcases (rows other).mp member with old | rfl
      · exact covered.owned other old id named
      · cases named
        exact ⟨owner, inTable, sameId, sameTenant⟩
    · intro other member
      show ∃ command ∈ db.commands, _
      rw [commands]
      exact covered.issued other member
    · intro command member terminal other inMessages waiting
      have inCommands : command ∈ sends.commands.commands := by
        rw [← commands]
        exact member
      rcases (rows other).mp inMessages with old | rfl
      · exact covered.waiting command inCommands terminal other old waiting
      · have same : command.id = message.commandId := (Option.some.inj waiting.1).symm
        rw [alive free command inCommands same] at terminal
        cases terminal

/-- A result ends its command and puts its settlement under way. -/
theorem Covered.recordResult {tenant : Uuid} {result : CommandResult} {now : Timestamp}
    {db : CommandDb} (covered : Covered sends)
    (h : Source.CommandLifecycle.recordResult tenant result now sends.commands = .ok db) :
    Covered { sends.withCommands db with unsettled := sends.unsettled ++ [⟨tenant, result⟩] } := by
  obtain ⟨status, detail, id, parsed⟩ := recordResult_parsed h
  obtain ⟨rows, _, messages⟩ := ResultReplay.recordResult_rows parsed h
  have before : ∀ after ∈ db.commands, ∃ old ∈ sends.commands.commands,
      after = ResultReplay.resultRow tenant id status result.completedAt detail old := by
    intro after member
    rw [← Table.mem_rows, rows] at member
    obtain ⟨old, inOld, rfl⟩ := List.mem_map.mp member
    exact ⟨old, inOld, rfl⟩
  have identity : ∀ old, (ResultReplay.resultRow tenant id status result.completedAt detail
      old).tenantId = old.tenantId := by
    intro old
    unfold ResultReplay.resultRow
    split
    · rfl
    · split <;> rfl
  have later : ∀ old ∈ sends.commands.commands, ∃ after ∈ db.commands,
      after.id = old.id ∧ after.tenantId = old.tenantId := by
    intro old inOld
    refine ⟨_, ?_, ResultReplay.resultRow_id result.completedAt old, identity old⟩
    rw [← Table.mem_rows, rows]
    exact List.mem_map.mpr ⟨old, inOld, rfl⟩
  constructor
  · intro message member other named
    have inMessages : message ∈ sends.commands.messages := by
      rw [← messages]
      exact member
    obtain ⟨command, inTable, sameId, sameTenant⟩ := covered.owned message inMessages other named
    obtain ⟨after, inAfter, sameId', sameTenant'⟩ := later command inTable
    exact ⟨after, inAfter, sameId'.trans sameId, sameTenant'.trans sameTenant⟩
  · intro message member
    obtain ⟨command, inTable, sameId, sameTenant⟩ := covered.issued message member
    obtain ⟨after, inAfter, sameId', sameTenant'⟩ := later command inTable
    exact ⟨after, inAfter, sameId'.trans sameId, sameTenant'.trans sameTenant⟩
  · intro half member
    rcases List.mem_append.mp member with old | new
    · exact covered.parsed half old
    · rw [List.mem_singleton.mp new]
      exact ⟨status, detail, id, parsed⟩
  · intro after member terminal message inMessages waiting
    obtain ⟨old, inOld, rfl⟩ := before after member
    have inBefore : message ∈ sends.commands.messages := by
      rw [← messages]
      exact inMessages
    by_cases own : commandOf tenant id old = true
    · simp only [commandOf, Bool.and_eq_true, decide_eq_true_eq] at own
      refine ⟨⟨tenant, result⟩, by simp, ?_, ?_⟩
      · rw [identity]
        exact own.1.symm
      · rw [ResultReplay.resultRow_id, own.2]
        exact parsed.id
    · have same : ResultReplay.resultRow tenant id status result.completedAt detail old = old := by
        simp [ResultReplay.resultRow, resultHit, lateHit, own]
      rw [same] at terminal waiting ⊢
      obtain ⟨half, inHalf, about⟩ := covered.waiting old inOld terminal message inBefore waiting
      exact ⟨half, List.mem_append_left _ inHalf, about⟩

/-- A settled message is not queued. -/
theorem settleMessage_not_queued {tenant id : Uuid} {commands : List CommandRow}
    {state : MessageStatus} {reason : String} {reference : Option Int} {now : Timestamp}
    {row : MessageRow} (final : state = .sent ∨ state = .failed)
    (hit : settleHit tenant id commands row = true) :
    (settleMessage state reason reference now row).status ≠ .queued := by
  rcases (settleHit_eq.mp hit).2 with queued | ⟨failed, _⟩
  · rcases final with rfl | rfl
    · simp [settleMessage, queued]
    · simp [settleMessage, queued]
  · rcases final with rfl | rfl
    · simp [settleMessage, failed]
    · simp [settleMessage, failed]

/-- A settlement that goes through leaves no queued message of its command. -/
theorem settle_clears {half : Unsettled} {now : Timestamp} {db db' : CommandDb}
    (owned : Owned db) (h : half.settle now db = .ok db') :
    Quiet db db' ∧ ∀ command ∈ db.commands, Unsettled.about half command →
      ∀ message ∈ db'.messages, ¬ Waiting command message := by
  have final : (if half.result.status = "succeeded" then MessageStatus.sent else .failed) = .sent ∨
      (if half.result.status = "succeeded" then MessageStatus.sent else .failed) = .failed := by
    split
    · exact Or.inl rfl
    · exact Or.inr rfl
  obtain ⟨id, named, rfl⟩ := settleOutbound_ok h
  refine ⟨quiet_updateMessages fun row _ hit => settleMessage_not_queued final hit, ?_⟩
  rintro command member ⟨tenant, about⟩ message inMessages waiting
  cases named.symm.trans about
  obtain ⟨old, inOld, rfl⟩ := mem_updateMessages.mp inMessages
  by_cases hit : settleHit half.tenantId command.id db.commands.rows old = true
  · rw [if_pos hit] at waiting
    exact settleMessage_not_queued final hit waiting.2.2
  · rw [if_neg hit] at waiting
    obtain ⟨owner, inTable, sameId, sameTenant⟩ := owned old inOld command.id waiting.1
    rw [Table.eq_of_key inTable member sameId] at sameTenant
    exact hit (settleHit_eq.mpr
      ⟨⟨by rw [tenant, sameTenant], waiting.1, waiting.2.1⟩, Or.inl waiting.2.2⟩)

/-- A settlement may leave the list once its command has no queued message. -/
theorem Covered.erase {index : Nat} {half : Unsettled} (covered : Covered sends)
    (at_ : sends.unsettled[index]? = some half)
    (clear_ : ∀ command ∈ sends.commands.commands, Unsettled.about half command →
      ∀ message ∈ sends.commands.messages, ¬ Waiting command message) :
    Covered { sends with unsettled := sends.unsettled.eraseIdx index } where
  owned := covered.owned
  issued := covered.issued
  parsed other member := covered.parsed other (List.mem_of_mem_eraseIdx member)
  waiting command member terminal message inMessages waiting := by
    obtain ⟨other, inList, about⟩ :=
      covered.waiting command member terminal message inMessages waiting
    rcases mem_or_mem_eraseIdx at_ inList with rfl | kept
    · exact absurd waiting (clear_ command member about message inMessages)
    · exact ⟨other, kept, about⟩

/-- The settlement goes through when its reference fits. -/
theorem settle_succeeds {half : Unsettled} {status : CommandStatus} {detail : Jsonb} {id : Uuid}
    (parsed : Parsed half.result status detail id) (small : ResultReplay.fits half.result = true)
    (now : Timestamp) (db : CommandDb) : ∃ db', half.settle now db = .ok db' := by
  have clean := parsed.reason_clean
  unfold ResultReplay.messageReason at clean
  have fits' : ¬ (messageReference half.result.details).any
      (fun value => (integerMax : Int) < value) = true := by
    unfold ResultReplay.fits at small
    cases reference : messageReference half.result.details with
    | none => simp
    | some value => simpa [reference] using small
  unfold Unsettled.settle settleOutbound
  rw [parsed.id, ok_bind, if_neg clean, if_neg fits']
  exact ⟨_, rfl⟩

theorem Covered.settleOutbound {index : Nat} {half : Unsettled} {now : Timestamp}
    (covered : Covered sends) (at_ : sends.unsettled[index]? = some half)
    (meets : ResultReplay.fits half.result = true ∨
      ∀ command ∈ sends.commands.commands, Unsettled.about half command →
        ∀ message ∈ sends.commands.messages, ¬ Waiting command message) :
    Covered ({ sends with unsettled := sends.unsettled.eraseIdx index }.commit
      ((half.settle now sends.commands).map fun db => (db, ()))) := by
  cases outcome : half.settle now sends.commands with
  | ok db =>
    obtain ⟨quiet, clears⟩ := settle_clears covered.owned outcome
    have settled : Covered (sends.withCommands db) :=
      covered.quiet quiet (fun _ member => Or.inl member) rfl
    refine settled.erase at_ fun command member about message inMessages => ?_
    obtain ⟨_, _, rfl⟩ := settleOutbound_ok outcome
    exact clears command member about message inMessages
  | error err =>
    obtain ⟨status, detail, id, parsed⟩ := covered.parsed half (List.mem_of_getElem? at_)
    rcases meets with small | clear_
    · obtain ⟨db, went⟩ := settle_succeeds parsed small now sends.commands
      rw [outcome] at went
      cases went
    · exact covered.erase at_ clear_

/-- One step. -/
theorem Covered.step {op : SendOp} (covered : Covered sends) (meets : Meets sends op) :
    Covered (sends.step calendar op) := by
  have one : ∀ {outcome : Except PgError CommandDb},
      (∀ db, outcome = .ok db → Quiet sends.commands db) →
      Covered (sends.commit (outcome.map fun db => (db, ()))) := by
    intro outcome quiet
    refine covered.commit fun db _ went => ?_
    obtain ⟨db', went', same⟩ := map_success went
    cases same
    exact quiet db went'
  cases op with
  | enqueue registered args id outboxId now peer body =>
    unfold Sends.step
    dsimp only
    split
    · next commands command queued =>
      obtain ⟨quiet, member, sameTenant⟩ := enqueueCommand_quiet queued
      have next : Covered (sends.withCommands commands) :=
        covered.quiet quiet (fun _ inList => Or.inl inList) rfl
      exact next.issue ⟨command, member, rfl, sameTenant⟩
    · exact covered
  | fire env tenant plan peer body =>
    unfold Sends.step
    dsimp only
    split
    · next schedule id _ fired =>
      obtain ⟨quiet, there⟩ := fire_quiet fired
      have next : Covered { sends with schedule := schedule } :=
        covered.quiet quiet (fun _ inList => Or.inl inList) rfl
      exact next.issue there
    · exact covered
  | recordOutbound index registered id now =>
    unfold Sends.step
    dsimp only
    split
    · exact covered
    · next message at_ =>
      have inList : message ∈ sends.unmirrored := List.mem_of_getElem? at_
      have rest : ∀ db, Covered (sends.withCommands db) →
          Covered { sends.withCommands db with unmirrored := sends.unmirrored.eraseIdx index } := by
        intro db next
        exact next.quiet (Quiet.refl _) (fun _ member => Or.inl (List.mem_of_mem_eraseIdx member)) rfl
      cases outcome :
          Source.OutboundSends.recordOutbound registered message id now sends.commands with
      | ok db => exact rest db (covered.recordOutbound inList (meets message at_) outcome)
      | error err => exact rest sends.commands covered
  | dropOutbound index =>
    exact covered.quiet (Quiet.refl _) (fun _ member => Or.inl (List.mem_of_mem_eraseIdx member)) rfl
  | recordReceipt tenant receipt now => exact one fun db went => recordReceipt_quiet went
  | recordResult tenant result now =>
    unfold Sends.step
    dsimp only
    split
    · next db recorded => exact covered.recordResult recorded
    · exact covered
  | settleOutbound index now =>
    unfold Sends.step
    dsimp only
    split
    · exact covered
    · next half at_ => exact covered.settleOutbound at_ (meets half at_)
  | dropResult index =>
    unfold Sends.step
    dsimp only
    cases at_ : sends.unsettled[index]? with
    | some half => exact covered.erase at_ (meets half at_)
    | none =>
      have same : sends.unsettled.eraseIdx index = sends.unsettled :=
        List.eraseIdx_of_length_le (List.getElem?_eq_none_iff.mp at_)
      rw [same]
      exact covered
  | resume around tenant device now =>
    exact covered.quiet (pendingForDevice_quiet around tenant device now covered.owned)
      (fun _ member => Or.inl member) rfl
  | expireCommand context tenant command expiredAt =>
    exact covered.commit fun db _ went => expireCommand_quiet covered.owned went
  | expireOverdueCommands context tenant device now =>
    exact covered.commit fun db _ went => expireOverdueCommands_quiet covered.owned went
  | expireOverdueTenantCommands context tenant now =>
    exact covered.commit fun db _ went => expireOverdueTenantCommands_quiet covered.owned went

/-- No command of a finished SMS has a queued message. -/
def NoneQueued (db : CommandDb) : Prop :=
  ∀ command ∈ db.commands, command.kind = .sendSms → command.status.terminal = true →
    ∀ message ∈ db.messages, ¬ Waiting command message

/-- In every run from tables without commands and messages whose steps all meet
the condition, no finished send shows as queued while nothing is half done. -/
theorem finished_send_not_queued (calendar : Calendar) (start : ScheduleDb)
    (noCommands : start.commands.commands.rows = []) (noMessages : start.commands.messages.rows = [])
    (ops : List SendOp)
    (meets : Guarded (Sends.step calendar) Meets ⟨start, [], []⟩ ops)
    (idle : (ops.foldl (Sends.step calendar) ⟨start, [], []⟩).idle) :
    NoneQueued (ops.foldl (Sends.step calendar) ⟨start, [], []⟩).commands := by
  have fresh : Covered ⟨start, [], []⟩ := by
    refine ⟨?_, nofun, nofun, ?_⟩
    · intro message member
      rw [← Table.mem_rows, show (Sends.commands ⟨start, [], []⟩).messages.rows = [] from noMessages]
        at member
      cases member
    · intro command member
      rw [← Table.mem_rows, show (Sends.commands ⟨start, [], []⟩).commands.rows = [] from noCommands]
        at member
      cases member
  have covered := @foldl_guarded _ _ (Sends.step calendar) Covered Meets
    (fun state op before meets => before.step meets) _ fresh ops meets
  intro command member _ terminal message inMessages waiting
  obtain ⟨half, inList, _⟩ := covered.waiting command member terminal message inMessages waiting
  rw [idle.2] at inList
  cases inList

end System

/-! ## Two runs -/

/-- Tables without rows. -/
def untouched : Sends where
  schedule := ScheduleStores.emptyDb
  unmirrored := []
  unsettled := []

/-- Tenant 1 sends an SMS through device 2. -/
def sendOne : SendOp :=
  .enqueue (fun _ _ => true) ⟨1, 2, .sendSms, .obj [], "key", 1000⟩ 3 1 0 "+49" "hello"

/-- Its message is inserted. -/
def mirrorOne : SendOp := .recordOutbound 0 (fun _ _ => true) 4 1

/-- The device answers that the SMS went out. -/
def answerOne : SendOp := .recordResult 1 (ResultReplay.answer "succeeded") 2

def runOne (ops : List SendOp) : Sends := ops.foldl (Sends.step plainCalendar) untouched

theorem answered_send_not_queued :
    (runOne [sendOne, mirrorOne, answerOne, .settleOutbound 0 3]).idle ∧
    (runOne [sendOne, mirrorOne, answerOne, .settleOutbound 0 3]).commands.messages.rows.map
      MessageRow.status = [.sent] ∧
    NoneQueued (runOne [sendOne, mirrorOne, answerOne, .settleOutbound 0 3]).commands := by
  have idle : (runOne [sendOne, mirrorOne, answerOne, .settleOutbound 0 3]).idle :=
    ⟨by decide, by decide⟩
  refine ⟨idle, by decide, ?_⟩
  refine finished_send_not_queued plainCalendar untouched.schedule rfl rfl _ ?_ idle
  refine ⟨trivial, ?_, trivial, ?_, trivial⟩
  · intro message at_ _ command member _
    have alive : ∀ row ∈ (runOne [sendOne]).commands.commands.rows, row.status.terminal = false := by
      decide
    exact alive command member
  · intro half at_
    cases at_
    exact Or.inl (by decide)

/-- The device answers before the message is inserted: the settlement finds
nothing, and the message stays queued. -/
theorem early_answer_leaves_queued :
    (runOne [sendOne, answerOne, .settleOutbound 0 2, mirrorOne]).idle ∧
    ¬ NoneQueued (runOne [sendOne, answerOne, .settleOutbound 0 2, mirrorOne]).commands := by
  refine ⟨⟨by decide, by decide⟩, fun none_ => ?_⟩
  have found : ∃ command ∈ (runOne [sendOne, answerOne, .settleOutbound 0 2, mirrorOne]).commands.commands.rows,
      command.kind = .sendSms ∧ command.status.terminal = true ∧
      ∃ message ∈ (runOne [sendOne, answerOne, .settleOutbound 0 2, mirrorOne]).commands.messages.rows,
        message.commandId = some command.id ∧ message.direction = .outbound ∧
          message.status = .queued := by
    decide
  obtain ⟨command, member, sms, terminal, message, inMessages, waiting⟩ := found
  exact none_ command member sms terminal message inMessages waiting

end VodogeCloud.Guarantees.MirroredMessages
