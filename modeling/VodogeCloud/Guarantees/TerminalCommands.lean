import VodogeCloud.Guarantees.LifecycleSteps

/-!
# A terminal command is final and its wakeup settled

Two facts are carried over every statement. `Frozen` says that a statement
leaves the status of a terminal command and a resolved wakeup alone; it composes,
so a function has it when each of its statements has it. `SettledBut X` says that
every terminal command outside `X` has its wakeup resolved: the statement that
ends commands puts them into `X`, the settle statement after it takes them out
again.
-/

set_option autoImplicit false

namespace VodogeCloud.Guarantees.TerminalCommands

open VodogeCloud.Lib VodogeCloud.Lib.Transactions
open VodogeCloud.Source.Postgres VodogeCloud.Source.CommandTables
open VodogeCloud.Source.CommandLifecycle
open VodogeCloud.Guarantees.LifecycleSteps

/-! ## What no statement undoes -/

structure Frozen (db db' : CommandDb) : Prop where
  commands : ∀ command ∈ db.commands, command.status.terminal = true →
    ∃ after ∈ db'.commands, after.id = command.id ∧ after.status = command.status
  outbox : ∀ row ∈ db.outbox, row.resolvedAt.isSome = true → row ∈ db'.outbox

theorem Frozen.refl (db : CommandDb) : Frozen db db :=
  ⟨fun command member _ => ⟨command, member, rfl, rfl⟩, fun _ member _ => member⟩

theorem Frozen.trans {a b c : CommandDb} (first : Frozen a b) (second : Frozen b c) : Frozen a c := by
  constructor
  · intro command member terminal
    obtain ⟨middle, memberM, idM, statusM⟩ := first.commands command member terminal
    obtain ⟨after, memberA, idA, statusA⟩ := second.commands middle memberM (by rwa [statusM])
    exact ⟨after, memberA, idA.trans idM, statusA.trans statusM⟩
  · intro row member resolved
    exact second.outbox row (first.outbox row member resolved) resolved

/-- Both tables as they were. -/
theorem Frozen.of_eq {db db' : CommandDb} (commands : db'.commands = db.commands)
    (outbox : db'.outbox = db.outbox) : Frozen db db' := by
  constructor
  · intro command member _
    exact ⟨command, by rwa [commands], rfl, rfl⟩
  · intro row member _
    rwa [outbox]

section Statements

variable {db db' : CommandDb}

theorem frozen_updateCommands {hit : CommandRow → Bool} {change : CommandRow → CommandRow}
    {keeps : ∀ row, (change row).identity = row.identity}
    (spares : ∀ row ∈ db.commands, hit row = true → row.status.terminal = true →
      (change row).status = row.status) :
    Frozen db (db.updateCommands hit change keeps) := by
  constructor
  · intro command member terminal
    refine ⟨_, mem_updateCommands.mpr ⟨command, member, rfl⟩, ?_⟩
    split
    · next written =>
      exact ⟨congrArg Prod.fst (keeps command), spares command member written terminal⟩
    · exact ⟨rfl, rfl⟩
  · exact fun row member _ => member

theorem frozen_updateOutbox {hit : OutboxRow → Bool} {change : OutboxRow → OutboxRow}
    {keeps : ∀ row, (change row).identity = row.identity}
    (h : db.updateOutbox hit change keeps = .ok db')
    (unresolved : ∀ row ∈ db.outbox, hit row = true → row.resolvedAt = none) : Frozen db db' := by
  obtain ⟨rows, commands, _⟩ := updateOutbox_ok h
  constructor
  · intro command member _
    exact ⟨command, by rwa [commands], rfl, rfl⟩
  · intro row member resolved
    refine (rows row).mpr ⟨row, member, ?_⟩
    by_cases written : hit row = true
    · rw [unresolved row member written] at resolved
      cases resolved
    · rw [if_neg written]

/-! ## Terminal commands and their wakeups -/

/-- Every terminal command outside `X` has its wakeup resolved. -/
def SettledBut (X : Uuid → Prop) (db : CommandDb) : Prop :=
  ∀ command ∈ db.commands, command.status.terminal = true → ¬ X command.id →
    ∀ row ∈ db.outbox, row.commandId = command.id → row.resolvedAt.isSome = true

/-- A terminal command's wakeup is resolved. -/
def Settled (db : CommandDb) : Prop := SettledBut (fun _ => False) db

/-- The commands a statement on them ends go into `X`. -/
theorem settledBut_updateCommands {X : Uuid → Prop} {hit : CommandRow → Bool}
    {change : CommandRow → CommandRow} {keeps : ∀ row, (change row).identity = row.identity}
    (settled : Settled db)
    (ends : ∀ row ∈ db.commands, hit row = true → (change row).status.terminal = true →
      row.status.terminal = true ∨ X row.id) :
    SettledBut X (db.updateCommands hit change keeps) := by
  intro command member terminal outside row inOutbox same
  obtain ⟨old, inOld, rfl⟩ := mem_updateCommands.mp member
  have sameId : (if hit old then change old else old).id = old.id := by
    split
    · exact congrArg Prod.fst (keeps old)
    · rfl
  rw [sameId] at outside same
  have wasTerminal : old.status.terminal = true := by
    split at terminal
    · next written => exact (ends old inOld written terminal).resolve_right outside
    · exact terminal
  exact settled old inOld wasTerminal id row inOutbox same

/-- The settle statement takes `X` out again. -/
theorem settled_updateOutbox {X : Uuid → Prop} {hit : OutboxRow → Bool}
    {change : OutboxRow → OutboxRow} {keeps : ∀ row, (change row).identity = row.identity}
    (settled : SettledBut X db) (h : db.updateOutbox hit change keeps = .ok db')
    (unresolved : ∀ row ∈ db.outbox, hit row = true → row.resolvedAt = none)
    (settles : ∀ row ∈ db.outbox, X row.commandId → row.resolvedAt = none →
      hit row = true ∧ (change row).resolvedAt.isSome = true) : Settled db' := by
  obtain ⟨rows, commands, _⟩ := updateOutbox_ok h
  intro command member terminal _ row inOutbox same
  rw [commands] at member
  obtain ⟨old, inOld, rfl⟩ := (rows row).mp inOutbox
  have sameCommand : (if hit old then change old else old).commandId = old.commandId := by
    split
    · have := keeps old
      simp only [OutboxRow.identity, Prod.mk.injEq] at this
      exact this.2.2
    · rfl
  rw [sameCommand] at same
  by_cases exempt : X command.id
  · cases open_ : old.resolvedAt with
    | none =>
      obtain ⟨written, resolved⟩ := settles old inOld (by rwa [same]) open_
      rwa [if_pos written]
    | some when_ =>
      have spared : ¬ hit old = true := by
        intro written
        rw [unresolved old inOld written] at open_
        cases open_
      rw [if_neg spared, open_]
      rfl
  · have resolved := settled command member terminal exempt old inOld same
    have spared : ¬ hit old = true := by
      intro written
      rw [unresolved old inOld written] at resolved
      cases resolved
    rwa [if_neg spared]

/-- A statement that writes neither commands nor wakeups. -/
theorem settledBut_of_eq {X : Uuid → Prop} (settled : SettledBut X db)
    (commands : db'.commands = db.commands) (outbox : db'.outbox = db.outbox) :
    SettledBut X db' := by
  intro command member terminal outside row inOutbox same
  rw [commands] at member
  rw [outbox] at inOutbox
  exact settled command member terminal outside row inOutbox same

/-- A wakeup belongs to the tenant of its command. -/
theorem outbox_tenant {row : OutboxRow} {command : CommandRow} (inOutbox : row ∈ db.outbox)
    (member : command ∈ db.commands) (same : row.commandId = command.id) :
    row.tenantId = command.tenantId := by
  obtain ⟨owner, inCommands, sameId, sameTenant⟩ := db.valid.outboxCommand row inOutbox
  rw [← sameTenant, Table.eq_of_key inCommands member (sameId.trans same)]

theorem wakeupIn_unresolved {tenant : Uuid} {ids : List Uuid} {row : OutboxRow}
    (h : wakeupIn tenant ids row = true) : row.resolvedAt = none := by
  simp only [wakeupIn, Bool.and_eq_true, Option.isNone_iff_eq_none] at h
  exact h.2

theorem wakeupOf_eq (tenant command : Uuid) : wakeupOf tenant command = wakeupIn tenant [command] := by
  funext row
  simp [wakeupOf, wakeupIn]

/-- Ending commands of one tenant and settling their wakeups keeps both facts. -/
theorem settle_pair {tenant : Uuid} {ids : List Uuid} {hit : CommandRow → Bool}
    {change : CommandRow → CommandRow} {keeps : ∀ row, (change row).identity = row.identity}
    {settleRow : OutboxRow → OutboxRow} {keepsRow : ∀ row, (settleRow row).identity = row.identity}
    (settled : Settled db)
    (selects : ∀ row ∈ db.commands, hit row = true →
      row.tenantId = tenant ∧ row.id ∈ ids ∧
        (row.status.terminal = true → (change row).status = row.status))
    (resolves : ∀ row, (settleRow row).resolvedAt.isSome = true)
    (h : (db.updateCommands hit change keeps).updateOutbox (wakeupIn tenant ids) settleRow keepsRow =
      .ok db') : Settled db' ∧ Frozen db db' := by
  have unresolved : ∀ row ∈ db.outbox, wakeupIn tenant ids row = true → row.resolvedAt = none :=
    fun row _ selected => wakeupIn_unresolved selected
  have but : SettledBut (fun id => ∃ command ∈ db.commands, command.id = id ∧ hit command = true)
      (db.updateCommands hit change keeps) :=
    settledBut_updateCommands settled (fun row member written _ => Or.inr ⟨row, member, rfl, written⟩)
  constructor
  · refine settled_updateOutbox but h unresolved ?_
    intro row inOutbox ended open_
    obtain ⟨command, member, same, written⟩ := ended
    obtain ⟨tenantSame, listed, _⟩ := selects command member written
    refine ⟨?_, resolves row⟩
    have owner : row.tenantId = command.tenantId := @outbox_tenant db row command inOutbox member same.symm
    simp [wakeupIn, owner, tenantSame, ← same, listed, open_]
  · exact (frozen_updateCommands fun row member written => (selects row member written).2.2).trans
      (frozen_updateOutbox h unresolved)

/-- A wakeup statement that only touches unresolved rows keeps both facts. -/
theorem outbox_keeps {hit : OutboxRow → Bool} {change : OutboxRow → OutboxRow}
    {keeps : ∀ row, (change row).identity = row.identity} (settled : Settled db)
    (h : db.updateOutbox hit change keeps = .ok db')
    (unresolved : ∀ row ∈ db.outbox, hit row = true → row.resolvedAt = none) :
    Settled db' ∧ Frozen db db' :=
  ⟨settled_updateOutbox settled h unresolved (fun _ _ impossible => impossible.elim),
    frozen_updateOutbox h unresolved⟩

/-- A command statement that ends nothing keeps both facts. -/
theorem commands_keep {hit : CommandRow → Bool} {change : CommandRow → CommandRow}
    {keeps : ∀ row, (change row).identity = row.identity} (settled : Settled db)
    (same : ∀ row ∈ db.commands, hit row = true →
      (row.status.terminal = true → (change row).status = row.status) ∧
        ((change row).status.terminal = true → row.status.terminal = true)) :
    Settled (db.updateCommands hit change keeps) ∧ Frozen db (db.updateCommands hit change keeps) :=
  ⟨settledBut_updateCommands settled
      (fun row member written terminal => Or.inl ((same row member written).2 terminal)),
    frozen_updateCommands fun row member written => (same row member written).1⟩

theorem messages_keep {before : CommandDb} {hit : MessageRow → Bool}
    {change : MessageRow → MessageRow} {keeps : ∀ row, (change row).identity = row.identity}
    (h : Settled db ∧ Frozen before db) :
    Settled (db.updateMessages hit change keeps) ∧ Frozen before (db.updateMessages hit change keeps) :=
  ⟨settledBut_of_eq h.1 rfl rfl, h.2.trans (Frozen.of_eq rfl rfl)⟩

/-- The command a function looked up is the only one its statements reach. -/
theorem commandOf_unique {tenant id : Uuid} {command row : CommandRow}
    (found : db.commands.rows.find? (commandOf tenant id) = some command) (member : row ∈ db.commands)
    (reached : commandOf tenant id row = true) : row = command := by
  have reachedC := List.find?_some found
  have memberC : command ∈ db.commands := List.mem_of_find?_eq_some found
  simp only [commandOf, Bool.and_eq_true, decide_eq_true_eq] at reached reachedC
  exact Table.eq_of_key member memberC (reached.2.trans reachedC.2.symm)

end Statements

/-! ## One lemma for each operation -/

section Operations

variable {db db' : CommandDb} {calendar : Calendar}

theorem resolveRow_resolved (at_ : Timestamp) (row : OutboxRow) :
    (resolveRow at_ row).resolvedAt.isSome = true := rfl

theorem publishRow_resolved (at_ : Timestamp) (row : OutboxRow) :
    (publishRow at_ row).resolvedAt.isSome = true := rfl

theorem deliverable_not_terminal {status : CommandStatus} (h : status.deliverable = true) :
    status.terminal = false := by
  cases status <;> simp_all [CommandStatus.deliverable, CommandStatus.terminal]

theorem open_not_terminal {status : CommandStatus} (h : status.open = true) :
    status.terminal = false := by
  cases status <;> simp_all [CommandStatus.open, CommandStatus.terminal]

/-- A statement on one command that was looked up and is not terminal. -/
theorem selects_one {tenant id : Uuid} {command : CommandRow} {change : CommandRow → CommandRow}
    (found : db.commands.rows.find? (commandOf tenant id) = some command)
    (alive : command.status.terminal = false) :
    ∀ row ∈ db.commands, commandOf tenant id row = true →
      row.tenantId = tenant ∧ row.id ∈ [id] ∧
        (row.status.terminal = true → (change row).status = row.status) := by
  intro row member reached
  obtain rfl := commandOf_unique found member reached
  simp only [commandOf, Bool.and_eq_true, decide_eq_true_eq] at reached
  refine ⟨reached.1, by simp [reached.2], fun terminal => ?_⟩
  rw [alive] at terminal
  cases terminal

theorem enqueueCommand_keeps {registered : Uuid → Uuid → Bool} {context : Option Uuid}
    {args : EnqueueArgs} {id : Uuid} {outboxId : Nat} {now : Timestamp} {row : CommandRow}
    (settled : Settled db)
    (h : enqueueCommand registered context args id outboxId now db = .ok (db', row)) :
    Settled db' ∧ Frozen db db' := by
  obtain ⟨_, _, body⟩ := bind_success h
  clear h
  split at body
  · cases body
  · obtain ⟨⟨db1, inserted⟩, attempt, rest⟩ := bind_success body
    clear body
    rcases insertCommand_cases attempt with ⟨rfl, rfl, _⟩ | ⟨rfl, _, fresh, members, outbox1, _⟩
    · simp only [Bool.false_eq_true, if_false] at rest
      split at rest
      · split at rest
        · cases rest
        · cases rest
          exact ⟨settled, Frozen.refl _⟩
      · cases rest
    · obtain ⟨db2, woken, done⟩ := bind_success rest
      cases done
      obtain ⟨rows, commands, _⟩ := insertOutbox_ok woken
      constructor
      · intro command member terminal outside other inOutbox same
        rw [commands] at member
        have old : command ∈ db.commands := by
          rcases (members command).mp member with old | rfl
          · exact old
          · cases terminal
        rcases (rows other).mp inOutbox with oldRow | rfl
        · rw [outbox1] at oldRow
          exact settled command old terminal outside other oldRow same
        · exact absurd same.symm (fresh command old)
      · constructor
        · intro command member _
          refine ⟨command, ?_, rfl, rfl⟩
          rw [commands]
          exact (members command).mpr (Or.inl member)
        · intro other member _
          refine (rows other).mpr (Or.inl ?_)
          rwa [outbox1]

/-- A row whose id was taken from a filtered list meets the filter. -/
theorem takeInOrder_filter {limit : Option Int} {locked : OutboxRow → Bool} {p : OutboxRow → Bool}
    {row : OutboxRow} (member : row ∈ db.outbox)
    (taken : (takeInOrder limit locked (db.outbox.rows.filter p)).contains row.id = true) :
    p row = true := by
  rw [List.contains_iff_mem] at taken
  unfold takeInOrder at taken
  split at taken
  · exact Table.picked_of_key member ((List.mem_insertionSort _).mp taken)
  · exact Table.picked_of_key member ((List.mem_insertionSort _).mp (List.mem_of_mem_take taken))

theorem claimCommandOutbox_keeps {context : Option Uuid} {args : ClaimArgs}
    {locked : OutboxRow → Bool} {now : Timestamp} {claimed : List ClaimedRow} (settled : Settled db)
    (h : claimCommandOutbox calendar context args locked now db = .ok (db', claimed)) :
    Settled db' ∧ Frozen db db' := by
  obtain ⟨_, _, written⟩ := claimCommandOutbox_ok h
  refine outbox_keeps settled written fun row member taken => ?_
  have eligible := takeInOrder_filter member taken
  simp only [claimable, Bool.and_eq_true, Option.isNone_iff_eq_none] at eligible
  exact eligible.1.1.2

theorem heldBy_unresolved {tenant : Uuid} {outboxId : Nat} {worker : String} {now : Timestamp}
    {row : OutboxRow} (h : heldBy tenant outboxId worker now row = true) : row.resolvedAt = none := by
  simp only [heldBy, Bool.and_eq_true, Option.isNone_iff_eq_none] at h
  exact h.1.1.1.2

theorem markCommandOutboxPublished_keeps {context : Option Uuid} {tenant : Uuid} {outboxId : Nat}
    {worker : Option String} {now : Timestamp} {updated : Bool} (settled : Settled db)
    (h : markCommandOutboxPublished context tenant outboxId worker now db = .ok (db', updated)) :
    Settled db' ∧ Frozen db db' := by
  obtain ⟨_, written⟩ := markCommandOutboxPublished_ok h
  exact outbox_keeps settled written fun row _ held => heldBy_unresolved held

theorem requeueUnresolvedOutbox_keeps {context : Option Uuid} {tenant : Uuid}
    {after : Option Interval} {limit : Option Int} {locked : OutboxRow → Bool} {now : Timestamp}
    {count : Nat} (settled : Settled db)
    (h : requeueUnresolvedOutbox calendar context tenant after limit locked now db =
      .ok (db', count)) : Settled db' ∧ Frozen db db' := by
  obtain ⟨_, written⟩ := requeueUnresolvedOutbox_ok h
  refine outbox_keeps settled written fun row member taken => ?_
  have eligible := takeInOrder_filter member taken
  simp only [stale, Bool.and_eq_true, Option.isNone_iff_eq_none] at eligible
  exact eligible.1.1.1.2

theorem retryCommandOutboxWakeup_keeps {context : Option Uuid} {tenant : Uuid} {outboxId : Nat}
    {worker : Option String} {availableAt : Option Timestamp} {reason : Option String}
    {now : Timestamp} {updated : Bool} (settled : Settled db)
    (h : retryCommandOutboxWakeup context tenant outboxId worker availableAt reason now db =
      .ok (db', updated)) : Settled db' ∧ Frozen db db' := by
  obtain ⟨_, _, _, written⟩ := retryCommandOutboxWakeup_ok h
  exact outbox_keeps settled written fun row _ held => heldBy_unresolved held

theorem recordCommandDeliveryAttempt_keeps {context : Option Uuid} {args : AttemptArgs}
    {recorded : Bool} (settled : Settled db)
    (h : recordCommandDeliveryAttempt context args db = .ok (db', recorded)) :
    Settled db' ∧ Frozen db db' := by
  rcases recordCommandDeliveryAttempt_cases h with rfl | ⟨command, row, at_, db1, found, deliverable, inserted, rfl⟩
  · exact ⟨settled, Frozen.refl _⟩
  · obtain ⟨commands, outbox, _⟩ := insertAttempt_ok inserted
    have settled1 : Settled db1 := settledBut_of_eq settled commands outbox
    rw [← commands] at found
    refine And.imp_right (Frozen.of_eq commands outbox).trans (commands_keep settled1 ?_)
    intro row member reached
    exact ⟨(selects_one found (deliverable_not_terminal deliverable) row member reached).2.2,
      fun terminal => by cases terminal⟩

theorem applyCommandReceipt_keeps {context : Option Uuid} {args : ReceiptArgs} {now : Timestamp}
    {replayed : Bool} (settled : Settled db)
    (h : applyCommandReceipt calendar context args now db = .ok (db', replayed)) :
    Settled db' ∧ Frozen db db' := by
  rcases applyCommandReceipt_cases h with rfl | ⟨commandId, command, row, db1, _, found, attempt, written⟩
  · exact ⟨settled, Frozen.refl _⟩
  · have frame := insertReceipt_frame attempt
    have settled1 : Settled db1 := settledBut_of_eq settled frame.1 frame.2
    have frozen1 := Frozen.of_eq frame.1 frame.2
    rw [← frame.1] at found
    rw [wakeupOf_eq] at written
    rcases written with ⟨deliverable, resolved⟩ | resolved | ⟨_, _, deferred⟩ | rfl
    · have accepted : Settled (db1.updateCommands (commandOf args.tenantId commandId) (acceptRow now)
            (acceptRow_identity now)) ∧
          Frozen db1 (db1.updateCommands (commandOf args.tenantId commandId) (acceptRow now)
            (acceptRow_identity now)) := by
        refine commands_keep settled1 fun row member reached => ?_
        exact ⟨(selects_one found (deliverable_not_terminal deliverable) row member reached).2.2,
          fun terminal => by cases terminal⟩
      have kept := outbox_keeps accepted.1 resolved (fun row _ selected => wakeupIn_unresolved selected)
      exact ⟨kept.1, (frozen1.trans accepted.2).trans kept.2⟩
    · refine And.imp_right frozen1.trans (outbox_keeps settled1 resolved ?_)
      exact fun row _ selected => wakeupIn_unresolved selected
    · refine And.imp_right frozen1.trans (outbox_keeps settled1 deferred ?_)
      exact fun row _ selected => wakeupIn_unresolved selected
    · exact ⟨settled1, frozen1⟩

theorem applyCommandResult_keeps {context : Option Uuid} {args : ResultArgs} {now : Timestamp}
    {replayed : Bool} (settled : Settled db)
    (h : applyCommandResult calendar context args now db = .ok (db', replayed)) :
    Settled db' ∧ Frozen db db' := by
  obtain ⟨commandId, command, _, found, written⟩ := applyCommandResult_cases h
  rw [wakeupOf_eq] at written
  rcases written with again | ⟨alive, status, at_, result, ended⟩
  · exact outbox_keeps settled again fun row _ selected => wakeupIn_unresolved selected
  · exact settle_pair settled (selects_one found (open_not_terminal alive)) (resolveRow_resolved now) ended

theorem recordReceipt_keeps {tenant : Uuid} {receipt : Receipt} {now : Timestamp}
    (settled : Settled db) (h : recordReceipt tenant receipt now db = .ok db') :
    Settled db' ∧ Frozen db db' := by
  obtain ⟨_, commandId, _, db1, inserted, _, attempt, written⟩ := recordReceipt_cases h
  have frame := insertReceipt_frame attempt
  have settled1 : Settled db1 := settledBut_of_eq settled frame.1 frame.2
  have frozen1 := Frozen.of_eq frame.1 frame.2
  rcases written with ⟨_, rfl⟩ | ⟨_, rfl⟩
  · refine And.imp_right frozen1.trans (commands_keep settled1 fun row member reached => ?_)
    simp only [Bool.and_eq_true] at reached
    refine ⟨fun terminal => ?_, fun terminal => by cases terminal⟩
    rw [deliverable_not_terminal reached.2] at terminal
    cases terminal
  · exact ⟨settled1, frozen1⟩

/-- A result ends its command in the status it carries, and settles the wakeup. -/
theorem recordResult_keeps {tenant : Uuid} {result : CommandResult} {now : Timestamp}
    (settled : Settled db) (h : recordResult tenant result now db = .ok db') :
    Settled db' ∧ Frozen db db' := by
  obtain ⟨status, _, h⟩ := bind_success h
  obtain ⟨detail, _, h⟩ := bind_success h
  obtain ⟨commandId, _, h⟩ := bind_success h
  dsimp only at h
  rw [wakeupOf_eq] at h
  split at h
  · refine settle_pair settled (fun row _ reached => ?_) (publishRow_resolved now) h
    simp only [resultHit, commandOf, Bool.and_eq_true, decide_eq_true_eq, Bool.not_eq_true'] at reached
    refine ⟨reached.1.1, by simp [reached.1.2], fun terminal => ?_⟩
    rw [reached.2] at terminal
    cases terminal
  · refine settle_pair settled (fun row _ reached => ?_) (publishRow_resolved now) h
    simp only [lateHit, commandOf, Bool.and_eq_true, decide_eq_true_eq] at reached
    exact ⟨reached.1.1, by simp [reached.1.2], fun _ => rfl⟩

/-- The five statuses of a result are the terminal ones. -/
theorem terminalStatuses_statusIn {text : String} (member : text ∈ terminalStatuses) :
    ∃ status, statusIn text = .ok status ∧ status.terminal = true := by
  simp only [terminalStatuses, List.mem_cons, List.not_mem_nil, or_false] at member
  rcases member with rfl | rfl | rfl | rfl | rfl
  · exact ⟨.succeeded, rfl, rfl⟩
  · exact ⟨.failed, rfl, rfl⟩
  · exact ⟨.unknown, rfl, rfl⟩
  · exact ⟨.expired, rfl, rfl⟩
  · exact ⟨.cancelled, rfl, rfl⟩

theorem settleOutbound_ok {tenant : Uuid} {commandId reason : String} {status : MessageStatus}
    {reference : Option Int} {now : Timestamp} {db db' : CommandDb}
    (h : settleOutbound tenant commandId status reason reference now db = .ok db') :
    ∃ id, uuidIn commandId = .ok id ∧
      db' = db.updateMessages (settleHit tenant id db.commands.rows)
        (settleMessage status reason reference now)
        (settleMessage_identity status reason reference now) := by
  obtain ⟨id, named, h⟩ := bind_success h
  split at h
  · cases h
  · split at h
    · cases h
    · cases h
      exact ⟨id, named, rfl⟩

/-- The command a result with a terminal status names is terminal after it. -/
theorem recordResult_ends {tenant id : Uuid} {result : CommandResult} {now : Timestamp}
    {status : CommandStatus} (h : recordResult tenant result now db = .ok db')
    (read : statusIn result.status = .ok status) (terminal : status.terminal = true)
    (named : uuidIn result.commandId = .ok id) :
    ∀ row ∈ db'.commands, commandOf tenant id row = true → row.status.terminal = true := by
  obtain ⟨status', read', h⟩ := bind_success h
  cases read.symm.trans read'
  obtain ⟨detail, _, h⟩ := bind_success h
  obtain ⟨id', named', h⟩ := bind_success h
  cases named.symm.trans named'
  dsimp only at h
  split at h
  all_goals
    next reached =>
    obtain ⟨_, commands, _⟩ := updateOutbox_ok h
    intro row member own
    rw [commands] at member
    obtain ⟨old, inTable, rfl⟩ := mem_updateCommands.mp member
    by_cases alive : resultHit tenant id old = true
    · first
        | simp only [alive, if_true]
          exact terminal
        | exact absurd (List.any_eq_true.mpr ⟨old, inTable, alive⟩) reached
    · have same : commandOf tenant id old = true := by
        split at own
        · exact own
        · exact own
      have ended : old.status.terminal = true := by
        simpa [resultHit, same] using alive
      split
      · first
          | exact terminal
          | exact ended
      · exact ended

theorem expireCommand_keeps {context : Option Uuid} {tenant command : Uuid}
    {expiredAt : Option Timestamp} {expired : Bool} (settled : Settled db)
    (h : expireCommand calendar context tenant command expiredAt db = .ok (db', expired)) :
    Settled db' ∧ Frozen db db' := by
  rcases expireCommand_cases h with rfl | ⟨at_, existing, db2, found, deliverable, written, rfl⟩
  · exact ⟨settled, Frozen.refl _⟩
  · rw [wakeupOf_eq] at written
    apply messages_keep
    exact settle_pair settled (selects_one found (deliverable_not_terminal deliverable))
      (resolveRow_resolved _) written

theorem expireSweep_keeps {tenant : Uuid} {hit : CommandRow → Bool} {now : Timestamp} {count : Nat}
    (settled : Settled db)
    (selects : ∀ row ∈ db.commands, hit row = true →
      row.tenantId = tenant ∧ row.status.terminal = false)
    (h : expireSweep calendar tenant hit now db = .ok (db', count)) :
    Settled db' ∧ Frozen db db' := by
  obtain ⟨db2, written, h⟩ := bind_success h
  cases h
  apply messages_keep
  refine settle_pair settled (fun row member reached => ?_) (publishRow_resolved now) written
  obtain ⟨sameTenant, alive⟩ := selects row member reached
  refine ⟨sameTenant, ?_, fun terminal => ?_⟩
  · exact List.mem_map.mpr ⟨row, List.mem_filter.mpr ⟨member, reached⟩, rfl⟩
  · rw [alive] at terminal
    cases terminal

theorem overdue_not_terminal {now : Option Timestamp} {row : CommandRow} (h : overdue now row = true) :
    row.status.terminal = false := by
  simp only [overdue, Bool.and_eq_true] at h
  exact open_not_terminal h.1

/-- Every operation keeps both facts. -/
theorem apply_keeps {op : CommandOp} (settled : Settled db) (h : op.apply calendar db = .ok db') :
    Settled db' ∧ Frozen db db' := by
  cases op with
  | recordReceipt => exact recordReceipt_keeps settled h
  | recordResult => exact recordResult_keeps settled h
  | enqueueCommand =>
    obtain ⟨⟨_, _⟩, done, rfl⟩ := map_success h
    exact enqueueCommand_keeps settled done
  | claimCommandOutbox =>
    obtain ⟨⟨_, _⟩, done, rfl⟩ := map_success h
    exact claimCommandOutbox_keeps settled done
  | markCommandOutboxPublished =>
    obtain ⟨⟨_, _⟩, done, rfl⟩ := map_success h
    exact markCommandOutboxPublished_keeps settled done
  | requeueUnresolvedOutbox =>
    obtain ⟨⟨_, _⟩, done, rfl⟩ := map_success h
    exact requeueUnresolvedOutbox_keeps settled done
  | retryCommandOutboxWakeup =>
    obtain ⟨⟨_, _⟩, done, rfl⟩ := map_success h
    exact retryCommandOutboxWakeup_keeps settled done
  | recordCommandDeliveryAttempt =>
    obtain ⟨⟨_, _⟩, done, rfl⟩ := map_success h
    exact recordCommandDeliveryAttempt_keeps settled done
  | applyCommandReceipt =>
    obtain ⟨⟨_, _⟩, done, rfl⟩ := map_success h
    exact applyCommandReceipt_keeps settled done
  | applyCommandResult =>
    obtain ⟨⟨_, _⟩, done, rfl⟩ := map_success h
    exact applyCommandResult_keeps settled done
  | expireCommand =>
    obtain ⟨⟨_, _⟩, done, rfl⟩ := map_success h
    exact expireCommand_keeps settled done
  | expireOverdueCommands =>
    obtain ⟨⟨_, _⟩, done, rfl⟩ := map_success h
    obtain ⟨_, _, swept⟩ := bind_success done
    refine expireSweep_keeps settled (fun row _ selected => ?_) swept
    simp only [Bool.and_eq_true, decide_eq_true_eq] at selected
    exact ⟨selected.1.1, overdue_not_terminal selected.2⟩
  | expireOverdueTenantCommands =>
    obtain ⟨⟨_, _⟩, done, rfl⟩ := map_success h
    obtain ⟨_, _, swept⟩ := bind_success done
    refine expireSweep_keeps settled (fun row _ selected => ?_) swept
    simp only [Bool.and_eq_true, decide_eq_true_eq] at selected
    exact ⟨selected.1, overdue_not_terminal selected.2⟩

end Operations

/-! ## The lease shape -/

section LeaseShape

/-- The transaction does not end on `command_outbox_lease_shape`. -/
def Shaped {α : Type} (step : Except PgError α) : Prop := step ≠ .error leaseShapeViolation

variable {α β : Type} {db : CommandDb} {calendar : Calendar}

theorem shaped_ok (value : α) : Shaped (.ok value : Except PgError α) := nofun

theorem shaped_code {code message : String} (other : code ≠ leaseShapeViolation.code) :
    Shaped (.error ⟨code, message⟩ : Except PgError α) := by
  intro h
  cases h
  exact other rfl

/-- Another constraint of the same class. -/
theorem shaped_message {code message : String} (other : message ≠ leaseShapeViolation.message) :
    Shaped (.error ⟨code, message⟩ : Except PgError α) := by
  intro h
  cases h
  exact other rfl

theorem Shaped.bind {step : Except PgError α} {next : α → Except PgError β} (first : Shaped step)
    (later : ∀ value, step = .ok value → Shaped (next value)) : Shaped (step >>= next) := by
  intro h
  rcases bind_failure h with failed | ⟨value, went, failed⟩
  · exact first failed
  · exact later value went failed

theorem Shaped.map {step : Except PgError α} {f : α → β} (first : Shaped step) :
    Shaped (step.map f) := fun h => first (map_eq_error.mp h)

theorem shaped_updateOutbox {hit : OutboxRow → Bool} {change : OutboxRow → OutboxRow}
    {keeps : ∀ row, (change row).identity = row.identity}
    (shape : ∀ row ∈ db.outbox, hit row → (change row).leaseShape = true) :
    Shaped (db.updateOutbox hit change keeps) := by
  obtain ⟨db', updated⟩ := @updateOutbox_succeeds db hit change keeps shape
  rw [updated]
  exact shaped_ok db'

theorem shaped_tenantGuard (context : Option Uuid) (tenant : Uuid) (what : String) :
    Shaped (tenantGuard context tenant what) := by
  unfold tenantGuard
  split
  · exact shaped_ok _
  · exact shaped_code (by decide)

theorem shaped_timestamp (sum : Timestamp → Interval → Option Timestamp) (now : Timestamp)
    (interval : Option Interval) : Shaped (timestamp sum now interval) := by
  unfold timestamp
  split
  · exact shaped_ok _
  · split
    · exact shaped_ok _
    · exact shaped_code (by decide)

theorem shaped_uuidIn (text : String) : Shaped (uuidIn text) := by
  unfold uuidIn
  split
  · exact shaped_code (by decide)
  · split
    · exact shaped_ok _
    · exact shaped_code (by decide)

theorem shaped_statusIn (text : String) : Shaped (statusIn text) := by
  unfold statusIn
  split
  all_goals first | exact shaped_ok _ | exact shaped_code (by decide)

theorem shaped_receiptKindIn (text : String) : Shaped (receiptKindIn text) := by
  unfold receiptKindIn
  split
  all_goals first | exact shaped_ok _ | exact shaped_code (by decide)

theorem shaped_jsonbIn (document : Json) : Shaped (jsonbIn document) := by
  intro h
  exact absurd (jsonbIn_error h) (by decide)

theorem shaped_insertCommand (registered : Uuid → Uuid → Bool) (row : CommandRow) :
    Shaped (db.insertCommand registered row) := by
  unfold CommandDb.insertCommand
  split
  · exact shaped_message (by decide)
  · split
    · exact shaped_message (by decide)
    · split
      · exact shaped_ok _
      · split
        · exact shaped_code (by decide)
        · split
          · exact shaped_code (by decide)
          · exact shaped_ok _

theorem shaped_insertOutbox {row : OutboxRow} (shape : row.leaseShape = true) :
    Shaped (db.insertOutbox row) := by
  unfold CommandDb.insertOutbox
  split
  · exact shaped_code (by decide)
  · split
    · exact shaped_code (by decide)
    · split
      · next unshaped => rw [shape] at unshaped; cases unshaped
      · split
        · exact shaped_code (by decide)
        · exact shaped_ok _

theorem shaped_insertReceipt (row : ReceiptRow) : Shaped (db.insertReceipt row) := by
  unfold CommandDb.insertReceipt
  split
  · exact shaped_message (by decide)
  · split
    · exact shaped_ok _
    · split
      · exact shaped_code (by decide)
      · exact shaped_ok _

theorem shaped_insertAttempt (row : AttemptRow) : Shaped (db.insertAttempt row) := by
  unfold CommandDb.insertAttempt
  split
  · exact shaped_code (by decide)
  · exact shaped_ok _

theorem leaseShape_of_idle {row : OutboxRow} (idle : row.status ≠ .leased)
    (owner : row.leaseOwner = none) (until_ : row.leaseExpiresAt = none) : row.leaseShape = true := by
  simp [OutboxRow.leaseShape, idle, owner, until_]

theorem resolveRow_leaseShape (at_ : Timestamp) (row : OutboxRow) :
    (resolveRow at_ row).leaseShape = true := by
  apply leaseShape_of_idle
  · simp only [resolveRow]
    split
    · decide
    · assumption
  · rfl
  · rfl

theorem publishRow_leaseShape (at_ : Timestamp) (row : OutboxRow) :
    (publishRow at_ row).leaseShape = true := rfl

/-- The settle statements never fail. -/
theorem shaped_resolve {hit : OutboxRow → Bool} {at_ : Timestamp} :
    Shaped (db.updateOutbox hit (resolveRow at_) (resolveRow_identity at_)) :=
  shaped_updateOutbox fun row _ _ => resolveRow_leaseShape at_ row

theorem shaped_publish {hit : OutboxRow → Bool} {at_ : Timestamp} :
    Shaped (db.updateOutbox hit (publishRow at_) (publishRow_identity at_)) :=
  shaped_updateOutbox fun row _ _ => publishRow_leaseShape at_ row

theorem enqueueCommand_shaped (registered : Uuid → Uuid → Bool) (context : Option Uuid)
    (args : EnqueueArgs) (id : Uuid) (outboxId : Nat) (now : Timestamp) :
    Shaped (enqueueCommand registered context args id outboxId now db) := by
  refine (shaped_tenantGuard _ _ _).bind fun _ _ => ?_
  split
  · exact shaped_code (by decide)
  · refine (shaped_insertCommand _ _).bind fun value _ => ?_
    dsimp only
    split
    · exact Shaped.bind (shaped_insertOutbox rfl) fun _ _ => shaped_ok _
    · split
      · split
        · exact shaped_message (by decide)
        · exact shaped_ok _
      · exact shaped_message (by decide)

theorem markCommandOutboxPublished_shaped (context : Option Uuid) (tenant : Uuid) (outboxId : Nat)
    (worker : Option String) (now : Timestamp) :
    Shaped (markCommandOutboxPublished context tenant outboxId worker now db) := by
  refine (shaped_tenantGuard _ _ _).bind fun _ _ => ?_
  split
  · exact shaped_code (by decide)
  · split
    · exact shaped_code (by decide)
    · exact Shaped.bind (shaped_updateOutbox fun _ _ _ => rfl) fun _ _ => shaped_ok _

/-- A published wakeup holds no lease, so it can be put back to pending as it is. -/
theorem requeueUnresolvedOutbox_shaped (context : Option Uuid) (tenant : Uuid)
    (after : Option Interval) (limit : Option Int) (locked : OutboxRow → Bool) (now : Timestamp) :
    Shaped (requeueUnresolvedOutbox calendar context tenant after limit locked now db) := by
  refine (shaped_tenantGuard _ _ _).bind fun _ _ => ?_
  split
  · exact shaped_code (by decide)
  · split
    · exact shaped_code (by decide)
    · refine (shaped_timestamp _ _ _).bind fun before _ => ?_
      refine Shaped.bind (shaped_updateOutbox fun row member taken => ?_) fun _ _ => shaped_ok _
      have eligible := takeInOrder_filter member taken
      simp only [stale, Bool.and_eq_true, decide_eq_true_eq] at eligible
      have shape := db.valid.leaseShape row member
      simp only [OutboxRow.leaseShape, eligible.1.1.2] at shape
      exact shape

theorem retryCommandOutboxWakeup_shaped (context : Option Uuid) (tenant : Uuid) (outboxId : Nat)
    (worker : Option String) (availableAt : Option Timestamp) (reason : Option String)
    (now : Timestamp) :
    Shaped (retryCommandOutboxWakeup context tenant outboxId worker availableAt reason now db) := by
  refine (shaped_tenantGuard _ _ _).bind fun _ _ => ?_
  split
  · exact shaped_code (by decide)
  · split
    · exact shaped_code (by decide)
    · split
      · exact shaped_code (by decide)
      · split
        · exact shaped_code (by decide)
        · split
          · exact shaped_code (by decide)
          · split
            · exact shaped_code (by decide)
            · exact Shaped.bind (shaped_updateOutbox fun _ _ _ => rfl) fun _ _ => shaped_ok _

theorem recordCommandDeliveryAttempt_shaped (context : Option Uuid) (args : AttemptArgs) :
    Shaped (recordCommandDeliveryAttempt context args db) := by
  refine (shaped_tenantGuard _ _ _).bind fun _ _ => ?_
  split
  · split
    · exact shaped_code (by decide)
    · split
      · exact shaped_code (by decide)
      · split
        · split
          · exact shaped_ok _
          · exact shaped_code (by decide)
        · split
          · exact shaped_ok _
          · split
            · exact shaped_code (by decide)
            · split
              · exact shaped_code (by decide)
              · exact (shaped_insertAttempt _).bind fun _ _ => shaped_ok _
  · exact shaped_code (by decide)

theorem applyCommandReceipt_shaped (context : Option Uuid) (args : ReceiptArgs) (now : Timestamp) :
    Shaped (applyCommandReceipt calendar context args now db) := by
  refine (shaped_tenantGuard _ _ _).bind fun _ _ => ?_
  split
  · dsimp only
    split
    · exact shaped_code (by decide)
    · split
      · exact shaped_code (by decide)
      · split
        · exact shaped_code (by decide)
        · split
          · exact shaped_code (by decide)
          · refine (shaped_receiptKindIn _).bind fun kind _ => ?_
            split
            · split
              · exact shaped_ok _
              · exact shaped_code (by decide)
            · split
              · exact shaped_code (by decide)
              · split
                · exact shaped_code (by decide)
                · refine (shaped_insertReceipt _).bind fun value _ => ?_
                  split
                  · exact shaped_code (by decide)
                  · split
                    · exact shaped_resolve.bind fun _ _ => shaped_ok _
                    · split
                      · exact Shaped.bind (shaped_updateOutbox fun _ _ _ => rfl) fun _ _ => shaped_ok _
                      · exact shaped_ok _
  · exact shaped_code (by decide)

theorem applyCommandResult_shaped (context : Option Uuid) (args : ResultArgs) (now : Timestamp) :
    Shaped (applyCommandResult calendar context args now db) := by
  refine (shaped_tenantGuard _ _ _).bind fun _ _ => ?_
  split
  · split
    · exact shaped_code (by decide)
    · split
      · exact shaped_code (by decide)
      · split
        · exact shaped_code (by decide)
        · split
          · exact shaped_code (by decide)
          · split
            · exact shaped_code (by decide)
            · split
              · exact shaped_code (by decide)
              · refine (shaped_statusIn _).bind fun status _ => ?_
                dsimp only
                split
                · split
                  · exact shaped_resolve.bind fun _ _ => shaped_ok _
                  · exact shaped_code (by decide)
                · exact shaped_resolve.bind fun _ _ => shaped_ok _
  · exact shaped_code (by decide)

theorem recordReceipt_shaped (tenant : Uuid) (receipt : Receipt) (now : Timestamp) :
    Shaped (recordReceipt tenant receipt now db) := by
  refine (shaped_uuidIn _).bind fun id _ => ?_
  refine (shaped_uuidIn _).bind fun commandId _ => ?_
  refine (shaped_receiptKindIn _).bind fun kind _ => ?_
  refine (shaped_insertReceipt _).bind fun value _ => ?_
  dsimp only
  split
  · exact shaped_ok _
  · exact shaped_ok _

theorem recordResult_shaped (tenant : Uuid) (result : CommandResult) (now : Timestamp) :
    Shaped (recordResult tenant result now db) := by
  refine (shaped_statusIn _).bind fun status _ => ?_
  refine (shaped_jsonbIn _).bind fun detail _ => ?_
  refine (shaped_uuidIn _).bind fun commandId _ => ?_
  exact shaped_publish

theorem expireCommand_shaped (context : Option Uuid) (tenant command : Uuid)
    (expiredAt : Option Timestamp) :
    Shaped (expireCommand calendar context tenant command expiredAt db) := by
  refine (shaped_tenantGuard _ _ _).bind fun _ _ => ?_
  split
  · exact shaped_code (by decide)
  · split
    · exact shaped_code (by decide)
    · split
      · exact shaped_ok _
      · exact shaped_resolve.bind fun _ _ => shaped_ok _

theorem expireSweep_shaped (tenant : Uuid) (hit : CommandRow → Bool) (now : Timestamp) :
    Shaped (expireSweep calendar tenant hit now db) :=
  shaped_publish.bind fun _ _ => shaped_ok _

/-- The wakeups a claim takes. -/
def claimed (db : CommandDb) (args : ClaimArgs) (locked : OutboxRow → Bool) (now : Timestamp) :
    List Nat :=
  takeInOrder args.limit locked
    (db.outbox.rows.filter (claimable args.tenantId now db.commands.rows))

/-- A claim that gets past every check with a NULL lease and finds a wakeup to take. -/
def claimsWithoutLease (db : CommandDb) : CommandOp → Bool
  | .claimCommandOutbox context args locked now =>
    some args.tenantId = context && args.worker.any (fun worker => !blank worker) &&
      args.limit.all (fun limit => 1 ≤ limit && limit ≤ 1000) && args.leaseFor.isNone &&
      db.outbox.rows.any (fun row => (claimed db args locked now).contains row.id) &&
      db.outbox.rows.all (fun row =>
        !((claimed db args locked now).contains row.id && integerMax ≤ row.attemptCount))
  | _ => false

theorem leaseRow_leaseShape (worker : String) (until_ : Option Timestamp) (row : OutboxRow) :
    (leaseRow worker until_ row).leaseShape = until_.isSome := by
  simp [leaseRow, OutboxRow.leaseShape]

/-- A lease that is computed is there unless none was asked for. -/
theorem timestamp_isSome {sum : Timestamp → Interval → Option Timestamp} {now : Timestamp}
    {interval : Option Interval} {result : Option Timestamp}
    (h : timestamp sum now interval = .ok result) : result.isSome = interval.isSome := by
  unfold timestamp at h
  split at h
  · cases h
    rfl
  · split at h
    · cases h
      rfl
    · cases h

theorem any_not_all {limit : Option Int} :
    limit.any (fun limit => limit < 1 || 1000 < limit) =
      !limit.all (fun limit => 1 ≤ limit && limit ≤ 1000) := by
  cases limit with
  | none => rfl
  | some value =>
    simp only [Option.any_some, Option.all_some, Bool.not_and]
    congr 1
    · by_cases small : value < 1
      · simp [small]
      · simp [small]; omega
    · by_cases large : 1000 < value
      · simp [large]
      · simp [large]; omega

theorem claimCommandOutbox_unshaped {context : Option Uuid} {args : ClaimArgs}
    {locked : OutboxRow → Bool} {now : Timestamp}
    (h : claimsWithoutLease db (.claimCommandOutbox context args locked now) = true) :
    claimCommandOutbox calendar context args locked now db = .error leaseShapeViolation := by
  simp only [claimsWithoutLease, Bool.and_eq_true, decide_eq_true_eq, Option.any_eq_true,
    Option.isNone_iff_eq_none, Bool.not_eq_true'] at h
  obtain ⟨⟨⟨⟨⟨sameTenant, worker, given, named⟩, within⟩, noLease⟩, found⟩, counted⟩ := h
  have bounded : args.limit.any (fun limit => limit < 1 || 1000 < limit) = false := by
    rw [any_not_all, within]
    rfl
  have free : db.outbox.rows.any (fun row => (claimed db args locked now).contains row.id &&
      integerMax ≤ row.attemptCount) = false := by
    rw [← Bool.not_eq_true, List.any_eq_true]
    rintro ⟨row, member, full⟩
    have spared := List.all_eq_true.mp counted row member
    rw [full] at spared
    cases spared
  have refused : db.updateOutbox (fun row => (claimed db args locked now).contains row.id)
      (leaseRow worker none) (leaseRow_identity worker none) = .error leaseShapeViolation := by
    unfold CommandDb.updateOutbox
    obtain ⟨row, member, taken⟩ := List.any_eq_true.mp found
    rw [dif_neg]
    intro shape
    have impossible := shape row member taken
    rw [leaseRow_leaseShape] at impossible
    cases impossible
  unfold claimed at free refused
  simp only [claimCommandOutbox, tenantGuard, if_pos sameTenant, given, named, bounded, noLease, free,
    timestamp, Option.any_none, Bool.false_eq_true, if_false]
  change (db.updateOutbox _ (leaseRow worker none) _ >>= _) = _
  rw [refused]
  rfl

theorem claimCommandOutbox_shaped {context : Option Uuid} {args : ClaimArgs}
    {locked : OutboxRow → Bool} {now : Timestamp}
    (h : claimsWithoutLease db (.claimCommandOutbox context args locked now) = false) :
    Shaped (claimCommandOutbox calendar context args locked now db) := by
  refine (shaped_tenantGuard _ _ _).bind fun _ guarded => ?_
  split
  · exact shaped_code (by decide)
  · next worker given =>
    split
    · exact shaped_code (by decide)
    · next named =>
      split
      · exact shaped_code (by decide)
      · next within =>
        split
        · exact shaped_code (by decide)
        · dsimp only
          split
          · exact shaped_code (by decide)
          · next counted =>
            refine (shaped_timestamp _ _ _).bind fun until_ computed => ?_
            refine Shaped.bind (shaped_updateOutbox fun row member taken => ?_) fun _ _ => shaped_ok _
            rw [leaseRow_leaseShape, timestamp_isSome computed]
            -- Every other conjunct of `claimsWithoutLease` holds here.
            by_contra noLease
            rw [← Bool.not_eq_true] at h
            apply h
            rw [any_not_all] at within
            simp only [claimsWithoutLease, Bool.and_eq_true, decide_eq_true_eq]
            refine ⟨⟨⟨⟨⟨?_, ?_⟩, ?_⟩, ?_⟩, ?_⟩, ?_⟩
            · unfold tenantGuard at guarded
              split at guarded
              · assumption
              · cases guarded
            · simp [given, named]
            · simpa using within
            · simpa using noLease
            · exact List.any_eq_true.mpr ⟨row, member, taken⟩
            · refine List.all_eq_true.mpr fun other inTable => ?_
              rw [Bool.not_eq_true, ← Bool.not_eq_true, List.any_eq_true] at counted
              rw [Bool.not_eq_true', ← Bool.not_eq_true]
              exact fun full => counted ⟨other, inTable, full⟩

/-- An operation fails on the lease shape exactly when it is such a claim. -/
theorem apply_shaped_iff {op : CommandOp} :
    Shaped (op.apply calendar db) ↔ claimsWithoutLease db op = false := by
  cases op with
  | claimCommandOutbox context args locked now =>
    constructor
    · intro shaped
      by_contra unleased
      rw [Bool.not_eq_false] at unleased
      refine shaped ?_
      simp only [CommandOp.apply, claimCommandOutbox_unshaped unleased]
      rfl
    · exact fun leased => (claimCommandOutbox_shaped leased).map
  | enqueueCommand => exact iff_of_true (enqueueCommand_shaped _ _ _ _ _ _).map rfl
  | markCommandOutboxPublished => exact iff_of_true (markCommandOutboxPublished_shaped _ _ _ _ _).map rfl
  | requeueUnresolvedOutbox => exact iff_of_true (requeueUnresolvedOutbox_shaped _ _ _ _ _ _).map rfl
  | retryCommandOutboxWakeup => exact iff_of_true (retryCommandOutboxWakeup_shaped _ _ _ _ _ _ _).map rfl
  | recordCommandDeliveryAttempt => exact iff_of_true (recordCommandDeliveryAttempt_shaped _ _).map rfl
  | applyCommandReceipt => exact iff_of_true (applyCommandReceipt_shaped _ _ _).map rfl
  | applyCommandResult => exact iff_of_true (applyCommandResult_shaped _ _ _).map rfl
  | recordReceipt => exact iff_of_true (recordReceipt_shaped _ _ _) rfl
  | recordResult => exact iff_of_true (recordResult_shaped _ _ _) rfl
  | expireCommand => exact iff_of_true (expireCommand_shaped _ _ _ _).map rfl
  | expireOverdueCommands =>
    refine iff_of_true (Shaped.map ?_) rfl
    exact (shaped_tenantGuard _ _ _).bind fun _ _ => expireSweep_shaped _ _ _
  | expireOverdueTenantCommands =>
    refine iff_of_true (Shaped.map ?_) rfl
    exact (shaped_tenantGuard _ _ _).bind fun _ _ => expireSweep_shaped _ _ _

end LeaseShape

/-! ## Runs of the lifecycle -/

section Runs

variable {calendar : Calendar}

/-- Nothing enqueued yet. -/
theorem settled_of_no_commands {db : CommandDb} (fresh : db.commands.rows = []) : Settled db := by
  intro command member
  change command ∈ db.commands.rows at member
  rw [fresh] at member
  cases member

/-- From any settled state on, a run keeps both facts. -/
theorem run_keeps {start : CommandDb} (settled : Settled start) (ops : List CommandOp) :
    Settled (run (CommandOp.apply calendar) start ops) ∧
      Frozen start (run (CommandOp.apply calendar) start ops) := by
  refine @run_rel CommandDb CommandOp PgError (CommandOp.apply calendar)
    (fun before after => Settled before → Settled after ∧ Frozen before after) ?_ ?_ ?_ start ops settled
  · exact fun state holds => ⟨holds, Frozen.refl state⟩
  · intro a b c first second holds
    obtain ⟨holdsB, frozenB⟩ := first holds
    obtain ⟨holdsC, frozenC⟩ := second holdsB
    exact ⟨holdsC, frozenB.trans frozenC⟩
  · exact fun op state next committed holds => apply_keeps holds committed

/-- Over every run from empty tables a terminal status stays, a terminal command
has its wakeup resolved and a resolved wakeup is not written again. The steps
that fail on `command_outbox_lease_shape` are the claims with a NULL lease that
find a wakeup to take, and no others. -/
theorem terminal_is_final (start : CommandDb) (fresh : start.commands.rows = [])
    (earlier later : List CommandOp) :
    let middle := run (CommandOp.apply calendar) start earlier
    let final := run (CommandOp.apply calendar) middle later
    (∀ command ∈ middle.commands, command.status.terminal = true →
      ∃ after ∈ final.commands, after.id = command.id ∧ after.status = command.status) ∧
    (∀ command ∈ final.commands, command.status.terminal = true →
      ∀ row ∈ final.outbox, row.commandId = command.id → row.resolvedAt.isSome = true) ∧
    (∀ row ∈ middle.outbox, row.resolvedAt.isSome = true → row ∈ final.outbox) ∧
    (∀ op, op.apply calendar final = .error leaseShapeViolation ↔
      claimsWithoutLease final op = true) := by
  intro middle final
  have settledMiddle : Settled middle := (run_keeps (settled_of_no_commands fresh) earlier).1
  obtain ⟨settled, frozen⟩ := @run_keeps calendar middle settledMiddle later
  refine ⟨frozen.commands, ?_, frozen.outbox, fun op => ?_⟩
  · intro command member terminal row inOutbox same
    exact settled command member terminal id row inOutbox same
  · have exact_ := not_congr (@apply_shaped_iff final calendar op)
    simpa [Shaped] using exact_

/-- Days of 24 hours and months of 30 days. -/
def plainCalendar : Calendar where
  plus now interval := some (now + interval.span)
  minus now interval := some (now - interval.span)
  text at_ := toString at_

/-- Tenant 1 asks device 2 for an SMS. -/
def enqueueOne : CommandOp :=
  .enqueueCommand (fun _ _ => true) (some 1) ⟨1, 2, .sendSms, .obj [], "key", 1000⟩ 3 1 0

/-- A dispatcher claims the tenant's wakeups, with or without naming a lease. -/
def claimOne (leaseFor : Option Interval) : CommandOp :=
  .claimCommandOutbox (some 1) ⟨1, some "worker", some 100, leaseFor⟩ (fun _ => false) 0

theorem terminal_is_final_expired :
    CommandDb.empty.commands.rows = [] ∧
    let expired := run (CommandOp.apply plainCalendar) CommandDb.empty
      [enqueueOne, claimOne (some ⟨0, 0, 30000000⟩), .expireOverdueTenantCommands (some 1) 1 (some 1000)]
    expired.commands.rows.map CommandRow.status = [.expired] ∧
    (∀ command ∈ expired.commands, command.status.terminal = true →
      ∀ row ∈ expired.outbox, row.commandId = command.id → row.resolvedAt.isSome = true) := by
  refine ⟨rfl, by decide, ?_⟩
  exact (@terminal_is_final plainCalendar CommandDb.empty rfl []
    [enqueueOne, claimOne (some ⟨0, 0, 30000000⟩),
      .expireOverdueTenantCommands (some 1) 1 (some 1000)]).2.1

/-- Naming no lease takes the wakeup without an expiry. -/
theorem claim_without_lease_violates_shape :
    (claimOne none).apply plainCalendar
      (run (CommandOp.apply plainCalendar) CommandDb.empty [enqueueOne]) =
        .error leaseShapeViolation := by
  by_contra shaped
  have leased := apply_shaped_iff.mp shaped
  revert leased
  decide

end Runs

end VodogeCloud.Guarantees.TerminalCommands
