import VodogeCloud.Lib.Transactions
import VodogeCloud.Source.CommandLifecycle

/-!
# What an enqueue does

`app.enqueue_command` adds one queued command with its wakeup, or answers with the
row that is already under the key, whatever has become of that row. Everything that
queues a command rests on these two cases, and on when the first of them is taken.
-/

set_option autoImplicit false

namespace VodogeCloud.Guarantees.EnqueuedCommands

open VodogeCloud.Lib VodogeCloud.Lib.Transactions
open VodogeCloud.Source.Postgres VodogeCloud.Source.CommandTables
open VodogeCloud.Source.CommandLifecycle

variable {registered : Uuid → Uuid → Bool} {context : Option Uuid} {args : EnqueueArgs} {id : Uuid}
  {outboxId : Nat} {now : Timestamp} {db db' : CommandDb} {row : CommandRow}

/-- The tenant's key is in use. -/
def KeyTaken (db : CommandDb) (tenant : Uuid) (key : String) : Prop :=
  ∃ row ∈ db.commands, row.tenantId = tenant ∧ row.idempotencyKey = key

instance (db : CommandDb) (tenant : Uuid) (key : String) : Decidable (KeyTaken db tenant key) :=
  inferInstanceAs (Decidable (∃ row ∈ db.commands, _))

theorem enqueueCommand_cases
    (h : enqueueCommand registered context args id outboxId now db = .ok (db', row)) :
    (db' = db ∧ row ∈ db.commands ∧ row.tenantId = args.tenantId ∧
      row.idempotencyKey = args.idempotencyKey ∧ row.deviceId = args.deviceId ∧
      row.kind = args.kind ∧ row.payload = args.payload) ∨
    (row = args.command id now ∧ ¬ KeyTaken db args.tenantId args.idempotencyKey ∧
      (∀ other ∈ db.commands, other.id ≠ id) ∧
      ∀ other, other ∈ db'.commands ↔ other ∈ db.commands ∨ other = row) := by
  obtain ⟨_, _, body⟩ := bind_success h
  clear h
  split at body
  · cases body
  · obtain ⟨⟨inner, inserted⟩, attempt, rest⟩ := bind_success body
    clear body
    rcases insertCommand_cases attempt with ⟨rfl, rfl, _⟩ | ⟨rfl, free, absent, members, _⟩
    · left
      simp only [Bool.false_eq_true, if_false] at rest
      split at rest
      · next existing found =>
        split at rest
        · cases rest
        · next agrees =>
          cases rest
          have keyed := List.find?_some found
          simp only [Bool.and_eq_true, decide_eq_true_eq] at keyed
          simp only [not_or, not_not] at agrees
          exact ⟨rfl, List.mem_of_find?_eq_some found, keyed.1, keyed.2, agrees.1, agrees.2.1,
            agrees.2.2⟩
      · cases rest
    · right
      obtain ⟨woken, wrote, done⟩ := bind_success rest
      cases done
      obtain ⟨_, commands, _⟩ := insertOutbox_ok wrote
      refine ⟨rfl, free, absent, fun other => ?_⟩
      rw [commands]
      exact members other

/-- A command that is over before it starts is refused. -/
theorem insertCommand_lasting {written : CommandDb × Bool}
    (h : db.insertCommand registered row = .ok written) : row.issuedAt < row.expiresAt := by
  unfold CommandDb.insertCommand at h
  by_cases object : row.payload.isObject = false
  · rw [if_pos object] at h
    cases h
  · rw [if_neg object] at h
    by_contra ended
    rw [if_pos (not_lt.mp ended)] at h
    cases h

theorem enqueueCommand_lasting
    (h : enqueueCommand registered context args id outboxId now db = .ok (db', row)) :
    now < args.expiresAt := by
  obtain ⟨_, _, body⟩ := bind_success h
  clear h
  by_cases object : args.payload.isObject = false
  · rw [if_pos object] at body
    cases body
  · rw [if_neg object] at body
    obtain ⟨_, attempt, _⟩ := bind_success body
    exact insertCommand_lasting attempt

/-- Nothing stands in the way of a new command. -/
structure Insertable (registered : Uuid → Uuid → Bool) (args : EnqueueArgs) (id : Uuid)
    (outboxId : Nat) (now : Timestamp) (db : CommandDb) : Prop where
  object : args.payload.isObject = true
  lasting : now < args.expiresAt
  device : registered args.tenantId args.deviceId = true
  command : ∀ other ∈ db.commands, other.id ≠ id
  wakeup : ∀ other ∈ db.outbox, other.id ≠ outboxId

instance (registered : Uuid → Uuid → Bool) (args : EnqueueArgs) (id : Uuid) (outboxId : Nat)
    (now : Timestamp) (db : CommandDb) : Decidable (Insertable registered args id outboxId now db) :=
  decidable_of_iff (args.payload.isObject = true ∧ now < args.expiresAt ∧
      registered args.tenantId args.deviceId = true ∧ (∀ other ∈ db.commands, other.id ≠ id) ∧
      ∀ other ∈ db.outbox, other.id ≠ outboxId)
    ⟨fun h => ⟨h.1, h.2.1, h.2.2.1, h.2.2.2.1, h.2.2.2.2⟩,
      fun h => ⟨h.object, h.lasting, h.device, h.command, h.wakeup⟩⟩

theorem insertCommand_new (object : row.payload.isObject = true) (lasting : row.issuedAt < row.expiresAt)
    (device : registered row.tenantId row.deviceId = true)
    (fresh : ∀ other ∈ db.commands, other.id ≠ row.id)
    (free : ¬ KeyTaken db row.tenantId row.idempotencyKey) :
    ∃ after, db.insertCommand registered row = .ok (after, true) := by
  unfold KeyTaken at free
  unfold CommandDb.insertCommand
  rw [if_neg (by simp [object]), if_neg (not_le.mpr lasting), dif_neg free]
  split
  · next existing found =>
    obtain ⟨member, same⟩ := Table.find_eq_some_iff.mp found
    exact absurd same (fresh existing member)
  · rw [if_neg (by simp [device])]
    exact ⟨_, rfl⟩

theorem insertOutbox_new {wakeup : OutboxRow} (fresh : ∀ other ∈ db.outbox, other.id ≠ wakeup.id)
    (first : ∀ other ∈ db.outbox, other.commandId ≠ wakeup.commandId)
    (shape : wakeup.leaseShape = true)
    (owner : ∃ command ∈ db.commands,
      command.id = wakeup.commandId ∧ command.tenantId = wakeup.tenantId) :
    ∃ after, db.insertOutbox wakeup = .ok after := by
  unfold CommandDb.insertOutbox
  split
  · next existing found =>
    obtain ⟨member, same⟩ := Table.find_eq_some_iff.mp found
    exact absurd same (fresh existing member)
  · rw [dif_neg (by rintro ⟨other, member, same⟩; exact first other member same),
      dif_neg (by simp [shape]), dif_neg (not_not.mpr owner)]
    exact ⟨_, rfl⟩

/-- With a free key a new command is queued. -/
theorem enqueueCommand_new (fit : Insertable registered args id outboxId now db)
    (free : ¬ KeyTaken db args.tenantId args.idempotencyKey) :
    ∃ after, enqueueCommand registered (some args.tenantId) args id outboxId now db =
      .ok (after, args.command id now) := by
  obtain ⟨inner, inserted⟩ := @insertCommand_new registered db (args.command id now) fit.object
    fit.lasting fit.device fit.command free
  rcases insertCommand_cases inserted with ⟨no, _⟩ | ⟨_, _, _, members, outbox, _⟩
  · cases no
  · have wakeups : ∃ after, inner.insertOutbox (wakeup (args.command id now) outboxId now) =
        .ok after := by
      refine insertOutbox_new ?_ ?_ rfl ⟨_, (members _).mpr (Or.inr rfl), rfl, rfl⟩
      · rw [outbox]
        exact fit.wakeup
      · rw [outbox]
        intro other member same
        obtain ⟨command, inTable, named, _⟩ := db.valid.outboxCommand other member
        exact fit.command command inTable (named.trans same)
    obtain ⟨after, woken⟩ := wakeups
    refine ⟨after, ?_⟩
    unfold enqueueCommand tenantGuard
    simp [fit.object, inserted, woken, bind, Except.bind, pure, Except.pure]

end VodogeCloud.Guarantees.EnqueuedCommands
