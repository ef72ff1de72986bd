import VodogeCloud.Guarantees.ScheduleMarks
import VodogeCloud.Source.ScheduledTasks
import VodogeCloud.Source.ScheduleMemory

/-!
# Both schedule stores keep the account

The database and the in-memory store move marks the way `Lawful` asks. They
differ in how far their arithmetic reaches: a Go duration saturates after 292
years, a double precision number of microseconds is exact for 18000.
-/

set_option autoImplicit false

namespace VodogeCloud.Guarantees.ScheduleStores

open VodogeCloud.Lib VodogeCloud.Lib.Transactions VodogeCloud.Source.Postgres
open VodogeCloud.Source.CommandTables
open VodogeCloud.Source.CommandLifecycle (EnqueueArgs enqueueCommand CommandOp)
open VodogeCloud.Source VodogeCloud.Source.Schedule VodogeCloud.Guarantees.ScheduleMarks

theorem sub_le {a b bound : Int} (positive : 0 < bound) (h : bound < sub a b) : bound < a - b := by
  unfold sub minDuration maxDuration at h
  omega

/-! ## The database -/

section Sql

open VodogeCloud.Source.ScheduledTasks

variable {db db' : ScheduleDb}

def rowView (row : TaskRow) : View where
  enabled := row.enabled
  last := row.lastOccurrence
  current at_ := dueAt row (micros at_)

/-- A task of a tenant. -/
def sqlTask (db : ScheduleDb) (tenant task : Uuid) : Option View :=
  ((db.tasks.find task).filter (fun row => row.tenantId = tenant)).map rowView

def sqlHolds (db : ScheduleDb) (tenant : Uuid) (key : String) : Prop :=
  ∃ command ∈ db.commands.commands, command.tenantId = tenant ∧ command.idempotencyKey = key

theorem sqlHolds_of_commands (same : db'.commands = db.commands) (tenant : Uuid) (key : String)
    (held : sqlHolds db tenant key) : sqlHolds db' tenant key := by
  unfold sqlHolds at *
  rwa [same]

/-- 5 * 10^17 microseconds, fifteen thousand years after the anchor. -/
def sqlInRange (db : ScheduleDb) (tenant : Uuid) (now : GoTime) : Prop :=
  ∀ row ∈ db.tasks, row.tenantId = tenant → micros now - row.anchorAt ≤ 500000000000000000

theorem sqlTask_of_mem {row : TaskRow} (member : row ∈ db.tasks) :
    sqlTask db row.tenantId row.id = some (rowView row) := by
  have found : db.tasks.find row.id = some row := Table.find_eq_some_iff.mpr ⟨member, rfl⟩
  simp [sqlTask, found]

theorem sqlTask_some {tenant task : Uuid} {view : View} (h : sqlTask db tenant task = some view) :
    ∃ row ∈ db.tasks, row.tenantId = tenant ∧ row.id = task ∧ view = rowView row := by
  simp only [sqlTask, Option.map_eq_some_iff, Option.filter_eq_some_iff, decide_eq_true_eq] at h
  obtain ⟨row, ⟨found, sameTenant⟩, rfl⟩ := h
  obtain ⟨member, sameId⟩ := Table.find_eq_some_iff.mp found
  exact ⟨row, member, sameTenant, sameId, rfl⟩

/-- What an UPDATE does to a task. -/
theorem sqlTask_updateTasks {hit : TaskRow → Bool} {change : TaskRow → TaskRow}
    {keeps : ∀ row, (change row).identity = row.identity}
    {forward : ∀ row, row.lastOccurrence ≤ (change row).lastOccurrence}
    {shape : ∀ row, row.leaseShape = true → (change row).leaseShape = true} (tenant task : Uuid) :
    sqlTask (db.updateTasks hit change keeps forward shape) tenant task =
      ((db.tasks.find task).filter (fun row => row.tenantId = tenant)).map
        (fun row => rowView (if hit row then change row else row)) := by
  have found : (db.updateTasks hit change keeps forward shape).tasks.find task = _ :=
    @Table.find_update _ _ TaskRow.id _ db.tasks hit change (fun row => congrArg Prod.fst (keeps row))
      task
  unfold sqlTask
  rw [found]
  cases db.tasks.find task with
  | none => rfl
  | some row =>
    have sameTenant : (if hit row then change row else row).tenantId = row.tenantId := by
      split
      · have := keeps row
        simp only [TaskRow.identity, Prod.mk.injEq] at this
        exact this.2.1
      · rfl
    by_cases mine : row.tenantId = tenant
    · simp [Option.filter, sameTenant, mine]
    · simp [Option.filter, sameTenant, mine]

/-- An UPDATE that moves no mark. -/
theorem sqlTask_same {hit : TaskRow → Bool} {change : TaskRow → TaskRow}
    {keeps : ∀ row, (change row).identity = row.identity}
    {forward : ∀ row, row.lastOccurrence ≤ (change row).lastOccurrence}
    {shape : ∀ row, row.leaseShape = true → (change row).leaseShape = true}
    (still : ∀ row, rowView (change row) = rowView row) (tenant task : Uuid) :
    sqlTask (db.updateTasks hit change keeps forward shape) tenant task = sqlTask db tenant task := by
  have same : (fun row => rowView (if hit row then change row else row)) = rowView := by
    funext row
    split
    · exact still row
    · rfl
  rw [sqlTask_updateTasks, same]
  rfl

/-- An UPDATE of one task. -/
theorem sqlTask_one {tenant task : Uuid} {change : TaskRow → TaskRow} {view : View → View}
    {keeps : ∀ row, (change row).identity = row.identity}
    {forward : ∀ row, row.lastOccurrence ≤ (change row).lastOccurrence}
    {shape : ∀ row, row.leaseShape = true → (change row).leaseShape = true}
    (changes : ∀ row, rowView (change row) = view (rowView row)) :
    (∀ t i, (t ≠ tenant ∨ i ≠ task) →
      sqlTask (db.updateTasks (taskOf tenant task) change keeps forward shape) t i = sqlTask db t i) ∧
    sqlTask (db.updateTasks (taskOf tenant task) change keeps forward shape) tenant task =
      (sqlTask db tenant task).map view := by
  constructor
  · intro t i other
    rw [sqlTask_updateTasks, sqlTask]
    cases found : db.tasks.find i with
    | none => rfl
    | some row =>
      obtain ⟨_, sameId⟩ := Table.find_eq_some_iff.mp found
      by_cases mine : row.tenantId = t
      · have spared : taskOf tenant task row = false := by
          simp only [taskOf, Bool.and_eq_false_iff, decide_eq_false_iff_not, sameId, mine]
          exact other
        simp [Option.filter, mine, spared]
      · simp [Option.filter, mine]
  · rw [sqlTask_updateTasks, sqlTask]
    cases found : db.tasks.find task with
    | none => rfl
    | some row =>
      obtain ⟨_, sameId⟩ := Table.find_eq_some_iff.mp found
      by_cases mine : row.tenantId = tenant
      · have hit : taskOf tenant task row = true := by simp [taskOf, sameId, mine]
        simp [Option.filter, mine, hit, changes]
      · simp [Option.filter, mine]

theorem finishRow_view (occurrence : Option Int) (status : RunStatus) (commandId : Option Uuid)
    (now : Timestamp) (row : TaskRow) :
    rowView (finishRow occurrence status commandId now row) = (rowView row).advance occurrence := by
  cases occurrence with
  | none => rfl
  | some occurrence => rfl

/-- `app.finish_scheduled_task` books the occurrence on its task. -/
theorem finishScheduledTask_effect {tenant task : Uuid} {occurrence : Option Int} {status : RunStatus}
    {commandId : Option Uuid} {now : Timestamp} {done : Bool}
    (h : finishScheduledTask (some tenant) tenant task occurrence status commandId now db =
      .ok (db', done)) :
    (∀ t i, (t ≠ tenant ∨ i ≠ task) → sqlTask db' t i = sqlTask db t i) ∧
      sqlTask db' tenant task = (sqlTask db tenant task).map (·.advance occurrence) ∧
      db'.commands = db.commands := by
  obtain ⟨_, _, h⟩ := bind_success h
  cases h
  obtain ⟨frame, changed⟩ := @sqlTask_one db tenant task (finishRow occurrence status commandId now)
    (·.advance occurrence) (fun _ => rfl) (fun row => le_advanced row.lastOccurrence occurrence)
    (fun _ _ => rfl) (finishRow_view occurrence status commandId now)
  exact ⟨frame, changed, rfl⟩

/-- A command of the key is there after an enqueue, and those before are too. -/
theorem enqueueCommand_keys {registered : Uuid → Uuid → Bool} {context : Option Uuid}
    {args : EnqueueArgs} {id : Uuid} {outboxId : Nat} {now : Timestamp} {commands commands' : CommandDb}
    {row : CommandRow}
    (h : enqueueCommand registered context args id outboxId now commands = .ok (commands', row)) :
    (∀ command ∈ commands.commands, command ∈ commands'.commands) ∧
      (∃ command ∈ commands'.commands, command.tenantId = args.tenantId ∧
        command.idempotencyKey = args.idempotencyKey) ∧
      ∀ command ∈ commands'.commands, command ∈ commands.commands ∨
        (command.tenantId = args.tenantId ∧ command.idempotencyKey = args.idempotencyKey) := by
  obtain ⟨_, _, h⟩ := bind_success h
  split at h
  · cases h
  · obtain ⟨⟨db1, inserted⟩, attempt, rest⟩ := bind_success h
    clear h
    rcases insertCommand_cases attempt with ⟨rfl, rfl, taken⟩ | ⟨rfl, _, fresh, members, _⟩
    · simp only [Bool.false_eq_true, if_false] at rest
      have same : commands' = db1 := by
        split at rest
        · split at rest
          · cases rest
          · cases rest
            rfl
        · cases rest
      subst same
      obtain ⟨other, member, facts⟩ := taken
      exact ⟨fun _ old => old, ⟨other, member, facts⟩, fun _ old => Or.inl old⟩
    · obtain ⟨db2, woken, done⟩ := bind_success rest
      cases done
      obtain ⟨_, same, _⟩ := insertOutbox_ok woken
      rw [same]
      refine ⟨fun command old => (members command).mpr (Or.inl old),
        ⟨_, (members _).mpr (Or.inr rfl), rfl, rfl⟩, fun command member => ?_⟩
      rcases (members command).mp member with old | rfl
      · exact Or.inl old
      · exact Or.inr ⟨rfl, rfl⟩

/-- The quotient is at most half a digit above the span. -/
theorem epochQuotient_le {span : Int} {divisor : Nat} (positive : 0 < divisor)
    (sane : divisor ≤ 604800) (forward : 0 ≤ span) :
    epochQuotient span divisor * (1000000 * divisor) ≤ span + 604800000000 := by
  unfold epochQuotient
  dsimp only
  rw [if_pos forward]
  generalize divScale span.natAbs divisor = scale
  have unit : 0 < 10 ^ scale := Nat.pow_pos (by decide)
  have rounded := Nat.div_mul_le_self (2 * span.natAbs * 10 ^ scale + 1000000 * divisor)
    (2 * (1000000 * divisor))
  generalize (2 * span.natAbs * 10 ^ scale + 1000000 * divisor) / (2 * (1000000 * divisor)) = quotient
    at rounded
  have floored := Nat.div_mul_le_self quotient (10 ^ scale)
  generalize quotient / 10 ^ scale = count at floored
  have bound : count * (1000000 * divisor) ≤ span.natAbs + 604800000000 := by
    apply Nat.le_of_mul_le_mul_left _ (Nat.mul_pos (by decide : 0 < 2) unit)
    calc 2 * 10 ^ scale * (count * (1000000 * divisor))
        = count * 10 ^ scale * (2 * (1000000 * divisor)) := by ring
      _ ≤ quotient * (2 * (1000000 * divisor)) := Nat.mul_le_mul_right _ floored
      _ ≤ 2 * span.natAbs * 10 ^ scale + 1000000 * divisor := rounded
      _ ≤ 2 * span.natAbs * 10 ^ scale + 604800000000 * (2 * 10 ^ scale) := by
          refine Nat.add_le_add_left (le_trans ?_ (Nat.le_mul_of_pos_right 604800000000 ?_)) _
          · omega
          · omega
      _ = 2 * 10 ^ scale * (span.natAbs + 604800000000) := by ring
  have cast : ((count * (1000000 * divisor) : Nat) : Int) ≤ span + 604800000000 := by omega
  simpa using cast

/-- Within range the grid is computed exactly. -/
theorem gridSpan_eq {intervalSeconds occurrence : Nat} (positive : 0 < intervalSeconds)
    (small : intervalSeconds * occurrence * 1000000 < 2 ^ 59) :
    gridSpan intervalSeconds occurrence = intervalSeconds * occurrence * 1000000 := by
  have product : occurrence ≤ intervalSeconds * occurrence := Nat.le_mul_of_pos_left _ positive
  unfold gridSpan
  rw [@toDouble_eq_of_small occurrence (by omega),
    @toDouble_eq_of_small (intervalSeconds * occurrence) (by omega), toDouble_eq_of_lt small]
  exact Dvd.dvd.mul_left (by decide) _

/-- Before its anchor a task has reached nothing. -/
theorem epochQuotient_nonpos {span : Int} {divisor : Nat} (before : span < 0) :
    epochQuotient span divisor ≤ 0 := by
  unfold epochQuotient
  dsimp only
  rw [if_neg (by omega)]
  exact Int.neg_nonpos_of_nonneg (Int.natCast_nonneg _)

/-- More than a period after an occurrence the next one is due as well. -/
theorem overtaken_of_late {interval next : Nat} {now anchor : Int}
    (sane : 60 ≤ interval ∧ interval ≤ 604800)
    (owed : (next : Int) ≤ epochQuotient (now / 1000 - anchor) interval) (positive : 0 < next)
    (near : now / 1000 - anchor ≤ 500000000000000000) :
    interval * next * 1000000 < 2 ^ 59 ∧
      ((interval : Int) * 1000000000 < now - (anchor + (interval * next * 1000000 : Nat)) * 1000 →
        (next : Int) + 1 ≤ epochQuotient (now / 1000 - anchor) interval) := by
  have forward : 0 ≤ now / 1000 - anchor := by
    by_contra negative
    have := @epochQuotient_nonpos (now / 1000 - anchor) interval (by omega)
    omega
  have reach := epochQuotient_le (by omega : 0 < interval) sane.2 forward
  have scaled : (next : Int) * (1000000 * interval) ≤
      epochQuotient (now / 1000 - anchor) interval * (1000000 * interval) :=
    Int.mul_le_mul_of_nonneg_right owed (by omega)
  have grid : ((interval * next * 1000000 : Nat) : Int) = (next : Int) * (1000000 * interval) := by
    push_cast
    ring
  refine ⟨by omega, fun late => ?_⟩
  refine @le_epochQuotient (now / 1000 - anchor) interval (next + 1) (by omega) ?_
  have following : (((next + 1) * (1000000 * interval) : Nat) : Int) =
      (interval * next * 1000000 : Nat) + interval * 1000000 := by
    push_cast
    ring
  rw [following]
  omega

/-- A claim more than a period late is of an occurrence before the due one. -/
theorem claimOf_overtaken {row : TaskRow} {now : GoTime} {claim : Claim Uuid}
    (sane : 60 ≤ row.intervalSeconds ∧ row.intervalSeconds ≤ 604800) (seeded : 0 ≤ row.lastOccurrence)
    (owed : row.lastOccurrence < dueAt row (micros now))
    (near : micros now - row.anchorAt ≤ 500000000000000000)
    (claimed : claimOf (micros now) row = .ok claim) (late : stale claim now = true) :
    claim.occurrence ≤ claim.dueOccurrence - 1 := by
  obtain ⟨occurrenceAt, computed, claimed⟩ := bind_success claimed
  cases claimed
  simp only [stale, Bool.and_eq_true, decide_eq_true_eq] at late
  have overdue := sub_le (by unfold second; omega) late.2
  obtain ⟨next, nextEq⟩ : ∃ next : Nat, (next : Int) = row.lastOccurrence + 1 :=
    ⟨(row.lastOccurrence + 1).toNat, by omega⟩
  have toNat : (row.lastOccurrence + 1).toNat = next := by omega
  obtain ⟨small, due⟩ := @overtaken_of_late row.intervalSeconds next now row.anchorAt sane
    (by unfold dueAt micros at owed; omega) (by omega) near
  have at_ : occurrenceAt = row.anchorAt + (row.intervalSeconds * next * 1000000 : Nat) := by
    unfold occurrenceTime at computed
    rw [toNat, gridSpan_eq (by omega) small] at computed
    split at computed
    · cases computed
    · unfold timestamptz at computed
      split at computed
      · cases computed
        rfl
      · cases computed
  rw [at_] at overdue
  have following := due overdue
  unfold dueAt micros
  dsimp only
  omega

theorem timestamptz_ok {value result : Int} (h : timestamptz value = .ok result) : result = value := by
  unfold timestamptz at h
  split at h
  · cases h
    rfl
  · cases h

/-- Every claim of a batch is the claim of a row of the table. -/
theorem mapM_claimOf {now : Timestamp} {rows : List TaskRow} {claims : List (Claim Uuid)}
    (h : rows.mapM (claimOf now) = .ok claims) :
    ∀ claim ∈ claims, ∃ row ∈ rows, claimOf now row = .ok claim := by
  induction rows generalizing claims with
  | nil =>
    cases h
    exact nofun
  | cons row rest ih =>
    rw [List.mapM_cons] at h
    obtain ⟨first, claimed, h⟩ := bind_success h
    obtain ⟨others, mapped, h⟩ := bind_success h
    cases h
    intro claim member
    rcases List.mem_cons.mp member with rfl | later
    · exact ⟨row, List.mem_cons_self, claimed⟩
    · obtain ⟨other, inRest, found⟩ := ih mapped claim later
      exact ⟨other, List.mem_cons_of_mem _ inRest, found⟩

theorem takeInOrder_filter {limit : Int} {locked p : TaskRow → Bool} {row : TaskRow}
    (member : row ∈ db.tasks)
    (taken : (takeInOrder limit locked (db.tasks.rows.filter p)).contains row.id = true) :
    p row = true := by
  rw [List.contains_iff_mem] at taken
  exact Table.picked_of_key member ((List.mem_insertionSort _).mp (List.mem_of_mem_take taken))

theorem claimDue_effect {tenant : Uuid} {owner : String} {now : Timestamp} {lease limit : Int}
    {locked : TaskRow → Bool} {claims : List (Claim Uuid)}
    (h : claimDueScheduledTasks (some tenant) tenant owner now lease limit locked db =
      .ok (db', claims)) :
    (∀ t i, sqlTask db' t i = sqlTask db t i) ∧ db'.commands = db.commands ∧
      ∀ claim ∈ claims, ∃ row ∈ db.tasks, claimable tenant now row = true ∧
        claimOf now row = .ok claim := by
  obtain ⟨_, _, h⟩ := bind_success h
  split at h
  · cases h
  · split at h
    · cases h
    · obtain ⟨until_, _, h⟩ := bind_success h
      obtain ⟨mapped, each, h⟩ := bind_success h
      cases h
      have still : ∀ row, rowView (leaseRow owner until_ row) = rowView row := fun _ => rfl
      refine ⟨fun t i => sqlTask_same still t i, rfl, fun claim member => ?_⟩
      obtain ⟨row, inFilter, claimed⟩ := mapM_claimOf each claim member
      obtain ⟨inTable, taken⟩ := List.mem_filter.mp inFilter
      exact ⟨row, inTable, takeInOrder_filter inTable taken, claimed⟩

theorem fire_effect {env : Env} {tenant : Uuid} {plan : Plan Uuid} {id : Uuid}
    (h : fire env tenant plan db = .ok (db', id)) :
    (∀ t i, (t ≠ tenant ∨ i ≠ plan.taskId) → sqlTask db' t i = sqlTask db t i) ∧
      sqlTask db' tenant plan.taskId =
        (sqlTask db tenant plan.taskId).map (·.advance (some plan.occurrence)) ∧
      (∀ command ∈ db.commands.commands, command ∈ db'.commands.commands) ∧
      sqlHolds db' tenant plan.idempotencyKey ∧
      ∀ command ∈ db'.commands.commands, command ∈ db.commands.commands ∨
        (command.tenantId = tenant ∧ command.idempotencyKey = plan.idempotencyKey) := by
  obtain ⟨deviceId, _, h⟩ := bind_success h
  obtain ⟨kind, _, h⟩ := bind_success h
  obtain ⟨payload, _, h⟩ := bind_success h
  obtain ⟨expiresAt, _, h⟩ := bind_success h
  obtain ⟨⟨commands, command⟩, enqueued, h⟩ := bind_success h
  obtain ⟨⟨booked, done⟩, finished, h⟩ := bind_success h
  cases h
  obtain ⟨frame, changed, same⟩ := finishScheduledTask_effect finished
  obtain ⟨kept, created, only⟩ := enqueueCommand_keys enqueued
  refine ⟨frame, changed, ?_, ?_, ?_⟩
  · rw [same]; exact kept
  · unfold sqlHolds
    rw [same]
    exact created
  · rw [same]; exact only

theorem insertTask_ok {row : TaskRow} (h : db.insertTask row = .ok db') :
    (∀ other ∈ db.tasks, other.id ≠ row.id) ∧ db'.commands = db.commands ∧
      (∀ task, db'.tasks.find task = if row.id = task then some row else db.tasks.find task) ∧
      ∀ other, other ∈ db'.tasks ↔ other ∈ db.tasks ∨ other = row := by
  unfold ScheduleDb.insertTask at h
  split at h
  · cases h
  · split at h
    · cases h
    · split at h
      · cases h
      · split at h
        · cases h
        · split at h
          · cases h
          · split at h
            · cases h
            · split at h
              · cases h
              · next absent =>
                split at h
                · cases h
                · cases h
                  refine ⟨Table.find_eq_none_iff.mp absent, rfl, fun task => ?_, fun other => ?_⟩
                  · exact @Table.find_insert _ _ _ _ _ _ (Table.find_eq_none_iff.mp absent) task
                  · exact @Table.mem_insert _ _ _ _ _ _ (Table.find_eq_none_iff.mp absent)

theorem create_effect {env : Env} {tenant : Uuid} {task : NewTask} {id : Uuid}
    (h : create env tenant task db = .ok (db', id)) :
    (∀ t i, (t ≠ tenant ∨ i ≠ id) → sqlTask db' t i = sqlTask db t i) ∧ sqlTask db tenant id = none ∧
      (sqlTask db' tenant id).isSome = true ∧ db'.commands = db.commands := by
  obtain ⟨kind, _, h⟩ := bind_success h
  obtain ⟨_, _, h⟩ := bind_success h
  obtain ⟨anchor, _, h⟩ := bind_success h
  obtain ⟨inserted, done, h⟩ := bind_success h
  cases h
  obtain ⟨fresh, commands, found, _⟩ := insertTask_ok done
  refine ⟨fun t i other => ?_, ?_, ?_, commands⟩
  · unfold sqlTask
    rw [found]
    split
    · next same =>
      have absent : db.tasks.find i = none := by
        rw [← same]
        exact Table.find_eq_none_iff.mpr fresh
      have foreign : tenant ≠ t := by
        rcases other with differs | differs
        · exact fun same => differs same.symm
        · exact absurd same.symm differs
      rw [absent]
      simp [Option.filter, newRow, foreign]
    · rfl
  · have absent : db.tasks.find env.taskId = none := Table.find_eq_none_iff.mpr fresh
    simp [sqlTask, absent]
  · unfold sqlTask
    rw [found]
    simp [newRow]

theorem editRow_view (now : Timestamp) (enabled : Bool) (selector : Option Selector) (row : TaskRow) :
    rowView (editRow now enabled selector row) = (rowView row).edit enabled (now * 1000) := by
  have same : micros (now * 1000) = now := Int.mul_ediv_cancel now (by decide)
  simp only [rowView, View.edit, editRow, same]
  rfl

theorem update_effect {env : Env} {tenant task : Uuid} {edit : Edit}
    (h : update env tenant task edit db = .ok db') :
    (∀ t i, (t ≠ tenant ∨ i ≠ task) → sqlTask db' t i = sqlTask db t i) ∧
      (∃ enabled, sqlTask db' tenant task =
        (sqlTask db tenant task).map (·.edit enabled (env.now * 1000))) ∧
      db'.commands = db.commands := by
  unfold update at h
  split at h
  · cases h
  · next current _ =>
    split at h
    · cases h
    · cases h
      obtain ⟨frame, changed⟩ := @sqlTask_one db tenant task
        (editRow env.now (edit.enabled.getD current.enabled) edit.selector)
        (·.edit (edit.enabled.getD current.enabled) (env.now * 1000)) (fun _ => rfl)
        (le_editRow env.now (edit.enabled.getD current.enabled) edit.selector) (fun _ shape => shape)
        (editRow_view env.now _ _)
      exact ⟨frame, ⟨_, changed⟩, rfl⟩

/-- The production store is lawful. -/
def sqlLawful : Lawful sql where
  task := sqlTask
  holds := sqlHolds
  moment env := env.now * 1000
  inRange := sqlInRange
  claims := by
    intro env tenant owner now limit db db' claims h
    simp only [sql] at h
    split at h
    · next result claimed =>
      cases h
      obtain ⟨sent, encoded, claimed⟩ := bind_success claimed
      obtain rfl := timestamptz_ok encoded
      obtain ⟨same, commands, each⟩ := claimDue_effect claimed
      refine ⟨same, sqlHolds_of_commands commands, fun claim member => ?_⟩
      obtain ⟨row, inTable, owed, found⟩ := each claim member
      simp only [claimable, Bool.and_eq_true, decide_eq_true_eq] at owed
      refine ⟨?_, fun near late => ?_⟩
      · have view := sqlTask_of_mem inTable
        obtain ⟨_, _, done⟩ := bind_success found
        cases done
        rw [owed.1.1.1] at view
        exact ⟨rowView row, view, rfl, rfl⟩
      · exact claimOf_overtaken (db.valid.interval row inTable) (db.valid.occurrence row inTable)
          owed.2 (near row inTable owed.1.1.1) found late
    · cases h
  fires := by
    intro env tenant plan db db' id h
    simp only [sql] at h
    split at h
    · next fired =>
      cases h
      obtain ⟨frame, changed, kept, created, _⟩ := fire_effect fired
      refine ⟨frame, changed, fun t k held => ?_, created⟩
      obtain ⟨command, member, facts⟩ := held
      exact ⟨command, kept command member, facts⟩
    · cases h
  finishes := by
    intro env tenant done db db' h
    simp only [sql] at h
    split at h
    · next finished =>
      cases h
      obtain ⟨frame, changed, commands⟩ := finishScheduledTask_effect finished
      exact ⟨frame, changed, sqlHolds_of_commands commands⟩
    · cases h
  creates := by
    intro env tenant task db db' id h
    simp only [sql] at h
    split at h
    · cases h
    · split at h
      · next created =>
        cases h
        obtain ⟨frame, absent, present, commands⟩ := create_effect created
        exact ⟨frame, absent, present, sqlHolds_of_commands commands⟩
      · cases h
  edits := by
    intro env tenant task edit db db' h
    simp only [sql] at h
    split at h
    · next updated =>
      cases h
      obtain ⟨frame, changed, commands⟩ := update_effect updated
      exact ⟨frame, changed, sqlHolds_of_commands commands⟩
    · cases h

end Sql

/-! ## The in-memory store -/

section InMemory

open VodogeCloud.Source.ScheduleMemory

variable {store store' : Memory}

def taskView (task : MemoryTask) : View where
  enabled := task.enabled
  last := task.lastOccurrence
  current := occurrenceAt task.anchorAt task.intervalSeconds

def memoryTask (store : Memory) (tenant task : String) : Option View :=
  ((store.tasks tenant).find task).map taskView

def memoryHolds (store : Memory) (tenant key : String) : Prop :=
  (store.byKey (tenant ++ "|" ++ key)).isSome = true

/-- No duration since an anchor saturates. -/
def memoryInRange (store : Memory) (tenant : String) (now : GoTime) : Prop :=
  ∀ task ∈ store.tasks tenant, now - task.anchorAt ≤ maxDuration

theorem memoryTask_modify {tenant : String} {ids : List String} {change : MemoryTask → MemoryTask}
    {keeps : ∀ task, (change task).identity = task.identity}
    {forward : ∀ task, task.lastOccurrence ≤ (change task).lastOccurrence} {view : View → View}
    (changes : ∀ task, taskView (change task) = view (taskView task)) (t i : String) :
    memoryTask (store.modify tenant ids change keeps forward) t i =
      if t = tenant ∧ i ∈ ids then (memoryTask store t i).map view else memoryTask store t i := by
  unfold memoryTask
  by_cases mine : t = tenant
  · subst mine
    have found : ((store.modify t ids change keeps forward).tasks t).find i =
        ((store.tasks t).find i).map (fun task => if ids.contains task.id then change task else task) := by
      simp only [Memory.modify, Function.update_self]
      exact Table.find_update i
    rw [found]
    cases there : (store.tasks t).find i with
    | none => simp
    | some task =>
      obtain ⟨_, sameId⟩ := Table.find_eq_some_iff.mp there
      by_cases listed : i ∈ ids
      · simp [listed, sameId, changes]
      · simp [listed, sameId]
  · have same : (store.modify tenant ids change keeps forward).tasks t = store.tasks t := by
      simp only [Memory.modify, Function.update_of_ne mine]
    rw [same, if_neg (fun both => mine both.1)]

/-- A change of one task. -/
theorem memoryTask_one {tenant task : String} {change : MemoryTask → MemoryTask}
    {keeps : ∀ task, (change task).identity = task.identity}
    {forward : ∀ task, task.lastOccurrence ≤ (change task).lastOccurrence} {view : View → View}
    (changes : ∀ task, taskView (change task) = view (taskView task)) :
    (∀ t i, (t ≠ tenant ∨ i ≠ task) →
      memoryTask (store.modify tenant [task] change keeps forward) t i = memoryTask store t i) ∧
    memoryTask (store.modify tenant [task] change keeps forward) tenant task =
      (memoryTask store tenant task).map view := by
  constructor
  · intro t i other
    rw [memoryTask_modify changes, if_neg]
    simp only [List.mem_singleton, not_and_or]
    exact other
  · rw [memoryTask_modify changes, if_pos ⟨rfl, List.mem_singleton_self task⟩]

theorem wrap_eq {value : Int} (low : -(2 ^ 63) ≤ value) (high : value < 2 ^ 63) : wrap value = value := by
  unfold wrap
  omega

/-- Before its anchor a task has reached nothing. -/
theorem occurrenceAt_nonpos {anchor interval at_ : Int} (sane : 60 ≤ interval ∧ interval ≤ 604800)
    (before : at_ < anchor) : occurrenceAt anchor interval at_ ≤ 0 := by
  have step : wrap (interval * second) = interval * second := by
    apply wrap_eq
    · unfold second; omega
    · unfold second; omega
  have elapsed : sub at_ anchor ≤ 0 := by
    unfold sub minDuration maxDuration
    omega
  have quotient : (sub at_ anchor).tdiv (interval * second) ≤ 0 := by
    have mirrored : 0 ≤ (-sub at_ anchor).tdiv (interval * second) :=
      Int.tdiv_nonneg (by omega) (by unfold second; omega)
    rw [Int.neg_tdiv] at mirrored
    omega
  unfold occurrenceAt
  rw [if_neg (by omega)]
  dsimp only
  rw [step]
  split
  · omega
  · exact quotient

/-- While the duration does not saturate, the number is that of the grid. -/
theorem occurrenceAt_eq {anchor interval at_ : Int} (sane : 60 ≤ interval ∧ interval ≤ 604800)
    (after : anchor ≤ at_) (near : at_ - anchor ≤ maxDuration) :
    occurrenceAt anchor interval at_ = (at_ - anchor) / (interval * second) := by
  have step : wrap (interval * second) = interval * second := by
    apply wrap_eq
    · unfold second; omega
    · unfold second; omega
  have elapsed : sub at_ anchor = at_ - anchor := by
    unfold sub minDuration
    omega
  unfold occurrenceAt
  rw [if_neg (by omega)]
  dsimp only
  rw [step, elapsed, if_neg (by omega), Int.tdiv_eq_ediv_of_nonneg (by omega)]

/-- While nothing saturates, an occurrence more than a period old is behind. -/
theorem grid_overtaken {now anchor interval last : Int} (sane : 60 ≤ interval ∧ interval ≤ 604800)
    (seeded : 0 ≤ last) (owed : last < occurrenceAt anchor interval now)
    (near : now - anchor ≤ maxDuration)
    (late : interval * second < sub now (occurrenceTime anchor interval (last + 1))) :
    last + 1 ≤ occurrenceAt anchor interval now - 1 := by
  have after : anchor ≤ now := by
    by_contra before
    have := occurrenceAt_nonpos sane (Int.not_le.mp before)
    omega
  have period : 0 < interval * second := by unfold second; omega
  rw [occurrenceAt_eq sane after near] at *
  have next : (last + 1) * (interval * second) ≤ now - anchor :=
    (Int.le_ediv_iff_mul_le period).mp owed
  have nonneg := Int.mul_nonneg (by omega : 0 ≤ last + 1) (Int.le_of_lt period)
  have grid : occurrenceTime anchor interval (last + 1) = anchor + (last + 1) * (interval * second) := by
    unfold occurrenceTime
    rw [@wrap_eq (interval * second) (by unfold second; omega) (by unfold second; omega), Int.mul_comm,
      wrap_eq]
    · omega
    · unfold maxDuration at near
      omega
  rw [grid] at late
  have overdue := sub_le period late
  have following : (last + 1 + 1) * (interval * second) ≤ now - anchor := by
    rw [Int.add_mul, Int.one_mul]
    omega
  have count := (Int.le_ediv_iff_mul_le period).mpr following
  omega

theorem advanceTask_view (occurrence : Int) (commandId : String) (task : MemoryTask) :
    taskView (advanceTask occurrence commandId task) = (taskView task).advance (some occurrence) := by
  simp only [taskView, advanceTask, View.advance, raised_eq_max]

theorem finishTask_view (occurrence : Option Int) (status : RunStatus) (task : MemoryTask) :
    taskView (finishTask occurrence status task) = (taskView task).advance occurrence := by
  cases occurrence with
  | none => rfl
  | some occurrence => simp only [taskView, finishTask, finished, View.advance, raised_eq_max]

/-- The two ways of writing the re-enable rule come to the same. -/
theorem editTask_view (now : GoTime) (edit : Edit) (task : MemoryTask) :
    taskView (editTask now edit task) =
      (taskView task).edit (edit.enabled.getD (taskView task).enabled) now := by
  have mark : (editTask now edit task).lastOccurrence =
      ((taskView task).edit (edit.enabled.getD (taskView task).enabled) now).last := by
    dsimp only [editTask, View.edit, taskView]
    by_cases wanted : edit.enabled = some true
    · by_cases on : task.enabled = true
      · simp [wanted, on]
      · rw [Bool.not_eq_true] at on
        simp only [wanted, on, Option.getD_some, Bool.not_false, Bool.and_self, if_true, true_and]
        split
        · omega
        · omega
    · have off : (edit.enabled.getD task.enabled && !task.enabled) = false := by
        cases given : edit.enabled with
        | none => simp
        | some enabled =>
          cases enabled with
          | false => rfl
          | true => exact absurd given wanted
      simp [wanted, off]
  unfold taskView View.edit at *
  dsimp only at *
  rw [mark]
  rfl

theorem memory_fire_effect {same : Json → Json → Bool} {tenant : String} {plan : Plan String}
    {id : String} (h : fire same tenant plan store = .ok (store', id)) :
    (∀ t i, (t ≠ tenant ∨ i ≠ plan.taskId) → memoryTask store' t i = memoryTask store t i) ∧
      memoryTask store' tenant plan.taskId =
        (memoryTask store tenant plan.taskId).map (·.advance (some plan.occurrence)) ∧
      (∀ t k, memoryHolds store t k → memoryHolds store' t k) ∧
      memoryHolds store' tenant plan.idempotencyKey := by
  unfold fire at h
  split at h
  · next existing bound =>
    split at h
    · cases h
    · cases h
      obtain ⟨frame, changed⟩ := @memoryTask_one store tenant plan.taskId
        (advanceTask plan.occurrence existing.commandId) (fun _ => rfl) (fun _ => le_raised _ _)
        (·.advance (some plan.occurrence)) (advanceTask_view plan.occurrence existing.commandId)
      refine ⟨frame, changed, fun _ _ held => held, ?_⟩
      change (store.byKey _).isSome = true
      rw [bound]
      rfl
  · dsimp only at h
    cases h
    obtain ⟨frame, changed⟩ := @memoryTask_one (bindKey tenant plan _ store) tenant plan.taskId
      (advanceTask plan.occurrence _) (fun _ => rfl) (fun _ => le_raised _ _)
      (·.advance (some plan.occurrence)) (advanceTask_view plan.occurrence _)
    refine ⟨frame, changed, fun t k held => ?_, ?_⟩
    · change (Function.update store.byKey _ _ _).isSome = true
      by_cases bound : t ++ "|" ++ k = tenant ++ "|" ++ plan.idempotencyKey
      · rw [bound, Function.update_self]
        rfl
      · rw [Function.update_of_ne bound]
        exact held
    · change (Function.update store.byKey _ _ _).isSome = true
      rw [Function.update_self]
      rfl

theorem memory_create_effect {tenant : String} {task : NewTask} {now : GoTime} {id : String}
    {interval : 60 ≤ task.intervalSeconds ∧ task.intervalSeconds ≤ 604800}
    (h : create tenant task interval now store = .ok (store', id)) :
    (∀ t i, (t ≠ tenant ∨ i ≠ id) → memoryTask store' t i = memoryTask store t i) ∧
      memoryTask store tenant id = none ∧ (memoryTask store' tenant id).isSome = true ∧
      ∀ t k, memoryHolds store t k → memoryHolds store' t k := by
  unfold create at h
  split at h
  · cases h
  · cases h
    have fresh := fresh_name store tenant task now
    refine ⟨fun t i other => ?_, ?_, ?_, fun _ _ held => held⟩
    · unfold memoryTask
      by_cases mine : t = tenant
      · subst mine
        have differs : taskName (store.nextId + 1) ≠ i := by
          rcases other with t' | i'
          · exact absurd rfl t'
          · exact fun same => i' same.symm
        simp only [Function.update_self, Table.find_insert]
        exact congrArg (Option.map taskView) (if_neg differs)
      · simp only [Function.update_of_ne mine]
    · have absent : (store.tasks tenant).find (taskName (store.nextId + 1)) = none :=
        Table.find_eq_none_iff.mpr fresh
      simp [memoryTask, absent]
    · unfold memoryTask
      simp only [Function.update_self, Table.find_insert]
      have named : (newTask task (store.nextId + 1) now).id = taskName (store.nextId + 1) := rfl
      rw [if_pos named]
      rfl

/-- The in-memory store is lawful. -/
def memoryLawful : Lawful memory where
  task := memoryTask
  holds := memoryHolds
  moment env := env.now
  inRange := memoryInRange
  claims := by
    intro env tenant owner now limit store store' claims h
    cases h
    have still : ∀ task, taskView (leaseTask owner (now + env.lease) task) = id (taskView task) :=
      fun _ => rfl
    refine ⟨fun t i => ?_, fun _ _ held => held, fun claim member => ?_⟩
    · have changed := @memoryTask_modify store tenant
        ((taken store tenant now limit).map MemoryTask.id) (leaseTask owner (now + env.lease))
        (fun _ => rfl) (fun _ => le_refl _) id still t i
      rw [Option.map_id, id, ite_self] at changed
      exact changed
    · obtain ⟨task, listed, rfl⟩ := List.mem_map.mp member
      obtain ⟨inTable, owes⟩ := List.mem_filter.mp (List.mem_of_mem_take listed)
      have found : (store.tasks tenant).find task.id = some task :=
        Table.find_eq_some_iff.mpr ⟨inTable, rfl⟩
      refine ⟨⟨taskView task, ?_, rfl, rfl⟩, fun near late => ?_⟩
      · simp [memoryTask, claimOf, found]
      · have valid := store.valid tenant task inTable
        simp only [eligible, Bool.and_eq_true, decide_eq_true_eq] at owes
        simp only [stale, Bool.and_eq_true, decide_eq_true_eq] at late
        exact grid_overtaken valid.interval valid.occurrence owes.2 (near task inTable) late.2
  fires := by
    intro env tenant plan store store' id h
    exact memory_fire_effect h
  finishes := by
    intro env tenant done store store' h
    cases h
    obtain ⟨frame, changed⟩ := @memoryTask_one store tenant done.taskId
      (finishTask done.occurrence done.status) (fun _ => rfl) (fun _ => le_finished _ _)
      (·.advance done.occurrence) (finishTask_view done.occurrence done.status)
    exact ⟨frame, changed, fun _ _ held => held⟩
  creates := by
    intro env tenant task store store' id h
    simp only [memory] at h
    split at h
    · cases h
    · exact memory_create_effect h
  edits := by
    intro env tenant task edit store store' h
    simp only [memory, update] at h
    split at h
    · cases h
    · next current found =>
      split at h
      · cases h
      · cases h
        obtain ⟨frame, changed⟩ := @memoryTask_one store tenant task (editTask env.now edit)
          (fun _ => rfl) (le_editTask env.now edit)
          (fun view => view.edit (edit.enabled.getD view.enabled) env.now) (editTask_view env.now edit)
        refine ⟨frame, ⟨edit.enabled.getD current.enabled, ?_⟩, fun _ _ held => held⟩
        have view : memoryTask store tenant task = some (taskView current) := by
          unfold memoryTask
          rw [found]
          rfl
        refine changed.trans ?_
        rw [view]
        rfl

end InMemory

/-! ## Runs of both stores -/

open VodogeCloud.Source.ScheduledTasks (sql)
open VodogeCloud.Source.ScheduleMemory (Memory memory)

/-- In both stores no occurrence is lost silently, as long as no clock that claims
is further from an anchor than the store computes exactly. -/
theorem no_occurrence_lost_silently (database : System sql) (process : System memory) :
    (database.works = [] → database.store.tasks.rows = [] →
      ∀ earlier later, Guarded System.step (measured sqlLawful) database (earlier ++ later) →
        NoneLost sqlLawful database earlier later) ∧
    (process.works = [] → (∀ tenant, (process.store.tasks tenant).rows = []) →
      ∀ earlier later, Guarded System.step (measured memoryLawful) process (earlier ++ later) →
        NoneLost memoryLawful process earlier later) := by
  constructor
  · intro idle fresh earlier later near
    refine none_lost idle (fun t i => ?_) earlier later near
    show sqlTask database.store t i = none
    simp [sqlTask, Table.find, fresh]
  · intro idle fresh earlier later near
    refine none_lost idle (fun t i => ?_) earlier later near
    have none_ : (process.store.tasks t).rows = [] := fresh t
    show memoryTask process.store t i = none
    simp [memoryTask, Table.find, none_]

/-- A database without tasks or commands. -/
def emptyDb : ScheduledTasks.ScheduleDb where
  tasks := Table.empty
  commands := CommandDb.empty
  valid := {
    tenantName := fun _ member => absurd member List.not_mem_nil
    kind := by decide
    interval := by decide
    occurrence := by decide
    lease := by decide }

/-- A gateway that has just started. -/
def newMemory : Memory where
  tasks _ := Table.empty
  issued _ := []
  byKey _ := none
  nextId := 0
  valid := fun _ _ member => absurd member List.not_mem_nil

/-- A task that sends every minute is created, claimed a minute later and fired. -/
def scheduledOnce : List (Event sql) :=
  let env : ScheduledTasks.Env :=
    ⟨0, 0, 60000000, fun _ => false, fun _ _ => true, 7, 8, 1, fun _ => none⟩
  [.create env (1 : Uuid) ⟨"keepalive", true, .command, "send_sms", ⟨"card", "", "8986", ""⟩, .obj [],
      60, none⟩,
    .claimDue env (1 : Uuid) "gateway" 60000000000 32 .answered,
    .prepare 0 ⟨fun _ => .ok ⟨"00000000-0000-0000-0000-000000000002", "", "8986"⟩, fun _ => .ok none,
      fun _ _ => .ok (.obj []), none⟩,
    .fire 0 env .answered]

theorem no_occurrence_lost_once :
    Guarded System.step (measured sqlLawful) ⟨emptyDb, []⟩ scheduledOnce ∧
      ((⟨emptyDb, []⟩ : System sql).run scheduledOnce).store.tasks.rows.map
        ScheduledTasks.TaskRow.lastOccurrence = [1] ∧
      NoneLost sqlLawful ⟨emptyDb, []⟩ [] scheduledOnce := by
  have near : Guarded System.step (measured sqlLawful) ⟨emptyDb, []⟩ scheduledOnce := by
    refine ⟨trivial, ?_, trivial, trivial, trivial⟩
    unfold measured sqlLawful sqlInRange
    decide
  exact ⟨near, by decide,
    (no_occurrence_lost_silently ⟨emptyDb, []⟩ ⟨newMemory, []⟩).1 rfl rfl [] scheduledOnce near⟩

/-- A weekly task anchored in 1734, created two weeks before its age saturates a
duration and claimed after. -/
def saturating : List (Event memory) :=
  let env : ScheduleMemory.Env := ⟨1788790400000000000, 60000000000, fun _ _ => true, fun _ => none⟩
  [.create env "tenant" ⟨"keepalive", true, .command, "send_sms", ⟨"card", "", "8986", ""⟩, .obj [],
      604800, some (-7433804800000000000)⟩,
    .claimDue env "tenant" "gateway" 1790000000000000001 32 .answered,
    .prepare 0 ⟨fun _ => .error "unused", fun _ => .ok none, fun _ _ => .ok .null, none⟩]

/-- A stale completion that stops before the occurrence it was claimed for. -/
def fallsBehind (work : Work memory) : Bool :=
  match work.phase with
  | .finishing done =>
    done.status = .skippedStale && done.occurrence = some 15249 && work.claim.occurrence = 15250
  | _ => false

theorem saturated_skip_falls_behind :
    ¬ NoneLost memoryLawful ⟨newMemory, []⟩ [] saturating := by
  intro lost
  have skipped : ((⟨newMemory, []⟩ : System memory).run saturating).works.any fallsBehind = true := by
    decide
  obtain ⟨work, member, behind⟩ := List.any_eq_true.mp skipped
  unfold fallsBehind at behind
  split at behind
  · next done finishing =>
    simp only [Bool.and_eq_true, decide_eq_true_eq] at behind
    obtain ⟨view, _, ends, atLeast, _⟩ := lost.skips work member done finishing behind.1.1
    rw [behind.1.2, Option.some.injEq] at ends
    omega
  · cases behind

end VodogeCloud.Guarantees.ScheduleStores
