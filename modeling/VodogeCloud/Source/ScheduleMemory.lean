import VodogeCloud.Lib.Table
import VodogeCloud.Source.Schedule

/-!
# Scheduled tasks in memory

`Memory`, the store of a gateway with no database
(apps/gateway/internal/schedule/store.go:541-883). Every operation holds the
mutex, so each is one step. A task is named after the counter that numbers both
tasks and commands. `createSchedule` validates a task before the store sees it,
so every task in the store has a period between a minute and a week.
-/

set_option autoImplicit false

namespace VodogeCloud.Source.ScheduleMemory

open VodogeCloud.Lib VodogeCloud.Source.Postgres VodogeCloud.Source.Schedule

structure MemoryTask where
  id : String
  name : String
  enabled : Bool
  action : Action
  commandKind : String
  selector : Selector
  request : Json
  intervalSeconds : Int
  anchorAt : GoTime
  lastOccurrence : Int
  lastStatus : Option RunStatus
  lastCommandId : String
  leaseOwner : String
  leaseUntil : GoTime

structure IssuedCommand where
  commandId : String
  taskId : String
  occurrence : Int
  kind : String
  deviceId : String
  idempotencyKey : String
  payload : Json
  expiresAt : GoTime

/-- The name the counter gives a task. -/
def taskName (number : Nat) : String := "task-" ++ toString number

theorem taskName_injective {a b : Nat} (h : taskName a = taskName b) : a = b := by
  have lists := congrArg String.toList h
  simp only [taskName, String.toList_append, List.append_cancel_left_eq] at lists
  have digits := congrArg (fun text => Nat.ofDigitChars 10 text 0) lists
  simpa [Nat.toString_eq_ofList_toDigits, Nat.ofDigitChars_ten_toDigits] using digits

/-- What no operation rewrites. -/
def MemoryTask.identity (task : MemoryTask) : String × Int × GoTime :=
  (task.id, task.intervalSeconds, task.anchorAt)

/-- A task as the counter, the validation and the seed of its mark leave it. -/
structure MemoryTask.Valid (nextId : Nat) (task : MemoryTask) : Prop where
  numbered : ∃ number ≤ nextId, task.id = taskName number
  interval : 60 ≤ task.intervalSeconds ∧ task.intervalSeconds ≤ 604800
  occurrence : 0 ≤ task.lastOccurrence

structure Memory where
  tasks : String → Table MemoryTask.id
  issued : String → List IssuedCommand
  byKey : String → Option IssuedCommand
  nextId : Nat
  valid : ∀ tenant, ∀ task ∈ tasks tenant, task.Valid nextId

theorem MemoryTask.Valid.mono {a b : Nat} {task : MemoryTask} (valid : task.Valid a) (le : a ≤ b) :
    task.Valid b := by
  obtain ⟨⟨number, bound, name⟩, interval, occurrence⟩ := valid
  exact ⟨⟨number, bound.trans le, name⟩, interval, occurrence⟩

/-! ## The occurrence grid -/

/-- A 64-bit product wraps. -/
def wrap (value : Int) : Int := (value + 2 ^ 63) % 2 ^ 64 - 2 ^ 63

/-- `occurrenceAt`: the quotient of durations, rounded down. -/
def occurrenceAt (anchor : GoTime) (intervalSeconds : Int) (at_ : GoTime) : Int :=
  if intervalSeconds ≤ 0 then 0
  else
    let elapsed := sub at_ anchor
    let interval := wrap (intervalSeconds * second)
    let quotient := elapsed.tdiv interval
    if elapsed < 0 ∧ elapsed.tmod interval ≠ 0 then quotient - 1 else quotient

/-- `occurrenceTime`. -/
def occurrenceTime (anchor : GoTime) (intervalSeconds occurrence : Int) : GoTime :=
  anchor + wrap (wrap (intervalSeconds * second) * occurrence)

/-! ## Operations -/

/-- Change the tasks of a tenant whose pointers are held. -/
def Memory.modify (store : Memory) (tenant : String) (ids : List String)
    (change : MemoryTask → MemoryTask) (keeps : ∀ task, (change task).identity = task.identity)
    (forward : ∀ task, task.lastOccurrence ≤ (change task).lastOccurrence) : Memory where
  tasks := Function.update store.tasks tenant
    ((store.tasks tenant).update (fun task => ids.contains task.id) change
      (fun task => congrArg Prod.fst (keeps task)))
  issued := store.issued
  byKey := store.byKey
  nextId := store.nextId
  valid := by
    intro other task member
    by_cases same : other = tenant
    · subst same
      rw [Function.update_self] at member
      obtain ⟨old, inOld, rfl⟩ := Table.mem_update.mp member
      have valid := store.valid other old inOld
      split
      · have kept := keeps old
        simp only [MemoryTask.identity, Prod.mk.injEq] at kept
        refine ⟨?_, ?_, valid.occurrence.trans (forward old)⟩
        · rw [kept.1]; exact valid.numbered
        · rw [kept.2.1]; exact valid.interval
      · exact valid
    · rw [Function.update_of_ne same] at member
      exact store.valid other task member

/-- A task that owes an occurrence and is not leased. -/
def eligible (now : GoTime) (task : MemoryTask) : Bool :=
  task.enabled && 0 < task.intervalSeconds && task.leaseUntil ≤ now &&
    task.lastOccurrence < occurrenceAt task.anchorAt task.intervalSeconds now

def claimOf (now : GoTime) (task : MemoryTask) : Claim String where
  taskId := task.id
  action := task.action
  commandKind := task.commandKind
  selector := task.selector
  request := task.request
  intervalSeconds := task.intervalSeconds
  occurrence := task.lastOccurrence + 1
  occurrenceAt := occurrenceTime task.anchorAt task.intervalSeconds (task.lastOccurrence + 1)
  dueOccurrence := occurrenceAt task.anchorAt task.intervalSeconds now

/-- The loop of `ClaimDue` stops at the limit. -/
def taken (store : Memory) (tenant : String) (now : GoTime) (limit : Int) : List MemoryTask :=
  ((store.tasks tenant).rows.filter (eligible now)).take limit.toNat

def leaseTask (owner : String) (until_ : GoTime) (task : MemoryTask) : MemoryTask :=
  { task with leaseUntil := until_, leaseOwner := owner }

/-- `Memory.ClaimDue`. -/
def claimDue (tenant owner : String) (now : GoTime) (lease limit : Int) (store : Memory) :
    Memory × List (Claim String) :=
  let ids := (taken store tenant now limit).map MemoryTask.id
  (store.modify tenant ids (leaseTask owner (now + lease)) (fun _ => rfl) (fun _ => le_refl _),
    (taken store tenant now limit).map (claimOf now))

/-- `if occurrence > task.LastOccurrence` moves the mark. -/
def raised (mark occurrence : Int) : Int := if mark < occurrence then occurrence else mark

theorem raised_eq_max (mark occurrence : Int) : raised mark occurrence = max mark occurrence := by
  unfold raised
  split
  · omega
  · omega

theorem le_raised (mark occurrence : Int) : mark ≤ raised mark occurrence := by
  rw [raised_eq_max]
  exact le_max_left mark occurrence

def advanceTask (occurrence : Int) (commandId : String) (task : MemoryTask) : MemoryTask :=
  { task with
    lastOccurrence := raised task.lastOccurrence occurrence
    lastStatus := some .issued
    lastCommandId := commandId
    leaseUntil := zeroTime
    leaseOwner := "" }

/-- `Memory.advance`. -/
def advance (tenant : String) (plan : Plan String) (commandId : String) (store : Memory) : Memory :=
  store.modify tenant [plan.taskId] (advanceTask plan.occurrence commandId) (fun _ => rfl)
    (fun _ => le_raised _ _)

def bindKey (tenant : String) (plan : Plan String) (command : IssuedCommand) (store : Memory) : Memory where
  tasks := store.tasks
  issued := Function.update store.issued tenant (store.issued tenant ++ [command])
  byKey := Function.update store.byKey (tenant ++ "|" ++ plan.idempotencyKey) (some command)
  nextId := store.nextId + 1
  valid := fun other task member => (store.valid other task member).mono (Nat.le_succ _)

/-- `Memory.Fire`; payloads are compared as the texts they are. -/
def fire (same : Json → Json → Bool) (tenant : String) (plan : Plan String) (store : Memory) :
    Except StoreError (Memory × String) :=
  match store.byKey (tenant ++ "|" ++ plan.idempotencyKey) with
  | some existing =>
    if same existing.payload plan.payload = false ∨ existing.deviceId ≠ plan.deviceId ∨
        existing.kind ≠ plan.kind then .error .keyConflict
    else .ok (advance tenant plan existing.commandId store, existing.commandId)
  | none =>
    let commandId := "cmd-" ++ toString (store.nextId + 1)
    let command : IssuedCommand := {
      commandId := commandId
      taskId := plan.taskId
      occurrence := plan.occurrence
      kind := plan.kind
      deviceId := plan.deviceId
      idempotencyKey := plan.idempotencyKey
      payload := plan.payload
      expiresAt := plan.expiresAt }
    .ok (advance tenant plan commandId (bindKey tenant plan command store), commandId)

/-- The mark after `Memory.Finish`. -/
def finished (mark : Int) (occurrence : Option Int) : Int :=
  match occurrence with
  | some occurrence => raised mark occurrence
  | none => mark

theorem le_finished (mark : Int) (occurrence : Option Int) : mark ≤ finished mark occurrence := by
  cases occurrence with
  | none => exact le_refl mark
  | some occurrence => exact le_raised mark occurrence

def finishTask (occurrence : Option Int) (status : RunStatus) (task : MemoryTask) : MemoryTask :=
  { task with
    lastOccurrence := finished task.lastOccurrence occurrence
    lastStatus := some status
    lastCommandId := ""
    leaseUntil := zeroTime
    leaseOwner := "" }

/-- `Memory.Finish`. -/
def finish (tenant : String) (done : Completion String) (store : Memory) : Memory :=
  store.modify tenant [done.taskId] (finishTask done.occurrence done.status) (fun _ => rfl)
    (fun _ => le_finished _ _)

/-- The task `Memory.Create` appends. -/
def newTask (task : NewTask) (number : Nat) (now : GoTime) : MemoryTask :=
  let anchor := task.anchor now
  { id := taskName number
    name := task.name
    enabled := task.enabled
    action := task.action
    commandKind := task.commandKind
    selector := task.selector
    request := task.request
    intervalSeconds := task.intervalSeconds
    anchorAt := anchor
    lastOccurrence := max 0 (occurrenceAt anchor task.intervalSeconds now)
    lastStatus := none
    lastCommandId := ""
    leaseOwner := ""
    leaseUntil := zeroTime }

/-- The next number is not the name of a task yet. -/
theorem fresh_name (store : Memory) (tenant : String) (task : NewTask) (now : GoTime) :
    ∀ row ∈ store.tasks tenant, row.id ≠ (newTask task (store.nextId + 1) now).id := by
  intro row member same
  obtain ⟨number, bound, name⟩ := (store.valid tenant row member).numbered
  have := taskName_injective (name.symm.trans same)
  omega

/-- `Memory.Create`. -/
def create (tenant : String) (task : NewTask)
    (interval : 60 ≤ task.intervalSeconds ∧ task.intervalSeconds ≤ 604800) (now : GoTime)
    (store : Memory) : Except StoreError (Memory × String) :=
  if (store.tasks tenant).rows.any (fun row => row.name = task.name) then
    .error (.other "a schedule with that name already exists")
  else
    .ok ({
      tasks := Function.update store.tasks tenant
        ((store.tasks tenant).insert (newTask task (store.nextId + 1) now)
          (fresh_name store tenant task now))
      issued := store.issued
      byKey := store.byKey
      nextId := store.nextId + 1
      valid := by
        intro other row member
        by_cases same : other = tenant
        · subst same
          rw [Function.update_self] at member
          rcases Table.mem_insert.mp member with old | rfl
          · exact (store.valid other row old).mono (Nat.le_succ _)
          · exact ⟨⟨store.nextId + 1, le_refl _, rfl⟩, interval, le_max_left _ _⟩
        · rw [Function.update_of_ne same] at member
          exact (store.valid other row member).mono (Nat.le_succ _) }, taskName (store.nextId + 1))

/-- The task as `Update` validates it, with the selector it would get. -/
def MemoryTask.merged (task : MemoryTask) (selector : Selector) : NewTask where
  name := task.name
  enabled := task.enabled
  action := task.action
  commandKind := task.commandKind
  selector := selector
  request := task.request
  intervalSeconds := task.intervalSeconds
  anchorAt := some task.anchorAt

/-- Re-enabling moves the mark to the current occurrence. -/
def editTask (now : GoTime) (edit : Edit) (task : MemoryTask) : MemoryTask :=
  let due := occurrenceAt task.anchorAt task.intervalSeconds now
  { task with
    selector := edit.selector.getD task.selector
    lastOccurrence :=
      if edit.enabled = some true ∧ task.enabled = false ∧ task.lastOccurrence < due then due
      else task.lastOccurrence
    enabled := edit.enabled.getD task.enabled }

theorem le_editTask (now : GoTime) (edit : Edit) (task : MemoryTask) :
    task.lastOccurrence ≤ (editTask now edit task).lastOccurrence := by
  simp only [editTask]
  split
  · omega
  · exact le_refl _

/-- `Memory.Update`. -/
def update (fields : NewTask → Option String) (tenant task : String) (edit : Edit) (now : GoTime)
    (store : Memory) : Except StoreError Memory :=
  match (store.tasks tenant).find task with
  | none => .error (.other "sql: no rows in result set")
  | some current =>
    match edit.selector.map (fun selector => validate fields (current.merged selector)) with
    | some (.error reason) => .error (.other reason)
    | _ => .ok (store.modify tenant [task] (editTask now edit) (fun _ => rfl) (le_editTask now edit))

/-- What an operation reads from its surroundings. -/
structure Env where
  /-- `time.Now()`. -/
  now : GoTime
  lease : Int
  /-- Equality of two payload texts. -/
  same : Json → Json → Bool
  fields : NewTask → Option String

/-- The store of a gateway with no database. -/
def memory : Store where
  Tenant := String
  TaskId := String
  Env := Env
  State := Memory
  text := id
  claimDue env tenant owner now limit store := .ok (claimDue tenant owner now env.lease limit store)
  fire env tenant plan store := fire env.same tenant plan store
  finish _ tenant done store := .ok (finish tenant done store)
  create env tenant task store :=
    match valid : validate env.fields task with
    | .error reason => .error (.other reason)
    | .ok () => create tenant task (validate_ok valid) env.now store
  update env tenant task edit store := update env.fields tenant task edit env.now store

end VodogeCloud.Source.ScheduleMemory
