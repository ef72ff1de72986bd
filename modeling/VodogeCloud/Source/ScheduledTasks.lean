import VodogeCloud.Source.Schedule

/-!
# Scheduled tasks in the database

`app.scheduled_tasks`, `app.claim_due_scheduled_tasks` and
`app.finish_scheduled_task` (0038_scheduled_tasks.sql:86-330), and the store over
them: `SQL.ClaimDue`, `Fire`, `Finish`, `Create` and `Update`
(apps/gateway/internal/schedule/store.go:24-175, 371-509). `now` in a store
operation is the transaction's `now()`, which is not the runner's clock. The
selector is kept decoded; nothing here looks into it.
-/

set_option autoImplicit false

namespace VodogeCloud.Source.ScheduledTasks

open VodogeCloud.Lib VodogeCloud.Source.Postgres VodogeCloud.Source.CommandTables
open VodogeCloud.Source.CommandLifecycle VodogeCloud.Source.Schedule

/-! ## The table -/

structure TaskRow where
  id : Uuid
  tenantId : Uuid
  name : String
  enabled : Bool
  action : Action
  commandKind : Option CommandKind
  selector : Selector
  request : Json
  intervalSeconds : Nat
  anchorAt : Timestamp
  lastOccurrence : Int
  lastRunAt : Option Timestamp
  lastStatus : Option RunStatus
  lastCommandId : Option Uuid
  leaseOwner : Option String
  leaseExpiresAt : Option Timestamp

/-- What no statement rewrites: the origin and the step of the occurrence grid
among it. -/
def TaskRow.identity (row : TaskRow) : Uuid × Uuid × String × Action × Option CommandKind × Nat × Timestamp :=
  (row.id, row.tenantId, row.name, row.action, row.commandKind, row.intervalSeconds, row.anchorAt)

/-- `scheduled_tasks_lease_shape`. -/
def TaskRow.leaseShape (row : TaskRow) : Bool := row.leaseOwner.isNone = row.leaseExpiresAt.isNone

/-- `scheduled_tasks_kind_matches_action`. -/
def kindMatches (action : Action) (kind : Option CommandKind) : Bool :=
  (action = .command) = kind.isSome

structure Constraints (tasks : Table TaskRow.id) : Prop where
  tenantName : ∀ a ∈ tasks, ∀ b ∈ tasks, a.tenantId = b.tenantId → a.name = b.name → a = b
  kind : ∀ row ∈ tasks, kindMatches row.action row.commandKind = true
  interval : ∀ row ∈ tasks, 60 ≤ row.intervalSeconds ∧ row.intervalSeconds ≤ 604800
  occurrence : ∀ row ∈ tasks, 0 ≤ row.lastOccurrence
  lease : ∀ row ∈ tasks, row.leaseShape = true

structure ScheduleDb where
  tasks : Table TaskRow.id
  commands : CommandDb
  valid : Constraints tasks

/-- `UPDATE app.scheduled_tasks`: the mark stays non-negative and a lease is
written or cleared as a whole. -/
def ScheduleDb.updateTasks (db : ScheduleDb) (hit : TaskRow → Bool) (change : TaskRow → TaskRow)
    (keeps : ∀ row, (change row).identity = row.identity)
    (forward : ∀ row, row.lastOccurrence ≤ (change row).lastOccurrence)
    (shape : ∀ row, row.leaseShape = true → (change row).leaseShape = true) : ScheduleDb where
  tasks := db.tasks.update hit change (fun row => congrArg Prod.fst (keeps row))
  commands := db.commands
  valid := by
    have same : ∀ row, (if hit row then change row else row).identity = row.identity := by
      intro row
      split
      · exact keeps row
      · rfl
    simp only [TaskRow.identity, Prod.mk.injEq] at same
    constructor
    · intro a memberA b memberB tenant name
      obtain ⟨oldA, inA, rfl⟩ := Table.mem_update.mp memberA
      obtain ⟨oldB, inB, rfl⟩ := Table.mem_update.mp memberB
      rw [(same oldA).2.1, (same oldB).2.1] at tenant
      rw [(same oldA).2.2.1, (same oldB).2.2.1] at name
      rw [db.valid.tenantName oldA inA oldB inB tenant name]
    · intro row member
      obtain ⟨old, inOld, rfl⟩ := Table.mem_update.mp member
      rw [(same old).2.2.2.1, (same old).2.2.2.2.1]
      exact db.valid.kind old inOld
    · intro row member
      obtain ⟨old, inOld, rfl⟩ := Table.mem_update.mp member
      rw [(same old).2.2.2.2.2.1]
      exact db.valid.interval old inOld
    · exact Table.forall_update db.valid.occurrence fun old nonneg => nonneg.trans (forward old)
    · exact Table.forall_update db.valid.lease shape

/-- `INSERT INTO app.scheduled_tasks`. -/
def ScheduleDb.insertTask (db : ScheduleDb) (row : TaskRow) : Except PgError ScheduleDb :=
  if blank row.name then
    .error ⟨"23514", "new row for relation \"scheduled_tasks\" violates check constraint \"scheduled_tasks_name_present\""⟩
  else if row.request.isObject = false then
    .error ⟨"23514", "new row for relation \"scheduled_tasks\" violates check constraint \"scheduled_tasks_request_is_object\""⟩
  else if kind : kindMatches row.action row.commandKind = false then
    .error ⟨"23514", "new row for relation \"scheduled_tasks\" violates check constraint \"scheduled_tasks_kind_matches_action\""⟩
  else if interval : ¬ (60 ≤ row.intervalSeconds ∧ row.intervalSeconds ≤ 604800) then
    .error ⟨"23514", "new row for relation \"scheduled_tasks\" violates check constraint \"scheduled_tasks_interval_sane\""⟩
  else if occurrence : row.lastOccurrence < 0 then
    .error ⟨"23514", "new row for relation \"scheduled_tasks\" violates check constraint \"scheduled_tasks_occurrence_not_negative\""⟩
  else if lease : row.leaseShape = false then
    .error ⟨"23514", "new row for relation \"scheduled_tasks\" violates check constraint \"scheduled_tasks_lease_shape\""⟩
  else
    match found : db.tasks.find row.id with
    | some _ => .error ⟨"23505", "duplicate key value violates unique constraint \"scheduled_tasks_pkey\""⟩
    | none =>
      if taken : ∃ other ∈ db.tasks, other.tenantId = row.tenantId ∧ other.name = row.name then
        .error ⟨"23505", "duplicate key value violates unique constraint \"scheduled_tasks_tenant_name_key\""⟩
      else
        .ok { db with
          tasks := db.tasks.insert row (Table.find_eq_none_iff.mp found)
          valid := by
            constructor
            · intro a memberA b memberB tenant name
              rcases Table.mem_insert.mp memberA with oldA | rfl
              · rcases Table.mem_insert.mp memberB with oldB | rfl
                · exact db.valid.tenantName a oldA b oldB tenant name
                · exact absurd ⟨a, oldA, tenant, name⟩ taken
              · rcases Table.mem_insert.mp memberB with oldB | rfl
                · exact absurd ⟨b, oldB, tenant.symm, name.symm⟩ taken
                · rfl
            · exact Table.forall_insert db.valid.kind (by simpa using kind)
            · exact Table.forall_insert db.valid.interval (not_not.mp interval)
            · exact Table.forall_insert db.valid.occurrence (by omega)
            · exact Table.forall_insert db.valid.lease (by simpa using lease) }

/-! ## Times in the database -/

/-- A timestamptz has to lie between 4713 BC and 294276 AD. -/
def timestamptz (micros : Int) : Except PgError Timestamp :=
  if -210866803200000000 ≤ micros ∧ micros < 9224318016000000000 then .ok micros
  else .error ⟨"22008", "timestamp out of range"⟩

/-- A Go time as the driver sends it. -/
def micros (time : GoTime) : Timestamp := time / 1000

/-- `floor(extract(epoch FROM (now - anchor_at)) / interval_seconds)::bigint`. -/
def dueAt (row : TaskRow) (now : Timestamp) : Int :=
  epochQuotient (now - row.anchorAt) row.intervalSeconds

/-- `make_interval(secs => interval_seconds::double precision * occurrence)`. -/
def gridSpan (intervalSeconds occurrence : Nat) : Nat :=
  toDouble (toDouble (intervalSeconds * toDouble occurrence) * 1000000)

/-- `anchor_at + make_interval(...)`. -/
def occurrenceTime (row : TaskRow) (occurrence : Nat) : Except PgError Timestamp :=
  if bigintMax < gridSpan row.intervalSeconds occurrence then
    .error ⟨"22008", "interval out of range"⟩
  else timestamptz (row.anchorAt + gridSpan row.intervalSeconds occurrence)

/-! ## Claiming and finishing -/

/-- A task of the tenant that owes an occurrence and is not leased. -/
def claimable (tenant : Uuid) (now : Timestamp) (row : TaskRow) : Bool :=
  row.tenantId = tenant && row.enabled && row.leaseExpiresAt.all (· ≤ now) &&
    row.lastOccurrence < dueAt row now

/-- `ORDER BY t.id LIMIT p_limit FOR UPDATE SKIP LOCKED`. -/
def takeInOrder (limit : Int) (locked : TaskRow → Bool) (rows : List TaskRow) : List Uuid :=
  (((rows.filter (fun row => !locked row)).map TaskRow.id).insertionSort (· ≤ ·)).take limit.toNat

def leaseRow (owner : String) (until_ : Timestamp) (row : TaskRow) : TaskRow :=
  { row with leaseOwner := some owner, leaseExpiresAt := some until_ }

/-- One row of the RETURNING clause. -/
def claimOf (now : Timestamp) (row : TaskRow) : Except PgError (Claim Uuid) := do
  let occurrenceAt ← occurrenceTime row (row.lastOccurrence + 1).toNat
  return {
    taskId := row.id
    action := row.action
    commandKind := (row.commandKind.map CommandKind.text).getD ""
    selector := row.selector
    request := row.request
    intervalSeconds := row.intervalSeconds
    occurrence := row.lastOccurrence + 1
    occurrenceAt := occurrenceAt * 1000
    dueOccurrence := dueAt row now }

/-- `app.claim_due_scheduled_tasks`. The lease is in microseconds. -/
def claimDueScheduledTasks (context : Option Uuid) (tenant : Uuid) (owner : String) (now : Timestamp)
    (lease : Int) (limit : Int) (locked : TaskRow → Bool) (db : ScheduleDb) :
    Except PgError (ScheduleDb × List (Claim Uuid)) := do
  tenantGuard context tenant "scheduled task tenant"
  if limit < 1 ∨ 200 < limit then
    .error ⟨"22023", "scheduled task claim limit must be between 1 and 200"⟩
  else if lease ≤ 0 then .error ⟨"22023", "scheduled task lease must be positive"⟩
  else
    let ids := takeInOrder limit locked (db.tasks.rows.filter (claimable tenant now))
    let until_ ← timestamptz (now + lease)
    let claims ← (db.tasks.rows.filter (fun row => ids.contains row.id)).mapM (claimOf now)
    return (db.updateTasks (fun row => ids.contains row.id) (leaseRow owner until_) (fun _ => rfl)
      (fun _ => le_refl _) (fun _ _ => rfl), claims)

/-- A task of the tenant the transaction is bound to. -/
def taskOf (tenant task : Uuid) (row : TaskRow) : Bool := row.tenantId = tenant && row.id = task

/-- `CASE WHEN p_occurrence IS NULL THEN last_occurrence ELSE GREATEST(...)`. -/
def advanced (mark : Int) (occurrence : Option Int) : Int :=
  match occurrence with
  | none => mark
  | some occurrence => max mark occurrence

theorem le_advanced (mark : Int) (occurrence : Option Int) : mark ≤ advanced mark occurrence := by
  cases occurrence with
  | none => exact le_refl mark
  | some occurrence => exact le_max_left mark occurrence

def finishRow (occurrence : Option Int) (status : RunStatus) (commandId : Option Uuid)
    (now : Timestamp) (row : TaskRow) : TaskRow :=
  { row with
    lastOccurrence := advanced row.lastOccurrence occurrence
    lastRunAt := some now
    lastStatus := some status
    lastCommandId := commandId
    leaseOwner := none
    leaseExpiresAt := none }

/-- `app.finish_scheduled_task`. -/
def finishScheduledTask (context : Option Uuid) (tenant task : Uuid) (occurrence : Option Int)
    (status : RunStatus) (commandId : Option Uuid) (now : Timestamp) (db : ScheduleDb) :
    Except PgError (ScheduleDb × Bool) := do
  tenantGuard context tenant "scheduled task tenant"
  return (db.updateTasks (taskOf tenant task) (finishRow occurrence status commandId now)
    (fun _ => rfl) (fun row => le_advanced row.lastOccurrence occurrence) (fun _ _ => rfl),
    db.tasks.rows.any (taskOf tenant task))

/-! ## The store -/

/-- What a transaction of the store reads from its surroundings. -/
structure Env where
  now : Timestamp
  /-- `time.Now()` of the calling process. -/
  clock : GoTime
  /-- `make_interval(secs => lease.Seconds())`, in microseconds. -/
  lease : Int
  /-- Rows other workers hold locked. -/
  locked : TaskRow → Bool
  /-- The device foreign key of `app.commands`. -/
  registered : Uuid → Uuid → Bool
  taskId : Uuid
  commandId : Uuid
  outboxId : Nat
  /-- The rules of `Validate` besides the interval. -/
  fields : NewTask → Option String

/-- `isKeyConflict` in the error mapping of `Fire`. -/
def fireError (err : PgError) : StoreError :=
  if err.code = "23505" then .keyConflict else .other err.text

/-- `SQL.Fire`: the command and its bookkeeping in one transaction. -/
def fire (env : Env) (tenant : Uuid) (plan : Plan Uuid) (db : ScheduleDb) :
    Except PgError (ScheduleDb × Uuid) := do
  let deviceId ← uuidIn plan.deviceId
  let kind ← commandKindIn plan.kind
  let payload ← jsonbIn plan.payload
  let expiresAt ← timestamptz (micros plan.expiresAt)
  let (commands, command) ← enqueueCommand env.registered (some tenant)
    ⟨tenant, deviceId, kind, payload, plan.idempotencyKey, expiresAt⟩ env.commandId env.outboxId
    env.now db.commands
  let (db', _) ← finishScheduledTask (some tenant) tenant plan.taskId (some plan.occurrence) .issued
    (some command.id) env.now { db with commands := commands }
  return (db', command.id)

/-- The row `SQL.Create` inserts. -/
def newRow (env : Env) (tenant : Uuid) (task : NewTask) (kind : Option CommandKind)
    (anchor : Timestamp) : TaskRow where
  id := env.taskId
  tenantId := tenant
  name := task.name
  enabled := task.enabled
  action := task.action
  commandKind := kind
  selector := task.selector
  request := task.request
  intervalSeconds := task.intervalSeconds.toNat
  anchorAt := anchor
  lastOccurrence := max 0 (epochQuotient (env.now - anchor) task.intervalSeconds.toNat)
  lastRunAt := none
  lastStatus := none
  lastCommandId := none
  leaseOwner := none
  leaseExpiresAt := none

/-- `sql.NullString` of a kind, cast. -/
def nullableKind (text : String) : Except PgError (Option CommandKind) :=
  if text = "" then .ok none else (commandKindIn text).map some

/-- `SQL.Create`, after `createSchedule` has validated the task. -/
def create (env : Env) (tenant : Uuid) (task : NewTask) (db : ScheduleDb) :
    Except PgError (ScheduleDb × Uuid) := do
  let kind ← nullableKind task.commandKind
  let _ ← jsonbIn task.request
  let anchor ← timestamptz (micros (task.anchor env.clock))
  let db' ← db.insertTask (newRow env tenant task kind anchor)
  return (db', env.taskId)

/-- The task as `Update` validates it, with the selector it would get. -/
def TaskRow.merged (row : TaskRow) (selector : Selector) : NewTask where
  name := row.name
  enabled := row.enabled
  action := row.action
  commandKind := (row.commandKind.map CommandKind.text).getD ""
  selector := selector
  request := row.request
  intervalSeconds := row.intervalSeconds
  anchorAt := some (row.anchorAt * 1000)

/-- Re-enabling moves the mark to the current occurrence. -/
def editRow (now : Timestamp) (enabled : Bool) (selector : Option Selector) (row : TaskRow) : TaskRow :=
  { row with
    enabled := enabled
    selector := selector.getD row.selector
    lastOccurrence :=
      if enabled && !row.enabled then max row.lastOccurrence (dueAt row now) else row.lastOccurrence }

theorem le_editRow (now : Timestamp) (enabled : Bool) (selector : Option Selector) (row : TaskRow) :
    row.lastOccurrence ≤ (editRow now enabled selector row).lastOccurrence := by
  simp only [editRow]
  split
  · exact le_max_left _ _
  · exact le_refl _

/-- `SQL.Update`. -/
def update (env : Env) (tenant task : Uuid) (edit : Edit) (db : ScheduleDb) :
    Except String ScheduleDb :=
  match db.tasks.rows.find? (taskOf tenant task) with
  | none => .error "sql: no rows in result set"
  | some current =>
    match edit.selector.map (fun selector => validate env.fields (current.merged selector)) with
    | some (.error reason) => .error reason
    | _ =>
      .ok (db.updateTasks (taskOf tenant task)
        (editRow env.now (edit.enabled.getD current.enabled) edit.selector) (fun _ => rfl)
        (le_editRow env.now (edit.enabled.getD current.enabled) edit.selector)
        (fun _ shape => shape))

/-- The production store. -/
def sql : Store where
  Tenant := Uuid
  TaskId := Uuid
  Env := Env
  State := ScheduleDb
  text := uuidOut
  claimDue env tenant owner now limit db :=
    match (do
      let now ← timestamptz (micros now)
      claimDueScheduledTasks (some tenant) tenant owner now env.lease limit env.locked db) with
    | .ok result => .ok result
    | .error err => .error (.other err.text)
  fire env tenant plan db :=
    match fire env tenant plan db with
    | .ok (db', id) => .ok (db', uuidOut id)
    | .error err => .error (fireError err)
  finish env tenant done db :=
    match finishScheduledTask (some tenant) tenant done.taskId done.occurrence done.status none
        env.now db with
    | .ok (db', _) => .ok db'
    | .error err => .error (.other err.text)
  create env tenant task db :=
    match validate env.fields task with
    | .error reason => .error (.other reason)
    | .ok () =>
      match create env tenant task db with
      | .ok result => .ok result
      | .error err => .error (.other err.text)
  update env tenant task edit db :=
    match update env tenant task edit db with
    | .ok db' => .ok db'
    | .error reason => .error (.other reason)

end VodogeCloud.Source.ScheduledTasks
