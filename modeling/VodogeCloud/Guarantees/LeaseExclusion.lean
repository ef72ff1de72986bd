import Mathlib
import VodogeCloud.Lib.Calls
import VodogeCloud.Guarantees.ScheduleStores

/-!
# Leases on scheduled tasks

A worker that has claimed a task holds it until it completes the claim or the lease
runs out. `Fire` and `Finish` clear the lease of the task whoever calls them, so a worker
that completes after its own lease lapsed clears the lease of the worker that replaced it,
and a third one claims the task under a running lease. Both stores do this. As long as no
claim is completed while another one of the task is running, a running lease is the one
that stands in the task, and nobody else claims it.
-/

set_option autoImplicit false

namespace VodogeCloud.Guarantees.LeaseExclusion

open VodogeCloud.Lib VodogeCloud.Lib.Transactions VodogeCloud.Source VodogeCloud.Source.Postgres
open VodogeCloud.Source.CommandTables VodogeCloud.Source.Schedule

/-! ## Workers on one store -/

/-- A claim a worker made. -/
structure Held (S : Store) where
  tenant : S.Tenant
  task : S.TaskId
  owner : String
  expires : GoTime
  /-- The worker's `Fire` or `Finish` went through. -/
  completed : Bool

structure Workers (S : Store) where
  store : S.State
  clock : GoTime
  held : List (Held S)

/-- A call of some worker or of the console. A worker completes a claim under its place. -/
inductive Act (S : Store) where
  | wait (span : Nat)
  | create (env : S.Env) (tenant : S.Tenant) (task : NewTask)
  | update (env : S.Env) (tenant : S.Tenant) (task : S.TaskId) (edit : Edit)
  | claimDue (env : S.Env) (tenant : S.Tenant) (owner : String) (limit : Int)
  | fire (place : Nat) (env : S.Env) (plan : Plan S.TaskId)
  | finish (place : Nat) (env : S.Env) (done : Completion S.TaskId)

section Workers

variable {S : Store}

def Held.running (held : Held S) (clock : GoTime) : Prop := held.completed = false ∧ clock < held.expires

/-- The store after the claim at a place was completed. -/
def Workers.complete (workers : Workers S) (place : Nat) (store : S.State) : Workers S :=
  { workers with store := store, held := workers.held.modify place fun held => { held with completed := true } }

/-- One call. `expiry` is the lease a claim writes. A call that fails changes nothing, and
a claim that was completed is not completed again. -/
def Workers.step (expiry : S.Env → GoTime → GoTime) (workers : Workers S) : Act S → Workers S
  | .wait span => { workers with clock := workers.clock + span }
  | .create env tenant task =>
    match S.create env tenant task workers.store with
    | .ok (store, _) => { workers with store := store }
    | .error _ => workers
  | .update env tenant task edit =>
    match S.update env tenant task edit workers.store with
    | .ok store => { workers with store := store }
    | .error _ => workers
  | .claimDue env tenant owner limit =>
    match S.claimDue env tenant owner workers.clock limit workers.store with
    | .ok (store, claims) =>
      { workers with
        store := store
        held := workers.held ++ claims.map fun claim =>
          ⟨tenant, claim.taskId, owner, expiry env workers.clock, false⟩ }
    | .error _ => workers
  | .fire place env plan =>
    match workers.held[place]? with
    | none => workers
    | some held =>
      if held.completed then workers
      else
        match S.fire env held.tenant { plan with taskId := held.task } workers.store with
        | .ok (store, _) => workers.complete place store
        | .error _ => workers
  | .finish place env done =>
    match workers.held[place]? with
    | none => workers
    | some held =>
      if held.completed then workers
      else
        match S.finish env held.tenant { done with taskId := held.task } workers.store with
        | .ok store => workers.complete place store
        | .error _ => workers

/-- No claim that succeeds now is of a task another claim of which is running. -/
def Excluded (workers : Workers S) : Act S → Prop
  | .claimDue env tenant owner limit =>
    ∀ store claims, S.claimDue env tenant owner workers.clock limit workers.store = .ok (store, claims) →
      ∀ claim ∈ claims, ∀ held ∈ workers.held, held.tenant = tenant → held.task = claim.taskId →
        held.owner ≠ owner → ¬ held.running workers.clock
  | _ => True

/-- A live lease excludes other workers, whatever call comes when. -/
def Exclusive (expiry : S.Env → GoTime → GoTime) (start : Workers S) (acts : List (Act S)) : Prop :=
  ∀ early act late, acts = early ++ act :: late → Excluded (early.foldl (Workers.step expiry) start) act

/-- The claim at a place is completed while no other claim of its task is running. -/
def aloneAt (workers : Workers S) (place : Nat) : Prop :=
  ∀ held, workers.held[place]? = some held → held.completed = false →
    ∀ elsewhere other, elsewhere ≠ place → workers.held[elsewhere]? = some other →
      other.tenant = held.tenant → other.task = held.task → ¬ other.running workers.clock

def Alone (workers : Workers S) : Act S → Prop
  | .fire place _ _ => aloneAt workers place
  | .finish place _ _ => aloneAt workers place
  | _ => True

/-! ## What a store does to leases -/

/-- How the operations of a store treat the lease of a task. -/
structure Leasing (S : Store) where
  expiry : S.Env → GoTime → GoTime
  /-- The lease that stands in a task. -/
  leased : S.State → S.Tenant → S.TaskId → GoTime → Prop
  claims : ∀ {env tenant owner now limit store store' claims},
    S.claimDue env tenant owner now limit store = .ok (store', claims) →
      (∀ claim ∈ claims, leased store' tenant claim.taskId (expiry env now) ∧
        ∀ until_, leased store tenant claim.taskId until_ → until_ ≤ now) ∧
      ∀ t i until_, leased store t i until_ → now < until_ → leased store' t i until_
  fires : ∀ {env tenant plan store store' id}, S.fire env tenant plan store = .ok (store', id) →
    ∀ t i until_, (t ≠ tenant ∨ i ≠ plan.taskId) → leased store t i until_ → leased store' t i until_
  finishes : ∀ {env tenant done store store'}, S.finish env tenant done store = .ok store' →
    ∀ t i until_, (t ≠ tenant ∨ i ≠ done.taskId) → leased store t i until_ → leased store' t i until_
  creates : ∀ {env tenant task store store' id}, S.create env tenant task store = .ok (store', id) →
    ∀ t i until_, leased store t i until_ → leased store' t i until_
  edits : ∀ {env tenant task edit store store'}, S.update env tenant task edit store = .ok store' →
    ∀ t i until_, leased store t i until_ → leased store' t i until_

variable {L : Leasing S} {workers : Workers S}

/-- The lease of every running claim stands in its task. -/
def Backed (L : Leasing S) (workers : Workers S) : Prop :=
  ∀ held ∈ workers.held, held.running workers.clock →
    L.leased workers.store held.tenant held.task held.expires

theorem Backed.of_store {store : S.State} (backed : Backed L workers)
    (kept : ∀ t i until_, L.leased workers.store t i until_ → L.leased store t i until_) :
    Backed L { workers with store := store } :=
  fun held member running => kept _ _ _ (backed held member running)

theorem Backed.complete {place : Nat} {store : S.State} {held : Held S} (backed : Backed L workers)
    (found : workers.held[place]? = some held) (open_ : held.completed = false)
    (alone : aloneAt workers place)
    (kept : ∀ t i until_, (t ≠ held.tenant ∨ i ≠ held.task) → L.leased workers.store t i until_ →
      L.leased store t i until_) :
    Backed L (workers.complete place store) := by
  intro other member running
  rcases Calls.mem_moved member with ⟨elsewhere, differs, there⟩ | ⟨old, _, rfl⟩
  · refine kept _ _ _ ?_ (backed other (List.mem_of_getElem? there) running)
    by_contra same
    simp only [not_or, not_not] at same
    exact alone held found open_ elsewhere other differs there same.1 same.2 running
  · cases running.1

theorem step_backed (backed : Backed L workers) (act : Act S) (alone : Alone workers act) :
    Backed L (workers.step L.expiry act) := by
  cases act with
  | wait span =>
    intro held member running
    refine backed held member ⟨running.1, lt_of_le_of_lt ?_ running.2⟩
    exact Int.le_add_of_nonneg_right (Int.natCast_nonneg span)
  | create env tenant task =>
    simp only [Workers.step]
    cases made : S.create env tenant task workers.store with
    | error err => exact backed
    | ok result => exact backed.of_store (L.creates made)
  | update env tenant task edit =>
    simp only [Workers.step]
    cases made : S.update env tenant task edit workers.store with
    | error err => exact backed
    | ok store => exact backed.of_store (L.edits made)
  | claimDue env tenant owner limit =>
    simp only [Workers.step]
    cases made : S.claimDue env tenant owner workers.clock limit workers.store with
    | error err => exact backed
    | ok result =>
      obtain ⟨taken, kept⟩ := L.claims made
      intro held member running
      rcases List.mem_append.mp member with old | new
      · exact kept _ _ _ (backed held old running) running.2
      · obtain ⟨claim, inClaims, rfl⟩ := List.mem_map.mp new
        exact (taken claim inClaims).1
  | fire place env plan =>
    simp only [Workers.step]
    cases found : workers.held[place]? with
    | none => exact backed
    | some held =>
      by_cases over_ : held.completed = true
      · simpa only [over_, if_true] using backed
      · simp only [over_]
        cases made : S.fire env held.tenant { plan with taskId := held.task } workers.store with
        | error err => exact backed
        | ok result => exact backed.complete found (Bool.not_eq_true _ ▸ over_) alone (L.fires made)
  | finish place env done =>
    simp only [Workers.step]
    cases found : workers.held[place]? with
    | none => exact backed
    | some held =>
      by_cases over_ : held.completed = true
      · simpa only [over_, if_true] using backed
      · simp only [over_]
        cases made : S.finish env held.tenant { done with taskId := held.task } workers.store with
        | error err => exact backed
        | ok store => exact backed.complete found (Bool.not_eq_true _ ▸ over_) alone (L.finishes made)

/-- A claim finds the task free, so no backed lease on it is running. -/
theorem Backed.excluded (backed : Backed L workers) (act : Act S) : Excluded workers act := by
  cases act with
  | claimDue env tenant owner limit =>
    intro store claims made claim member held inHeld sameTenant sameTask _ running
    subst sameTenant
    have stands := backed held inHeld running
    rw [sameTask] at stands
    exact absurd running.2 (not_lt.mpr (((L.claims made).1 claim member).2 _ stands))
  | _ => trivial

theorem exclusive_of_alone (L : Leasing S) (start : Workers S) (idle : start.held = []) (acts : List (Act S))
    (alone : Guarded (Workers.step L.expiry) Alone start acts) : Exclusive L.expiry start acts := by
  rintro early act late rfl
  have fresh : Backed L start := by
    intro held member
    rw [idle] at member
    cases member
  have once : ∀ workers act, Backed L workers → Alone workers act → Backed L (workers.step L.expiry act) :=
    fun _ act backed alone => step_backed backed act alone
  exact (foldl_guarded once start fresh early (guarded_append.mp alone).1).excluded act

end Workers

/-! ## The database -/

section Sql

open VodogeCloud.Source.ScheduledTasks VodogeCloud.Guarantees.ScheduleStores

variable {db db' : ScheduleDb}

/-- `p_now + p_lease`, in nanoseconds. -/
def sqlExpiry (env : Env) (now : GoTime) : GoTime := (micros now + env.lease) * 1000

/-- `lease_expires_at` of a task, in nanoseconds. -/
def sqlLeased (db : ScheduleDb) (tenant task : Uuid) (until_ : GoTime) : Prop :=
  ∃ row ∈ db.tasks, row.tenantId = tenant ∧ row.id = task ∧ ∃ at_, row.leaseExpiresAt = some at_ ∧ until_ = at_ * 1000

theorem mem_updateTasks {hit : TaskRow → Bool} {change : TaskRow → TaskRow}
    {keeps : ∀ row, (change row).identity = row.identity}
    {forward : ∀ row, row.lastOccurrence ≤ (change row).lastOccurrence}
    {shape : ∀ row, row.leaseShape = true → (change row).leaseShape = true} {row : TaskRow} :
    row ∈ (db.updateTasks hit change keeps forward shape).tasks ↔
      ∃ old ∈ db.tasks, row = if hit old then change old else old :=
  @Table.mem_update _ _ TaskRow.id db.tasks hit change (fun row => congrArg Prod.fst (keeps row)) row

/-- An UPDATE that spares the lease of the task. -/
theorem sqlLeased_updateTasks {hit : TaskRow → Bool} {change : TaskRow → TaskRow}
    {keeps : ∀ row, (change row).identity = row.identity}
    {forward : ∀ row, row.lastOccurrence ≤ (change row).lastOccurrence}
    {shape : ∀ row, row.leaseShape = true → (change row).leaseShape = true} {tenant task : Uuid} {until_ : GoTime}
    (spared : ∀ row at_, row.tenantId = tenant → row.id = task → row.leaseExpiresAt = some at_ →
      until_ = at_ * 1000 → row ∈ db.tasks → hit row = true →
      (change row).leaseExpiresAt = row.leaseExpiresAt)
    (leased : sqlLeased db tenant task until_) :
    sqlLeased (db.updateTasks hit change keeps forward shape) tenant task until_ := by
  obtain ⟨row, member, ofTenant, named, at_, stands, value⟩ := leased
  refine ⟨if hit row then change row else row, mem_updateTasks.mpr ⟨row, member, rfl⟩, ?_⟩
  by_cases reached : hit row = true
  · have same := keeps row
    simp only [TaskRow.identity, Prod.mk.injEq] at same
    rw [if_pos reached, same.1, same.2.1,
      spared row at_ ofTenant named stands value member reached]
    exact ⟨ofTenant, named, at_, stands, value⟩
  · rw [if_neg reached]
    exact ⟨ofTenant, named, at_, stands, value⟩

/-- What a claim writes and returns. -/
theorem claimDueScheduledTasks_ok {tenant : Uuid} {owner : String} {now : Timestamp} {lease limit : Int}
    {locked : TaskRow → Bool} {claims : List (Claim Uuid)}
    (h : claimDueScheduledTasks (some tenant) tenant owner now lease limit locked db = .ok (db', claims)) :
    ∃ ids : List Uuid, (∀ row ∈ db.tasks, ids.contains row.id = true → claimable tenant now row = true) ∧
      db' = db.updateTasks (fun row => ids.contains row.id) (leaseRow owner (now + lease)) (fun _ => rfl)
        (fun _ => le_refl _) (fun _ _ => rfl) ∧
      ∀ claim ∈ claims, ∃ row ∈ db.tasks, ids.contains row.id = true ∧ claim.taskId = row.id := by
  obtain ⟨_, _, h⟩ := bind_success h
  split at h
  · cases h
  · split at h
    · cases h
    · obtain ⟨until_, ranged, h⟩ := bind_success h
      obtain ⟨mapped, each, h⟩ := bind_success h
      cases h
      rw [timestamptz_ok ranged]
      refine ⟨_, fun row member taken => takeInOrder_filter member taken, rfl, fun claim member => ?_⟩
      obtain ⟨row, inFilter, claimed⟩ := mapM_claimOf each claim member
      obtain ⟨inTable, taken⟩ := List.mem_filter.mp inFilter
      obtain ⟨_, _, claimed⟩ := bind_success claimed
      cases claimed
      exact ⟨row, inTable, taken, rfl⟩

/-- A claimable task is not leased any more. -/
theorem lapsed_of_claimable {tenant : Uuid} {now : GoTime} {row : TaskRow} {at_ : Timestamp}
    (free : claimable tenant (micros now) row = true) (stands : row.leaseExpiresAt = some at_) :
    at_ * 1000 ≤ now := by
  simp only [claimable, Bool.and_eq_true, decide_eq_true_eq, stands, Option.all_some] at free
  exact (Int.le_ediv_iff_mul_le (by decide)).mp free.1.2

theorem sqlLeased_finish {tenant task : Uuid} {occurrence : Option Int} {status : RunStatus}
    {commandId : Option Uuid} {now : Timestamp} {done : Bool}
    (h : finishScheduledTask (some tenant) tenant task occurrence status commandId now db = .ok (db', done))
    (t i : Uuid) (until_ : GoTime) (other : t ≠ tenant ∨ i ≠ task) (leased : sqlLeased db t i until_) :
    sqlLeased db' t i until_ := by
  obtain ⟨_, _, h⟩ := bind_success h
  cases h
  refine sqlLeased_updateTasks (fun row _ ofTenant named _ _ _ hit => ?_) leased
  simp only [taskOf, Bool.and_eq_true, decide_eq_true_eq] at hit
  rcases other with differs | differs
  · exact absurd (ofTenant.symm.trans hit.1) differs
  · exact absurd (named.symm.trans hit.2) differs

theorem sqlLeased_fire {env : Env} {tenant : Uuid} {plan : Plan Uuid} {id : Uuid}
    (h : fire env tenant plan db = .ok (db', id)) (t i : Uuid) (until_ : GoTime)
    (other : t ≠ tenant ∨ i ≠ plan.taskId) (leased : sqlLeased db t i until_) : sqlLeased db' t i until_ := by
  obtain ⟨_, _, h⟩ := bind_success h
  obtain ⟨_, _, h⟩ := bind_success h
  obtain ⟨_, _, h⟩ := bind_success h
  obtain ⟨_, _, h⟩ := bind_success h
  obtain ⟨⟨commands, _⟩, _, h⟩ := bind_success h
  obtain ⟨⟨booked, _⟩, finished, h⟩ := bind_success h
  cases h
  -- the tasks are the same beside the new command
  have same : sqlLeased { db with commands := commands } t i until_ := leased
  exact sqlLeased_finish finished t i until_ other same

theorem sqlLeased_create {env : Env} {tenant : Uuid} {task : NewTask} {id : Uuid}
    (h : create env tenant task db = .ok (db', id)) (t i : Uuid) (until_ : GoTime)
    (leased : sqlLeased db t i until_) : sqlLeased db' t i until_ := by
  obtain ⟨_, _, h⟩ := bind_success h
  obtain ⟨_, _, h⟩ := bind_success h
  obtain ⟨_, _, h⟩ := bind_success h
  obtain ⟨_, inserted, h⟩ := bind_success h
  cases h
  obtain ⟨row, member, facts⟩ := leased
  exact ⟨row, ((insertTask_ok inserted).2.2.2 row).mpr (Or.inl member), facts⟩

theorem sqlLeased_update {env : Env} {tenant task : Uuid} {edit : Edit} (h : update env tenant task edit db = .ok db')
    (t i : Uuid) (until_ : GoTime) (leased : sqlLeased db t i until_) : sqlLeased db' t i until_ := by
  unfold update at h
  split at h
  · cases h
  · split at h
    · cases h
    · cases h
      exact sqlLeased_updateTasks (fun _ _ _ _ _ _ _ _ => rfl) leased

theorem sqlLeased_claimDue {tenant : Uuid} {owner : String} {now : GoTime} {lease limit : Int}
    {locked : TaskRow → Bool} {claims : List (Claim Uuid)}
    (h : claimDueScheduledTasks (some tenant) tenant owner (micros now) lease limit locked db = .ok (db', claims)) :
    (∀ claim ∈ claims, sqlLeased db' tenant claim.taskId ((micros now + lease) * 1000) ∧
      ∀ until_, sqlLeased db tenant claim.taskId until_ → until_ ≤ now) ∧
    ∀ t i until_, sqlLeased db t i until_ → now < until_ → sqlLeased db' t i until_ := by
  obtain ⟨ids, free, rfl, taken⟩ := claimDueScheduledTasks_ok h
  refine ⟨fun claim member => ?_, fun t i until_ leased live => ?_⟩
  · obtain ⟨row, inTable, hit, named⟩ := taken claim member
    have mine := free row inTable hit
    constructor
    · refine ⟨leaseRow owner (micros now + lease) row, ?_, ?_, named.symm, _, rfl, rfl⟩
      · exact mem_updateTasks.mpr ⟨row, inTable, (if_pos hit).symm⟩
      · simp only [claimable, Bool.and_eq_true, decide_eq_true_eq] at mine
        exact mine.1.1.1
    · rintro until_ ⟨other, inOther, _, sameId, at_, stands, rfl⟩
      rw [Table.eq_of_key inOther inTable (sameId.trans named)] at stands
      exact lapsed_of_claimable mine stands
  · refine sqlLeased_updateTasks (fun row at_ _ _ stands value inTable hit => ?_) leased
    exact absurd live (not_lt.mpr (value ▸ lapsed_of_claimable (free row inTable hit) stands))

def sqlLeasing : Leasing sql where
  expiry := sqlExpiry
  leased := sqlLeased
  claims := by
    intro env tenant owner now limit db db' claims h
    simp only [sql] at h
    split at h
    · next result made =>
      cases h
      obtain ⟨moment, ranged, made⟩ := bind_success made
      obtain rfl := timestamptz_ok ranged
      exact sqlLeased_claimDue made
    · cases h
  fires := by
    intro env tenant plan db db' id h
    simp only [sql] at h
    split at h
    · next fired command made =>
      cases h
      exact sqlLeased_fire made
    · cases h
  finishes := by
    intro env tenant done db db' h
    simp only [sql] at h
    split at h
    · next finished _ made =>
      cases h
      exact sqlLeased_finish made
    · cases h
  creates := by
    intro env tenant task db db' id h
    simp only [sql] at h
    split at h
    · cases h
    · split at h
      · next made =>
        cases h
        exact sqlLeased_create made
      · cases h
  edits := by
    intro env tenant task edit db db' h
    simp only [sql] at h
    split at h
    · next made =>
      cases h
      exact sqlLeased_update made
    · cases h

end Sql

/-! ## The store in memory -/

section InMemory

open VodogeCloud.Source.ScheduleMemory

variable {store store' : Memory}

/-- `now.Add(lease)`. -/
def memoryExpiry (env : Env) (now : GoTime) : GoTime := now + env.lease

def memoryLeased (store : Memory) (tenant task : String) (until_ : GoTime) : Prop :=
  ∃ row ∈ store.tasks tenant, row.id = task ∧ row.leaseUntil = until_

/-- A change that spares the lease of the task. -/
theorem memoryLeased_modify {tenant : String} {ids : List String} {change : MemoryTask → MemoryTask}
    {keeps : ∀ task, (change task).identity = task.identity}
    {forward : ∀ task, task.lastOccurrence ≤ (change task).lastOccurrence} {t i : String} {until_ : GoTime}
    (spared : ∀ row, t = tenant → row ∈ store.tasks tenant → row.id = i → row.leaseUntil = until_ →
      ids.contains row.id = true → (change row).leaseUntil = row.leaseUntil)
    (leased : memoryLeased store t i until_) :
    memoryLeased (store.modify tenant ids change keeps forward) t i until_ := by
  obtain ⟨row, member, named, stands⟩ := leased
  unfold memoryLeased Memory.modify
  dsimp only
  by_cases mine : t = tenant
  · subst mine
    rw [Function.update_self]
    refine ⟨_, Table.mem_update.mpr ⟨row, member, rfl⟩, ?_⟩
    by_cases hit : ids.contains row.id = true
    · have same := keeps row
      simp only [MemoryTask.identity, Prod.mk.injEq] at same
      rw [if_pos hit, same.1, spared row rfl member named stands hit]
      exact ⟨named, stands⟩
    · rw [if_neg hit]
      exact ⟨named, stands⟩
  · rw [Function.update_of_ne mine]
    exact ⟨row, member, named, stands⟩

/-- A change of one task leaves the leases of the others. -/
theorem memoryLeased_one {tenant task : String} {change : MemoryTask → MemoryTask}
    {keeps : ∀ task, (change task).identity = task.identity}
    {forward : ∀ task, task.lastOccurrence ≤ (change task).lastOccurrence} (t i : String) (until_ : GoTime)
    (other : t ≠ tenant ∨ i ≠ task) (leased : memoryLeased store t i until_) :
    memoryLeased (store.modify tenant [task] change keeps forward) t i until_ := by
  refine memoryLeased_modify (fun row mine _ named _ hit => ?_) leased
  have this : row.id = task := by simpa using hit
  rcases other with differs | differs
  · exact absurd mine differs
  · exact absurd (named.symm.trans this) differs

/-- A task is claimed when nobody leases it. -/
theorem lapsed_of_taken {tenant : String} {now : GoTime} {limit : Int} {row : MemoryTask}
    (member : row ∈ store.tasks tenant)
    (hit : ((taken store tenant now limit).map MemoryTask.id).contains row.id = true) : row.leaseUntil ≤ now := by
  obtain ⟨task, listed, same⟩ := List.mem_map.mp (List.contains_iff_mem.mp hit)
  obtain ⟨inTable, owes⟩ := List.mem_filter.mp (List.mem_of_mem_take listed)
  simp only [eligible, Bool.and_eq_true, decide_eq_true_eq] at owes
  rw [Table.eq_of_key member inTable same.symm]
  exact owes.1.2

theorem memoryLeased_claimDue {tenant owner : String} {now : GoTime} {lease limit : Int} :
    (∀ claim ∈ (claimDue tenant owner now lease limit store).2,
      memoryLeased (claimDue tenant owner now lease limit store).1 tenant claim.taskId (now + lease) ∧
        ∀ until_, memoryLeased store tenant claim.taskId until_ → until_ ≤ now) ∧
    ∀ t i until_, memoryLeased store t i until_ → now < until_ →
      memoryLeased (claimDue tenant owner now lease limit store).1 t i until_ := by
  refine ⟨fun claim member => ?_, fun t i until_ leased live => ?_⟩
  · obtain ⟨task, listed, rfl⟩ := List.mem_map.mp member
    obtain ⟨inTable, _⟩ := List.mem_filter.mp (List.mem_of_mem_take listed)
    have hit : ((taken store tenant now limit).map MemoryTask.id).contains task.id = true :=
      List.contains_iff_mem.mpr (List.mem_map.mpr ⟨task, listed, rfl⟩)
    constructor
    · refine ⟨leaseTask owner (now + lease) task, ?_, rfl, rfl⟩
      unfold claimDue Memory.modify
      dsimp only
      rw [Function.update_self]
      exact Table.mem_update.mpr ⟨task, inTable, (if_pos hit).symm⟩
    · rintro until_ ⟨row, inRow, sameId, rfl⟩
      rw [Table.eq_of_key inRow inTable sameId]
      exact lapsed_of_taken inTable hit
  · refine @memoryLeased_modify store tenant ((taken store tenant now limit).map MemoryTask.id)
      (leaseTask owner (now + lease)) (fun _ => rfl) (fun _ => le_refl _) t i until_
      (fun row _ member _ stands hit => ?_) leased
    exact absurd live (not_lt.mpr (stands ▸ lapsed_of_taken member hit))

theorem memoryLeased_fire {same : Json → Json → Bool} {tenant : String} {plan : Plan String} {id : String}
    (h : fire same tenant plan store = .ok (store', id)) (t i : String) (until_ : GoTime)
    (other : t ≠ tenant ∨ i ≠ plan.taskId) (leased : memoryLeased store t i until_) :
    memoryLeased store' t i until_ := by
  unfold fire at h
  split at h
  · split at h
    · cases h
    · cases h
      exact memoryLeased_one t i until_ other leased
  · dsimp only at h
    cases h
    exact @memoryLeased_one (bindKey tenant plan _ store) tenant plan.taskId (advanceTask plan.occurrence _)
      (fun _ => rfl) (fun _ => le_raised _ _) t i until_ other leased

theorem memoryLeased_create {tenant : String} {task : NewTask} {now : GoTime} {id : String}
    {interval : 60 ≤ task.intervalSeconds ∧ task.intervalSeconds ≤ 604800}
    (h : create tenant task interval now store = .ok (store', id)) (t i : String) (until_ : GoTime)
    (leased : memoryLeased store t i until_) : memoryLeased store' t i until_ := by
  unfold create at h
  split at h
  · cases h
  · cases h
    obtain ⟨row, member, facts⟩ := leased
    unfold memoryLeased
    dsimp only
    by_cases mine : t = tenant
    · subst mine
      rw [Function.update_self]
      exact ⟨row, Table.mem_insert.mpr (Or.inl member), facts⟩
    · rw [Function.update_of_ne mine]
      exact ⟨row, member, facts⟩

theorem memoryLeased_update {fields : NewTask → Option String} {tenant task : String} {edit : Edit} {now : GoTime}
    (h : update fields tenant task edit now store = .ok store') (t i : String) (until_ : GoTime)
    (leased : memoryLeased store t i until_) : memoryLeased store' t i until_ := by
  unfold update at h
  split at h
  · cases h
  · split at h
    · cases h
    · cases h
      exact memoryLeased_modify (fun _ _ _ _ _ _ => rfl) leased

def memoryLeasing : Leasing memory where
  expiry := memoryExpiry
  leased := memoryLeased
  claims := by
    intro env tenant owner now limit store store' claims h
    cases h
    exact memoryLeased_claimDue
  fires := by
    intro env tenant plan store store' id h
    exact memoryLeased_fire h
  finishes := by
    intro env tenant done store store' h
    cases h
    exact memoryLeased_one
  creates := by
    intro env tenant task store store' id h
    simp only [memory] at h
    split at h
    · cases h
    · exact memoryLeased_create h
  edits := by
    intro env tenant task edit store store' h
    exact memoryLeased_update h

end InMemory

/-! ## Runs on both stores -/

open VodogeCloud.Source.ScheduledTasks (sql)
open VodogeCloud.Source.ScheduleMemory (memory)

/-- On both stores a live lease excludes other workers in every run that completes no claim
while another claim of its task is running. -/
theorem live_lease_excludes (database : Workers sql) (process : Workers memory) :
    (database.held = [] → ∀ acts, Guarded (Workers.step sqlExpiry) Alone database acts →
      Exclusive sqlExpiry database acts) ∧
    (process.held = [] → ∀ acts, Guarded (Workers.step memoryExpiry) Alone process acts →
      Exclusive memoryExpiry process acts) :=
  ⟨fun idle acts alone => exclusive_of_alone sqlLeasing database idle acts alone,
    fun idle acts alone => exclusive_of_alone memoryLeasing process idle acts alone⟩

/-- A worker alone on the store is alone on its task. -/
theorem aloneAt_of_length {S : Store} {workers : Workers S} (single : workers.held.length = 1) :
    aloneAt workers 0 := by
  intro _ _ _ elsewhere other differs there
  have inside := (List.getElem?_eq_some_iff.mp there).1
  omega

/-- A task that sends every minute. -/
def everyMinute : NewTask :=
  ⟨"keepalive", true, .command, "send_sms", ⟨"card", "", "8986", ""⟩, .obj [], 60, some 0⟩

/-- A minute's lease, and an anchor at the epoch. -/
def sqlEnv : ScheduledTasks.Env :=
  ⟨0, 0, 60000000, fun _ => false, fun _ _ => true, 7, 8, 1, fun _ => none⟩

def memoryEnv : ScheduleMemory.Env := ⟨0, 60000000000, fun _ _ => true, fun _ => none⟩

def freshDatabase : Workers sql := ⟨ScheduleStores.emptyDb, 0, []⟩

def freshProcess : Workers memory := ⟨ScheduleStores.newMemory, 0, []⟩

section Handovers

variable {S : Store}

/-- The first worker completes in time and another one takes over. -/
def inTurn (env : S.Env) (tenant : S.Tenant) (task : S.TaskId) : List (Act S) :=
  [.create env tenant everyMinute, .wait 60000000000, .claimDue env tenant "first" 32, .wait 30000000000,
    .finish 0 env ⟨task, some 1, .checked⟩, .wait 30000000000, .claimDue env tenant "second" 32]

/-- The first worker completes after the second one has taken over. -/
def lateFinish (env : S.Env) (tenant : S.Tenant) (task : S.TaskId) : List (Act S) :=
  [.create env tenant everyMinute, .wait 60000000000, .claimDue env tenant "first" 32, .wait 60000000000,
    .claimDue env tenant "second" 32, .finish 0 env ⟨task, none, .prepareFailed⟩]

/-- A claim of a task that another worker is still holding. -/
def overlaps [DecidableEq S.Tenant] [DecidableEq S.TaskId] (workers : Workers S) (env : S.Env) (tenant : S.Tenant)
    (owner : String) (limit : Int) : Bool :=
  match S.claimDue env tenant owner workers.clock limit workers.store with
  | .ok (_, claims) => claims.any fun claim => workers.held.any fun held =>
      held.tenant = tenant && held.task = claim.taskId && held.owner ≠ owner && !held.completed &&
        workers.clock < held.expires
  | .error _ => false

theorem not_excluded_of_overlaps [DecidableEq S.Tenant] [DecidableEq S.TaskId] {workers : Workers S} {env : S.Env}
    {tenant : S.Tenant} {owner : String} {limit : Int} (both : overlaps workers env tenant owner limit = true) :
    ¬ Excluded workers (.claimDue env tenant owner limit) := by
  intro excluded
  unfold overlaps at both
  cases made : S.claimDue env tenant owner workers.clock limit workers.store with
  | error err =>
    rw [made] at both
    cases both
  | ok result =>
    obtain ⟨store, claims⟩ := result
    simp only [made, List.any_eq_true, Bool.and_eq_true, decide_eq_true_eq, Bool.not_eq_true'] at both
    obtain ⟨claim, member, held, inHeld, ⟨⟨⟨sameTenant, sameTask⟩, another⟩, open_⟩, live⟩ := both
    exact excluded store claims made claim member held inHeld sameTenant sameTask another ⟨open_, live⟩

end Handovers

instance : DecidableEq sql.Tenant := inferInstanceAs (DecidableEq Uuid)
instance : DecidableEq sql.TaskId := inferInstanceAs (DecidableEq Uuid)
instance : DecidableEq memory.Tenant := inferInstanceAs (DecidableEq String)
instance : DecidableEq memory.TaskId := inferInstanceAs (DecidableEq String)

/-- Two workers in turn on each store, the second after the first has completed. -/
theorem two_workers_in_turn :
    Exclusive sqlExpiry freshDatabase (inTurn sqlEnv (1 : Uuid) (7 : Uuid)) ∧
      Exclusive memoryExpiry freshProcess (inTurn memoryEnv "tenant" "task-1") := by
  have stages := live_lease_excludes freshDatabase freshProcess
  constructor
  · refine stages.1 rfl _ ⟨trivial, trivial, trivial, trivial, aloneAt_of_length ?_, trivial, trivial, trivial⟩
    decide
  · refine stages.2 rfl _ ⟨trivial, trivial, trivial, trivial, aloneAt_of_length ?_, trivial, trivial, trivial⟩
    decide

/-- A third worker claims the task under the second one's running lease. -/
theorem late_finish_frees_another_lease :
    ¬ Exclusive sqlExpiry freshDatabase
        (lateFinish sqlEnv (1 : Uuid) (7 : Uuid) ++ [.claimDue sqlEnv (1 : Uuid) "third" 32]) ∧
      ¬ Exclusive memoryExpiry freshProcess
        (lateFinish memoryEnv "tenant" "task-1" ++ [.claimDue memoryEnv "tenant" "third" 32]) := by
  constructor
  · intro exclusive
    refine not_excluded_of_overlaps ?_ (exclusive (lateFinish sqlEnv (1 : Uuid) (7 : Uuid)) _ [] rfl)
    decide
  · intro exclusive
    refine not_excluded_of_overlaps ?_ (exclusive (lateFinish memoryEnv "tenant" "task-1") _ [] rfl)
    decide

end VodogeCloud.Guarantees.LeaseExclusion
