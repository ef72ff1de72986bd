import Mathlib
import VodogeCloud.Guarantees.ScheduleStores

/-!
# A schedule never sends twice

Leases give no exclusion: a stalled worker may come back at any time. What keeps
an occurrence from becoming two commands is its key. A key names the task, the
task names the tenant, and within a tenant a key is unique.
-/

set_option autoImplicit false

namespace VodogeCloud.Guarantees.ScheduleOnce

open VodogeCloud.Lib VodogeCloud.Lib.Transactions VodogeCloud.Source.Postgres
open VodogeCloud.Source.CommandTables VodogeCloud.Source.Schedule
open VodogeCloud.Source.ScheduledTasks
open VodogeCloud.Guarantees.ScheduleMarks VodogeCloud.Guarantees.ScheduleStores

/-- A key names one task and one occurrence. -/
theorem idempotencyKey_injective {a b : Uuid} {m n : Int}
    (h : idempotencyKey (uuidOut a) m = idempotencyKey (uuidOut b) n) : a = b ∧ m = n := by
  have lists := congrArg String.toList h
  simp only [idempotencyKey, String.toList_append] at lists
  have lengths : ("schedule:".toList ++ (uuidOut a).toList ++ ":".toList).length =
      ("schedule:".toList ++ (uuidOut b).toList ++ ":".toList).length := by
    simp only [List.length_append, uuidOut_length]
  obtain ⟨heads, numbers⟩ := List.append_inj lists lengths
  have tasks := List.append_cancel_left (List.append_cancel_right heads)
  exact ⟨uuidOut_injective (String.toList_inj.mp tasks),
    Int.repr_injective (String.toList_inj.mp numbers)⟩

theorem idempotencyKey_prefix (task : String) (n : Int) :
    startsWith (idempotencyKey task n) "schedule:" = true := by
  simp only [startsWith, idempotencyKey, String.toList_append, decide_eq_true_eq, List.append_assoc]
  exact List.prefix_append _ _

/-! ## The owner of a key -/

/-- A command with a scheduled key belongs to the tenant of the task it names. -/
def Keyed (db : ScheduleDb) : Prop :=
  ∀ command ∈ db.commands.commands, ∀ id n,
    command.idempotencyKey = idempotencyKey (uuidOut id) n →
      (sqlTask db command.tenantId id).isSome = true

section Steps

variable {db db' : ScheduleDb} {system : System sql}

theorem Keyed.grows (keyed : Keyed db) (grows : Grows sqlLawful db db')
    (commands : db'.commands = db.commands) : Keyed db' := by
  intro command member id n key
  rw [commands] at member
  obtain ⟨view, found⟩ := Option.isSome_iff_exists.mp (keyed command member id n key)
  obtain ⟨view', found', _⟩ := grows.tasks found
  exact Option.isSome_iff_exists.mpr ⟨view', found'⟩

/-- Firing adds at most one command, under the key of the claimed occurrence. -/
theorem Keyed.fire {work : Work sql} {plan : Plan Uuid} {env : Env} {commandId : String}
    (keyed : Keyed db) (sound : Sound sqlLawful db work) (plans : planned work plan)
    (fired : sql.fire env work.tenant plan db = .ok (db', commandId)) :
    Keyed db' ∧ ∀ command ∈ db.commands.commands, command ∈ db'.commands.commands := by
  have grows : Grows sqlLawful db db' := fire_grows fired
  simp only [sql] at fired
  split at fired
  · next done =>
    cases fired
    obtain ⟨_, _, kept, _, only⟩ := fire_effect done
    refine ⟨fun command member id n key => ?_, kept⟩
    rcases only command member with old | ⟨sameTenant, sameKey⟩
    · obtain ⟨view, found⟩ := Option.isSome_iff_exists.mp (keyed command old id n key)
      obtain ⟨view', found', _⟩ := grows.tasks found
      exact Option.isSome_iff_exists.mpr ⟨view', found'⟩
    · obtain ⟨_, _, planKey⟩ := plans
      have names := idempotencyKey_injective ((key.symm.trans sameKey).trans planKey)
      obtain ⟨view, found, _⟩ := sound.view
      obtain ⟨view', found', _⟩ := grows.tasks found
      rw [sameTenant, names.1]
      exact Option.isSome_iff_exists.mpr ⟨view', found'⟩
  · cases fired

theorem claimStep_commands (env : Env) (tenant : Uuid) (owner : String) (now : GoTime) (limit : Int)
    (delivery : Delivery) :
    (claimStep system env tenant owner now limit delivery).store.commands = system.store.commands := by
  have claimed : ∀ {store claims}, sql.claimDue env tenant owner now limit system.store =
      .ok (store, claims) → store.commands = system.store.commands := by
    intro store claims h
    simp only [sql] at h
    split at h
    · next done =>
      cases h
      obtain ⟨_, _, done⟩ := bind_success done
      exact (claimDue_effect done).2.1
    · cases h
  unfold claimStep
  split
  · rfl
  · split
    · next done => exact claimed done
    · rfl
  · split
    · next done => exact claimed done
    · rfl

theorem finishStep_commands (index : Nat) (work : Work sql) (done : Completion Uuid) (env : Env)
    (delivery : Delivery) :
    (finishStep system index work done env delivery).store.commands = system.store.commands := by
  unfold finishStep
  split
  · rfl
  · split
    · next finished =>
      simp only [sql] at finished
      split at finished
      · next booked =>
        cases finished
        exact (finishScheduledTask_effect booked).2.2
      · cases finished
    · rfl

theorem fireStep_keyed {work : Work sql} {plan : Plan Uuid} (index : Nat)
    (keyed : Keyed system.store) (sound : Sound sqlLawful system.store work)
    (plans : planned work plan) (env : Env) (delivery : Delivery) :
    Keyed (fireStep system index work plan env delivery).store ∧
      ∀ command ∈ system.store.commands.commands,
        command ∈ (fireStep system index work plan env delivery).store.commands.commands := by
  unfold fireStep
  split
  · exact ⟨keyed, fun _ member => member⟩
  · split
    · next fired => exact keyed.fire sound plans fired
    · exact ⟨keyed, fun _ member => member⟩
    · exact ⟨keyed, fun _ member => member⟩
  · split
    · next fired => exact keyed.fire sound plans fired
    · exact ⟨keyed, fun _ member => member⟩

/-- One event keeps the owners of keys and every command. -/
theorem step_keyed (event : Event sql) (sound : ∀ work ∈ system.works, Sound sqlLawful system.store work)
    (keyed : Keyed system.store) :
    Keyed (system.step event).store ∧
      ∀ command ∈ system.store.commands.commands, command ∈ (system.step event).store.commands.commands := by
  have grows : Grows sqlLawful system.store (system.step event).store := step_grows event
  have still : (system.step event).store.commands = system.store.commands →
      Keyed (system.step event).store ∧ ∀ command ∈ system.store.commands.commands,
        command ∈ (system.step event).store.commands.commands := by
    intro commands
    refine ⟨keyed.grows grows commands, fun command member => ?_⟩
    rwa [commands]
  cases event with
  | create env tenant task =>
    apply still
    simp only [System.step, sql]
    split
    · next created =>
      split at created
      · cases created
      · split at created
        · next done =>
          cases created
          exact (create_effect done).2.2.2
        · cases created
    · rfl
  | update env tenant task edit =>
    apply still
    simp only [System.step, sql]
    split
    · next updated =>
      split at updated
      · next done =>
        cases updated
        exact (update_effect done).2.2
      · cases updated
    · rfl
  | claimDue env tenant owner now limit delivery =>
    exact still (claimStep_commands env tenant owner now limit delivery)
  | prepare index answers =>
    apply still
    simp only [System.step]
    split
    · rfl
    · rfl
  | fire index env delivery =>
    simp only [System.step]
    split
    · next found =>
      have here := sound _ (List.mem_of_getElem? found)
      exact fireStep_keyed index keyed here here.phase env delivery
    · exact ⟨keyed, fun _ member => member⟩
  | finish index env delivery =>
    apply still
    simp only [System.step]
    split
    · exact finishStep_commands index _ _ env delivery
    · rfl
  | crash index => exact still rfl

end Steps

/-! ## Runs -/

/-- Keys and work stay in order over a run, and no command goes away. -/
theorem run_keyed {system : System sql} {past : List (Closing sql)}
    (accounted : Accounted sqlLawful system past) (keyed : Keyed system.store)
    (events : List (Event sql)) :
    Keyed (system.run events).store ∧
      ∀ command ∈ system.store.commands.commands,
        command ∈ (system.run events).store.commands.commands := by
  induction events generalizing system past with
  | nil => exact ⟨keyed, fun _ member => member⟩
  | cons event rest ih =>
    obtain ⟨keyedNext, kept⟩ := step_keyed event accounted.works keyed
    obtain ⟨keyedLast, keptLater⟩ := ih (step_accounted accounted event) keyedNext
    exact ⟨keyedLast, fun command member => keptLater command (kept command member)⟩

/-- A scheduled key has one command. -/
theorem Keyed.unique {db : ScheduleDb} (keyed : Keyed db) {id : Uuid} {n : Int} {a b : CommandRow}
    (memberA : a ∈ db.commands.commands) (memberB : b ∈ db.commands.commands)
    (keyA : a.idempotencyKey = idempotencyKey (uuidOut id) n)
    (keyB : b.idempotencyKey = idempotencyKey (uuidOut id) n) : a = b := by
  obtain ⟨viewA, foundA⟩ := Option.isSome_iff_exists.mp (keyed a memberA id n keyA)
  obtain ⟨viewB, foundB⟩ := Option.isSome_iff_exists.mp (keyed b memberB id n keyB)
  obtain ⟨rowA, inA, tenantA, idA, _⟩ := sqlTask_some foundA
  obtain ⟨rowB, inB, tenantB, idB, _⟩ := sqlTask_some foundB
  have same : rowA = rowB := Table.eq_of_key inA inB (idA.trans idB.symm)
  refine db.commands.valid.idempotencyKey a memberA b memberB ?_ (keyA.trans keyB.symm)
  rw [← tenantA, ← tenantB, same]

/-- Over every run of runners and edits an occurrence has at most one command, no
command goes away, and a command that was fired left the mark at its occurrence
or beyond. -/
theorem schedule_never_sends_twice (start : System sql) (idle : start.works = [])
    (fresh : start.store.tasks.rows = [])
    (unscheduled : ∀ command ∈ start.store.commands.commands,
      startsWith command.idempotencyKey "schedule:" = false)
    (earlier later : List (Event sql)) :
    let middle := start.run earlier
    let final := middle.run later
    (∀ (task : Uuid) (n : Int), ∀ a ∈ final.store.commands.commands,
      ∀ b ∈ final.store.commands.commands,
        a.idempotencyKey = idempotencyKey (uuidOut task) n →
        b.idempotencyKey = idempotencyKey (uuidOut task) n → a = b) ∧
    (∀ command ∈ middle.store.commands.commands, command ∈ final.store.commands.commands) ∧
    (∀ work ∈ final.works, ∀ plan, work.phase = .firing plan →
      plan.idempotencyKey = idempotencyKey (uuidOut plan.taskId) plan.occurrence ∧
      ∀ env store' commandId, sql.fire env work.tenant plan final.store = .ok (store', commandId) →
        ∃ row ∈ store'.tasks, row.id = plan.taskId ∧ row.tenantId = work.tenant ∧
          plan.occurrence ≤ row.lastOccurrence) := by
  intro middle final
  have accounted : Accounted sqlLawful start [] := by
    refine ⟨fun work member => ?_, @fun t i view found => ?_⟩
    · rw [idle] at member
      cases member
    · obtain ⟨row, member, _⟩ := sqlTask_some found
      change row ∈ start.store.tasks.rows at member
      rw [fresh] at member
      cases member
  have keyed : Keyed start.store := by
    intro command member id n key
    have foreign := unscheduled command member
    rw [key, idempotencyKey_prefix] at foreign
    cases foreign
  have accountedMiddle := run_accounted accounted earlier
  obtain ⟨keyedMiddle, _⟩ := run_keyed accounted keyed earlier
  obtain ⟨keyedFinal, kept⟩ := run_keyed accountedMiddle keyedMiddle later
  have accountedFinal := run_accounted accountedMiddle later
  refine ⟨fun task n a memberA b memberB keyA keyB => keyedFinal.unique memberA memberB keyA keyB,
    kept, fun work member plan firing => ?_⟩
  obtain ⟨⟨view, found, next, _⟩, phase⟩ := accountedFinal.works work member
  rw [firing] at phase
  obtain ⟨sameTask, sameOccurrence, key⟩ := phase
  refine ⟨by rw [key, sameTask, sameOccurrence]; rfl, fun env store' commandId fired => ?_⟩
  obtain ⟨_, changed, _⟩ := sqlLawful.fires fired
  rw [sameTask, found] at changed
  obtain ⟨row, inTable, tenant, id, seen⟩ := sqlTask_some changed
  refine ⟨row, inTable, by rw [sameTask, id], tenant, ?_⟩
  have mark := congrArg View.last seen
  simp only [View.advance, rowView] at mark
  omega

theorem schedule_sends_once :
    let sent := (⟨emptyDb, []⟩ : System sql).run scheduledOnce
    sent.store.commands.commands.rows.map CommandRow.idempotencyKey =
        ["schedule:00000000-0000-0000-0000-000000000007:1"] ∧
      ∀ (task : Uuid) (n : Int), ∀ a ∈ sent.store.commands.commands,
        ∀ b ∈ sent.store.commands.commands,
          a.idempotencyKey = idempotencyKey (uuidOut task) n →
          b.idempotencyKey = idempotencyKey (uuidOut task) n → a = b :=
  ⟨by decide,
    (schedule_never_sends_twice ⟨emptyDb, []⟩ rfl rfl (by decide) [] scheduledOnce).1⟩

end VodogeCloud.Guarantees.ScheduleOnce
