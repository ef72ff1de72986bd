import VodogeCloud.Lib.Transactions
import VodogeCloud.Source.Schedule

/-!
# What a schedule's high-water mark stands for

A store is seen through the mark of each task and the keys commands were created
under. `Lawful` says what an operation may do to these two; everything about runs
is proved from it, once for every store. The history of a run lists what moved a
mark besides a command.
-/

set_option autoImplicit false

namespace VodogeCloud.Guarantees.ScheduleMarks

open VodogeCloud.Lib.Transactions VodogeCloud.Source.Schedule

/-- A task as the occurrence grid sees it: `current` is the number of the
occurrence in force at a moment. -/
structure View where
  enabled : Bool
  last : Int
  current : GoTime → Int

/-- The mark after an occurrence was booked. -/
def View.advance (view : View) (occurrence : Option Int) : View :=
  match occurrence with
  | none => view
  | some occurrence => { view with last := max view.last occurrence }

/-- The mark after an edit: re-enabling moves it to the current occurrence. -/
def View.edit (view : View) (enabled : Bool) (at_ : GoTime) : View :=
  { view with
    enabled := enabled
    last := if enabled && !view.enabled then max view.last (view.current at_) else view.last }

/-- What an operation of a store may do to marks and keys. -/
structure Lawful (S : Store) where
  task : S.State → S.Tenant → S.TaskId → Option View
  holds : S.State → S.Tenant → String → Prop
  /-- The moment an edit takes for now. -/
  moment : S.Env → GoTime
  /-- The clock reading is within the range the store computes exactly in. -/
  inRange : S.State → S.Tenant → GoTime → Prop
  claims : ∀ {env tenant owner now limit state state' claims},
    S.claimDue env tenant owner now limit state = .ok (state', claims) →
      (∀ t i, task state' t i = task state t i) ∧ (∀ t k, holds state t k → holds state' t k) ∧
      ∀ claim ∈ claims, (∃ view, task state tenant claim.taskId = some view ∧
        claim.occurrence = view.last + 1 ∧ claim.dueOccurrence = view.current now) ∧
        (inRange state tenant now → stale claim now = true →
          claim.occurrence ≤ claim.dueOccurrence - 1)
  fires : ∀ {env tenant plan state state' id},
    S.fire env tenant plan state = .ok (state', id) →
      (∀ t i, (t ≠ tenant ∨ i ≠ plan.taskId) → task state' t i = task state t i) ∧
      task state' tenant plan.taskId =
        (task state tenant plan.taskId).map (·.advance (some plan.occurrence)) ∧
      (∀ t k, holds state t k → holds state' t k) ∧ holds state' tenant plan.idempotencyKey
  finishes : ∀ {env tenant done state state'},
    S.finish env tenant done state = .ok state' →
      (∀ t i, (t ≠ tenant ∨ i ≠ done.taskId) → task state' t i = task state t i) ∧
      task state' tenant done.taskId = (task state tenant done.taskId).map (·.advance done.occurrence) ∧
      (∀ t k, holds state t k → holds state' t k)
  creates : ∀ {env tenant new state state' id},
    S.create env tenant new state = .ok (state', id) →
      (∀ t i, (t ≠ tenant ∨ i ≠ id) → task state' t i = task state t i) ∧
      task state tenant id = none ∧ (task state' tenant id).isSome = true ∧
      (∀ t k, holds state t k → holds state' t k)
  edits : ∀ {env tenant id edit state state'},
    S.update env tenant id edit state = .ok state' →
      (∀ t i, (t ≠ tenant ∨ i ≠ id) → task state' t i = task state t i) ∧
      (∃ enabled, task state' tenant id = (task state tenant id).map (·.edit enabled (moment env))) ∧
      (∀ t k, holds state t k → holds state' t k)

section History

variable {S : Store}

/-- What moved a mark, or where it started. -/
inductive Closing (S : Store) where
  | created (tenant : S.Tenant) (task : S.TaskId) (mark : Int)
  /-- A run closed one occurrence with a status of its own. -/
  | closed (tenant : S.Tenant) (task : S.TaskId) (status : RunStatus) (occurrence : Int)
  /-- A run skipped a range as stale. -/
  | skipped (tenant : S.Tenant) (task : S.TaskId) (first last : Int)
  /-- A disabled task was enabled when this occurrence was current. -/
  | reenabled (tenant : S.Tenant) (task : S.TaskId) (current : Int)

/-- What a committed completion adds to the history. -/
def closingOf (work : Work S) (done : Completion S.TaskId) : List (Closing S) :=
  match done.occurrence with
  | none => []
  | some occurrence =>
    if done.status = .skippedStale then
      [.skipped work.tenant done.taskId work.claim.occurrence occurrence]
    else [.closed work.tenant done.taskId done.status occurrence]

/-- Only a completion that committed closes anything. -/
def finishClosings (system : System S) (work : Work S) (done : Completion S.TaskId) (env : S.Env)
    (delivery : Delivery) : List (Closing S) :=
  match delivery with
  | .aborted => []
  | _ =>
    match S.finish env work.tenant done system.store with
    | .ok _ => closingOf work done
    | .error _ => []

/-- What an event adds to the history. -/
def closings (L : Lawful S) (system : System S) (event : Event S) : List (Closing S) :=
  match event with
  | .create env tenant task =>
    match S.create env tenant task system.store with
    | .ok (store, id) => (L.task store tenant id).toList.map fun view => .created tenant id view.last
    | .error _ => []
  | .update env tenant task edit =>
    match S.update env tenant task edit system.store, L.task system.store tenant task with
    | .ok store, some view =>
      if (L.task store tenant task).any (·.enabled) && !view.enabled then
        [.reenabled tenant task (view.current (L.moment env))]
      else []
    | _, _ => []
  | .finish index env delivery =>
    match system.works[index]? with
    | some ⟨tenant, claim, now, .finishing done⟩ =>
      finishClosings system ⟨tenant, claim, now, .finishing done⟩ done env delivery
    | _ => []
  | _ => []

/-- The history of a run. -/
def history (L : Lawful S) : System S → List (Event S) → List (Closing S)
  | _, [] => []
  | system, event :: rest => closings L system event ++ history L (system.step event) rest

/-- Why an occurrence lies below the mark. -/
inductive Explained (L : Lawful S) (store : S.State) (past : List (Closing S)) (tenant : S.Tenant)
    (task : S.TaskId) (n : Int) : Prop where
  | issued (held : L.holds store tenant (idempotencyKey (S.text task) n))
  | closed (status : RunStatus) (listed : .closed tenant task status n ∈ past)
      (closes : status = .checked ∨ status = .keyConflict ∨ status = .skippedLimit)
  | skipped (first last : Int) (listed : .skipped tenant task first last ∈ past) (above : first ≤ n)
      (below : n ≤ last)
  | passed (current : Int) (listed : .reenabled tenant task current ∈ past) (below : n ≤ current)

theorem Explained.mono {L : Lawful S} {store store' : S.State} {past past' : List (Closing S)}
    {tenant : S.Tenant} {task : S.TaskId} {n : Int} (h : Explained L store past tenant task n)
    (keys : ∀ t k, L.holds store t k → L.holds store' t k) (longer : ∀ c ∈ past, c ∈ past') :
    Explained L store' past' tenant task n := by
  cases h with
  | issued held => exact .issued (keys _ _ held)
  | closed status listed closes => exact .closed status (longer _ listed) closes
  | skipped first last listed above below => exact .skipped first last (longer _ listed) above below
  | passed current listed below => exact .passed current (longer _ listed) below

end History

/-! ## What holds of the work in progress -/

section Works

variable {S : Store}

/-- A plan carries the key of the occurrence it was claimed for. -/
def planned (work : Work S) (plan : Plan S.TaskId) : Prop :=
  plan.taskId = work.claim.taskId ∧ plan.occurrence = work.claim.occurrence ∧
    plan.idempotencyKey = idempotencyKey (S.text work.claim.taskId) work.claim.occurrence

/-- The three ways a run ends without a command. -/
def concluded (work : Work S) (done : Completion S.TaskId) : Prop :=
  done.taskId = work.claim.taskId ∧
    ((done.occurrence = none ∧ done.status ≠ .skippedStale) ∨
    (done.occurrence = some work.claim.occurrence ∧
      (done.status = .checked ∨ done.status = .keyConflict ∨ done.status = .skippedLimit)) ∨
    (done.occurrence = some (work.claim.dueOccurrence - 1) ∧ done.status = .skippedStale ∧
      stale work.claim work.now = true))

def phased (work : Work S) : Phase S.TaskId → Prop
  | .claimed => True
  | .firing plan => planned work plan
  | .finishing done => concluded work done

/-- The claim is of a task that is there, and of nothing beyond its next occurrence. -/
structure Sound (L : Lawful S) (store : S.State) (work : Work S) : Prop where
  view : ∃ view, L.task store work.tenant work.claim.taskId = some view ∧
    work.claim.occurrence ≤ view.last + 1 ∧ work.claim.dueOccurrence = view.current work.now
  phase : phased work work.phase

theorem runClaim_phased (answers : Answers S.TaskId) (work : Work S) :
    phased work (runClaim S.text answers work.claim work.now) := by
  unfold runClaim
  split
  · next late => exact ⟨rfl, Or.inr (Or.inr ⟨rfl, rfl, late⟩)⟩
  · split
    · exact ⟨rfl, Or.inl ⟨rfl, nofun⟩⟩
    · split
      · unfold checkPublicIp
        split
        · exact ⟨rfl, Or.inl ⟨rfl, nofun⟩⟩
        · exact ⟨rfl, Or.inr (Or.inl ⟨rfl, Or.inl rfl⟩)⟩
      · unfold issueCommand
        split
        · exact ⟨rfl, Or.inl ⟨rfl, nofun⟩⟩
        · split
          · exact ⟨rfl, Or.inr (Or.inl ⟨rfl, Or.inr (Or.inr rfl)⟩)⟩
          · exact ⟨rfl, rfl, rfl⟩

/-- Tasks stay, marks do not go back and keys stay. -/
structure Grows (L : Lawful S) (store store' : S.State) : Prop where
  tasks : ∀ {t i view}, L.task store t i = some view →
    ∃ view', L.task store' t i = some view' ∧ view.last ≤ view'.last ∧ view'.current = view.current
  keys : ∀ t k, L.holds store t k → L.holds store' t k

variable {L : Lawful S}

theorem Grows.refl (store : S.State) : Grows L store store :=
  ⟨fun found => ⟨_, found, le_refl _, rfl⟩, fun _ _ held => held⟩

theorem Grows.trans {a b c : S.State} (first : Grows L a b) (second : Grows L b c) : Grows L a c := by
  refine ⟨fun found => ?_, fun t k held => second.keys t k (first.keys t k held)⟩
  obtain ⟨middle, foundM, leM, sameM⟩ := first.tasks found
  obtain ⟨last, foundL, leL, sameL⟩ := second.tasks foundM
  exact ⟨last, foundL, leM.trans leL, sameL.trans sameM⟩

theorem Grows.of_same {store store' : S.State} (same : ∀ t i, L.task store' t i = L.task store t i)
    (keys : ∀ t k, L.holds store t k → L.holds store' t k) : Grows L store store' :=
  ⟨fun found => ⟨_, (same _ _).trans found, le_refl _, rfl⟩, keys⟩

/-- One task changed, its mark not back. -/
theorem Grows.of_one {store store' : S.State} {tenant : S.Tenant} {id : S.TaskId} {change : View → View}
    (frame : ∀ t i, (t ≠ tenant ∨ i ≠ id) → L.task store' t i = L.task store t i)
    (changed : L.task store' tenant id = (L.task store tenant id).map change)
    (forward : ∀ view, view.last ≤ (change view).last ∧ (change view).current = view.current)
    (keys : ∀ t k, L.holds store t k → L.holds store' t k) : Grows L store store' := by
  refine ⟨@fun t i view found => ?_, keys⟩
  by_cases same : t = tenant ∧ i = id
  · obtain ⟨rfl, rfl⟩ := same
    rw [found] at changed
    exact ⟨change view, changed, forward view⟩
  · rw [not_and_or] at same
    exact ⟨view, (frame t i same).trans found, le_refl _, rfl⟩

theorem View.le_advance (view : View) (occurrence : Option Int) :
    view.last ≤ (view.advance occurrence).last ∧
      (view.advance occurrence).current = view.current := by
  cases occurrence with
  | none => exact ⟨le_refl _, rfl⟩
  | some occurrence => exact ⟨le_max_left _ _, rfl⟩

theorem View.le_edit (view : View) (enabled : Bool) (at_ : GoTime) :
    view.last ≤ (view.edit enabled at_).last ∧ (view.edit enabled at_).current = view.current := by
  refine ⟨?_, rfl⟩
  simp only [View.edit]
  split
  · exact le_max_left _ _
  · exact le_refl _

theorem Sound.grows {store store' : S.State} {work : Work S} (sound : Sound L store work)
    (grows : Grows L store store') : Sound L store' work := by
  obtain ⟨view, found, next, due⟩ := sound.view
  obtain ⟨view', found', forward, same⟩ := grows.tasks found
  exact ⟨⟨view', found', by omega, by rw [due, same]⟩, sound.phase⟩

end Works

/-! ## Steps and runs -/

section Runs

variable {S : Store} {L : Lawful S}

/-- Every piece of work is sound and every occurrence below a mark is explained. -/
structure Accounted (L : Lawful S) (system : System S) (past : List (Closing S)) : Prop where
  works : ∀ work ∈ system.works, Sound L system.store work
  marks : ∀ {t i view}, L.task system.store t i = some view →
    ∃ initial, .created t i initial ∈ past ∧ initial ≤ view.last ∧
      ∀ n, initial < n → n ≤ view.last → Explained L system.store past t i n

/-- What a step has to show about the marks it moved. -/
theorem Accounted.step {system : System S} {past past' : List (Closing S)} {store' : S.State}
    {works' : List (Work S)} (accounted : Accounted L system past)
    (keys : ∀ t k, L.holds system.store t k → L.holds store' t k) (longer : ∀ c ∈ past, c ∈ past')
    (works : ∀ work ∈ works', Sound L store' work)
    (moved : ∀ {t i view'}, L.task store' t i = some view' →
      (∃ view, L.task system.store t i = some view ∧ view.last ≤ view'.last ∧
        ∀ n, view.last < n → n ≤ view'.last → Explained L store' past' t i n) ∨
      .created t i view'.last ∈ past') :
    Accounted L ⟨store', works'⟩ past' := by
  refine ⟨works, @fun t i view' found => ?_⟩
  rcases moved found with ⟨view, before, forward, gained⟩ | created
  · obtain ⟨initial, listed, below, explained⟩ := accounted.marks before
    refine ⟨initial, longer _ listed, below.trans forward, fun n above atMost => ?_⟩
    by_cases old : n ≤ view.last
    · exact (explained n above old).mono keys longer
    · exact gained n (by omega) atMost
  · exact ⟨view'.last, created, le_refl _, fun n above atMost => by omega⟩

/-- A step that leaves every mark where it was. -/
theorem Accounted.still {system : System S} {past : List (Closing S)} {store' : S.State}
    {works' : List (Work S)} (accounted : Accounted L system past)
    (same : ∀ t i, L.task store' t i = L.task system.store t i)
    (keys : ∀ t k, L.holds system.store t k → L.holds store' t k)
    (works : ∀ work ∈ works', Sound L store' work) : Accounted L ⟨store', works'⟩ past := by
  refine accounted.step keys (fun _ listed => listed) works (@fun t i view' found => Or.inl ?_)
  rw [same] at found
  exact ⟨view', found, le_refl _, fun n above atMost => by omega⟩

/-- A step on one task that moves its mark to an occurrence. -/
theorem Accounted.moves {system : System S} {past past' : List (Closing S)} {store' : S.State}
    {works' : List (Work S)} {tenant : S.Tenant} {id : S.TaskId} {change : View → View}
    (accounted : Accounted L system past)
    (frame : ∀ t i, (t ≠ tenant ∨ i ≠ id) → L.task store' t i = L.task system.store t i)
    (changed : L.task store' tenant id = (L.task system.store tenant id).map change)
    (forward : ∀ view, view.last ≤ (change view).last)
    (keys : ∀ t k, L.holds system.store t k → L.holds store' t k) (longer : ∀ c ∈ past, c ∈ past')
    (works : ∀ work ∈ works', Sound L store' work)
    (gained : ∀ view, L.task system.store tenant id = some view →
      ∀ n, view.last < n → n ≤ (change view).last → Explained L store' past' tenant id n) :
    Accounted L ⟨store', works'⟩ past' := by
  refine accounted.step keys longer works (@fun t i view' found => Or.inl ?_)
  by_cases same : t = tenant ∧ i = id
  · obtain ⟨rfl, rfl⟩ := same
    rw [changed, Option.map_eq_some_iff] at found
    obtain ⟨view, before, rfl⟩ := found
    exact ⟨view, before, forward view, gained view before⟩
  · rw [not_and_or] at same
    rw [frame t i same] at found
    exact ⟨view', found, le_refl _, fun n above atMost => by omega⟩

theorem sound_drop {store store' : S.State} {works : List (Work S)} (grows : Grows L store store')
    (sound : ∀ work ∈ works, Sound L store work) (index : Nat) :
    ∀ work ∈ works.eraseIdx index, Sound L store' work :=
  fun work member => (sound work (List.mem_of_mem_eraseIdx member)).grows grows

theorem sound_set {store store' : S.State} {works : List (Work S)} {work : Work S} {index : Nat}
    {phase : Phase S.TaskId} (grows : Grows L store store')
    (sound : ∀ work ∈ works, Sound L store work) (member : work ∈ works) (next : phased work phase) :
    ∀ other ∈ works.set index { work with phase := phase }, Sound L store' other := by
  intro other inSet
  rcases List.mem_or_eq_of_mem_set inSet with old | rfl
  · exact (sound other old).grows grows
  · have here := (sound work member).grows grows
    exact ⟨here.view, next⟩

variable {system : System S} {past : List (Closing S)}

theorem claimStep_accounted (accounted : Accounted L system past) (env : S.Env) (tenant : S.Tenant)
    (owner : String) (now : GoTime) (limit : Int) (delivery : Delivery) :
    Accounted L (claimStep system env tenant owner now limit delivery) past := by
  unfold claimStep
  split
  · exact accounted
  · split
    · next store claims claimed =>
      obtain ⟨same, keys, each⟩ := L.claims claimed
      have grows : Grows L system.store store := Grows.of_same same keys
      refine accounted.still same keys fun work member => ?_
      rcases List.mem_append.mp member with old | fresh
      · exact (accounted.works work old).grows grows
      · obtain ⟨claim, listed, rfl⟩ := List.mem_map.mp fresh
        obtain ⟨view, found, next, due⟩ := (each claim listed).1
        refine ⟨⟨view, ?_, by dsimp only; omega, due⟩, trivial⟩
        exact (same tenant claim.taskId).trans found
    · exact accounted
  · split
    · next store claims claimed =>
      obtain ⟨same, keys, _⟩ := L.claims claimed
      exact accounted.still same keys fun work member =>
        (accounted.works work member).grows (Grows.of_same same keys)
    · exact accounted

/-- A command with the key of the occurrence explains the mark it moves. -/
theorem fire_accounted {work : Work S} {plan : Plan S.TaskId} {env : S.Env} {store : S.State}
    {commandId : String} {works' : List (Work S)} (accounted : Accounted L system past)
    (sound : Sound L system.store work) (plans : planned work plan)
    (fired : S.fire env work.tenant plan system.store = .ok (store, commandId))
    (works : ∀ other ∈ works', Sound L store other) : Accounted L ⟨store, works'⟩ past := by
  obtain ⟨frame, changed, keys, held⟩ := L.fires fired
  obtain ⟨view, found, next, _⟩ := sound.view
  obtain ⟨sameTask, sameOccurrence, key⟩ := plans
  refine accounted.moves frame changed (fun view => (view.le_advance _).1) keys
    (fun _ listed => listed) works fun view' found' n above atMost => ?_
  rw [sameTask, found] at found'
  cases found'
  simp only [View.advance, sameOccurrence] at atMost
  have exact_ : n = work.claim.occurrence := by omega
  subst exact_
  rw [key] at held
  rw [sameTask]
  exact .issued held

theorem fire_grows {tenant : S.Tenant} {plan : Plan S.TaskId} {env : S.Env} {store store' : S.State}
    {commandId : String} (fired : S.fire env tenant plan store = .ok (store', commandId)) :
    Grows L store store' := by
  obtain ⟨frame, changed, keys, _⟩ := L.fires fired
  exact Grows.of_one frame changed (fun view => view.le_advance _) keys

theorem storeFailed_phased (work : Work S) : phased work (storeFailed work) :=
  ⟨rfl, Or.inl ⟨rfl, nofun⟩⟩

theorem fireStep_accounted {work : Work S} {plan : Plan S.TaskId} {index : Nat}
    (accounted : Accounted L system past) (member : work ∈ system.works)
    (firing : work.phase = .firing plan) (env : S.Env) (delivery : Delivery) :
    Accounted L (fireStep system index work plan env delivery) past := by
  have sound := accounted.works work member
  have plans : planned work plan := by
    have phase := sound.phase
    rwa [firing] at phase
  have waits : ∀ phase, phased work phase → Accounted L (system.setPhase index work phase) past :=
    fun phase next => accounted.still (fun _ _ => rfl) (fun _ _ held => held)
      (sound_set (Grows.refl _) accounted.works member next)
  unfold fireStep
  split
  · exact waits _ (storeFailed_phased work)
  · split
    · next fired =>
      exact fire_accounted accounted sound plans fired
        (sound_drop (fire_grows fired) accounted.works index)
    · exact waits _ ⟨rfl, Or.inr (Or.inl ⟨rfl, Or.inr (Or.inl rfl)⟩)⟩
    · exact waits _ (storeFailed_phased work)
  · split
    · next fired =>
      exact fire_accounted accounted sound plans fired
        (sound_set (fire_grows fired) accounted.works member (storeFailed_phased work))
    · exact waits _ (storeFailed_phased work)

theorem finish_grows {tenant : S.Tenant} {done : Completion S.TaskId} {env : S.Env}
    {store store' : S.State} (finished : S.finish env tenant done store = .ok store') :
    Grows L store store' := by
  obtain ⟨frame, changed, keys⟩ := L.finishes finished
  exact Grows.of_one frame changed (fun view => view.le_advance _) keys

/-- A completion is listed in the history with what it closed. -/
theorem finish_accounted {work : Work S} {done : Completion S.TaskId} {env : S.Env} {store : S.State}
    {works' : List (Work S)} (accounted : Accounted L system past)
    (sound : Sound L system.store work) (ends : concluded work done)
    (finished : S.finish env work.tenant done system.store = .ok store)
    (works : ∀ other ∈ works', Sound L store other) :
    Accounted L ⟨store, works'⟩ (past ++ closingOf work done) := by
  obtain ⟨frame, changed, keys⟩ := L.finishes finished
  obtain ⟨view, found, next, _⟩ := sound.view
  obtain ⟨sameTask, ways⟩ := ends
  refine accounted.moves frame changed (fun view => (view.le_advance _).1) keys
    (fun _ listed => List.mem_append_left _ listed) works fun view' found' n above atMost => ?_
  rw [sameTask, found] at found'
  cases found'
  rcases ways with ⟨none_, _⟩ | ⟨one, status⟩ | ⟨range, status, _⟩
  · rw [none_] at atMost
    simp only [View.advance] at atMost
    omega
  · rw [one] at atMost
    simp only [View.advance] at atMost
    have exact_ : n = work.claim.occurrence := by omega
    subst exact_
    refine .closed done.status (List.mem_append_right _ ?_) status
    have other : done.status ≠ .skippedStale := by
      rcases status with s | s | s <;> rw [s] <;> decide
    simp only [closingOf, one, if_neg other, List.mem_singleton]
  · rw [range] at atMost
    simp only [View.advance] at atMost
    refine .skipped work.claim.occurrence (work.claim.dueOccurrence - 1) (List.mem_append_right _ ?_)
      (by omega) (by omega)
    simp only [closingOf, range, status, if_true, List.mem_singleton]

theorem finishStep_accounted {work : Work S} {done : Completion S.TaskId} {index : Nat}
    (accounted : Accounted L system past) (member : work ∈ system.works)
    (finishing : work.phase = .finishing done) (env : S.Env) (delivery : Delivery) :
    Accounted L (finishStep system index work done env delivery)
      (past ++ finishClosings system work done env delivery) := by
  have sound := accounted.works work member
  have ends : concluded work done := by
    have phase := sound.phase
    rwa [finishing] at phase
  have dropped : Accounted L (system.drop index) (past ++ []) := by
    rw [List.append_nil]
    exact accounted.still (fun _ _ => rfl) (fun _ _ held => held)
      (sound_drop (Grows.refl _) accounted.works index)
  unfold finishStep finishClosings
  cases delivery with
  | aborted => exact dropped
  | answered =>
    cases finished : S.finish env work.tenant done system.store with
    | error err => exact dropped
    | ok store =>
      exact finish_accounted accounted sound ends finished
        (sound_drop (finish_grows finished) accounted.works index)
  | unanswered =>
    cases finished : S.finish env work.tenant done system.store with
    | error err => exact dropped
    | ok store =>
      exact finish_accounted accounted sound ends finished
        (sound_drop (finish_grows finished) accounted.works index)

theorem create_grows {env : S.Env} {tenant : S.Tenant} {task : NewTask} {store store' : S.State} {id : S.TaskId}
    (created : S.create env tenant task store = .ok (store', id)) : Grows L store store' := by
  obtain ⟨frame, absent, _, keys⟩ := L.creates created
  refine ⟨@fun t i view before => ⟨view, ?_, le_refl _, rfl⟩, keys⟩
  have other : t ≠ tenant ∨ i ≠ id := by
    by_contra same
    rw [not_or, not_not, not_not] at same
    rw [same.1, same.2, absent] at before
    cases before
  exact (frame t i other).trans before

theorem create_accounted {env : S.Env} {tenant : S.Tenant} {task : NewTask} {store : S.State}
    {id : S.TaskId} (accounted : Accounted L system past)
    (created : S.create env tenant task system.store = .ok (store, id)) :
    Accounted L ⟨store, system.works⟩
      (past ++ (L.task store tenant id).toList.map fun view => .created tenant id view.last) := by
  obtain ⟨frame, absent, present, keys⟩ := L.creates created
  obtain ⟨new, found⟩ := Option.isSome_iff_exists.mp present
  have grows : Grows L system.store store := create_grows created
  refine accounted.step keys (fun _ listed => List.mem_append_left _ listed)
    (fun work member => (accounted.works work member).grows grows) (@fun t i view' after => ?_)
  by_cases same : t = tenant ∧ i = id
  · obtain ⟨rfl, rfl⟩ := same
    refine Or.inr (List.mem_append_right _ ?_)
    rw [after]
    exact List.mem_singleton.mpr rfl
  · rw [not_and_or] at same
    rw [frame t i same] at after
    exact Or.inl ⟨view', after, le_refl _, fun n above atMost => by omega⟩

theorem update_grows {env : S.Env} {tenant : S.Tenant} {task : S.TaskId} {edit : Edit}
    {store store' : S.State} (updated : S.update env tenant task edit store = .ok store') :
    Grows L store store' := by
  obtain ⟨frame, ⟨enabled, changed⟩, keys⟩ := L.edits updated
  exact Grows.of_one frame changed (fun view => view.le_edit enabled _) keys

theorem update_accounted {env : S.Env} {tenant : S.Tenant} {task : S.TaskId} {edit : Edit}
    {store : S.State} (accounted : Accounted L system past)
    (updated : S.update env tenant task edit system.store = .ok store) :
    Accounted L ⟨store, system.works⟩ (past ++ closings L system (.update env tenant task edit)) := by
  obtain ⟨frame, ⟨enabled, changed⟩, keys⟩ := L.edits updated
  refine accounted.moves frame changed (fun view => (view.le_edit enabled _).1) keys
    (fun _ listed => List.mem_append_left _ listed)
    (fun work member => (accounted.works work member).grows (update_grows updated))
    fun view found n above atMost => ?_
  simp only [View.edit] at atMost
  split at atMost
  · next turned =>
    refine .passed (view.current (L.moment env)) (List.mem_append_right _ ?_) (by omega)
    simp only [Bool.and_eq_true] at turned
    simp [closings, updated, found, changed, View.edit, turned.1, turned.2]
  · omega

/-- One step keeps the account. -/
theorem step_accounted (accounted : Accounted L system past) (event : Event S) :
    Accounted L (system.step event) (past ++ closings L system event) := by
  have plain : ∀ {other : Event S}, closings L system other = [] →
      Accounted L (system.step other) past →
      Accounted L (system.step other) (past ++ closings L system other) := by
    intro other nothing kept
    rwa [nothing, List.append_nil]
  cases event with
  | create env tenant task =>
    simp only [System.step, closings]
    cases created : S.create env tenant task system.store with
    | ok result => exact create_accounted accounted created
    | error err => simpa using accounted
  | update env tenant task edit =>
    cases updated : S.update env tenant task edit system.store with
    | ok store =>
      have kept := update_accounted accounted updated
      simpa only [System.step, updated] using kept
    | error err =>
      apply plain
      · simp only [closings, updated]
      · simpa only [System.step, updated] using accounted
  | claimDue env tenant owner now limit delivery =>
    exact plain rfl (claimStep_accounted accounted env tenant owner now limit delivery)
  | prepare index answers =>
    refine plain rfl ?_
    simp only [System.step]
    split
    · next tenant claim now found =>
      exact accounted.still (fun _ _ => rfl) (fun _ _ held => held)
        (sound_set (Grows.refl _) accounted.works (List.mem_of_getElem? found)
          (runClaim_phased answers ⟨tenant, claim, now, .claimed⟩))
    · exact accounted
  | fire index env delivery =>
    refine plain rfl ?_
    simp only [System.step]
    split
    · next tenant claim now plan found =>
      exact fireStep_accounted accounted (List.mem_of_getElem? found) rfl env delivery
    · exact accounted
  | finish index env delivery =>
    simp only [System.step, closings]
    cases found : system.works[index]? with
    | none => simpa using accounted
    | some work =>
      obtain ⟨tenant, claim, now, phase⟩ := work
      cases phase with
      | claimed => simpa using accounted
      | firing plan => simpa using accounted
      | finishing done =>
        exact finishStep_accounted accounted (List.mem_of_getElem? found) rfl env delivery
  | crash index =>
    exact plain rfl (accounted.still (fun _ _ => rfl) (fun _ _ held => held)
      (sound_drop (Grows.refl _) accounted.works index))

theorem step_grows (event : Event S) : Grows L system.store (system.step event).store := by
  cases event with
  | create env tenant task =>
    simp only [System.step]
    split
    · next created => exact create_grows created
    · exact Grows.refl _
  | update env tenant task edit =>
    simp only [System.step]
    split
    · next updated => exact update_grows updated
    · exact Grows.refl _
  | claimDue env tenant owner now limit delivery =>
    simp only [System.step, claimStep]
    split
    · exact Grows.refl _
    · split
      · next claimed => exact Grows.of_same (L.claims claimed).1 (L.claims claimed).2.1
      · exact Grows.refl _
    · split
      · next claimed => exact Grows.of_same (L.claims claimed).1 (L.claims claimed).2.1
      · exact Grows.refl _
  | prepare index answers =>
    simp only [System.step]
    split
    · exact Grows.refl _
    · exact Grows.refl _
  | fire index env delivery =>
    simp only [System.step]
    split
    · unfold fireStep
      split
      · exact Grows.refl _
      · split
        · next fired => exact fire_grows fired
        · exact Grows.refl _
        · exact Grows.refl _
      · split
        · next fired => exact fire_grows fired
        · exact Grows.refl _
    · exact Grows.refl _
  | finish index env delivery =>
    simp only [System.step]
    split
    · unfold finishStep
      split
      · exact Grows.refl _
      · split
        · next finished => exact finish_grows finished
        · exact Grows.refl _
    · exact Grows.refl _
  | crash index => exact Grows.refl _

theorem run_accounted (accounted : Accounted L system past) (events : List (Event S)) :
    Accounted L (system.run events) (past ++ history L system events) := by
  induction events generalizing system past with
  | nil => simpa [System.run, history] using accounted
  | cons event rest ih =>
    have once := ih (step_accounted accounted event)
    rwa [List.append_assoc] at once

theorem run_grows (events : List (Event S)) : Grows L system.store (system.run events).store :=
  @foldl_rel _ _ System.step (fun before after => Grows L before.store after.store)
    (fun system => Grows.refl system.store) (fun _ _ _ => Grows.trans)
    (fun _ event => step_grows event) system events

/-! ## Stale claims -/

/-- A clock that claims is within the range the store computes exactly in. -/
def measured (L : Lawful S) (system : System S) : Event S → Prop
  | .claimDue _ tenant _ now _ _ => L.inRange system.store tenant now
  | _ => True

/-- A stale claim is of an occurrence before the current one. -/
def Overtaken (system : System S) : Prop :=
  ∀ work ∈ system.works, stale work.claim work.now = true →
    work.claim.occurrence ≤ work.claim.dueOccurrence - 1

theorem Overtaken.drop (overtaken : Overtaken system) (store : S.State) (index : Nat) :
    Overtaken ({ system with store := store }.drop index) :=
  fun work member => overtaken work (List.mem_of_mem_eraseIdx member)

theorem Overtaken.setPhase {work : Work S} (overtaken : Overtaken system) (store : S.State)
    (index : Nat) (member : work ∈ system.works) (phase : Phase S.TaskId) :
    Overtaken ({ system with store := store }.setPhase index work phase) := by
  intro other inSet
  rcases List.mem_or_eq_of_mem_set inSet with old | rfl
  · exact overtaken other old
  · exact overtaken work member

theorem step_overtaken (event : Event S) (overtaken : Overtaken system)
    (exact_ : measured L system event) : Overtaken (system.step event) := by
  cases event with
  | create env tenant task =>
    simp only [System.step]
    split
    · exact overtaken
    · exact overtaken
  | update env tenant task edit =>
    simp only [System.step]
    split
    · exact overtaken
    · exact overtaken
  | claimDue env tenant owner now limit delivery =>
    simp only [System.step, claimStep]
    split
    · exact overtaken
    · split
      · next store claims claimed =>
        intro work member
        rcases List.mem_append.mp member with old | fresh
        · exact overtaken work old
        · obtain ⟨claim, listed, rfl⟩ := List.mem_map.mp fresh
          exact ((L.claims claimed).2.2 claim listed).2 exact_
      · exact overtaken
    · split
      · exact overtaken
      · exact overtaken
  | prepare index answers =>
    simp only [System.step]
    split
    · next found => exact overtaken.setPhase _ index (List.mem_of_getElem? found) _
    · exact overtaken
  | fire index env delivery =>
    simp only [System.step]
    split
    · next found =>
      have member := List.mem_of_getElem? found
      unfold fireStep
      split
      · exact overtaken.setPhase _ index member _
      · split
        · exact overtaken.drop _ index
        · exact overtaken.setPhase _ index member _
        · exact overtaken.setPhase _ index member _
      · split
        · exact overtaken.setPhase _ index member _
        · exact overtaken.setPhase _ index member _
    · exact overtaken
  | finish index env delivery =>
    simp only [System.step]
    split
    · unfold finishStep
      split
      · exact overtaken.drop _ index
      · split
        · exact overtaken.drop _ index
        · exact overtaken.drop _ index
    · exact overtaken
  | crash index => exact overtaken.drop _ index

/-! ## No occurrence is lost silently -/

/-- What a run of schedule operations owes its tasks. -/
structure NoneLost (L : Lawful S) (start : System S) (earlier later : List (Event S)) : Prop where
  /-- A mark does not go back. -/
  forward : ∀ t i view, L.task (start.run earlier).store t i = some view →
    ∃ view', L.task (start.run (earlier ++ later)).store t i = some view' ∧ view.last ≤ view'.last
  /-- Every occurrence between the mark a task was created with and its mark now
  is explained. -/
  explained : ∀ t i view, L.task (start.run (earlier ++ later)).store t i = some view →
    ∃ initial, .created t i initial ∈ history L start (earlier ++ later) ∧ initial ≤ view.last ∧
      ∀ n, initial < n → n ≤ view.last →
        Explained L (start.run (earlier ++ later)).store (history L start (earlier ++ later)) t i n
  /-- A stale completion ends one before the occurrence that was current at the
  run's own clock, which is not before the one it was claimed for. -/
  skips : ∀ work ∈ (start.run (earlier ++ later)).works, ∀ done,
    work.phase = .finishing done → done.status = .skippedStale →
      ∃ view, L.task (start.run (earlier ++ later)).store work.tenant done.taskId = some view ∧
        done.occurrence = some (view.current work.now - 1) ∧
        work.claim.occurrence ≤ view.current work.now - 1 ∧
        ∀ env store', S.finish env work.tenant done (start.run (earlier ++ later)).store = .ok store' →
          ∃ view', L.task store' work.tenant done.taskId = some view' ∧
            (view'.last = view.last ∨ view'.last < view.current work.now)

theorem run_append (start : System S) (earlier later : List (Event S)) :
    start.run (earlier ++ later) = (start.run earlier).run later :=
  List.foldl_append

/-- From a store without tasks on. -/
theorem none_lost {start : System S} (idle : start.works = [])
    (fresh : ∀ t i, L.task start.store t i = none) (earlier later : List (Event S))
    (exact_ : Guarded System.step (measured L) start (earlier ++ later)) :
    NoneLost L start earlier later := by
  have accounted : Accounted L start [] := by
    refine ⟨fun work member => ?_, fun found => ?_⟩
    · rw [idle] at member
      cases member
    · rw [fresh] at found
      cases found
  have kept := run_accounted accounted (earlier ++ later)
  rw [List.nil_append] at kept
  have overtaken : Overtaken (start.run (earlier ++ later)) :=
    foldl_guarded (fun _ event holds met => step_overtaken event holds met) start
      (fun work member => by rw [idle] at member; cases member) (earlier ++ later) exact_
  refine ⟨fun t i view found => ?_, fun t i view found => kept.marks found, ?_⟩
  · rw [run_append]
    obtain ⟨view', found', forward, _⟩ := (@run_grows S L (start.run earlier) later).tasks found
    exact ⟨view', found', forward⟩
  · intro work member done finishing status
    obtain ⟨⟨view, found, _, due⟩, phase⟩ := kept.works work member
    rw [finishing] at phase
    obtain ⟨sameTask, ways⟩ := phase
    rcases ways with ⟨_, other⟩ | ⟨_, other⟩ | ⟨range, _, late⟩
    · exact absurd status other
    · rw [status] at other
      simp at other
    · refine ⟨view, by rw [sameTask]; exact found, by rw [range, due],
        by rw [← due]; exact overtaken work member late, fun env store' finished => ?_⟩
      obtain ⟨_, changed, _⟩ := L.finishes finished
      rw [sameTask, found] at changed
      refine ⟨_, by rw [sameTask]; exact changed, ?_⟩
      rw [range, due]
      simp only [View.advance]
      omega

end Runs

end VodogeCloud.Guarantees.ScheduleMarks
