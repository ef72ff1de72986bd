import VodogeCloud.Source.CommandLifecycle

/-!
# The scheduler

The package `schedule` of the gateway (apps/gateway/internal/schedule/schedule.go):
the runner, and the store it is written against. Times are nanoseconds. What the
runner asks of code outside the package, resolving the target, building the
payload, reading the public address and the hourly limit, is an answer given
from outside; `last_detail` is written for the console only and left out.

A run is a sequence of events. Each claimed occurrence is a piece of work that
any runner may carry on with, stall on, or lose in a crash between any two of
its transactions; a transaction may also commit without its answer coming back.
-/

set_option autoImplicit false

namespace VodogeCloud.Source.Schedule

open VodogeCloud.Source.Postgres

/-! ## Go times -/

/-- `time.Time`, in nanoseconds since the epoch. -/
abbrev GoTime := Int

def maxDuration : Int := 9223372036854775807

def minDuration : Int := -9223372036854775808

def second : Int := 1000000000

def minute : Int := 60000000000

/-- `Time.Sub`, which saturates. -/
def sub (a b : GoTime) : Int := max minDuration (min maxDuration (a - b))

/-- `time.Time{}`, the first instant of the year 1. -/
def zeroTime : GoTime := -62135596800000000000

/-! ## Tasks, claims and plans -/

inductive Action where
  | command | publicIpCheck
  deriving DecidableEq, Repr

/-- The run statuses. -/
inductive RunStatus where
  | issued | checked | prepareFailed | skippedStale | keyConflict | storeFailed | skippedLimit
  deriving DecidableEq, Repr

structure Selector where
  mode : String
  deviceId : String
  iccid : String
  modemImei : String
  deriving DecidableEq, Repr

structure Target where
  deviceId : String
  modemImei : String
  iccid : String

/-- What a caller gives `Create`. -/
structure NewTask where
  name : String
  enabled : Bool
  action : Action
  commandKind : String
  selector : Selector
  request : Json
  intervalSeconds : Int
  anchorAt : Option GoTime

/-- The anchor a store takes: the moment of the call where the one given is zero or there is none. -/
def NewTask.anchor (task : NewTask) (now : GoTime) : GoTime :=
  (task.anchorAt.filter (· ≠ zeroTime)).getD now

/-- A partial change: what is absent is not changed. -/
structure Edit where
  enabled : Option Bool
  selector : Option Selector

structure Claim (TaskId : Type) where
  taskId : TaskId
  action : Action
  commandKind : String
  selector : Selector
  request : Json
  intervalSeconds : Int
  occurrence : Int
  occurrenceAt : GoTime
  dueOccurrence : Int

structure Plan (TaskId : Type) where
  taskId : TaskId
  occurrence : Int
  kind : String
  deviceId : String
  idempotencyKey : String
  payload : Json
  expiresAt : GoTime

/-- The bookkeeping of a run; no occurrence leaves the mark where it was. -/
structure Completion (TaskId : Type) where
  taskId : TaskId
  occurrence : Option Int
  status : RunStatus

/-- `IdempotencyKey`: the task and the occurrence, and nothing else. -/
def idempotencyKey (taskId : String) (occurrence : Int) : String :=
  "schedule:" ++ taskId ++ ":" ++ toString occurrence

/-- `commandTTL`. -/
def commandTtl (intervalSeconds : Int) : Int :=
  let ttl := intervalSeconds * second
  let ttl := if ttl < 5 * minute then 5 * minute else ttl
  if 30 * minute < ttl then 30 * minute else ttl

/-- `Validate`. The rules on the name, the selector and the command can only
refuse; they are the argument. -/
def validate (fields : NewTask → Option String) (task : NewTask) : Except String Unit :=
  if task.intervalSeconds < 60 ∨ 604800 < task.intervalSeconds then
    .error "interval_seconds must be between 60 and 604800"
  else
    match fields task with
    | some reason => .error reason
    | none => .ok ()

theorem validate_ok {fields : NewTask → Option String} {task : NewTask}
    (h : validate fields task = .ok ()) : 60 ≤ task.intervalSeconds ∧ task.intervalSeconds ≤ 604800 := by
  unfold validate at h
  split at h
  · cases h
  · omega

/-! ## The runner -/

/-- What the runner is told while it prepares one occurrence. -/
structure Answers (TaskId : Type) where
  resolve : Selector → Except String Target
  publicIp : String → Except String (Option String)
  buildRequest : Claim TaskId → Target → Except String Json
  /-- Absent means unlimited. -/
  sendAllowed : Option Bool

/-- How far a claimed occurrence has come. -/
inductive Phase (TaskId : Type) where
  | claimed
  | firing (plan : Plan TaskId)
  | finishing (done : Completion TaskId)

section Runner

variable {TaskId : Type}

/-- `Runner.stale`: more than one whole period late. -/
def stale (claim : Claim TaskId) (now : GoTime) : Bool :=
  0 < claim.intervalSeconds && claim.intervalSeconds * second < sub now claim.occurrenceAt

def prepareFailed (claim : Claim TaskId) : Phase TaskId :=
  .finishing ⟨claim.taskId, none, .prepareFailed⟩

/-- The occurrence is closed with a status of its own. -/
def closeAs (claim : Claim TaskId) (status : RunStatus) : Phase TaskId :=
  .finishing ⟨claim.taskId, some claim.occurrence, status⟩

/-- `Runner.checkPublicIP`; a reading that is missing is a result too. -/
def checkPublicIp (answers : Answers TaskId) (claim : Claim TaskId) (target : Target) : Phase TaskId :=
  match answers.publicIp target.deviceId with
  | .error _ => prepareFailed claim
  | .ok _ => closeAs claim .checked

/-- `Runner.issueCommand`, up to the store. -/
def issueCommand (text : TaskId → String) (answers : Answers TaskId) (claim : Claim TaskId)
    (target : Target) (now : GoTime) : Phase TaskId :=
  match answers.buildRequest claim target with
  | .error _ => prepareFailed claim
  | .ok payload =>
    if claim.commandKind = "send_sms" ∧ answers.sendAllowed = some false then
      closeAs claim .skippedLimit
    else
      .firing {
        taskId := claim.taskId
        occurrence := claim.occurrence
        kind := claim.commandKind
        deviceId := target.deviceId
        idempotencyKey := idempotencyKey (text claim.taskId) claim.occurrence
        payload := payload
        expiresAt := now + commandTtl claim.intervalSeconds }

/-- `Runner.run`, up to the first write it asks the store for. -/
def runClaim (text : TaskId → String) (answers : Answers TaskId) (claim : Claim TaskId)
    (now : GoTime) : Phase TaskId :=
  if stale claim now then .finishing ⟨claim.taskId, some (claim.dueOccurrence - 1), .skippedStale⟩
  else
    match answers.resolve claim.selector with
    | .error _ => prepareFailed claim
    | .ok target =>
      match claim.action with
      | .publicIpCheck => checkPublicIp answers claim target
      | .command => issueCommand text answers claim target now

end Runner

/-! ## Stores -/

/-- What a store reports instead of a result. -/
inductive StoreError where
  | keyConflict
  | other (text : String)
  deriving DecidableEq, Repr

/-- The store the runner and the console work on. `Env` is what an operation
reads from its surroundings: clocks, generated ids, locks. -/
structure Store where
  Tenant : Type
  TaskId : Type
  Env : Type
  State : Type
  /-- `Task.ID`. -/
  text : TaskId → String
  claimDue : Env → Tenant → (owner : String) → (now : GoTime) → (limit : Int) → State →
    Except StoreError (State × List (Claim TaskId))
  fire : Env → Tenant → Plan TaskId → State → Except StoreError (State × String)
  finish : Env → Tenant → Completion TaskId → State → Except StoreError State
  create : Env → Tenant → NewTask → State → Except StoreError (State × TaskId)
  update : Env → Tenant → TaskId → Edit → State → Except StoreError State

/-! ## Runs -/

structure Work (S : Store) where
  tenant : S.Tenant
  claim : Claim S.TaskId
  now : GoTime
  phase : Phase S.TaskId

structure System (S : Store) where
  store : S.State
  works : List (Work S)

/-- How a transaction ended for the process that asked for it. -/
inductive Delivery where
  | answered
  /-- It ran, but the answer was lost. -/
  | unanswered
  /-- It did not run. -/
  | aborted
  deriving DecidableEq, Repr

inductive Event (S : Store) where
  | create (env : S.Env) (tenant : S.Tenant) (task : NewTask)
  | update (env : S.Env) (tenant : S.Tenant) (task : S.TaskId) (edit : Edit)
  | claimDue (env : S.Env) (tenant : S.Tenant) (owner : String) (now : GoTime) (limit : Int)
      (delivery : Delivery)
  | prepare (index : Nat) (answers : Answers S.TaskId)
  | fire (index : Nat) (env : S.Env) (delivery : Delivery)
  | finish (index : Nat) (env : S.Env) (delivery : Delivery)
  | crash (index : Nat)

section Step

variable {S : Store}

/-- Forget a piece of work, finished or lost. -/
def System.drop (system : System S) (index : Nat) : System S :=
  { system with works := system.works.eraseIdx index }

def System.setPhase (system : System S) (index : Nat) (work : Work S) (phase : Phase S.TaskId) :
    System S :=
  { system with works := system.works.set index { work with phase := phase } }

def storeFailed (work : Work S) : Phase S.TaskId := .finishing ⟨work.claim.taskId, none, .storeFailed⟩

/-- What `issueCommand` does with the answer of `Fire`. -/
def fireStep (system : System S) (index : Nat) (work : Work S) (plan : Plan S.TaskId) (env : S.Env)
    (delivery : Delivery) : System S :=
  match delivery with
  | .aborted => system.setPhase index work (storeFailed work)
  | .answered =>
    match S.fire env work.tenant plan system.store with
    | .ok (store, _) => { system with store := store }.drop index
    | .error .keyConflict => system.setPhase index work (closeAs work.claim .keyConflict)
    | .error (.other _) => system.setPhase index work (storeFailed work)
  | .unanswered =>
    match S.fire env work.tenant plan system.store with
    | .ok (store, _) => { system with store := store }.setPhase index work (storeFailed work)
    | .error _ => system.setPhase index work (storeFailed work)

/-- `Runner.finish`: an error is logged and nothing else. -/
def finishStep (system : System S) (index : Nat) (work : Work S) (done : Completion S.TaskId)
    (env : S.Env) (delivery : Delivery) : System S :=
  match delivery with
  | .aborted => system.drop index
  | _ =>
    match S.finish env work.tenant done system.store with
    | .ok store => { system with store := store }.drop index
    | .error _ => system.drop index

/-- `Tick`, for one tenant: what is claimed becomes work. -/
def claimStep (system : System S) (env : S.Env) (tenant : S.Tenant) (owner : String) (now : GoTime)
    (limit : Int) (delivery : Delivery) : System S :=
  match delivery with
  | .aborted => system
  | .answered =>
    match S.claimDue env tenant owner now limit system.store with
    | .ok (store, claims) =>
      ⟨store, system.works ++ claims.map fun claim => ⟨tenant, claim, now, .claimed⟩⟩
    | .error _ => system
  | .unanswered =>
    match S.claimDue env tenant owner now limit system.store with
    | .ok (store, _) => { system with store := store }
    | .error _ => system

def System.step (system : System S) : Event S → System S
  | .create env tenant task =>
    match S.create env tenant task system.store with
    | .ok (store, _) => { system with store := store }
    | .error _ => system
  | .update env tenant task edit =>
    match S.update env tenant task edit system.store with
    | .ok store => { system with store := store }
    | .error _ => system
  | .claimDue env tenant owner now limit delivery =>
    claimStep system env tenant owner now limit delivery
  | .prepare index answers =>
    match system.works[index]? with
    | some ⟨tenant, claim, now, .claimed⟩ =>
      system.setPhase index ⟨tenant, claim, now, .claimed⟩ (runClaim S.text answers claim now)
    | _ => system
  | .fire index env delivery =>
    match system.works[index]? with
    | some ⟨tenant, claim, now, .firing plan⟩ =>
      fireStep system index ⟨tenant, claim, now, .firing plan⟩ plan env delivery
    | _ => system
  | .finish index env delivery =>
    match system.works[index]? with
    | some ⟨tenant, claim, now, .finishing done⟩ =>
      finishStep system index ⟨tenant, claim, now, .finishing done⟩ done env delivery
    | _ => system
  | .crash index => system.drop index

def System.run (system : System S) (events : List (Event S)) : System S :=
  events.foldl System.step system

end Step

end VodogeCloud.Source.Schedule
