import VodogeCloud.Source.NotifyDispatch
import VodogeCloud.Source.SessionSteps

/-!
# The notices of failed commands

`settlingResults.RecordResult` (apps/gateway/cmd/gateway/main.go:2029-2068) calls
`Notify` between the commit of a result and `SettleOutbound`. The call is written
down nowhere, so a gateway that dies right after the commit has not made it.
`OnAlert` (apps/gateway/internal/wss/serve.go:499-522) is called in the same turn
and asks the status of `Accept` first.
-/

set_option autoImplicit false

namespace VodogeCloud.Source.ResultNotices

open VodogeCloud.Source.Postgres VodogeCloud.Source.CommandTables
open VodogeCloud.Source.CommandLifecycle VodogeCloud.Source.ServeDevice
open VodogeCloud.Source.SessionSteps
open VodogeCloud.Source.MemoryJournal (Status)

/-- The event of a result that is not `succeeded`. -/
def commandFailed (tenant : Uuid) (result : CommandResult) : NotifyDispatch.Event :=
  ⟨"command.failed", uuidOut tenant, "命令执行失败", trimSpace (result.reason ++ " " ++ result.reasonCode)⟩

/-- A call of `Notify` and the record it is about. -/
structure Notice (queue : Queue) where
  offer : Offer queue
  event : NotifyDispatch.Event

variable {σ : Type} {setting : Setting σ}

/-- What `RecordResult` announces of the record in a session's hands. -/
def resultNotice (offer : Offer setting.queue) (now : Timestamp) (system : System setting) :
    Option (Notice setting.queue) :=
  match resultOf setting.float offer.envelope with
  | .error _ => none
  | .ok result =>
    match recordResult setting.device.tenantId result now system.cloud.commands with
    | .error _ => none
    | .ok _ =>
      if result.status = "succeeded" then none
      else some ⟨offer, commandFailed setting.device.tenantId result⟩

def announced (system : System setting) : Event setting.queue → Option (Notice setting.queue)
  | .proceed index now _ =>
    match system.sessions[index]? with
    | some (.acknowledged offer) => resultNotice offer now system
    | _ => none
  | _ => none

/-- The status `Accept` returns. -/
def answered (system : System setting) : Event setting.queue → Option (Offer setting.queue × Status)
  | .offer offer order now =>
    match IngressStore.accept order setting.project (recordOf setting.device offer.envelope offer.seq) now
        system.cloud.journal system.cloud.rest with
    | (_, _, .ok result) => some (offer, result.status)
    | (_, _, .error _) => none
  | _ => none

/-- The sessions, with every answer of `Accept` and every call of `Notify`. -/
structure Watched (setting : Setting σ) where
  system : System setting
  accepted : List (Offer setting.queue × Status)
  notices : List (Notice setting.queue)

inductive Moment (queue : Queue) where
  | event (event : Event queue)
  /-- The session's `inner.RecordResult` commits, and the gateway dies before
  `Notify`. -/
  | cutOff (index : Nat) (now : Timestamp)

def Watched.step (state : Watched setting) : Moment setting.queue → Watched setting
  | .event event =>
    { system := SessionSteps.step state.system event
      accepted := (answered state.system event).toList ++ state.accepted
      notices := (announced state.system event).toList ++ state.notices }
  | .cutOff index now =>
    { state with
      system := SessionSteps.step (SessionSteps.step state.system (.proceed index now "")) .crash }

def Watched.start (setting : Setting σ) (cloud : Cloud σ) : Watched setting :=
  ⟨System.start setting cloud, [], []⟩

end VodogeCloud.Source.ResultNotices
