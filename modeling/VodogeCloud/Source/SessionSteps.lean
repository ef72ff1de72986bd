import VodogeCloud.Lib.Transactions
import VodogeCloud.Source.ServeDevice

/-!
# A sequenced record, step by step

The Resume and the sequenced case of `ServeDevice`
(apps/gateway/internal/wss/serve.go:225-262 and 370-544) and
`settlingResults.RecordResult` (apps/gateway/cmd/gateway/main.go:2029-2073), cut
wherever the gateway can be lost: after each transaction and after each frame. A
session that is lost keeps nothing; what its transactions committed stays.

Sessions of one device may overlap, since a superseded one finishes the frame it
is on, and anything else may write the database between two steps. The hub, the
pings and the pending reads only decide which of these interleavings occur, so
every one of them is a run here. A record can arrive again after it was
acknowledged, because it can have been on its way; nothing makes the device send
it again.
-/

set_option autoImplicit false

namespace VodogeCloud.Source.SessionSteps

open VodogeCloud.Lib.Transactions
open VodogeCloud.Source.Postgres VodogeCloud.Source.IngressWindow VodogeCloud.Source.IngressWrites
open VodogeCloud.Source.CommandTables VodogeCloud.Source.CommandLifecycle
open VodogeCloud.Source.IngressStore VodogeCloud.Source.GoJson VodogeCloud.Source.ServeDevice
open VodogeCloud.Source.MemoryJournal (StoreError Status Window Result)
open VodogeCloud.Source.NulScrub (MapOrder)

/-! ## The device -/

/-- What the device has numbered: a sequence is given to one record. -/
structure Queue where
  record : Nat → Option Envelope
  sequenced : ∀ {seq : Nat} {envelope : Envelope}, record seq = some envelope →
    envelope.kind ∈ sequencedCase
  numbered : ∀ {seq : Nat} {envelope : Envelope}, record seq = some envelope →
    envelope.seq.bind parseSeq = some seq

/-- A record the device may send. -/
structure Offer (queue : Queue) where
  seq : Nat
  envelope : Envelope
  known : queue.record seq = some envelope

theorem Offer.eq_of_seq {queue : Queue} {a b : Offer queue} (same : a.seq = b.seq) : a = b := by
  obtain ⟨seq, envelope, known⟩ := a
  obtain ⟨_, other, knownOther⟩ := b
  cases same
  rw [known] at knownOther
  cases knownOther
  rfl

/-! ## The steps -/

/-- What the steps are run with. -/
structure Setting (σ : Type) where
  device : Device
  queue : Queue
  /-- The projection of `accept_ingress`. -/
  project : σ → IngressRow → Except PgError σ
  float : FloatFormat
  calendar : Calendar
  /-- `timestamptz - interval` of the retention job. -/
  minus : Timestamp → Interval → Except PgError Timestamp

variable {σ : Type}

/-- What the loop hands to `RecordResult`. -/
def resultOf (float : FloatFormat) (envelope : Envelope) : Except ServeError CommandResult :=
  match envelope.payload.bind (commandResultPayload float) with
  | none => .error (.decode "command result")
  | some payload =>
    match timestampArg payload.completedAt with
    | .error err => .error (.database err)
    | .ok completedAt =>
      .ok ⟨payload.cmdId, payload.status, completedAt, payload.attempts,
        payload.reasonCode.getD "", payload.reason.getD "", payload.details⟩

/-- Where a session stands, named by what it has just done. -/
inductive Stage (queue : Queue) where
  /-- `Snapshot` for the ResumeAck. -/
  | resuming (window : Window)
  /-- `Accept` returned a window; the UplinkAck is next. -/
  | stored (offer : Offer queue) (window : Window)
  /-- The UplinkAck of a CommandResult is written; `RecordResult` is next. -/
  | acknowledged (offer : Offer queue)
  /-- The command is settled; `SettleOutbound` is next. -/
  | recorded (result : CommandResult)
  /-- `Accept` refused for good; the tombstone is next. -/
  | refused (offer : Offer queue) (reason : String)
  /-- The tombstone was tried; `Snapshot` is next. -/
  | buried
  /-- `Snapshot` returned; the UplinkAck is next. -/
  | counted (window : Window)

/-- A `RecordResult` that committed. -/
structure Application (setting : Setting σ) where
  offer : Offer setting.queue
  result : CommandResult
  now : Timestamp
  before : CommandDb
  after : CommandDb
  read : resultOf setting.float offer.envelope = .ok result
  done : recordResult setting.device.tenantId result now before = .ok after

/-- The database, the sessions that are between two steps, and what has happened:
the `committed_through` of every ack written and the results applied. -/
structure System (setting : Setting σ) where
  cloud : Cloud σ
  sessions : List (Stage setting.queue)
  sent : List Nat
  applied : List (Application setting)

variable {setting : Setting σ}

/-- The session at `index` goes over to `next`, or is done. -/
def System.replace (state : System setting) (index : Nat) (next : Option (Stage setting.queue)) :
    System setting :=
  { state with sessions := next.toList ++ state.sessions.eraseIdx index }

def System.send (state : System setting) (window : Window) : System setting :=
  { state with sent := window.committedThrough :: state.sent }

def System.withCommands (state : System setting) (commands : CommandDb) : System setting :=
  { state with cloud := { state.cloud with commands := commands } }

def System.withJournal (state : System setting) (journal : IngressDb) (rest : σ) : System setting :=
  { state with cloud := { state.cloud with journal := journal, rest := rest } }

/-- A session reaches its first stage. -/
def System.enter (state : System setting) (stage : Stage setting.queue) : System setting :=
  { state with sessions := stage :: state.sessions }

/-- `Journal.Snapshot` of a new session. -/
def resumeStep (state : System setting) : System setting :=
  match snapshot setting.device.tenantId setting.device.deviceId state.cloud.journal with
  | .error _ => state
  | .ok window => state.enter (.resuming window)

/-- `Journal.Accept`. -/
def acceptStep (offer : Offer setting.queue) (order : MapOrder Number) (now : Timestamp)
    (state : System setting) : System setting :=
  match IngressStore.accept order setting.project (recordOf setting.device offer.envelope offer.seq) now
      state.cloud.journal state.cloud.rest with
  | (_, _, .error (.malformed text)) => state.enter (.refused offer text)
  | (_, _, .error _) => state
  | (journal, rest, .ok result) => (state.withJournal journal rest).enter (.stored offer result.window)

/-- The UplinkAck of a stored record. -/
def acknowledgeStep (index : Nat) (offer : Offer setting.queue) (window : Window)
    (state : System setting) : System setting :=
  (state.send window).replace index
    (if offer.envelope.kind = "CommandResult" then some (.acknowledged offer) else none)

/-- `Results.RecordResult` up to its first commit. -/
def recordStep (index : Nat) (offer : Offer setting.queue) (now : Timestamp) (state : System setting) :
    System setting :=
  match read : resultOf setting.float offer.envelope with
  | .error _ => state.replace index none
  | .ok result =>
    match done : recordResult setting.device.tenantId result now state.cloud.commands with
    | .error _ => state.replace index none
    | .ok commands =>
      let applied := ⟨offer, result, now, state.cloud.commands, commands, read, done⟩ :: state.applied
      { state.withCommands commands with applied := applied }.replace index (some (.recorded result))

/-- `SettleOutbound`; its failure is only logged. -/
def settleStep (index : Nat) (result : CommandResult) (now : Timestamp) (state : System setting) :
    System setting :=
  let status := if result.status = "succeeded" then MessageStatus.sent else .failed
  let reason := if result.reason = "" then result.reasonCode else result.reason
  match settleOutbound setting.device.tenantId result.commandId status reason
      (messageReference result.details) now state.cloud.commands with
  | .ok commands => (state.withCommands commands).replace index none
  | .error _ => state.replace index none

/-- `Journal.RecordUnstorable`; its failure is only logged. -/
def buryStep (index : Nat) (offer : Offer setting.queue) (reason : String) (now : Timestamp)
    (recordedAt : String) (state : System setting) : System setting :=
  let record := recordOf setting.device offer.envelope offer.seq
  let journal := (recordUnstorable { record with payload := none } reason now recordedAt
    state.cloud.journal).1
  (state.withJournal journal state.cloud.rest).replace index (some .buried)

/-- `Journal.Snapshot` after a tombstone. -/
def countStep (index : Nat) (state : System setting) : System setting :=
  match snapshot setting.device.tenantId setting.device.deviceId state.cloud.journal with
  | .error _ => state.replace index none
  | .ok window => state.replace index (some (.counted window))

/-- The session at `index` takes its next step. -/
def proceed (index : Nat) (now : Timestamp) (recordedAt : String) (state : System setting) :
    System setting :=
  match state.sessions[index]? with
  | none => state
  | some (.resuming window) => (state.send window).replace index none
  | some (.stored offer window) => acknowledgeStep index offer window state
  | some (.acknowledged offer) => recordStep index offer now state
  | some (.recorded result) => settleStep index result now state
  | some (.refused offer reason) => buryStep index offer reason now recordedAt state
  | some .buried => countStep index state
  | some (.counted window) => (state.send window).replace index none

/-! ## Runs -/

/-- A call that writes no record of the device. -/
def elsewhere (device : Uuid) : JournalOp → Bool
  | .acceptIngress _ args _ => args.deviceId ≠ device
  | .recordUnstorableIngress _ args _ _ => args.deviceId ≠ device
  | .pruneIngress _ _ => true

inductive Event (queue : Queue) where
  /-- A new session reads the journal. -/
  | resume
  /-- A session reads a record of the device; `order` is how `Accept` goes through its maps. -/
  | offer (offer : Offer queue) (order : MapOrder Number) (now : Timestamp)
  /-- A session takes its next step. -/
  | proceed (index : Nat) (now : Timestamp) (recordedAt : String)
  /-- A session ends where it stands: a write or the database failed it, or its
  connection did. -/
  | lose (index : Nat)
  /-- The gateway dies. -/
  | crash
  /-- Another writer of the command tables. -/
  | command (op : CommandOp)
  /-- Another writer of the journal. -/
  | journal (op : JournalOp)

def step (state : System setting) : Event setting.queue → System setting
  | .resume => resumeStep state
  | .offer offer order now => acceptStep offer order now state
  | .proceed index now recordedAt => proceed index now recordedAt state
  | .lose index => state.replace index none
  | .crash => { state with sessions := [] }
  | .command op => state.withCommands (settle (CommandOp.apply setting.calendar) state.cloud.commands op)
  | .journal op =>
    if elsewhere setting.device.deviceId op then
      let next := settle (JournalOp.apply setting.project setting.minus)
        (state.cloud.journal, state.cloud.rest) op
      state.withJournal next.1 next.2
    else state

/-- Before the device has ever connected. -/
def System.start (setting : Setting σ) (cloud : Cloud σ) : System setting := ⟨cloud, [], [], []⟩

end VodogeCloud.Source.SessionSteps
