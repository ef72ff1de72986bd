import Mathlib.Data.List.Sort
import VodogeCloud.Source.CommandTables

/-!
# The command lifecycle

`app.enqueue_command` (0001_regional_data.sql:221-289), the dispatcher and
receipt functions of 0002_command_dispatch_lifecycle.sql:74-758, the expiry
functions of 0072_an_expiry_does_not_know_the_sms_was_not_sent.sql:34-275, and
the gateway's own statements: `SQLLifecycle.RecordReceipt` and `RecordResult`
(apps/gateway/internal/commands/lifecycle.go:195-349), `SQL.SettleOutbound`
(apps/gateway/internal/messaging/messaging.go:343-382) and
`settlingResults.RecordResult` (apps/gateway/cmd/gateway/main.go:2029-2073).

Each function is one transaction. `now` is the transaction's `now()`. Rows other
workers hold locked, which `SKIP LOCKED` passes over, are an argument of the two
functions that skip them. The gateway's statements name no tenant: row security
restricts them to the tenant the transaction is bound to.
-/

set_option autoImplicit false

namespace VodogeCloud.Source.CommandLifecycle

open VodogeCloud.Lib VodogeCloud.Source.Postgres VodogeCloud.Source.CommandTables

/-- What the server computes with calendars and time zones. A sum that leaves the
timestamp range is absent. -/
structure Calendar where
  plus : Timestamp → Interval → Option Timestamp
  minus : Timestamp → Interval → Option Timestamp
  /-- A timestamptz as `jsonb_build_object` writes it. -/
  text : Timestamp → String

/-- A timestamp computed from a nullable interval. -/
def timestamp (sum : Timestamp → Interval → Option Timestamp) (now : Timestamp)
    (interval : Option Interval) : Except PgError (Option Timestamp) :=
  match interval with
  | none => .ok none
  | some interval =>
    match sum now interval with
    | some result => .ok (some result)
    | none => .error ⟨"22008", "timestamp out of range"⟩

/-- `btrim(text) = ''`. -/
def blank (text : String) : Bool := text.toList.all (· = ' ')

def tenantGuard (context : Option Uuid) (tenant : Uuid) (what : String) : Except PgError Unit :=
  if some tenant = context then .ok ()
  else .error ⟨"42501", "tenant context does not match " ++ what⟩

def jsonbObject (fields : List (String × Jsonb)) : Jsonb :=
  .obj (fields.foldr (fun field rest => insertField field.1 field.2 rest) [])

mutual

/-- `jsonb_strip_nulls`. -/
def jsonbStripNulls : Jsonb → Jsonb
  | .arr items => .arr (stripNullItems items)
  | .obj fields => .obj (stripNullFields fields)
  | other => other

def stripNullItems : List Jsonb → List Jsonb
  | [] => []
  | item :: rest => jsonbStripNulls item :: stripNullItems rest

def stripNullFields : List (String × Jsonb) → List (String × Jsonb)
  | [] => []
  | (_, .null) :: rest => stripNullFields rest
  | (key, value) :: rest => (key, jsonbStripNulls value) :: stripNullFields rest

end

/-! ## Enqueueing -/

structure EnqueueArgs where
  tenantId : Uuid
  deviceId : Uuid
  kind : CommandKind
  payload : Jsonb
  idempotencyKey : String
  expiresAt : Timestamp

def EnqueueArgs.command (args : EnqueueArgs) (id : Uuid) (now : Timestamp) : CommandRow where
  id := id
  tenantId := args.tenantId
  deviceId := args.deviceId
  kind := args.kind
  payload := args.payload
  idempotencyKey := args.idempotencyKey
  status := .queued
  issuedAt := now
  expiresAt := args.expiresAt
  dispatchedAt := none
  acceptedAt := none
  completedAt := none
  result := none

def wakeup (command : CommandRow) (id : Nat) (now : Timestamp) : OutboxRow where
  id := id
  tenantId := command.tenantId
  commandId := command.id
  status := .pending
  availableAt := now
  leaseOwner := none
  leaseExpiresAt := none
  publishedAt := none
  attemptCount := 0
  lastError := none
  resolvedAt := none

/-- The row under a tenant's idempotency key. -/
def CommandDb.byKey (db : CommandDb) (tenant : Uuid) (key : String) : Option CommandRow :=
  db.commands.rows.find? (fun row => row.tenantId = tenant && row.idempotencyKey = key)

/-- `app.enqueue_command`. `id` and `outboxId` are the generated keys. -/
def enqueueCommand (registered : Uuid → Uuid → Bool) (context : Option Uuid) (args : EnqueueArgs)
    (id : Uuid) (outboxId : Nat) (now : Timestamp) (db : CommandDb) :
    Except PgError (CommandDb × CommandRow) := do
  tenantGuard context args.tenantId "requested command tenant"
  if args.payload.isObject = false then
    .error ⟨"22023", "command payload must be a JSON object"⟩
  else
    let (db', inserted) ← db.insertCommand registered (args.command id now)
    if inserted then
      let db'' ← db'.insertOutbox (wakeup (args.command id now) outboxId now)
      return (db'', args.command id now)
    else
      match CommandDb.byKey db' args.tenantId args.idempotencyKey with
      | some existing =>
        if existing.deviceId ≠ args.deviceId ∨ existing.kind ≠ args.kind ∨
            existing.payload ≠ args.payload then
          .error ⟨"23505", "idempotency key is already bound to a different command"⟩
        else .ok (db', existing)
      | none => .error ⟨"23505", "idempotency key is already bound to a different command"⟩

/-! ## Settling a wakeup -/

/-- The settle clause with `CASE WHEN status = 'leased' THEN 'published'`. -/
def resolveRow (at_ : Timestamp) (row : OutboxRow) : OutboxRow :=
  { row with
    resolvedAt := some (row.resolvedAt.getD at_)
    status := if row.status = .leased then .published else row.status
    leaseOwner := none
    leaseExpiresAt := none }

/-- The settle clause that drives the status to 'published'. -/
def publishRow (at_ : Timestamp) (row : OutboxRow) : OutboxRow :=
  { row with
    resolvedAt := some (row.resolvedAt.getD at_)
    status := .published
    leaseOwner := none
    leaseExpiresAt := none }

theorem resolveRow_identity (at_ : Timestamp) (row : OutboxRow) :
    (resolveRow at_ row).identity = row.identity := rfl

theorem publishRow_identity (at_ : Timestamp) (row : OutboxRow) :
    (publishRow at_ row).identity = row.identity := rfl

/-- The unresolved wakeup of one command. -/
def wakeupOf (tenant command : Uuid) (row : OutboxRow) : Bool :=
  row.tenantId = tenant && row.commandId = command && row.resolvedAt.isNone

def commandOf (tenant command : Uuid) (row : CommandRow) : Bool :=
  row.tenantId = tenant && row.id = command

/-! ## The dispatcher -/

/-- A wakeup a worker may take now. -/
def claimable (tenant : Uuid) (now : Timestamp) (commands : List CommandRow) (row : OutboxRow) : Bool :=
  row.tenantId = tenant && row.resolvedAt.isNone &&
    commands.any (fun command => command.tenantId = row.tenantId && command.id = row.commandId &&
      command.status.deliverable) &&
    ((row.status = .pending && row.availableAt ≤ now) ||
      (row.status = .leased && row.leaseExpiresAt.any (· ≤ now)))

/-- `ORDER BY o.id LIMIT p_limit FOR UPDATE SKIP LOCKED`; a NULL limit is none. -/
def takeInOrder (limit : Option Int) (locked : OutboxRow → Bool) (rows : List OutboxRow) : List Nat :=
  let ids := ((rows.filter (fun row => !locked row)).map OutboxRow.id).insertionSort (· ≤ ·)
  match limit with
  | none => ids
  | some limit => ids.take limit.toNat

def leaseRow (worker : String) (until_ : Option Timestamp) (row : OutboxRow) : OutboxRow :=
  { row with
    status := .leased
    leaseOwner := some worker
    leaseExpiresAt := until_
    attemptCount := row.attemptCount + 1
    lastError := none }

theorem leaseRow_identity (worker : String) (until_ : Option Timestamp) (row : OutboxRow) :
    (leaseRow worker until_ row).identity = row.identity := rfl

structure ClaimArgs where
  tenantId : Uuid
  worker : Option String
  limit : Option Int
  leaseFor : Option Interval

structure ClaimedRow where
  outboxId : Nat
  commandId : Uuid
  deviceId : Uuid
  kind : CommandKind
  payload : Jsonb
  attemptCount : Nat
  deriving DecidableEq, Repr

/-- `app.claim_command_outbox`. A comparison with a NULL argument is not true, so
neither of its range checks fires on one. -/
def claimCommandOutbox (calendar : Calendar) (context : Option Uuid) (args : ClaimArgs)
    (locked : OutboxRow → Bool) (now : Timestamp) (db : CommandDb) :
    Except PgError (CommandDb × List ClaimedRow) := do
  tenantGuard context args.tenantId "outbox claim tenant"
  match args.worker with
  | none => .error ⟨"22023", "outbox worker must not be empty"⟩
  | some worker =>
    if blank worker then .error ⟨"22023", "outbox worker must not be empty"⟩
    else if args.limit.any (fun limit => limit < 1 || 1000 < limit) then
      .error ⟨"22023", "outbox claim limit must be between 1 and 1000"⟩
    else if args.leaseFor.any (fun lease => lease.span ≤ 0) then
      .error ⟨"22023", "outbox lease must be positive"⟩
    else
      let ids := takeInOrder args.limit locked
        (db.outbox.rows.filter (claimable args.tenantId now db.commands.rows))
      if db.outbox.rows.any (fun row => ids.contains row.id && integerMax ≤ row.attemptCount) then
        .error ⟨"22003", "integer out of range"⟩
      else
        let until_ ← timestamp calendar.plus now args.leaseFor
        let db' ← db.updateOutbox (fun row => ids.contains row.id) (leaseRow worker until_)
          (leaseRow_identity worker until_)
        return (db', (db'.outbox.rows.filter (fun row => ids.contains row.id)).flatMap fun row =>
          (db'.commands.rows.filter (commandOf args.tenantId row.commandId)).map fun command =>
            ⟨row.id, row.commandId, command.deviceId, command.kind, command.payload, row.attemptCount⟩)

/-- A live lease of one worker on one wakeup. -/
def heldBy (tenant : Uuid) (outboxId : Nat) (worker : String) (now : Timestamp) (row : OutboxRow) :
    Bool :=
  row.tenantId = tenant && row.id = outboxId && row.resolvedAt.isNone && row.status = .leased &&
    row.leaseOwner = some worker && row.leaseExpiresAt.any (now < ·)

def markPublishedRow (now : Timestamp) (row : OutboxRow) : OutboxRow :=
  { row with
    status := .published
    leaseOwner := none
    leaseExpiresAt := none
    publishedAt := some now }

theorem markPublishedRow_identity (now : Timestamp) (row : OutboxRow) :
    (markPublishedRow now row).identity = row.identity := rfl

/-- `app.mark_command_outbox_published`. -/
def markCommandOutboxPublished (context : Option Uuid) (tenant : Uuid) (outboxId : Nat)
    (worker : Option String) (now : Timestamp) (db : CommandDb) :
    Except PgError (CommandDb × Bool) := do
  tenantGuard context tenant "outbox tenant"
  match worker with
  | none => .error ⟨"22023", "outbox worker must not be empty"⟩
  | some worker =>
    if blank worker then .error ⟨"22023", "outbox worker must not be empty"⟩
    else
      let db' ← db.updateOutbox (heldBy tenant outboxId worker now) (markPublishedRow now)
        (markPublishedRow_identity now)
      return (db', db.outbox.rows.any (heldBy tenant outboxId worker now))

/-- A published wakeup whose command is still undelivered. -/
def stale (tenant : Uuid) (before : Option Timestamp) (commands : List CommandRow) (row : OutboxRow) :
    Bool :=
  row.tenantId = tenant && row.resolvedAt.isNone && row.status = .published &&
    row.publishedAt.any (fun published => before.any (published ≤ ·)) &&
    commands.any (fun command => command.tenantId = row.tenantId && command.id = row.commandId &&
      command.status.deliverable)

def requeueRow (now : Timestamp) (row : OutboxRow) : OutboxRow :=
  { row with
    status := .pending
    availableAt := now
    publishedAt := none }

theorem requeueRow_identity (now : Timestamp) (row : OutboxRow) :
    (requeueRow now row).identity = row.identity := rfl

/-- `app.requeue_unresolved_outbox`. -/
def requeueUnresolvedOutbox (calendar : Calendar) (context : Option Uuid) (tenant : Uuid)
    (after : Option Interval) (limit : Option Int) (locked : OutboxRow → Bool) (now : Timestamp)
    (db : CommandDb) : Except PgError (CommandDb × Nat) := do
  tenantGuard context tenant "outbox tenant"
  if after.any (fun after => after.span < 0) then
    .error ⟨"22023", "outbox reconciliation delay cannot be negative"⟩
  else if limit.any (fun limit => limit < 1 || 1000 < limit) then
    .error ⟨"22023", "outbox reconciliation limit must be between 1 and 1000"⟩
  else
    let before ← timestamp calendar.minus now after
    let ids := takeInOrder limit locked
      (db.outbox.rows.filter (stale tenant before db.commands.rows))
    let db' ← db.updateOutbox (fun row => ids.contains row.id) (requeueRow now)
      (requeueRow_identity now)
    return (db', ids.length)

def retryRow (availableAt : Timestamp) (reason : String) (row : OutboxRow) : OutboxRow :=
  { row with
    status := .pending
    availableAt := availableAt
    leaseOwner := none
    leaseExpiresAt := none
    publishedAt := none
    lastError := some reason }

theorem retryRow_identity (availableAt : Timestamp) (reason : String) (row : OutboxRow) :
    (retryRow availableAt reason row).identity = row.identity := rfl

/-- `app.retry_command_outbox_wakeup`. -/
def retryCommandOutboxWakeup (context : Option Uuid) (tenant : Uuid) (outboxId : Nat)
    (worker : Option String) (availableAt : Option Timestamp) (reason : Option String)
    (now : Timestamp) (db : CommandDb) : Except PgError (CommandDb × Bool) := do
  tenantGuard context tenant "outbox retry tenant"
  match worker with
  | none => .error ⟨"22023", "outbox worker must not be empty"⟩
  | some worker =>
    if blank worker then .error ⟨"22023", "outbox worker must not be empty"⟩
    else
      match availableAt with
      | none => .error ⟨"22023", "outbox retry time must be in the future"⟩
      | some availableAt =>
        if availableAt ≤ now then .error ⟨"22023", "outbox retry time must be in the future"⟩
        else
          match reason with
          | none =>
            .error ⟨"22023", "outbox retry reason must contain at most 4096 characters"⟩
          | some reason =>
            if blank reason ∨ 4096 < reason.length then
              .error ⟨"22023", "outbox retry reason must contain at most 4096 characters"⟩
            else
              let db' ← db.updateOutbox (heldBy tenant outboxId worker now)
                (retryRow availableAt reason) (retryRow_identity availableAt reason)
              return (db', db.outbox.rows.any (heldBy tenant outboxId worker now))

/-! ## Expiry -/

/-- Written to the message when the command was never seen accepted. -/
def unreceiptedText : String :=
  "云端等到超时就不再等了。云端没有收到这台设备的接收回执，" ++
  "而接收回执不重传 —— 所以这不能证明短信没有发出去。" ++
  "重发之前先查投递回执。"

/-- Written to the message when the device had accepted the command. -/
def acceptedText : String :=
  "云端等到超时就不再等了。这台设备**接受过**这条命令，" ++
  "所以这条短信可能已经真的发出去了 —— 重发之前先查投递回执。"

def expiredResult (calendar : Calendar) (at_ : Timestamp) (reasonCode : String) : Jsonb :=
  jsonbObject [("status", .str "expired"), ("completed_at", .str (calendar.text at_)),
    ("attempts", .num 0), ("reason_code", .str reasonCode)]

def expireRow (calendar : Calendar) (at_ : Timestamp) (row : CommandRow) : CommandRow :=
  { row with
    status := .expired
    completedAt := some at_
    result := some (expiredResult calendar at_
      (if row.status = .accepted then "cloud_expired_after_accept" else "cloud_expired")) }

theorem expireRow_identity (calendar : Calendar) (at_ : Timestamp) (row : CommandRow) :
    (expireRow calendar at_ row).identity = row.identity := rfl

/-- The queued outbound message of a command. -/
def queuedMessageOf (tenant : Uuid) (ids : List Uuid) (row : MessageRow) : Bool :=
  row.tenantId = tenant && row.commandId.any ids.contains && row.direction = .outbound &&
    row.status = .queued

/-- `status = 'failed', failure_reason = COALESCE(failure_reason, text)`. -/
def failMessage (text : MessageRow → String) (row : MessageRow) : MessageRow :=
  { row with
    status := .failed
    failureReason := some (row.failureReason.getD (text row)) }

theorem failMessage_identity (text : MessageRow → String) (row : MessageRow) :
    (failMessage text row).identity = row.identity := rfl

/-- `app.expire_command`. -/
def expireCommand (calendar : Calendar) (context : Option Uuid) (tenant command : Uuid)
    (expiredAt : Option Timestamp) (db : CommandDb) : Except PgError (CommandDb × Bool) := do
  tenantGuard context tenant "command expiry tenant"
  match expiredAt with
  | none => .error ⟨"22023", "command expiry time is required"⟩
  | some expiredAt =>
    match db.commands.rows.find? (commandOf tenant command) with
    | none => .error ⟨"P0002", "command not found for tenant"⟩
    | some existing =>
      if existing.status.deliverable = false ∨ expiredAt < existing.expiresAt then .ok (db, false)
      else
        let db1 := db.updateCommands (commandOf tenant command) (expireRow calendar expiredAt)
          (expireRow_identity calendar expiredAt)
        let db2 ← db1.updateOutbox (wakeupOf tenant command) (resolveRow expiredAt)
          (resolveRow_identity expiredAt)
        return (db2.updateMessages (queuedMessageOf tenant [command])
          (failMessage (fun _ => unreceiptedText)) (failMessage_identity _), true)

/-- A command the cloud has waited too long for. -/
def overdue (now : Option Timestamp) (row : CommandRow) : Bool :=
  row.status.open && now.any (row.expiresAt ≤ ·)

/-- The wakeups of a set of commands. -/
def wakeupIn (tenant : Uuid) (ids : List Uuid) (row : OutboxRow) : Bool :=
  row.tenantId = tenant && ids.contains row.commandId && row.resolvedAt.isNone

/-- The shared body of the two sweeps: one statement over the commands `hit`
selects. -/
def expireSweep (calendar : Calendar) (tenant : Uuid) (hit : CommandRow → Bool) (now : Timestamp)
    (db : CommandDb) : Except PgError (CommandDb × Nat) := do
  let swept := db.commands.rows.filter hit
  let ids := swept.map CommandRow.id
  let db1 := db.updateCommands hit (expireRow calendar now) (expireRow_identity calendar now)
  let db2 ← db1.updateOutbox (wakeupIn tenant ids) (publishRow now) (publishRow_identity now)
  let text : MessageRow → String := fun message =>
    if swept.any (fun command => message.commandId = some command.id && command.status = .accepted)
    then acceptedText else unreceiptedText
  return (db2.updateMessages (queuedMessageOf tenant ids) (failMessage text)
    (failMessage_identity text), swept.length)

/-- `app.expire_overdue_commands`. -/
def expireOverdueCommands (calendar : Calendar) (context : Option Uuid) (tenant device : Uuid)
    (now : Option Timestamp) (db : CommandDb) : Except PgError (CommandDb × Nat) := do
  tenantGuard context tenant "command expiry tenant"
  expireSweep calendar tenant
    (fun row => row.tenantId = tenant && row.deviceId = device && overdue now row) (now.getD 0) db

/-- `app.expire_overdue_tenant_commands`. -/
def expireOverdueTenantCommands (calendar : Calendar) (context : Option Uuid) (tenant : Uuid)
    (now : Option Timestamp) (db : CommandDb) : Except PgError (CommandDb × Nat) := do
  tenantGuard context tenant "command expiry tenant"
  expireSweep calendar tenant (fun row => row.tenantId = tenant && overdue now row) (now.getD 0) db

/-! ## Deliveries, receipts and results -/

structure AttemptArgs where
  tenantId : Uuid
  commandId : Uuid
  deliveryId : Option Uuid
  attempt : Option Int
  dispatchedAt : Option Timestamp

def dispatchRow (dispatchedAt : Timestamp) (row : CommandRow) : CommandRow :=
  { row with
    status := .dispatched
    dispatchedAt := some (row.dispatchedAt.getD dispatchedAt) }

theorem dispatchRow_identity (dispatchedAt : Timestamp) (row : CommandRow) :
    (dispatchRow dispatchedAt row).identity = row.identity := rfl

/-- `COALESCE(max(attempt), 0)` of a command. -/
def lastAttempt (tenant command : Uuid) (db : CommandDb) : Nat :=
  ((db.attempts.rows.filter (fun row => row.tenantId = tenant && row.commandId = command)).map
    AttemptRow.attempt).foldl max 0

/-- `app.record_command_delivery_attempt`. -/
def recordCommandDeliveryAttempt (context : Option Uuid) (args : AttemptArgs) (db : CommandDb) :
    Except PgError (CommandDb × Bool) := do
  tenantGuard context args.tenantId "command delivery tenant"
  match args.deliveryId, args.attempt, args.dispatchedAt with
  | some deliveryId, some attempt, some dispatchedAt =>
    if attempt < 1 then
      .error ⟨"22023", "delivery ID, positive attempt, and dispatch time are required"⟩
    else
      match db.commands.rows.find? (commandOf args.tenantId args.commandId) with
      | none => .error ⟨"P0002", "command not found for tenant"⟩
      | some command =>
        match db.attempts.rows.find? (fun row =>
            row.tenantId = args.tenantId && row.deliveryId = deliveryId) with
        | some existing =>
          if existing.commandId = args.commandId ∧ (existing.attempt : Int) = attempt ∧
              existing.dispatchedAt = dispatchedAt then .ok (db, false)
          else .error ⟨"23505", "delivery ID is already bound to a different attempt"⟩
        | none =>
          if command.status.deliverable = false then .ok (db, false)
          else if command.expiresAt ≤ dispatchedAt then
            .error ⟨"22023", "cannot record delivery for an expired command"⟩
          else if attempt ≠ (lastAttempt args.tenantId args.commandId db : Int) + 1 then
            .error ⟨"22023", "delivery attempt must be the next persisted attempt"⟩
          else
            let db1 ← db.insertAttempt
              ⟨args.tenantId, args.commandId, deliveryId, attempt.toNat, dispatchedAt⟩
            return (db1.updateCommands (commandOf args.tenantId args.commandId)
              (dispatchRow dispatchedAt) (dispatchRow_identity dispatchedAt), true)
  | _, _, _ => .error ⟨"22023", "delivery ID, positive attempt, and dispatch time are required"⟩

/-- `status = 'accepted', accepted_at = COALESCE(accepted_at, at)`. -/
def acceptRow (at_ : Timestamp) (row : CommandRow) : CommandRow :=
  { row with
    status := .accepted
    acceptedAt := some (row.acceptedAt.getD at_) }

theorem acceptRow_identity (at_ : Timestamp) (row : CommandRow) :
    (acceptRow at_ row).identity = row.identity := rfl

structure ReceiptArgs where
  tenantId : Uuid
  receiptId : Option Uuid
  commandId : Option Uuid
  deliveryId : Option Uuid
  status : String
  receivedAt : Option Timestamp
  retryAt : Option Timestamp
  reasonCode : Option String

def oneDay : Int := 86400000000

/-- `NULLIF(text, '')`. -/
def nullIfEmpty (text : Option String) : Option String := text.filter (· ≠ "")

def deferRow (retryAt : Timestamp) (reasonCode : Option String) (row : OutboxRow) : OutboxRow :=
  { row with
    status := .pending
    availableAt := retryAt
    leaseOwner := none
    leaseExpiresAt := none
    publishedAt := none
    lastError := some (match reasonCode with
      | none => "edge requested retry_later"
      | some code => "edge requested retry_later: " ++ code) }

theorem deferRow_identity (retryAt : Timestamp) (reasonCode : Option String) (row : OutboxRow) :
    (deferRow retryAt reasonCode row).identity = row.identity := rfl

def jsonbText (text : Option String) : Jsonb :=
  match text with
  | none => .null
  | some text => .str text

/-- `app.apply_command_receipt`; true only for a replay of the same receipt. -/
def applyCommandReceipt (calendar : Calendar) (context : Option Uuid) (args : ReceiptArgs)
    (now : Timestamp) (db : CommandDb) : Except PgError (CommandDb × Bool) := do
  tenantGuard context args.tenantId "command receipt tenant"
  match args.receiptId, args.commandId, args.deliveryId, args.receivedAt with
  | some receiptId, some commandId, some deliveryId, some receivedAt =>
    let reasonCode := nullIfEmpty args.reasonCode
    if args.status ∉ ["accepted", "duplicate", "retry_later"] then
      .error ⟨"22023", "unsupported command receipt status"⟩
    else if reasonCode.any (fun code => 128 < code.length) then
      .error ⟨"22023", "receipt reason code must contain at most 128 characters"⟩
    else if args.status ≠ "retry_later" ∧ args.retryAt.isSome then
      .error ⟨"22023", "accepted and duplicate receipts cannot set a retry time"⟩
    else if args.status = "retry_later" ∧
        args.retryAt.all (fun retryAt => retryAt ≤ now || now + oneDay < retryAt) then
      .error ⟨"22023", "retry_later receipt must set a retry time within 24 hours"⟩
    else
      let kind ← receiptKindIn args.status
      match db.receipts.rows.find? (fun row => row.id = receiptId && row.tenantId = args.tenantId) with
      | some existing =>
        if existing.commandId = commandId ∧ existing.deliveryId = some deliveryId ∧
            existing.kind = kind ∧ existing.receivedAt = receivedAt ∧
            existing.retryAt = args.retryAt ∧ existing.reasonCode = reasonCode then .ok (db, true)
        else .error ⟨"23505", "receipt envelope ID is already bound to different evidence"⟩
      | none =>
        if db.attempts.rows.all (fun row => !(row.tenantId = args.tenantId &&
            row.commandId = commandId && row.deliveryId = deliveryId)) then
          .error ⟨"P0002", "receipt does not match a recorded command delivery"⟩
        else
          match db.commands.rows.find? (commandOf args.tenantId commandId) with
          | none => .error ⟨"P0002", "command not found for tenant"⟩
          | some command =>
            let detail := jsonbStripNulls (jsonbObject [
              ("delivery_id", .str (uuidOut deliveryId)), ("status", .str args.status),
              ("retry_at", jsonbText (args.retryAt.map calendar.text)),
              ("reason_code", jsonbText reasonCode)])
            let (db1, inserted) ← db.insertReceipt ⟨receiptId, args.tenantId, commandId, kind, detail,
              receivedAt, some deliveryId, args.retryAt, reasonCode⟩
            if inserted = false then
              .error ⟨"23505", "duplicate key value violates unique constraint \"command_receipts_pkey\""⟩
            else if args.status ≠ "retry_later" then
              let db2 := if command.status.deliverable then
                  db1.updateCommands (commandOf args.tenantId commandId) (acceptRow now)
                    (acceptRow_identity now)
                else db1
              let db3 ← db2.updateOutbox (wakeupOf args.tenantId commandId) (resolveRow now)
                (resolveRow_identity now)
              return (db3, false)
            else if command.status.deliverable then
              let retryAt := min (args.retryAt.getD 0) command.expiresAt
              let db2 ← db1.updateOutbox (wakeupOf args.tenantId commandId)
                (deferRow retryAt reasonCode) (deferRow_identity retryAt reasonCode)
              return (db2, false)
            else return (db1, false)
  | _, _, _, _ =>
    .error ⟨"22023", "receipt, command, delivery IDs and receipt time are required"⟩

/-- The five statuses a result may carry. -/
def terminalStatuses : List String := ["succeeded", "failed", "unknown", "expired", "cancelled"]

def finishRow (status : CommandStatus) (completedAt : Timestamp) (result : Jsonb) (row : CommandRow) :
    CommandRow :=
  { row with
    status := status
    completedAt := some completedAt
    result := some result }

theorem finishRow_identity (status : CommandStatus) (completedAt : Timestamp) (result : Jsonb)
    (row : CommandRow) : (finishRow status completedAt result row).identity = row.identity := rfl

structure ResultArgs where
  tenantId : Uuid
  commandId : Option Uuid
  status : String
  completedAt : Option Timestamp
  attempts : Option Int
  reasonCode : Option String
  reason : Option String
  details : Option Jsonb

/-- `app.apply_command_result`; true only for the result already persisted. -/
def applyCommandResult (calendar : Calendar) (context : Option Uuid) (args : ResultArgs)
    (now : Timestamp) (db : CommandDb) : Except PgError (CommandDb × Bool) := do
  tenantGuard context args.tenantId "command result tenant"
  match args.commandId, args.completedAt, args.attempts with
  | some commandId, some completedAt, some attempts =>
    if attempts < 0 ∨ 1000000 < attempts then
      .error ⟨"22023", "command result ID, completion time, and attempts are invalid"⟩
    else if args.status ∉ terminalStatuses then
      .error ⟨"22023", "unsupported terminal command result status"⟩
    else if args.reasonCode.any (fun code => 128 < code.length) then
      .error ⟨"22023", "result reason code must contain at most 128 characters"⟩
    else if args.reason.any (fun reason => 4096 < reason.length) then
      .error ⟨"22023", "result reason must contain at most 4096 characters"⟩
    else
      match db.commands.rows.find? (commandOf args.tenantId commandId) with
      | none => .error ⟨"P0002", "command not found for tenant"⟩
      | some command =>
        if db.attempts.rows.all (fun row =>
            !(row.tenantId = args.tenantId && row.commandId = commandId)) then
          .error ⟨"P0002", "result does not match a recorded command delivery"⟩
        else
          let status ← statusIn args.status
          let result := jsonbStripNulls (jsonbObject [
            ("status", .str args.status), ("completed_at", .str (calendar.text completedAt)),
            ("attempts", .num attempts), ("reason_code", jsonbText (nullIfEmpty args.reasonCode)),
            ("reason", jsonbText (nullIfEmpty args.reason)), ("details", args.details.getD .null)])
          if command.status.open = false then
            if command.status = status ∧ command.completedAt = some completedAt ∧
                command.result = some result then
              let db1 ← db.updateOutbox (wakeupOf args.tenantId commandId) (resolveRow now)
                (resolveRow_identity now)
              return (db1, true)
            else .error ⟨"23505", "terminal command result conflicts with persisted result"⟩
          else
            let db1 := db.updateCommands (commandOf args.tenantId commandId)
              (finishRow status completedAt result) (finishRow_identity status completedAt result)
            let db2 ← db1.updateOutbox (wakeupOf args.tenantId commandId) (resolveRow now)
              (resolveRow_identity now)
            return (db2, false)
  | _, _, _ =>
    .error ⟨"22023", "command result ID, completion time, and attempts are invalid"⟩

/-! ## The gateway's statements -/

/-- `dispatch.Receipt`; ids and status are the texts of the frame. -/
structure Receipt where
  id : String
  commandId : String
  deliveryId : String
  status : String
  receivedAt : Timestamp
  deriving DecidableEq, Repr

/-- `SQLLifecycle.RecordReceipt` in a transaction bound to `tenant`. -/
def recordReceipt (tenant : Uuid) (receipt : Receipt) (now : Timestamp) (db : CommandDb) :
    Except PgError CommandDb := do
  let id ← uuidIn receipt.id
  let commandId ← uuidIn receipt.commandId
  let kind ← receiptKindIn receipt.status
  let (db1, _) ← db.insertReceipt
    ⟨id, tenant, commandId, kind, .obj [], receipt.receivedAt, none, none, none⟩
  if receipt.status = "accepted" ∨ receipt.status = "duplicate" then
    return db1.updateCommands (fun row => commandOf tenant commandId row && row.status.deliverable)
      (fun row => { row with status := .accepted, acceptedAt := some now }) (fun _ => rfl)
  else return db1

/-- `dispatch.CommandResult`. `details` is the re-encoded JSON, absent when there
was none. -/
structure CommandResult where
  commandId : String
  status : String
  completedAt : Timestamp
  attempts : Int
  reasonCode : String
  reason : String
  details : Option Json

/-- The JSON `RecordResult` marshals; map keys come out sorted. -/
def CommandResult.detail (result : CommandResult) : Json :=
  .obj ((chars "attempts", .num result.attempts none) ::
    (result.details.toList.map fun details => (chars "details", details)) ++
    [(chars "reason", .str (chars result.reason)),
      (chars "reason_code", .str (chars result.reasonCode)),
      (chars "status", .str (chars result.status))])

/-- `COALESCE(result, '{}') || jsonb_build_object('late_result', detail)`. -/
def mergeLate (detail : Jsonb) (result : Option Jsonb) : Jsonb :=
  match result with
  | some (.obj fields) =>
    .obj (insertField "late_result" detail (fields.filter (fun field => field.1 ≠ "late_result")))
  | _ => .obj [("late_result", detail)]

def lateRow (detail : Jsonb) (row : CommandRow) : CommandRow :=
  { row with result := some (mergeLate detail row.result) }

theorem lateRow_identity (detail : Jsonb) (row : CommandRow) :
    (lateRow detail row).identity = row.identity := rfl

/-- The commands the main UPDATE of `RecordResult` reaches. -/
def resultHit (tenant command : Uuid) (row : CommandRow) : Bool :=
  commandOf tenant command row && !row.status.terminal

/-- The commands the late-result UPDATE reaches. -/
def lateHit (tenant command : Uuid) (row : CommandRow) : Bool :=
  commandOf tenant command row && (row.status = .expired || row.status = .cancelled)

/-- `SQLLifecycle.RecordResult` in a transaction bound to `tenant`. -/
def recordResult (tenant : Uuid) (result : CommandResult) (now : Timestamp) (db : CommandDb) :
    Except PgError CommandDb := do
  let status ← statusIn result.status
  let detail ← jsonbIn result.detail
  let commandId ← uuidIn result.commandId
  let changed := db.commands.rows.any (resultHit tenant commandId)
  let db1 :=
    if changed then
      db.updateCommands (resultHit tenant commandId) (finishRow status result.completedAt detail)
        (finishRow_identity status result.completedAt detail)
    else
      db.updateCommands (lateHit tenant commandId) (lateRow detail) (lateRow_identity detail)
  db1.updateOutbox (wakeupOf tenant commandId) (publishRow now) (publishRow_identity now)

/-- The answer arrived after the cloud had given up. -/
def lateText : String := "设备在云端判过期之后才答复："

/-- The outbound messages `SettleOutbound` reaches. -/
def settleHit (tenant command : Uuid) (commands : List CommandRow) (row : MessageRow) : Bool :=
  row.tenantId = tenant && row.commandId = some command && row.direction = .outbound &&
    (row.status = .queued || (row.status = .failed && commands.any (lateHit tenant command)))

def settleMessage (status : MessageStatus) (reason : String) (reference : Option Int)
    (now : Timestamp) (row : MessageRow) : MessageRow :=
  { row with
    status := if row.status = .queued then status else if status = .sent then .sent else row.status
    failureReason :=
      if row.status = .queued then nullIfEmpty (some reason)
      else if status = .sent then some (lateText ++ "这条短信已经发出，投递回执现在对得上了。")
      else some (lateText ++ (nullIfEmpty (some reason)).getD "设备没有给出原因")
    receivedAt := now
    providerReference := reference <|> row.providerReference }

theorem settleMessage_identity (status : MessageStatus) (reason : String) (reference : Option Int)
    (now : Timestamp) (row : MessageRow) :
    (settleMessage status reason reference now row).identity = row.identity := rfl

/-- `SQL.SettleOutbound`. -/
def settleOutbound (tenant : Uuid) (commandId : String) (status : MessageStatus) (reason : String)
    (reference : Option Int) (now : Timestamp) (db : CommandDb) : Except PgError CommandDb := do
  let command ← uuidIn commandId
  if '\x00' ∈ reason.toList then
    .error ⟨"22021", "invalid byte sequence for encoding \"UTF8\": 0x00"⟩
  else if reference.any (fun value => (integerMax : Int) < value) then
    .error ⟨"22003", "integer out of range"⟩
  else
    return db.updateMessages (settleHit tenant command db.commands.rows)
      (settleMessage status reason reference now) (settleMessage_identity status reason reference now)

/-- Go matches a JSON key to a struct field without regard to case; the two
letters outside ASCII that fold into it are the long s and the Kelvin sign. -/
def foldChar (c : JsonChar) : JsonChar :=
  match c with
  | .scalar 'ſ' => .scalar 's'
  | .scalar 'K' => .scalar 'k'
  | .scalar c => .scalar c.toLower
  | other => other

/-- The values a Go decoder stores into the field `name`, in order. -/
def fieldValues (name : String) (fields : List (List JsonChar × Json)) : List Json :=
  (fields.filter (fun field => field.1.map foldChar = (chars name).map foldChar)).map Prod.snd

/-- A JSON value a Go int64 field takes; null leaves the field alone. -/
def int64Value : Json → Option Int
  | .num value none =>
    if -9223372036854775808 ≤ value ∧ value ≤ 9223372036854775807 then some value else none
  | _ => none

/-- `messageReference`: the TP-MR in the details, when it decodes and is not
negative. -/
def messageReference (details : Option Json) : Option Int :=
  match details with
  | some (.obj fields) =>
    let values := fieldValues "message_reference" fields
    if values.all (fun value => match value with
        | .null => true
        | other => (int64Value other).isSome) then
      (values.getLast?.bind int64Value).filter (0 ≤ ·)
    else none
  | _ => none

/-- `settlingResults.RecordResult`: the command first, then the message; a
message that could not be settled is only logged. -/
def settlingRecordResult (tenant : Uuid) (result : CommandResult) (now : Timestamp)
    (db : CommandDb) : Except PgError CommandDb := do
  let db1 ← recordResult tenant result now db
  let status := if result.status = "succeeded" then MessageStatus.sent else .failed
  let reason := if result.reason = "" then result.reasonCode else result.reason
  match settleOutbound tenant result.commandId status reason (messageReference result.details) now
      db1 with
  | .ok db2 => return db2
  | .error _ => return db1

/-! ## The lifecycle as a system -/

/-- A call of one of the operations that write commands and wakeups. -/
inductive CommandOp where
  | enqueueCommand (registered : Uuid → Uuid → Bool) (context : Option Uuid) (args : EnqueueArgs)
      (id : Uuid) (outboxId : Nat) (now : Timestamp)
  | claimCommandOutbox (context : Option Uuid) (args : ClaimArgs) (locked : OutboxRow → Bool)
      (now : Timestamp)
  | markCommandOutboxPublished (context : Option Uuid) (tenant : Uuid) (outboxId : Nat)
      (worker : Option String) (now : Timestamp)
  | requeueUnresolvedOutbox (context : Option Uuid) (tenant : Uuid) (after : Option Interval)
      (limit : Option Int) (locked : OutboxRow → Bool) (now : Timestamp)
  | retryCommandOutboxWakeup (context : Option Uuid) (tenant : Uuid) (outboxId : Nat)
      (worker : Option String) (availableAt : Option Timestamp) (reason : Option String)
      (now : Timestamp)
  | recordCommandDeliveryAttempt (context : Option Uuid) (args : AttemptArgs)
  | applyCommandReceipt (context : Option Uuid) (args : ReceiptArgs) (now : Timestamp)
  | applyCommandResult (context : Option Uuid) (args : ResultArgs) (now : Timestamp)
  | recordReceipt (tenant : Uuid) (receipt : Receipt) (now : Timestamp)
  | recordResult (tenant : Uuid) (result : CommandResult) (now : Timestamp)
  | expireCommand (context : Option Uuid) (tenant command : Uuid) (expiredAt : Option Timestamp)
  | expireOverdueCommands (context : Option Uuid) (tenant device : Uuid) (now : Option Timestamp)
  | expireOverdueTenantCommands (context : Option Uuid) (tenant : Uuid) (now : Option Timestamp)

def CommandOp.apply (calendar : Calendar) : CommandOp → CommandDb → Except PgError CommandDb
  | .enqueueCommand registered context args id outboxId now, db =>
    (CommandLifecycle.enqueueCommand registered context args id outboxId now db).map Prod.fst
  | .claimCommandOutbox context args locked now, db =>
    (CommandLifecycle.claimCommandOutbox calendar context args locked now db).map Prod.fst
  | .markCommandOutboxPublished context tenant outboxId worker now, db =>
    (CommandLifecycle.markCommandOutboxPublished context tenant outboxId worker now db).map Prod.fst
  | .requeueUnresolvedOutbox context tenant after limit locked now, db =>
    (CommandLifecycle.requeueUnresolvedOutbox calendar context tenant after limit locked now db).map
      Prod.fst
  | .retryCommandOutboxWakeup context tenant outboxId worker availableAt reason now, db =>
    (CommandLifecycle.retryCommandOutboxWakeup context tenant outboxId worker availableAt reason now
      db).map Prod.fst
  | .recordCommandDeliveryAttempt context args, db =>
    (CommandLifecycle.recordCommandDeliveryAttempt context args db).map Prod.fst
  | .applyCommandReceipt context args now, db =>
    (CommandLifecycle.applyCommandReceipt calendar context args now db).map Prod.fst
  | .applyCommandResult context args now, db =>
    (CommandLifecycle.applyCommandResult calendar context args now db).map Prod.fst
  | .recordReceipt tenant receipt now, db => CommandLifecycle.recordReceipt tenant receipt now db
  | .recordResult tenant result now, db => CommandLifecycle.recordResult tenant result now db
  | .expireCommand context tenant command expiredAt, db =>
    (CommandLifecycle.expireCommand calendar context tenant command expiredAt db).map Prod.fst
  | .expireOverdueCommands context tenant device now, db =>
    (CommandLifecycle.expireOverdueCommands calendar context tenant device now db).map Prod.fst
  | .expireOverdueTenantCommands context tenant now, db =>
    (CommandLifecycle.expireOverdueTenantCommands calendar context tenant now db).map Prod.fst

end VodogeCloud.Source.CommandLifecycle
