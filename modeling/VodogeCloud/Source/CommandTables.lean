import VodogeCloud.Lib.Table
import VodogeCloud.Source.Postgres

/-!
# The command tables and the statements that write them

`app.commands`, `app.command_receipts`, `app.command_outbox`
(0001_regional_data.sql:107-183), the columns and the delivery attempts of
0002_command_dispatch_lifecycle.sql:5-62, and of `app.messages` what the command
lifecycle reads or writes (0021_messages.sql, 0036_contacts_unread_and_delivery.sql).
`created_at` and `updated_at` are left out: nothing here reads them.

The functions above this file change rows only through the statements defined
here, so each constraint is argued for once. An UPDATE of the outbox is the only
one that can fail on a row it produces: `command_outbox_lease_shape` is checked.
-/

set_option autoImplicit false

namespace VodogeCloud.Source.CommandTables

open VodogeCloud.Lib VodogeCloud.Source.Postgres

/-- `app.command_kind`. -/
inductive CommandKind where
  | sendSms | restartModem | switchEsimProfile | updateCardPolicy | updateCapabilityMatrix
  | selfUpdate | runAtCommand | sendUssd | setRadio | scanOperators | selectOperator | modemReport
  | resetModemUsb | listEsimProfiles | configureProxy | proxyLifecycle | probeUpstreamProxy
  | rotateIp | setDataNetwork | setUsbnetMode | reregisterNetwork | refreshModems | readEsimInfo
  | retrieveEsimNotification | initiateEsimAuthentication | downloadEsimProfile | readLogs
  | configureApn | claimModemCandidate | renameEsimProfile | disableEsimProfile | deleteEsimProfile
  | registerModem | unregisterModem | revokeModemCandidate | reconfirmModem | updateModem
  | createModem
  deriving DecidableEq, Repr

/-- The label of a kind. -/
def CommandKind.text : CommandKind → String
  | .sendSms => "send_sms"
  | .restartModem => "restart_modem"
  | .switchEsimProfile => "switch_esim_profile"
  | .updateCardPolicy => "update_card_policy"
  | .updateCapabilityMatrix => "update_capability_matrix"
  | .selfUpdate => "self_update"
  | .runAtCommand => "run_at_command"
  | .sendUssd => "send_ussd"
  | .setRadio => "set_radio"
  | .scanOperators => "scan_operators"
  | .selectOperator => "select_operator"
  | .modemReport => "modem_report"
  | .resetModemUsb => "reset_modem_usb"
  | .listEsimProfiles => "list_esim_profiles"
  | .configureProxy => "configure_proxy"
  | .proxyLifecycle => "proxy_lifecycle"
  | .probeUpstreamProxy => "probe_upstream_proxy"
  | .rotateIp => "rotate_ip"
  | .setDataNetwork => "set_data_network"
  | .setUsbnetMode => "set_usbnet_mode"
  | .reregisterNetwork => "reregister_network"
  | .refreshModems => "refresh_modems"
  | .readEsimInfo => "read_esim_info"
  | .retrieveEsimNotification => "retrieve_esim_notification"
  | .initiateEsimAuthentication => "initiate_esim_authentication"
  | .downloadEsimProfile => "download_esim_profile"
  | .readLogs => "read_logs"
  | .configureApn => "configure_apn"
  | .claimModemCandidate => "claim_modem_candidate"
  | .renameEsimProfile => "rename_esim_profile"
  | .disableEsimProfile => "disable_esim_profile"
  | .deleteEsimProfile => "delete_esim_profile"
  | .registerModem => "register_modem"
  | .unregisterModem => "unregister_modem"
  | .revokeModemCandidate => "revoke_modem_candidate"
  | .reconfirmModem => "reconfirm_modem"
  | .updateModem => "update_modem"
  | .createModem => "create_modem"

/-- Every kind, in the order of the type. -/
def CommandKind.all : List CommandKind :=
  [.sendSms, .restartModem, .switchEsimProfile, .updateCardPolicy, .updateCapabilityMatrix,
    .selfUpdate, .runAtCommand, .sendUssd, .setRadio, .scanOperators, .selectOperator,
    .modemReport, .resetModemUsb, .listEsimProfiles, .configureProxy, .proxyLifecycle,
    .probeUpstreamProxy, .rotateIp, .setDataNetwork, .setUsbnetMode, .reregisterNetwork,
    .refreshModems, .readEsimInfo, .retrieveEsimNotification, .initiateEsimAuthentication,
    .downloadEsimProfile, .readLogs, .configureApn, .claimModemCandidate, .renameEsimProfile,
    .disableEsimProfile, .deleteEsimProfile, .registerModem, .unregisterModem,
    .revokeModemCandidate, .reconfirmModem, .updateModem, .createModem]

/-- Enum input of `app.command_kind`. -/
def commandKindIn (text : String) : Except PgError CommandKind :=
  match CommandKind.all.find? (fun kind => kind.text = text) with
  | some kind => .ok kind
  | none => .error ⟨"22P02", "invalid input value for enum app.command_kind: \"" ++ text ++ "\""⟩

/-- `app.command_status`. -/
inductive CommandStatus where
  | queued | dispatched | accepted | succeeded | failed | timedOut | expired | cancelled | unknown
  deriving DecidableEq, Repr

/-- The five statuses a command ends in. -/
def CommandStatus.terminal : CommandStatus → Bool
  | .succeeded | .failed | .unknown | .expired | .cancelled => true
  | _ => false

/-- `status IN ('queued', 'dispatched')`. -/
def CommandStatus.deliverable : CommandStatus → Bool
  | .queued | .dispatched => true
  | _ => false

/-- `status IN ('queued', 'dispatched', 'accepted')`. -/
def CommandStatus.open : CommandStatus → Bool
  | .queued | .dispatched | .accepted => true
  | _ => false

/-- Enum input of `app.command_status`. -/
def statusIn (text : String) : Except PgError CommandStatus :=
  match text with
  | "queued" => .ok .queued
  | "dispatched" => .ok .dispatched
  | "accepted" => .ok .accepted
  | "succeeded" => .ok .succeeded
  | "failed" => .ok .failed
  | "timed_out" => .ok .timedOut
  | "expired" => .ok .expired
  | "cancelled" => .ok .cancelled
  | "unknown" => .ok .unknown
  | _ => .error ⟨"22P02", "invalid input value for enum app.command_status: \"" ++ text ++ "\""⟩

/-- `app.command_receipt_kind`. -/
inductive ReceiptKind where
  | accepted | started | completed | duplicate | retryLater
  deriving DecidableEq, Repr

/-- Enum input of `app.command_receipt_kind`. -/
def receiptKindIn (text : String) : Except PgError ReceiptKind :=
  match text with
  | "accepted" => .ok .accepted
  | "started" => .ok .started
  | "completed" => .ok .completed
  | "duplicate" => .ok .duplicate
  | "retry_later" => .ok .retryLater
  | _ => .error ⟨"22P02", "invalid input value for enum app.command_receipt_kind: \"" ++ text ++ "\""⟩

/-- `app.outbox_status`. -/
inductive OutboxStatus where
  | pending | leased | published
  deriving DecidableEq, Repr

inductive Direction where
  | inbound | outbound
  deriving DecidableEq, Repr

/-- `messages_status_valid`. -/
inductive MessageStatus where
  | received | queued | sent | delivered | undelivered | failed
  deriving DecidableEq, Repr

structure CommandRow where
  id : Uuid
  tenantId : Uuid
  deviceId : Uuid
  kind : CommandKind
  payload : Jsonb
  idempotencyKey : String
  status : CommandStatus
  issuedAt : Timestamp
  expiresAt : Timestamp
  dispatchedAt : Option Timestamp
  acceptedAt : Option Timestamp
  completedAt : Option Timestamp
  result : Option Jsonb
  deriving DecidableEq, Repr

structure OutboxRow where
  id : Nat
  tenantId : Uuid
  commandId : Uuid
  status : OutboxStatus
  availableAt : Timestamp
  leaseOwner : Option String
  leaseExpiresAt : Option Timestamp
  publishedAt : Option Timestamp
  attemptCount : Nat
  lastError : Option String
  resolvedAt : Option Timestamp
  deriving DecidableEq, Repr

structure AttemptRow where
  tenantId : Uuid
  commandId : Uuid
  deliveryId : Uuid
  attempt : Nat
  dispatchedAt : Timestamp
  deriving DecidableEq, Repr

structure ReceiptRow where
  id : Uuid
  tenantId : Uuid
  commandId : Uuid
  kind : ReceiptKind
  detail : Jsonb
  receivedAt : Timestamp
  deliveryId : Option Uuid
  retryAt : Option Timestamp
  reasonCode : Option String
  deriving DecidableEq, Repr

structure MessageRow where
  id : Uuid
  tenantId : Uuid
  deviceId : Uuid
  commandId : Option Uuid
  direction : Direction
  status : MessageStatus
  failureReason : Option String
  receivedAt : Timestamp
  providerReference : Option Int
  deriving DecidableEq, Repr

/-- `command_outbox_lease_shape`. -/
def OutboxRow.leaseShape (row : OutboxRow) : Bool :=
  if row.status = .leased then row.leaseOwner.isSome && row.leaseExpiresAt.isSome
  else row.leaseOwner.isNone && row.leaseExpiresAt.isNone

/-- `command_receipts_retry_at_shape`. -/
def ReceiptRow.retryShape (row : ReceiptRow) : Bool :=
  if row.kind = .retryLater then row.retryAt.isSome else row.retryAt.isNone

/-- What no statement on `app.commands` rewrites. -/
def CommandRow.identity (row : CommandRow) : Uuid × Uuid × Uuid × String :=
  (row.id, row.tenantId, row.deviceId, row.idempotencyKey)

/-- What no statement on `app.command_outbox` rewrites. -/
def OutboxRow.identity (row : OutboxRow) : Nat × Uuid × Uuid := (row.id, row.tenantId, row.commandId)

/-- What no statement on `app.messages` rewrites. -/
def MessageRow.identity (row : MessageRow) : Uuid × Uuid × Uuid × Option Uuid × Direction :=
  (row.id, row.tenantId, row.deviceId, row.commandId, row.direction)

/-- The constraints of the five tables besides their primary keys. -/
structure Constraints (commands : Table CommandRow.id) (outbox : Table OutboxRow.id)
    (receipts : Table ReceiptRow.id) (messages : Table MessageRow.id) : Prop where
  idempotencyKey : ∀ a ∈ commands, ∀ b ∈ commands,
    a.tenantId = b.tenantId → a.idempotencyKey = b.idempotencyKey → a = b
  outboxCommand : ∀ row ∈ outbox,
    ∃ command ∈ commands, command.id = row.commandId ∧ command.tenantId = row.tenantId
  outboxUnique : ∀ a ∈ outbox, ∀ b ∈ outbox, a.commandId = b.commandId → a = b
  leaseShape : ∀ row ∈ outbox, row.leaseShape = true
  receiptCommand : ∀ row ∈ receipts,
    ∃ command ∈ commands, command.id = row.commandId ∧ command.tenantId = row.tenantId
  retryShape : ∀ row ∈ receipts, row.retryShape = true
  messageCommand : ∀ a ∈ messages, ∀ b ∈ messages,
    a.commandId.isSome → a.commandId = b.commandId → a = b

structure CommandDb where
  commands : Table CommandRow.id
  outbox : Table OutboxRow.id
  attempts : Table AttemptRow.deliveryId
  receipts : Table ReceiptRow.id
  messages : Table MessageRow.id
  valid : Constraints commands outbox receipts messages

/-- The tables as the migrations leave them. -/
def CommandDb.empty : CommandDb where
  commands := Table.empty
  outbox := Table.empty
  attempts := Table.empty
  receipts := Table.empty
  messages := Table.empty
  valid := {
    idempotencyKey := by decide
    outboxCommand := by decide
    outboxUnique := by decide
    leaseShape := by decide
    receiptCommand := by decide
    retryShape := by decide
    messageCommand := by decide }

/-! ## Statements -/

/-- `UPDATE app.commands`. -/
def CommandDb.updateCommands (db : CommandDb) (hit : CommandRow → Bool)
    (change : CommandRow → CommandRow) (keeps : ∀ row, (change row).identity = row.identity) :
    CommandDb where
  commands := db.commands.update hit change (fun row => congrArg Prod.fst (keeps row))
  outbox := db.outbox
  attempts := db.attempts
  receipts := db.receipts
  messages := db.messages
  valid := by
    have same : ∀ row, (if hit row then change row else row).identity = row.identity := by
      intro row
      split
      · exact keeps row
      · rfl
    have parts : ∀ row, (if hit row then change row else row).id = row.id ∧
        (if hit row then change row else row).tenantId = row.tenantId ∧
        (if hit row then change row else row).idempotencyKey = row.idempotencyKey := by
      intro row
      have := same row
      simp only [CommandRow.identity, Prod.mk.injEq] at this
      exact ⟨this.1, this.2.1, this.2.2.2⟩
    have owner : ∀ {id tenant : Uuid},
        (∃ command ∈ db.commands, command.id = id ∧ command.tenantId = tenant) →
        ∃ command ∈ db.commands.update hit change (fun row => congrArg Prod.fst (keeps row)),
          command.id = id ∧ command.tenantId = tenant := by
      intro id tenant found
      obtain ⟨command, member, sameId, sameTenant⟩ := found
      refine ⟨_, Table.mem_update.mpr ⟨command, member, rfl⟩, ?_, ?_⟩
      · rw [(parts command).1, sameId]
      · rw [(parts command).2.1, sameTenant]
    refine ⟨?_, ?_, db.valid.outboxUnique, db.valid.leaseShape, ?_, db.valid.retryShape,
      db.valid.messageCommand⟩
    · intro a memberA b memberB tenant key
      obtain ⟨oldA, inA, rfl⟩ := Table.mem_update.mp memberA
      obtain ⟨oldB, inB, rfl⟩ := Table.mem_update.mp memberB
      rw [(parts oldA).2.1, (parts oldB).2.1] at tenant
      rw [(parts oldA).2.2, (parts oldB).2.2] at key
      rw [db.valid.idempotencyKey oldA inA oldB inB tenant key]
    · exact fun row member => owner (db.valid.outboxCommand row member)
    · exact fun row member => owner (db.valid.receiptCommand row member)

def leaseShapeViolation : PgError :=
  ⟨"23514", "new row for relation \"command_outbox\" violates check constraint \"command_outbox_lease_shape\""⟩

/-- `UPDATE app.command_outbox`, which fails when a row it writes has no lease
shape. -/
def CommandDb.updateOutbox (db : CommandDb) (hit : OutboxRow → Bool) (change : OutboxRow → OutboxRow)
    (keeps : ∀ row, (change row).identity = row.identity) : Except PgError CommandDb :=
  if shape : ∀ row ∈ db.outbox, hit row → (change row).leaseShape = true then
    .ok {
      commands := db.commands
      outbox := db.outbox.update hit change (fun row => congrArg Prod.fst (keeps row))
      attempts := db.attempts
      receipts := db.receipts
      messages := db.messages
      valid := by
        have parts : ∀ row, (if hit row then change row else row).tenantId = row.tenantId ∧
            (if hit row then change row else row).commandId = row.commandId := by
          intro row
          split
          · have := keeps row
            simp only [OutboxRow.identity, Prod.mk.injEq] at this
            exact this.2
          · exact ⟨rfl, rfl⟩
        refine ⟨db.valid.idempotencyKey, ?_, ?_, ?_, db.valid.receiptCommand, db.valid.retryShape,
          db.valid.messageCommand⟩
        · intro row member
          obtain ⟨old, inOld, rfl⟩ := Table.mem_update.mp member
          rw [(parts old).1, (parts old).2]
          exact db.valid.outboxCommand old inOld
        · intro a memberA b memberB same
          obtain ⟨oldA, inA, rfl⟩ := Table.mem_update.mp memberA
          obtain ⟨oldB, inB, rfl⟩ := Table.mem_update.mp memberB
          rw [(parts oldA).2, (parts oldB).2] at same
          rw [db.valid.outboxUnique oldA inA oldB inB same]
        · intro row member
          obtain ⟨old, inOld, rfl⟩ := Table.mem_update.mp member
          split
          · next written => exact shape old inOld written
          · exact db.valid.leaseShape old inOld }
  else .error leaseShapeViolation

/-- `UPDATE app.messages`. -/
def CommandDb.updateMessages (db : CommandDb) (hit : MessageRow → Bool)
    (change : MessageRow → MessageRow) (keeps : ∀ row, (change row).identity = row.identity) :
    CommandDb where
  commands := db.commands
  outbox := db.outbox
  attempts := db.attempts
  receipts := db.receipts
  messages := db.messages.update hit change (fun row => congrArg Prod.fst (keeps row))
  valid := by
    have part : ∀ row, (if hit row then change row else row).commandId = row.commandId := by
      intro row
      split
      · have := keeps row
        simp only [MessageRow.identity, Prod.mk.injEq] at this
        exact this.2.2.2.1
      · rfl
    refine ⟨db.valid.idempotencyKey, db.valid.outboxCommand, db.valid.outboxUnique,
      db.valid.leaseShape, db.valid.receiptCommand, db.valid.retryShape, ?_⟩
    intro a memberA b memberB some_ same
    obtain ⟨oldA, inA, rfl⟩ := Table.mem_update.mp memberA
    obtain ⟨oldB, inB, rfl⟩ := Table.mem_update.mp memberB
    rw [part oldA] at some_ same
    rw [part oldB] at same
    rw [db.valid.messageCommand oldA inA oldB inB some_ same]

/-- `INSERT INTO app.commands ... ON CONFLICT (tenant_id, idempotency_key) DO
NOTHING`; `registered tenant device` is the device foreign key. -/
def CommandDb.insertCommand (db : CommandDb) (registered : Uuid → Uuid → Bool) (row : CommandRow) :
    Except PgError (CommandDb × Bool) :=
  if row.payload.isObject = false then
    .error ⟨"23514", "new row for relation \"commands\" violates check constraint \"commands_payload_is_object\""⟩
  else if row.expiresAt ≤ row.issuedAt then
    .error ⟨"23514", "new row for relation \"commands\" violates check constraint \"commands_expiry_after_issue\""⟩
  else if taken : ∃ other ∈ db.commands,
      other.tenantId = row.tenantId ∧ other.idempotencyKey = row.idempotencyKey then
    .ok (db, false)
  else
    match found : db.commands.find row.id with
    | some _ =>
      .error ⟨"23505", "duplicate key value violates unique constraint \"commands_pkey\""⟩
    | none =>
      if registered row.tenantId row.deviceId = false then
        .error ⟨"23503", "insert or update on table \"commands\" violates foreign key constraint \"commands_device_tenant_fkey\""⟩
      else
        .ok ({ db with
          commands := db.commands.insert row (Table.find_eq_none_iff.mp found)
          valid := by
            have kept : ∀ {id tenant : Uuid},
                (∃ command ∈ db.commands, command.id = id ∧ command.tenantId = tenant) →
                ∃ command ∈ db.commands.insert row (Table.find_eq_none_iff.mp found),
                  command.id = id ∧ command.tenantId = tenant := by
              intro id tenant existing
              obtain ⟨command, member, facts⟩ := existing
              exact ⟨command, Table.mem_insert.mpr (Or.inl member), facts⟩
            refine ⟨?_, fun o member => kept (db.valid.outboxCommand o member),
              db.valid.outboxUnique, db.valid.leaseShape,
              fun r member => kept (db.valid.receiptCommand r member), db.valid.retryShape,
              db.valid.messageCommand⟩
            intro a memberA b memberB tenant key
            rcases Table.mem_insert.mp memberA with oldA | rfl
            · rcases Table.mem_insert.mp memberB with oldB | rfl
              · exact db.valid.idempotencyKey a oldA b oldB tenant key
              · exact absurd ⟨a, oldA, tenant, key⟩ taken
            · rcases Table.mem_insert.mp memberB with oldB | rfl
              · exact absurd ⟨b, oldB, tenant.symm, key.symm⟩ taken
              · rfl }, true)

/-- `INSERT INTO app.command_outbox`. The identity column and the command key
are unique, the command has to exist. -/
def CommandDb.insertOutbox (db : CommandDb) (row : OutboxRow) : Except PgError CommandDb :=
  match found : db.outbox.find row.id with
  | some _ => .error ⟨"23505", "duplicate key value violates unique constraint \"command_outbox_pkey\""⟩
  | none =>
    if taken : ∃ other ∈ db.outbox, other.commandId = row.commandId then
      .error ⟨"23505", "duplicate key value violates unique constraint \"command_outbox_command_key\""⟩
    else if shape : row.leaseShape = false then .error leaseShapeViolation
    else if owner : ¬ ∃ command ∈ db.commands,
        command.id = row.commandId ∧ command.tenantId = row.tenantId then
      .error ⟨"23503", "insert or update on table \"command_outbox\" violates foreign key constraint \"command_outbox_command_tenant_fkey\""⟩
    else
      .ok { db with
        outbox := db.outbox.insert row (Table.find_eq_none_iff.mp found)
        valid := by
          refine ⟨db.valid.idempotencyKey, ?_, ?_, ?_, db.valid.receiptCommand, db.valid.retryShape,
            db.valid.messageCommand⟩
          · exact Table.forall_insert db.valid.outboxCommand (not_not.mp owner)
          · exact Table.unique_insert (fun _ _ => Eq.symm) db.valid.outboxUnique
              fun other member same => taken ⟨other, member, same⟩
          · exact Table.forall_insert db.valid.leaseShape (by simpa using shape) }

/-- `INSERT INTO app.command_receipts`. The CHECK is evaluated before the primary
key is looked at, the foreign key after. -/
def CommandDb.insertReceipt (db : CommandDb) (row : ReceiptRow) : Except PgError (CommandDb × Bool) :=
  if shape : row.retryShape = false then
    .error ⟨"23514", "new row for relation \"command_receipts\" violates check constraint \"command_receipts_retry_at_shape\""⟩
  else
    match found : db.receipts.find row.id with
    | some _ => .ok (db, false)
    | none =>
      if owner : ¬ ∃ command ∈ db.commands,
          command.id = row.commandId ∧ command.tenantId = row.tenantId then
        .error ⟨"23503", "insert or update on table \"command_receipts\" violates foreign key constraint \"command_receipts_command_tenant_fkey\""⟩
      else
        .ok ({ db with
          receipts := db.receipts.insert row (Table.find_eq_none_iff.mp found)
          valid := by
            refine ⟨db.valid.idempotencyKey, db.valid.outboxCommand, db.valid.outboxUnique,
              db.valid.leaseShape, ?_, ?_, db.valid.messageCommand⟩
            · exact Table.forall_insert db.valid.receiptCommand (not_not.mp owner)
            · exact Table.forall_insert db.valid.retryShape (by simpa using shape) }, true)

/-- `INSERT INTO app.command_delivery_attempts`. -/
def CommandDb.insertAttempt (db : CommandDb) (row : AttemptRow) : Except PgError CommandDb :=
  match found : db.attempts.find row.deliveryId with
  | some _ =>
    .error ⟨"23505", "duplicate key value violates unique constraint \"command_delivery_attempts_delivery_id_key\""⟩
  | none => .ok { db with attempts := db.attempts.insert row (Table.find_eq_none_iff.mp found) }

/-! ## What the statements did -/

theorem mem_updateCommands {db : CommandDb} {hit : CommandRow → Bool}
    {change : CommandRow → CommandRow} {keeps : ∀ row, (change row).identity = row.identity}
    {row : CommandRow} :
    row ∈ (db.updateCommands hit change keeps).commands ↔
      ∃ old ∈ db.commands, row = if hit old then change old else old :=
  @Table.mem_update _ _ CommandRow.id db.commands hit change (fun r => congrArg Prod.fst (keeps r)) row

theorem mem_updateMessages {db : CommandDb} {hit : MessageRow → Bool}
    {change : MessageRow → MessageRow} {keeps : ∀ row, (change row).identity = row.identity}
    {row : MessageRow} :
    row ∈ (db.updateMessages hit change keeps).messages ↔
      ∃ old ∈ db.messages, row = if hit old then change old else old :=
  @Table.mem_update _ _ MessageRow.id db.messages hit change (fun r => congrArg Prod.fst (keeps r)) row

/-- A successful outbox update: the rows, and everything else as it was. -/
theorem updateOutbox_ok {db db' : CommandDb} {hit : OutboxRow → Bool}
    {change : OutboxRow → OutboxRow} {keeps : ∀ row, (change row).identity = row.identity}
    (h : db.updateOutbox hit change keeps = .ok db') :
    (∀ row, row ∈ db'.outbox ↔ ∃ old ∈ db.outbox, row = if hit old then change old else old) ∧
      db'.commands = db.commands ∧ db'.receipts = db.receipts ∧ db'.messages = db.messages ∧
      db'.attempts = db.attempts := by
  unfold CommandDb.updateOutbox at h
  split at h
  · cases h
    refine ⟨fun row => ?_, rfl, rfl, rfl, rfl⟩
    exact @Table.mem_update _ _ OutboxRow.id db.outbox hit change (fun r => congrArg Prod.fst (keeps r)) row
  · cases h

theorem updateOutbox_rows {db db' : CommandDb} {hit : OutboxRow → Bool}
    {change : OutboxRow → OutboxRow} {keeps : ∀ row, (change row).identity = row.identity}
    (h : db.updateOutbox hit change keeps = .ok db') :
    db'.outbox.rows = db.outbox.rows.map (fun row => if hit row then change row else row) := by
  unfold CommandDb.updateOutbox at h
  split at h
  · cases h
    rfl
  · cases h

/-- An update that leaves every row it writes in shape does not fail. -/
theorem updateOutbox_succeeds (db : CommandDb) {hit : OutboxRow → Bool}
    {change : OutboxRow → OutboxRow} {keeps : ∀ row, (change row).identity = row.identity}
    (shape : ∀ row ∈ db.outbox, hit row → (change row).leaseShape = true) :
    ∃ db', db.updateOutbox hit change keeps = .ok db' := by
  unfold CommandDb.updateOutbox
  rw [dif_pos shape]
  exact ⟨_, rfl⟩

/-- A command insert that happened, or did not because the key was taken. -/
theorem insertCommand_cases {db db' : CommandDb} {registered : Uuid → Uuid → Bool}
    {row : CommandRow} {inserted : Bool}
    (h : db.insertCommand registered row = .ok (db', inserted)) :
    (inserted = false ∧ db' = db ∧ ∃ other ∈ db.commands,
      other.tenantId = row.tenantId ∧ other.idempotencyKey = row.idempotencyKey) ∨
    (inserted = true ∧
      (¬ ∃ other ∈ db.commands,
        other.tenantId = row.tenantId ∧ other.idempotencyKey = row.idempotencyKey) ∧
      (∀ other ∈ db.commands, other.id ≠ row.id) ∧
      (∀ other, other ∈ db'.commands ↔ other ∈ db.commands ∨ other = row) ∧
      db'.outbox = db.outbox ∧ db'.receipts = db.receipts ∧ db'.messages = db.messages ∧
      db'.attempts = db.attempts) := by
  unfold CommandDb.insertCommand at h
  split at h
  · cases h
  · split at h
    · cases h
    · split at h
      · next taken =>
        cases h
        exact Or.inl ⟨rfl, rfl, taken⟩
      · next free =>
        split at h
        · cases h
        · next absent =>
          split at h
          · cases h
          · cases h
            refine Or.inr ⟨rfl, free, Table.find_eq_none_iff.mp absent, fun other => ?_, rfl, rfl, rfl, rfl⟩
            exact @Table.mem_insert _ _ _ _ _ _ (Table.find_eq_none_iff.mp absent)

theorem insertOutbox_ok {db db' : CommandDb} {row : OutboxRow} (h : db.insertOutbox row = .ok db') :
    (∀ other, other ∈ db'.outbox ↔ other ∈ db.outbox ∨ other = row) ∧
      db'.commands = db.commands ∧ db'.receipts = db.receipts ∧ db'.messages = db.messages ∧
      db'.attempts = db.attempts := by
  unfold CommandDb.insertOutbox at h
  split at h
  · cases h
  · next absent =>
    split at h
    · cases h
    · split at h
      · cases h
      · split at h
        · cases h
        · cases h
          refine ⟨fun other => ?_, rfl, rfl, rfl, rfl⟩
          exact @Table.mem_insert _ _ _ _ _ _ (Table.find_eq_none_iff.mp absent)

theorem insertReceipt_cases {db db' : CommandDb} {row : ReceiptRow} {inserted : Bool}
    (h : db.insertReceipt row = .ok (db', inserted)) :
    row.retryShape = true ∧
      ((inserted = false ∧ db' = db ∧ ∃ existing, db.receipts.find row.id = some existing) ∨
      (inserted = true ∧ db.receipts.find row.id = none ∧
        (∃ command ∈ db.commands, command.id = row.commandId ∧ command.tenantId = row.tenantId) ∧
        (∀ other, other ∈ db'.receipts ↔ other ∈ db.receipts ∨ other = row) ∧
        db'.commands = db.commands ∧ db'.outbox = db.outbox ∧ db'.messages = db.messages ∧
        db'.attempts = db.attempts)) := by
  unfold CommandDb.insertReceipt at h
  split at h
  · cases h
  · next shape =>
    refine ⟨by simpa using shape, ?_⟩
    split at h
    · next existing found =>
      cases h
      exact Or.inl ⟨rfl, rfl, existing, found⟩
    · next absent =>
      split at h
      · cases h
      · next owner =>
        cases h
        refine Or.inr ⟨rfl, absent, not_not.mp owner, fun other => ?_, rfl, rfl, rfl, rfl⟩
        exact @Table.mem_insert _ _ _ _ _ _ (Table.find_eq_none_iff.mp absent)

theorem insertAttempt_ok {db db' : CommandDb} {row : AttemptRow} (h : db.insertAttempt row = .ok db') :
    db'.commands = db.commands ∧ db'.outbox = db.outbox ∧ db'.receipts = db.receipts ∧
      db'.messages = db.messages := by
  unfold CommandDb.insertAttempt at h
  split at h
  · cases h
  · cases h
    exact ⟨rfl, rfl, rfl, rfl⟩

end VodogeCloud.Source.CommandTables
