import VodogeCloud.Source.DeviceProjection
import VodogeCloud.Source.IngressWrites

/-!
# Received messages

The `SmsReceived` branch of `app.accept_ingress` (0066_modem_registry.sql:493-532) into the
inbound rows of `app.messages` (0001_regional_data.sql:85-108, 0021_messages.sql:13-49,
0032_messages_encoding.sql:19-23), and what the console does to them: `MarkThreadRead`,
`DeleteMessage` and `DeleteThread` (apps/gateway/internal/messaging/messaging.go:388-406,
467-489). Every statement is a transaction of one tenant. The other branches of the
projection and whatever else writes their tables are a parameter.
-/

set_option autoImplicit false

namespace VodogeCloud.Source.InboundMessages

open VodogeCloud.Lib VodogeCloud.Source.Postgres VodogeCloud.Source.IngressWindow
open VodogeCloud.Source.IngressWrites VodogeCloud.Source.DeviceProjection

/-- An inbound row of `app.messages`; its status is 'received' for good. -/
structure Inbound where
  id : Uuid
  tenantId : Uuid
  deviceId : Uuid
  modemId : Option Uuid
  iccid : Option String
  peer : String
  body : String
  bearer : String
  encoding : String
  receivedAt : Timestamp
  seq : Nat
  dedupeKey : String
  readAt : Option Timestamp
  deriving DecidableEq, Repr

/-- `messages_device_seq_key`, which covers inbound rows. -/
def Inbound.key (message : Inbound) : Uuid × Nat := (message.deviceId, message.seq)

/-- The inbound rows beside the tables of the other branches. -/
structure Mailbox (τ : Type) where
  inbound : Table Inbound.key
  others : τ

/-- The tables of the other branches: how they are projected into, what the subquery for
`modem_id` finds there, and `gen_random_uuid()` for the row of a record. -/
structure Elsewhere (τ : Type) where
  project : τ → IngressRow → Except PgError τ
  modemId : τ → Uuid → Uuid → Option String → Option Uuid
  drawn : IngressRow → Uuid

def bearers : List String := ["cs", "ims", "nas", "unknown"]
def encodings : List String := ["gsm7", "ucs2", "8bit", "unknown"]

def checkViolation (name : String) : PgError :=
  ⟨"23514", "new row for relation \"messages\" violates check constraint \"" ++ name ++ "\""⟩

section Projection

variable {τ : Type} (casts : Casts) (elsewhere : Elsewhere τ)

/-- The VALUES of the INSERT and the two checks on them. -/
def inboundRow (others : τ) (record : IngressRow) : Except PgError Inbound := do
  let text := casts.field record.payload
  let bearer := (nullif (text "bearer")).getD "unknown"
  let encoding := (nullif (text "encoding")).getD "unknown"
  let receivedAt ← casts.instant record.payload "received_at"
  if bearer ∉ bearers then .error (checkViolation "messages_bearer_valid")
  else if encoding ∉ encodings then .error (checkViolation "messages_encoding_valid")
  else
    return {
      id := elsewhere.drawn record
      tenantId := record.tenantId
      deviceId := record.deviceId
      modemId := elsewhere.modemId others record.tenantId record.deviceId (text "modem_imei")
      iccid := nullif (text "iccid")
      peer := (text "peer").getD ""
      body := (text "body").getD ""
      bearer := bearer
      encoding := encoding
      receivedAt := receivedAt
      seq := record.seq
      dedupeKey := uuidOut record.envelopeId
      readAt := none }

/-- `INSERT ... ON CONFLICT (device_id, seq) WHERE direction = 'inbound' DO NOTHING`. -/
def insertInbound (message : Inbound) (inbound : Table Inbound.key) : Except PgError (Table Inbound.key) :=
  match found : inbound.find message.key with
  | some _ => .ok inbound
  | none =>
    if ∃ other ∈ inbound.rows, other.id = message.id then
      .error ⟨"23505", "duplicate key value violates unique constraint \"messages_pkey\""⟩
    else .ok (inbound.insert message (Table.find_eq_none_iff.mp found))

/-- The projection of one new record. -/
def projectRecord (mailbox : Mailbox τ) (record : IngressRow) : Except PgError (Mailbox τ) :=
  if record.kind = "SmsReceived" then do
    let message ← inboundRow casts elsewhere mailbox.others record
    let inbound ← insertInbound message mailbox.inbound
    return { mailbox with inbound := inbound }
  else do
    let others ← elsewhere.project mailbox.others record
    return { mailbox with others := others }

end Projection

/-! ## The console -/

def readNow (now : Timestamp) (message : Inbound) : Inbound := { message with readAt := some now }

theorem readNow_key (now : Timestamp) (message : Inbound) : (readNow now message).key = message.key := rfl

/-- `MarkThreadRead`. -/
def markThreadRead (tenant : Uuid) (peer : String) (now : Timestamp) (inbound : Table Inbound.key) :
    Table Inbound.key :=
  inbound.update (fun message => message.tenantId = tenant ∧ message.peer = peer ∧ message.readAt = none)
    (readNow now) (readNow_key now)

/-- `DeleteMessage`. -/
def deleteMessage (tenant id : Uuid) (inbound : Table Inbound.key) : Table Inbound.key :=
  inbound.delete fun message => message.tenantId = tenant ∧ message.id = id

/-- `DeleteThread`. -/
def deleteThread (tenant : Uuid) (peer : String) (inbound : Table Inbound.key) : Table Inbound.key :=
  inbound.delete fun message => message.tenantId = tenant ∧ message.peer = peer

/-! ## Runs -/

inductive MailOp (τ : Type) where
  | journal (op : JournalOp)
  | markThreadRead (tenant : Uuid) (peer : String) (now : Timestamp)
  | deleteMessage (tenant id : Uuid)
  | deleteThread (tenant : Uuid) (peer : String)
  /-- A write to other tables. -/
  | elsewhere (change : τ → τ)

def MailOp.apply {τ : Type} (casts : Casts) (elsewhere : Elsewhere τ)
    (minus : Timestamp → Interval → Except PgError Timestamp) :
    MailOp τ → IngressDb × Mailbox τ → Except PgError (IngressDb × Mailbox τ)
  | .journal op, state => op.apply (projectRecord casts elsewhere) minus state
  | .markThreadRead tenant peer now, (db, mailbox) =>
    .ok (db, { mailbox with inbound := InboundMessages.markThreadRead tenant peer now mailbox.inbound })
  | .deleteMessage tenant id, (db, mailbox) =>
    .ok (db, { mailbox with inbound := InboundMessages.deleteMessage tenant id mailbox.inbound })
  | .deleteThread tenant peer, (db, mailbox) =>
    .ok (db, { mailbox with inbound := InboundMessages.deleteThread tenant peer mailbox.inbound })
  | .elsewhere change, (db, mailbox) => .ok (db, { mailbox with others := change mailbox.others })

end VodogeCloud.Source.InboundMessages
