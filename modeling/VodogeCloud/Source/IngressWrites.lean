import VodogeCloud.Lib.Transactions
import VodogeCloud.Source.IngressWindow

/-!
# The three writers of the journal

`app.accept_ingress` (0066_modem_registry.sql:76-523),
`app.record_unstorable_ingress` (0031_unstorable_ingress.sql:26-77) and
`app.prune_ingress` (0040_ingress_retention.sql:246-391). Each is one
transaction: an error leaves the state as it was.

The projection `accept_ingress` and the triggers of `app.ingress` run on a newly
inserted row writes other tables (devices, modems, messages, eSIM, proxy and
alert tables). It is a parameter
`project` over a state `σ` of its own, so that what is proved here holds
whatever the projection does and whichever error it raises. `now()` of the
transaction is an argument.
-/

set_option autoImplicit false

namespace VodogeCloud.Source.IngressWrites

open VodogeCloud.Lib VodogeCloud.Lib.Transactions VodogeCloud.Source.Postgres VodogeCloud.Source.IngressWindow

/-- A bigint argument. -/
structure Bigint where
  value : Int
  lower : -9223372036854775808 ≤ value
  upper : value ≤ 9223372036854775807
  deriving DecidableEq

/-- `INSERT INTO app.ingress ... ON CONFLICT (device_id, seq) DO NOTHING`. The
primary key is looked at first; the envelope index and the foreign key only see
a row that is really inserted. -/
def insertIngress (db : IngressDb) (row : IngressRow) : Except PgError (IngressDb × Bool) :=
  if range : ¬ (0 < row.seq ∧ row.seq ≤ bigintMax) then
    .error ⟨"23514", "new row for relation \"ingress\" violates check constraint \"ingress_seq_positive\""⟩
  else if object : ¬ row.payload.isObject then
    .error ⟨"23514", "new row for relation \"ingress\" violates check constraint \"ingress_payload_is_object\""⟩
  else
    match found : db.ingress.find row.key with
    | some _ => .ok (db, false)
    | none =>
      if taken : ∃ other ∈ db.ingress.rows, other.envelopeId = row.envelopeId then
        .error ⟨"23505", "duplicate key value violates unique constraint \"ingress_envelope_id_key\""⟩
      else if owner : ¬ ∃ device ∈ db.devices.rows,
          device.id = row.deviceId ∧ device.tenantId = row.tenantId then
        .error ⟨"23503", "insert or update on table \"ingress\" violates foreign key constraint \"ingress_device_tenant_fkey\""⟩
      else
        .ok ({ devices := db.devices
               ingress := db.ingress.insert row (Table.find_eq_none_iff.mp found)
               pruned := db.pruned
               valid := {
                 seqRange := Table.forall_insert db.valid.seqRange (not_not.mp range)
                 payloadObject := Table.forall_insert db.valid.payloadObject (not_not.mp object)
                 envelopeUnique := Table.unique_insert (fun _ _ => Eq.symm) db.valid.envelopeUnique
                   fun other member same => taken ⟨other, member, same⟩
                 ingressDevice := Table.forall_insert db.valid.ingressDevice (not_not.mp owner)
                 prunedPositive := db.valid.prunedPositive } }, true)

/-- What a successful INSERT did: nothing, because the key is taken, or one row
more. -/
theorem insertIngress_cases {db db' : IngressDb} {row : IngressRow} {inserted : Bool}
    (h : insertIngress db row = .ok (db', inserted)) :
    (inserted = false ∧ db' = db ∧ ∃ existing, db.ingress.find row.key = some existing) ∨
    (inserted = true ∧ db.ingress.find row.key = none ∧
      (∀ other, other ∈ db'.ingress ↔ other ∈ db.ingress ∨ other = row) ∧
      db'.devices = db.devices ∧ db'.pruned = db.pruned) := by
  unfold insertIngress at h
  split at h
  · cases h
  · split at h
    · cases h
    · split at h
      · next existing found =>
        cases h
        exact Or.inl ⟨rfl, rfl, existing, found⟩
      · next absent =>
        split at h
        · cases h
        · split at h
          · cases h
          · cases h
            refine Or.inr ⟨rfl, absent, fun other => ?_, rfl, rfl⟩
            exact @Table.mem_insert _ _ _ _ _ _ (Table.find_eq_none_iff.mp absent)

theorem insertIngress_members {db db' : IngressDb} {row : IngressRow} (h : insertIngress db row = .ok (db', true))
    (other : IngressRow) : other ∈ db'.ingress ↔ other ∈ db.ingress ∨ other = row := by
  rcases insertIngress_cases h with ⟨impossible, _⟩ | ⟨_, _, members, _⟩
  · cases impossible
  · exact members other

/-- The kinds `accept_ingress` admits. -/
def sequencedKinds : List String :=
  ["SmsReceived", "SmsStatusReport", "DeviceState", "CommandResult", "EsimInventory",
    "ProxyTraffic", "Alert"]

/-- The kinds that have a projection branch, or a trigger on the journal. -/
def projectedKinds : List String :=
  ["DeviceState", "EsimInventory", "ProxyTraffic", "SmsStatusReport", "SmsReceived", "Alert"]

inductive AcceptStatus where
  | inserted
  | duplicate
  deriving DecidableEq, Repr

structure AcceptArgs where
  tenantId : Uuid
  deviceId : Uuid
  seq : Bigint
  envelopeId : Uuid
  kind : String
  payload : Jsonb

def AcceptArgs.row (args : AcceptArgs) (now : Timestamp) : IngressRow :=
  ⟨args.deviceId, args.seq.value.toNat, args.tenantId, args.envelopeId, args.kind, args.payload, now⟩

/-- The checks before the INSERT. -/
def acceptGuards (context : Option Uuid) (args : AcceptArgs) : Except PgError Unit :=
  if some args.tenantId ≠ context then
    .error ⟨"42501", "tenant context does not match ingress tenant"⟩
  else if args.seq.value < 1 then .error ⟨"22023", "ingress seq must be >= 1"⟩
  else if args.kind ∉ sequencedKinds then
    .error ⟨"22023", "ingress kind " ++ args.kind ++ " is not a sequenced uplink kind"⟩
  else if ¬ args.payload.isObject then
    .error ⟨"22023", "ingress payload must be a JSON object"⟩
  else .ok ()

def sequenceConflict (args : AcceptArgs) : PgError :=
  ⟨"23P01", "sequence conflict for device " ++ uuidOut args.deviceId ++ " seq " ++
    toString args.seq.value⟩

/-- The stored row says the same as the offered one. Row security hides a row of
another tenant, and a hidden row compares as all NULL. -/
def sameRecord (context : Option Uuid) (args : AcceptArgs) (existing : IngressRow) : Bool :=
  some existing.tenantId = context && existing.envelopeId = args.envelopeId &&
    existing.kind = args.kind && existing.payload = args.payload

variable {σ : Type}

/-- The projection branch, taken for a newly inserted row only. -/
def projectInserted (project : σ → IngressRow → Except PgError σ) (row : IngressRow) (rest : σ) :
    Except PgError σ :=
  if row.kind ∈ projectedKinds then project rest row else .ok rest

/-- `app.accept_ingress`. -/
def acceptIngress (project : σ → IngressRow → Except PgError σ) (context : Option Uuid)
    (args : AcceptArgs) (now : Timestamp) (db : IngressDb) (rest : σ) :
    Except PgError (IngressDb × σ × AcceptStatus × WindowRow) := do
  acceptGuards context args
  let (db', inserted) ← insertIngress db (args.row now)
  if inserted then
    let rest' ← projectInserted project (args.row now) rest
    let window ← ingressWindow context args.tenantId args.deviceId db'
    return (db', rest', .inserted, window)
  else
    match db'.ingress.find (args.deviceId, args.seq.value.toNat) with
    | some existing =>
      if sameRecord context args existing then
        let window ← ingressWindow context args.tenantId args.deviceId db'
        return (db', rest, .duplicate, window)
      else .error (sequenceConflict args)
    | none => .error (sequenceConflict args)

/-- An answer of `accept_ingress`: a replay that agrees with the stored row, or one row
more, which is projected. -/
theorem acceptIngress_cases {project : σ → IngressRow → Except PgError σ} {context : Option Uuid}
    {args : AcceptArgs} {now : Timestamp} {db db' : IngressDb} {rest rest' : σ} {status : AcceptStatus}
    {window : WindowRow} (answered : acceptIngress project context args now db rest = .ok (db', rest', status, window)) :
    acceptGuards context args = .ok () ∧
      ingressWindow context args.tenantId args.deviceId db' = .ok window ∧
      ((status = .duplicate ∧ db' = db ∧ rest' = rest ∧ ∃ existing ∈ db.ingress,
          existing.key = (args.row now).key ∧ sameRecord context args existing = true) ∨
        (status = .inserted ∧ db.ingress.find (args.row now).key = none ∧
          insertIngress db (args.row now) = .ok (db', true) ∧
          projectInserted project (args.row now) rest = .ok rest')) := by
  obtain ⟨⟨⟩, guards, guarded⟩ := bind_success answered
  obtain ⟨⟨inner, inserted⟩, attempt, tail⟩ := bind_success guarded
  rcases insertIngress_cases attempt with ⟨rfl, rfl, _⟩ | ⟨rfl, absent, _⟩
  · simp only [Bool.false_eq_true, if_false] at tail
    split at tail
    · next existing found =>
      split at tail
      · next agrees =>
        obtain ⟨_, read, tail⟩ := bind_success tail
        cases tail
        obtain ⟨member, same⟩ := Table.find_eq_some_iff.mp found
        exact ⟨guards, read, Or.inl ⟨rfl, rfl, rfl, existing, member, same, agrees⟩⟩
      · cases tail
    · cases tail
  · obtain ⟨_, projected, tail⟩ := bind_success tail
    obtain ⟨_, read, tail⟩ := bind_success tail
    cases tail
    exact ⟨guards, read, Or.inr ⟨rfl, absent, attempt, projected⟩⟩

/-- The tombstone's payload. `recordedAt` is `now()` as the source formats it. -/
def tombstonePayload (kind reason recordedAt : String) : Jsonb :=
  .obj [("reason", .str (String.ofList (reason.toList.take 2000))),
    ("recorded_at", .str recordedAt), ("original_kind", .str kind)]

def unstorableKind : String := "Unstorable"

structure UnstorableArgs where
  tenantId : Uuid
  deviceId : Uuid
  seq : Bigint
  envelopeId : Uuid
  kind : String
  reason : Option String

/-- `app.record_unstorable_ingress`. The function compares no tenant itself; the
row security policy does. -/
def recordUnstorableIngress (context : Option Uuid) (args : UnstorableArgs) (now : Timestamp)
    (recordedAt : String) (db : IngressDb) : Except PgError (IngressDb × AcceptStatus) := do
  if args.seq.value ≤ 0 then
    .error ⟨"22023", "ingress seq must be positive, got " ++ toString args.seq.value⟩
  else if some args.tenantId ≠ context then
    .error ⟨"42501", "new row violates row-level security policy for table \"ingress\""⟩
  else
    let (db', inserted) ← insertIngress db ⟨args.deviceId, args.seq.value.toNat, args.tenantId,
      args.envelopeId, unstorableKind, tombstonePayload args.kind (args.reason.getD "") recordedAt,
      now⟩
    return (db', if inserted then .inserted else .duplicate)

/-- An answer of `record_unstorable_ingress` is that of one INSERT. -/
theorem recordUnstorableIngress_inserts {context : Option Uuid} {args : UnstorableArgs} {now : Timestamp}
    {recordedAt : String} {db db' : IngressDb} {status : AcceptStatus}
    (h : recordUnstorableIngress context args now recordedAt db = .ok (db', status)) :
    ∃ row inserted, insertIngress db row = .ok (db', inserted) ∧
      row.key = (args.deviceId, args.seq.value.toNat) ∧ row.kind = unstorableKind := by
  unfold recordUnstorableIngress at h
  split at h
  · cases h
  · split at h
    · cases h
    · obtain ⟨⟨inner, inserted⟩, attempt, h⟩ := bind_success h
      cases h
      exact ⟨_, inserted, attempt, rfl, rfl⟩

/-! ## Retention -/

/-- `received_at < v_cutoff`; a NULL cutoff compares as unknown. -/
def aged (cutoff : Option Timestamp) (row : IngressRow) : Bool :=
  cutoff.any (fun limit => row.receivedAt < limit)

/-- `received_at >= v_cutoff`. -/
def fresh (cutoff : Option Timestamp) (row : IngressRow) : Bool :=
  cutoff.any (fun limit => limit ≤ row.receivedAt)

/-- The highest sequence the retention window allows the mark to reach, before
the batch limit. -/
def ageCeiling (cutoff : Option Timestamp) (base : Nat) (rows : List IngressRow) : Nat :=
  match ((rows.filter (fresh cutoff)).map IngressRow.seq).min? with
  | some oldest => oldest - 1
  | none => (rows.map IngressRow.seq).max?.getD base

/-- Where the mark of one device may go: the limited ceiling, lowered to the end
of the run that is really there. -/
def pruneCeiling (base limited : Nat) (rows : List IngressRow) : Nat :=
  let within := rows.filter (fun row => row.seq ≤ limited)
  if within.length = limited - base then limited
  else maxInPosition base (orderedSeqs within)

/-- The rows the DELETE hits. -/
def pruneHit (tenant device : Uuid) (cutoff : Option Timestamp) (base ceiling : Nat)
    (row : IngressRow) : Bool :=
  row.of tenant device && base < row.seq && row.seq ≤ ceiling && row.kind = "DeviceState" &&
    aged cutoff row

/-- The `DO UPDATE SET` of the mark. -/
def raiseMark (ceiling deleted : Nat) (mark : PrunedRow) : PrunedRow :=
  { mark with
    prunedThrough := max mark.prunedThrough ceiling
    rowsPruned := mark.rowsPruned + deleted }

theorem raiseMark_key (ceiling deleted : Nat) (mark : PrunedRow) :
    (raiseMark ceiling deleted mark).key = mark.key := rfl

/-- The DELETE and the upsert of the mark. -/
def advanceMark (tenant device : Uuid) (cutoff : Option Timestamp) (base ceiling deleted : Nat)
    (positive : 0 < ceiling) (db : IngressDb) : IngressDb where
  devices := db.devices
  ingress := db.ingress.delete (pruneHit tenant device cutoff base ceiling)
  pruned := db.pruned.upsert ⟨tenant, device, ceiling, deleted⟩ (raiseMark ceiling deleted)
    (raiseMark_key ceiling deleted)
  valid := {
    seqRange := fun row member => db.valid.seqRange row (Table.mem_delete.mp member).1
    payloadObject := fun row member => db.valid.payloadObject row (Table.mem_delete.mp member).1
    envelopeUnique := fun a memberA b memberB =>
      db.valid.envelopeUnique a (Table.mem_delete.mp memberA).1 b (Table.mem_delete.mp memberB).1
    ingressDevice := fun row member => db.valid.ingressDevice row (Table.mem_delete.mp member).1
    prunedPositive := by
      intro mark member
      rcases Table.mem_upsert.mp member with ⟨old, _⟩ | ⟨old, memberOld, _, rfl⟩ | ⟨rfl, _⟩
      · exact db.valid.prunedPositive mark old
      · exact Nat.lt_of_lt_of_le (db.valid.prunedPositive old memberOld) (Nat.le_max_left _ _)
      · exact positive }

/-- One turn of the device loop; the count is `v_deleted`. -/
def pruneDevice (tenant : Uuid) (cutoff : Option Timestamp) (limit : Nat) (db : IngressDb)
    (device : Uuid) : Except PgError (IngressDb × Nat) := do
  let base := db.base tenant device
  let rows := db.above tenant device base
  let bound ← bigint (base + limit)
  let limited := min (ageCeiling cutoff base rows) bound
  if limited ≤ base then return (db, 0)
  else
    let ceiling := pruneCeiling base limited rows
    if positive : ceiling ≤ base then return (db, 0)
    else
      let deleted ← integer (db.ingress.rows.filter (pruneHit tenant device cutoff base ceiling)).length
      let _ ← bigint
        (((db.pruned.find (tenant, device)).map PrunedRow.rowsPruned).getD 0 + deleted)
      return (advanceMark tenant device cutoff base ceiling deleted (by omega) db, deleted)

/-- The loop body with its running total `v_total`. -/
def pruneTurn (tenant : Uuid) (cutoff : Option Timestamp) (limit : Nat) (acc : IngressDb × Nat)
    (device : Uuid) : Except PgError (IngressDb × Nat) := do
  let (db', deleted) ← pruneDevice tenant cutoff limit acc.1 device
  let total ← integer (acc.2 + deleted)
  return (db', total)

structure PruneArgs where
  tenantId : Uuid
  now : Option Timestamp
  retain : Option Interval
  limit : Option Int

/-- `app.prune_ingress`. `minus` is `timestamptz - interval`, which depends on
the calendar and the session's time zone. -/
def pruneIngress (minus : Timestamp → Interval → Except PgError Timestamp)
    (context : Option Uuid) (args : PruneArgs) (db : IngressDb) : Except PgError (IngressDb × Nat) :=
  if some args.tenantId ≠ context then
    .error ⟨"42501", "tenant context does not match ingress retention tenant"⟩
  else
    match args.retain with
    | none =>
      .error ⟨"22023", "ingress retention window must be at least one hour, got <NULL>"⟩
    | some retain =>
      if retain.span < Interval.hour.span then
        .error ⟨"22023", "ingress retention window must be at least one hour"⟩
      else
        match args.limit with
        | none => .error ⟨"22023", "ingress retention batch limit must be positive, got <NULL>"⟩
        | some limit =>
          if limit ≤ 0 then
            .error ⟨"22023", "ingress retention batch limit must be positive, got " ++ toString limit⟩
          else do
            let cutoff ← args.now.mapM (fun now => minus now retain)
            let devices := (db.devices.rows.filter (fun d => d.tenantId = args.tenantId)).map DeviceRow.id
            devices.foldlM (pruneTurn args.tenantId cutoff limit.toNat) (db, 0)

/-! ## The journal as a system -/

/-- A call of one of the three functions. -/
inductive JournalOp where
  | acceptIngress (context : Option Uuid) (args : AcceptArgs) (now : Timestamp)
  | recordUnstorableIngress (context : Option Uuid) (args : UnstorableArgs) (now : Timestamp)
      (recordedAt : String)
  | pruneIngress (context : Option Uuid) (args : PruneArgs)

def JournalOp.apply (project : σ → IngressRow → Except PgError σ)
    (minus : Timestamp → Interval → Except PgError Timestamp) :
    JournalOp → IngressDb × σ → Except PgError (IngressDb × σ)
  | .acceptIngress context args now, (db, rest) => do
    let (db', rest', _, _) ← IngressWrites.acceptIngress project context args now db rest
    return (db', rest')
  | .recordUnstorableIngress context args now recordedAt, (db, rest) => do
    let (db', _) ← IngressWrites.recordUnstorableIngress context args now recordedAt db
    return (db', rest)
  | .pruneIngress context args, (db, rest) => do
    let (db', _) ← IngressWrites.pruneIngress minus context args db
    return (db', rest)

end VodogeCloud.Source.IngressWrites
