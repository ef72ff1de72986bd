import VodogeCloud.Lib.Transactions
import VodogeCloud.Source.DeviceProjection

/-!
# The records a run accepts

A run of `app.accept_ingress` writes the journal at its end, so the journal is the
list of accepted records in the order of acceptance; a replay and an error write
nothing. What the tables of one device hold is then a matter of its DeviceState
records alone: a fact about the tables and these records holds after every run if
it holds of the empty list, a record of the device carries it over, and a record
of another device does not touch it.
-/

set_option autoImplicit false

namespace VodogeCloud.Guarantees.AcceptedRecords

open VodogeCloud.Lib VodogeCloud.Lib.Transactions
open VodogeCloud.Source.Postgres VodogeCloud.Source.IngressWindow VodogeCloud.Source.IngressWrites
open VodogeCloud.Source.DeviceProjection

/-- The record is a DeviceState of the device. -/
def isState (tenant device : Uuid) (record : IngressRow) : Bool :=
  record.of tenant device && record.kind = "DeviceState"

/-- The device's DeviceState records, in the order of acceptance. -/
def statesOf (tenant device : Uuid) (rows : List IngressRow) : List IngressRow :=
  rows.filter (isState tenant device)

theorem isState_iff {tenant device : Uuid} {record : IngressRow} :
    isState tenant device record = true ↔
      record.tenantId = tenant ∧ record.deviceId = device ∧ record.kind = "DeviceState" := by
  simp [isState, IngressRow.of, and_assoc]

theorem insertIngress_appends {db db' : IngressDb} {row : IngressRow}
    (h : insertIngress db row = .ok (db', true)) :
    db'.ingress.rows = db.ingress.rows ++ [row] ∧ db'.devices = db.devices := by
  unfold insertIngress at h
  split at h
  · cases h
  · split at h
    · cases h
    · split at h
      · cases h
      · split at h
        · cases h
        · split at h
          · cases h
          · cases h
            exact ⟨rfl, rfl⟩

section Step

variable {τ : Type} {casts : Casts} {others : DeviceTables → τ → IngressRow → Except PgError τ}

/-- What the record's kind does to the tables. -/
def Projects (casts : Casts) (journal : List IngressRow) (record : IngressRow)
    (tables tables' : DeviceTables) : Prop :=
  if record.kind = "DeviceState" then projectDeviceState casts journal record tables = .ok tables'
  else tables' = tables

theorem projectInserted_projects {journal : List IngressRow} {record : IngressRow}
    {before after : DeviceTables × τ}
    (h : projectInserted (projectIngress casts others journal) record before = .ok after) :
    Projects casts journal record before.1 after.1 := by
  unfold Projects
  unfold projectInserted projectIngress at h
  split
  · next state =>
    rw [if_pos (by simp [state, projectedKinds]), if_pos state] at h
    obtain ⟨projected, done, rfl⟩ := map_success h
    exact done
  · split at h
    · obtain ⟨rest, _, rfl⟩ := map_success h
      rfl
    · cases h
      rfl

/-- A call that went through changed nothing, or accepted one record. -/
theorem acceptRecord_cases {op : AcceptOp} {intake next : Intake τ}
    (h : acceptRecord casts others op intake = .ok next) :
    (next.journal = intake.journal ∧ next.tables = intake.tables) ∨
    ∃ record tables, next.journal.ingress.rows = intake.journal.ingress.rows ++ [record] ∧
      next.journal.devices = intake.journal.devices ∧
      Projects casts intake.journal.ingress.rows record intake.tables tables ∧
      next.tables = projectIngressRow record tables := by
  obtain ⟨⟨journal, ⟨tables, rest⟩, status, window⟩, accepted, h⟩ := bind_success h
  cases h
  obtain ⟨_, _, accepted⟩ := bind_success accepted
  obtain ⟨⟨db, inserted⟩, wrote, accepted⟩ := bind_success accepted
  dsimp only at accepted
  cases inserted with
  | true =>
    obtain ⟨projected, done, accepted⟩ := bind_success accepted
    obtain ⟨_, _, accepted⟩ := bind_success accepted
    cases accepted
    obtain ⟨rows, devices⟩ := insertIngress_appends wrote
    exact Or.inr ⟨_, _, rows, devices, projectInserted_projects done, rfl⟩
  | false =>
    have same : db = intake.journal := by
      rcases insertIngress_cases wrote with ⟨_, same, _⟩ | ⟨no, _⟩
      · exact same
      · cases no
    subst same
    simp only [Bool.false_eq_true, if_false] at accepted
    split at accepted
    · split at accepted
      · obtain ⟨_, _, accepted⟩ := bind_success accepted
        cases accepted
        exact Or.inl ⟨rfl, rfl⟩
      · cases accepted
    · cases accepted

end Step

/-! ## Runs -/

section Run

variable {τ : Type} {casts : Casts} {others : DeviceTables → τ → IngressRow → Except PgError τ}
  {tenant device : Uuid}

/-- Two records of one device belong to one tenant. -/
theorem sameTenant {journal : IngressDb} {a b : IngressRow} (inA : a ∈ journal.ingress)
    (inB : b ∈ journal.ingress) (same : a.deviceId = b.deviceId) : a.tenantId = b.tenantId := by
  obtain ⟨owner, inDevices, id, own⟩ := journal.valid.ingressDevice a inA
  obtain ⟨owner', inDevices', id', own'⟩ := journal.valid.ingressDevice b inB
  have one : owner = owner' := Table.eq_of_key inDevices inDevices' (id.trans (same.trans id'.symm))
  rw [← own, ← own', one]

/-- The guard of the adoptions looks at the device's own records only. -/
theorem newerState_eq {journal : IngressDb} {old log : List IngressRow} {record : IngressRow}
    (rows : journal.ingress.rows = old ++ log ++ [record])
    (fresh : ∀ row ∈ old, row.deviceId = device → row.kind ≠ "DeviceState")
    (own : isState tenant device record = true) :
    newerState (old ++ log) record = (statesOf tenant device log).any fun newer => record.seq < newer.seq := by
  obtain ⟨recordTenant, recordDevice, _⟩ := isState_iff.mp own
  have inside : ∀ row, row ∈ old ++ log → row ∈ journal.ingress := by
    intro row member
    rw [← Table.mem_rows, rows]
    exact List.mem_append_left _ member
  have recordIn : record ∈ journal.ingress := by
    rw [← Table.mem_rows, rows]
    simp
  rw [Bool.eq_iff_iff]
  simp only [newerState, statesOf, List.any_eq_true, Bool.and_eq_true, decide_eq_true_eq,
    List.mem_filter]
  constructor
  · rintro ⟨newer, member, ⟨sameDevice, state⟩, above⟩
    refine ⟨newer, ⟨?_, isState_iff.mpr ⟨?_, sameDevice.trans recordDevice, state⟩⟩, above⟩
    · rcases List.mem_append.mp member with inOld | inLog
      · exact absurd state (fresh newer inOld (sameDevice.trans recordDevice))
      · exact inLog
    · exact (sameTenant (inside newer member) recordIn sameDevice).trans recordTenant
  · rintro ⟨newer, ⟨member, own'⟩, above⟩
    obtain ⟨_, newerDevice, state⟩ := isState_iff.mp own'
    exact ⟨newer, List.mem_append_right _ member, ⟨newerDevice.trans recordDevice.symm, state⟩, above⟩

/-- The records of the device that a run has accepted, in order. -/
def acceptedStates (casts : Casts) (others : DeviceTables → τ → IngressRow → Except PgError τ)
    (start : Intake τ) (tenant device : Uuid) (ops : List AcceptOp) : List IngressRow :=
  statesOf tenant device (run (acceptRecord casts others) start ops).journal.ingress.rows

/-- The rule. `P` speaks of the device's records and of the tables. -/
theorem run_states {P : List IngressRow → DeviceTables → Prop} {start : Intake τ}
    (fresh : ∀ row ∈ start.journal.ingress, row.deviceId = device → row.kind ≠ "DeviceState")
    (init : P [] start.tables)
    (own : ∀ states journal record tables tables', isState tenant device record = true →
      (newerState journal record = states.any fun newer => record.seq < newer.seq) →
      P states tables → projectDeviceState casts journal record tables = .ok tables' →
      P (states ++ [record]) tables')
    (foreign : ∀ states journal record tables tables',
      ¬ (record.tenantId = tenant ∧ record.deviceId = device) →
      P states tables → projectDeviceState casts journal record tables = .ok tables' →
      P states tables')
    (touch : ∀ states record tables, P states tables → P states (projectIngressRow record tables))
    (ops : List AcceptOp) :
    P (acceptedStates casts others start tenant device ops)
      (run (acceptRecord casts others) start ops).tables := by
  have freshRows : statesOf tenant device start.journal.ingress.rows = [] := by
    refine List.filter_eq_nil_iff.mpr fun row member state => ?_
    obtain ⟨_, sameDevice, kind⟩ := isState_iff.mp state
    exact fresh row member sameDevice kind
  have whole := @run_invariant (Intake τ) AcceptOp PgError (acceptRecord casts others)
    (fun intake => ∃ log, intake.journal.ingress.rows = start.journal.ingress.rows ++ log ∧
      P (statesOf tenant device log) intake.tables) ?_ start ⟨[], by simp, init⟩ ops
  · obtain ⟨log, rows, holds⟩ := whole
    rw [acceptedStates, rows, statesOf, List.filter_append]
    change P (statesOf tenant device start.journal.ingress.rows ++ _) _
    rw [freshRows]
    exact holds
  · rintro op intake next ⟨log, rows, holds⟩ accepted
    rcases acceptRecord_cases accepted with ⟨sameJournal, sameTables⟩ | ⟨record, tables, rows', _, projects, written⟩
    · exact ⟨log, by rw [sameJournal, rows], by rwa [sameTables]⟩
    · refine ⟨log ++ [record], by rw [rows', rows, List.append_assoc], ?_⟩
      rw [written, statesOf, List.filter_append]
      apply touch
      unfold Projects at projects
      by_cases state : record.kind = "DeviceState"
      · rw [if_pos state] at projects
        by_cases mine : record.tenantId = tenant ∧ record.deviceId = device
        · have isOwn : isState tenant device record = true :=
            isState_iff.mpr ⟨mine.1, mine.2, state⟩
          rw [rows] at rows' projects
          simp only [List.filter_cons, isOwn, if_true, List.filter_nil]
          exact own _ _ _ _ _ isOwn (newerState_eq rows' fresh isOwn) holds projects
        · have notOwn : isState tenant device record = false := by
            rw [Bool.eq_false_iff]
            intro isOwn
            obtain ⟨t, d, _⟩ := isState_iff.mp isOwn
            exact mine ⟨t, d⟩
          simp only [List.filter_cons, notOwn, Bool.false_eq_true, if_false, List.filter_nil,
            List.append_nil]
          exact foreign _ _ _ _ _ mine holds projects
      · rw [if_neg state] at projects
        have notOwn : isState tenant device record = false := by
          rw [Bool.eq_false_iff]
          intro isOwn
          exact state (isState_iff.mp isOwn).2.2
        simp only [List.filter_cons, notOwn, Bool.false_eq_true, if_false, List.filter_nil,
          List.append_nil]
        rw [projects]
        exact holds

/-- One device's records carry pairwise different sequences. -/
theorem states_seq_nodup (journal : IngressDb) :
    ((statesOf tenant device journal.ingress.rows).map IngressRow.seq).Nodup := by
  refine @seqs_nodup journal tenant device _ List.filter_sublist fun row member => ?_
  have state := (List.mem_filter.mp member).2
  simp only [isState, Bool.and_eq_true] at state
  exact state.1

end Run

/-! ## A device to try things on -/

/-- Decimal digits, as the integer input functions read them. -/
def plainInteger (text : String) : Except PgError Int :=
  let digits : List Char → Option Nat := fun chars =>
    if chars = [] then none
    else chars.foldlM (fun value c => if c.isDigit then some (value * 10 + (c.toNat - 48)) else none) 0
  let value : Option Int := match text.toList with
    | '-' :: rest => (digits rest).map fun value => -(value : Int)
    | chars => (digits chars).map fun value => (value : Int)
  match value with
  | some value => .ok value
  | none => .error ⟨"22P02", "invalid input syntax for type bigint: \"" ++ text ++ "\""⟩

/-- The server's casts on plain integers and on the words true and false. -/
def plainCasts : Casts where
  text
    | .num value => toString value.num
    | _ => ""
  bigint := plainInteger
  integer := plainInteger
  boolean text := .ok (text = "true")
  percent text := (plainInteger text).map fun value => .value value
  toTimestamp milliseconds := .ok (milliseconds * 1000)

/-- Host columns that were never written. -/
def noHost : Host := ⟨none, none, none, none, none, none, none, none, none, none, none, none⟩

/-- Device 2 of tenant 1, enrolled and silent so far. -/
def silentDevice : Intake Unit where
  journal := {
    devices := ⟨[⟨2, 1⟩], by decide⟩
    ingress := Table.empty
    pruned := Table.empty
    valid := {
      seqRange := by decide
      payloadObject := by decide
      envelopeUnique := by decide
      ingressDevice := by decide
      prunedPositive := by decide } }
  tables := {
    devices := ⟨[⟨2, 1, none, .obj [], noHost⟩], by decide⟩
    modems := Table.empty
    registry := Table.empty
    candidates := Table.empty }
  rest := ()

/-- The device's DeviceState with the given sequence and payload. -/
def stateOp (seq : Bigint) (fields : List (String × Jsonb)) : AcceptOp where
  context := some 1
  args := ⟨1, 2, seq, BitVec.ofNat 128 seq.value.toNat, "DeviceState", .obj fields⟩
  now := 0

def firstSeq : Bigint := ⟨1, by decide, by decide⟩

def secondSeq : Bigint := ⟨2, by decide, by decide⟩

/-- The other kinds write nothing. -/
def noOthers : DeviceTables → Unit → IngressRow → Except PgError Unit := fun _ _ _ => .ok ()

/-- The device's tables after some records. -/
def afterStates (ops : List AcceptOp) : Intake Unit :=
  run (acceptRecord plainCasts noOthers) silentDevice ops

end VodogeCloud.Guarantees.AcceptedRecords
