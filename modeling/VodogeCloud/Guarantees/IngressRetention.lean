import VodogeCloud.Lib.Transactions
import VodogeCloud.Source.IngressWrites

/-!
# Acknowledgements are never retracted

`app.prune_ingress` deletes from the table the acknowledged prefix is computed
from. The argument is that the mark only crosses sequences that are stored
(`pruneCeiling_covered`), so it stays inside the prefix, and the prefix counted
from a base inside it ends where it ended before. The two inserting functions
only add rows and never write the mark.
-/

set_option autoImplicit false

namespace VodogeCloud.Guarantees.IngressRetention

open VodogeCloud.Lib VodogeCloud.Lib.SequenceGaps VodogeCloud.Lib.Transactions
open VodogeCloud.Source.Postgres VodogeCloud.Source.IngressWindow VodogeCloud.Source.IngressWrites

/-! ## Inserting -/

/-- `db'` has every row of `db` and the same marks. -/
structure Extends (db db' : IngressDb) : Prop where
  rows : ∀ row ∈ db.ingress, row ∈ db'.ingress
  marks : db'.pruned = db.pruned

theorem Extends.refl (db : IngressDb) : Extends db db := ⟨fun _ member => member, rfl⟩

theorem Extends.committed_le {db db' : IngressDb} (h : Extends db db') (tenant device : Uuid) :
    (db.window tenant device).committedThrough ≤ (db'.window tenant device).committedThrough := by
  have before := window_committed db tenant device
  have after := window_committed db' tenant device
  have sameBase : db'.base tenant device = db.base tenant device := by
    simp only [IngressDb.base, h.marks]
  rw [sameBase] at after
  refine before.mono ?_ after
  rintro seq ⟨row, member, owned, rfl⟩
  exact ⟨row, h.rows row member, owned, rfl⟩

theorem insertIngress_extends {db db' : IngressDb} {row : IngressRow} {inserted : Bool}
    (h : insertIngress db row = .ok (db', inserted)) : Extends db db' := by
  rcases insertIngress_cases h with ⟨_, rfl, _⟩ | ⟨_, _, members, _, marks⟩
  · exact Extends.refl _
  · exact ⟨fun other member => (members other).mpr (Or.inl member), marks⟩

variable {σ : Type} {project : σ → IngressRow → Except PgError σ}

theorem acceptIngress_extends {context : Option Uuid} {args : AcceptArgs} {now : Timestamp}
    {db db' : IngressDb} {rest rest' : σ} {status : AcceptStatus} {window : WindowRow}
    (h : acceptIngress project context args now db rest = .ok (db', rest', status, window)) :
    Extends db db' := by
  rcases (acceptIngress_cases h).2.2 with ⟨_, rfl, _⟩ | ⟨_, _, attempt, _⟩
  · exact Extends.refl _
  · exact insertIngress_extends attempt

theorem recordUnstorableIngress_extends {context : Option Uuid} {args : UnstorableArgs}
    {now : Timestamp} {recordedAt : String} {db db' : IngressDb} {status : AcceptStatus}
    (h : recordUnstorableIngress context args now recordedAt db = .ok (db', status)) :
    Extends db db' := by
  obtain ⟨_, _, attempt, _⟩ := recordUnstorableIngress_inserts h
  exact insertIngress_extends attempt

/-! ## Pruning -/

/-- The mark only crosses sequences that are stored. -/
theorem pruneCeiling_covered (db : IngressDb) (tenant device : Uuid) (limited : Nat) :
    Covered (db.stored tenant device) (db.base tenant device)
      (pruneCeiling (db.base tenant device) limited
        (db.above tenant device (db.base tenant device))) := by
  set base := db.base tenant device with baseDef
  set within := (db.above tenant device base).filter (fun row => row.seq ≤ limited) with withinDef
  have facts : ∀ row ∈ within, base < row.seq ∧ row.seq ≤ limited ∧
      row.seq ∈ db.stored tenant device ∧ row.of tenant device := by
    intro row member
    obtain ⟨inAbove, below⟩ := List.mem_filter.mp member
    obtain ⟨inTable, owned, beyond⟩ := mem_above.mp inAbove
    exact ⟨beyond, by simpa using below, ⟨row, inTable, owned, rfl⟩, owned⟩
  have nodup : (within.map IngressRow.seq).Nodup :=
    seqs_nodup (List.filter_sublist.trans List.filter_sublist) (fun row member => (facts row member).2.2.2)
  show Covered _ base (if within.length = limited - base then limited
    else maxInPosition base (orderedSeqs within))
  split
  · next count =>
    refine covered_of_count nodup ?_ (by simpa using count)
    intro s member
    obtain ⟨row, inWithin, rfl⟩ := List.mem_map.mp member
    obtain ⟨lower, upper, stored, _⟩ := facts row inWithin
    exact ⟨lower, upper, stored⟩
  · have sorted := orderedSeqs_sorted nodup
    have beyond : ∀ s ∈ orderedSeqs within, base < s := by
      intro s member
      obtain ⟨row, inWithin, rfl⟩ := mem_orderedSeqs.mp member
      exact (facts row inWithin).1
    rw [maxInPosition_eq_prefixWalk base _ sorted beyond]
    refine covered_mono ?_ (prefixWalk_isPrefixEnd base _ sorted beyond).1.2
    intro s member
    obtain ⟨row, inWithin, rfl⟩ := mem_orderedSeqs.mp member
    exact (facts row inWithin).2.2.1

section AdvanceMark

variable (tenant device : Uuid) (cutoff : Option Timestamp) (base ceiling deleted : Nat)
  (positive : 0 < ceiling) (db : IngressDb)

/-- The deletion does not reach above the ceiling, nor into another device. -/
theorem advanceMark_stored {tenant' device' : Uuid} {seq : Nat}
    (outside : (tenant', device') ≠ (tenant, device) ∨ ceiling < seq) :
    seq ∈ (advanceMark tenant device cutoff base ceiling deleted positive db).stored tenant' device' ↔
      seq ∈ db.stored tenant' device' := by
  constructor
  · rintro ⟨row, member, owned, rfl⟩
    exact ⟨row, (Table.mem_delete.mp member).1, owned, rfl⟩
  · rintro ⟨row, member, owned, rfl⟩
    refine ⟨row, Table.mem_delete.mpr ⟨member, ?_⟩, owned, rfl⟩
    rw [Bool.eq_false_iff]
    intro hit
    simp only [pruneHit, IngressRow.of, Bool.and_eq_true, decide_eq_true_eq] at hit owned
    rcases outside with other | beyond
    · obtain ⟨⟨⟨⟨⟨sameTenant, sameDevice⟩, _⟩, _⟩, _⟩, _⟩ := hit
      exact other (by rw [← owned.1, ← owned.2, sameTenant, sameDevice])
    · omega

theorem advanceMark_base (raised : db.base tenant device < ceiling) :
    (advanceMark tenant device cutoff base ceiling deleted positive db).base tenant device =
      ceiling := by
  have found : (advanceMark tenant device cutoff base ceiling deleted positive db).pruned.find
      (tenant, device) = _ := Table.find_upsert_self
  simp only [IngressDb.base, found] at raised ⊢
  cases old : db.pruned.find (tenant, device) with
  | none => simp [PrunedRow.key, old]
  | some mark =>
    simp only [PrunedRow.key, old, Option.map_some, Option.getD_some, raiseMark] at raised ⊢
    omega

theorem advanceMark_base_other {tenant' device' : Uuid}
    (other : (tenant', device') ≠ (tenant, device)) :
    (advanceMark tenant device cutoff base ceiling deleted positive db).base tenant' device' =
      db.base tenant' device' := by
  have found : (advanceMark tenant device cutoff base ceiling deleted positive db).pruned.find
      (tenant', device') = db.pruned.find (tenant', device') := Table.find_upsert_of_ne other
  simp only [IngressDb.base, found]

/-- Moving a device's mark inside its prefix changes no window. -/
theorem advanceMark_window (raised : db.base tenant device < ceiling)
    (covered : Covered (db.stored tenant device) (db.base tenant device) ceiling)
    (tenant' device' : Uuid) :
    (advanceMark tenant device cutoff base ceiling deleted positive db).window tenant' device' =
      db.window tenant' device' := by
  have same : ∀ {seq : Nat}, (tenant', device') ≠ (tenant, device) ∨ ceiling < seq → _ :=
    @advanceMark_stored tenant device cutoff base ceiling deleted positive db tenant' device'
  have before := window_committed db tenant' device'
  have after := window_committed
    (advanceMark tenant device cutoff base ceiling deleted positive db) tenant' device'
  by_cases this : (tenant', device') = (tenant, device)
  · obtain ⟨rfl, rfl⟩ := Prod.mk.inj this
    have inside : ceiling ≤ (db.window tenant' device').committedThrough :=
      before.2 ⟨Nat.le_of_lt raised, covered⟩
    rw [advanceMark_base tenant' device' cutoff base ceiling deleted positive db raised] at after
    have rebased := before.rebase (Nat.le_of_lt raised) inside (fun s beyond => same (Or.inr beyond))
    refine window_eq_of (after.unique rebased) fun s beyond => ?_
    exact same (Or.inr (Nat.lt_of_le_of_lt inside beyond))
  · rw [advanceMark_base_other tenant device cutoff base ceiling deleted positive db this] at after
    have rebased := before.rebase (Nat.le_refl _) before.1.1 (fun s _ => same (Or.inl this))
    exact window_eq_of (after.unique rebased) fun s _ => same (Or.inl this)

end AdvanceMark

/-- Nothing is added, and only `DeviceState` rows go. -/
structure Thins (db db' : IngressDb) : Prop where
  subset : ∀ row ∈ db'.ingress, row ∈ db.ingress
  keeps : ∀ row ∈ db.ingress, row.kind ≠ "DeviceState" → row ∈ db'.ingress

theorem Thins.refl (db : IngressDb) : Thins db db := ⟨fun _ h => h, fun _ h _ => h⟩

theorem Thins.trans {a b c : IngressDb} (first : Thins a b) (second : Thins b c) : Thins a c :=
  ⟨fun row member => first.subset row (second.subset row member),
    fun row member other => second.keeps row (first.keeps row member other) other⟩

theorem pruneDevice_thins {tenant device : Uuid} {cutoff : Option Timestamp} {limit deleted : Nat}
    {db db' : IngressDb} (h : pruneDevice tenant cutoff limit db device = .ok (db', deleted)) :
    Thins db db' := by
  obtain ⟨bound, _, h⟩ := bind_success h
  dsimp only at h
  split at h
  · cases h
    exact Thins.refl _
  · split at h
    · cases h
      exact Thins.refl _
    · obtain ⟨count, _, h⟩ := bind_success h
      obtain ⟨_, _, h⟩ := bind_success h
      cases h
      refine ⟨fun row member => (Table.mem_delete.mp member).1, fun row member other => ?_⟩
      refine Table.mem_delete.mpr ⟨member, ?_⟩
      simp [pruneHit, other]

theorem pruneDevice_window {tenant device : Uuid} {cutoff : Option Timestamp} {limit deleted : Nat}
    {db db' : IngressDb} (h : pruneDevice tenant cutoff limit db device = .ok (db', deleted))
    (tenant' device' : Uuid) : db'.window tenant' device' = db.window tenant' device' := by
  obtain ⟨bound, _, h⟩ := bind_success h
  dsimp only at h
  split at h
  · cases h
    rfl
  · split at h
    · cases h
      rfl
    · next raised =>
      obtain ⟨count, _, h⟩ := bind_success h
      obtain ⟨_, _, h⟩ := bind_success h
      cases h
      exact advanceMark_window _ _ _ _ _ _ _ _ (Nat.lt_of_not_le raised)
        (pruneCeiling_covered db tenant device _) tenant' device'

/-- What every turn of the loop keeps, the loop keeps. -/
theorem pruneLoop_keeps {R : IngressDb → IngressDb → Prop} (refl : ∀ db, R db db)
    (trans : ∀ {a b c}, R a b → R b c → R a c) {tenant : Uuid} {cutoff : Option Timestamp} {limit : Nat}
    (turns : ∀ {db db' device deleted}, pruneDevice tenant cutoff limit db device = .ok (db', deleted) → R db db')
    (devices : List Uuid) {acc acc' : IngressDb × Nat}
    (h : devices.foldlM (pruneTurn tenant cutoff limit) acc = .ok acc') : R acc.1 acc'.1 := by
  induction devices generalizing acc with
  | nil =>
    cases h
    exact refl _
  | cons device rest ih =>
    rw [List.foldlM_cons] at h
    obtain ⟨middle, turn, h⟩ := bind_success h
    obtain ⟨⟨db', deleted⟩, pruned, turn⟩ := bind_success turn
    obtain ⟨total, _, turn⟩ := bind_success turn
    cases turn
    exact trans (turns pruned) (ih h)

/-- A successful prune is its device loop. -/
theorem pruneIngress_loop {minus : Timestamp → Interval → Except PgError Timestamp}
    {context : Option Uuid} {args : PruneArgs} {db db' : IngressDb} {total : Nat}
    (h : pruneIngress minus context args db = .ok (db', total)) :
    ∃ cutoff limit devices, List.foldlM (pruneTurn args.tenantId cutoff limit) (db, 0) devices =
      .ok (db', total) := by
  unfold pruneIngress at h
  split at h
  · cases h
  · split at h
    · cases h
    · split at h
      · cases h
      · split at h
        · cases h
        · split at h
          · cases h
          · obtain ⟨cutoff, _, h⟩ := bind_success h
            exact ⟨cutoff, _, _, h⟩

/-- A prune changes no device's window. -/
theorem pruneIngress_window {minus : Timestamp → Interval → Except PgError Timestamp}
    {context : Option Uuid} {args : PruneArgs} {db db' : IngressDb} {total : Nat}
    (h : pruneIngress minus context args db = .ok (db', total)) (tenant device : Uuid) :
    db'.window tenant device = db.window tenant device := by
  obtain ⟨_, _, _, h⟩ := pruneIngress_loop h
  exact pruneLoop_keeps (R := fun db db' => db'.window tenant device = db.window tenant device) (fun _ => rfl)
    (fun first second => second.trans first) (fun pruned => pruneDevice_window pruned tenant device) _ h

theorem pruneIngress_thins {minus : Timestamp → Interval → Except PgError Timestamp}
    {context : Option Uuid} {args : PruneArgs} {db db' : IngressDb} {total : Nat}
    (h : pruneIngress minus context args db = .ok (db', total)) : Thins db db' := by
  obtain ⟨_, _, _, h⟩ := pruneIngress_loop h
  exact pruneLoop_keeps Thins.refl Thins.trans pruneDevice_thins _ h

/-! ## Whole runs -/

section Run

variable (project) (minus : Timestamp → Interval → Except PgError Timestamp)

theorem apply_committed_le {op : JournalOp} {state next : IngressDb × σ}
    (h : op.apply project minus state = .ok next) (tenant device : Uuid) :
    (state.1.window tenant device).committedThrough ≤
      (next.1.window tenant device).committedThrough := by
  cases op with
  | acceptIngress context args now =>
    obtain ⟨⟨db', rest', status, window⟩, accepted, h⟩ := bind_success h
    cases h
    exact (acceptIngress_extends accepted).committed_le tenant device
  | recordUnstorableIngress context args now recordedAt =>
    obtain ⟨⟨db', status⟩, recorded, h⟩ := bind_success h
    cases h
    exact (recordUnstorableIngress_extends recorded).committed_le tenant device
  | pruneIngress context args =>
    obtain ⟨⟨db', total⟩, pruned, h⟩ := bind_success h
    cases h
    exact le_of_eq (congrArg WindowRow.committedThrough (pruneIngress_window pruned tenant device).symm)

/-- What is not a `DeviceState` stays in the journal. -/
theorem run_keeps (state : IngressDb × σ) (ops : List JournalOp) {row : IngressRow}
    (member : row ∈ state.1.ingress) (other : row.kind ≠ "DeviceState") :
    row ∈ (run (JournalOp.apply project minus) state ops).1.ingress := by
  refine run_invariant (P := fun reached : IngressDb × σ => row ∈ reached.1.ingress) ?_ state member
    ops
  intro op reached next inside h
  cases op with
  | acceptIngress context args now =>
    obtain ⟨⟨db', rest', status, window⟩, accepted, h⟩ := bind_success h
    cases h
    exact (acceptIngress_extends accepted).rows row inside
  | recordUnstorableIngress context args now recordedAt =>
    obtain ⟨⟨db', status⟩, recorded, h⟩ := bind_success h
    cases h
    exact (recordUnstorableIngress_extends recorded).rows row inside
  | pruneIngress context args =>
    obtain ⟨⟨db', total⟩, pruned, h⟩ := bind_success h
    cases h
    exact (pruneIngress_thins pruned).keeps row inside other

/-- From any state the constraints allow, and after any sequence of calls with
any arguments: no call lowers any device's `committed_through`, and a prune
leaves the whole answer of `ingress_window` as it was, for every device and
whoever asks. -/
theorem acknowledgements_never_retracted (state : IngressDb × σ) (ops : List JournalOp) :
    (∀ tenant device,
      (state.1.window tenant device).committedThrough ≤
        ((run (JournalOp.apply project minus) state ops).1.window tenant device).committedThrough) ∧
    (∀ pruneContext args context tenant device,
      ingressWindow context tenant device
          (settle (JournalOp.apply project minus) (run (JournalOp.apply project minus) state ops)
            (.pruneIngress pruneContext args)).1 =
        ingressWindow context tenant device
          (run (JournalOp.apply project minus) state ops).1) := by
  refine ⟨fun tenant device => ?_, fun pruneContext args context tenant device => ?_⟩
  · exact run_rel
      (R := fun a b => (a.1.window tenant device).committedThrough ≤
        (b.1.window tenant device).committedThrough)
      (fun _ => Nat.le_refl _) (fun _ _ _ => Nat.le_trans)
      (fun op _ _ h => apply_committed_le project minus h tenant device) state ops
  · set reached := run (JournalOp.apply project minus) state ops
    cases outcome : pruneIngress minus pruneContext args reached.1 with
    | error err =>
      have failed : (JournalOp.pruneIngress pruneContext args).apply project minus reached =
          .error err := by
        simp [JournalOp.apply, outcome, bind, Except.bind]
      rw [settle_of_error failed]
    | ok result =>
      have committed : (JournalOp.pruneIngress pruneContext args).apply project minus reached =
          .ok (result.1, reached.2) := by
        simp [JournalOp.apply, outcome, bind, Except.bind, pure, Except.pure]
      rw [settle_of_ok committed]
      simp only [ingressWindow, pruneIngress_window outcome]

end Run

end VodogeCloud.Guarantees.IngressRetention
