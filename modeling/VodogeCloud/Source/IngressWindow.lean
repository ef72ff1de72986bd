import Mathlib.Data.List.Sort
import VodogeCloud.Lib.SequenceGaps
import VodogeCloud.Lib.Table
import VodogeCloud.Source.Postgres

/-!
# The ingress journal and its window

`app.ingress` (0003_ingress.sql:7-22), `app.ingress_pruned`
(0040_ingress_retention.sql:82-94) and `app.ingress_window`
(0040_ingress_retention.sql:135-214). Of `app.devices` only the identity is
kept: it is what the foreign keys and the retention loop read.
-/

set_option autoImplicit false

namespace VodogeCloud.Source.IngressWindow

open VodogeCloud.Lib VodogeCloud.Lib.SequenceGaps VodogeCloud.Source.Postgres

structure DeviceRow where
  id : Uuid
  tenantId : Uuid
  deriving DecidableEq, Repr

structure IngressRow where
  deviceId : Uuid
  seq : Nat
  tenantId : Uuid
  envelopeId : Uuid
  kind : String
  payload : Jsonb
  receivedAt : Timestamp
  deriving DecidableEq, Repr

/-- `ingress_device_seq_key`. -/
def IngressRow.key (row : IngressRow) : Uuid × Nat := (row.deviceId, row.seq)

structure PrunedRow where
  tenantId : Uuid
  deviceId : Uuid
  prunedThrough : Nat
  rowsPruned : Nat
  deriving DecidableEq, Repr

/-- `ingress_pruned_pkey`. -/
def PrunedRow.key (row : PrunedRow) : Uuid × Uuid := (row.tenantId, row.deviceId)

/-- The constraints the three tables carry besides their primary keys. -/
structure Constraints (devices : Table DeviceRow.id) (ingress : Table IngressRow.key)
    (pruned : Table PrunedRow.key) : Prop where
  seqRange : ∀ row ∈ ingress, 0 < row.seq ∧ row.seq ≤ bigintMax
  payloadObject : ∀ row ∈ ingress, row.payload.isObject = true
  envelopeUnique : ∀ a ∈ ingress, ∀ b ∈ ingress, a.envelopeId = b.envelopeId → a = b
  ingressDevice : ∀ row ∈ ingress,
    ∃ device ∈ devices, device.id = row.deviceId ∧ device.tenantId = row.tenantId
  prunedPositive : ∀ row ∈ pruned, 0 < row.prunedThrough

/-- The journal of every device, with its constraints. -/
structure IngressDb where
  devices : Table DeviceRow.id
  ingress : Table IngressRow.key
  pruned : Table PrunedRow.key
  valid : Constraints devices ingress pruned

/-- The rows the queries below select for one device. -/
def IngressRow.of (tenant device : Uuid) (row : IngressRow) : Bool :=
  row.tenantId = tenant && row.deviceId = device

/-- The sequences stored for one device. -/
def IngressDb.stored (db : IngressDb) (tenant device : Uuid) : Set Nat :=
  {seq | ∃ row ∈ db.ingress, row.of tenant device ∧ row.seq = seq}

/-- `COALESCE(pruned_through, 0)`. -/
def IngressDb.base (db : IngressDb) (tenant device : Uuid) : Nat :=
  ((db.pruned.find (tenant, device)).map PrunedRow.prunedThrough).getD 0

/-- The device's rows with `seq > low`. -/
def IngressDb.above (db : IngressDb) (tenant device : Uuid) (low : Nat) : List IngressRow :=
  db.ingress.rows.filter (fun row => row.of tenant device && low < row.seq)

/-- Their sequences, `ORDER BY seq`. -/
def orderedSeqs (rows : List IngressRow) : List Nat :=
  (rows.map IngressRow.seq).insertionSort (· ≤ ·)

/-- `COALESCE(MAX(t.seq), base)` over the rows whose sequence equals
`base + ROW_NUMBER() OVER (ORDER BY seq)`. -/
def maxInPosition (base : Nat) (seqs : List Nat) : Nat :=
  (((seqs.zipIdx 1).filter (fun numbered => numbered.1 = base + numbered.2)).map Prod.fst).max?.getD
    base

/-- One element of `missing_ranges`: both ends are written as text. -/
structure EncodedRange where
  fromText : String
  throughText : String
  deriving DecidableEq, Repr

def encodeRange (gap : Gap) : EncodedRange := ⟨toString gap.first, toString gap.last⟩

/-- The literal 128 of the loop. -/
def rangeLimit : Nat := 128

/-- The FOR loop over the sequences above the committed prefix. -/
def gapLoop (prev count : Nat) (ranges : List EncodedRange) : List Nat → List EncodedRange × Bool
  | [] => (ranges, false)
  | seq :: rest =>
    if prev + 1 < seq then
      if rangeLimit ≤ count then (ranges, true)
      else gapLoop seq (count + 1) (ranges ++ [encodeRange ⟨prev + 1, seq - 1⟩]) rest
    else gapLoop seq count ranges rest

structure WindowRow where
  committedThrough : Nat
  missingRanges : List EncodedRange
  moreMissing : Bool
  deriving DecidableEq, Repr

/-- What `app.ingress_window` computes once the tenant context is checked. -/
def IngressDb.window (db : IngressDb) (tenant device : Uuid) : WindowRow :=
  let base := db.base tenant device
  let committed := maxInPosition base (orderedSeqs (db.above tenant device base))
  let gaps := gapLoop committed 0 [] (orderedSeqs (db.above tenant device committed))
  ⟨committed, gaps.1, gaps.2⟩

/-- `app.ingress_window`. `context` is `app.current_tenant_id()`. -/
def ingressWindow (context : Option Uuid) (tenant device : Uuid) (db : IngressDb) :
    Except PgError WindowRow :=
  if some tenant ≠ context then
    .error ⟨"42501", "tenant context does not match ingress tenant"⟩
  else .ok (db.window tenant device)

/-! ## What the two row-number queries and the loop read off the table -/

theorem mem_above {db : IngressDb} {tenant device : Uuid} {low : Nat} {row : IngressRow} :
    row ∈ db.above tenant device low ↔
      row ∈ db.ingress ∧ row.of tenant device ∧ low < row.seq := by
  simp [IngressDb.above, List.mem_filter, Table.mem_rows]

theorem mem_orderedSeqs {rows : List IngressRow} {seq : Nat} :
    seq ∈ orderedSeqs rows ↔ ∃ row ∈ rows, row.seq = seq := by
  simp [orderedSeqs]

theorem mem_orderedSeqs_above {db : IngressDb} {tenant device : Uuid} {low seq : Nat} :
    seq ∈ orderedSeqs (db.above tenant device low) ↔
      seq ∈ db.stored tenant device ∧ low < seq := by
  rw [mem_orderedSeqs]
  constructor
  · rintro ⟨row, member, rfl⟩
    obtain ⟨inTable, owned, beyond⟩ := mem_above.mp member
    exact ⟨⟨row, inTable, owned, rfl⟩, beyond⟩
  · rintro ⟨⟨row, inTable, owned, rfl⟩, beyond⟩
    exact ⟨row, mem_above.mpr ⟨inTable, owned, beyond⟩, rfl⟩

/-- One device's rows carry pairwise different sequences: the primary key. -/
theorem seqs_nodup {db : IngressDb} {tenant device : Uuid} {rows : List IngressRow}
    (sub : rows.Sublist db.ingress.rows) (owned : ∀ row ∈ rows, row.of tenant device) :
    (rows.map IngressRow.seq).Nodup := by
  have keys : (rows.map IngressRow.key).Nodup := (sub.map _).nodup db.ingress.unique
  refine List.Nodup.of_map (fun seq => (device, seq)) ?_
  rw [List.map_map]
  refine (List.map_congr_left fun row member => ?_) ▸ keys
  have same := owned row member
  simp only [IngressRow.of, Bool.and_eq_true, decide_eq_true_eq] at same
  simp [IngressRow.key, same.2]

theorem orderedSeqs_sorted {rows : List IngressRow} (nodup : (rows.map IngressRow.seq).Nodup) :
    (orderedSeqs rows).Pairwise (· < ·) := by
  have weak : (orderedSeqs rows).Pairwise (· ≤ ·) := List.pairwise_insertionSort _ _
  have distinct : (orderedSeqs rows).Nodup := (List.perm_insertionSort _ _).nodup_iff.mpr nodup
  exact (List.Pairwise.and weak distinct).imp fun h => Nat.lt_of_le_of_ne h.1 h.2

theorem above_sorted (db : IngressDb) (tenant device : Uuid) (low : Nat) :
    (orderedSeqs (db.above tenant device low)).Pairwise (· < ·) := by
  apply orderedSeqs_sorted
  exact seqs_nodup List.filter_sublist (fun row member => (mem_above.mp member).2.1)

/-- The numbers that sit in their own position when numbering starts after
`offset`. -/
def inPosition (base offset : Nat) (seqs : List Nat) : List Nat :=
  ((seqs.zipIdx (offset + 1)).filter (fun numbered => numbered.1 = base + numbered.2)).map Prod.fst

theorem inPosition_cons (base offset head : Nat) (tail : List Nat) :
    inPosition base offset (head :: tail) =
      if head = base + offset + 1 then head :: inPosition base (offset + 1) tail
      else inPosition base (offset + 1) tail := by
  simp only [inPosition, List.zipIdx_cons, List.filter_cons, ← Nat.add_assoc, decide_eq_true_eq]
  split
  · rfl
  · rfl

theorem mem_of_mem_inPosition {base offset seq : Nat} {seqs : List Nat}
    (member : seq ∈ inPosition base offset seqs) : seq ∈ seqs := by
  induction seqs generalizing offset with
  | nil => simp [inPosition] at member
  | cons head tail ih =>
    rw [inPosition_cons] at member
    split at member
    · rcases List.mem_cons.mp member with rfl | inTail
      · simp
      · exact List.mem_cons_of_mem _ (ih inTail)
    · exact List.mem_cons_of_mem _ (ih member)

/-- Once an ascending run has left its positions it never comes back to them. -/
theorem inPosition_eq_nil {base offset : Nat} {seqs : List Nat}
    (sorted : seqs.Pairwise (· < ·)) (beyond : ∀ s ∈ seqs, base + offset + 1 < s) :
    inPosition base offset seqs = [] := by
  induction seqs generalizing offset with
  | nil => rfl
  | cons head tail ih =>
    obtain ⟨headLt, tailSorted⟩ := List.pairwise_cons.mp sorted
    have headBeyond := beyond head (by simp)
    rw [inPosition_cons, if_neg (by omega)]
    exact ih tailSorted (fun s member => by
      have := headLt s member
      omega)

theorem max_inPosition (base offset : Nat) (seqs : List Nat)
    (sorted : seqs.Pairwise (· < ·)) (above : ∀ s ∈ seqs, base + offset < s) :
    (inPosition base offset seqs).max?.getD (base + offset) = prefixWalk (base + offset) seqs := by
  induction seqs generalizing offset with
  | nil => rfl
  | cons head tail ih =>
    obtain ⟨headLt, tailSorted⟩ := List.pairwise_cons.mp sorted
    rw [inPosition_cons, prefixWalk]
    split
    · next inPlace =>
      have inner := ih (offset + 1) tailSorted (fun s member => by
        have := headLt s member
        omega)
      rw [← Nat.add_assoc] at inner
      rw [← inner, List.max?_cons]
      cases found : (inPosition base (offset + 1) tail).max? with
      | none => simp [inPlace]
      | some largest =>
        have := headLt largest (mem_of_mem_inPosition (List.max?_mem found))
        simp only [Option.elim_some, Option.getD_some]
        omega
    · next outOfPlace =>
      have headAbove := above head (by simp)
      rw [inPosition_eq_nil tailSorted (fun s member => by
        have := headLt s member
        omega)]
      rfl

/-- The row-number query walks the leading run. -/
theorem maxInPosition_eq_prefixWalk (base : Nat) (seqs : List Nat)
    (sorted : seqs.Pairwise (· < ·)) (above : ∀ s ∈ seqs, base < s) :
    maxInPosition base seqs = prefixWalk base seqs :=
  max_inPosition base 0 seqs sorted above

/-- The loop writes down the first gaps and says whether there were more. -/
theorem gapLoop_eq (prev count : Nat) (ranges : List EncodedRange) (seqs : List Nat)
    (capped : count ≤ rangeLimit) :
    gapLoop prev count ranges seqs =
      (ranges ++ ((gapsFrom prev seqs).take (rangeLimit - count)).map encodeRange,
        decide (rangeLimit - count < (gapsFrom prev seqs).length)) := by
  induction seqs generalizing prev count ranges with
  | nil => simp [gapLoop, gapsFrom]
  | cons seq rest ih =>
    rw [gapLoop, gapsFrom]
    split
    · split
      · next full =>
        have : rangeLimit - count = 0 := by omega
        simp [this]
      · next room =>
        obtain ⟨left, hleft⟩ : ∃ left, rangeLimit - count = left + 1 :=
          ⟨rangeLimit - count - 1, by omega⟩
        rw [ih _ _ _ (by omega), hleft, show rangeLimit - (count + 1) = left by omega]
        simp
    · exact ih _ _ _ capped

/-! ## The window of one device -/

theorem window_committed_run (db : IngressDb) (tenant device : Uuid) :
    IsPrefixEnd {seq | seq ∈ orderedSeqs (db.above tenant device (db.base tenant device))}
      (db.base tenant device) (db.window tenant device).committedThrough := by
  show IsPrefixEnd _ _ (maxInPosition _ _)
  have sorted := above_sorted db tenant device (db.base tenant device)
  have above : ∀ s ∈ orderedSeqs (db.above tenant device (db.base tenant device)),
      db.base tenant device < s := fun s member => (mem_orderedSeqs_above.mp member).2
  rw [maxInPosition_eq_prefixWalk _ _ sorted above]
  exact prefixWalk_isPrefixEnd _ _ sorted above

/-- `committed_through` is the end of the contiguous run above the mark. -/
theorem window_committed (db : IngressDb) (tenant device : Uuid) :
    IsPrefixEnd (db.stored tenant device) (db.base tenant device)
      (db.window tenant device).committedThrough := by
  have run := window_committed_run db tenant device
  refine run.rebase (Nat.le_refl _) run.1.1 fun s beyond => ?_
  simp [mem_orderedSeqs_above, beyond]

/-- The gaps above the committed prefix, before the cap. -/
def IngressDb.gaps (db : IngressDb) (tenant device : Uuid) : List Gap :=
  let committed := (db.window tenant device).committedThrough
  gapsFrom committed (orderedSeqs (db.above tenant device committed))

theorem gaps_gapList (db : IngressDb) (tenant device : Uuid) :
    GapList (db.stored tenant device) (db.window tenant device).committedThrough
      (db.gaps tenant device) := by
  have list := gapsFrom_gapList _ _
    (above_sorted db tenant device (db.window tenant device).committedThrough)
    (fun s member => (mem_orderedSeqs_above.mp member).2)
  refine list.congr fun s beyond => ?_
  simp [mem_orderedSeqs_above, beyond]

theorem window_ranges (db : IngressDb) (tenant device : Uuid) :
    (db.window tenant device).missingRanges =
      ((db.gaps tenant device).take rangeLimit).map encodeRange := by
  show (gapLoop _ _ _ _).1 = _
  rw [gapLoop_eq _ _ _ _ (Nat.zero_le _)]
  rfl

theorem window_more (db : IngressDb) (tenant device : Uuid) :
    (db.window tenant device).moreMissing =
      decide (rangeLimit < (db.gaps tenant device).length) := by
  show (gapLoop _ _ _ _).2 = _
  rw [gapLoop_eq _ _ _ _ (Nat.zero_le _)]
  rfl

/-- A window is determined by what it says about the stored set. -/
theorem window_eq_of {db db' : IngressDb} {tenant device : Uuid}
    (committed : (db'.window tenant device).committedThrough =
      (db.window tenant device).committedThrough)
    (same : ∀ s, (db.window tenant device).committedThrough < s →
      (s ∈ db'.stored tenant device ↔ s ∈ db.stored tenant device)) :
    db'.window tenant device = db.window tenant device := by
  have gapsEq : db'.gaps tenant device = db.gaps tenant device := by
    have list := (gaps_gapList db' tenant device)
    rw [committed] at list
    exact (list.congr same).unique (gaps_gapList db tenant device)
  have ranges := window_ranges db' tenant device
  have more := window_more db' tenant device
  rw [gapsEq, ← window_ranges db] at ranges
  rw [gapsEq, ← window_more db] at more
  cases left : db'.window tenant device
  cases right : db.window tenant device
  simp_all

end VodogeCloud.Source.IngressWindow
