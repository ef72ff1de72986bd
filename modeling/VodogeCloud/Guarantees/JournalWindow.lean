import VodogeCloud.Source.IngressStore

/-!
# The acknowledged window is exact in both stores

The SQL side is read off `window_committed` and `gaps_gapList`. The in-memory
side is a cursor that only moves when a record arrives and a scan that visits
every number up to the largest stored one; both are shown to end, under uint64
arithmetic, at the same prefix end and the same gaps, for every order of arrival
and with replays of records already taken.
-/

set_option autoImplicit false

namespace VodogeCloud.Guarantees.JournalWindow

open VodogeCloud.Lib VodogeCloud.Lib.SequenceGaps
open VodogeCloud.Source.Postgres VodogeCloud.Source.IngressWindow
open VodogeCloud.Source.IngressStore (parseWindow readWindow parseWindow_window)
open VodogeCloud.Source.MemoryJournal

variable {β : Type}

/-- The sequences a map holds. -/
def keys (bySeq : Table (@Record.seq β)) : Set Nat := {seq | ∃ record ∈ bySeq, record.seq = seq}

/-- Every key is a positive bigint. -/
def Bounded (bySeq : Table (@Record.seq β)) : Prop :=
  ∀ record ∈ bySeq, 0 < record.seq ∧ record.seq ≤ bigintMax

theorem has_iff {bySeq : Table (@Record.seq β)} {seq : Nat} :
    has bySeq seq = true ↔ seq ∈ keys bySeq := by
  unfold has
  cases found : bySeq.find seq with
  | none =>
    have absent := Table.find_eq_none_iff.mp found
    simp only [Option.isSome_none, Bool.false_eq_true, false_iff]
    rintro ⟨record, member, same⟩
    exact absent record member same
  | some record =>
    obtain ⟨member, same⟩ := Table.find_eq_some_iff.mp found
    simp only [Option.isSome_some, true_iff]
    exact ⟨record, member, same⟩

theorem not_has_iff {bySeq : Table (@Record.seq β)} {seq : Nat} :
    has bySeq seq = false ↔ seq ∉ keys bySeq := by
  rw [Bool.eq_false_iff, ne_eq, has_iff]

theorem inc_eq {seq : Nat} (small : seq + 1 < 2 ^ 64) : inc seq = seq + 1 := Nat.mod_eq_of_lt small

theorem bigintMax_lt : bigintMax + 1 < 2 ^ 64 := by decide

/-- Every key is a positive uint64. -/
def Sequences (bySeq : Table (@Record.seq β)) : Prop :=
  ∀ record ∈ bySeq, 0 < record.seq ∧ record.seq < 2 ^ 64

theorem Bounded.sequences {bySeq : Table (@Record.seq β)} (bounded : Bounded bySeq) :
    Sequences bySeq := by
  intro record member
  have range := bounded record member
  have below := bigintMax_lt
  omega

theorem Sequences.zero {bySeq : Table (@Record.seq β)} (range : Sequences bySeq) : 0 ∉ keys bySeq := by
  rintro ⟨record, member, none_⟩
  have positive := (range record member).1
  omega

theorem prefixEnd_le {bySeq : Table (@Record.seq β)} {bound : Nat}
    (bounded : ∀ record ∈ bySeq, record.seq ≤ bound) {c : Nat}
    (end_ : IsPrefixEnd (keys bySeq) 0 c) : c ≤ bound := by
  rcases Nat.eq_zero_or_pos c with rfl | positive
  · exact Nat.zero_le _
  · obtain ⟨record, member, rfl⟩ := end_.1.2 c positive (Nat.le_refl _)
    exact bounded record member

theorem prefixEnd_lt {bySeq : Table (@Record.seq β)} (range : Sequences bySeq) {c : Nat}
    (end_ : IsPrefixEnd (keys bySeq) 0 c) : c < 2 ^ 64 := by
  have most : c ≤ 2 ^ 64 - 1 :=
    prefixEnd_le (fun record member => Nat.le_sub_one_of_lt (range record member).2) end_
  omega

/-- Nothing follows the prefix end: after the largest uint64 comes zero, which is no sequence. -/
theorem inc_prefixEnd {bySeq : Table (@Record.seq β)} (range : Sequences bySeq) {c : Nat}
    (end_ : IsPrefixEnd (keys bySeq) 0 c) : has bySeq (inc c) = false := by
  have fits := prefixEnd_lt range end_
  rw [not_has_iff]
  by_cases largest : c + 1 < 2 ^ 64
  · rw [inc_eq largest]
    exact end_.stop
  · obtain rfl : c = 2 ^ 64 - 1 := by omega
    exact range.zero

/-- The cursor stops at the prefix end, from anywhere inside the prefix. -/
theorem advance_eq {bySeq : Table (@Record.seq β)} (range : Sequences bySeq) {target : Nat}
    (isEnd : IsPrefixEnd (keys bySeq) 0 target) (distance fuel committed : Nat)
    (position : committed + distance = target) (enough : distance < fuel) :
    advance bySeq fuel committed = some target := by
  have fits := prefixEnd_lt range isEnd
  induction distance generalizing fuel committed with
  | zero =>
    obtain ⟨fuel, rfl⟩ : ∃ left, fuel = left + 1 := ⟨fuel - 1, by omega⟩
    obtain rfl : committed = target := position
    simp only [advance, inc_prefixEnd range isEnd, Bool.false_eq_true, if_false]
  | succ distance ih =>
    obtain ⟨fuel, rfl⟩ : ∃ left, fuel = left + 1 := ⟨fuel - 1, by omega⟩
    have inside : has bySeq (committed + 1) = true :=
      has_iff.mpr (isEnd.1.2 _ (Nat.succ_pos _) (by omega))
    simp only [advance, inc_eq (show committed + 1 < 2 ^ 64 by omega), inside, if_true]
    exact ih fuel (committed + 1) (by omega) (by omega)

/-! ## The hole scan -/

section Scan

variable {bySeq : Table (@Record.seq β)} {last : Nat}

/-- Walking inside an open hole up to the number that closes it. -/
theorem scan_hole (fits : last < 2 ^ 64) (ranges : List Gap) (more : Bool)
    (first distance fuel seq : Nat) (reached : seq + 1 + distance ≤ last)
    (absent : ∀ s, seq < s → s < seq + 1 + distance → s ∉ keys bySeq) :
    scan bySeq last (fuel + distance) (seq + 1) ⟨ranges, more, true, first, seq⟩ =
      scan bySeq last fuel (seq + distance + 1) ⟨ranges, more, true, first, seq + distance⟩ := by
  induction distance generalizing seq with
  | zero => rfl
  | succ distance ih =>
    have missing : has bySeq (seq + 1) = false := not_has_iff.mpr (absent (seq + 1) (by omega) (by omega))
    rw [← Nat.add_assoc, scan, if_pos (by omega), missing, inc_eq (by omega)]
    simp only [Bool.false_eq_true, if_false, if_true]
    rw [ih (seq + 1) (by omega) (fun s lower upper => absent s (by omega) (by omega))]
    have shift : seq + 1 + distance = seq + (distance + 1) := by omega
    rw [shift]

/-- A hole that starts here is walked up to the key that closes it, and written down. -/
theorem scan_closes (fits : last < 2 ^ 64) {start head : Nat} (before : start < head)
    (headLe : head ≤ last) (absent : ∀ s, start ≤ s → s < head → s ∉ keys bySeq)
    (present : head ∈ keys bySeq) {state : Scan} (closed : state.inHole = false)
    (room : state.ranges.length ≠ maxMissingRanges) (fuel : Nat) :
    scan bySeq last (fuel + (head - start + 1)) start state =
      scan bySeq last fuel (inc head)
        ⟨state.ranges ++ [⟨start, head - 1⟩], state.more, false, start, head - 1⟩ := by
  have missing : has bySeq start = false := not_has_iff.mpr (absent start (Nat.le_refl _) before)
  have closes : has bySeq head = true := has_iff.mpr present
  have steps : fuel + (head - start + 1) = fuel + 1 + (head - (start + 1)) + 1 := by omega
  rw [steps, scan, if_pos (by omega), missing]
  simp only [Bool.false_eq_true, if_false, closed]
  rw [if_neg room, inc_eq (by omega)]
  rw [scan_hole fits state.ranges state.more start (head - (start + 1)) (fuel + 1) start (by omega)
    (fun s lower upper => absent s (by omega) (by omega))]
  have position : start + (head - (start + 1)) = head - 1 := by omega
  have closing : head - 1 + 1 = head := by omega
  rw [position, closing, scan, if_pos headLe, closes]
  rfl

theorem scan_passes {seq : Nat} (within : seq ≤ last) (present : seq ∈ keys bySeq) {state : Scan}
    (closed : state.inHole = false) (fuel : Nat) :
    scan bySeq last (fuel + 1) seq state = scan bySeq last fuel (inc seq) state := by
  rw [scan, if_pos within, has_iff.mpr present]
  simp only [closed, Bool.false_eq_true, if_false, if_true]

/-- A hole the cap has no room for ends the scan. -/
theorem scan_capped {seq : Nat} (within : seq ≤ last) (absent : seq ∉ keys bySeq) {state : Scan}
    (closed : state.inHole = false) (full : state.ranges.length = maxMissingRanges) (fuel : Nat) :
    scan bySeq last (fuel + 1) seq state = some { state with more := true } := by
  rw [scan, if_pos within, not_has_iff.mpr absent]
  simp only [closed, Bool.false_eq_true, if_false]
  rw [if_pos full]

/-- The scan over an ascending enumeration of the keys above `low` writes the first gaps down.
It stops when a hole would exceed the cap, and is past the last key otherwise. -/
theorem scan_gaps (fits : last < 2 ^ 64) (seqs : List Nat) (low : Nat) (state : Scan)
    (sorted : seqs.Pairwise (· < ·)) (above : ∀ s ∈ seqs, low < s)
    (same : ∀ s, low < s → (s ∈ keys bySeq ↔ s ∈ seqs))
    (largest : ∀ s ∈ seqs, s ≤ last) (ends : last ≤ low ∨ last ∈ seqs)
    (closed : state.inHole = false) (silent : state.more = false)
    (capped : state.ranges.length ≤ maxMissingRanges) :
    ∃ after, after.inHole = false ∧
      after.ranges = state.ranges ++
        (gapsFrom low seqs).take (maxMissingRanges - state.ranges.length) ∧
      after.more = decide (maxMissingRanges - state.ranges.length < (gapsFrom low seqs).length) ∧
      ∀ fuel, scan bySeq last (fuel + (last - low)) (inc low) state =
        if after.more then some after else scan bySeq last fuel (inc (max low last)) after := by
  induction seqs generalizing low state with
  | nil =>
    have below : last ≤ low := by simpa using ends
    refine ⟨state, closed, by simp [gapsFrom], by simp [gapsFrom, silent], fun fuel => ?_⟩
    rw [Nat.sub_eq_zero_of_le below, Nat.max_eq_left below, silent]
    rfl
  | cons head tail ih =>
    obtain ⟨headLt, tailSorted⟩ := List.pairwise_cons.mp sorted
    have lowLt := above head (by simp)
    have headLe := largest head (by simp)
    have tailSame : ∀ s, head < s → (s ∈ keys bySeq ↔ s ∈ tail) := by
      intro s beyond
      rw [same s (by omega), List.mem_cons]
      exact ⟨fun h => h.resolve_left (by omega), Or.inr⟩
    have tailEnds : last ≤ head ∨ last ∈ tail := by
      rcases ends with below | member
      · omega
      · rcases List.mem_cons.mp member with rfl | inTail
        · exact Or.inl (Nat.le_refl _)
        · exact Or.inr inTail
    have tailLargest : ∀ s ∈ tail, s ≤ last := fun s member => largest s (by simp [member])
    have present : head ∈ keys bySeq := (same head lowLt).mpr (by simp)
    have absent : ∀ s, low + 1 ≤ s → s < head → s ∉ keys bySeq := by
      intro s lower upper
      rw [same s (by omega), List.mem_cons]
      rintro (equal | inTail)
      · omega
      · have later := headLt _ inTail
        omega
    have ending : max low last = max head last := by omega
    rw [gapsFrom, ending, inc_eq (by omega)]
    split
    · next room =>
      by_cases full : state.ranges.length = maxMissingRanges
      · refine ⟨{ state with more := true }, closed, by simp [full], by simp [full], fun fuel => ?_⟩
        have steps : fuel + (last - low) = fuel + (last - low - 1) + 1 := by omega
        rw [steps, scan_capped (by omega) (absent _ (Nat.le_refl _) room) closed full]
        rfl
      · obtain ⟨after, afterClosed, ranges, more, run⟩ := ih head
          ⟨state.ranges ++ [⟨low + 1, head - 1⟩], state.more, false, low + 1, head - 1⟩
          tailSorted headLt tailSame tailLargest tailEnds rfl silent
          (by simp only [List.length_append, List.length_singleton]; omega)
        obtain ⟨left, hleft⟩ : ∃ left, maxMissingRanges - state.ranges.length = left + 1 :=
          ⟨maxMissingRanges - state.ranges.length - 1, by omega⟩
        have leftAfter : maxMissingRanges - (state.ranges ++ [(⟨low + 1, head - 1⟩ : Gap)]).length =
            left := by
          simp only [List.length_append, List.length_singleton]
          omega
        refine ⟨after, afterClosed, ?_, ?_, fun fuel => ?_⟩
        · rw [ranges, leftAfter, hleft]
          simp
        · rw [more, leftAfter, hleft]
          simp
        · have steps : fuel + (last - low) = fuel + (last - head) + (head - (low + 1) + 1) := by omega
          rw [steps, scan_closes fits room headLe absent present closed full]
          exact run fuel
    · next tight =>
      obtain rfl : head = low + 1 := by omega
      obtain ⟨after, afterClosed, ranges, more, run⟩ := ih (low + 1) state tailSorted headLt tailSame
        tailLargest tailEnds closed silent capped
      refine ⟨after, afterClosed, ranges, more, fun fuel => ?_⟩
      have steps : fuel + (last - low) = fuel + (last - (low + 1)) + 1 := by omega
      rw [steps, scan_passes headLe present closed]
      exact run fuel

end Scan

/-! ## The window of one device -/

theorem foldl_max_spec (seqs : List Nat) (start : Nat) :
    start ≤ seqs.foldl max start ∧ (∀ s ∈ seqs, s ≤ seqs.foldl max start) ∧
      (seqs.foldl max start = start ∨ seqs.foldl max start ∈ seqs) := by
  induction seqs generalizing start with
  | nil => simp
  | cons head tail ih =>
    obtain ⟨lower, upper, attained⟩ := ih (max start head)
    rw [List.foldl_cons]
    refine ⟨by omega, ?_, ?_⟩
    · intro s member
      rcases List.mem_cons.mp member with rfl | inTail
      · omega
      · exact upper s inTail
    · rcases attained with equal | inTail
      · rcases Nat.le_total head start with small | large
        · exact Or.inl (by omega)
        · exact Or.inr (by rw [equal, Nat.max_eq_right large]; simp)
      · exact Or.inr (List.mem_cons_of_mem _ inTail)

/-- The keys above `low`, ascending. -/
def orderedKeys (bySeq : Table (@Record.seq β)) (low : Nat) : List Nat :=
  ((bySeq.rows.map Record.seq).filter (low < ·)).insertionSort (· ≤ ·)

theorem mem_orderedKeys {bySeq : Table (@Record.seq β)} {low seq : Nat} :
    seq ∈ orderedKeys bySeq low ↔ seq ∈ keys bySeq ∧ low < seq := by
  simp [orderedKeys, keys, Table.mem_rows]

theorem orderedKeys_sorted (bySeq : Table (@Record.seq β)) (low : Nat) :
    (orderedKeys bySeq low).Pairwise (· < ·) := by
  have weak : (orderedKeys bySeq low).Pairwise (· ≤ ·) := List.pairwise_insertionSort _ _
  have distinct : (orderedKeys bySeq low).Nodup :=
    (List.perm_insertionSort _ _).nodup_iff.mpr (bySeq.unique.filter _)
  exact (List.Pairwise.and weak distinct).imp fun h => Nat.lt_of_le_of_ne h.1 h.2

/-- Every set of keys has a prefix end. -/
theorem prefixEnd_exists (bySeq : Table (@Record.seq β)) : ∃ target, IsPrefixEnd (keys bySeq) 0 target := by
  refine ⟨prefixWalk 0 (orderedKeys bySeq 0), ?_⟩
  have walk := prefixWalk_isPrefixEnd 0 (orderedKeys bySeq 0) (orderedKeys_sorted _ _)
    (fun s member => (mem_orderedKeys.mp member).2)
  apply walk.rebase (Nat.le_refl _) (Nat.zero_le _)
  intro s beyond
  simp [mem_orderedKeys, beyond]

/-- The gaps above `low`. -/
def gapsAbove (bySeq : Table (@Record.seq β)) (low : Nat) : List Gap := gapsFrom low (orderedKeys bySeq low)

theorem gapsAbove_gapList (bySeq : Table (@Record.seq β)) (low : Nat) :
    GapList (keys bySeq) low (gapsAbove bySeq low) := by
  have listed := gapsFrom_gapList low _ (orderedKeys_sorted bySeq low)
    (fun s member => (mem_orderedKeys.mp member).2)
  apply listed.congr
  intro s beyond
  simp [mem_orderedKeys, beyond]

theorem le_lastSeq {bySeq : Table (@Record.seq β)} {seq : Nat} (key : seq ∈ keys bySeq) :
    seq ≤ lastSeq bySeq := by
  obtain ⟨record, member, rfl⟩ := key
  exact (foldl_max_spec _ 0).2.1 _ (List.mem_map.mpr ⟨record, member, rfl⟩)

theorem lastSeq_cases (bySeq : Table (@Record.seq β)) : lastSeq bySeq = 0 ∨ lastSeq bySeq ∈ keys bySeq := by
  rcases (foldl_max_spec (bySeq.rows.map Record.seq) 0).2.2 with none_ | member
  · exact Or.inl none_
  · obtain ⟨record, inTable, same⟩ := List.mem_map.mp member
    exact Or.inr ⟨record, inTable, same⟩

theorem lastSeq_lt {bySeq : Table (@Record.seq β)} (range : Sequences bySeq) : lastSeq bySeq < 2 ^ 64 := by
  rcases lastSeq_cases bySeq with none_ | ⟨record, member, same⟩
  · omega
  · rw [← same]
    exact (range record member).2

/-- The scan of a window, from any position whose successor it starts at. -/
theorem scan_above {bySeq : Table (@Record.seq β)} (range : Sequences bySeq) (low : Nat) (state : Scan)
    (closed : state.inHole = false) (silent : state.more = false)
    (capped : state.ranges.length ≤ maxMissingRanges) :
    ∃ after, after.inHole = false ∧
      after.ranges = state.ranges ++
        (gapsAbove bySeq low).take (maxMissingRanges - state.ranges.length) ∧
      after.more = decide (maxMissingRanges - state.ranges.length < (gapsAbove bySeq low).length) ∧
      ∀ fuel, scan bySeq (lastSeq bySeq) (fuel + (lastSeq bySeq - low)) (inc low) state =
        if after.more then some after
        else scan bySeq (lastSeq bySeq) fuel (inc (max low (lastSeq bySeq))) after := by
  apply scan_gaps (lastSeq_lt range) (orderedKeys bySeq low) low state (orderedKeys_sorted _ _)
  · exact fun s member => (mem_orderedKeys.mp member).2
  · intro s beyond
    simp [mem_orderedKeys, beyond]
  · exact fun s member => le_lastSeq (mem_orderedKeys.mp member).1
  · rcases lastSeq_cases bySeq with none_ | key
    · exact Or.inl (by omega)
    · rcases Nat.lt_or_ge low (lastSeq bySeq) with beyond | within
      · exact Or.inr (mem_orderedKeys.mpr ⟨key, beyond⟩)
      · exact Or.inl within
  · exact closed
  · exact silent
  · exact capped

/-- A device entry whose cursor is at the prefix end of its keys. -/
structure Counted (device : DeviceJournal β) : Prop where
  range : Sequences device.bySeq
  cursor : IsPrefixEnd (keys device.bySeq) 0 device.committed

/-- The window is exact where the largest key is not the largest uint64. -/
theorem window_of_counted {device : DeviceJournal β} (counted : Counted device)
    (short : lastSeq device.bySeq + 1 < 2 ^ 64) {fuel : Nat} (enough : lastSeq device.bySeq < fuel) :
    device.window fuel = some ⟨device.committed,
      (gapsAbove device.bySeq device.committed).take maxMissingRanges,
      decide (maxMissingRanges < (gapsAbove device.bySeq device.committed).length)⟩ := by
  have reached : device.committed ≤ lastSeq device.bySeq :=
    prefixEnd_le (fun record member => le_lastSeq ⟨record, member, rfl⟩) counted.cursor
  obtain ⟨after, closed, ranges, more, run⟩ := scan_above counted.range device.committed
    ⟨[], false, false, 0, 0⟩ rfl rfl (Nat.zero_le _)
  have ended : scan device.bySeq (lastSeq device.bySeq) fuel (inc device.committed)
      ⟨[], false, false, 0, 0⟩ = some after := by
    obtain ⟨left, rfl⟩ : ∃ left, fuel = left + 1 + (lastSeq device.bySeq - device.committed) :=
      ⟨fuel - (lastSeq device.bySeq - device.committed) - 1, by omega⟩
    rw [run, Nat.max_eq_right reached, inc_eq short]
    split
    · rfl
    · rw [scan, if_neg (by omega)]
  simp only [DeviceJournal.window, ended]
  simp [closed, ranges, more]

/-- A device entry whose cursor is at the prefix end of its bounded keys. -/
structure Settled (device : DeviceJournal β) : Prop where
  bounded : Bounded device.bySeq
  cursor : IsPrefixEnd (keys device.bySeq) 0 device.committed

theorem Settled.counted {device : DeviceJournal β} (settled : Settled device) : Counted device :=
  ⟨settled.bounded.sequences, settled.cursor⟩

theorem Settled.lastSeq_le {device : DeviceJournal β} (settled : Settled device) :
    lastSeq device.bySeq ≤ bigintMax := by
  rcases lastSeq_cases device.bySeq with none_ | ⟨record, member, same⟩
  · omega
  · rw [← same]
    exact (settled.bounded record member).2

theorem settled_new : Settled (DeviceJournal.new : DeviceJournal β) := by
  constructor
  · intro record member
    cases member
  · apply isPrefixEnd_of_stop (Nat.le_refl _)
    · intro s lower upper
      omega
    · rintro ⟨record, member, _⟩
      cases member

theorem window_new {fuel : Nat} (enough : 0 < fuel) :
    (DeviceJournal.new : DeviceJournal β).window fuel = some ⟨0, [], false⟩ := by
  obtain ⟨fuel, rfl⟩ : ∃ left, fuel = left + 1 := ⟨fuel - 1, by omega⟩
  rfl

/-- With fuel for every number up to the largest key, the scan ends and the
window is exact. -/
theorem window_of_settled {device : DeviceJournal β} (ok : Settled device) {fuel : Nat}
    (enough : bigintMax < fuel) :
    ∃ gaps, GapList (keys device.bySeq) device.committed gaps ∧
      device.window fuel = some ⟨device.committed, gaps.take maxMissingRanges,
        decide (maxMissingRanges < gaps.length)⟩ := by
  have most := ok.lastSeq_le
  have below := bigintMax_lt
  exact ⟨_, gapsAbove_gapList _ _, window_of_counted ok.counted (by omega) (by omega)⟩

theorem window_exists {device : DeviceJournal β} (ok : Settled device) {fuel : Nat}
    (enough : bigintMax < fuel) : ∃ window, device.window fuel = some window := by
  obtain ⟨_, _, window⟩ := window_of_settled ok enough
  exact ⟨_, window⟩

/-! ## Accepting in any order -/

theorem keys_insert {bySeq : Table (@Record.seq β)} {record : Record β}
    (fresh : ∀ other ∈ bySeq, other.seq ≠ record.seq) :
    keys (bySeq.insert record fresh) = insert record.seq (keys bySeq) := by
  ext seq
  constructor
  · rintro ⟨other, member, rfl⟩
    rcases Table.mem_insert.mp member with old | rfl
    · exact Or.inr ⟨other, old, rfl⟩
    · exact Or.inl rfl
  · rintro (rfl | ⟨other, member, rfl⟩)
    · exact ⟨record, Table.mem_insert.mpr (Or.inr rfl), rfl⟩
    · exact ⟨other, Table.mem_insert.mpr (Or.inl member), rfl⟩

/-- After a new record the cursor moves to the new prefix end. -/
theorem advance_insert {device : DeviceJournal β} (counted : Counted device) {record : Record β}
    (fits : 0 < record.seq ∧ record.seq < 2 ^ 64)
    (fresh : ∀ other ∈ device.bySeq, other.seq ≠ record.seq) :
    ∃ target, Counted ⟨device.bySeq.insert record fresh, target⟩ ∧
      ∀ fuel, target < fuel → advance (device.bySeq.insert record fresh) fuel device.committed = some target := by
  have range : Sequences (device.bySeq.insert record fresh) := by
    intro other member
    rcases Table.mem_insert.mp member with old | rfl
    · exact counted.range other old
    · exact fits
  obtain ⟨target, isEnd⟩ := prefixEnd_exists (device.bySeq.insert record fresh)
  have further : device.committed ≤ target :=
    counted.cursor.mono (by rw [keys_insert fresh]; exact Set.subset_insert _ _) isEnd
  refine ⟨target, ⟨range, isEnd⟩, fun fuel enough => ?_⟩
  exact advance_eq range isEnd (target - device.committed) fuel device.committed (by omega) (by omega)

section Accept

variable [DecidableEq β]

/-- A record `Accept` does not refuse outright, inside the bigint range. -/
structure Acceptable (deviceId : String) (record : Record β) : Prop where
  device : record.deviceId = deviceId
  named : deviceId ≠ "" ∧ record.envelopeId ≠ "" ∧ record.kind ≠ ""
  range : 0 < record.seq ∧ record.seq ≤ bigintMax

/-- The device entry of a journal, or the empty one. -/
def entry (journal : Journal β) (deviceId : String) : DeviceJournal β :=
  (journal deviceId).getD .new

/-- One `Accept` of an acceptable record that contradicts no stored one: it
answers with the window of the entry it leaves behind. -/
theorem accept_spec {journal : Journal β} {deviceId : String} {record : Record β} {fuel : Nat}
    (settled : Settled (entry journal deviceId)) (ok : Acceptable deviceId record)
    (agrees : ∀ stored ∈ (entry journal deviceId).bySeq, stored.seq = record.seq →
      sameContent stored record = true) (enough : bigintMax + 1 < fuel) :
    ∃ journal' status window, accept fuel journal record = some (journal', .ok ⟨status, window⟩) ∧
      Settled (entry journal' deviceId) ∧
      (∀ stored ∈ (entry journal' deviceId).bySeq,
        stored ∈ (entry journal deviceId).bySeq ∨ stored = record) ∧
      keys (entry journal' deviceId).bySeq = insert record.seq (keys (entry journal deviceId).bySeq) ∧
      (entry journal' deviceId).window fuel = some window := by
  obtain ⟨rfl, named, range⟩ := ok
  have valid : ¬ (record.deviceId = "" ∨ record.envelopeId = "" ∨ record.seq = 0 ∨
      record.kind = "") := by
    rintro (h | h | h | h)
    · exact named.1 h
    · exact named.2.1 h
    · omega
    · exact named.2.2 h
  unfold accept
  rw [if_neg valid]
  dsimp only
  split
  · next existing found =>
    obtain ⟨member, same⟩ := Table.find_eq_some_iff.mp found
    obtain ⟨shown, window⟩ := window_exists settled (show bigintMax < fuel by omega)
    rw [if_pos (agrees existing member same)]
    have after : entry (Function.update journal record.deviceId
        (some (entry journal record.deviceId))) record.deviceId =
        entry journal record.deviceId := by
      simp [entry]
    refine ⟨Function.update journal record.deviceId (some (entry journal record.deviceId)),
      .duplicate, shown, ?_, ?_⟩
    · show ((entry journal record.deviceId).window fuel >>= _) = _
      rw [window]
      rfl
    · rw [after]
      refine ⟨settled, fun stored => Or.inl, ?_, window⟩
      rw [Set.insert_eq_of_mem]
      exact ⟨existing, member, same⟩
  · next absent =>
    have fresh := Table.find_eq_none_iff.mp absent
    have below := bigintMax_lt
    obtain ⟨target, counted, moves⟩ := advance_insert settled.counted ⟨range.1, by omega⟩ fresh
    set bySeq := (entry journal record.deviceId).bySeq.insert record fresh with bySeqDef
    have members : ∀ other, other ∈ bySeq ↔
        other ∈ (entry journal record.deviceId).bySeq ∨ other = record :=
      fun other => @Table.mem_insert _ _ _ _ _ _ fresh
    have bounded : Bounded bySeq := by
      intro other member
      rcases (members other).mp member with old | rfl
      · exact settled.bounded other old
      · exact range
    have settled' : Settled (⟨bySeq, target⟩ : DeviceJournal β) := ⟨bounded, counted.cursor⟩
    have fits : target ≤ bigintMax :=
      prefixEnd_le (fun record member => (bounded record member).2) counted.cursor
    have cursor := moves fuel (by omega)
    obtain ⟨shown, window⟩ := window_exists settled' (show bigintMax < fuel by omega)
    have after : entry (Function.update journal record.deviceId (some ⟨bySeq, target⟩))
        record.deviceId = ⟨bySeq, target⟩ := by
      simp [entry]
    refine ⟨Function.update journal record.deviceId (some ⟨bySeq, target⟩), .inserted, shown, ?_, ?_⟩
    · show (advance bySeq fuel (entry journal record.deviceId).committed >>= _) = _
      rw [cursor]
      show (DeviceJournal.window fuel ⟨bySeq, target⟩ >>= _) = _
      rw [window]
      rfl
    · rw [after]
      exact ⟨settled', fun stored member => (members stored).mp member, keys_insert fresh, window⟩

/-- No two records claim one sequence with different content. -/
def Consistent (records : List (Record β)) : Prop :=
  ∀ a ∈ records, ∀ b ∈ records, a.seq = b.seq → sameContent a b = true

/-- The journal after a list of records, given what it held before. -/
theorem acceptAll_spec {deviceId : String} {fuel : Nat} (enough : bigintMax + 1 < fuel)
    (records : List (Record β)) (journal : Journal β) (all : List (Record β))
    (consistent : Consistent all) (sub : ∀ record ∈ records, record ∈ all)
    (stored : ∀ record ∈ (entry journal deviceId).bySeq, record ∈ all)
    (settled : Settled (entry journal deviceId))
    (acceptable : ∀ record ∈ records, Acceptable deviceId record) :
    ∃ journal' answers, acceptAll fuel journal records = some (journal', answers) ∧
      answers.length = records.length ∧ (∀ answer ∈ answers, ∃ result, answer = .ok result) ∧
      Settled (entry journal' deviceId) ∧
      keys (entry journal' deviceId).bySeq =
        keys (entry journal deviceId).bySeq ∪ {seq | ∃ record ∈ records, record.seq = seq} ∧
      (∀ answer ∈ answers.getLast?, ∃ status window, answer = .ok ⟨status, window⟩ ∧
        (entry journal' deviceId).window fuel = some window) := by
  induction records generalizing journal with
  | nil => exact ⟨journal, [], rfl, rfl, by simp, settled, by simp, by simp⟩
  | cons record rest ih =>
    have known := sub record (by simp)
    obtain ⟨middle, status, window, taken, settledM, storedM, keysM, windowM⟩ :=
      accept_spec settled (acceptable record (by simp))
        (fun other member same => consistent other (stored other member) record known same) enough
    obtain ⟨final, answers, run, length, allOk, settledF, keysF, lastF⟩ := ih middle
      (fun other member => sub other (by simp [member]))
      (fun other member => (storedM other member).elim (stored other) (fun same => same ▸ known))
      settledM (fun other member => acceptable other (by simp [member]))
    refine ⟨final, .ok ⟨status, window⟩ :: answers, ?_, by simp [length], ?_, settledF, ?_, ?_⟩
    · simp only [acceptAll, taken, bind, Option.bind, run]
      rfl
    · intro answer member
      rcases List.mem_cons.mp member with rfl | inRest
      · exact ⟨_, rfl⟩
      · exact allOk answer inRest
    · rw [keysF, keysM]
      ext seq
      simp only [Set.mem_union, Set.mem_insert_iff, Set.mem_ofPred_eq, List.mem_cons, exists_eq_or_imp]
      constructor
      · rintro ((equal | old) | new)
        · exact Or.inr (Or.inl equal.symm)
        · exact Or.inl old
        · exact Or.inr (Or.inr new)
      · rintro (old | equal | new)
        · exact Or.inl (Or.inr old)
        · exact Or.inl (Or.inl equal.symm)
        · exact Or.inr new
    · cases answers with
      | nil =>
        have none_ : rest = [] := List.eq_nil_of_length_eq_zero length.symm
        subst none_
        cases run
        intro answer member
        simp only [List.getLast?_singleton, Option.mem_some_iff] at member
        exact ⟨status, window, member.symm, windowM⟩
      | cons head tail =>
        rw [List.getLast?_cons_cons]
        exact lastF

end Accept

/-- Both implementations of the window. For every journal state, device and
mark, `ingress_window` answers, the gateway decodes the answer, and it is the
prefix end above the mark with the first 128 gaps above it. And when nothing is
pruned, the in-memory journal that took the same sequences in any order (and any
number of times) holds the very same window, with fuel for its loops. -/
theorem window_exact_in_both_stores {β : Type} [DecidableEq β] (db : IngressDb)
    (tenant device : Uuid) :
    ∃ row window gaps, ingressWindow (some tenant) tenant device db = .ok row ∧
      parseWindow row = .ok window ∧
      IsPrefixEnd (db.stored tenant device) (db.base tenant device) window.committedThrough ∧
      GapList (db.stored tenant device) window.committedThrough gaps ∧
      window.missingRanges = gaps.take 128 ∧
      window.moreMissing = decide (128 < gaps.length) ∧
      ∀ (deviceId : String) (records : List (Record β)),
        db.base tenant device = 0 →
        db.stored tenant device = {seq | ∃ record ∈ records, record.seq = seq} →
        (∀ record ∈ records, Acceptable deviceId record) → Consistent records →
        ∀ fuel, bigintMax + 1 < fuel →
          ∃ journal answers, acceptAll fuel newJournal records = some (journal, answers) ∧
            answers.length = records.length ∧ (∀ answer ∈ answers, ∃ result, answer = .ok result) ∧
            (∀ answer ∈ answers.getLast?, ∃ status, answer = .ok ⟨status, window⟩) ∧
            snapshot fuel journal deviceId = some window := by
  have committed := window_committed db tenant device
  refine ⟨db.window tenant device, readWindow db tenant device, db.gaps tenant device,
    by simp [ingressWindow], parseWindow_window db tenant device, committed,
    gaps_gapList db tenant device, rfl, rfl, ?_⟩
  intro deviceId records unpruned sameSet acceptable consistent fuel enough
  obtain ⟨journal, answers, run, length, allOk, settled, keysEq, last⟩ :=
    acceptAll_spec enough records newJournal records consistent (fun _ h => h)
      (fun record member => by cases member) settled_new acceptable
  obtain ⟨gaps, gapList, window⟩ := window_of_settled settled (show bigintMax < fuel by omega)
  have emptyKeys : keys (entry (newJournal : Journal β) deviceId).bySeq = ∅ := by
    ext seq
    simp only [Set.mem_empty_iff_false, iff_false]
    rintro ⟨record, member, _⟩
    cases member
  have keysSame : keys (entry journal deviceId).bySeq = db.stored tenant device := by
    rw [keysEq, emptyKeys, Set.empty_union, sameSet]
  have cursor := settled.cursor
  rw [keysSame] at cursor gapList
  rw [unpruned] at committed
  have cursorSame := cursor.unique committed
  rw [cursorSame] at gapList
  have gapsSame := gapList.unique (gaps_gapList db tenant device)
  have windowSame : (entry journal deviceId).window fuel = some (readWindow db tenant device) := by
    rw [window, cursorSame, gapsSame]
    rfl
  refine ⟨journal, answers, run, length, allOk, ?_, ?_⟩
  · intro answer member
    obtain ⟨status, w, rfl, holds⟩ := last answer member
    rw [windowSame] at holds
    cases holds
    exact ⟨status, rfl⟩
  · cases found : journal deviceId with
    | none =>
      have fresh : entry journal deviceId = .new := by simp [entry, found]
      rw [fresh, window_new (by omega)] at windowSame
      simpa [snapshot, found] using windowSame
    | some stored =>
      have same : entry journal deviceId = stored := by simp [entry, found]
      rw [same] at windowSame
      simpa [snapshot, found] using windowSame

/-- Sequence 3 arrived before sequence 1. -/
def outOfOrder : IngressDb where
  devices := ⟨[⟨7, 5⟩], by decide⟩
  ingress := ⟨[⟨7, 3, 5, 103, "Alert", .obj [], 0⟩, ⟨7, 1, 5, 101, "Alert", .obj [], 9⟩], by decide⟩
  pruned := Table.empty
  valid := {
    seqRange := by decide
    payloadObject := by decide
    envelopeUnique := by decide
    ingressDevice := by decide
    prunedPositive := by decide }

/-- The same two records for the in-memory journal. -/
def outOfOrderRecords : List (Record Nat) :=
  [⟨"t", "d", "e3", 3, "Alert", 0⟩, ⟨"t", "d", "e1", 1, "Alert", 0⟩]

theorem window_exact_out_of_order :
    outOfOrder.base 5 7 = 0 ∧
    ∃ window journal answers,
      (parseWindow (outOfOrder.window 5 7) = .ok window ∧ window.committedThrough = 1) ∧
      acceptAll (bigintMax + 2) newJournal outOfOrderRecords = some (journal, answers) ∧
      snapshot (bigintMax + 2) journal "d" = some window := by
  obtain ⟨row, window, gaps, answered, parsed, _, _, _, _, agree⟩ :=
    @window_exact_in_both_stores Nat _ outOfOrder 5 7
  obtain rfl : row = outOfOrder.window 5 7 := by
    simpa [ingressWindow, eq_comm] using answered
  have stored : outOfOrder.stored 5 7 = {seq | ∃ record ∈ outOfOrderRecords, record.seq = seq} := by
    ext seq
    constructor
    · rintro ⟨row, member, _, rfl⟩
      revert row
      decide
    · rintro ⟨record, member, rfl⟩
      show ∃ row ∈ outOfOrder.ingress, row.of 5 7 ∧ row.seq = record.seq
      revert record
      decide
  obtain ⟨journal, answers, run, _, _, _, shown⟩ := agree "d" outOfOrderRecords (by decide) stored
    (fun record member => by
      revert record
      simp only [outOfOrderRecords, List.mem_cons, List.not_mem_nil, or_false]
      rintro _ (rfl | rfl)
      · exact ⟨rfl, by decide, by decide⟩
      · exact ⟨rfl, by decide, by decide⟩)
    (by unfold Consistent; decide) (bigintMax + 2) (by decide)
  refine ⟨by decide, window, journal, answers, ⟨parsed, ?_⟩, run, shown⟩
  rw [parseWindow_window] at parsed
  cases parsed
  decide

end VodogeCloud.Guarantees.JournalWindow
