import VodogeCloud.Guarantees.JournalWindow
import VodogeCloud.Source.ServeDevice

/-!
# The in-memory window over the whole sequence range

The largest uint64 is a sequence like any other, and no number follows it: where it is stored the
hole scan of `window` never gets past its last key. Its position wraps to zero, which is no
sequence, so every turn writes down at least one more range until the cap ends the scan. Both
loops therefore end for every set of sequences and the prefix is always exact; the holes are
exact where the largest uint64 is not stored, or where they fill the cap in the first turn.
-/

set_option autoImplicit false

namespace VodogeCloud.Guarantees.WholeSequenceRange

open VodogeCloud.Lib VodogeCloud.Lib.SequenceGaps
open VodogeCloud.Source.MemoryJournal VodogeCloud.Source.ServeDevice
open VodogeCloud.Guarantees.JournalWindow

variable {β : Type}

/-- The largest uint64. -/
def largest : Nat := 2 ^ 64 - 1

theorem inc_largest : inc largest = 0 := rfl

/-! ## Past the largest uint64 -/

section Wrapping

variable {bySeq : Table (@Record.seq β)}

theorem lastSeq_largest (range : Sequences bySeq) (key : largest ∈ keys bySeq) :
    lastSeq bySeq = largest := by
  have reached := le_lastSeq key
  have fits := lastSeq_lt range
  unfold largest at *
  omega

theorem lastSeq_short (range : Sequences bySeq) (spare : largest ∉ keys bySeq) :
    lastSeq bySeq + 1 < 2 ^ 64 := by
  have fits := lastSeq_lt range
  rcases lastSeq_cases bySeq with none_ | key
  · omega
  · have other : lastSeq bySeq ≠ largest := fun same => spare (same ▸ key)
    unfold largest at other
    omega

theorem least_key (key : largest ∈ keys bySeq) : ∃ head ∈ keys bySeq, ∀ s, s < head → s ∉ keys bySeq := by
  obtain ⟨head, present, least⟩ := WellFounded.has_min wellFounded_lt (keys bySeq) ⟨largest, key⟩
  exact ⟨head, present, fun s below inside => least s inside below⟩

/-- A turn that starts at zero adds a range or is ended by the cap. After at most as many turns as
there is room for ranges the scan has ended. -/
theorem scan_turns (range : Sequences bySeq) (key : largest ∈ keys bySeq) (turns : Nat) (state : Scan)
    (closed : state.inHole = false) (silent : state.more = false)
    (capped : state.ranges.length ≤ maxMissingRanges)
    (left : maxMissingRanges ≤ state.ranges.length + turns) (fuel : Nat)
    (enough : turns * (lastSeq bySeq + 1) < fuel) :
    ∃ final, scan bySeq (lastSeq bySeq) fuel 0 state = some final ∧ final.inHole = false ∧
      final.more = true ∧ final.ranges.length = maxMissingRanges ∧ state.ranges <+: final.ranges := by
  have last := lastSeq_largest range key
  induction turns generalizing state fuel with
  | zero =>
    obtain ⟨fuel, rfl⟩ : ∃ left, fuel = left + 1 := ⟨fuel - 1, by omega⟩
    have full : state.ranges.length = maxMissingRanges := by omega
    exact ⟨_, scan_capped (Nat.zero_le _) range.zero closed full fuel, closed, rfl, full,
      List.prefix_refl _⟩
  | succ turns ih =>
    rw [Nat.add_mul, Nat.one_mul] at enough
    by_cases full : state.ranges.length = maxMissingRanges
    · obtain ⟨fuel, rfl⟩ : ∃ left, fuel = left + 1 := ⟨fuel - 1, by omega⟩
      exact ⟨_, scan_capped (Nat.zero_le _) range.zero closed full fuel, closed, rfl, full,
        List.prefix_refl _⟩
    · obtain ⟨head, present, least⟩ := least_key key
      have positive : 0 < head := by
        apply Nat.pos_of_ne_zero
        rintro rfl
        exact range.zero present
      have headLe := le_lastSeq present
      have opened := scan_closes (lastSeq_lt range) positive headLe (fun s _ below => least s below)
        present closed full
      obtain ⟨after, afterClosed, ranges, more, run⟩ := scan_above range head
        ⟨state.ranges ++ [⟨0, head - 1⟩], state.more, false, 0, head - 1⟩ rfl silent
        (by simp only [List.length_append, List.length_singleton]; omega)
      simp only at ranges more
      have extended : state.ranges <+: after.ranges := by
        rw [ranges, List.append_assoc]
        exact List.prefix_append _ _
      obtain ⟨fuel, rfl, spare⟩ : ∃ rest, fuel = rest + (lastSeq bySeq - head) + (head - 0 + 1) ∧
          turns * (lastSeq bySeq + 1) < rest :=
        ⟨fuel - (lastSeq bySeq + 1), by omega, by omega⟩
      rw [opened, run, Nat.max_eq_right headLe, last, inc_largest]
      -- what the turn has added counts one at least, for the hole at zero
      have counted := congrArg List.length ranges
      simp only [List.length_append, List.length_singleton, List.length_take] at counted more
      cases ended : after.more with
      | true =>
        rw [ended, eq_comm, decide_eq_true_eq] at more
        exact ⟨after, if_pos rfl, afterClosed, ended, by omega, extended⟩
      | false =>
        obtain ⟨final, ran, finalClosed, finalMore, finalFull, further⟩ :=
          ih after afterClosed ended (by omega) (by omega) fuel spare
        rw [last] at ran
        rw [if_neg Bool.false_ne_true]
        exact ⟨final, ran, finalClosed, finalMore, finalFull, extended.trans further⟩

end Wrapping

/-! ## The window of one device -/

/-- Where the largest uint64 is stored the window is full and says that more is missing; it starts
with the first holes. -/
theorem window_wraps {device : DeviceJournal β} (counted : Counted device)
    (key : largest ∈ keys device.bySeq) {fuel : Nat} (enough : 130 * 2 ^ 64 ≤ fuel) :
    ∃ ranges, device.window fuel = some ⟨device.committed, ranges, true⟩ ∧
      ranges.length = maxMissingRanges ∧
      (gapsAbove device.bySeq device.committed).take maxMissingRanges <+: ranges := by
  have last := lastSeq_largest counted.range key
  have fits := prefixEnd_lt counted.range counted.cursor
  obtain ⟨after, closed, ranges, more, run⟩ := scan_above counted.range device.committed
    ⟨[], false, false, 0, 0⟩ rfl rfl (Nat.zero_le _)
  simp only [List.nil_append, List.length_nil, Nat.sub_zero] at ranges more
  have ended : ∃ final, scan device.bySeq (lastSeq device.bySeq) fuel (inc device.committed)
      ⟨[], false, false, 0, 0⟩ = some final ∧ final.inHole = false ∧ final.more = true ∧
      final.ranges.length = maxMissingRanges ∧ after.ranges <+: final.ranges := by
    obtain ⟨fuel, rfl⟩ : ∃ rest, fuel = rest + (lastSeq device.bySeq - device.committed) :=
      ⟨fuel - (lastSeq device.bySeq - device.committed), by unfold largest at last; omega⟩
    have turn : max device.committed (lastSeq device.bySeq) = largest := by
      unfold largest at *
      omega
    have length := congrArg List.length ranges
    rw [List.length_take] at length
    rw [run, turn, inc_largest]
    cases stopped : after.more with
    | true =>
      rw [stopped, eq_comm, decide_eq_true_eq] at more
      exact ⟨after, if_pos rfl, closed, stopped, by omega, List.prefix_refl _⟩
    | false =>
      rw [if_neg Bool.false_ne_true]
      apply scan_turns counted.range key 128 after closed stopped
      · omega
      · show 128 ≤ _
        omega
      · unfold largest at last
        omega
  obtain ⟨final, ran, finalClosed, finalMore, full, extended⟩ := ended
  rw [ranges] at extended
  refine ⟨final.ranges, ?_, full, extended⟩
  simp only [DeviceJournal.window, ran]
  simp [finalClosed, finalMore]

/-- The scan ends, and what its answer is worth. -/
theorem window_of_device {device : DeviceJournal β} (counted : Counted device) {fuel : Nat}
    (enough : 130 * 2 ^ 64 ≤ fuel) :
    ∃ window, device.window fuel = some window ∧ window.committedThrough = device.committed ∧
      (window.missingRanges = (gapsAbove device.bySeq device.committed).take 128 ↔
        largest ∉ keys device.bySeq ∨ 128 ≤ (gapsAbove device.bySeq device.committed).length) ∧
      (window.moreMissing = decide (128 < (gapsAbove device.bySeq device.committed).length) ↔
        largest ∉ keys device.bySeq ∨ 128 < (gapsAbove device.bySeq device.committed).length) := by
  by_cases key : largest ∈ keys device.bySeq
  · obtain ⟨ranges, run, full, extended⟩ := window_wraps counted key enough
    refine ⟨_, run, rfl, ?_, ?_⟩
    · constructor
      · intro same
        have length := congrArg List.length same
        rw [List.length_take, full] at length
        exact Or.inr (by unfold maxMissingRanges at length; omega)
      · intro many
        have enough := many.resolve_left (not_not_intro key)
        apply (extended.eq_of_length _).symm
        rw [List.length_take, full]
        unfold maxMissingRanges
        omega
    · show true = decide _ ↔ _
      rw [eq_comm, decide_eq_true_eq]
      exact ⟨Or.inr, fun many => many.resolve_left (not_not_intro key)⟩
  · have short := lastSeq_short counted.range key
    have run := @window_of_counted _ _ counted short fuel (by omega)
    exact ⟨_, run, rfl, iff_of_true rfl (Or.inl key), iff_of_true rfl (Or.inl key)⟩

/-! ## Any records in any order -/

/-- A record that `Accept` does not refuse for a missing field. -/
def Complete (record : Record β) : Prop :=
  record.deviceId ≠ "" ∧ record.envelopeId ≠ "" ∧ record.seq ≠ 0 ∧ record.kind ≠ ""

/-- The sequences a journal has accepted from a device. A record whose sequence was taken with
other content is refused, and adds none. -/
def accepted (records : List (Record β)) (deviceId : String) : Set Nat :=
  {seq | ∃ record ∈ records, record.deviceId = deviceId ∧ Complete record ∧ record.seq = seq}

theorem accepted_cons (record : Record β) (rest : List (Record β)) (deviceId : String) :
    accepted (record :: rest) deviceId = accepted [record] deviceId ∪ accepted rest deviceId := by
  ext seq
  simp [accepted]

section Accept

variable [DecidableEq β] {journal : Journal β} {fuel : Nat}

/-- What the journal holds of every device. -/
def AllCounted (journal : Journal β) : Prop := ∀ deviceId, Counted (entry journal deviceId)

omit [DecidableEq β] in
theorem entry_update (deviceId : String) (device : DeviceJournal β) (other : String) :
    entry (Function.update journal deviceId (some device)) other =
      if other = deviceId then device else entry journal other := by
  unfold entry
  rw [Function.update_apply]
  split
  · rfl
  · rfl

omit [DecidableEq β] in
theorem snapshot_entry (enough : 0 < fuel) (deviceId : String) :
    snapshot fuel journal deviceId = (entry journal deviceId).window fuel := by
  unfold snapshot entry
  cases journal deviceId with
  | none => exact (window_new enough).symm
  | some device => rfl

omit [DecidableEq β] in
theorem window_ends {device : DeviceJournal β} (counted : Counted device)
    (enough : 130 * 2 ^ 64 ≤ fuel) : ∃ window, device.window fuel = some window := by
  obtain ⟨window, run, _⟩ := window_of_device counted enough
  exact ⟨window, run⟩

/-- What one call of `Accept` leaves behind: the journal of the device whose record it was, with
the sequence among its keys, and an answer that is its window. -/
structure Accepts (journal journal' : Journal β) (record : Record β)
    (answer : Except StoreError Result) (fuel : Nat) : Prop where
  counted : AllCounted journal'
  keys : ∀ deviceId, keys (entry journal' deviceId).bySeq =
    keys (entry journal deviceId).bySeq ∪ accepted [record] deviceId
  answered : ∀ status window, answer = .ok ⟨status, window⟩ →
    (entry journal' record.deviceId).window fuel = some window

omit [DecidableEq β] in
/-- An entry that is written back as it was, or created empty. -/
theorem accepts_same {record : Record β} {answer : Except StoreError Result}
    (counted : AllCounted journal) (known : record.seq ∈ keys (entry journal record.deviceId).bySeq)
    (answered : ∀ status window, answer = .ok ⟨status, window⟩ →
      (entry journal record.deviceId).window fuel = some window) :
    Accepts journal (Function.update journal record.deviceId (some (entry journal record.deviceId)))
      record answer fuel := by
  have same : ∀ deviceId, entry (Function.update journal record.deviceId
      (some (entry journal record.deviceId))) deviceId = entry journal deviceId := by
    intro deviceId
    rw [entry_update]
    split
    · next mine => rw [mine]
    · rfl
  constructor
  · intro deviceId
    rw [same]
    exact counted deviceId
  · intro deviceId
    rw [same, eq_comm, Set.union_eq_left]
    rintro seq ⟨other, member, rfl, _, rfl⟩
    obtain rfl := List.mem_singleton.mp member
    exact known
  · rw [same]
    exact answered

omit [DecidableEq β] in
theorem accepts_insert {record : Record β} (counted : AllCounted journal) (complete : Complete record)
    (fresh : ∀ other ∈ (entry journal record.deviceId).bySeq, other.seq ≠ record.seq)
    {target : Nat} {status : Status} {window : Window}
    (reached : Counted ⟨(entry journal record.deviceId).bySeq.insert record fresh, target⟩)
    (shown : DeviceJournal.window fuel
      ⟨(entry journal record.deviceId).bySeq.insert record fresh, target⟩ = some window) :
    Accepts journal (Function.update journal record.deviceId
      (some ⟨(entry journal record.deviceId).bySeq.insert record fresh, target⟩)) record
      (.ok ⟨status, window⟩) fuel := by
  constructor
  · intro deviceId
    rw [entry_update]
    split
    · exact reached
    · exact counted deviceId
  · intro deviceId
    rw [entry_update]
    split
    · next mine =>
      subst mine
      have one : accepted [record] record.deviceId = {record.seq} := by
        ext seq
        simp [accepted, complete, eq_comm]
      rw [keys_insert fresh, one, Set.union_singleton]
    · next other =>
      have none_ : accepted [record] deviceId = ∅ := by
        ext seq
        simp [accepted, Ne.symm other]
      rw [none_, Set.union_empty]
  · intro status' window' same
    cases same
    rw [entry_update, if_pos rfl]
    exact shown

theorem accept_ends {record : Record β} (counted : AllCounted journal) (fits : record.seq < 2 ^ 64)
    (enough : 130 * 2 ^ 64 ≤ fuel) :
    ∃ journal' answer, accept fuel journal record = some (journal', answer) ∧
      Accepts journal journal' record answer fuel := by
  unfold accept
  split
  · next refused =>
    refine ⟨journal, _, rfl, counted, ?_, by simp⟩
    intro deviceId
    rw [eq_comm, Set.union_eq_left]
    rintro seq ⟨other, member, _, complete, _⟩
    obtain rfl := List.mem_singleton.mp member
    unfold Complete at complete
    tauto
  · next given =>
    have complete : Complete record := by
      unfold Complete
      tauto
    dsimp only
    split
    · next existing found =>
      obtain ⟨member, same⟩ := Table.find_eq_some_iff.mp found
      have known : record.seq ∈ keys (entry journal record.deviceId).bySeq := ⟨existing, member, same⟩
      split
      · obtain ⟨window, run⟩ := window_ends (counted record.deviceId) enough
        refine ⟨Function.update journal record.deviceId (some (entry journal record.deviceId)),
          .ok ⟨.duplicate, window⟩, ?_, accepts_same counted known ?_⟩
        · show ((entry journal record.deviceId).window fuel >>= _) = _
          rw [run]
          rfl
        · intro status window' answer
          cases answer
          exact run
      · exact ⟨_, _, rfl, accepts_same counted known (by simp)⟩
    · next absent =>
      have fresh : ∀ other ∈ (entry journal record.deviceId).bySeq, other.seq ≠ record.seq :=
        Table.find_eq_none_iff.mp absent
      obtain ⟨target, reached, moves⟩ := advance_insert (counted record.deviceId)
        ⟨Nat.pos_of_ne_zero complete.2.2.1, fits⟩ fresh
      have below : target < 2 ^ 64 := prefixEnd_lt reached.range reached.cursor
      have moved := moves fuel (by omega)
      obtain ⟨window, run⟩ := window_ends reached enough
      refine ⟨_, .ok ⟨.inserted, window⟩, ?_, accepts_insert counted complete fresh reached run⟩
      show (advance ((entry journal record.deviceId).bySeq.insert record fresh) fuel
        (entry journal record.deviceId).committed >>= _) = _
      rw [moved]
      show (DeviceJournal.window fuel
        ⟨(entry journal record.deviceId).bySeq.insert record fresh, target⟩ >>= _) = _
      rw [run]
      rfl

theorem acceptAll_ends (records : List (Record β)) (range : ∀ record ∈ records, record.seq < 2 ^ 64)
    (enough : 130 * 2 ^ 64 ≤ fuel) (journal : Journal β) (counted : AllCounted journal) :
    ∃ journal' answers, acceptAll fuel journal records = some (journal', answers) ∧
      answers.length = records.length ∧ AllCounted journal' ∧
      (∀ deviceId, keys (entry journal' deviceId).bySeq =
        keys (entry journal deviceId).bySeq ∪ accepted records deviceId) ∧
      ∀ record ∈ records.getLast?, ∀ answer ∈ answers.getLast?, ∀ status window,
        answer = .ok ⟨status, window⟩ → (entry journal' record.deviceId).window fuel = some window := by
  induction records generalizing journal with
  | nil =>
    refine ⟨journal, [], rfl, rfl, counted, ?_, by simp⟩
    intro deviceId
    simp [accepted]
  | cons record rest ih =>
    obtain ⟨middle, answer, taken, step⟩ := accept_ends counted (range record (by simp)) enough
    obtain ⟨final, answers, run, length, countedF, keysF, answeredF⟩ :=
      ih (fun other member => range other (by simp [member])) middle step.counted
    refine ⟨final, answer :: answers, ?_, by simp [length], countedF, ?_, ?_⟩
    · simp only [acceptAll, taken, bind, Option.bind, run]
      rfl
    · intro deviceId
      rw [keysF, step.keys, accepted_cons record rest, Set.union_assoc]
    · cases rest with
      | nil =>
        cases run
        intro last isLast answer' isAnswer
        simp only [List.getLast?_singleton, Option.mem_some_iff] at isLast isAnswer
        rw [← isLast, ← isAnswer]
        exact step.answered
      | cons next rest =>
        cases answers with
        | nil => cases length
        | cons head tail =>
          rw [List.getLast?_cons_cons, List.getLast?_cons_cons]
          exact answeredF

omit [DecidableEq β] in
theorem newJournal_counted : AllCounted (newJournal : Journal β) :=
  fun _ => settled_new.counted

omit [DecidableEq β] in
theorem newJournal_keys (deviceId : String) : keys (entry (newJournal : Journal β) deviceId).bySeq = ∅ := by
  ext seq
  simp only [Set.mem_empty_iff_false, iff_false]
  rintro ⟨record, member, _⟩
  cases member

/-- **The whole range of sequences.** Whatever records arrive, with sequences up to the largest
uint64, both loops end in every call. What the journal shows of a device has the exact prefix of
the sequences it accepted from it; it has the first 128 holes exactly where the largest uint64 is
not among them or there are 128 holes. The answer to the last record is what is shown after it. -/
theorem window_exact_iff (records : List (Record β)) (range : ∀ record ∈ records, record.seq < 2 ^ 64)
    (enough : 130 * 2 ^ 64 ≤ fuel) :
    ∃ journal answers, acceptAll fuel newJournal records = some (journal, answers) ∧
      (∀ deviceId, ∃ window gaps, snapshot fuel journal deviceId = some window ∧
        IsPrefixEnd (accepted records deviceId) 0 window.committedThrough ∧
        GapList (accepted records deviceId) window.committedThrough gaps ∧
        (window.missingRanges = gaps.take 128 ↔
          largest ∉ accepted records deviceId ∨ 128 ≤ gaps.length) ∧
        (window.moreMissing = decide (128 < gaps.length) ↔
          largest ∉ accepted records deviceId ∨ 128 < gaps.length)) ∧
      ∀ record ∈ records.getLast?, ∀ answer ∈ answers.getLast?, ∀ status window,
        answer = .ok ⟨status, window⟩ → snapshot fuel journal record.deviceId = some window := by
  obtain ⟨journal, answers, run, _, counted, held, answered⟩ :=
    acceptAll_ends records range enough newJournal newJournal_counted
  refine ⟨journal, answers, run, ?_, ?_⟩
  · intro deviceId
    have same : keys (entry journal deviceId).bySeq = accepted records deviceId := by
      rw [held, newJournal_keys, Set.empty_union]
    obtain ⟨window, shown, cursor, ranges, more⟩ := window_of_device (counted deviceId) enough
    have gaps := gapsAbove_gapList (entry journal deviceId).bySeq (entry journal deviceId).committed
    have prefix_ := (counted deviceId).cursor
    rw [same] at ranges more gaps prefix_
    rw [← cursor] at gaps prefix_
    refine ⟨window, _, ?_, prefix_, gaps, ?_, ?_⟩
    · rw [snapshot_entry (by omega)]
      exact shown
    · rw [cursor]
      exact ranges
    · rw [cursor]
      exact more
  · intro record isLast answer isAnswer status window same
    rw [snapshot_entry (by omega)]
    exact answered record isLast answer isAnswer status window same

end Accept

/-- Sequence 3 before sequence 1. -/
theorem window_exact_out_of_order_iff :
    ∃ journal answers, acceptAll (130 * 2 ^ 64) newJournal outOfOrderRecords = some (journal, answers) ∧
      (∀ deviceId, ∃ window gaps, snapshot (130 * 2 ^ 64) journal deviceId = some window ∧
        IsPrefixEnd (accepted outOfOrderRecords deviceId) 0 window.committedThrough ∧
        GapList (accepted outOfOrderRecords deviceId) window.committedThrough gaps ∧
        (window.missingRanges = gaps.take 128 ↔
          largest ∉ accepted outOfOrderRecords deviceId ∨ 128 ≤ gaps.length) ∧
        (window.moreMissing = decide (128 < gaps.length) ↔
          largest ∉ accepted outOfOrderRecords deviceId ∨ 128 < gaps.length)) ∧
      ∀ record ∈ outOfOrderRecords.getLast?, ∀ answer ∈ answers.getLast?, ∀ status window,
        answer = .ok ⟨status, window⟩ →
          snapshot (130 * 2 ^ 64) journal record.deviceId = some window :=
  window_exact_iff outOfOrderRecords (by decide) (Nat.le_refl _)

/-- The only record of its device. -/
def largestRecord : Record Nat := ⟨"t", "d", "e", largest, "Alert", 0⟩

theorem accepted_largest : accepted [largestRecord] "d" = {seq | seq ∈ [largest]} := by
  ext seq
  constructor
  · rintro ⟨record, member, _, _, rfl⟩
    obtain rfl := List.mem_singleton.mp member
    exact List.mem_singleton.mpr rfl
  · intro member
    obtain rfl := List.mem_singleton.mp member
    exact ⟨largestRecord, List.mem_singleton.mpr rfl, rfl, by unfold Complete; decide, rfl⟩

/-- A device that starts at the largest sequence `parseSeq` admits misses one range, and is asked
for 128. -/
theorem largest_sequence_wraps :
    parseSeq "18446744073709551615" = some largestRecord.seq ∧
      ∃ journal answers window, acceptAll (130 * 2 ^ 64) newJournal [largestRecord] =
          some (journal, answers) ∧
        snapshot (130 * 2 ^ 64) journal "d" = some window ∧ window.committedThrough = 0 ∧
        GapList (accepted [largestRecord] "d") 0 [⟨1, largest - 1⟩] ∧
        window.missingRanges ≠ ([⟨1, largest - 1⟩] : List Gap).take 128 ∧
        window.missingRanges.length = 128 ∧ window.moreMissing = true := by
  obtain ⟨journal, answers, run, _, counted, held, _⟩ := acceptAll_ends [largestRecord]
    (by decide) (Nat.le_refl (130 * 2 ^ 64)) newJournal newJournal_counted
  have same : keys (entry journal "d").bySeq = {seq | seq ∈ [largest]} := by
    rw [held, newJournal_keys, Set.empty_union, accepted_largest]
  have key : largest ∈ keys (entry journal "d").bySeq := by
    rw [same]
    exact List.mem_singleton.mpr rfl
  have none_ : (entry journal "d").committed = 0 := by
    apply (counted "d").cursor.unique
    apply isPrefixEnd_of_stop (Nat.le_refl _)
    · intro s lower upper
      omega
    · rw [same]
      exact fun one => absurd (List.mem_singleton.mp one) (by decide)
  obtain ⟨ranges, shown, full, _⟩ := window_wraps (counted "d") key (Nat.le_refl _)
  refine ⟨by decide, journal, answers, ⟨(entry journal "d").committed, ranges, true⟩, run, ?_, none_, ?_, ?_,
    full, rfl⟩
  · rw [snapshot_entry (by decide)]
    exact shown
  · rw [accepted_largest]
    exact gapsFrom_gapList 0 [largest] (by simp) (by decide)
  · intro same
    have length := full.symm.trans (congrArg List.length same)
    exact absurd length (by decide)

end VodogeCloud.Guarantees.WholeSequenceRange
