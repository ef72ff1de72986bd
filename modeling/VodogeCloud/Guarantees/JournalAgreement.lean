import VodogeCloud.Guarantees.IngressAnswers
import VodogeCloud.Guarantees.JournalWindow
import VodogeCloud.Guarantees.SessionTurns
import VodogeCloud.Guarantees.WholeSequenceRange
import VodogeCloud.Lib.PairedLists
import VodogeCloud.Lib.WriteOnce

/-!
# The two journals are one log

Both implementations of `ingress.Store` keep, for each device and sequence, the first record
offered, and answer every later offer by comparing it with that one. So they give the same
answers, windows included, to every list of records, replays and conflicts among them, as long
as the list stays clear of what only PostgreSQL looks at: the registration of the device, the
index of envelope ids, the projection, and documents that are equal and spelt differently.
-/

set_option autoImplicit false

namespace VodogeCloud.Guarantees.JournalAgreement

open VodogeCloud.Lib VodogeCloud.Lib.PairedLists VodogeCloud.Lib.SequenceGaps VodogeCloud.Lib.WriteOnce
open VodogeCloud.Source.Postgres VodogeCloud.Source.IngressWindow VodogeCloud.Source.IngressWrites
open VodogeCloud.Source.IngressStore (Number SqlRecord readWindow)
open VodogeCloud.Source.NulScrub (MapOrder)
open VodogeCloud.Source.MemoryJournal
open VodogeCloud.Guarantees.IngressAnswers VodogeCloud.Guarantees.JournalWindow
open VodogeCloud.Guarantees.WholeSequenceRange (entry_update)
open VodogeCloud.Guarantees.SessionTurns (sampleJournal)

variable {β σ : Type}

/-! ## Records for both stores -/

/-- A record that `Accept` of either store takes as far as its own journal: `args` is what
reaches the INSERT with the maps walked in `order`, `bytes` is the payload as it came. -/
structure Handed (β : Type) where
  record : SqlRecord
  order : MapOrder Number
  args : AcceptArgs
  bytes : β
  now : Timestamp
  sequenced : Sequenced record
  offered : Offered order record args

/-- The record as the in-memory journal takes it. -/
def Handed.inMemory (handed : Handed β) : Record β where
  tenantId := uuidOut handed.record.tenantId
  deviceId := uuidOut handed.record.deviceId
  envelopeId := handed.record.envelopeId
  seq := handed.record.seq
  kind := handed.record.kind
  payload := handed.bytes

/-- What a record says beside its sequence. -/
abbrev Content : Type := Uuid × String × Jsonb

def Handed.item (handed : Handed β) : (Uuid × Nat) × Content :=
  ((handed.record.deviceId, handed.record.seq), handed.args.envelopeId, handed.args.kind, handed.args.payload)

def rowContent (row : IngressRow) : Content := (row.envelopeId, row.kind, row.payload)

theorem handed_key (handed : Handed β) : (handed.args.row handed.now).key = handed.item.1 := handed.offered.key

theorem handed_content (handed : Handed β) : rowContent (handed.args.row handed.now) = handed.item.2 := rfl

/-- What `Accept` of SQLStore depends on and the in-memory journal does not look at. -/
structure Plain [DecidableEq β] (project : σ → IngressRow → Except PgError σ) (db : IngressDb)
    (all : List (Handed β)) : Prop where
  registered : ∀ handed ∈ all,
    ∃ row ∈ db.devices, row.id = handed.record.deviceId ∧ row.tenantId = handed.record.tenantId
  envelopes : ∀ a ∈ all, ∀ b ∈ all, a.args.envelopeId = b.args.envelopeId → a.item.1 = b.item.1
  spelling : ∀ a ∈ all, ∀ b ∈ all, a.item.1 = b.item.1 →
    (sameContent a.inMemory b.inMemory = true ↔ a.item.2 = b.item.2)
  projected : ∀ rest row, ∃ rest', project rest row = .ok rest'

/-- The sequences a log holds of a device. -/
def sequences (log : Log (Uuid × Nat) Content) (device : Uuid) : Set Nat := {seq | log (device, seq) ≠ none}

/-- The window of a set of sequences, nothing pruned. -/
structure IsWindow (stored : Set Nat) (window : Window) : Prop where
  committed : IsPrefixEnd stored 0 window.committedThrough
  missing : ∃ gaps, GapList stored window.committedThrough gaps ∧
    window.missingRanges = gaps.take 128 ∧ window.moreMissing = decide (128 < gaps.length)

theorem IsWindow.unique {stored : Set Nat} {a b : Window} (first : IsWindow stored a) (second : IsWindow stored b) :
    a = b := by
  obtain ⟨committed, ranges, more⟩ := a
  obtain ⟨gaps, list, shown, capped⟩ := first.missing
  obtain ⟨gaps', list', shown', capped'⟩ := second.missing
  have same := first.committed.unique second.committed
  dsimp only at same list shown capped
  subst same
  obtain rfl := list.unique list'
  rw [shown, capped, ← shown', ← capped']

/-- What a store says where the log gives an answer. -/
def Tells (handed : Handed β) (said : Answer × Log (Uuid × Nat) Content) (output : Except StoreError Result) : Prop :=
  match said.1 with
  | .stored => ∃ window, output = .ok ⟨.inserted, window⟩ ∧ IsWindow (sequences said.2 handed.record.deviceId) window
  | .repeated => ∃ window, output = .ok ⟨.duplicate, window⟩ ∧
      IsWindow (sequences said.2 handed.record.deviceId) window
  | .conflict => ∃ text, output = .error (.conflict text)

/-- Two answers that a session cannot tell apart. -/
def SameAnswer : Except StoreError Result → Except StoreError Result → Prop
  | .ok a, .ok b => a = b
  | .error (.conflict _), .error (.conflict _) => True
  | _, _ => False

theorem sameAnswer_of_tells {handed : Handed β} {said : Answer × Log (Uuid × Nat) Content}
    {a b : Except StoreError Result} (first : Tells handed said a) (second : Tells handed said b) :
    SameAnswer a b := by
  unfold Tells at first second
  split at first
  · next is =>
    rw [is] at second
    obtain ⟨window, rfl, shown⟩ := first
    obtain ⟨window', rfl, shown'⟩ := second
    exact congrArg _ (shown.unique shown')
  · next is =>
    rw [is] at second
    obtain ⟨window, rfl, shown⟩ := first
    obtain ⟨window', rfl, shown'⟩ := second
    exact congrArg _ (shown.unique shown')
  · next is =>
    rw [is] at second
    obtain ⟨text, rfl⟩ := first
    obtain ⟨text', rfl⟩ := second
    trivial

/-! ## The tables are the log -/

section Tables

variable {project : σ → IngressRow → Except PgError σ} {start : IngressDb}

/-- `Accept` of SQLStore for a record that was handed over. -/
def acceptInTables (project : σ → IngressRow → Except PgError σ) (state : IngressDb × σ) (handed : Handed β) :
    Option ((IngressDb × σ) × Except StoreError Result) :=
  let (db, rest, answer) := Source.IngressStore.accept handed.order project handed.record handed.now state.1 state.2
  some ((db, rest), answer)

structure TablesHold (start : IngressDb) (all : List (Handed β)) (state : IngressDb × σ)
    (log : Log (Uuid × Nat) Content) : Prop where
  devices : state.1.devices = start.devices
  unpruned : state.1.pruned.rows = []
  known : ∀ row ∈ state.1.ingress, ∃ handed ∈ all, row.key = handed.item.1 ∧ rowContent row = handed.item.2
  held : ∀ key, log key = (state.1.ingress.find key).map rowContent

theorem base_unpruned {db : IngressDb} (unpruned : db.pruned.rows = []) (tenant device : Uuid) :
    db.base tenant device = 0 := by
  have absent : db.pruned.find (tenant, device) = none :=
    Table.find_eq_none_iff.mpr fun row member => by
      rw [← Table.mem_rows, unpruned] at member
      cases member
  rw [IngressDb.base, absent]
  rfl

/-- A stored row of a registered device is its tenant's. -/
theorem row_tenant {db : IngressDb} {tenant device : Uuid} {row : IngressRow} (member : row ∈ db.ingress)
    (registered : ∃ owner ∈ db.devices, owner.id = device ∧ owner.tenantId = tenant) (same : row.deviceId = device) :
    row.tenantId = tenant := by
  obtain ⟨owner, inDevices, isDevice, isTenant⟩ := registered
  obtain ⟨other, inDevices', isDevice', isTenant'⟩ := db.valid.ingressDevice row member
  obtain rfl := Table.eq_of_key inDevices inDevices' (isDevice.trans (same.symm.trans isDevice'.symm))
  exact isTenant'.symm.trans isTenant

theorem stored_eq {db : IngressDb} {log : Log (Uuid × Nat) Content} {tenant device : Uuid}
    (held : ∀ key, log key = (db.ingress.find key).map rowContent)
    (registered : ∃ owner ∈ db.devices, owner.id = device ∧ owner.tenantId = tenant) :
    db.stored tenant device = sequences log device := by
  ext seq
  change (∃ row ∈ db.ingress, row.of tenant device ∧ row.seq = seq) ↔ log (device, seq) ≠ none
  rw [held]
  constructor
  · rintro ⟨row, member, mine, rfl⟩ absent
    have found : db.ingress.find (device, row.seq) = none := Option.map_eq_none_iff.mp absent
    refine Table.find_eq_none_iff.mp found row member ?_
    simp only [IngressRow.of, Bool.and_eq_true, decide_eq_true_eq] at mine
    rw [IngressRow.key, mine.2]
  · intro present
    cases found : db.ingress.find (device, seq) with
    | none =>
      rw [found] at present
      exact absurd rfl present
    | some row =>
      obtain ⟨member, key⟩ := Table.find_eq_some_iff.mp found
      obtain ⟨isDevice, isSeq⟩ := Prod.mk.inj key
      exact ⟨row, member, by simp [IngressRow.of, row_tenant member registered isDevice, isDevice], isSeq⟩

theorem window_tables {db : IngressDb} {log : Log (Uuid × Nat) Content} {tenant device : Uuid}
    (unpruned : db.pruned.rows = []) (held : ∀ key, log key = (db.ingress.find key).map rowContent)
    (registered : ∃ owner ∈ db.devices, owner.id = device ∧ owner.tenantId = tenant) :
    IsWindow (sequences log device) (readWindow db tenant device) := by
  rw [← stored_eq held registered]
  refine ⟨?_, _, gaps_gapList db tenant device, rfl, rfl⟩
  have committed := window_committed db tenant device
  rwa [base_unpruned unpruned] at committed

theorem sameRecord_iff {handed : Handed β} {row : IngressRow} (tenant : row.tenantId = handed.record.tenantId) :
    sameRecord (some handed.record.tenantId) handed.args row = true ↔ rowContent row = handed.item.2 := by
  simp [sameRecord, tenant, rowContent, Handed.item, and_assoc]

theorem tables_simulate [DecidableEq β] {all : List (Handed β)} (plain : Plain project start all)
    {handed : Handed β} (member : handed ∈ all) :
    Simulates (acceptInTables project) Handed.item (TablesHold start all) Tells handed := by
  rintro ⟨db, rest⟩ log holds
  obtain ⟨devices, unpruned, known, held⟩ := holds
  dsimp only at devices unpruned known held
  have registered : ∃ owner ∈ db.devices, owner.id = handed.record.deviceId ∧
      owner.tenantId = handed.record.tenantId := by
    rw [devices]
    exact plain.registered handed member
  have here := held handed.item.1
  unfold acceptInTables Tells
  cases found : db.ingress.find handed.item.1 with
  | some existing =>
    obtain ⟨stored, key⟩ := Table.find_eq_some_iff.mp found
    have tenant := row_tenant stored registered (Prod.mk.inj key).1
    rw [found, Option.map_some] at here
    by_cases same : rowContent existing = handed.item.2
    · rw [accept_duplicate handed.sequenced handed.offered found ((sameRecord_iff tenant).mpr same),
        answer_of_same (here.trans (congrArg some same)), offer_of_some here]
      exact ⟨_, _, rfl, ⟨devices, unpruned, known, held⟩, _, rfl, window_tables unpruned held registered⟩
    · obtain ⟨text, refused⟩ := @accept_conflict _ handed.order project handed.record handed.args handed.now db rest
        handed.sequenced handed.offered existing found (by
          rw [Bool.eq_false_iff, ne_eq, sameRecord_iff tenant]
          exact same)
      rw [refused, answer_of_other here same, offer_of_some here]
      exact ⟨_, _, rfl, ⟨devices, unpruned, known, held⟩, text, rfl⟩
  | none =>
    rw [found, Option.map_none] at here
    -- a row with the envelope id would be a record of this very sequence
    have open_ : Insertable db handed.record.tenantId handed.record.deviceId handed.args.envelopeId := by
      refine ⟨fun row inTable same => ?_, registered⟩
      obtain ⟨other, inAll, key, said⟩ := known row inTable
      have envelope : other.args.envelopeId = handed.args.envelopeId := (congrArg Prod.fst said).symm.trans same
      refine Table.find_eq_none_iff.mp found row inTable ?_
      rw [key, plain.envelopes other inAll handed member envelope]
    obtain ⟨rest', projected⟩ : ∃ rest', projectInserted project (handed.args.row handed.now) rest = .ok rest' := by
      unfold projectInserted
      split
      · exact plain.projected rest _
      · exact ⟨rest, rfl⟩
    obtain ⟨db', accepted, devices', pruned', rows⟩ :=
      accept_inserted handed.sequenced handed.offered found open_ projected
    have held' : ∀ key, log.offer handed.item.1 handed.item.2 key = (db'.ingress.find key).map rowContent := by
      intro key
      rw [offer_of_none here]
      by_cases same : key = handed.item.1
      · subst same
        have inserted : db'.ingress.find handed.item.1 = some (handed.args.row handed.now) :=
          Table.find_eq_some_iff.mpr ⟨(rows _).mpr (Or.inr rfl), handed_key handed⟩
        rw [Function.update_self, inserted]
        rfl
      · rw [Function.update_of_ne same, held key]
        congr 1
        cases before : db.ingress.find key with
        | some row =>
          obtain ⟨inTable, isKey⟩ := Table.find_eq_some_iff.mp before
          exact (Table.find_eq_some_iff.mpr ⟨(rows row).mpr (Or.inl inTable), isKey⟩).symm
        | none =>
          refine (Table.find_eq_none_iff.mpr fun row inTable isKey => ?_).symm
          rcases (rows row).mp inTable with old | rfl
          · exact Table.find_eq_none_iff.mp before row old isKey
          · exact same (isKey.symm.trans (handed_key handed))
    have unpruned' : db'.pruned.rows = [] := by rw [pruned', unpruned]
    rw [accepted, answer_of_none here]
    refine ⟨_, _, rfl, ⟨devices'.trans devices, unpruned', ?_, held'⟩, _, rfl,
      window_tables unpruned' held' (devices' ▸ registered)⟩
    intro row inTable
    rcases (rows row).mp inTable with old | rfl
    · exact known row old
    · exact ⟨handed, member, handed_key handed, handed_content handed⟩

end Tables

/-! ## The in-memory journal is the log -/

section Memory

variable {all : List (Handed β)} {fuel : Nat}

/-- What the journal holds of a device. -/
abbrev journalOf (journal : Journal β) (device : Uuid) : DeviceJournal β := entry journal (uuidOut device)

structure MemoryHolds (all : List (Handed β)) (journal : Journal β) (log : Log (Uuid × Nat) Content) : Prop where
  settled : ∀ device, Settled (journalOf journal device)
  known : ∀ device, ∀ record ∈ (journalOf journal device).bySeq, ∃ handed ∈ all,
    record = handed.inMemory ∧ handed.record.deviceId = device ∧ log handed.item.1 = some handed.item.2
  held : ∀ device, keys (journalOf journal device).bySeq = sequences log device

theorem window_memory {journal : Journal β} {log : Log (Uuid × Nat) Content} {device : Uuid}
    (settled : Settled (journalOf journal device)) (held : keys (journalOf journal device).bySeq = sequences log device)
    (enough : bigintMax < fuel) :
    ∃ window, (journalOf journal device).window fuel = some window ∧ IsWindow (sequences log device) window := by
  obtain ⟨gaps, list, shown⟩ := window_of_settled settled enough
  rw [held] at list
  exact ⟨_, shown, held ▸ settled.cursor, gaps, list, rfl, rfl⟩

theorem inMemory_complete (handed : Handed β) :
    ¬ (handed.inMemory.deviceId = "" ∨ handed.inMemory.envelopeId = "" ∨ handed.inMemory.seq = 0 ∨
      handed.inMemory.kind = "") := by
  rintro (device | envelope | seq | kind)
  · have length := uuidOut_length handed.record.deviceId
    rw [show uuidOut handed.record.deviceId = "" from device] at length
    cases length
  · have parsed := handed.offered.envelope
    rw [show handed.record.envelopeId = "" from envelope] at parsed
    have fails : ∀ id, uuidIn "" ≠ .ok id := by
      intro id same
      have refused : (uuidIn "").toBool = false := by decide +kernel
      rw [same] at refused
      cases refused
    exact fails _ parsed
  · have positive := handed.sequenced.positive
    change handed.record.seq = 0 at seq
    omega
  · have known := handed.sequenced.kind
    rw [show handed.record.kind = "" from kind] at known
    revert known
    decide

theorem journalOf_update (journal : Journal β) (device other : Uuid) (entry_ : DeviceJournal β) :
    journalOf (Function.update journal (uuidOut device) (some entry_)) other =
      if other = device then entry_ else journalOf journal other := by
  unfold journalOf
  rw [entry_update]
  by_cases same : other = device
  · rw [if_pos same, if_pos (congrArg uuidOut same)]
  · rw [if_neg same, if_neg fun text => same (uuidOut_injective text)]

/-- An entry that is written back as it was. -/
theorem memoryHolds_same {journal : Journal β} {log : Log (Uuid × Nat) Content} (holds : MemoryHolds all journal log)
    (device : Uuid) :
    MemoryHolds all (Function.update journal (uuidOut device) (some (journalOf journal device))) log := by
  have same : ∀ other, journalOf (Function.update journal (uuidOut device) (some (journalOf journal device))) other =
      journalOf journal other := by
    intro other
    rw [journalOf_update]
    split
    · next here => rw [here]
    · rfl
  refine ⟨fun other => ?_, fun other => ?_, fun other => ?_⟩
  · rw [same]
    exact holds.settled other
  · rw [same]
    exact holds.known other
  · rw [same]
    exact holds.held other

theorem memoryHolds_insert {journal : Journal β} {log : Log (Uuid × Nat) Content} (holds : MemoryHolds all journal log)
    {handed : Handed β} (member : handed ∈ all) (absent : log handed.item.1 = none)
    (fresh : ∀ other ∈ (journalOf journal handed.record.deviceId).bySeq, other.seq ≠ handed.inMemory.seq)
    {target : Nat} (settled : Settled ⟨(journalOf journal handed.record.deviceId).bySeq.insert handed.inMemory fresh,
      target⟩) :
    MemoryHolds all (Function.update journal (uuidOut handed.record.deviceId)
      (some ⟨(journalOf journal handed.record.deviceId).bySeq.insert handed.inMemory fresh, target⟩))
      (log.offer handed.item.1 handed.item.2) := by
  rw [offer_of_none absent]
  refine ⟨fun other => ?_, fun other => ?_, fun other => ?_⟩
  · rw [journalOf_update]
    split
    · exact settled
    · exact holds.settled other
  · have old : ∀ record ∈ (journalOf journal other).bySeq, ∃ first ∈ all, record = first.inMemory ∧
        first.record.deviceId = other ∧
        Function.update log handed.item.1 (some handed.item.2) first.item.1 = some first.item.2 := by
      intro record inEntry
      obtain ⟨first, inAll, same, mine, said⟩ := holds.known other record inEntry
      refine ⟨first, inAll, same, mine, ?_⟩
      rw [Function.update_of_ne ?_, said]
      intro key
      rw [key, absent] at said
      cases said
    intro record inEntry
    rw [journalOf_update] at inEntry
    split at inEntry
    · next here =>
      subst here
      rcases (@Table.mem_insert _ _ _ _ _ _ fresh).mp inEntry with before | rfl
      · exact old record before
      · exact ⟨handed, member, rfl, rfl, Function.update_self _ _ _⟩
    · exact old record inEntry
  · ext seq
    change _ ↔ Function.update log handed.item.1 (some handed.item.2) (other, seq) ≠ none
    have before : seq ∈ keys (journalOf journal other).bySeq ↔ log (other, seq) ≠ none := by
      rw [holds.held other]
      rfl
    rw [journalOf_update]
    by_cases here : other = handed.record.deviceId
    · subst here
      rw [if_pos rfl, keys_insert fresh, Set.mem_insert_iff]
      by_cases same : seq = handed.inMemory.seq
      · subst same
        rw [show (handed.record.deviceId, handed.inMemory.seq) = handed.item.1 from rfl, Function.update_self]
        simp
      · have elsewhere : (handed.record.deviceId, seq) ≠ handed.item.1 := fun key => same (Prod.mk.inj key).2
        rw [Function.update_of_ne elsewhere, ← before]
        simp [same]
    · have elsewhere : (other, seq) ≠ handed.item.1 := fun key => here (Prod.mk.inj key).1
      rw [if_neg here, Function.update_of_ne elsewhere, before]

variable [DecidableEq β]

def acceptInMemory (fuel : Nat) (journal : Journal β) (handed : Handed β) :
    Option (Journal β × Except StoreError Result) :=
  accept fuel journal handed.inMemory

theorem memory_simulate {project : σ → IngressRow → Except PgError σ} {start : IngressDb}
    (plain : Plain project start all) (enough : bigintMax + 1 < fuel) {handed : Handed β} (member : handed ∈ all) :
    Simulates (acceptInMemory fuel) Handed.item (MemoryHolds all) Tells handed := by
  intro journal log holds
  have settled := holds.settled handed.record.deviceId
  unfold acceptInMemory accept Tells
  rw [if_neg (inMemory_complete handed)]
  dsimp only
  split
  · next existing found =>
    obtain ⟨inEntry, isSeq⟩ := Table.find_eq_some_iff.mp found
    obtain ⟨first, inAll, rfl, isDevice, said⟩ := holds.known _ existing inEntry
    have key : first.item.1 = handed.item.1 := Prod.ext isDevice isSeq
    rw [key] at said
    have alike := plain.spelling first inAll handed member key
    by_cases same : first.item.2 = handed.item.2
    · obtain ⟨window, run, shown⟩ := @window_memory _ fuel journal log handed.record.deviceId settled
        (holds.held _) (by omega)
      rw [if_pos (alike.mpr same), answer_of_same (said.trans (congrArg some same)), offer_of_some said]
      refine ⟨_, .ok ⟨.duplicate, window⟩, ?_, memoryHolds_same holds handed.record.deviceId, window, rfl, shown⟩
      change ((journalOf journal handed.record.deviceId).window fuel >>= _) = _
      rw [run]
      rfl
    · rw [if_neg (fun text => same (alike.mp text)), answer_of_other said same, offer_of_some said]
      exact ⟨_, _, rfl, memoryHolds_same holds handed.record.deviceId, _, rfl⟩
  · next absent =>
    have fresh := Table.find_eq_none_iff.mp absent
    have below := bigintMax_lt
    have small := handed.offered.small
    have largest : bigintMax = 2 ^ 63 - 1 := rfl
    have range : 0 < handed.inMemory.seq ∧ handed.inMemory.seq ≤ bigintMax :=
      ⟨handed.sequenced.positive, by change handed.record.seq ≤ _; omega⟩
    have missing : log handed.item.1 = none := by
      by_contra present
      have inKeys : handed.record.seq ∈ keys (journalOf journal handed.record.deviceId).bySeq := by
        rw [holds.held]
        exact present
      obtain ⟨other, inEntry, same⟩ := inKeys
      exact fresh other inEntry same
    obtain ⟨target, counted, moves⟩ := advance_insert settled.counted ⟨range.1, by omega⟩ fresh
    have settled' : Settled ⟨(journalOf journal handed.record.deviceId).bySeq.insert handed.inMemory fresh, target⟩ := by
      refine ⟨fun other inEntry => ?_, counted.cursor⟩
      rcases (@Table.mem_insert _ _ _ _ _ _ fresh).mp inEntry with old | rfl
      · exact settled.bounded other old
      · exact range
    have fits : target ≤ bigintMax :=
      prefixEnd_le (fun record inEntry => (settled'.bounded record inEntry).2) counted.cursor
    have holds' := memoryHolds_insert holds member missing fresh settled'
    obtain ⟨window, run, shown⟩ := @window_memory _ fuel _ _ handed.record.deviceId
      (holds'.settled handed.record.deviceId) (holds'.held _) (by omega)
    rw [answer_of_none missing]
    refine ⟨_, .ok ⟨.inserted, window⟩, ?_, holds', window, rfl, shown⟩
    rw [journalOf_update, if_pos rfl] at run
    change (advance ((journalOf journal handed.record.deviceId).bySeq.insert handed.inMemory fresh) fuel
      (journalOf journal handed.record.deviceId).committed >>= _) = _
    rw [moves fuel (by omega)]
    change (DeviceJournal.window fuel
      ⟨(journalOf journal handed.record.deviceId).bySeq.insert handed.inMemory fresh, target⟩ >>= _) = _
    rw [run]
    rfl

end Memory

/-! ## Side by side -/

section Both

variable [DecidableEq β] {fuel : Nat}

theorem acceptAll_outputs (records : List (Handed β)) (journal : Journal β) :
    (acceptAll fuel journal (records.map Handed.inMemory)).map Prod.snd =
      outputs (acceptInMemory fuel) journal records := by
  induction records generalizing journal with
  | nil => rfl
  | cons handed rest ih =>
    rw [List.map_cons, acceptAll, outputs]
    change _ = (accept fuel journal handed.inMemory >>= _)
    cases accept fuel journal handed.inMemory with
    | none => rfl
    | some taken =>
      change Option.map Prod.snd (acceptAll fuel taken.1 (rest.map Handed.inMemory) >>= _) =
        (outputs (acceptInMemory fuel) taken.1 rest >>= _)
      rw [← ih taken.1]
      cases acceptAll fuel taken.1 (rest.map Handed.inMemory) <;> rfl

/-- A gateway without a database gives a device the answers that one with a database gives. -/
theorem journals_agree {project : σ → IngressRow → Except PgError σ} {db : IngressDb} (rest : σ)
    (records : List (Handed β)) (plain : Plain project db records) (noRows : db.ingress.rows = [])
    (unpruned : db.pruned.rows = []) (enough : bigintMax + 1 < fuel) :
    ∃ inMemory inTables, (acceptAll fuel newJournal (records.map Handed.inMemory)).map Prod.snd = some inMemory ∧
      outputs (acceptInTables project) (db, rest) records = some inTables ∧
      List.Forall₂ SameAnswer inMemory inTables := by
  have tablesEmpty : TablesHold db records (db, rest) Log.empty := by
    refine ⟨rfl, unpruned, fun row member => ?_, fun key => ?_⟩
    · rw [← Table.mem_rows, noRows] at member
      cases member
    · have absent : db.ingress.find key = none := Table.find_eq_none_iff.mpr fun row member => by
        rw [← Table.mem_rows, noRows] at member
        cases member
      rw [absent]
      rfl
  have memoryEmpty : MemoryHolds records (newJournal : Journal β) Log.empty := by
    refine ⟨fun _ => settled_new, fun device record member => ?_, fun device => ?_⟩
    · cases member
    ext seq
    constructor
    · rintro ⟨record, member, _⟩
      cases member
    · exact fun present => absurd rfl present
  obtain ⟨inMemory, runMemory, saidMemory⟩ := outputs_tell records memoryEmpty fun handed member =>
    memory_simulate plain enough member
  obtain ⟨inTables, runTables, saidTables⟩ := outputs_tell records tablesEmpty fun handed member =>
    tables_simulate plain member
  refine ⟨inMemory, inTables, (acceptAll_outputs records newJournal).trans runMemory, runTables, ?_⟩
  exact (forall₂_both saidMemory saidTables).imp fun a b ⟨asked, _, first, second⟩ =>
    sameAnswer_of_tells first second

end Both

/-! ## A replay and a conflict -/

/-- An alert of the device under sequence 1. -/
def alert (envelope : Uuid) (parsed : uuidIn (uuidOut envelope) = .ok envelope) (now : Timestamp) : Handed String where
  record := ⟨5, 7, uuidOut envelope, 1, "Alert", some (.obj [])⟩
  order := .forwards
  args := ⟨5, 7, Source.IngressStore.int64 1, envelope, "Alert", .obj []⟩
  bytes := "\x7b\x7d"
  now := now
  sequenced := ⟨by simp [sequencedKinds], Nat.one_pos, by simp⟩
  offered := ⟨⟨.obj [], rfl, rfl⟩, parsed, rfl, by simp, rfl, rfl, rfl, rfl⟩

def offers : List (Handed String) :=
  [alert 101 (uuidIn_uuidOut _) 0, alert 101 (uuidIn_uuidOut _) 3, alert 102 (uuidIn_uuidOut _) 4]

theorem offers_agree : ∃ inMemory inTables,
    (acceptAll (bigintMax + 2) newJournal (offers.map Handed.inMemory)).map Prod.snd = some inMemory ∧
      outputs (acceptInTables fun (rest : Unit) _ => .ok rest) (sampleJournal, ()) offers = some inTables ∧
      List.Forall₂ SameAnswer inMemory inTables := by
  refine journals_agree () offers ⟨?_, ?_, ?_, fun rest _ => ⟨rest, rfl⟩⟩ rfl rfl (Nat.lt_succ_self _)
  · intro handed member
    refine ⟨⟨7, 5⟩, List.mem_singleton.mpr rfl, ?_⟩
    simp only [offers, List.mem_cons, List.not_mem_nil, or_false] at member
    rcases member with rfl | rfl | rfl <;> exact ⟨rfl, rfl⟩
  · intro a memberA b memberB _
    simp only [offers, List.mem_cons, List.not_mem_nil, or_false] at memberA memberB
    rcases memberA with rfl | rfl | rfl <;> rcases memberB with rfl | rfl | rfl <;> rfl
  · intro a memberA b memberB _
    simp only [offers, List.mem_cons, List.not_mem_nil, or_false] at memberA memberB
    rcases memberA with rfl | rfl | rfl <;> rcases memberB with rfl | rfl | rfl <;> decide +kernel

end VodogeCloud.Guarantees.JournalAgreement
