import VodogeCloud.Guarantees.AcceptedRecords
import VodogeCloud.Lib.LatestWins

/-!
# The adoption registry keeps the last carrier that was in time

A record that carries `adoptions` replaces the registry of its device unless a
DeviceState with a higher sequence is in the journal already, whether or not that
one carries the key. The registry therefore says what the last carrier accepted in
time said. It says what the carrier with the highest sequence says when that one
was in time, or when the two happen to agree.
-/

set_option autoImplicit false

namespace VodogeCloud.Guarantees.AdoptionRegistry

open VodogeCloud.Lib VodogeCloud.Lib.Transactions VodogeCloud.Lib.LatestWins
open VodogeCloud.Source.Postgres VodogeCloud.Source.IngressWindow VodogeCloud.Source.IngressWrites
open VodogeCloud.Source.DeviceProjection VodogeCloud.Guarantees.AcceptedRecords

/-- The columns of a decision: when, by whom and why. -/
structure Decision where
  adoptedAt : Timestamp
  adoptedBy : String
  note : Option String
  deriving DecidableEq, Repr

def decision (adoption : Adoption) : Decision := ⟨adoption.adoptedAt, adoption.adoptedBy, adoption.note⟩

/-- What the registry says of an IMEI. -/
def book (registry : Table RegistryRow.key) (tenant device : Uuid) (imei : String) : Option Decision :=
  (registry.find (tenant, device, imei)).map fun row => decision row.adoption

/-! ## What a record says -/

/-- The record carries the key. -/
def carries (record : IngressRow) : Bool := hasKey record.payload "adoptions"

/-- The elements of the record's `adoptions` array. -/
def adoptionsOf (record : IngressRow) : List Jsonb :=
  match record.payload.get "adoptions" with
  | some (.arr entries) => entries
  | _ => []

/-- The entry that counts for an IMEI: the last one that names it. -/
def lastEntry (casts : Casts) (entries : List Jsonb) (imei : String) : Option Jsonb :=
  (entries.filter fun entry => casts.field entry "modem_imei" = some imei).getLast?

theorem lastEntry_cons (casts : Casts) (entry : Jsonb) (rest : List Jsonb) (imei : String) :
    lastEntry casts (entry :: rest) imei = (lastEntry casts rest imei).or
      (if casts.field entry "modem_imei" = some imei then some entry else none) := by
  simp [lastEntry]

/-- The record lists the IMEI with this decision, or does not list it. -/
def Tells (casts : Casts) (record : IngressRow) (imei : String) (told : Option Decision) : Prop :=
  match lastEntry casts (adoptionsOf record) imei with
  | none => told = none
  | some entry => ∃ adoption, readAdoption casts entry = .ok adoption ∧ told = some (decision adoption)

theorem Tells.unique {casts : Casts} {record : IngressRow} {imei : String} {a b : Option Decision}
    (first : Tells casts record imei a) (second : Tells casts record imei b) : a = b := by
  unfold Tells at first second
  cases entry : lastEntry casts (adoptionsOf record) imei with
  | none =>
    rw [entry] at first second
    rw [first, second]
  | some value =>
    rw [entry] at first second
    obtain ⟨adoptionA, readA, rfl⟩ := first
    obtain ⟨adoptionB, readB, rfl⟩ := second
    rw [readA] at readB
    cases readB
    rfl

/-! ## The order of acceptance -/

/-- The record was accepted before every DeviceState with a higher sequence. -/
def AcceptedInTime (states : List IngressRow) (record : IngressRow) : Prop :=
  ∃ before after, states = before ++ record :: after ∧
    ∀ newer ∈ before, ¬ record.seq < newer.seq

/-! ## One record -/

section Step

variable {casts : Casts} {record : IngressRow} {registry registry' : Table RegistryRow.key}

/-- One entry writes the row it names. -/
theorem projectAdoption_book {entry : Jsonb}
    (h : projectAdoption casts record registry entry = .ok registry') :
    ∃ adoption named, readAdoption casts entry = .ok adoption ∧
      casts.field entry "modem_imei" = some named ∧
      ∀ imei, book registry' record.tenantId record.deviceId imei =
        if imei = named then some (decision adoption)
        else book registry record.tenantId record.deviceId imei := by
  obtain ⟨adoption, read, h⟩ := bind_success h
  split at h
  · cases h
  · next named name =>
    cases h
    refine ⟨adoption, named, read, name, fun imei => ?_⟩
    split
    · next same =>
      subst same
      have found := @Table.find_upsert_self _ _ _ _ registry
        ⟨record.tenantId, record.deviceId, imei, adoption⟩ (mergeAdoption adoption)
        (mergeAdoption_key adoption)
      simp only [RegistryRow.key] at found
      unfold book
      rw [found]
      cases registry.find (record.tenantId, record.deviceId, imei) with
      | none => rfl
      | some row => rfl
    · next differs =>
      unfold book
      rw [Table.find_upsert_of_ne]
      intro same
      simp only [RegistryRow.key, Prod.mk.injEq, true_and] at same
      exact differs same

/-- The loop over the entries. -/
theorem foldlM_book {entries : List Jsonb}
    (h : entries.foldlM (projectAdoption casts record) registry = .ok registry') (imei : String) :
    match lastEntry casts entries imei with
    | none => book registry' record.tenantId record.deviceId imei =
        book registry record.tenantId record.deviceId imei
    | some entry => ∃ adoption, readAdoption casts entry = .ok adoption ∧
        book registry' record.tenantId record.deviceId imei = some (decision adoption) := by
  induction entries generalizing registry with
  | nil =>
    cases h
    rfl
  | cons entry rest ih =>
    rw [List.foldlM_cons] at h
    obtain ⟨middle, first, h⟩ := bind_success h
    obtain ⟨adoption, named, read, name, wrote⟩ := projectAdoption_book first
    have later := ih h
    rw [lastEntry_cons]
    cases inRest : lastEntry casts rest imei with
    | some last =>
      rw [inRest] at later
      exact later
    | none =>
      rw [inRest] at later
      have before : book registry' record.tenantId record.deviceId imei =
        book middle record.tenantId record.deviceId imei := later
      by_cases mine : imei = named
      · rw [if_pos (by rw [name, mine])]
        refine ⟨adoption, read, ?_⟩
        rw [before, wrote, if_pos mine]
      · rw [if_neg (by rw [name]; exact fun same => mine (Option.some.inj same).symm)]
        show book registry' _ _ imei = _
        rw [before, wrote, if_neg mine]

/-- A carrier in time replaces what the registry says. -/
theorem projectAdoptions_tells {journal : List IngressRow}
    (h : projectAdoptions casts journal record registry = .ok registry')
    (carrier : carries record = true) (alone : newerState journal record = false) (imei : String) :
    Tells casts record imei (book registry' record.tenantId record.deviceId imei) := by
  unfold projectAdoptions at h
  rw [if_pos (by simp only [carries] at carrier; simp [carrier, alone])] at h
  obtain ⟨entries, elements, h⟩ := bind_success h
  obtain ⟨middle, folded, h⟩ := bind_success h
  cases h
  have listed : adoptionsOf record = entries := by
    unfold adoptionsOf
    cases there : record.payload.get "adoptions" with
    | none =>
      rw [there] at elements
      cases elements
    | some value =>
      rw [there] at elements
      cases value with
      | arr items =>
        cases elements
        rfl
      | null => cases elements
      | bool flag => cases elements
      | num value => cases elements
      | str text => cases elements
      | obj fields => cases elements
  have loop := foldlM_book folded imei
  unfold Tells
  rw [listed]
  -- the DELETE spares the rows of the IMEIs the array names
  have kept : ∀ row, middle.find (record.tenantId, record.deviceId, imei) = some row →
      (row.of record.tenantId record.deviceId &&
        !entries.any fun entry => casts.field entry "modem_imei" = some row.imei) =
      !(entries.any fun entry => casts.field entry "modem_imei" = some imei) := by
    intro row found
    have key := (Table.find_eq_some_iff.mp found).2
    simp only [RegistryRow.key, Prod.mk.injEq] at key
    simp [RegistryRow.of, key.1, key.2.1, key.2.2]
  have deleted : book (middle.delete fun row => row.of record.tenantId record.deviceId &&
        !entries.any fun entry => casts.field entry "modem_imei" = some row.imei)
      record.tenantId record.deviceId imei =
      if entries.any (fun entry => casts.field entry "modem_imei" = some imei) then
        book middle record.tenantId record.deviceId imei else none := by
    unfold book
    rw [Table.find_delete]
    cases found : middle.find (record.tenantId, record.deviceId, imei) with
    | none => simp
    | some row =>
      rw [Option.filter_some, kept row found, Bool.not_not]
      split
      · rfl
      · rfl
  rw [deleted]
  cases last : lastEntry casts entries imei with
  | none =>
    have absent : entries.any (fun entry => casts.field entry "modem_imei" = some imei) = false := by
      rw [lastEntry, List.getLast?_eq_none_iff, List.filter_eq_nil_iff] at last
      rw [List.any_eq_false]
      exact last
    rw [absent]
    rfl
  | some entry =>
    have present : entries.any (fun entry => casts.field entry "modem_imei" = some imei) = true := by
      obtain ⟨member, named⟩ := List.mem_filter.mp (List.mem_of_getLast? last)
      exact List.any_eq_true.mpr ⟨entry, member, named⟩
    rw [last] at loop
    rw [present]
    exact loop

/-- Any other record leaves it alone. -/
theorem projectAdoptions_late {journal : List IngressRow}
    (h : projectAdoptions casts journal record registry = .ok registry')
    (skipped : carries record = false ∨ newerState journal record = true) : registry' = registry := by
  unfold projectAdoptions at h
  have closed : ¬ (hasKey record.payload "adoptions" && !newerState journal record) = true := by
    rcases skipped with bare | late
    · simp only [carries] at bare
      simp [bare]
    · simp [late]
  rw [if_neg closed] at h
  cases h
  rfl

/-- A record of another device does not reach the rows. -/
theorem projectAdoptions_foreign {journal : List IngressRow} {tenant device : Uuid}
    (other : ¬ (record.tenantId = tenant ∧ record.deviceId = device))
    (h : projectAdoptions casts journal record registry = .ok registry') (imei : String) :
    registry'.find (tenant, device, imei) = registry.find (tenant, device, imei) := by
  unfold projectAdoptions at h
  split at h
  · obtain ⟨entries, _, h⟩ := bind_success h
    obtain ⟨middle, folded, h⟩ := bind_success h
    cases h
    have same : middle.find (tenant, device, imei) = registry.find (tenant, device, imei) := by
      refine foldlM_keeps (fun table => table.find (tenant, device, imei))
        (fun before entry after turn => ?_) folded
      obtain ⟨adoption, _, turn⟩ := bind_success turn
      split at turn
      · cases turn
      · cases turn
        apply Table.find_upsert_of_ne
        intro key
        simp only [RegistryRow.key, Prod.mk.injEq] at key
        exact other ⟨key.1.symm, key.2.1.symm⟩
    rw [Table.find_delete, same]
    cases found : registry.find (tenant, device, imei) with
    | none => rfl
    | some row =>
      have key := (Table.find_eq_some_iff.mp found).2
      simp only [RegistryRow.key, Prod.mk.injEq] at key
      have spared : row.of record.tenantId record.deviceId = false := by
        rw [Bool.eq_false_iff]
        intro hit
        simp only [RegistryRow.of, Bool.and_eq_true, decide_eq_true_eq] at hit
        exact other ⟨hit.1.symm.trans key.1, hit.2.symm.trans key.2.1⟩
      simp [spared]
  · cases h
    rfl

end Step

/-! ## Runs -/

section Run

variable {τ : Type} {casts : Casts} {others : DeviceTables → τ → IngressRow → Except PgError τ}
  {tenant device : Uuid} {start : Intake τ}

/-- What the accepted records leave in the registry: what the last one in time
says, or what was there before. -/
def Leaves (casts : Casts) (old : Option Decision) (states : List IngressRow) (imei : String)
    (left : Option Decision) : Prop :=
  match lastInTime IngressRow.seq carries [] states with
  | some record => Tells casts record imei left
  | none => left = old

/-- The registry after some records. -/
def Booked (casts : Casts) (old : Table RegistryRow.key) (tenant device : Uuid)
    (states : List IngressRow) (tables : DeviceTables) : Prop :=
  (∀ imei, Leaves casts (book old tenant device imei) states imei
    (book tables.registry tenant device imei)) ∧
  ((∀ record ∈ states, carries record = false) →
    ∀ imei, tables.registry.find (tenant, device, imei) = old.find (tenant, device, imei))

theorem Booked.own {old : Table RegistryRow.key} {states journal : List IngressRow}
    {record : IngressRow} {tables tables' : DeviceTables} (isOwn : isState tenant device record = true)
    (guard_ : newerState journal record = states.any fun newer => record.seq < newer.seq)
    (before : Booked casts old tenant device states tables)
    (h : projectDeviceState casts journal record tables = .ok tables') :
    Booked casts old tenant device (states ++ [record]) tables' := by
  obtain ⟨rfl, rfl, _⟩ := isState_iff.mp isOwn
  obtain ⟨_, _, h⟩ := bind_success h
  obtain ⟨_, _, h⟩ := bind_success h
  obtain ⟨_, _, h⟩ := bind_success h
  obtain ⟨registry, projected, h⟩ := bind_success h
  cases h
  refine ⟨fun imei => ?_, fun bare imei => ?_⟩
  · unfold Leaves
    rw [lastInTime_concat, List.nil_append]
    by_cases timely : inTime IngressRow.seq carries states record = true
    · rw [if_pos timely]
      simp only [inTime, Bool.and_eq_true, Bool.not_eq_true'] at timely
      exact projectAdoptions_tells projected timely.1 (guard_.trans timely.2) imei
    · rw [if_neg timely]
      have skipped : carries record = false ∨ newerState journal record = true := by
        rw [guard_]
        simp only [inTime, Bool.and_eq_true, Bool.not_eq_true', not_and, Bool.not_eq_false] at timely
        cases carrier : carries record with
        | false => exact Or.inl rfl
        | true => exact Or.inr (timely carrier)
      rw [projectAdoptions_late projected skipped]
      exact before.1 imei
  · have skipped := bare record (by simp)
    rw [projectAdoptions_late projected (Or.inl skipped)]
    exact before.2 (fun other member => bare other (List.mem_append_left _ member)) imei

theorem Booked.foreign {old : Table RegistryRow.key} {states journal : List IngressRow}
    {record : IngressRow} {tables tables' : DeviceTables}
    (other : ¬ (record.tenantId = tenant ∧ record.deviceId = device))
    (before : Booked casts old tenant device states tables)
    (h : projectDeviceState casts journal record tables = .ok tables') :
    Booked casts old tenant device states tables' := by
  obtain ⟨_, _, h⟩ := bind_success h
  obtain ⟨_, _, h⟩ := bind_success h
  obtain ⟨_, _, h⟩ := bind_success h
  obtain ⟨registry, projected, h⟩ := bind_success h
  cases h
  have same := projectAdoptions_foreign other projected
  refine ⟨fun imei => ?_, fun bare imei => (same imei).trans (before.2 bare imei)⟩
  have booked : book registry tenant device imei = book tables.registry tenant device imei := by
    unfold book
    rw [same]
  rw [booked]
  exact before.1 imei

theorem run_booked
    (noStates : ∀ row ∈ start.journal.ingress, row.deviceId = device → row.kind ≠ "DeviceState")
    (ops : List AcceptOp) :
    Booked casts start.tables.registry tenant device (acceptedStates casts others start tenant device ops)
      (run (acceptRecord casts others) start ops).tables := by
  have init : Booked casts start.tables.registry tenant device [] start.tables :=
    ⟨fun _ => rfl, fun _ _ => rfl⟩
  exact run_states noStates init
    (fun _ _ _ _ _ isOwn guard_ before projected => before.own isOwn guard_ projected)
    (fun _ _ _ _ _ other before projected => before.foreign other projected)
    (fun _ _ _ before => before) ops

/-- The registry of the device holds exactly what the carrier with the highest
sequence lists, and is untouched if no record carries the key. -/
def Converged (casts : Casts) (old registry : Table RegistryRow.key) (tenant device : Uuid)
    (states : List IngressRow) : Prop :=
  (∀ highest, Highest IngressRow.seq carries states highest →
    ∀ imei, Tells casts highest imei (book registry tenant device imei)) ∧
  ((∀ record ∈ states, carries record = false) →
    ∀ imei, registry.find (tenant, device, imei) = old.find (tenant, device, imei))

/-- After any run the registry has converged exactly when the highest carrier was
accepted before every DeviceState above it, or says what the last carrier in time
said. -/
theorem registry_converges
    (noStates : ∀ row ∈ start.journal.ingress, row.deviceId = device → row.kind ≠ "DeviceState")
    (ops : List AcceptOp) :
    Converged casts start.tables.registry (run (acceptRecord casts others) start ops).tables.registry
        tenant device (acceptedStates casts others start tenant device ops) ↔
      ∀ highest, Highest IngressRow.seq carries (acceptedStates casts others start tenant device ops) highest →
        AcceptedInTime (acceptedStates casts others start tenant device ops) highest ∨
        ∀ imei left, Leaves casts (book start.tables.registry tenant device imei)
          (acceptedStates casts others start tenant device ops) imei left →
            Tells casts highest imei left := by
  have booked : Booked casts start.tables.registry tenant device
      (acceptedStates casts others start tenant device ops)
      (run (acceptRecord casts others) start ops).tables := run_booked noStates ops
  have distinct : ((acceptedStates casts others start tenant device ops).map IngressRow.seq).Nodup :=
    states_seq_nodup _
  generalize acceptedStates casts others start tenant device ops = states at *
  constructor
  · rintro ⟨holds, _⟩ highest isHighest
    refine Or.inr fun imei left leaves => ?_
    have same : left = book (run (acceptRecord casts others) start ops).tables.registry tenant device
        imei := by
      have kept := booked.1 imei
      unfold Leaves at leaves kept
      split at leaves
      · next record timely =>
        rw [timely] at kept
        exact leaves.unique kept
      · next none_ =>
        rw [none_] at kept
        exact leaves.trans kept.symm
    rw [same]
    exact holds highest isHighest imei
  · intro meets
    refine ⟨fun highest isHighest imei => ?_, booked.2⟩
    rcases meets highest isHighest with timely | agrees
    · have kept := booked.1 imei
      unfold Leaves at kept
      obtain ⟨before, after, rfl, above⟩ := timely
      rw [lastInTime_highest distinct isHighest above] at kept
      exact kept
    · exact agrees imei _ (booked.1 imei)

/-- Records accepted in the order of their sequences are all in time. -/
theorem acceptedInTime_of_ordered {states : List IngressRow} {record : IngressRow}
    (ordered : states.Pairwise fun a b => a.seq < b.seq) (member : record ∈ states) :
    AcceptedInTime states record := by
  obtain ⟨before, after, cut⟩ := List.append_of_mem member
  refine ⟨before, after, cut, fun newer inBefore above => ?_⟩
  rw [cut, List.pairwise_append] at ordered
  have below := ordered.2.2 newer inBefore record List.mem_cons_self
  omega

end Run

/-- A record that says IMEI 86 was adopted on the panel. -/
def adoptingState (observed : Nat) : List (String × Jsonb) :=
  [("adoptions", .arr [.obj [("adopted_at", .num 5), ("adopted_by", .str "panel"),
    ("modem_imei", .str "86")]]), ("observed_at", .num observed)]

/-- A record of a pass that could not read the device's registry. -/
def bareState (observed : Nat) : List (String × Jsonb) := [("observed_at", .num observed)]

/-- The adoption arrives in order. -/
def adoptedInOrder : List AcceptOp :=
  [stateOp firstSeq (adoptingState 10), stateOp secondSeq (bareState 20)]

/-- The adoption arrives after the next record. -/
def adoptedLate : List AcceptOp :=
  [stateOp secondSeq (bareState 20), stateOp firstSeq (adoptingState 10)]

theorem ordered_adoption_booked :
    (afterStates adoptedInOrder).tables.registry.rows.map RegistryRow.imei = ["86"] ∧
    Converged plainCasts silentDevice.tables.registry (afterStates adoptedInOrder).tables.registry 1 2
      (acceptedStates plainCasts noOthers silentDevice 1 2 adoptedInOrder) := by
  refine ⟨by decide, ?_⟩
  refine (@registry_converges Unit plainCasts noOthers 1 2 silentDevice (by decide)
    adoptedInOrder).mpr fun highest isHighest => Or.inl ?_
  exact acceptedInTime_of_ordered (by decide) isHighest.1

/-- The newer record says nothing about adoptions, and still keeps the late one
out of the registry. -/
theorem late_adoption_lost :
    (afterStates adoptedLate).tables.registry.rows = [] ∧
    (acceptedStates plainCasts noOthers silentDevice 1 2 adoptedLate).map carries = [false, true] ∧
    ¬ Converged plainCasts silentDevice.tables.registry (afterStates adoptedLate).tables.registry 1 2
      (acceptedStates plainCasts noOthers silentDevice 1 2 adoptedLate) := by
  refine ⟨by decide, by decide, fun converged => ?_⟩
  have found : ∃ record ∈ acceptedStates plainCasts noOthers silentDevice 1 2 adoptedLate,
      carries record = true ∧ record.payload = .obj (adoptingState 10) ∧
      ∀ other ∈ acceptedStates plainCasts noOthers silentDevice 1 2 adoptedLate,
        carries other = true → other.seq ≤ record.seq := by
    decide
  obtain ⟨record, member, carrier, payload, above⟩ := found
  have told := converged.1 record ⟨member, carrier, above⟩ "86"
  have empty : book (afterStates adoptedLate).tables.registry 1 2 "86" = none := by decide
  have listed : lastEntry plainCasts (adoptionsOf record) "86" =
      some (.obj [("adopted_at", .num 5), ("adopted_by", .str "panel"), ("modem_imei", .str "86")]) := by
    unfold adoptionsOf
    rw [payload]
    decide
  rw [empty, Tells, listed] at told
  obtain ⟨_, _, none_⟩ := told
  cases none_

end VodogeCloud.Guarantees.AdoptionRegistry
