import VodogeCloud.Guarantees.ModemObservations

/-!
# Managed flags and candidates follow the record accepted last

The two triggers on `app.ingress` compare no sequence: whatever record is accepted
last has the last word. A flag is also written before the modem rows of the same
record, so the record that brings a module cannot retire it: a new row starts
managed, and only the records accepted after it decide.
-/

set_option autoImplicit false

namespace VodogeCloud.Guarantees.ManagedModems

open VodogeCloud.Lib VodogeCloud.Lib.Transactions VodogeCloud.Lib.LatestWins
open VodogeCloud.Source.Postgres VodogeCloud.Source.IngressWindow VodogeCloud.Source.IngressWrites
open VodogeCloud.Source.DeviceProjection VodogeCloud.Guarantees.AcceptedRecords

/-! ## The flag -/

/-- The managed flag of an IMEI's row. -/
def flag (modems : Table ModemRow.key) (tenant device : Uuid) (imei : String) : Option Bool :=
  (modems.find (tenant, device, imei)).map ModemRow.managed

/-- The IMEIs of the modems the record lists. -/
def imeisOf (casts : Casts) (record : IngressRow) : List String :=
  match elementsAt record.payload "modems" with
  | .ok entries => entries.filterMap fun entry => nullif (casts.field entry "modem_imei")
  | .error _ => []

/-- The record lists the IMEI among its modems. -/
def lists (casts : Casts) (imei : String) (record : IngressRow) : Bool :=
  (imeisOf casts record).contains imei

/-- What the record's `managed_imeis` say of the IMEI, if they can tell. -/
def decides (casts : Casts) (imei : String) (record : IngressRow) : Option Bool :=
  (managedImeis casts record.payload).bind (anyOf imei)

/-- One record: first the flag, then the rows. -/
def flagStep (casts : Casts) (imei : String) (stored : Option Bool) (record : IngressRow) :
    Option Bool :=
  (stored.map fun managed => (decides casts imei record).getD managed).or
    (if lists casts imei record then some true else none)

section Flag

variable {casts : Casts} {record : IngressRow} {observed : Timestamp}
  {modems modems' : Table ModemRow.key} {imei : String} {tenant device : Uuid}

theorem projectManagedModems_flag :
    flag (projectManagedModems casts record modems) record.tenantId record.deviceId imei =
      (flag modems record.tenantId record.deviceId imei).map fun managed =>
        (decides casts imei record).getD managed := by
  unfold projectManagedModems decides
  cases managedImeis casts record.payload with
  | none => exact Option.map_id'.symm
  | some imeis =>
    dsimp only
    unfold flag
    rw [Table.find_update]
    cases found : modems.find (record.tenantId, record.deviceId, imei) with
    | none => rfl
    | some row =>
      have key := (Table.find_eq_some_iff.mp found).2
      simp only [ModemRow.key, Prod.mk.injEq] at key
      have own : row.of record.tenantId record.deviceId = true := by
        simp [ModemRow.of, key.1, key.2.1]
      simp only [Option.map_some, own, Bool.true_and, flagDiffers, setManaged, key.2.2,
        Option.bind_some]
      cases anyOf imei imeis with
      | none => rfl
      | some verdict =>
        by_cases same : verdict = row.managed
        · simp [same]
        · simp [same]

/-- An entry brings a row that is managed, and leaves the flag of one that is
there. -/
theorem projectModem_flag {entry : Jsonb}
    (h : projectModem casts record observed modems entry = .ok modems') :
    flag modems' record.tenantId record.deviceId imei =
      (flag modems record.tenantId record.deviceId imei).or
        (if nullif (casts.field entry "modem_imei") = some imei then some true else none) := by
  unfold projectModem at h
  cases named : nullif (casts.field entry "modem_imei") with
  | none =>
    rw [named] at h
    cases h
    simp
  | some other =>
    rw [named] at h
    obtain ⟨seen, _, h⟩ := bind_success h
    cases h
    unfold flag
    split
    · next same =>
      cases same
      have found := @Table.find_upsert_self _ _ _ _ modems
        ⟨record.tenantId, record.deviceId, imei, seen, true⟩ (observeModem seen) (observeModem_key seen)
      simp only [ModemRow.key] at found
      rw [found]
      cases modems.find (record.tenantId, record.deviceId, imei) with
      | none => rfl
      | some row =>
        simp only [Option.map_some, Option.getD_some, Option.some_or, observeModem]
        split
        · rfl
        · rfl
    · next differs =>
      rw [Table.find_upsert_of_ne, Option.or_none]
      intro same
      simp only [ModemRow.key, Prod.mk.injEq, true_and] at same
      exact differs (by rw [same])

theorem foldlM_flag {entries : List Jsonb}
    (h : entries.foldlM (projectModem casts record observed) modems = .ok modems') :
    flag modems' record.tenantId record.deviceId imei =
      (flag modems record.tenantId record.deviceId imei).or
        (if (entries.filterMap fun entry => nullif (casts.field entry "modem_imei")).contains imei then
          some true else none) := by
  induction entries generalizing modems with
  | nil =>
    cases h
    simp
  | cons entry rest ih =>
    rw [List.foldlM_cons] at h
    obtain ⟨middle, first, h⟩ := bind_success h
    rw [ih h, projectModem_flag first, Option.or_assoc, List.filterMap_cons]
    cases nullif (casts.field entry "modem_imei") with
    | none => simp
    | some named =>
      by_cases same : named = imei
      · simp [same]
      · simp [same, Ne.symm same]

theorem projectManagedModems_foreign
    (other : ¬ (record.tenantId = tenant ∧ record.deviceId = device)) :
    flag (projectManagedModems casts record modems) tenant device imei =
      flag modems tenant device imei := by
  unfold projectManagedModems
  split
  · rfl
  · unfold flag
    rw [Table.find_update]
    cases found : modems.find (tenant, device, imei) with
    | none => rfl
    | some row =>
      have key := (Table.find_eq_some_iff.mp found).2
      simp only [ModemRow.key, Prod.mk.injEq] at key
      have spared : row.of record.tenantId record.deviceId = false := by
        rw [Bool.eq_false_iff]
        intro hit
        simp only [ModemRow.of, Bool.and_eq_true, decide_eq_true_eq] at hit
        exact other ⟨hit.1.symm.trans key.1, hit.2.symm.trans key.2.1⟩
      simp [spared]

end Flag

/-! ## What the flags say after all records -/

/-- The records accepted after the first one that lists the IMEI. -/
def afterListing (casts : Casts) (imei : String) (states : List IngressRow) : List IngressRow :=
  (states.dropWhile fun record => !lists casts imei record).tail

/-- The last of the records that can tell has the last word. -/
def lastWord (casts : Casts) (imei : String) (states : List IngressRow) : Option Bool :=
  (states.filterMap (decides casts imei)).getLast?

theorem flagStep_some (casts : Casts) (imei : String) (managed : Bool) (states : List IngressRow) :
    states.foldl (flagStep casts imei) (some managed) =
      some ((lastWord casts imei states).getD managed) := by
  induction states generalizing managed with
  | nil => rfl
  | cons record rest ih =>
    rw [List.foldl_cons]
    have step : flagStep casts imei (some managed) record =
      some ((decides casts imei record).getD managed) := rfl
    rw [step, ih]
    unfold lastWord
    rw [List.filterMap_cons]
    cases decides casts imei record with
    | none => rfl
    | some verdict =>
      rw [List.getLast?_cons]
      cases (rest.filterMap (decides casts imei)).getLast? with
      | none => rfl
      | some last => rfl

/-- The flag of a row: managed when it appears, then as the last word has it. -/
theorem flagStep_none (casts : Casts) (imei : String) (states : List IngressRow) :
    states.foldl (flagStep casts imei) none =
      if states.any (lists casts imei) then
        some ((lastWord casts imei (afterListing casts imei states)).getD true)
      else none := by
  induction states with
  | nil => rfl
  | cons record rest ih =>
    rw [List.foldl_cons]
    cases listed : lists casts imei record with
    | true =>
      have step : flagStep casts imei none record = some true := by simp [flagStep, listed]
      rw [step, flagStep_some]
      simp [afterListing, listed]
    | false =>
      have step : flagStep casts imei none record = none := by simp [flagStep, listed]
      rw [step, ih]
      simp [afterListing, listed]

/-- The flags after some records. -/
def Flagged (casts : Casts) (tenant device : Uuid) (states : List IngressRow) (tables : DeviceTables) :
    Prop :=
  ∀ imei, flag tables.modems tenant device imei = states.foldl (flagStep casts imei) none

section Step

variable {casts : Casts} {tenant device : Uuid} {states journal : List IngressRow}
  {record : IngressRow} {tables tables' : DeviceTables}

theorem Flagged.own (isOwn : isState tenant device record = true)
    (before : Flagged casts tenant device states tables)
    (h : projectDeviceState casts journal record tables = .ok tables') :
    Flagged casts tenant device (states ++ [record]) tables' := by
  obtain ⟨rfl, rfl, _⟩ := isState_iff.mp isOwn
  obtain ⟨_, _, h⟩ := bind_success h
  obtain ⟨_, _, h⟩ := bind_success h
  obtain ⟨modems, projected, h⟩ := bind_success h
  obtain ⟨_, _, h⟩ := bind_success h
  cases h
  obtain ⟨entries, listed, projected⟩ := bind_success projected
  intro imei
  show flag modems _ _ imei = _
  rw [foldlM_flag projected, projectManagedModems_flag, before imei, List.foldl_append]
  simp only [List.foldl_cons, List.foldl_nil, flagStep, lists, imeisOf, listed]

theorem Flagged.foreign (other : ¬ (record.tenantId = tenant ∧ record.deviceId = device))
    (before : Flagged casts tenant device states tables)
    (h : projectDeviceState casts journal record tables = .ok tables') :
    Flagged casts tenant device states tables' := by
  obtain ⟨_, _, h⟩ := bind_success h
  obtain ⟨_, _, h⟩ := bind_success h
  obtain ⟨modems, projected, h⟩ := bind_success h
  obtain ⟨_, _, h⟩ := bind_success h
  cases h
  obtain ⟨_, _, projected⟩ := bind_success projected
  intro imei
  show flag modems _ _ imei = _
  rw [flag, ModemObservations.foldlM_foreign other projected]
  exact (projectManagedModems_foreign other).trans (before imei)

end Step

/-! ## The candidates -/

/-- The candidates of the record can all be stored. -/
def storable (casts : Casts) (record : IngressRow) : Bool :=
  hasKey record.payload "discoveries" &&
    match elementsAt record.payload "discoveries" with
    | .ok entries => entries.all fun entry =>
        (nullif (casts.field entry "candidate_key")).isNone || (readCandidate casts entry).isOk
    | .error _ => false

/-- The candidate keys of the record. -/
def keysOf (casts : Casts) (record : IngressRow) : List String :=
  match elementsAt record.payload "discoveries" with
  | .ok entries => candidateKeys casts entries
  | .error _ => []

/-- The candidate is in the device's list. -/
def isCandidate (candidates : Table CandidateRow.key) (tenant device : Uuid) (key : String) : Bool :=
  (candidates.find (tenant, device, key)).isSome

section Candidates

variable {casts : Casts} {record : IngressRow} {candidates candidates' : Table CandidateRow.key}
  {tenant device : Uuid}

theorem projectCandidate_keys {entry : Jsonb}
    (h : projectCandidate casts record candidates entry = .ok candidates') (key : String) :
    isCandidate candidates' record.tenantId record.deviceId key =
      (isCandidate candidates record.tenantId record.deviceId key ||
        nullif (casts.field entry "candidate_key") = some key) := by
  unfold projectCandidate at h
  cases named : nullif (casts.field entry "candidate_key") with
  | none =>
    rw [named] at h
    cases h
    simp
  | some other =>
    rw [named] at h
    obtain ⟨candidate, _, h⟩ := bind_success h
    cases h
    unfold isCandidate
    by_cases same : other = key
    · subst same
      have found := @Table.find_upsert_self _ _ _ _ candidates
        ⟨record.tenantId, record.deviceId, other, candidate⟩ (replaceCandidate candidate)
        (replaceCandidate_key candidate)
      simp only [CandidateRow.key] at found
      rw [found]
      simp
    · rw [Table.find_upsert_of_ne]
      · simp [same]
      · intro keys
        simp only [CandidateRow.key, Prod.mk.injEq, true_and] at keys
        exact same keys.symm

theorem foldlM_keys {entries : List Jsonb}
    (h : entries.foldlM (projectCandidate casts record) candidates = .ok candidates') (key : String) :
    isCandidate candidates' record.tenantId record.deviceId key =
      (isCandidate candidates record.tenantId record.deviceId key ||
        (candidateKeys casts entries).contains key) := by
  induction entries generalizing candidates with
  | nil =>
    cases h
    simp [candidateKeys]
  | cons entry rest ih =>
    rw [List.foldlM_cons] at h
    obtain ⟨middle, first, h⟩ := bind_success h
    rw [ih h, projectCandidate_keys first, Bool.or_assoc]
    congr 1
    unfold candidateKeys
    rw [List.filterMap_cons]
    cases nullif (casts.field entry "candidate_key") with
    | none => simp
    | some other =>
      rw [List.contains_cons]
      congr 1
      by_cases same : other = key
      · simp [same]
      · simp [same, Ne.symm same]

/-- The loop goes through exactly when every entry with a key can be stored. -/
theorem foldlM_candidates_ok {entries : List Jsonb} :
    (∃ stored, entries.foldlM (projectCandidate casts record) candidates = .ok stored) ↔
      entries.all (fun entry =>
        (nullif (casts.field entry "candidate_key")).isNone || (readCandidate casts entry).isOk) = true := by
  induction entries generalizing candidates with
  | nil => simp [pure, Except.pure]
  | cons entry rest ih =>
    rw [List.foldlM_cons, List.all_cons, Bool.and_eq_true]
    constructor
    · rintro ⟨stored, h⟩
      obtain ⟨middle, first, h⟩ := bind_success h
      refine ⟨?_, ih.mp ⟨stored, h⟩⟩
      unfold projectCandidate at first
      cases named : nullif (casts.field entry "candidate_key") with
      | none => rfl
      | some key =>
        rw [named] at first
        obtain ⟨candidate, read, _⟩ := bind_success first
        rw [read]
        rfl
    · rintro ⟨storableEntry, storableRest⟩
      have turn : ∃ middle, projectCandidate casts record candidates entry = .ok middle := by
        unfold projectCandidate
        cases named : nullif (casts.field entry "candidate_key") with
        | none => exact ⟨candidates, rfl⟩
        | some key =>
          rw [named] at storableEntry
          cases read : readCandidate casts entry with
          | ok candidate => exact ⟨_, rfl⟩
          | error err =>
            rw [read] at storableEntry
            cases storableEntry
      obtain ⟨middle, first⟩ := turn
      obtain ⟨stored, later⟩ := (@ih middle).mpr storableRest
      exact ⟨stored, by rw [first]; exact later⟩

/-- A storable record replaces the keys, any other leaves them. -/
theorem projectModemCandidates_keys (key : String) :
    isCandidate (projectModemCandidates casts record candidates) record.tenantId record.deviceId key =
      if storable casts record then (keysOf casts record).contains key
      else isCandidate candidates record.tenantId record.deviceId key := by
  unfold projectModemCandidates storable keysOf
  cases carried : hasKey record.payload "discoveries" with
  | false => simp
  | true =>
    simp only [if_true, Bool.true_and]
    unfold replaceCandidates
    cases elements : elementsAt record.payload "discoveries" with
    | error err => rfl
    | ok entries =>
      dsimp only
      rw [ok_bind]
      cases loop : entries.foldlM (projectCandidate casts record) candidates with
      | error err =>
        rw [if_neg]
        · rfl
        · intro all
          obtain ⟨stored, done⟩ := (@foldlM_candidates_ok _ _ candidates _).mpr all
          rw [loop] at done
          cases done
      | ok stored =>
        rw [if_pos (foldlM_candidates_ok.mp ⟨stored, loop⟩)]
        have keys := foldlM_keys loop key
        show isCandidate (stored.delete _) _ _ key = _
        unfold isCandidate at keys ⊢
        rw [Table.find_delete]
        cases found : stored.find (record.tenantId, record.deviceId, key) with
        | none =>
          rw [found] at keys
          simp only [Option.isSome_none, Bool.false_eq, Bool.or_eq_false_iff] at keys
          rw [keys.2]
          rfl
        | some row =>
          have same := (Table.find_eq_some_iff.mp found).2
          simp only [CandidateRow.key, Prod.mk.injEq] at same
          have own : row.of record.tenantId record.deviceId = true := by
            simp [CandidateRow.of, same.1, same.2.1]
          rw [Option.filter_some, own, same.2.2]
          cases (candidateKeys casts entries).contains key with
          | true => rfl
          | false => rfl

theorem projectModemCandidates_foreign
    (other : ¬ (record.tenantId = tenant ∧ record.deviceId = device)) (key : String) :
    isCandidate (projectModemCandidates casts record candidates) tenant device key =
      isCandidate candidates tenant device key := by
  unfold projectModemCandidates
  split
  · split
    · next replaced done =>
      obtain ⟨entries, _, done⟩ := bind_success done
      obtain ⟨middle, folded, done⟩ := bind_success done
      cases done
      have same : middle.find (tenant, device, key) = candidates.find (tenant, device, key) := by
        refine foldlM_keeps (fun table => table.find (tenant, device, key))
          (fun before entry after turn => ?_) folded
        unfold projectCandidate at turn
        split at turn
        · cases turn
          rfl
        · obtain ⟨candidate, _, turn⟩ := bind_success turn
          cases turn
          apply Table.find_upsert_of_ne
          intro keys
          simp only [CandidateRow.key, Prod.mk.injEq] at keys
          exact other ⟨keys.1.symm, keys.2.1.symm⟩
      unfold isCandidate
      rw [Table.find_delete, same]
      cases found : candidates.find (tenant, device, key) with
      | none => rfl
      | some row =>
        have keys := (Table.find_eq_some_iff.mp found).2
        simp only [CandidateRow.key, Prod.mk.injEq] at keys
        have spared : row.of record.tenantId record.deviceId = false := by
          rw [Bool.eq_false_iff]
          intro hit
          simp only [CandidateRow.of, Bool.and_eq_true, decide_eq_true_eq] at hit
          exact other ⟨hit.1.symm.trans keys.1, hit.2.symm.trans keys.2.1⟩
        simp [spared]
    · rfl
  · rfl

end Candidates

/-- The keys after some records: those of the last storable one. -/
def Collected (casts : Casts) (old : Table CandidateRow.key) (tenant device : Uuid)
    (states : List IngressRow) (tables : DeviceTables) : Prop :=
  ∀ key, isCandidate tables.candidates tenant device key =
    match (states.filter (storable casts)).getLast? with
    | some last => (keysOf casts last).contains key
    | none => isCandidate old tenant device key

theorem Collected.own {casts : Casts} {old : Table CandidateRow.key} {tenant device : Uuid}
    {states journal : List IngressRow} {record : IngressRow} {tables tables' : DeviceTables}
    (isOwn : isState tenant device record = true) (before : Collected casts old tenant device states tables)
    (h : projectDeviceState casts journal record tables = .ok tables') :
    Collected casts old tenant device (states ++ [record]) tables' := by
  obtain ⟨rfl, rfl, _⟩ := isState_iff.mp isOwn
  obtain ⟨_, _, h⟩ := bind_success h
  obtain ⟨_, _, h⟩ := bind_success h
  obtain ⟨_, _, h⟩ := bind_success h
  obtain ⟨_, _, h⟩ := bind_success h
  cases h
  intro key
  show isCandidate (projectModemCandidates casts record tables.candidates) _ _ key = _
  rw [projectModemCandidates_keys, List.filter_append, List.filter_cons]
  split
  · rw [List.filter_nil, List.getLast?_concat]
  · rw [List.filter_nil, List.append_nil]
    exact before key

theorem Collected.foreign {casts : Casts} {old : Table CandidateRow.key} {tenant device : Uuid}
    {states journal : List IngressRow} {record : IngressRow} {tables tables' : DeviceTables}
    (other : ¬ (record.tenantId = tenant ∧ record.deviceId = device))
    (before : Collected casts old tenant device states tables)
    (h : projectDeviceState casts journal record tables = .ok tables') :
    Collected casts old tenant device states tables' := by
  obtain ⟨_, _, h⟩ := bind_success h
  obtain ⟨_, _, h⟩ := bind_success h
  obtain ⟨_, _, h⟩ := bind_success h
  obtain ⟨_, _, h⟩ := bind_success h
  cases h
  exact fun key => (projectModemCandidates_foreign other key).trans (before key)

/-! ## Runs -/

/-- The record carries a `managed_imeis` array. -/
def carriesManaged (casts : Casts) (record : IngressRow) : Bool :=
  (managedImeis casts record.payload).isSome

/-- The IMEI is listed in the record's `managed_imeis`. -/
def managedIn (casts : Casts) (imei : String) (record : IngressRow) : Bool :=
  (managedImeis casts record.payload).any fun imeis => imeis.contains (some imei)

/-- The flags are those of the highest record that carries the array, and the
candidate keys those of the highest record whose candidates can be stored. -/
def Converged (casts : Casts) (tenant device : Uuid) (states : List IngressRow) (tables : DeviceTables) :
    Prop :=
  (∀ modem ∈ tables.modems, modem.of tenant device = true →
    (∀ highest, Highest IngressRow.seq (carriesManaged casts) states highest →
      modem.managed = managedIn casts modem.imei highest) ∧
    ((∀ record ∈ states, carriesManaged casts record = false) → modem.managed = true)) ∧
  ∀ highest, Highest IngressRow.seq (storable casts) states highest →
    ∀ key, isCandidate tables.candidates tenant device key = (keysOf casts highest).contains key

/-- What was said last is what the highest record says: for every listed IMEI
the last record that decides it after its first listing, and for the candidates the
last storable record. -/
def LastAgrees (casts : Casts) (states : List IngressRow) : Prop :=
  (∀ record ∈ states, ∀ imei ∈ imeisOf casts record, ∀ highest ∈ states,
    Highest IngressRow.seq (carriesManaged casts) states highest →
      (lastWord casts imei (afterListing casts imei states)).getD true = managedIn casts imei highest) ∧
  ∀ last ∈ (states.filter (storable casts)).getLast?, ∀ highest ∈ states,
    Highest IngressRow.seq (storable casts) states highest →
      (∀ key ∈ keysOf casts last, key ∈ keysOf casts highest) ∧
      ∀ key ∈ keysOf casts highest, key ∈ keysOf casts last

instance {casts : Casts} {states : List IngressRow} : Decidable (LastAgrees casts states) :=
  inferInstanceAs (Decidable ((∀ record ∈ states, _) ∧ ∀ last ∈ (states.filter _).getLast?, _))

theorem lastWord_silent {casts : Casts} {imei : String} {states : List IngressRow}
    (none_ : ∀ record ∈ states, carriesManaged casts record = false) :
    lastWord casts imei states = none := by
  have silent : states.filterMap (decides casts imei) = [] := by
    refine List.filterMap_eq_nil_iff.mpr fun record member => ?_
    have bare := none_ record member
    simp only [carriesManaged, Option.isSome_eq_false_iff, Option.isNone_iff_eq_none] at bare
    simp [decides, bare]
  simp [lastWord, silent]

theorem mem_of_afterListing {casts : Casts} {imei : String} {states : List IngressRow}
    {record : IngressRow} (member : record ∈ afterListing casts imei states) : record ∈ states :=
  (List.dropWhile_sublist _).mem (List.mem_of_mem_tail member)

section Run

variable {τ : Type} {casts : Casts} {others : DeviceTables → τ → IngressRow → Except PgError τ}
  {tenant device : Uuid} {start : Intake τ}

/-- After any run flags and candidates have converged exactly when what was said
last agrees with the highest record. -/
theorem flags_and_candidates_converge
    (noStates : ∀ row ∈ start.journal.ingress, row.deviceId = device → row.kind ≠ "DeviceState")
    (noModems : ∀ row ∈ start.tables.modems, row.of tenant device = false) (ops : List AcceptOp) :
    Converged casts tenant device (acceptedStates casts others start tenant device ops)
        (run (acceptRecord casts others) start ops).tables ↔
      LastAgrees casts (acceptedStates casts others start tenant device ops) := by
  have flaggedInit : Flagged casts tenant device [] start.tables := by
    intro imei
    have absent : start.tables.modems.find (tenant, device, imei) = none := by
      refine Table.find_eq_none_iff.mpr fun row member same => ?_
      simp only [ModemRow.key, Prod.mk.injEq] at same
      have foreign := noModems row member
      simp [ModemRow.of, same.1, same.2.1] at foreign
    simp [flag, absent]
  have flagged : Flagged casts tenant device (acceptedStates casts others start tenant device ops)
      (run (acceptRecord casts others) start ops).tables :=
    run_states noStates flaggedInit
      (fun _ _ _ _ _ isOwn _ before projected => before.own isOwn projected)
      (fun _ _ _ _ _ other before projected => before.foreign other projected)
      (fun _ _ _ before => before) ops
  have collected : Collected casts start.tables.candidates tenant device
      (acceptedStates casts others start tenant device ops)
      (run (acceptRecord casts others) start ops).tables :=
    run_states noStates (fun _ => rfl)
      (fun _ _ _ _ _ isOwn _ before projected => before.own isOwn projected)
      (fun _ _ _ _ _ other before projected => before.foreign other projected)
      (fun _ _ _ before => before) ops
  generalize acceptedStates casts others start tenant device ops = states at *
  generalize (run (acceptRecord casts others) start ops).tables = tables at *
  refine and_congr ⟨?_, ?_⟩ ⟨?_, ?_⟩
  · intro holds record inStates imei inRecord highest _ isHighest
    have listed : states.any (lists casts imei) = true :=
      List.any_eq_true.mpr ⟨record, inStates, by simpa [lists] using inRecord⟩
    have stored := flagged imei
    rw [flagStep_none, if_pos listed] at stored
    obtain ⟨modem, found, managed⟩ := Option.map_eq_some_iff.mp stored
    obtain ⟨member, key⟩ := Table.find_eq_some_iff.mp found
    simp only [ModemRow.key, Prod.mk.injEq] at key
    have own : modem.of tenant device = true := by simp [ModemRow.of, key.1, key.2.1]
    rw [← managed, (holds modem member own).1 highest isHighest, key.2.2]
  · intro agrees modem member own
    have stored : flag tables.modems tenant device modem.imei = some modem.managed := by
      simp only [ModemRow.of, Bool.and_eq_true, decide_eq_true_eq] at own
      have key : modem.key = (tenant, device, modem.imei) := by simp [ModemRow.key, own.1, own.2]
      simp [flag, Table.find_eq_some_iff.mpr ⟨member, key⟩]
    rw [flagged modem.imei, flagStep_none] at stored
    split at stored
    · next listed =>
      obtain ⟨record, inStates, inRecord⟩ := List.any_eq_true.mp listed
      rw [← Option.some.inj stored]
      refine ⟨fun highest isHighest => ?_, fun bare => ?_⟩
      · exact agrees record inStates modem.imei (by simpa [lists] using inRecord) highest isHighest.1
          isHighest
      · rw [lastWord_silent fun record inAfter => bare record (mem_of_afterListing inAfter)]
        rfl
    · cases stored
  · intro holds last isLast highest _ isHighest
    have same : ∀ key, (keysOf casts last).contains key = (keysOf casts highest).contains key := by
      intro key
      rw [← holds highest isHighest key, collected key, isLast]
    refine ⟨fun key member => ?_, fun key member => ?_⟩
    · simpa [member] using same key
    · simpa [member] using same key
  · intro agrees highest isHighest key
    have inFilter : highest ∈ states.filter (storable casts) :=
      List.mem_filter.mpr ⟨isHighest.1, isHighest.2.1⟩
    obtain ⟨last, isLast⟩ := Option.isSome_iff_exists.mp
      (List.getLast?_isSome.mpr (List.ne_nil_of_mem inFilter))
    obtain ⟨within, without⟩ := agrees last isLast highest isHighest.1 isHighest
    rw [collected key, isLast, Bool.eq_iff_iff]
    simp only [List.contains_iff_mem]
    exact ⟨within key, without key⟩

end Run

/-- Module 86 is listed by the first record and retired by the second. -/
def retiring : List AcceptOp :=
  [stateOp firstSeq [("modems", .arr [.obj [("modem_imei", .str "86")]]), ("observed_at", .num 10),
      ("managed_imeis", .arr [.str "86"])],
    stateOp secondSeq [("observed_at", .num 20), ("managed_imeis", .arr [])]]

/-- The record that retires the module is accepted first. -/
def retiringLate : List AcceptOp := retiring.reverse

theorem retired_in_order :
    (afterStates retiring).tables.modems.rows.map ModemRow.managed = [false] ∧
    Converged plainCasts 1 2 (acceptedStates plainCasts noOthers silentDevice 1 2 retiring)
      (afterStates retiring).tables := by
  refine ⟨by decide, ?_⟩
  refine (@flags_and_candidates_converge Unit plainCasts noOthers 1 2 silentDevice (by decide)
    (by decide) retiring).mpr (by decide)

/-- The older record brings the retired module back. -/
theorem retired_module_returns :
    (afterStates retiringLate).tables.modems.rows.map ModemRow.managed = [true] ∧
    ¬ Converged plainCasts 1 2 (acceptedStates plainCasts noOthers silentDevice 1 2 retiringLate)
      (afterStates retiringLate).tables := by
  refine ⟨by decide, fun converged => ?_⟩
  have found : ∃ modem ∈ (afterStates retiringLate).tables.modems, modem.of 1 2 = true ∧
      modem.managed = true ∧ modem.imei = "86" := by
    decide
  obtain ⟨modem, member, own, managed, imei⟩ := found
  have top : ∃ record ∈ acceptedStates plainCasts noOthers silentDevice 1 2 retiringLate,
      carriesManaged plainCasts record = true ∧ managedIn plainCasts "86" record = false ∧
      ∀ other ∈ acceptedStates plainCasts noOthers silentDevice 1 2 retiringLate,
        carriesManaged plainCasts other = true → other.seq ≤ record.seq := by
    decide
  obtain ⟨record, inStates, carrier, unlisted, above⟩ := top
  have says_ := (converged.1 modem member own).1 record ⟨inStates, carrier, above⟩
  rw [managed, imei, unlisted] at says_
  cases says_

end VodogeCloud.Guarantees.ManagedModems
