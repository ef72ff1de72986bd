import Mathlib.Data.Finset.Max
import VodogeCloud.Guarantees.AcceptedRecords

/-!
# A device row shows the record accepted last

`last_seen_at` is raised, but `state` and the host columns are overwritten by every
accepted DeviceState, whatever its time. So the row shows the newest observation
exactly when the newest record was also accepted last, and the same for the
records that carry a host block.
-/

set_option autoImplicit false

namespace VodogeCloud.Guarantees.DeviceVitals

open VodogeCloud.Lib VodogeCloud.Lib.Transactions
open VodogeCloud.Source.Postgres VodogeCloud.Source.IngressWindow VodogeCloud.Source.IngressWrites
open VodogeCloud.Source.DeviceProjection VodogeCloud.Guarantees.AcceptedRecords

/-- The records that carry a host block. -/
def hostStates (states : List IngressRow) : List IngressRow :=
  states.filter fun record => hasKey record.payload "host"

/-- The first record was not observed after the second. -/
def notAfter (casts : Casts) (a b : IngressRow) : Bool :=
  match casts.instant a.payload "observed_at", casts.instant b.payload "observed_at" with
  | .ok atA, .ok atB => atA ≤ atB
  | _, _ => true

/-- No record of the list was observed later. -/
def Newest (casts : Casts) (states : List IngressRow) (record : IngressRow) : Prop :=
  record ∈ states ∧ ∀ other ∈ states, notAfter casts other record = true

instance {casts : Casts} {states : List IngressRow} : DecidablePred (Newest casts states) :=
  fun record => inferInstanceAs (Decidable (record ∈ states ∧ _))

/-- The record says these host columns. -/
def SaysHost (casts : Casts) (record : IngressRow) (host : Host) : Prop :=
  ∃ observed, casts.instant record.payload "observed_at" = .ok observed ∧
    readHost casts record.payload observed = .ok host

/-- The row shows what the newest record and the newest host block say. -/
def ShowsNewest (casts : Casts) (states : List IngressRow) (row : DeviceStateRow) : Prop :=
  (∀ record, Newest casts states record → row.state = record.payload) ∧
  ∀ record, Newest casts (hostStates states) record → SaysHost casts record row.host

/-- What the row does show. -/
def ShowsLast (casts : Casts) (states : List IngressRow) (row : DeviceStateRow) : Prop :=
  (∀ last, states.getLast? = some last → row.state = last.payload) ∧
  ∀ last, (hostStates states).getLast? = some last → SaysHost casts last row.host

/-- The record accepted last is the newest one. -/
def LastIsNewest (casts : Casts) (states : List IngressRow) : Prop :=
  ∀ last ∈ states.getLast?, Newest casts states last

instance {casts : Casts} {states : List IngressRow} : Decidable (LastIsNewest casts states) :=
  inferInstanceAs (Decidable (∀ last ∈ states.getLast?, Newest casts states last))

section Step

variable {casts : Casts} {tenant device : Uuid} {states journal : List IngressRow}
  {record : IngressRow} {tables tables' : DeviceTables}

/-- Every row of the device shows the last record, and every record has a time. -/
def Shown (casts : Casts) (tenant device : Uuid) (states : List IngressRow) (tables : DeviceTables) :
    Prop :=
  (∀ row ∈ tables.devices, row.of tenant device = true → ShowsLast casts states row) ∧
  ∀ record ∈ states, ∃ observed, casts.instant record.payload "observed_at" = .ok observed

/-- What the record's UPDATE writes into the row of its device. -/
theorem projectDevice_rows {observed : Timestamp} {devices devices' : Table DeviceStateRow.id}
    (h : projectDevice casts record observed devices = .ok devices') :
    ∃ host, (if hasKey record.payload "host" then
        ∃ read, readHost casts record.payload observed = .ok read ∧ host = some read
      else host = none) ∧
      ∀ row ∈ devices', ∃ old ∈ devices,
        row = if old.of record.tenantId record.deviceId then
          observeDevice observed record.payload host old else old := by
  obtain ⟨host, read, h⟩ := bind_success h
  cases h
  refine ⟨host, ?_, fun row member => Table.mem_update.mp member⟩
  unfold hostBlock at read
  split at read
  · next carries =>
    rw [if_pos carries]
    obtain ⟨value, done, rfl⟩ := map_success read
    exact ⟨value, done, rfl⟩
  · next bare =>
    cases read
    rw [if_neg bare]

theorem Shown.own (isOwn : isState tenant device record = true)
    (before : Shown casts tenant device states tables)
    (h : projectDeviceState casts journal record tables = .ok tables') :
    Shown casts tenant device (states ++ [record]) tables' := by
  obtain ⟨rfl, rfl, _⟩ := isState_iff.mp isOwn
  obtain ⟨observed, timed, h⟩ := bind_success h
  obtain ⟨devices, projected, h⟩ := bind_success h
  obtain ⟨_, _, h⟩ := bind_success h
  obtain ⟨_, _, h⟩ := bind_success h
  cases h
  obtain ⟨host, read, rows⟩ := projectDevice_rows projected
  refine ⟨fun row member ownRow => ?_, fun other member => ?_⟩
  · obtain ⟨old, inOld, rfl⟩ := rows row member
    have ownOld : old.of record.tenantId record.deviceId = true := by
      by_contra no
      rw [if_neg no] at ownRow
      exact no ownRow
    rw [if_pos ownOld]
    refine ⟨fun last isLast => ?_, fun last isLast => ?_⟩
    · rw [List.getLast?_concat] at isLast
      cases isLast
      rfl
    · rw [hostStates, List.filter_append] at isLast
      by_cases carries : hasKey record.payload "host" = true
      · rw [if_pos carries] at read
        obtain ⟨value, done, rfl⟩ := read
        simp only [List.filter_cons, carries, if_true, List.filter_nil, List.getLast?_concat] at isLast
        cases isLast
        exact ⟨observed, timed, done⟩
      · rw [if_neg carries] at read
        subst read
        simp only [List.filter_cons, carries, Bool.false_eq_true, if_false, List.filter_nil,
          List.append_nil] at isLast
        exact (before.1 old inOld ownOld).2 last isLast
  · rcases List.mem_append.mp member with old | new
    · exact before.2 other old
    · rw [List.mem_singleton.mp new]
      exact ⟨observed, timed⟩

theorem Shown.foreign (other : ¬ (record.tenantId = tenant ∧ record.deviceId = device))
    (before : Shown casts tenant device states tables)
    (h : projectDeviceState casts journal record tables = .ok tables') :
    Shown casts tenant device states tables' := by
  obtain ⟨_, _, h⟩ := bind_success h
  obtain ⟨_, projected, h⟩ := bind_success h
  obtain ⟨_, _, h⟩ := bind_success h
  obtain ⟨_, _, h⟩ := bind_success h
  cases h
  obtain ⟨host, _, rows⟩ := projectDevice_rows projected
  refine ⟨fun row member ownRow => ?_, before.2⟩
  obtain ⟨old, inOld, rfl⟩ := rows row member
  by_cases hit : old.of record.tenantId record.deviceId = true
  · rw [if_pos hit] at ownRow
    have same : old.of tenant device = true := ownRow
    simp only [DeviceStateRow.of, Bool.and_eq_true, decide_eq_true_eq] at hit same
    exact absurd ⟨hit.1.symm.trans same.1, hit.2.symm.trans same.2⟩ other
  · rw [if_neg hit] at ownRow ⊢
    exact before.1 old inOld ownRow

theorem Shown.touch (before : Shown casts tenant device states tables) :
    Shown casts tenant device states (projectIngressRow record tables) := by
  refine ⟨fun row member ownRow => ?_, before.2⟩
  have inTable : row ∈ tables.devices.update (DeviceStateRow.of record.tenantId record.deviceId)
    (touchDevice record) (touchDevice_id record) := member
  obtain ⟨old, inOld, rfl⟩ := Table.mem_update.mp inTable
  split at ownRow
  · next hit =>
    rw [if_pos hit]
    exact before.1 old inOld ownRow
  · next miss =>
    rw [if_neg miss]
    exact before.1 old inOld ownRow

end Step

/-! ## Last and newest -/

section Newest

variable {casts : Casts} {states : List IngressRow}

theorem exists_newest (casts : Casts) (some_ : states ≠ []) :
    ∃ record, Newest casts states record := by
  obtain ⟨record, member, largest⟩ := states.toFinset.exists_max_image
    (fun record => match casts.instant record.payload "observed_at" with
      | .ok observed => observed
      | .error _ => 0)
    (by simpa [Finset.nonempty_iff_ne_empty] using some_)
  refine ⟨record, List.mem_toFinset.mp member, fun other inStates => ?_⟩
  have bound := largest other (List.mem_toFinset.mpr inStates)
  unfold notAfter
  split
  · next timed' timed =>
    rw [timed', timed] at bound
    exact decide_eq_true bound
  · rfl

theorem Newest.unique {a b : IngressRow}
    (timed : ∀ record ∈ states, ∃ observed, casts.instant record.payload "observed_at" = .ok observed)
    (distinct : ∀ a ∈ states, ∀ b ∈ states,
      casts.instant a.payload "observed_at" = casts.instant b.payload "observed_at" → a = b)
    (newestA : Newest casts states a) (newestB : Newest casts states b) : a = b := by
  obtain ⟨atA, timedA⟩ := timed a newestA.1
  obtain ⟨atB, timedB⟩ := timed b newestB.1
  have low := newestB.2 a newestA.1
  have high := newestA.2 b newestB.1
  simp only [notAfter, timedA, timedB, decide_eq_true_eq] at low high
  have same : atA = atB := le_antisymm low high
  exact distinct a newestA.1 b newestB.1 (by rw [timedA, timedB, same])

theorem readHost_reportedAt {payload : Jsonb} {observed : Timestamp} {host : Host}
    (h : readHost casts payload observed = .ok host) : host.hostReportedAt = some observed := by
  obtain ⟨_, _, h⟩ := bind_success h
  obtain ⟨_, _, h⟩ := bind_success h
  obtain ⟨_, _, h⟩ := bind_success h
  obtain ⟨_, _, h⟩ := bind_success h
  obtain ⟨_, _, h⟩ := bind_success h
  obtain ⟨_, _, h⟩ := bind_success h
  obtain ⟨_, _, h⟩ := bind_success h
  cases h
  rfl

/-- Two records that say the same host columns were observed at the same time. -/
theorem SaysHost.sameTime {a b : IngressRow} {host : Host} (saysA : SaysHost casts a host)
    (saysB : SaysHost casts b host) :
    casts.instant a.payload "observed_at" = casts.instant b.payload "observed_at" := by
  obtain ⟨atA, timedA, readA⟩ := saysA
  obtain ⟨atB, timedB, readB⟩ := saysB
  have same := (readHost_reportedAt readA).symm.trans (readHost_reportedAt readB)
  rw [timedA, timedB, Option.some.inj same]

/-- A row that shows the last records shows the newest ones exactly when they are
the same. -/
theorem showsNewest_iff {row : DeviceStateRow}
    (timed : ∀ record ∈ states, ∃ observed, casts.instant record.payload "observed_at" = .ok observed)
    (distinct : ∀ a ∈ states, ∀ b ∈ states,
      casts.instant a.payload "observed_at" = casts.instant b.payload "observed_at" → a = b)
    (last : ShowsLast casts states row) :
    ShowsNewest casts states row ↔
      LastIsNewest casts states ∧ LastIsNewest casts (hostStates states) := by
  have inStates : ∀ record ∈ hostStates states, record ∈ states :=
    fun record member => (List.mem_filter.mp member).1
  have timedHost : ∀ record ∈ hostStates states, ∃ observed,
      casts.instant record.payload "observed_at" = .ok observed :=
    fun record member => timed record (inStates record member)
  have distinctHost : ∀ a ∈ hostStates states, ∀ b ∈ hostStates states,
      casts.instant a.payload "observed_at" = casts.instant b.payload "observed_at" → a = b :=
    fun a inA b inB => distinct a (inStates a inA) b (inStates b inB)
  constructor
  · rintro ⟨state, host⟩
    refine ⟨fun record isLast => ?_, fun record isLast => ?_⟩
    · have member := List.mem_of_getLast? isLast
      obtain ⟨newest, isNewest⟩ := exists_newest casts (List.ne_nil_of_mem member)
      have same : record.payload = newest.payload :=
        (last.1 record isLast).symm.trans (state newest isNewest)
      rw [distinct record member newest isNewest.1 (by rw [same])]
      exact isNewest
    · have member := List.mem_of_getLast? isLast
      obtain ⟨newest, isNewest⟩ := exists_newest casts (List.ne_nil_of_mem member)
      rw [distinctHost record member newest isNewest.1
        ((last.2 record isLast).sameTime (host newest isNewest))]
      exact isNewest
  · rintro ⟨lastState, lastHost⟩
    refine ⟨fun newest isNewest => ?_, fun newest isNewest => ?_⟩
    · obtain ⟨record, isLast⟩ := List.getLast?_isSome.mpr (List.ne_nil_of_mem isNewest.1)
        |> Option.isSome_iff_exists.mp
      rw [isNewest.unique timed distinct (lastState record isLast)]
      exact last.1 record isLast
    · obtain ⟨record, isLast⟩ := List.getLast?_isSome.mpr (List.ne_nil_of_mem isNewest.1)
        |> Option.isSome_iff_exists.mp
      rw [isNewest.unique timedHost distinctHost (lastHost record isLast)]
      exact last.2 record isLast

end Newest

/-! ## Runs -/

section Run

variable {τ : Type} {casts : Casts} {others : DeviceTables → τ → IngressRow → Except PgError τ}
  {tenant device : Uuid}

/-- After any run the row of the device shows the newest observation exactly when
the record accepted last is the newest, and the host block accepted last is the
newest host block. -/
theorem device_shows_newest {start : Intake τ}
    (noStates : ∀ row ∈ start.journal.ingress, row.deviceId = device → row.kind ≠ "DeviceState")
    (ops : List AcceptOp)
    (distinct : ∀ a ∈ acceptedStates casts others start tenant device ops,
      ∀ b ∈ acceptedStates casts others start tenant device ops,
        casts.instant a.payload "observed_at" = casts.instant b.payload "observed_at" → a = b)
    {row : DeviceStateRow} (member : row ∈ (run (acceptRecord casts others) start ops).tables.devices)
    (own : row.of tenant device = true) :
    ShowsNewest casts (acceptedStates casts others start tenant device ops) row ↔
      LastIsNewest casts (acceptedStates casts others start tenant device ops) ∧
      LastIsNewest casts (hostStates (acceptedStates casts others start tenant device ops)) := by
  have init : Shown casts tenant device [] start.tables := by
    refine ⟨fun row _ _ => ⟨nofun, ?_⟩, nofun⟩
    intro last isLast
    cases isLast
  have shown : Shown casts tenant device (acceptedStates casts others start tenant device ops)
      (run (acceptRecord casts others) start ops).tables :=
    run_states noStates init
      (fun _ _ _ _ _ isOwn _ before projected => before.own isOwn projected)
      (fun _ _ _ _ _ other before projected => before.foreign other projected)
      (fun _ _ _ before => before.touch) ops
  exact showsNewest_iff shown.2 distinct (shown.1 row member own)

end Run

/-- A record with a public address. -/
def hostState (observed : Nat) (address : String) : List (String × Jsonb) :=
  [("host", .obj [("public_ip", .str address)]), ("observed_at", .num observed)]

/-- The older record first. -/
def inOrder : List AcceptOp :=
  [stateOp firstSeq (hostState 10 "192.0.2.1"), stateOp secondSeq (hostState 20 "192.0.2.2")]

/-- The older record last. -/
def outOfOrder : List AcceptOp :=
  [stateOp secondSeq (hostState 20 "192.0.2.2"), stateOp firstSeq (hostState 10 "192.0.2.1")]

theorem ordered_records_shown :
    (afterStates inOrder).tables.devices.rows.map (fun row => row.host.publicIp) = [some "192.0.2.2"] ∧
    ∀ row ∈ (afterStates inOrder).tables.devices, row.of 1 2 = true →
      ShowsNewest plainCasts (acceptedStates plainCasts noOthers silentDevice 1 2 inOrder) row := by
  refine ⟨by decide, fun row member own => ?_⟩
  exact (device_shows_newest (by decide) inOrder (by decide) member own).mpr
    (by decide)

/-- A late record takes the row back. -/
theorem late_record_shown :
    (afterStates outOfOrder).tables.devices.rows.map (fun row => row.host.publicIp) =
      [some "192.0.2.1"] ∧
    (acceptedStates plainCasts noOthers silentDevice 1 2 outOfOrder).map
      (fun record => plainCasts.instant record.payload "observed_at") = [.ok 20000, .ok 10000] ∧
    ∃ row ∈ (afterStates outOfOrder).tables.devices, row.of 1 2 = true ∧
      ¬ ShowsNewest plainCasts (acceptedStates plainCasts noOthers silentDevice 1 2 outOfOrder) row := by
  refine ⟨by decide, by decide, ?_⟩
  have found : ∃ row ∈ (afterStates outOfOrder).tables.devices, row.of 1 2 = true ∧
      row.state = .obj (hostState 10 "192.0.2.1") := by
    decide
  obtain ⟨row, member, own, state⟩ := found
  refine ⟨row, member, own, fun shows_ => ?_⟩
  have newest : ∃ record ∈ acceptedStates plainCasts noOthers silentDevice 1 2 outOfOrder,
      Newest plainCasts (acceptedStates plainCasts noOthers silentDevice 1 2 outOfOrder) record ∧
      record.payload ≠ .obj (hostState 10 "192.0.2.1") := by
    decide
  obtain ⟨record, _, isNewest, differs⟩ := newest
  exact differs ((shows_.1 record isNewest).symm.trans state)

end VodogeCloud.Guarantees.DeviceVitals
