import VodogeCloud.Guarantees.AcceptedRecords
import VodogeCloud.Guarantees.IngressRetention
import VodogeCloud.Source.ProxyTraffic

/-!
# Proxy traffic is counted once

A row of `app.proxy_traffic` is a running sum, so the projection may see a report
only once. It is run for a newly inserted journal row and in the same transaction,
and no ProxyTraffic row ever leaves the journal: retention deletes DeviceState rows
only. The invariant is therefore that the table shows what the ProxyTraffic rows of
the journal add up to, and these rows are the accepted reports in the order of
acceptance.
-/

set_option autoImplicit false

namespace VodogeCloud.Guarantees.TrafficTotals

open VodogeCloud.Lib VodogeCloud.Lib.Transactions
open VodogeCloud.Source.Postgres VodogeCloud.Source.IngressWindow VodogeCloud.Source.IngressWrites
open VodogeCloud.Source.DeviceProjection VodogeCloud.Source.ProxyTraffic
open VodogeCloud.Guarantees.AcceptedRecords VodogeCloud.Guarantees.IngressRetention

/-! ## What the reports add up to -/

/-- The sum of some counters. -/
def total : List Figures → Figures
  | [] => ⟨0, 0, 0⟩
  | figures :: rest => figures.add (total rest)

theorem total_concat (many : List Figures) (last : Figures) :
    total (many ++ [last]) = (total many).add last := by
  induction many with
  | nil => simp [total, Figures.add]
  | cons first rest ih =>
    rw [List.cons_append, total, ih, total]
    ext <;> simp only [Figures.add] <;> omega

/-- The entries for one row, summed; absent when there is none. -/
def counted (entries : List TrafficRow) (key : Uuid × Uuid × Timestamp) : Option Figures :=
  let own := (entries.filter (fun entry => entry.key = key)).map TrafficRow.figures
  if own = [] then none else some (total own)

theorem counted_concat_self (entries : List TrafficRow) (entry : TrafficRow) :
    counted (entries ++ [entry]) entry.key =
      some (((counted entries entry.key).map fun figures => figures.add entry.figures).getD
        entry.figures) := by
  unfold counted
  simp only [List.filter_append, List.filter_cons, decide_true, if_true, List.filter_nil,
    List.map_append, List.map_cons, List.map_nil, List.append_eq_nil_iff, List.cons_ne_nil,
    and_false, if_false, Option.some.injEq, total_concat]
  split
  · next none_ =>
    rw [none_]
    ext <;> simp [total, Figures.add]
  · rfl

theorem counted_concat_other {entries : List TrafficRow} {entry : TrafficRow}
    {key : Uuid × Uuid × Timestamp} (differs : entry.key ≠ key) :
    counted (entries ++ [entry]) key = counted entries key := by
  unfold counted
  simp [List.filter_append, differs]

/-- The entries of one report, as the loop reads them: one for each entry whose instance
is known, all in the hour of the report. -/
def entriesOf (casts : TrafficCasts) (record : IngressRow) : List TrafficRow :=
  match casts.hour record.payload, elementsAt record.payload "instances" with
  | .ok hour, .ok entries => entries.filterMap fun entry =>
      match readTraffic casts record.tenantId entry with
      | .ok (some (id, figures)) => some ⟨record.tenantId, id, hour, figures⟩
      | _ => none
  | _, _ => []

/-- The table is what the entries add up to. -/
def Shows (traffic : Table TrafficRow.key) (entries : List TrafficRow) : Prop :=
  ∀ key, (traffic.find key).map TrafficRow.figures = counted entries key

variable {casts : TrafficCasts} {traffic traffic' : Table TrafficRow.key} {entries : List TrafficRow}

theorem recordTraffic_shows {row : TrafficRow} (shows_ : Shows traffic entries)
    (h : recordTraffic casts traffic row = .ok traffic') : Shows traffic' (entries ++ [row]) := by
  unfold recordTraffic at h
  split at h
  · cases h
  · obtain ⟨figures, sum, h⟩ := bind_success h
    cases h
    intro key
    by_cases same : row.key = key
    · subst same
      rw [Table.find_upsert_self, counted_concat_self, ← shows_ row.key]
      unfold merged at sum
      cases stored : traffic.find row.key with
      | none =>
        rw [stored] at sum
        cases sum
        rfl
      | some old =>
        rw [stored] at sum
        have exact_ : figures = old.figures.add row.figures := by
          unfold sumInRange at sum
          dsimp only at sum
          split at sum
          · cases sum
            rfl
          · cases sum
        rw [exact_]
        rfl
    · rw [Table.find_upsert_of_ne (Ne.symm same), counted_concat_other same]
      exact shows_ key

theorem foldlM_shows {tenant : Uuid} {hour : Timestamp} {items : List Jsonb}
    (shows_ : Shows traffic entries)
    (h : items.foldlM (projectEntry casts tenant hour) traffic = .ok traffic') :
    Shows traffic' (entries ++ items.filterMap fun item =>
      match readTraffic casts tenant item with
      | .ok (some (id, figures)) => some ⟨tenant, id, hour, figures⟩
      | _ => none) := by
  induction items generalizing traffic entries with
  | nil =>
    cases h
    rwa [List.filterMap_nil, List.append_nil]
  | cons item rest ih =>
    rw [List.foldlM_cons] at h
    obtain ⟨middle, first, h⟩ := bind_success h
    obtain ⟨read, readTo, first⟩ := bind_success first
    cases read with
    | none =>
      cases first
      have later := ih shows_ h
      rwa [List.filterMap_cons_none (by rw [readTo])]
    | some entry =>
      obtain ⟨id, figures⟩ := entry
      have later := ih (recordTraffic_shows shows_ first) h
      rw [List.filterMap_cons_some (by rw [readTo])]
      rwa [List.append_assoc] at later

/-- A report adds its entries. -/
theorem projectProxyTraffic_shows {record : IngressRow} (shows_ : Shows traffic entries)
    (h : projectProxyTraffic casts record traffic = .ok traffic') :
    Shows traffic' (entries ++ entriesOf casts record) := by
  obtain ⟨hour, hourOk, h⟩ := bind_success h
  obtain ⟨items, itemsOk, h⟩ := bind_success h
  unfold entriesOf
  rw [hourOk, itemsOk]
  exact foldlM_shows shows_ h

/-! ## The reports in the journal -/

/-- The ProxyTraffic rows, in the order of acceptance. -/
def reports (db : IngressDb) : List IngressRow :=
  db.ingress.rows.filter fun row => row.kind = "ProxyTraffic"

/-- Retention deletes no report. -/
theorem pruneDevice_reports {tenant device : Uuid} {cutoff : Option Timestamp} {limit deleted : Nat}
    {db db' : IngressDb} (h : pruneDevice tenant cutoff limit db device = .ok (db', deleted)) :
    reports db' = reports db := by
  obtain ⟨bound, _, h⟩ := bind_success h
  dsimp only at h
  split at h
  · cases h
    rfl
  · split at h
    · cases h
      rfl
    · obtain ⟨count, _, h⟩ := bind_success h
      obtain ⟨_, _, h⟩ := bind_success h
      cases h
      show ((db.ingress.rows.filter _).filter _) = _
      rw [List.filter_filter, reports]
      apply List.filter_congr
      intro row _
      by_cases report : row.kind = "ProxyTraffic"
      · simp [report, pruneHit]
      · simp [report]

theorem pruneIngress_reports {minus : Timestamp → Interval → Except PgError Timestamp}
    {context : Option Uuid} {args : PruneArgs} {db db' : IngressDb} {deleted : Nat}
    (h : pruneIngress minus context args db = .ok (db', deleted)) : reports db' = reports db := by
  obtain ⟨cutoff, limit, devices, loop⟩ := pruneIngress_loop h
  refine foldlM_keeps (fun acc : IngressDb × Nat => reports acc.1) ?_ loop
  rintro acc device next turn
  obtain ⟨⟨pruned, count⟩, done, turn⟩ := bind_success turn
  obtain ⟨sum, _, turn⟩ := bind_success turn
  cases turn
  exact pruneDevice_reports done

/-- An INSERT adds its row at the end, or nothing. -/
theorem insertIngress_rows {db db' : IngressDb} {row : IngressRow} {inserted : Bool}
    (h : insertIngress db row = .ok (db', inserted)) :
    db'.ingress.rows = db.ingress.rows ++ if inserted then [row] else [] := by
  cases inserted with
  | true => simpa using (insertIngress_appends h).1
  | false =>
    rcases insertIngress_cases h with ⟨_, rfl, _⟩ | ⟨no, _⟩
    · simp
    · cases no

/-! ## Runs -/

section Run

variable {τ : Type} {others : Table TrafficRow.key → τ → IngressRow → Except PgError τ}
  {minus : Timestamp → Interval → Except PgError Timestamp}

/-- A call of one of the functions that write the journal. -/
def apply (casts : TrafficCasts) (others : Table TrafficRow.key → τ → IngressRow → Except PgError τ)
    (minus : Timestamp → Interval → Except PgError Timestamp) :
    JournalOp → IngressDb × Table TrafficRow.key × τ →
      Except PgError (IngressDb × Table TrafficRow.key × τ) :=
  JournalOp.apply (projectTraffic casts others) minus

/-- The report a call accepts: it answered `inserted`. -/
def acceptedNow (casts : TrafficCasts)
    (others : Table TrafficRow.key → τ → IngressRow → Except PgError τ)
    (state : IngressDb × Table TrafficRow.key × τ) : JournalOp → List IngressRow
  | .acceptIngress context args now =>
    match acceptIngress (projectTraffic casts others) context args now state.1 state.2 with
    | .ok (_, _, .inserted, _) => if args.kind = "ProxyTraffic" then [args.row now] else []
    | _ => []
  | _ => []

/-- The reports a run accepts, in order. -/
def accepted (casts : TrafficCasts)
    (others : Table TrafficRow.key → τ → IngressRow → Except PgError τ)
    (minus : Timestamp → Interval → Except PgError Timestamp) :
    IngressDb × Table TrafficRow.key × τ → List JournalOp → List IngressRow
  | _, [] => []
  | state, op :: rest => acceptedNow casts others state op ++
      accepted casts others minus (settle (apply casts others minus) state op) rest

/-- The table shows what the journal's reports add up to. -/
def Balanced (casts : TrafficCasts) (state : IngressDb × Table TrafficRow.key × τ) : Prop :=
  Shows state.2.1 ((reports state.1).flatMap (entriesOf casts))

/-- A newly inserted row is projected once; any other answer projects nothing. -/
theorem acceptIngress_balanced {context : Option Uuid} {args : AcceptArgs} {now : Timestamp}
    {db db' : IngressDb} {tables tables' : Table TrafficRow.key × τ} {status : AcceptStatus}
    {window : WindowRow}
    (h : acceptIngress (projectTraffic casts others) context args now db tables =
      .ok (db', tables', status, window))
    (balanced : Balanced casts (db, tables)) :
    reports db' = reports db ++
      (if status = .inserted ∧ args.kind = "ProxyTraffic" then [args.row now] else []) ∧
    Balanced casts (db', tables') := by
  rcases (acceptIngress_cases h).2.2 with ⟨rfl, rfl, rfl, _⟩ | ⟨rfl, _, attempt, project⟩
  · exact ⟨by simp, balanced⟩
  · have rows := insertIngress_rows attempt
    have grown : reports db' = reports db ++
        (if args.kind = "ProxyTraffic" then [args.row now] else []) := by
      rw [reports, rows, if_pos rfl, List.filter_append]
      by_cases report : args.kind = "ProxyTraffic"
      · simp [reports, AcceptArgs.row, report]
      · simp [reports, AcceptArgs.row, report]
    refine ⟨by simpa using grown, ?_⟩
    unfold Balanced
    dsimp only
    rw [grown]
    unfold projectInserted projectTraffic at project
    by_cases report : args.kind = "ProxyTraffic"
    · have kind : (args.row now).kind = "ProxyTraffic" := report
      rw [if_pos (by rw [kind]; decide), if_pos kind] at project
      obtain ⟨traffic, done, rfl⟩ := map_success project
      rw [if_pos report, List.flatMap_append, List.flatMap_singleton]
      exact projectProxyTraffic_shows balanced done
    · have kind : (args.row now).kind ≠ "ProxyTraffic" := report
      rw [if_neg report, List.append_nil]
      by_cases projects : (args.row now).kind ∈ projectedKinds
      · rw [if_pos projects, if_neg kind] at project
        obtain ⟨rest, _, rfl⟩ := map_success project
        exact balanced
      · rw [if_neg projects] at project
        cases project
        exact balanced

/-- One call: the accepted report, if any, joins the journal and the sums. -/
theorem settle_balanced (state : IngressDb × Table TrafficRow.key × τ) (op : JournalOp)
    (balanced : Balanced casts state) :
    reports (settle (apply casts others minus) state op).1 =
      reports state.1 ++ acceptedNow casts others state op ∧
    Balanced casts (settle (apply casts others minus) state op) := by
  obtain ⟨db, tables⟩ := state
  cases op with
  | acceptIngress context args now =>
    cases outcome : acceptIngress (projectTraffic casts others) context args now db tables with
    | error err =>
      have failed : apply casts others minus (.acceptIngress context args now) (db, tables) =
          .error err := by
        simp [apply, JournalOp.apply, outcome, bind, Except.bind]
      rw [settle_of_error failed]
      exact ⟨by simp [acceptedNow, outcome], balanced⟩
    | ok answer =>
      obtain ⟨db', tables', status, window⟩ := answer
      have done : apply casts others minus (.acceptIngress context args now) (db, tables) =
          .ok (db', tables') := by
        simp [apply, JournalOp.apply, outcome, bind, Except.bind, pure, Except.pure]
      rw [settle_of_ok done]
      obtain ⟨grown, shows_⟩ := acceptIngress_balanced outcome balanced
      refine ⟨?_, shows_⟩
      cases status with
      | inserted => simpa [acceptedNow, outcome] using grown
      | duplicate => simpa [acceptedNow, outcome] using grown
  | recordUnstorableIngress context args now recordedAt =>
    cases outcome : recordUnstorableIngress context args now recordedAt db with
    | error err =>
      have failed : apply casts others minus (.recordUnstorableIngress context args now recordedAt)
          (db, tables) = .error err := by
        simp [apply, JournalOp.apply, outcome, bind, Except.bind]
      rw [settle_of_error failed]
      exact ⟨by simp [acceptedNow], balanced⟩
    | ok answer =>
      obtain ⟨db', status⟩ := answer
      have done : apply casts others minus (.recordUnstorableIngress context args now recordedAt)
          (db, tables) = .ok (db', tables) := by
        simp [apply, JournalOp.apply, outcome, bind, Except.bind, pure, Except.pure]
      rw [settle_of_ok done]
      have same : reports db' = reports db := by
        obtain ⟨row, inserted, attempt, _, kind⟩ := recordUnstorableIngress_inserts outcome
        rw [reports, insertIngress_rows attempt, List.filter_append]
        split
        · simp [reports, kind, unstorableKind]
        · simp [reports]
      refine ⟨by simpa [acceptedNow] using same, ?_⟩
      unfold Balanced
      rwa [same]
  | pruneIngress context args =>
    cases outcome : pruneIngress minus context args db with
    | error err =>
      have failed : apply casts others minus (.pruneIngress context args) (db, tables) =
          .error err := by
        simp [apply, JournalOp.apply, outcome, bind, Except.bind]
      rw [settle_of_error failed]
      exact ⟨by simp [acceptedNow], balanced⟩
    | ok answer =>
      obtain ⟨db', deleted⟩ := answer
      have done : apply casts others minus (.pruneIngress context args) (db, tables) =
          .ok (db', tables) := by
        simp [apply, JournalOp.apply, outcome, bind, Except.bind, pure, Except.pure]
      rw [settle_of_ok done]
      have same := pruneIngress_reports outcome
      refine ⟨by simpa [acceptedNow] using same, ?_⟩
      unfold Balanced
      rwa [same]

theorem run_balanced (state : IngressDb × Table TrafficRow.key × τ) (ops : List JournalOp)
    (balanced : Balanced casts state) :
    reports (run (apply casts others minus) state ops).1 =
      reports state.1 ++ accepted casts others minus state ops ∧
    Balanced casts (run (apply casts others minus) state ops) := by
  induction ops generalizing state with
  | nil => exact ⟨by simp [run, accepted], balanced⟩
  | cons op rest ih =>
    obtain ⟨grown, shows_⟩ := @settle_balanced casts τ others minus state op balanced
    obtain ⟨later, final⟩ := ih _ shows_
    refine ⟨?_, final⟩
    rw [run_cons, later, grown, accepted, List.append_assoc]

/-- The call prunes, or offers the sequence of an accepted report again. -/
def Repeats (reports : List IngressRow) : JournalOp → Prop
  | .acceptIngress _ args now => ∃ report ∈ reports, report.key = (args.row now).key
  | .recordUnstorableIngress .. => True
  | .pruneIngress .. => True

theorem settle_repeat (state : IngressDb × Table TrafficRow.key × τ) (op : JournalOp)
    (again : Repeats (reports state.1) op) :
    (settle (apply casts others minus) state op).2.1 = state.2.1 := by
  obtain ⟨db, tables⟩ := state
  cases outcome : apply casts others minus op (db, tables) with
  | error err => rw [settle_of_error outcome]
  | ok next =>
    rw [settle_of_ok outcome]
    cases op with
    | acceptIngress context args now =>
      obtain ⟨report, member, same⟩ := again
      obtain ⟨⟨db', tables', status, window⟩, done, outcome⟩ := bind_success outcome
      cases outcome
      rcases (acceptIngress_cases done).2.2 with ⟨_, _, rfl, _⟩ | ⟨_, absent, _⟩
      · rfl
      · exact absurd same (Table.find_eq_none_iff.mp absent report (List.mem_filter.mp member).1)
    | recordUnstorableIngress context args now recordedAt =>
      obtain ⟨_, _, outcome⟩ := bind_success outcome
      cases outcome
      rfl
    | pruneIngress context args =>
      obtain ⟨_, _, outcome⟩ := bind_success outcome
      cases outcome
      rfl

/-- Over every run, each row of `app.proxy_traffic` is the sum over the entries of the
accepted reports, each (device, sequence) taken once, and neither a prune nor a replay
changes a row. -/
theorem traffic_counted_once (start : IngressDb × Table TrafficRow.key × τ)
    (fresh : ∀ row ∈ start.1.ingress, row.kind ≠ "ProxyTraffic") (unused : start.2.1.rows = [])
    (ops : List JournalOp) :
    let state := run (apply casts others minus) start ops
    let records := accepted casts others minus start ops
    (records.map IngressRow.key).Nodup ∧
    (∀ tenant proxy hour, (state.2.1.find (tenant, proxy, hour)).map TrafficRow.figures =
      counted (records.flatMap (entriesOf casts)) (tenant, proxy, hour)) ∧
    ∀ op, Repeats records op → (settle (apply casts others minus) state op).2.1 = state.2.1 := by
  have none_ : reports start.1 = [] := by
    refine List.filter_eq_nil_iff.mpr fun row member report => ?_
    exact fresh row member (of_decide_eq_true report)
  have balanced : Balanced casts start := by
    intro key
    rw [none_]
    simp [Table.find, unused, counted]
  obtain ⟨rows, shows_⟩ := @run_balanced casts τ others minus start ops balanced
  rw [none_, List.nil_append] at rows
  refine ⟨?_, ?_, fun op again => ?_⟩
  · rw [← rows]
    exact (List.filter_sublist.map _).nodup (run (apply casts others minus) start ops).1.ingress.unique
  · intro tenant proxy hour
    rw [← rows]
    exact shows_ (tenant, proxy, hour)
  · rw [← rows] at again
    exact settle_repeat _ op again

end Run

/-! ## One proxy of one device -/

/-- Instance 9 of tenant 1, and hours counted from the epoch. -/
def plainTraffic : TrafficCasts :=
  { plainCasts with
    truncHour := fun time => time - time % 3600000000
    proxyInstance := fun tenant id => tenant = 1 && id = 9 }

/-- An entry of a report for the instance. -/
def entry (up down : Rat) : Jsonb :=
  .obj [("bytes_up", .num up), ("bytes_down", .num down), ("connections", .num 1),
    ("instance_id", .str "00000000-0000-0000-0000-000000000009")]

/-- A report of the second hour. -/
def report (seq : Bigint) (entries : List Jsonb) : JournalOp :=
  .acceptIngress (some 1) ⟨1, 2, seq, BitVec.ofNat 128 seq.value.toNat, "ProxyTraffic",
    .obj [("instances", .arr entries), ("reported_at", .num 3700000)]⟩ 0

/-- Two reports, the first of them again, and a prune before it comes a third time. -/
def reported : List JournalOp :=
  [report firstSeq [entry 10 1, entry 20 2], report firstSeq [entry 10 1, entry 20 2],
    report secondSeq [entry 5 0], .pruneIngress (some 1) ⟨1, some 0, some Interval.hour, some 10⟩,
    report firstSeq [entry 10 1, entry 20 2]]

def unreported : IngressDb × Table TrafficRow.key × Unit := (silentDevice.journal, Table.empty, ())

def noKinds : Table TrafficRow.key → Unit → IngressRow → Except PgError Unit := fun _ _ _ => .ok ()

def plainMinus (time : Timestamp) (span : Interval) : Except PgError Timestamp := .ok (time - span.span)

theorem replayed_report_counted_once :
    (∀ row ∈ unreported.1.ingress, row.kind ≠ "ProxyTraffic") ∧ unreported.2.1.rows = [] ∧
    (accepted plainTraffic noKinds plainMinus unreported reported).length = 2 ∧
    ((run (apply plainTraffic noKinds plainMinus) unreported reported).2.1.find
      (1, 9, 3600000000)).map TrafficRow.figures = some ⟨35, 3, 3⟩ := by
  have none_ : ∀ row ∈ unreported.1.ingress, row.kind ≠ "ProxyTraffic" := by
    intro row member
    cases member
  refine ⟨none_, rfl, by decide, ?_⟩
  rw [(traffic_counted_once unreported none_ rfl reported).2.1]
  decide

end VodogeCloud.Guarantees.TrafficTotals
