import VodogeCloud.Source.ConnectionMonitor

/-!
# What the offline banner dates

The view shown is the view of the snapshot after every event, and its date moves with
`lastOkAt` alone. Only an answered call moves that: a watched request, whose answer is data
on the screen, or a probe, whose answer is not.
-/

set_option autoImplicit false

namespace VodogeCloud.Guarantees.BannerDates

open VodogeCloud.Source.ConnectionMonitor

variable (parser : UrlParser)

/-! ## What publishing leaves -/

/-- What the listeners and the screen read is what the snapshot says. -/
def Shown (m : Monitor) : Prop := m.last = connectionView m.snapshot

theorem schedule_snapshot (m : Monitor) : m.schedule.snapshot = m.snapshot := by
  unfold Monitor.schedule
  split
  · rfl
  · split <;> rfl

theorem schedule_last (m : Monitor) : m.schedule.last = m.last := by
  unfold Monitor.schedule
  split
  · rfl
  · split <;> rfl

theorem publish_snapshot (m : Monitor) : m.publish.snapshot = m.snapshot := by
  have kept := schedule_snapshot { m with last := connectionView m.snapshot }
  unfold Monitor.publish
  dsimp only
  split
  · exact kept
  · exact kept

theorem publish_shown (m : Monitor) : Shown m.publish := by
  have kept := schedule_last { m with last := connectionView m.snapshot }
  have same := publish_snapshot m
  unfold Shown
  rw [same]
  unfold Monitor.publish
  dsimp only
  split
  · exact kept
  · exact kept

theorem createConnectionMonitor_snapshot (origin : String) (fetches isOnline : Bool)
    (loadedAt : Millis) :
    (createConnectionMonitor origin fetches isOnline loadedAt).snapshot =
      ⟨isOnline, 0, none, loadedAt⟩ := by
  unfold createConnectionMonitor
  rw [schedule_snapshot]
  rfl

theorem createConnectionMonitor_shown (origin : String) (fetches isOnline : Bool)
    (loadedAt : Millis) : Shown (createConnectionMonitor origin fetches isOnline loadedAt) := by
  unfold Shown
  rw [createConnectionMonitor_snapshot]
  unfold createConnectionMonitor
  rw [schedule_last]

/-! ## What one event does to the snapshot -/

/-- When an event answers a call of the kind. -/
def answered (kind : Call) (m : Monitor) : Event → Option Millis
  | .resolve call now => if m.host.calls[call]? = some kind then some now else none
  | _ => none

/-- What an event leaves of what the view is drawn from. -/
structure Moved (before after : Monitor) (okAt : Option Millis) : Prop where
  loadedAt : after.loadedAt = before.loadedAt
  lastOkAt : after.lastOkAt = okAt
  shown : Shown before → Shown after

theorem Moved.still (m : Monitor) : Moved m m m.lastOkAt := ⟨rfl, rfl, id⟩

theorem Moved.hosted (m : Monitor) (host : Host) : Moved m { m with host := host } m.lastOkAt :=
  ⟨rfl, rfl, id⟩

theorem Moved.published {before m : Monitor} (same : m.loadedAt = before.loadedAt) :
    Moved before m.publish m.lastOkAt := by
  have kept := publish_snapshot m
  simp only [Monitor.snapshot, ConnectionSnapshot.mk.injEq] at kept
  exact ⟨kept.2.2.2.trans same, kept.2.2.1, fun _ => publish_shown m⟩

theorem probe_moved (m : Monitor) : Moved m m.probe m.lastOkAt := by
  unfold Monitor.probe
  split
  · exact Moved.still m
  · exact Moved.hosted m _

theorem fetch_moved (m : Monitor) (input : FetchInput) :
    Moved m (m.fetch parser input) m.lastOkAt := by
  unfold Monitor.fetch
  split
  · exact Moved.still m
  · split
    · exact Moved.hosted m _
    · exact Moved.hosted m _

theorem reject_moved (m : Monitor) (call : Nat) (name : Option String) :
    Moved m (m.reject call name) m.lastOkAt := by
  unfold Monitor.reject
  cases m.host.calls[call]? with
  | none => exact Moved.still m
  | some kind =>
    cases kind with
    | unwatched => exact Moved.hosted m _
    | watched =>
      dsimp only
      split
      · exact Moved.published rfl
      · exact Moved.hosted m _
    | probe =>
      dsimp only
      split
      · exact Moved.published rfl
      · exact Moved.hosted m _

theorem resolve_moved (m : Monitor) (call : Nat) (now : Millis) :
    Moved m (m.resolve call now)
      ((answered .watched m (.resolve call now)).or
        ((answered .probe m (.resolve call now)).or m.lastOkAt)) := by
  unfold Monitor.resolve answered
  dsimp only
  cases found : m.host.calls[call]? with
  | none => exact Moved.still m
  | some kind =>
    cases kind with
    | unwatched => exact Moved.hosted m _
    | watched => exact Moved.published rfl
    | probe => exact Moved.published rfl

theorem step_moved (m : Monitor) (event : Event) :
    Moved m (step parser m event)
      ((answered .watched m event).or ((answered .probe m event).or m.lastOkAt)) := by
  cases event with
  | fetch input => exact fetch_moved parser m input
  | resolve call now => exact resolve_moved m call now
  | reject call name => exact reject_moved m call name
  | offline =>
    unfold step
    dsimp only
    split
    · exact Moved.published rfl
    · exact Moved.still m
  | online =>
    unfold step
    dsimp only
    split
    · exact probe_moved m
    · exact Moved.still m
  | timer timer =>
    unfold step
    dsimp only
    split
    · exact probe_moved m
    · exact Moved.still m
  | probe => exact probe_moved m
  | subscribe listener =>
    unfold step
    dsimp only
    split
    · exact Moved.still m
    · exact ⟨rfl, rfl, id⟩
  | unsubscribe listener => exact ⟨rfl, rfl, id⟩
  | stop => exact ⟨rfl, rfl, id⟩

/-! ## Runs -/

/-- When the data on the screen arrived: the answers of watched requests, in their order. -/
def arrivals : Monitor → List Event → List Millis
  | _, [] => []
  | m, event :: events =>
    (answered .watched m event).toList ++ arrivals (step parser m event) events

/-- No probe of the run is answered. -/
def ProbesUnanswered : Monitor → List Event → Prop
  | _, [] => True
  | m, event :: events =>
    answered .probe m event = none ∧ ProbesUnanswered (step parser m event) events

/-- The page as it was loaded or the answer that came last, whichever is later. -/
def newest (loadedAt : Millis) (times : List Millis) : Millis :=
  match times.getLast? with
  | some last => if last > loadedAt then last else loadedAt
  | none => loadedAt

/-- Under a clock that never goes back nothing that arrived is later. -/
theorem le_newest {loadedAt : Millis} {times : List Millis} (forward : times.Pairwise (· ≤ ·)) :
    ∀ time ∈ loadedAt :: times, time ≤ newest loadedAt times := by
  intro time member
  unfold newest
  rcases times.eq_nil_or_concat' with rfl | ⟨front, last, rfl⟩
  · rw [List.mem_singleton] at member
    exact Int.le_of_eq member
  · rw [List.getLast?_concat]
    dsimp only
    have upTo : time = loadedAt ∨ time ≤ last := by
      rcases List.mem_cons.mp member with same | member
      · exact Or.inl same
      · rcases List.mem_append.mp member with inFront | atEnd
        · exact Or.inr ((List.pairwise_append.mp forward).2.2 time inFront last (by simp))
        · exact Or.inr (Int.le_of_eq (List.mem_singleton.mp atEnd))
    split
    · rename_i later
      rcases upTo with rfl | upTo
      · exact Int.le_of_lt later
      · exact upTo
    · rename_i notLater
      rcases upTo with rfl | upTo
      · exact Int.le_refl _
      · exact Int.le_trans upTo (Int.not_lt.mp notLater)

theorem run_shown {m : Monitor} (shown : Shown m) (events : List Event) :
    Shown (run parser m events) := by
  induction events generalizing m with
  | nil => exact shown
  | cons event events ih => exact ih ((step_moved parser m event).shown shown)

theorem run_loadedAt (m : Monitor) (events : List Event) :
    (run parser m events).loadedAt = m.loadedAt := by
  induction events generalizing m with
  | nil => rfl
  | cons event events ih => exact (ih _).trans (step_moved parser m event).loadedAt

/-- Where no probe is answered, `lastOkAt` is the last arrival. -/
theorem run_lastOkAt {m : Monitor} {events : List Event}
    (unanswered : ProbesUnanswered parser m events) :
    (run parser m events).lastOkAt = (arrivals parser m events).getLast?.or m.lastOkAt := by
  induction events generalizing m with
  | nil => rfl
  | cons event events ih =>
    obtain ⟨quiet, rest⟩ := unanswered
    have moved := (step_moved parser m event).lastOkAt
    rw [quiet, Option.none_or] at moved
    rw [run_cons, ih rest, moved, arrivals, List.getLast?_append, Option.or_assoc]
    cases answered .watched m event with
    | none => rfl
    | some now => rfl

theorem dataAt_eq {m : Monitor} {times : List Millis} (shown : Shown m)
    (okAt : m.lastOkAt = times.getLast?) : m.last.dataAt = newest m.loadedAt times := by
  rw [shown]
  unfold connectionView newest Monitor.snapshot
  dsimp only
  generalize times.getLast? = answered at okAt ⊢
  subst okAt
  cases m.lastOkAt with
  | none => rfl
  | some last => rfl

/-! ## The banner -/

/-- As long as no probe is answered the banner dates the data: the page or the last answer
of a watched request, and with a clock that never goes back nothing on the screen is later.
A probe that is answered puts its own time there. -/
theorem banner_dates_data (origin : String) (fetches isOnline : Bool) (loadedAt : Millis)
    (events : List Event)
    (unanswered : ProbesUnanswered parser
      (createConnectionMonitor origin fetches isOnline loadedAt) events) :
    let opened := createConnectionMonitor origin fetches isOnline loadedAt
    let m := run parser opened events
    let times := arrivals parser opened events
    m.last.dataAt = newest loadedAt times ∧
      (times.Pairwise (· ≤ ·) → ∀ time ∈ loadedAt :: times, time ≤ m.last.dataAt) ∧
      ∀ event now, answered .probe m event = some now → loadedAt < now →
        (step parser m event).last.dataAt = now := by
  intro opened m times
  have start := createConnectionMonitor_snapshot origin fetches isOnline loadedAt
  simp only [Monitor.snapshot, ConnectionSnapshot.mk.injEq] at start
  have shown := run_shown parser
    (createConnectionMonitor_shown origin fetches isOnline loadedAt) events
  have loaded : m.loadedAt = loadedAt := (run_loadedAt parser opened events).trans start.2.2.2
  have okAt : m.lastOkAt = times.getLast? := by
    rw [run_lastOkAt parser unanswered, start.2.2.1, Option.or_none]
  have dated : m.last.dataAt = newest loadedAt times := by
    rw [← loaded]
    exact dataAt_eq shown okAt
  refine ⟨dated, fun forward => ?_, fun event now probe later => ?_⟩
  · rw [dated]
    exact le_newest forward
  · have moved := step_moved parser m event
    have watched : answered .watched m event = none := by
      cases event with
      | resolve call at_ =>
        unfold answered at probe ⊢
        dsimp only at probe ⊢
        split at probe
        · rename_i found
          rw [found, if_neg (by decide)]
        · cases probe
      | _ => rfl
    rw [watched, probe] at moved
    rw [@dataAt_eq _ [now] (moved.shown shown) moved.lastOkAt, moved.loadedAt, loaded]
    exact if_pos later

/-- A browser on one site whose pages ask for paths. -/
def sampleParser : UrlParser where
  base origin := some ⟨origin, "/"⟩
  against url origin := some ⟨origin, url⟩

def sampleOrigin : String := "https://a.vodoge.com"

theorem banner_dates_data_request :
    (run sampleParser (createConnectionMonitor sampleOrigin true true 1000)
      [.fetch (.text "/v1/devices"), .resolve 0 9000]).last.dataAt = 9000 := by
  have dated := (banner_dates_data sampleParser sampleOrigin true true 1000
    [.fetch (.text "/v1/devices"), .resolve 0 9000] ⟨rfl, by decide, trivial⟩).1
  rw [dated]
  decide

/-- The network goes away, the page probes, and the answer to the probe dates a screen on
which nothing has arrived since it was loaded. -/
theorem probe_dates_banner :
    let opened := createConnectionMonitor sampleOrigin true true 1000
    let events := [.offline, .probe, .resolve 0 9000]
    (run sampleParser opened events).last.dataAt = 9000 ∧ arrivals sampleParser opened events = [] ∧
      (run sampleParser opened events).last.dataAt ≠
        newest 1000 (arrivals sampleParser opened events) := by
  decide

end VodogeCloud.Guarantees.BannerDates
