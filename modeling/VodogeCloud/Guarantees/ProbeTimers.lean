import Mathlib.Data.List.Nodup
import VodogeCloud.Guarantees.BannerDates

/-!
# Probing runs exactly while disconnected

The monitor keeps the cancellation of its timer in `cancelProbes`, and `schedule` arms or
disarms it whenever a view is published. The timer the browser runs is the one the monitor
can cancel, a stopped monitor has none, and an event arms or disarms at most once.
-/

set_option autoImplicit false

namespace VodogeCloud.Guarantees.ProbeTimers

open VodogeCloud.Source.ConnectionMonitor VodogeCloud.Guarantees.BannerDates

variable (parser : UrlParser)

/-! ## The ledger of timers -/

/-- The browser runs the timer whose cancellation the monitor holds and no other, and a
handle that was cancelled was given before and is not running. -/
structure Ledger (m : Monitor) : Prop where
  running : m.host.timers = m.cancelProbes.toList
  given : ∀ timer ∈ m.cancelProbes, timer < m.host.timersSet ∧ timer ∉ m.host.cancelled
  spent : ∀ timer ∈ m.host.cancelled, timer < m.host.timersSet
  once : m.host.cancelled.Nodup
  ended : m.stopped = true → m.cancelProbes = none

/-- A timer runs where it should. -/
def Timely (m : Monitor) : Prop := m.cancelProbes.isSome = (m.last.lost && !m.stopped)

/-- What one event can do to the timers of the browser. -/
inductive Turn (before after : Host) : Prop where
  | kept (set_ : after.timersSet = before.timersSet) (running : after.timers = before.timers)
      (cancelled : after.cancelled = before.cancelled)
  | armed (idle : before.timers = []) (set_ : after.timersSet = before.timersSet + 1)
      (running : after.timers = [before.timersSet]) (cancelled : after.cancelled = before.cancelled)
  | disarmed (timer : Nat) (one : before.timers = [timer]) (set_ : after.timersSet = before.timersSet)
      (running : after.timers = []) (cancelled : after.cancelled = before.cancelled ++ [timer])

theorem Turn.still (host : Host) : Turn host host := .kept rfl rfl rfl

/-- Everything `schedule` can do. -/
theorem schedule_cases (m : Monitor) :
    (m.schedule = m ∧ (m.stopped = true ∨ m.cancelProbes.isSome = m.last.lost)) ∨
    (m.stopped = false ∧ m.last.lost = true ∧ m.cancelProbes = none ∧
      m.schedule = { m with host := m.host.every, cancelProbes := some m.host.timersSet }) ∨
    (∃ timer, m.stopped = false ∧ m.last.lost = false ∧ m.cancelProbes = some timer ∧
      m.schedule = { m with host := m.host.cancel timer, cancelProbes := none }) := by
  unfold Monitor.schedule
  cases stopped : m.stopped with
  | true => exact Or.inl ⟨if_pos rfl, Or.inl rfl⟩
  | false =>
    rw [if_neg Bool.false_ne_true]
    cases lost : m.last.lost with
    | true =>
      cases held : m.cancelProbes with
      | none => exact Or.inr (Or.inl ⟨rfl, rfl, rfl, rfl⟩)
      | some timer => exact Or.inl ⟨rfl, Or.inr rfl⟩
    | false =>
      cases held : m.cancelProbes with
      | none => exact Or.inl ⟨rfl, Or.inr rfl⟩
      | some timer => exact Or.inr (Or.inr ⟨timer, rfl, rfl, rfl, rfl⟩)

theorem schedule_turn {m : Monitor} (ledger : Ledger m) : Turn m.host m.schedule.host := by
  rcases schedule_cases m with ⟨same, _⟩ | ⟨_, _, idle, armed⟩ | ⟨timer, _, _, held, disarmed⟩
  · rw [same]
    exact Turn.still _
  · have none_ : m.host.timers = [] := by rw [ledger.running, idle, Option.toList_none]
    rw [armed]
    refine .armed none_ rfl ?_ rfl
    show m.host.timers ++ [m.host.timersSet] = _
    rw [none_, List.nil_append]
  · have one : m.host.timers = [timer] := by rw [ledger.running, held, Option.toList_some]
    rw [disarmed]
    refine .disarmed timer one rfl ?_ rfl
    show m.host.timers.erase timer = _
    rw [one, List.erase_cons_head]

/-- Cancelling the timer that is held. -/
theorem cancel_ledger {m : Monitor} (ledger : Ledger m) {timer : Nat}
    (held : m.cancelProbes = some timer) :
    (m.host.cancel timer).timers = [] ∧ (m.host.cancel timer).cancelled.Nodup ∧
      ∀ other ∈ (m.host.cancel timer).cancelled, other < m.host.timersSet := by
  obtain ⟨before, apart⟩ := ledger.given timer held
  refine ⟨?_, ?_, ?_⟩
  · show m.host.timers.erase timer = []
    rw [ledger.running, held, Option.toList_some, List.erase_cons_head]
  · show (m.host.cancelled ++ [timer]).Nodup
    exact List.nodup_append.mpr ⟨ledger.once, List.nodup_singleton _, fun other member _ same differs =>
      apart (List.mem_singleton.mp same ▸ differs ▸ member)⟩
  · intro other member
    rcases List.mem_append.mp member with old | last
    · exact ledger.spent other old
    · rw [List.mem_singleton.mp last]
      exact before

theorem schedule_ledger {m : Monitor} (ledger : Ledger m) : Ledger m.schedule ∧ Timely m.schedule := by
  unfold Timely
  rcases schedule_cases m with ⟨same, right⟩ | ⟨alive, lost, idle, armed⟩ |
    ⟨timer, alive, found, held, disarmed⟩
  · rw [same]
    refine ⟨ledger, ?_⟩
    rcases right with stopped | right
    · rw [ledger.ended stopped, stopped, Bool.not_true, Bool.and_false]
      rfl
    · cases stopped : m.stopped with
      | true =>
        rw [ledger.ended stopped, Bool.not_true, Bool.and_false]
        rfl
      | false => rw [right, Bool.not_false, Bool.and_true]
  · rw [armed]
    refine ⟨⟨?_, ?_, fun other member => Nat.lt_succ_of_lt (ledger.spent other member), ledger.once, ?_⟩, ?_⟩
    · show m.host.timers ++ [m.host.timersSet] = [m.host.timersSet]
      rw [ledger.running, idle, Option.toList_none, List.nil_append]
    · rintro timer same
      cases same
      exact ⟨Nat.lt_succ_self _, fun member => Nat.lt_irrefl _ (ledger.spent _ member)⟩
    · intro stopped
      rw [alive] at stopped
      cases stopped
    · show true = (m.last.lost && !m.stopped)
      rw [lost, alive]
      rfl
  · obtain ⟨running, once, spent⟩ := cancel_ledger ledger held
    rw [disarmed]
    refine ⟨⟨running, nofun, spent, once, fun _ => rfl⟩, ?_⟩
    show false = (m.last.lost && !m.stopped)
    rw [found]
    rfl

/-! ## What one event does -/

/-- The timers of a monitor between two events. -/
structure Polling (m : Monitor) : Prop where
  ledger : Ledger m
  timely : Timely m

theorem publish_polling {m : Monitor} (ledger : Ledger m) :
    Polling m.publish ∧ Turn m.host m.publish.host := by
  have viewed : Ledger { m with last := connectionView m.snapshot } :=
    ⟨ledger.running, ledger.given, ledger.spent, ledger.once, ledger.ended⟩
  obtain ⟨kept, timely⟩ := schedule_ledger viewed
  have turn := schedule_turn viewed
  unfold Monitor.publish
  dsimp only
  split
  · exact ⟨⟨⟨kept.running, kept.given, kept.spent, kept.once, kept.ended⟩, timely⟩, turn⟩
  · exact ⟨⟨kept, timely⟩, turn⟩

theorem Ledger.settled {m : Monitor} (ledger : Ledger m) (call : Nat) : Ledger (m.settled call) :=
  ⟨ledger.running, ledger.given, ledger.spent, ledger.once, ledger.ended⟩

theorem Polling.settled {m : Monitor} (polling : Polling m) (call : Nat) : Polling (m.settled call) :=
  ⟨polling.ledger.settled call, polling.timely⟩

theorem Polling.calling {m : Monitor} (polling : Polling m) (call : Call) :
    Polling { m with host := m.host.call call } :=
  ⟨⟨polling.ledger.running, polling.ledger.given, polling.ledger.spent, polling.ledger.once,
    polling.ledger.ended⟩, polling.timely⟩

/-- The event keeps the timers in order and moves at most one. -/
def Orderly (before after : Monitor) : Prop := Polling after ∧ Turn before.host after.host

theorem Orderly.still {m : Monitor} (polling : Polling m) : Orderly m m := ⟨polling, Turn.still _⟩

/-- A call that settles is no timer. -/
theorem Orderly.before_settled {m after : Monitor} {call : Nat} (orderly : Orderly (m.settled call) after) :
    Orderly m after := by
  refine ⟨orderly.1, ?_⟩
  cases orderly.2 with
  | kept set_ running cancelled => exact .kept set_ running cancelled
  | armed idle set_ running cancelled => exact .armed idle set_ running cancelled
  | disarmed timer one set_ running cancelled => exact .disarmed timer one set_ running cancelled

theorem noteReachable_orderly {m : Monitor} (ledger : Ledger m) (now : Millis) :
    Orderly m (m.noteReachable now) :=
  @publish_polling { m with lastOkAt := some now, failures := 0, online := true }
    ⟨ledger.running, ledger.given, ledger.spent, ledger.once, ledger.ended⟩

theorem noteUnreachable_orderly {m : Monitor} (ledger : Ledger m) : Orderly m m.noteUnreachable :=
  @publish_polling { m with failures := m.failures + 1 }
    ⟨ledger.running, ledger.given, ledger.spent, ledger.once, ledger.ended⟩

theorem probe_orderly {m : Monitor} (polling : Polling m) : Orderly m m.probe := by
  unfold Monitor.probe
  split
  · exact Orderly.still polling
  · exact ⟨polling.calling _, .kept rfl rfl rfl⟩

theorem fetch_orderly {m : Monitor} (polling : Polling m) (input : FetchInput) :
    Orderly m (m.fetch parser input) := by
  unfold Monitor.fetch
  split
  · exact Orderly.still polling
  · split
    · exact ⟨polling.calling _, .kept rfl rfl rfl⟩
    · exact ⟨polling.calling _, .kept rfl rfl rfl⟩

theorem resolve_orderly {m : Monitor} (polling : Polling m) (call : Nat) (now : Millis) :
    Orderly m (m.resolve call now) := by
  have answered := (noteReachable_orderly (polling.ledger.settled call) now).before_settled
  unfold Monitor.resolve
  cases m.host.calls[call]? with
  | none => exact Orderly.still polling
  | some kind =>
    cases kind with
    | unwatched => exact ⟨polling.settled call, .kept rfl rfl rfl⟩
    | watched => exact answered
    | probe => exact answered

theorem reject_orderly {m : Monitor} (polling : Polling m) (call : Nat) (name : Option String) :
    Orderly m (m.reject call name) := by
  have failed := (noteUnreachable_orderly (polling.ledger.settled call)).before_settled
  have aborted : Orderly m (m.settled call) := ⟨polling.settled call, .kept rfl rfl rfl⟩
  unfold Monitor.reject
  cases m.host.calls[call]? with
  | none => exact Orderly.still polling
  | some kind =>
    cases kind with
    | unwatched => exact aborted
    | watched =>
      dsimp only
      split
      · exact failed
      · exact aborted
    | probe =>
      dsimp only
      split
      · exact failed
      · exact aborted

/-- A stop cancels what is held, and a second one finds nothing. -/
theorem stop_orderly {m : Monitor} (polling : Polling m) : Orderly m m.stop := by
  have ledger := polling.ledger
  have quiet : Timely m.stop := by
    show false = (m.last.lost && !true)
    rw [Bool.not_true, Bool.and_false]
  unfold Monitor.stop at quiet ⊢
  cases held : m.cancelProbes with
  | none =>
    have idle : m.host.timers = [] := by rw [ledger.running, held, Option.toList_none]
    exact ⟨⟨⟨idle, nofun, ledger.spent, ledger.once, fun _ => rfl⟩, quiet⟩, .kept rfl rfl rfl⟩
  | some timer =>
    obtain ⟨running, once, spent⟩ := cancel_ledger ledger held
    have one : m.host.timers = [timer] := by rw [ledger.running, held, Option.toList_some]
    exact ⟨⟨⟨running, nofun, spent, once, fun _ => rfl⟩, quiet⟩, .disarmed timer one rfl running rfl⟩

theorem step_orderly {m : Monitor} (polling : Polling m) (event : Event) :
    Orderly m (step parser m event) := by
  have ledger := polling.ledger
  cases event with
  | fetch input => exact fetch_orderly parser polling input
  | resolve call now => exact resolve_orderly polling call now
  | reject call name => exact reject_orderly polling call name
  | offline =>
    unfold step
    dsimp only
    split
    · exact @publish_polling { m with online := false }
        ⟨ledger.running, ledger.given, ledger.spent, ledger.once, ledger.ended⟩
    · exact Orderly.still polling
  | online =>
    unfold step
    dsimp only
    split
    · exact probe_orderly polling
    · exact Orderly.still polling
  | timer timer =>
    unfold step
    dsimp only
    split
    · exact probe_orderly polling
    · exact Orderly.still polling
  | probe => exact probe_orderly polling
  | subscribe listener =>
    unfold step
    dsimp only
    split
    · exact Orderly.still polling
    · exact ⟨⟨⟨ledger.running, ledger.given, ledger.spent, ledger.once, ledger.ended⟩, polling.timely⟩,
        .kept rfl rfl rfl⟩
  | unsubscribe listener =>
    exact ⟨⟨⟨ledger.running, ledger.given, ledger.spent, ledger.once, ledger.ended⟩, polling.timely⟩,
      .kept rfl rfl rfl⟩
  | stop => exact stop_orderly polling

/-! ## Runs -/

theorem createConnectionMonitor_polling (origin : String) (fetches isOnline : Bool) (loadedAt : Millis) :
    Polling (createConnectionMonitor origin fetches isOnline loadedAt) := by
  unfold createConnectionMonitor
  obtain ⟨ledger, timely⟩ := schedule_ledger (m := {
    host := ⟨origin, fetches, fetches, true, 0, [], [], []⟩
    loadedAt := loadedAt
    online := isOnline
    failures := 0
    lastOkAt := none
    stopped := false
    cancelProbes := none
    listeners := []
    last := connectionView ⟨isOnline, 0, none, loadedAt⟩
    heard := [] }) ⟨rfl, nofun, nofun, List.nodup_nil, fun _ => rfl⟩
  exact ⟨ledger, timely⟩

theorem run_polling {m : Monitor} (polling : Polling m) (events : List Event) :
    Polling (run parser m events) := by
  induction events generalizing m with
  | nil => exact polling
  | cons event events ih => exact ih (step_orderly parser polling event).1

/-- After every run one timer is active if the view shown is lost and the monitor is not
stopped, and none otherwise; no handle was cancelled twice, or is still running; the view is
the view of the snapshot. Whatever comes next arms a timer only where none is active. -/
theorem probes_while_lost (origin : String) (fetches isOnline : Bool) (loadedAt : Millis)
    (events : List Event) :
    let m := run parser (createConnectionMonitor origin fetches isOnline loadedAt) events
    m.last = connectionView m.snapshot ∧
      m.host.timers.length = (if m.last.lost = true ∧ m.stopped = false then 1 else 0) ∧
      m.host.cancelled.Nodup ∧
      (∀ timer ∈ m.host.cancelled, timer < m.host.timersSet ∧ timer ∉ m.host.timers) ∧
      ∀ event, Turn m.host (step parser m event).host := by
  intro m
  have shown := run_shown parser
    (createConnectionMonitor_shown origin fetches isOnline loadedAt) events
  have polling := run_polling parser
    (createConnectionMonitor_polling origin fetches isOnline loadedAt) events
  obtain ⟨running, given, spent, once, _⟩ := polling.ledger
  refine ⟨shown, ?_, once, fun timer cancelled => ⟨spent timer cancelled, fun active => ?_⟩,
    fun event => (step_orderly parser polling event).2⟩
  · have timely := polling.timely
    unfold Timely at timely
    rw [running]
    by_cases due : m.last.lost = true ∧ m.stopped = false
    · rw [due.1, due.2] at timely
      obtain ⟨timer, held⟩ := Option.isSome_iff_exists.mp timely
      rw [if_pos due, held]
      rfl
    · have idle : (m.last.lost && !m.stopped) = false := by
        rw [Bool.eq_false_iff, ne_eq, Bool.and_eq_true, Bool.not_eq_true']
        exact due
      rw [idle, Option.isSome_eq_false_iff, Option.isNone_iff_eq_none] at timely
      rw [if_neg due, timely]
      rfl
  · rw [running] at active
    exact (given timer (Option.mem_toList.mp active)).2 cancelled

/-- An outage that starts in the background and ends with an answered probe. -/
example : (run sampleParser (createConnectionMonitor sampleOrigin true false 1000)
    [.timer 0, .resolve 0 9000, .offline, .stop, .stop]).host.cancelled = [0, 1] := by decide

end VodogeCloud.Guarantees.ProbeTimers
