import VodogeCloud.Guarantees.ClientBuckets
import VodogeCloud.Source.NotifyDispatch

/-!
# Every notification is accounted for, until `Close`

An event that is queued before the goroutine of `run` has returned is counted once as
dropped, or every channel configured for its tenant gives it one result or counts it as
dropped; and a lane gives its results in the order of the intake queue. A call of `Notify`
that finds the dispatcher stopping returns without a word, and so does one that passed
the check in time and queues its event behind the goroutine that has gone.
-/

set_option autoImplicit false

namespace VodogeCloud.Guarantees.NotificationAccounting

open VodogeCloud.Source.NotifyDispatch

variable {dispatcher : Dispatcher} {state next : State} {step : Step} {observation : Option Observation}

/-! ## Steps -/

/-- The steps the goroutines can take, with the state each of them leaves. -/
inductive Move (dispatcher : Dispatcher) (state : State) : State → Option Observation → Prop
  | notify (event : Event) :
    Move dispatcher state { state with calls := state.calls ++ [⟨event, .entered⟩] } none
  | silent {call : Nat} {event : Event} (stands : state.calls[call]? = some ⟨event, .entered⟩)
    (stopping : state.stopping = true) :
    Move dispatcher state { state with calls := state.calls.set call ⟨event, .returned⟩ } (some (.silent call))
  | pass {call : Nat} {event : Event} (stands : state.calls[call]? = some ⟨event, .entered⟩) :
    Move dispatcher state { state with calls := state.calls.set call ⟨event, .passed⟩ } none
  | queue {call : Nat} {event : Event} (stands : state.calls[call]? = some ⟨event, .passed⟩)
    (running : state.intake ≠ .exited) :
    Move dispatcher state { state with
        calls := state.calls.set call ⟨event, .returned⟩, queue := state.queue ++ [(call, event)] }
      (some (.queued call event))
  | late {call : Nat} {event : Event} (stands : state.calls[call]? = some ⟨event, .passed⟩)
    (exited : state.intake = .exited) :
    Move dispatcher state { state with
        calls := state.calls.set call ⟨event, .returned⟩, queue := state.queue ++ [(call, event)] }
      (some (.late call event))
  | full {call : Nat} {event : Event} (stands : state.calls[call]? = some ⟨event, .passed⟩) :
    Move dispatcher state { state with calls := state.calls.set call ⟨event, .returned⟩ }
      (some (.dropped .queueFull "" call))
  | close : Move dispatcher state { state with stopping := true } none
  | receive {draining : Bool} {call : Nat} {event : Event} {rest : List (Nat × Event)}
    (selecting : state.intake = .selecting draining) (waiting : state.queue = (call, event) :: rest) :
    Move dispatcher state { state with intake := .reading draining call event, queue := rest } none
  | drain (selecting : state.intake = .selecting false) :
    Move dispatcher state { state with intake := .selecting true } none
  | exit (selecting : state.intake = .selecting true) (drained : state.queue = []) :
    Move dispatcher state { state with intake := .exited } none
  | unavailable {draining : Bool} {call : Nat} {event : Event} (reading : state.intake = .reading draining call event) :
    Move dispatcher state { state with intake := .selecting draining } (some (.dropped .noSettings "" call))
  | fanOut {draining : Bool} {call : Nat} {event : Event} (settings : Settings)
    (reading : state.intake = .reading draining call event) :
    Move dispatcher state { state with intake := .offering draining call event settings dispatcher.channels }
      (some (.fannedOut call settings))
  | offered {draining : Bool} {call : Nat} {event : Event} {settings : Settings}
    (offering : state.intake = .offering draining call event settings []) :
    Move dispatcher state { state with intake := .selecting draining } none
  | offer {draining : Bool} {call : Nat} {event : Event} {settings : Settings} {channel : Channel} {rest : List Channel}
    (offering : state.intake = .offering draining call event settings (channel :: rest)) :
    Move dispatcher state { state with
        intake := .offering draining call event settings rest
        lanes := (Source.NotifyDispatch.offer dispatcher state.lanes channel settings call event).1 }
      (Source.NotifyDispatch.offer dispatcher state.lanes channel settings call event).2
  | take {index : Nat} {lane : Lane} {job : Job} {rest : List Job} (stands : state.lanes[index]? = some lane)
    (idle : lane.busy = none) (waiting : lane.queue = job :: rest) :
    Move dispatcher state { state with
        lanes := state.lanes.set index { lane with busy := some job, queue := rest } } none
  | result {index : Nat} {lane : Lane} {job : Job} (delivered : Bool) (stands : state.lanes[index]? = some lane)
    (busy : lane.busy = some job) :
    Move dispatcher state { state with lanes := state.lanes.set index { lane with busy := none } }
      (some (.onResult lane.channel.name job.call job.event delivered))

theorem move_of_step (stepped : state.step dispatcher step = some (next, observation)) :
    Move dispatcher state next observation := by
  cases step with
  | notify event =>
    cases stepped
    exact .notify event
  | close =>
    cases stepped
    exact .close
  | check call =>
    simp only [State.step] at stepped
    split at stepped
    · next stands =>
      by_cases stopping : state.stopping = true
      · rw [if_pos stopping] at stepped
        cases stepped
        exact .silent stands stopping
      · rw [if_neg stopping] at stepped
        cases stepped
        exact .pass stands
    · cases stepped
  | send call =>
    simp only [State.step] at stepped
    split at stepped
    · next stands =>
      by_cases room : state.queue.length < dispatcher.depth
      · rw [if_pos room] at stepped
        cases stepped
        split
        · next exited => exact .late stands exited
        · next running => exact .queue stands running
      · rw [if_neg room] at stepped
        cases stepped
        exact .full stands
    · cases stepped
  | receive =>
    simp only [State.step] at stepped
    split at stepped
    · next selecting waiting =>
      cases stepped
      exact .receive selecting waiting
    · cases stepped
  | drain =>
    simp only [State.step] at stepped
    split at stepped
    · next selecting _ =>
      cases stepped
      exact .drain selecting
    · cases stepped
  | exit =>
    simp only [State.step] at stepped
    split at stepped
    · next selecting drained =>
      cases stepped
      exact .exit selecting drained
    · cases stepped
  | settings answer =>
    simp only [State.step] at stepped
    split at stepped
    · next reading =>
      cases stepped
      exact .unavailable reading
    · next reading =>
      cases stepped
      exact .fanOut _ reading
    · cases stepped
  | offer =>
    simp only [State.step] at stepped
    split at stepped
    · next offering =>
      cases stepped
      exact .offered offering
    · next offering =>
      cases stepped
      exact .offer offering
    · cases stepped
  | take index =>
    simp only [State.step] at stepped
    split at stepped
    · next stands =>
      split at stepped
      · next idle waiting =>
        cases stepped
        exact .take stands idle waiting
      · cases stepped
    · cases stepped
  | result index delivered =>
    simp only [State.step] at stepped
    split at stepped
    · next stands =>
      split at stepped
      · next busy =>
        cases stepped
        exact .result delivered stands busy
      · cases stepped
    · cases stepped

/-! ## Where an event is before it is fanned out -/

def active : Option Call → Nat
  | some ⟨_, .entered⟩ => 1
  | some ⟨_, .passed⟩ => 1
  | _ => 0

def readingCount (call : Nat) : Intake → Nat
  | .reading _ at_ _ => if at_ = call then 1 else 0
  | _ => 0

/-- Still in `Notify`, in the intake queue, or before the settings. -/
def early (state : State) (call : Nat) : Nat :=
  active state.calls[call]? + state.queue.countP (fun item => item.1 = call) + readingCount call state.intake

/-- Counted by a `dropped` of its own: the queue was full, or the settings unavailable. -/
def droppedAtIntake (call : Nat) : Observation → Bool
  | .dropped .queueFull _ at_ => at_ = call
  | .dropped .noSettings _ at_ => at_ = call
  | _ => false

def fanned (call : Nat) : Observation → Bool
  | .fannedOut at_ _ => at_ = call
  | _ => false

def isSilent (call : Nat) : Observation → Bool
  | .silent at_ => at_ = call
  | _ => false

def isLate (call : Nat) : Observation → Bool
  | .late at_ _ => at_ = call
  | _ => false

/-- The call is past its early places, in one of three ways. -/
def left (call : Nat) (seen : List Observation) : Nat :=
  seen.countP (isSilent call) + seen.countP (droppedAtIntake call) + seen.countP (fanned call)

theorem active_set {calls : List Call} {call : Nat} {old new : Call} (stands : calls[call]? = some old) (other : Nat) :
    active (calls.set call new)[other]? = if call = other then active (some new) else active calls[other]? := by
  have inside : call < calls.length := by
    rw [List.getElem?_eq_some_iff] at stands
    exact stands.1
  by_cases same : call = other
  · subst same
    rw [if_pos rfl, List.getElem?_set_self inside]
  · rw [if_neg same, List.getElem?_set_ne same]

theorem active_append (calls : List Call) (event : Event) (call : Nat) :
    active (calls ++ [⟨event, .entered⟩])[call]? = active calls[call]? + (if calls.length = call then 1 else 0) := by
  by_cases inside : call < calls.length
  · rw [List.getElem?_append_left inside, if_neg (Nat.ne_of_gt inside)]
    rfl
  · rw [List.getElem?_append_right (Nat.le_of_not_lt inside), List.getElem?_eq_none (Nat.le_of_not_lt inside)]
    by_cases same : calls.length = call
    · subst same
      simp [active]
    · obtain ⟨beyond, shape⟩ := Nat.exists_eq_succ_of_ne_zero (show call - calls.length ≠ 0 by omega)
      rw [shape, if_neg same]
      rfl

/-- An offer shows nothing but a drop of the lane. -/
theorem offer_shows (dispatcher : Dispatcher) (lanes : List Lane) (channel : Channel) (settings : Settings) (at_ : Nat)
    (event : Event) : (Source.NotifyDispatch.offer dispatcher lanes channel settings at_ event).2 = none ∨
      ∃ reason, (reason = .laneFull ∨ reason = .laneLimit) ∧
        (Source.NotifyDispatch.offer dispatcher lanes channel settings at_ event).2 = some (.dropped reason channel.name at_) := by
  unfold Source.NotifyDispatch.offer sendJob
  dsimp only
  repeat' split
  all_goals first
    | exact .inl rfl
    | exact .inr ⟨_, .inl rfl, rfl⟩
    | exact .inr ⟨_, .inr rfl, rfl⟩

theorem left_offer (dispatcher : Dispatcher) (lanes : List Lane) (channel : Channel) (settings : Settings) (at_ : Nat)
    (event : Event) (call : Nat) :
    left call (Source.NotifyDispatch.offer dispatcher lanes channel settings at_ event).2.toList = 0 := by
  obtain shown | ⟨_, rfl | rfl, shown⟩ := offer_shows dispatcher lanes channel settings at_ event
  · rw [shown]
    rfl
  · rw [shown]
    rfl
  · rw [shown]
    rfl

/-- One event, one place: a step moves it on, and only a new call adds one. -/
theorem early_step (moved : Move dispatcher state next observation) (call : Nat) :
    early next call + left call observation.toList + (if call < state.calls.length then 1 else 0) =
      early state call + (if call < next.calls.length then 1 else 0) := by
  cases moved with
  | notify event =>
    simp only [early, active_append, left, Option.toList_none, List.countP_nil, List.length_append, List.length_singleton]
    split <;> split <;> split <;> omega
  | @silent at_ event stands _ | @full at_ event stands =>
    simp only [early, active_set stands, left, Option.toList_some, List.countP_singleton, isSilent, droppedAtIntake, fanned,
      List.length_set]
    by_cases same : at_ = call
    · subst same
      rw [stands]
      simp only [active, if_true, decide_true, Bool.false_eq_true, if_false]
      omega
    · simp [same]
  | @pass at_ event stands =>
    simp only [early, active_set stands, left, Option.toList_none, List.countP_nil, List.length_set]
    by_cases same : at_ = call
    · subst same
      rw [stands]
      simp only [active, if_true]
      omega
    · rw [if_neg same]
      omega
  | @queue at_ event stands _ | @late at_ event stands _ =>
    simp only [early, active_set stands, left, Option.toList_some, List.countP_singleton, isSilent, droppedAtIntake, fanned,
      List.length_set, List.countP_append]
    by_cases same : at_ = call
    · subst same
      rw [stands]
      simp only [active, if_true, decide_true, Bool.false_eq_true, if_false]
      omega
    · simp [same]
  | @receive draining at_ event rest selecting waiting =>
    simp only [early, left, Option.toList_none, List.countP_nil, waiting, selecting, readingCount, List.countP_cons,
      decide_eq_true_eq]
    omega
  | @unavailable draining at_ event reading =>
    simp only [early, left, Option.toList_some, List.countP_singleton, isSilent, droppedAtIntake, fanned, reading,
      readingCount, decide_eq_true_eq, Bool.false_eq_true, if_false]
    omega
  | @fanOut draining at_ event settings reading =>
    simp only [early, left, Option.toList_some, List.countP_singleton, isSilent, droppedAtIntake, fanned, reading,
      readingCount, decide_eq_true_eq, Bool.false_eq_true, if_false]
    omega
  | drain selecting | exit selecting _ =>
    simp only [early, left, Option.toList_none, List.countP_nil, selecting, readingCount]
  | offered offering =>
    simp only [early, left, Option.toList_none, List.countP_nil, offering, readingCount]
  | @offer _ at_ event settings channel rest offering =>
    have quiet := left_offer dispatcher state.lanes channel settings at_ event call
    simp only [early, offering, readingCount, quiet]
  | close | take _ _ _ =>
    simp only [early, left, Option.toList_none, List.countP_nil]
    omega
  | result _ _ _ =>
    simp only [early, left, Option.toList_some, List.countP_singleton, isSilent, droppedAtIntake, fanned,
      Bool.false_eq_true, if_false]
    omega

/-! ## Lanes -/

theorem laneKey_inj {tenant tenant' : String} {channel channel' : Channel}
    (same : laneKey tenant channel.name = laneKey tenant' channel'.name) :
    tenant = tenant' ∧ channel.name = channel'.name := by
  have lists : tenant.toList ++ '\x00' :: channel.name.toList = tenant'.toList ++ '\x00' :: channel'.name.toList := by
    have texts := congrArg String.toList same
    simpa [laneKey] using texts
  obtain ⟨left, right⟩ := ClientBuckets.cut_unique channel.plain channel'.plain lists
  exact ⟨String.toList_injective left, String.toList_injective right⟩

def eventOf (calls : List Call) (call : Nat) : Option Event := calls[call]?.map Call.event

/-- The jobs of a lane in the order it takes them. -/
def laneJobs (lane : Lane) : List Job := lane.busy.toList ++ lane.queue

/-- The calls that wait in the lane of a key. -/
def waiting (lanes : List Lane) (key : String) : List Nat :=
  lanes.flatMap fun lane => if lane.key = key then (laneJobs lane).map Job.call else []

/-- One lane a key, and in it only events of its tenant, for its channel. -/
structure Wired (calls : List Call) (lanes : List Lane) : Prop where
  keys : (lanes.map Lane.key).Nodup
  named : ∀ lane ∈ lanes, ∃ tenant, lane.key = laneKey tenant lane.channel.name
  jobs : ∀ lane ∈ lanes, ∀ job ∈ laneJobs lane,
    eventOf calls job.call = some job.event ∧ laneKey job.event.tenantId lane.channel.name = lane.key

theorem waiting_append (lanes lanes' : List Lane) (key : String) :
    waiting (lanes ++ lanes') key = waiting lanes key ++ waiting lanes' key := List.flatMap_append

theorem waiting_cons (lane : Lane) (lanes : List Lane) (key : String) :
    waiting (lane :: lanes) key = (if lane.key = key then (laneJobs lane).map Job.call else []) ++ waiting lanes key :=
  List.flatMap_cons

theorem waiting_absent {lanes : List Lane} {key : String} (absent : key ∉ lanes.map Lane.key) : waiting lanes key = [] :=
  List.flatMap_eq_nil_iff.mpr fun _ member => if_neg fun same => absent (List.mem_map.mpr ⟨_, member, same⟩)

theorem split_at {lanes : List Lane} {index : Nat} {lane : Lane} (stands : lanes[index]? = some lane) (lane' : Lane) :
    ∃ front back, lanes = front ++ lane :: back ∧ lanes.set index lane' = front ++ lane' :: back := by
  obtain ⟨inside, here⟩ := List.getElem?_eq_some_iff.mp stands
  refine ⟨lanes.take index, lanes.drop (index + 1), ?_, List.set_eq_take_append_cons_drop.trans (if_pos inside)⟩
  rw [← here, ← List.drop_eq_getElem_cons, List.take_append_drop]

/-- What waits after one lane has changed and kept its key. -/
theorem waiting_set {lanes : List Lane} {index : Nat} {lane lane' : Lane} (keys : (lanes.map Lane.key).Nodup)
    (stands : lanes[index]? = some lane) (kept : lane'.key = lane.key) (key : String) :
    waiting (lanes.set index lane') key = (if lane.key = key then (laneJobs lane').map Job.call else waiting lanes key) ∧
      (lane.key = key → waiting lanes key = (laneJobs lane).map Job.call) := by
  obtain ⟨front, back, rfl, changed⟩ := split_at stands lane'
  rw [changed]
  by_cases same : lane.key = key
  · subst same
    rw [List.map_append, List.map_cons, List.nodup_middle, List.nodup_cons, List.mem_append, not_or] at keys
    have none_ := waiting_absent keys.1.1
    have none_' := waiting_absent keys.1.2
    simp only [waiting_append, waiting_cons, none_, none_', kept, if_true, List.nil_append, List.append_nil, and_self,
      implies_true]
  · refine ⟨?_, fun same' => absurd same' same⟩
    simp only [waiting_append, waiting_cons, kept, if_neg same]

theorem Wired.set {calls : List Call} {lanes : List Lane} (wired : Wired calls lanes) {index : Nat} {lane lane' : Lane}
    (stands : lanes[index]? = some lane) (key : lane'.key = lane.key) (channel : lane'.channel = lane.channel)
    (held : ∀ job ∈ laneJobs lane', job ∈ laneJobs lane ∨
      (eventOf calls job.call = some job.event ∧ laneKey job.event.tenantId lane.channel.name = lane.key)) :
    Wired calls (lanes.set index lane') := by
  obtain ⟨front, back, rfl, changed⟩ := split_at stands lane'
  rw [changed]
  refine ⟨?_, fun other member => ?_, fun other member => ?_⟩
  · have keys := wired.keys
    rw [List.map_append, List.map_cons] at keys ⊢
    rwa [key]
  · rcases List.mem_append.mp member with here | there
    · exact wired.named other (List.mem_append_left _ here)
    · rcases List.mem_cons.mp there with rfl | later
      · rw [key, channel]
        exact wired.named lane (List.mem_append_right _ List.mem_cons_self)
      · exact wired.named other (List.mem_append_right _ (List.mem_cons_of_mem _ later))
  · rcases List.mem_append.mp member with here | there
    · exact wired.jobs other (List.mem_append_left _ here)
    · rcases List.mem_cons.mp there with rfl | later
      · intro job inside
        rw [key, channel]
        rcases held job inside with old | new
        · exact wired.jobs lane (List.mem_append_right _ List.mem_cons_self) job old
        · exact new
      · exact wired.jobs other (List.mem_append_right _ (List.mem_cons_of_mem _ later))

/-- The job waits in the lane of the key, behind the others, or is counted as dropped. -/
def Handed (lanes : List Lane) (after : List Lane × Option Observation) (key name : String) (call : Nat) : Prop :=
  (after.2 = none ∧ ∀ other, waiting after.1 other = waiting lanes other ++ if key = other then [call] else []) ∨
    ∃ reason, (reason = .laneFull ∨ reason = .laneLimit) ∧ after.2 = some (.dropped reason name call) ∧
      ∀ other, waiting after.1 other = waiting lanes other

theorem sendJob_spec {calls : List Call} {lanes : List Lane} (wired : Wired calls lanes) {index : Nat} {lane : Lane}
    (stands : lanes[index]? = some lane) {channel : Channel} {job : Job}
    (key : lane.key = laneKey job.event.tenantId channel.name) (owned : eventOf calls job.call = some job.event) :
    Wired calls (sendJob dispatcher lanes index channel job).1 ∧
      Handed lanes (sendJob dispatcher lanes index channel job) lane.key channel.name job.call := by
  unfold sendJob
  simp only [stands]
  by_cases room : lane.queue.length < dispatcher.laneDepth
  · simp only [if_pos room]
    have appended : laneJobs { lane with queue := lane.queue ++ [job] } = laneJobs lane ++ [job] :=
      (List.append_assoc _ _ _).symm
    obtain ⟨tenant, named⟩ := wired.named lane (List.mem_of_getElem? stands)
    have channels := (laneKey_inj (key.symm.trans named)).2
    refine ⟨wired.set stands rfl rfl fun other member => ?_, .inl ⟨rfl, fun other => ?_⟩⟩
    · rw [appended] at member
      rcases List.mem_append.mp member with old | new
      · exact .inl old
      · obtain rfl := List.mem_singleton.mp new
        exact .inr ⟨owned, by rw [← channels, key]⟩
    · obtain ⟨after, before⟩ := @waiting_set _ _ _ { lane with queue := lane.queue ++ [job] } wired.keys stands rfl other
      rw [after, appended]
      by_cases same : lane.key = other
      · rw [if_pos same, if_pos same, before same, List.map_append]
        rfl
      · rw [if_neg same, if_neg same, List.append_nil]
  · simp only [if_neg room]
    exact ⟨wired, .inr ⟨.laneFull, .inl rfl, rfl, fun _ => rfl⟩⟩

theorem Wired.append {calls : List Call} {lanes : List Lane} (wired : Wired calls lanes) {key : String}
    {channel : Channel} {tenant : String} (named : key = laneKey tenant channel.name)
    (absent : ∀ lane ∈ lanes, lane.key ≠ key) : Wired calls (lanes ++ [⟨key, channel, [], none⟩]) where
  keys := by
    rw [List.map_append, List.nodup_append]
    refine ⟨wired.keys, List.nodup_singleton _, fun a inTable b inNew same => ?_⟩
    obtain ⟨lane, member, rfl⟩ := List.mem_map.mp inTable
    exact absent lane member (same.trans (List.mem_singleton.mp inNew))
  named lane member := by
    rcases List.mem_append.mp member with old | new
    · exact wired.named lane old
    · rw [List.mem_singleton.mp new]
      exact ⟨tenant, named⟩
  jobs lane member := by
    rcases List.mem_append.mp member with old | new
    · exact wired.jobs lane old
    · rw [List.mem_singleton.mp new]
      exact fun job inside => absurd inside List.not_mem_nil

theorem offer_off {lanes : List Lane} {channel : Channel} {settings : Settings} {call : Nat} {event : Event}
    (off : channel.configured (sectionOf settings channel.name) = false) :
    offer dispatcher lanes channel settings call event = (lanes, none) := by
  unfold offer
  exact if_pos off

/-- A configured channel hands the event to its lane, which is made when there is none. -/
theorem offer_on {calls : List Call} {lanes : List Lane} (wired : Wired calls lanes) {channel : Channel}
    {settings : Settings} {call : Nat} {event : Event} (owned : eventOf calls call = some event)
    (on : channel.configured (sectionOf settings channel.name) = true) :
    Wired calls (offer dispatcher lanes channel settings call event).1 ∧
      Handed lanes (offer dispatcher lanes channel settings call event) (laneKey event.tenantId channel.name)
        channel.name call := by
  unfold offer
  simp only [on, Bool.true_eq_false, if_false]
  cases found : lanes.findIdx? fun lane => lane.key = laneKey event.tenantId channel.name with
  | some index =>
    obtain ⟨inside, here, _⟩ := List.findIdx?_eq_some_iff_getElem.mp found
    have key : lanes[index].key = laneKey event.tenantId channel.name := of_decide_eq_true here
    have sent := @sendJob_spec dispatcher _ _ wired index _ (List.getElem?_eq_getElem inside) channel
      ⟨call, event, sectionOf settings channel.name⟩ key owned
    rwa [key] at sent
  | none =>
    by_cases limit : dispatcher.maxLanes ≤ lanes.length
    · simp only [if_pos limit]
      exact ⟨wired, .inr ⟨.laneLimit, .inr rfl, rfl, fun _ => rfl⟩⟩
    · simp only [if_neg limit]
      have absent : ∀ lane ∈ lanes, lane.key ≠ laneKey event.tenantId channel.name := fun lane member =>
        of_decide_eq_false (List.findIdx?_eq_none_iff.mp found lane member)
      have made := @Wired.append _ _ wired _ channel event.tenantId rfl absent
      have sent := @sendJob_spec dispatcher _ _ made lanes.length _ List.getElem?_concat_length channel
        ⟨call, event, sectionOf settings channel.name⟩ rfl owned
      have empty : ∀ other, waiting (lanes ++ [⟨laneKey event.tenantId channel.name, channel, [], none⟩]) other =
          waiting lanes other := by
        intro other
        rw [waiting_append, waiting_cons]
        simp [laneJobs, waiting]
      unfold Handed at sent ⊢
      simp only [empty] at sent
      exact sent

/-! ## What a lane has given and still holds -/

/-- The calls whose results a lane has given, in order. -/
def delivered (key : String) : Observation → Option Nat
  | .onResult name call event _ => if laneKey event.tenantId name = key then some call else none
  | _ => none

def stream (state : State) (seen : List Observation) (key : String) : List Nat :=
  seen.filterMap (delivered key) ++ waiting state.lanes key

theorem stream_quiet {seen : List Observation} (lanes : next.lanes = state.lanes)
    (quiet : ∀ key, observation.toList.filterMap (delivered key) = []) (key : String) :
    stream next (seen ++ observation.toList) key = stream state seen key := by
  rw [stream, stream, List.filterMap_append, quiet, List.append_nil, lanes]

theorem stream_take {seen : List Observation} {lanes : List Lane} (keys : (lanes.map Lane.key).Nodup) {index : Nat}
    {lane : Lane} {job : Job} {rest : List Job} (stands : lanes[index]? = some lane) (idle : lane.busy = none)
    (waits : lane.queue = job :: rest) (key : String) :
    seen.filterMap (delivered key) ++ waiting (lanes.set index { lane with busy := some job, queue := rest }) key =
      seen.filterMap (delivered key) ++ waiting lanes key := by
  obtain ⟨after, before⟩ := @waiting_set _ _ _ { lane with busy := some job, queue := rest } keys stands rfl key
  have same : laneJobs { lane with busy := some job, queue := rest } = laneJobs lane := by
    simp [laneJobs, idle, waits]
  rw [after, same]
  by_cases here : lane.key = key
  · rw [if_pos here, before here]
  · rw [if_neg here]

/-- The result of a job takes its place in the stream. -/
theorem stream_result {calls : List Call} {seen : List Observation} {lanes : List Lane} (wired : Wired calls lanes)
    {index : Nat} {lane : Lane} {job : Job} (stands : lanes[index]? = some lane) (busy : lane.busy = some job)
    (delivered_ : Bool) (key : String) :
    (seen ++ [Observation.onResult lane.channel.name job.call job.event delivered_]).filterMap (delivered key) ++
        waiting (lanes.set index { lane with busy := none }) key =
      seen.filterMap (delivered key) ++ waiting lanes key := by
  obtain ⟨after, before⟩ := @waiting_set _ _ _ { lane with busy := none } wired.keys stands rfl key
  have named := (wired.jobs lane (List.mem_of_getElem? stands) job (by simp [laneJobs, busy])).2
  have first : laneJobs lane = job :: laneJobs { lane with busy := none } := by simp [laneJobs, busy]
  have shown : [Observation.onResult lane.channel.name job.call job.event delivered_].filterMap (delivered key) =
      if lane.key = key then [job.call] else [] := by
    rw [← named]
    by_cases here : laneKey job.event.tenantId lane.channel.name = key <;> simp [delivered, here]
  rw [List.filterMap_append, shown, after]
  by_cases here : lane.key = key
  · rw [if_pos here, if_pos here, before here, first, List.append_assoc]
    rfl
  · rw [if_neg here, if_neg here, List.append_nil]

/-! ## Shares of a channel -/

def chosen (settings : Settings) (name : String) (channel : Channel) : Bool :=
  channel.name = name && channel.configured (sectionOf settings channel.name)

def droppedByLane (call : Nat) (name : String) : Observation → Bool
  | .dropped .laneFull channel at_ => channel = name && at_ = call
  | .dropped .laneLimit channel at_ => channel = name && at_ = call
  | _ => false

/-- The channels of a name that the fan-out has still to offer the event. -/
def toOffer (call : Nat) (name : String) : Intake → Nat
  | .offering _ at_ _ settings rest => if at_ = call then rest.countP (chosen settings name) else 0
  | _ => 0

/-- The channels of a name configured in the settings an event was fanned out with. -/
def share (dispatcher : Dispatcher) (call : Nat) (name : String) : Observation → Nat
  | .fannedOut at_ settings => if at_ = call then dispatcher.channels.countP (chosen settings name) else 0
  | _ => 0

def due (dispatcher : Dispatcher) (seen : List Observation) (call : Nat) (name : String) : Nat :=
  (seen.map (share dispatcher call name)).sum

theorem due_append (seen more : List Observation) (call : Nat) (name : String) :
    due dispatcher (seen ++ more) call name = due dispatcher seen call name + due dispatcher more call name := by
  rw [due, List.map_append, List.sum_append]
  rfl

/-- Results and drops of a channel, what its lane still holds and what is still to be offered:
together one for every configured channel of the name. -/
def Shared (dispatcher : Dispatcher) (state : State) (seen : List Observation) : Prop :=
  ∀ call tenant, (∀ event, eventOf state.calls call = some event → event.tenantId = tenant) → ∀ channel : Channel,
    (stream state seen (laneKey tenant channel.name)).count call +
      seen.countP (droppedByLane call channel.name) + toOffer call channel.name state.intake =
      due dispatcher seen call channel.name

theorem eventOf_step (moved : Move dispatcher state next observation) {call : Nat} {event : Event}
    (owned : eventOf state.calls call = some event) : eventOf next.calls call = some event := by
  have set {at_ : Nat} {event' : Event} {stage stage' : Stage} (stands : state.calls[at_]? = some ⟨event', stage⟩) :
      eventOf (state.calls.set at_ ⟨event', stage'⟩) call = some event := by
    have inside := (List.getElem?_eq_some_iff.mp stands).1
    by_cases same : at_ = call
    · subst same
      rw [eventOf, stands] at owned
      rw [eventOf, List.getElem?_set_self inside]
      exact owned
    · rw [eventOf, List.getElem?_set_ne same]
      exact owned
  cases moved with
  | notify added =>
    obtain ⟨found, there, same⟩ := Option.map_eq_some_iff.mp owned
    have inside := (List.getElem?_eq_some_iff.mp there).1
    rw [eventOf, List.getElem?_append_left inside]
    exact owned
  | silent stands _ => exact set stands
  | pass stands => exact set stands
  | queue stands _ => exact set stands
  | late stands _ => exact set stands
  | full stands => exact set stands
  | _ => exact owned

/-- What `run` holds belongs to the call it is numbered by. -/
def Current (calls : List Call) : Intake → Prop
  | .reading _ call event => eventOf calls call = some event
  | .offering _ call event _ _ => eventOf calls call = some event
  | _ => True

structure Sound (dispatcher : Dispatcher) (state : State) (seen : List Observation) : Prop where
  wired : Wired state.calls state.lanes
  queued : ∀ item ∈ state.queue, eventOf state.calls item.1 = some item.2
  current : Current state.calls state.intake
  places : ∀ call, early state call + left call seen = if call < state.calls.length then 1 else 0
  prompt : state.intake ≠ .exited → ∀ call, seen.countP (isLate call) = 0
  stranded : state.intake = .exited → ∀ call, state.queue.countP (fun item => item.1 = call) = seen.countP (isLate call)
  results : ∀ {name call event delivered}, Observation.onResult name call event delivered ∈ seen →
    eventOf state.calls call = some event ∧ ∃ channel : Channel, channel.name = name
  shared : Shared dispatcher state seen

theorem sound_initial (dispatcher : Dispatcher) : Sound dispatcher State.initial [] where
  wired := ⟨List.nodup_nil, fun _ member => absurd member List.not_mem_nil, fun _ member => absurd member List.not_mem_nil⟩
  queued _ member := absurd member List.not_mem_nil
  current := trivial
  places call := by simp [early, left, State.initial, active, readingCount]
  prompt _ _ := rfl
  stranded exited := by cases exited
  results member := absurd member List.not_mem_nil
  shared _ _ _ _ := rfl

theorem left_append (call : Nat) (seen more : List Observation) : left call (seen ++ more) = left call seen + left call more := by
  simp only [left, List.countP_append]
  omega

theorem places_step {seen : List Observation} (sound : Sound dispatcher state seen)
    (moved : Move dispatcher state next observation) (call : Nat) :
    early next call + left call (seen ++ observation.toList) = if call < next.calls.length then 1 else 0 := by
  have before := sound.places call
  have here := early_step moved call
  rw [left_append]
  omega

theorem Wired.mono {calls calls' : List Call} {lanes : List Lane} (wired : Wired calls lanes)
    (kept : ∀ {call event}, eventOf calls call = some event → eventOf calls' call = some event) : Wired calls' lanes where
  keys := wired.keys
  named := wired.named
  jobs lane member job inside := ⟨kept (wired.jobs lane member job inside).1, (wired.jobs lane member job inside).2⟩

theorem wired_step {seen : List Observation} (sound : Sound dispatcher state seen)
    (moved : Move dispatcher state next observation) : Wired next.calls next.lanes := by
  have kept : ∀ {call event}, eventOf state.calls call = some event → eventOf next.calls call = some event :=
    fun owned => eventOf_step moved owned
  have wired := sound.wired
  cases moved with
  | @offer draining call event settings channel rest offering =>
    by_cases off : channel.configured (sectionOf settings channel.name) = false
    · rw [offer_off off]
      exact wired
    · have owned := sound.current
      rw [offering] at owned
      exact (offer_on wired owned (Bool.eq_true_of_not_eq_false off)).1
  | @take index lane job rest stands idle waits =>
    refine wired.set stands rfl rfl fun other member => .inl ?_
    simpa [laneJobs, idle, waits] using member
  | @result index lane job _ stands busy =>
    refine wired.set stands rfl rfl fun other member => .inl ?_
    simp only [laneJobs, busy] at member ⊢
    exact List.mem_append_right _ member
  | _ => exact wired.mono kept

theorem Current.mono {calls calls' : List Call} {intake : Intake} (current : Current calls intake)
    (kept : ∀ {call event}, eventOf calls call = some event → eventOf calls' call = some event) : Current calls' intake := by
  cases intake with
  | reading _ _ _ => exact kept current
  | offering _ _ _ _ _ => exact kept current
  | _ => trivial

theorem eventOf_stands {calls : List Call} {call : Nat} {event : Event} {stage : Stage}
    (stands : calls[call]? = some ⟨event, stage⟩) : eventOf calls call = some event := by
  rw [eventOf, stands]
  rfl

theorem current_step {seen : List Observation} (sound : Sound dispatcher state seen)
    (moved : Move dispatcher state next observation) :
    Current next.calls next.intake ∧ ∀ item ∈ next.queue, eventOf next.calls item.1 = some item.2 := by
  have kept : ∀ {call event}, eventOf state.calls call = some event → eventOf next.calls call = some event :=
    fun owned => eventOf_step moved owned
  have current := sound.current
  have queued := sound.queued
  cases moved with
  | @queue call event stands _ | @late call event stands _ =>
    refine ⟨current.mono kept, fun item member => ?_⟩
    rcases List.mem_append.mp member with old | new
    · exact kept (queued item old)
    · rw [List.mem_singleton.mp new]
      exact kept (eventOf_stands stands)
  | @receive draining call event rest selecting waits =>
    rw [waits] at queued
    exact ⟨queued _ List.mem_cons_self, fun item member => queued item (List.mem_cons_of_mem _ member)⟩
  | drain _ | exit _ _ | offered _ | unavailable _ => exact ⟨trivial, queued⟩
  | fanOut settings reading =>
    rw [reading] at current
    exact ⟨current, queued⟩
  | offer offering =>
    rw [offering] at current
    exact ⟨current, queued⟩
  | _ => exact ⟨current.mono kept, fun item member => kept (queued item member)⟩

theorem not_late_offer (lanes : List Lane) (channel : Channel) (settings : Settings) (at_ : Nat) (event : Event) (call : Nat) :
    (offer dispatcher lanes channel settings at_ event).2.toList.countP (isLate call) = 0 := by
  obtain shown | ⟨_, _, shown⟩ := offer_shows dispatcher lanes channel settings at_ event
  · rw [shown]
    rfl
  · rw [shown]
    rfl

theorem late_step {seen : List Observation} (sound : Sound dispatcher state seen)
    (moved : Move dispatcher state next observation) :
    (next.intake ≠ .exited → ∀ call, (seen ++ observation.toList).countP (isLate call) = 0) ∧
      (next.intake = .exited → ∀ call, next.queue.countP (fun item => item.1 = call) =
        (seen ++ observation.toList).countP (isLate call)) := by
  have prompt := sound.prompt
  have stranded := sound.stranded
  simp only [List.countP_append]
  cases moved with
  | @late at_ event stands exited =>
    refine ⟨fun running => absurd exited running, fun _ call => ?_⟩
    simp only [List.countP_append, stranded exited call]
    rfl
  | @queue at_ event stands running =>
    exact ⟨fun _ call => prompt running call, fun exited => absurd exited running⟩
  | exit selecting drained =>
    have running : state.intake ≠ .exited := by
      rw [selecting]
      exact Intake.noConfusion
    refine ⟨fun not_ => absurd rfl not_, fun _ call => ?_⟩
    rw [drained, prompt running call]
    rfl
  | receive selecting _ | drain selecting | unavailable selecting | fanOut _ selecting | offered selecting =>
    have running : state.intake ≠ .exited := by
      rw [selecting]
      exact Intake.noConfusion
    refine ⟨fun _ call => prompt running call, Intake.noConfusion⟩
  | offer offering =>
    have running : state.intake ≠ .exited := by
      rw [offering]
      exact Intake.noConfusion
    refine ⟨fun _ call => ?_, Intake.noConfusion⟩
    rw [prompt running call, not_late_offer]
  | _ => exact ⟨fun running call => prompt running call, fun exited call => stranded exited call⟩

theorem results_step {seen : List Observation} (sound : Sound dispatcher state seen)
    (moved : Move dispatcher state next observation) {name : String} {call : Nat} {event : Event} {delivered_ : Bool}
    (member : Observation.onResult name call event delivered_ ∈ seen ++ observation.toList) :
    eventOf next.calls call = some event ∧ ∃ channel : Channel, channel.name = name := by
  rcases List.mem_append.mp member with old | new
  · exact ⟨eventOf_step moved (sound.results old).1, (sound.results old).2⟩
  · cases moved with
    | @result index lane job _ stands busy =>
      cases List.mem_singleton.mp new
      exact ⟨(sound.wired.jobs lane (List.mem_of_getElem? stands) job (by simp [laneJobs, busy])).1, lane.channel, rfl⟩
    | @offer draining at_ event' settings channel rest offering =>
      obtain shown | ⟨_, _, shown⟩ := offer_shows dispatcher state.lanes channel settings at_ event'
      · rw [shown] at new
        cases new
      · rw [shown] at new
        cases List.mem_singleton.mp new
    | silent _ _ | queue _ _ | late _ _ | full _ | unavailable _ | fanOut _ _ => cases List.mem_singleton.mp new
    | _ => cases new

theorem stream_handed {seen : List Observation} {lanes : List Lane} {after : List Lane × Option Observation} {key name : String}
    {call : Nat} (handed : Handed lanes after key name call) (other : String) :
    (after.2 = none ∧ (seen ++ after.2.toList).filterMap (delivered other) ++ waiting after.1 other =
        seen.filterMap (delivered other) ++ waiting lanes other ++ if key = other then [call] else []) ∨
      ∃ reason, (reason = .laneFull ∨ reason = .laneLimit) ∧ after.2 = some (.dropped reason name call) ∧
        (seen ++ after.2.toList).filterMap (delivered other) ++ waiting after.1 other =
          seen.filterMap (delivered other) ++ waiting lanes other := by
  rcases handed with ⟨shown, waits⟩ | ⟨reason, which, shown, waits⟩
  · refine .inl ⟨shown, ?_⟩
    rw [shown, waits other, Option.toList_none, List.append_nil, List.append_assoc]
  · refine .inr ⟨reason, which, shown, ?_⟩
    have quiet : [Observation.dropped reason name call].filterMap (delivered other) = [] := rfl
    rw [shown, waits other, Option.toList_some, List.filterMap_append, quiet, List.append_nil]

theorem shared_step {seen : List Observation} (sound : Sound dispatcher state seen)
    (moved : Move dispatcher state next observation) : Shared dispatcher next (seen ++ observation.toList) := by
  intro call tenant fits channel
  have before := sound.shared call tenant (fun event owned => fits event (eventOf_step moved owned)) channel
  have wired := sound.wired
  have current := sound.current
  cases moved with
  | @offer draining at_ event settings offered rest offering =>
    rw [offering] at before current
    by_cases off : offered.configured (sectionOf settings offered.name) = false
    · have skipped : chosen settings channel.name offered = false := by simp [chosen, off]
      rw [offer_off off]
      simpa [stream, toOffer, List.countP_cons, skipped] using before
    · have on := Bool.eq_true_of_not_eq_false off
      have handed := (@offer_on dispatcher _ _ wired offered settings _ _ current on).2
      -- The keys are those of one tenant, so that they agree where the names do.
      have picked : chosen settings channel.name offered = decide (offered.name = channel.name) := by simp [chosen, on]
      have keys : at_ = call → (laneKey event.tenantId offered.name = laneKey tenant channel.name ↔ offered.name = channel.name) := by
        rintro rfl
        rw [fits event current]
        exact ⟨fun same => (laneKey_inj same).2, fun same => by rw [same]⟩
      have rest_ : toOffer call channel.name (.offering draining at_ event settings (offered :: rest)) =
          toOffer call channel.name (.offering draining at_ event settings rest) +
            if at_ = call ∧ offered.name = channel.name then 1 else 0 := by
        by_cases same : at_ = call
        · simp [toOffer, same, List.countP_cons, picked]
        · simp [toOffer, same]
      rw [rest_] at before
      obtain ⟨shown, kept⟩ | ⟨reason, which, shown, kept⟩ :=
        @stream_handed seen _ _ _ _ _ handed (laneKey tenant channel.name)
      · simp only [stream] at before ⊢
        rw [kept, shown, Option.toList_none, List.append_nil, List.count_append]
        have added : (if laneKey event.tenantId offered.name = laneKey tenant channel.name then [at_] else []).count call =
            if at_ = call ∧ offered.name = channel.name then 1 else 0 := by
          by_cases same : at_ = call
          · simp only [keys same, same, true_and]
            by_cases name : offered.name = channel.name <;> simp [name]
          · by_cases key : laneKey event.tenantId offered.name = laneKey tenant channel.name <;> simp [key, same]
        omega
      · simp only [stream] at before ⊢
        rw [kept, shown, Option.toList_some, List.countP_append, due_append]
        have counted : [Observation.dropped reason offered.name at_].countP (droppedByLane call channel.name) =
            if at_ = call ∧ offered.name = channel.name then 1 else 0 := by
          rcases which with rfl | rfl <;> simp [droppedByLane, and_comm]
        have none_ : due dispatcher [Observation.dropped reason offered.name at_] call channel.name = 0 := rfl
        omega
  | @take index lane job rest stands idle waits =>
    simpa [stream, stream_take wired.keys stands idle waits] using before
  | @result index lane job delivered_ stands busy =>
    have kept := @stream_result _ seen _ wired _ _ _ stands busy delivered_
    simp only [stream] at before ⊢
    rw [Option.toList_some, kept, List.countP_append, due_append]
    exact before
  | @fanOut draining at_ event settings reading =>
    rw [reading] at before
    simp only [stream] at before ⊢
    have quiet : [Observation.fannedOut at_ settings].filterMap (delivered (laneKey tenant channel.name)) = [] := rfl
    rw [Option.toList_some, List.filterMap_append, quiet, List.append_nil, List.countP_append, due_append]
    simp only [toOffer, due, share, List.map_cons, List.map_nil, List.sum_cons, List.sum_nil, List.countP_singleton,
      droppedByLane, Bool.false_eq_true, if_false] at before ⊢
    omega
  | offered offering =>
    rw [offering] at before
    simpa [stream, toOffer] using before
  | receive selecting _ | drain selecting | exit selecting _ =>
    rw [selecting] at before
    simpa [stream, toOffer] using before
  | unavailable reading =>
    rw [reading] at before
    simpa [stream, List.filterMap_cons, delivered, droppedByLane, due, share, toOffer] using before
  | silent _ _ | queue _ _ | late _ _ | full _ =>
    simpa [stream, List.filterMap_cons, delivered, droppedByLane, due, share] using before
  | _ => simpa [stream] using before

theorem sound_step {seen : List Observation} (sound : Sound dispatcher state seen)
    (moved : Move dispatcher state next observation) : Sound dispatcher next (seen ++ observation.toList) where
  wired := wired_step sound moved
  queued := (current_step sound moved).2
  current := (current_step sound moved).1
  places := places_step sound moved
  prompt := (late_step sound moved).1
  stranded := (late_step sound moved).2
  results := results_step sound moved
  shared := shared_step sound moved

/-! ## Order -/

def queuedCall : Observation → Option Nat
  | .queued call _ => some call
  | _ => none

/-- The calls whose events went through the intake queue, in order. -/
def entered (seen : List Observation) : List Nat := seen.filterMap queuedCall

/-- The event at hand is the last one taken off the queue. -/
def AtHand (handled : List Nat) : Intake → Prop
  | .reading _ call _ => ∃ earlier, handled = earlier ++ [call]
  | .offering _ call _ _ _ => ∃ earlier, handled = earlier ++ [call]
  | _ => True

/-- `handled` has been taken off the queue: the queue holds what entered after it, and each
stream runs through `handled` forwards. -/
structure Ordered (state : State) (seen : List Observation) (handled : List Nat) : Prop where
  running : state.intake ≠ .exited → entered seen = handled ++ state.queue.map Prod.fst
  exited : state.intake = .exited → entered seen = handled
  distinct : (entered seen).Nodup
  returned : ∀ call ∈ entered seen, ∃ event, state.calls[call]? = some ⟨event, .returned⟩
  atHand : AtHand handled state.intake
  streams : ∀ key, (∀ call ∈ stream state seen key, call ∈ handled) ∧
    ((stream state seen key).map handled.idxOf).Pairwise (· ≤ ·)

theorem ordered_initial : Ordered State.initial [] [] where
  running _ := rfl
  exited _ := rfl
  distinct := List.nodup_nil
  returned _ member := absurd member List.not_mem_nil
  atHand := trivial
  streams _ := ⟨fun _ member => absurd member List.not_mem_nil, List.Pairwise.nil⟩

/-- What a step does to the streams. -/
theorem streams_step {seen : List Observation} (sound : Sound dispatcher state seen)
    (moved : Move dispatcher state next observation) (key : String) :
    stream next (seen ++ observation.toList) key = stream state seen key ∨
      ∃ draining call event settings rest, state.intake = .offering draining call event settings rest ∧
        stream next (seen ++ observation.toList) key = stream state seen key ++ [call] := by
  have wired := sound.wired
  have current := sound.current
  cases moved with
  | @offer draining call event settings offered rest offering =>
    rw [offering] at current
    by_cases off : offered.configured (sectionOf settings offered.name) = false
    · rw [offer_off off]
      exact .inl (stream_quiet rfl (fun _ => rfl) key)
    · have handed := (@offer_on dispatcher _ _ wired offered settings _ _ current (Bool.eq_true_of_not_eq_false off)).2
      obtain ⟨_, kept⟩ | ⟨_, _, _, kept⟩ := @stream_handed seen _ _ _ _ _ handed key
      · by_cases here : laneKey event.tenantId offered.name = key
        · rw [if_pos here] at kept
          exact .inr ⟨draining, call, event, settings, offered :: rest, offering, kept⟩
        · rw [if_neg here, List.append_nil] at kept
          exact .inl kept
      · exact .inl kept
  | take stands idle waits =>
    left
    rw [Option.toList_none, List.append_nil]
    exact stream_take wired.keys stands idle waits key
  | result delivered_ stands busy => exact .inl (stream_result wired stands busy delivered_ key)
  | _ => exact .inl (stream_quiet rfl (fun _ => rfl) key)

/-- A stream that runs forwards still does when more has been taken off the queue, and when the event
at hand is added to it. -/
theorem forwards_append {handled extra calls : List Nat} (within : ∀ call ∈ calls, call ∈ handled)
    (forwards : (calls.map handled.idxOf).Pairwise (· ≤ ·)) :
    (∀ call ∈ calls, call ∈ handled ++ extra) ∧ (calls.map (handled ++ extra).idxOf).Pairwise (· ≤ ·) := by
  refine ⟨fun call member => List.mem_append_left _ (within call member), ?_⟩
  have same : calls.map (handled ++ extra).idxOf = calls.map handled.idxOf :=
    List.map_congr_left fun call member => List.idxOf_append_of_mem (within call member)
  rwa [same]

theorem forwards_snoc {earlier calls : List Nat} {call : Nat} (distinct : (earlier ++ [call]).Nodup)
    (within : ∀ other ∈ calls, other ∈ earlier ++ [call])
    (forwards : (calls.map (earlier ++ [call]).idxOf).Pairwise (· ≤ ·)) :
    (∀ other ∈ calls ++ [call], other ∈ earlier ++ [call]) ∧
      ((calls ++ [call]).map (earlier ++ [call]).idxOf).Pairwise (· ≤ ·) := by
  have new : call ∉ earlier := fun member =>
    (List.nodup_append.mp distinct).2.2 call member call (List.mem_singleton.mpr rfl) rfl
  have last : (earlier ++ [call]).idxOf call = earlier.length := by
    rw [List.idxOf_append_of_notMem new, List.idxOf_cons_self, Nat.add_zero]
  refine ⟨fun other member => ?_, ?_⟩
  · rcases List.mem_append.mp member with old | here
    · exact within other old
    · exact List.mem_append_right _ here
  · rw [List.map_append, List.pairwise_append]
    refine ⟨forwards, List.pairwise_singleton _ _, fun a inOld b inNew => ?_⟩
    obtain ⟨other, member, rfl⟩ := List.mem_map.mp inOld
    rw [List.mem_singleton.mp inNew]
    show _ ≤ (earlier ++ [call]).idxOf call
    rw [last]
    have inside := List.idxOf_lt_length_of_mem (within other member)
    rw [List.length_append, List.length_singleton] at inside
    omega

theorem Ordered.handled_distinct {seen : List Observation} {handled : List Nat} (ordered : Ordered state seen handled) :
    handled.Nodup := by
  by_cases running : state.intake ≠ .exited
  · have distinct := ordered.distinct
    rw [ordered.running running] at distinct
    exact (List.nodup_append.mp distinct).1
  · rw [← ordered.exited (not_not.mp running)]
    exact ordered.distinct

theorem streams_ordered {seen : List Observation} {handled : List Nat} (sound : Sound dispatcher state seen)
    (ordered : Ordered state seen handled) (moved : Move dispatcher state next observation) (key : String) :
    (∀ call ∈ stream next (seen ++ observation.toList) key, call ∈ handled) ∧
      ((stream next (seen ++ observation.toList) key).map handled.idxOf).Pairwise (· ≤ ·) := by
  rcases streams_step sound moved key with same | ⟨draining, call, event, settings, rest, offering, added⟩
  · rw [same]
    exact ordered.streams key
  · have atHand := ordered.atHand
    have distinct := ordered.handled_distinct
    rw [offering] at atHand
    obtain ⟨earlier, rfl⟩ := atHand
    rw [added]
    exact forwards_snoc distinct (ordered.streams key).1 (ordered.streams key).2

theorem entered_append (seen more : List Observation) : entered (seen ++ more) = entered seen ++ entered more :=
  List.filterMap_append

theorem returned_set {calls : List Call} {at_ call : Nat} {event event' : Event} {stage stage' : Stage}
    (stands : calls[at_]? = some ⟨event, stage⟩) (notReturned : stage ≠ .returned)
    (returned : ∃ event, calls[call]? = some ⟨event, .returned⟩) :
    ∃ event, (calls.set at_ ⟨event', stage'⟩)[call]? = some ⟨event, .returned⟩ := by
  obtain ⟨found, there⟩ := returned
  have other : at_ ≠ call := by
    rintro rfl
    rw [stands] at there
    cases there
    exact notReturned rfl
  exact ⟨found, by rw [List.getElem?_set_ne other, there]⟩

/-- A step that queues nothing and takes nothing off the queue. -/
theorem Ordered.kept {seen : List Observation} {handled : List Nat} (ordered : Ordered state seen handled)
    (quiet : entered observation.toList = []) (queue : next.queue = state.queue)
    (exits : next.intake = .exited ↔ state.intake = .exited) (atHand : AtHand handled next.intake)
    (returned : ∀ call ∈ entered seen, ∃ event, next.calls[call]? = some ⟨event, .returned⟩)
    (streams : ∀ key, (∀ call ∈ stream next (seen ++ observation.toList) key, call ∈ handled) ∧
      ((stream next (seen ++ observation.toList) key).map handled.idxOf).Pairwise (· ≤ ·)) :
    Ordered next (seen ++ observation.toList) handled := by
  have same : entered (seen ++ observation.toList) = entered seen := by
    rw [entered_append, quiet, List.append_nil]
  refine ⟨fun running => ?_, fun exited => ?_, ?_, fun call member => ?_, atHand, streams⟩
  · rw [same, queue]
    exact ordered.running fun exited => running (exits.mpr exited)
  · rw [same]
    exact ordered.exited (exits.mp exited)
  · rw [same]
    exact ordered.distinct
  · rw [same] at member
    exact returned call member

theorem entered_offer (lanes : List Lane) (channel : Channel) (settings : Settings) (at_ : Nat) (event : Event) :
    entered (offer dispatcher lanes channel settings at_ event).2.toList = [] := by
  obtain shown | ⟨_, _, shown⟩ := offer_shows dispatcher lanes channel settings at_ event
  · rw [shown]
    rfl
  · rw [shown]
    rfl

theorem ordered_step {seen : List Observation} {handled : List Nat} (sound : Sound dispatcher state seen)
    (ordered : Ordered state seen handled) (moved : Move dispatcher state next observation) :
    ∃ handled, Ordered next (seen ++ observation.toList) handled := by
  have streams := streams_ordered sound ordered moved
  have atHand := ordered.atHand
  cases moved with
  | notify event =>
    refine ⟨handled, ordered.kept rfl rfl Iff.rfl atHand (fun call member => ?_) streams⟩
    obtain ⟨found, there⟩ := ordered.returned call member
    exact ⟨found, by rw [List.getElem?_append_left (List.getElem?_eq_some_iff.mp there).1, there]⟩
  | silent stands _ | pass stands =>
    exact ⟨handled, ordered.kept rfl rfl Iff.rfl atHand
      (fun call member => returned_set stands Stage.noConfusion (ordered.returned call member)) streams⟩
  | full stands =>
    exact ⟨handled, ordered.kept rfl rfl Iff.rfl atHand
      (fun call member => returned_set stands Stage.noConfusion (ordered.returned call member)) streams⟩
  | @queue at_ event stands running =>
    have new : at_ ∉ entered seen := by
      intro member
      obtain ⟨found, there⟩ := ordered.returned at_ member
      rw [stands] at there
      cases there
    have grown : entered (seen ++ [Observation.queued at_ event]) = entered seen ++ [at_] := entered_append _ _
    refine ⟨handled, fun _ => ?_, fun exited => absurd exited running, ?_, fun call member => ?_, atHand, streams⟩
    · rw [Option.toList_some, grown, ordered.running running, List.map_append, List.append_assoc]
      rfl
    · rw [Option.toList_some, grown]
      exact List.nodup_append.mpr ⟨ordered.distinct, List.nodup_singleton _, fun a inOld b inNew same =>
        new (List.mem_singleton.mp inNew ▸ same ▸ inOld)⟩
    · rw [Option.toList_some, grown] at member
      rcases List.mem_append.mp member with old | here
      · exact returned_set stands Stage.noConfusion (ordered.returned call old)
      · rw [List.mem_singleton.mp here]
        exact ⟨event, List.getElem?_set_self (List.getElem?_eq_some_iff.mp stands).1⟩
  | @late at_ event stands exited =>
    have same : entered (seen ++ [Observation.late at_ event]) = entered seen := by
      rw [entered_append]
      exact List.append_nil _
    refine ⟨handled, fun running => absurd exited running, fun _ => ?_, ?_, fun call member => ?_, atHand, streams⟩
    · rw [Option.toList_some, same]
      exact ordered.exited exited
    · rw [Option.toList_some, same]
      exact ordered.distinct
    · rw [Option.toList_some, same] at member
      exact returned_set stands Stage.noConfusion (ordered.returned call member)
  | @receive draining call event rest selecting waits =>
    have running : state.intake ≠ .exited := by
      rw [selecting]
      exact Intake.noConfusion
    have shape := ordered.running running
    rw [waits, List.map_cons] at shape
    have kept (key : String) := @forwards_append handled [call] _ (streams key).1 (streams key).2
    refine ⟨handled ++ [call], fun _ => ?_, fun exited => Intake.noConfusion exited, ?_, ?_, ⟨handled, rfl⟩, kept⟩
    · rw [Option.toList_none, List.append_nil, shape, List.append_assoc]
      rfl
    · simpa using ordered.distinct
    · simpa using ordered.returned
  | @exit selecting drained =>
    have running : state.intake ≠ .exited := by
      rw [selecting]
      exact Intake.noConfusion
    have shape := ordered.running running
    rw [drained, List.map_nil, List.append_nil] at shape
    refine ⟨handled, fun not_ => absurd rfl not_, fun _ => ?_, ?_, ?_, trivial, streams⟩
    · simpa using shape
    · simpa using ordered.distinct
    · simpa using ordered.returned
  | drain selecting | unavailable selecting | offered selecting =>
    exact ⟨handled, ordered.kept rfl rfl (by simp [selecting]) trivial ordered.returned streams⟩
  | fanOut settings reading =>
    rw [reading] at atHand
    exact ⟨handled, ordered.kept rfl rfl (by simp [reading]) atHand ordered.returned streams⟩
  | @offer _ at_ event settings channel rest offering =>
    rw [offering] at atHand
    exact ⟨handled, ordered.kept (entered_offer _ _ _ _ _) rfl (by simp [offering]) atHand ordered.returned streams⟩
  | _ => exact ⟨handled, ordered.kept rfl rfl Iff.rfl atHand ordered.returned streams⟩

/-! ## Runs -/

theorem run_cons {steps : List Step} {seen : List Observation} {last : State}
    (ran : state.run dispatcher (step :: steps) = some (last, seen)) :
    ∃ middle observation later, Move dispatcher state middle observation ∧
      middle.run dispatcher steps = some (last, later) ∧ seen = observation.toList ++ later := by
  rw [State.run] at ran
  cases stepped : state.step dispatcher step with
  | none =>
    rw [stepped] at ran
    cases ran
  | some reached =>
    obtain ⟨middle, observation⟩ := reached
    simp only [stepped] at ran
    cases rest : middle.run dispatcher steps with
    | none =>
      rw [rest] at ran
      cases ran
    | some done =>
      obtain ⟨final, later⟩ := done
      simp only [rest, Option.some.injEq, Prod.mk.injEq] at ran
      obtain ⟨rfl, rfl⟩ := ran
      exact ⟨middle, observation, later, move_of_step stepped, rest, rfl⟩

theorem sound_run {steps : List Step} : ∀ {state last : State} {past seen : List Observation} {handled : List Nat},
    Sound dispatcher state past → Ordered state past handled → state.run dispatcher steps = some (last, seen) →
      Sound dispatcher last (past ++ seen) ∧ ∃ handled, Ordered last (past ++ seen) handled := by
  induction steps with
  | nil =>
    intro state last past seen handled sound ordered ran
    cases ran
    rw [List.append_nil]
    exact ⟨sound, handled, ordered⟩
  | cons step steps ih =>
    intro state last past seen handled sound ordered ran
    obtain ⟨middle, observation, later, moved, rest, rfl⟩ := run_cons ran
    obtain ⟨handled', ordered'⟩ := ordered_step sound ordered moved
    rw [← List.append_assoc]
    exact ih (sound_step sound moved) ordered' rest

/-! ## Accounts -/

/-- The call is still in `Notify`, or its event on its way: in the intake queue that `run` reads,
at the fan-out, or in a lane. -/
def Underway (state : State) (call : Nat) : Prop :=
  active state.calls[call]? ≠ 0 ∨
    (state.intake ≠ .exited ∧ ∃ item ∈ state.queue, item.1 = call) ∨
    readingCount call state.intake ≠ 0 ∨ (∃ draining event settings rest, state.intake = .offering draining call event settings rest) ∨
    ∃ lane ∈ state.lanes, ∃ job ∈ laneJobs lane, job.call = call

def isResult (call : Nat) (name : String) : Observation → Bool
  | .onResult channel at_ _ _ => channel = name && at_ = call
  | _ => false

/-- The results a channel gave for an event, and the drops of its lane. -/
def outcomes (seen : List Observation) (call : Nat) (name : String) : Nat :=
  seen.countP (isResult call name) + seen.countP (droppedByLane call name)

/-- Counted once as dropped, or fanned out with an outcome for every channel configured. -/
def Accounted (dispatcher : Dispatcher) (seen : List Observation) (call : Nat) : Prop :=
  (seen.countP (droppedAtIntake call) = 1 ∧ ∀ channel ∈ dispatcher.channels, outcomes seen call channel.name = 0) ∨
    (seen.countP (droppedAtIntake call) = 0 ∧ ∃ settings, Observation.fannedOut call settings ∈ seen ∧
      ∀ channel ∈ dispatcher.channels,
        outcomes seen call channel.name = dispatcher.channels.countP (chosen settings channel.name))

/-- The results of a channel for a tenant. -/
def resultsOf (tenant name : String) : Observation → Option Nat
  | .onResult channel call event _ => if event.tenantId = tenant ∧ channel = name then some call else none
  | _ => none

theorem count_stream {seen : List Observation} (sound : Sound dispatcher state seen) {call : Nat}
    (settled : ∀ lane ∈ state.lanes, ∀ job ∈ laneJobs lane, job.call ≠ call) {tenant : String}
    (fits : ∀ event, eventOf state.calls call = some event → event.tenantId = tenant) (channel : Channel) :
    (stream state seen (laneKey tenant channel.name)).count call = seen.countP (isResult call channel.name) := by
  have none_ : call ∉ waiting state.lanes (laneKey tenant channel.name) := by
    intro member
    obtain ⟨lane, inLanes, here⟩ := List.mem_flatMap.mp member
    by_cases key : lane.key = laneKey tenant channel.name
    · rw [if_pos key] at here
      obtain ⟨job, inside, same⟩ := List.mem_map.mp here
      exact settled lane inLanes job inside same
    · rw [if_neg key] at here
      cases here
  rw [stream, List.count_append, List.count_eq_zero.mpr none_, Nat.add_zero, List.count_filterMap]
  refine List.countP_congr fun observation member => ?_
  cases observation with
  | onResult name at_ event delivered_ =>
    obtain ⟨owned, other, rfl⟩ := sound.results member
    by_cases same : at_ = call
    · subst same
      rw [← fits event owned]
      by_cases key : laneKey event.tenantId other.name = laneKey event.tenantId channel.name
      · simp [delivered, isResult, (laneKey_inj key).2]
      · have differ : other.name ≠ channel.name := fun names => key (by rw [names])
        simp [delivered, isResult, key, differ]
    · by_cases key : laneKey event.tenantId other.name = laneKey tenant channel.name <;>
        simp [delivered, isResult, key, same]
  | _ => simp [delivered, isResult]

/-- Once nothing of an event is on its way, its outcomes are what its fan-out owed. -/
theorem outcomes_eq_due {seen : List Observation} (sound : Sound dispatcher state seen) {call : Nat}
    (settled : ¬Underway state call) (channel : Channel) :
    outcomes seen call channel.name = due dispatcher seen call channel.name := by
  have lanes : ∀ lane ∈ state.lanes, ∀ job ∈ laneJobs lane, job.call ≠ call := fun lane inLanes job inside same =>
    settled (.inr (.inr (.inr (.inr ⟨lane, inLanes, job, inside, same⟩))))
  have offered : toOffer call channel.name state.intake = 0 := by
    cases intake : state.intake with
    | offering draining at_ event settings rest =>
      by_cases same : at_ = call
      · subst same
        exact absurd (.inr (.inr (.inr (.inl ⟨draining, event, settings, rest, intake⟩)))) settled
      · exact if_neg same
    | _ => rfl
  have tenants : ∃ tenant, ∀ event, eventOf state.calls call = some event → event.tenantId = tenant := by
    cases found : eventOf state.calls call with
    | none => exact ⟨"", fun event same => by cases same⟩
    | some event => exact ⟨event.tenantId, fun other same => by cases same; rfl⟩
  obtain ⟨tenant, fits⟩ := tenants
  have shares := sound.shared call tenant fits channel
  rw [count_stream sound lanes fits channel, offered] at shares
  exact shares

theorem due_of_not_fanned {seen : List Observation} {call : Nat} (none_ : seen.countP (fanned call) = 0) (name : String) :
    due dispatcher seen call name = 0 := by
  refine List.sum_eq_zero fun value member => ?_
  obtain ⟨observation, inSeen, rfl⟩ := List.mem_map.mp member
  have quiet := List.countP_eq_zero.mp none_ observation inSeen
  cases observation with
  | fannedOut at_ settings =>
    refine if_neg fun same => quiet ?_
    simpa [fanned] using same
  | _ => rfl

theorem due_of_fanned {seen : List Observation} {call : Nat} {settings : Settings} (once : seen.countP (fanned call) = 1)
    (member : Observation.fannedOut call settings ∈ seen) (name : String) :
    due dispatcher seen call name = dispatcher.channels.countP (chosen settings name) := by
  obtain ⟨front, back, rfl⟩ := List.append_of_mem member
  have here : fanned call (.fannedOut call settings) = true := decide_eq_true rfl
  rw [List.countP_append, List.countP_cons_of_pos here] at once
  have before : due dispatcher front call name = 0 := due_of_not_fanned (by omega) name
  have after : due dispatcher back call name = 0 := due_of_not_fanned (by omega) name
  have split : due dispatcher (.fannedOut call settings :: back) call name =
      share dispatcher call name (.fannedOut call settings) + due dispatcher back call name := List.sum_cons
  rw [due_append, before, split, after, Nat.zero_add, Nat.add_zero]
  exact if_pos rfl

/-- The call found the dispatcher running, and queued its event, if at all, while `run` was there to read it. -/
def InTime (seen : List Observation) (call : Nat) : Prop :=
  ∀ observation ∈ seen, isSilent call observation = false ∧ isLate call observation = false

theorem inTime_iff {seen : List Observation} {call : Nat} :
    InTime seen call ↔ seen.countP (isSilent call) = 0 ∧ seen.countP (isLate call) = 0 := by
  rw [List.countP_eq_zero, List.countP_eq_zero]
  constructor
  · exact fun inTime => ⟨fun observation member => by simp [(inTime observation member).1],
      fun observation member => by simp [(inTime observation member).2]⟩
  · exact fun ⟨silent, late⟩ observation member =>
      ⟨Bool.eq_false_of_not_eq_true (silent observation member), Bool.eq_false_of_not_eq_true (late observation member)⟩

/-- Once nothing of the event is on its way, it is stranded in the queue or has left the early places. -/
theorem left_of_settled {seen : List Observation} (sound : Sound dispatcher state seen) {call : Nat}
    (known : call < state.calls.length) (settled : ¬Underway state call) :
    left call seen + seen.countP (isLate call) = 1 := by
  have places := sound.places call
  have idle : active state.calls[call]? = 0 := by_contra fun busy => settled (.inl busy)
  have read : readingCount call state.intake = 0 := by_contra fun busy => settled (.inr (.inr (.inl busy)))
  have queued : state.queue.countP (fun item => item.1 = call) = seen.countP (isLate call) := by
    by_cases exited : state.intake = .exited
    · exact sound.stranded exited call
    · rw [sound.prompt exited call, List.countP_eq_zero]
      intro item member same
      exact settled (.inr (.inl ⟨exited, item, member, of_decide_eq_true same⟩))
  rw [if_pos known, early, idle, read, queued] at places
  omega

theorem accounted_of_inTime {seen : List Observation} (sound : Sound dispatcher state seen) {call : Nat}
    (known : call < state.calls.length) (settled : ¬Underway state call) (inTime : InTime seen call) :
    Accounted dispatcher seen call := by
  obtain ⟨silent, late⟩ := inTime_iff.mp inTime
  have leaves := left_of_settled sound known settled
  rw [left, silent, late] at leaves
  by_cases fan : seen.countP (fanned call) = 0
  · refine .inl ⟨by omega, fun channel _ => ?_⟩
    rw [outcomes_eq_due sound settled channel]
    exact due_of_not_fanned fan channel.name
  · obtain ⟨observation, member, shape⟩ := List.countP_pos_iff.mp (Nat.pos_of_ne_zero fan)
    cases observation with
    | fannedOut at_ settings =>
      obtain rfl : at_ = call := of_decide_eq_true shape
      refine .inr ⟨by omega, settings, member, fun channel _ => ?_⟩
      rw [outcomes_eq_due sound settled channel]
      exact due_of_fanned (by omega) member channel.name
    | _ => cases shape

theorem inTime_of_accounted {seen : List Observation} (sound : Sound dispatcher state seen) {call : Nat}
    (known : call < state.calls.length) (settled : ¬Underway state call) (accounted : Accounted dispatcher seen call) :
    InTime seen call := by
  have leaves := left_of_settled sound known settled
  rw [left] at leaves
  refine inTime_iff.mpr ?_
  rcases accounted with ⟨once, _⟩ | ⟨_, settings, member, _⟩
  · omega
  · have fan : 0 < seen.countP (fanned call) := List.countP_pos_iff.mpr ⟨_, member, decide_eq_true rfl⟩
    omega

theorem resultsOf_sublist (tenant name : String) (seen : List Observation) :
    (seen.filterMap (resultsOf tenant name)).Sublist (seen.filterMap (delivered (laneKey tenant name))) := by
  induction seen with
  | nil => exact .slnil
  | cons observation rest ih =>
    cases shown : resultsOf tenant name observation with
    | none =>
      rw [List.filterMap_cons_none shown]
      cases delivers : delivered (laneKey tenant name) observation with
      | none => rwa [List.filterMap_cons_none delivers]
      | some call =>
        rw [List.filterMap_cons_some delivers]
        exact ih.cons _
    | some call =>
      have delivers : delivered (laneKey tenant name) observation = some call := by
        cases observation with
        | onResult channel at_ event delivered_ =>
          by_cases same : event.tenantId = tenant ∧ channel = name
          · simp only [resultsOf, if_pos same] at shown
            rw [delivered, same.1, same.2, if_pos rfl, shown]
          · simp only [resultsOf, if_neg same] at shown
            cases shown
        | _ => cases shown
      rw [List.filterMap_cons_some shown, List.filterMap_cons_some delivers]
      exact ih.cons_cons _

theorem results_in_order {seen : List Observation} {handled : List Nat} (ordered : Ordered state seen handled)
    (tenant name : String) :
    ((seen.filterMap (resultsOf tenant name)).map (entered seen).idxOf).Pairwise (· ≤ ·) := by
  have extends_ : ∃ extra, entered seen = handled ++ extra := by
    by_cases exited : state.intake = .exited
    · exact ⟨[], by rw [ordered.exited exited, List.append_nil]⟩
    · exact ⟨_, ordered.running exited⟩
  obtain ⟨extra, shape⟩ := extends_
  obtain ⟨within, forwards⟩ := ordered.streams (laneKey tenant name)
  have all := (@forwards_append _ extra _ within forwards).2
  rw [← shape, stream, List.map_append] at all
  exact (List.pairwise_append.mp all).1.sublist ((resultsOf_sublist tenant name seen).map _)

/-- In every run, an event of which nothing is on its way any more is accounted for exactly when its
call came in time, and the results of a channel for a tenant are in the order of the intake queue. -/
theorem notifications_accounted_iff {steps : List Step} {seen : List Observation}
    (ran : State.initial.run dispatcher steps = some (state, seen)) :
    (∀ call < state.calls.length, ¬Underway state call → (Accounted dispatcher seen call ↔ InTime seen call)) ∧
      ∀ tenant name, ((seen.filterMap (resultsOf tenant name)).map (entered seen).idxOf).Pairwise (· ≤ ·) := by
  obtain ⟨sound, handled, ordered⟩ := sound_run (sound_initial dispatcher) ordered_initial ran
  rw [List.nil_append] at sound ordered
  exact ⟨fun call known settled => ⟨inTime_of_accounted sound known settled, accounted_of_inTime sound known settled⟩,
    results_in_order ordered⟩

/-! ## Nothing stays on its way -/

def callWork (channels : Nat) (call : Call) : Nat :=
  match call.stage with
  | .entered => 3 * channels + 5
  | .passed => 3 * channels + 4
  | .returned => 0

def intakeWork (channels : Nat) : Intake → Nat
  | .reading _ _ _ => 3 * channels + 2
  | .offering _ _ _ _ rest => 3 * rest.length + 1
  | _ => 0

def laneWork (lane : Lane) : Nat := 2 * lane.queue.length + lane.busy.toList.length

/-- The steps that are left for the events on their way, at most. -/
def work (dispatcher : Dispatcher) (state : State) : Nat :=
  (state.calls.map (callWork dispatcher.channels.length)).sum +
    (3 * dispatcher.channels.length + 3) * state.queue.length +
    intakeWork dispatcher.channels.length state.intake + (state.lanes.map laneWork).sum

theorem sum_set {α : Type} (weight : α → Nat) {items : List α} {index : Nat} {old : α} (stands : items[index]? = some old)
    (new : α) : ((items.set index new).map weight).sum + weight old = (items.map weight).sum + weight new := by
  obtain ⟨inside, here⟩ := List.getElem?_eq_some_iff.mp stands
  have shape : items = items.take index ++ old :: items.drop (index + 1) := by
    rw [← here, ← List.drop_eq_getElem_cons, List.take_append_drop]
  rw [List.set_eq_take_append_cons_drop, if_pos inside]
  conv_rhs => rw [shape]
  simp only [List.map_append, List.map_cons, List.sum_append, List.sum_cons]
  omega

theorem sendJob_work (lanes : List Lane) (index : Nat) (channel : Channel) (job : Job) :
    ((sendJob dispatcher lanes index channel job).1.map laneWork).sum ≤ (lanes.map laneWork).sum + 2 := by
  unfold sendJob
  cases stands : lanes[index]? with
  | none => exact Nat.le_add_right _ _
  | some lane =>
    by_cases room : lane.queue.length < dispatcher.laneDepth
    · simp only [if_pos room]
      have sums := sum_set laneWork stands { lane with queue := lane.queue ++ [job] }
      have grown : laneWork { lane with queue := lane.queue ++ [job] } = laneWork lane + 2 := by
        simp only [laneWork, List.length_append, List.length_singleton]
        omega
      omega
    · simp only [if_neg room]
      exact Nat.le_add_right _ _

theorem offer_work (lanes : List Lane) (channel : Channel) (settings : Settings) (call : Nat) (event : Event) :
    ((offer dispatcher lanes channel settings call event).1.map laneWork).sum ≤ (lanes.map laneWork).sum + 2 := by
  unfold offer
  dsimp only
  split
  · exact Nat.le_add_right _ _
  · split
    · exact sendJob_work _ _ _ _
    · split
      · exact Nat.le_add_right _ _
      · refine Nat.le_trans (sendJob_work _ _ _ _) (Nat.le_of_eq ?_)
        rw [List.map_append, List.sum_append]
        rfl

/-- Some goroutine has a step that leaves less to do. -/
def Advances (dispatcher : Dispatcher) (state : State) : Prop :=
  ∃ step next observation, state.step dispatcher step = some (next, observation) ∧ work dispatcher next < work dispatcher state

theorem reading_advances {draining : Bool} {call : Nat} {event : Event}
    (reading : state.intake = .reading draining call event) : Advances dispatcher state := by
  refine ⟨.settings none, { state with intake := .selecting draining }, some (.dropped .noSettings "" call), ?_, ?_⟩
  · simp only [State.step, reading]
  · simp only [work, reading, intakeWork]
    omega

theorem offering_advances {draining : Bool} {call : Nat} {event : Event} {settings : Settings} {rest : List Channel}
    (offering : state.intake = .offering draining call event settings rest) : Advances dispatcher state := by
  cases rest with
  | nil =>
    refine ⟨.offer, { state with intake := .selecting draining }, none, ?_, ?_⟩
    · simp only [State.step, offering]
    · simp only [work, offering, intakeWork]
      omega
  | cons channel rest =>
    have lanes := @offer_work dispatcher state.lanes channel settings call event
    refine ⟨.offer, { state with
      intake := .offering draining call event settings rest
      lanes := (offer dispatcher state.lanes channel settings call event).1 },
      (offer dispatcher state.lanes channel settings call event).2, ?_, ?_⟩
    · simp only [State.step, offering]
    · simp only [work, offering, intakeWork, List.length_cons]
      omega

/-- The goroutine of `run` goes on while an event waits in the intake queue. -/
theorem waiting_advances {item : Nat × Event} (running : state.intake ≠ .exited) (waiting : item ∈ state.queue) :
    Advances dispatcher state := by
  cases intake : state.intake with
  | exited => exact absurd intake running
  | reading draining call event => exact reading_advances intake
  | offering draining call event settings rest => exact offering_advances intake
  | selecting draining =>
    cases queue : state.queue with
    | nil =>
      rw [queue] at waiting
      cases waiting
    | cons first rest =>
      obtain ⟨call, event⟩ := first
      refine ⟨.receive, { state with intake := .reading draining call event, queue := rest }, none, ?_, ?_⟩
      · simp only [State.step, intake, queue]
      · simp only [work, intake, queue, intakeWork, List.length_cons, Nat.mul_add]
        omega

theorem entered_advances {call : Nat} {event : Event} (stands : state.calls[call]? = some ⟨event, .entered⟩) :
    Advances dispatcher state := by
  by_cases stopping : state.stopping = true
  · refine ⟨.check call, { state with calls := state.calls.set call ⟨event, .returned⟩ }, some (.silent call), ?_, ?_⟩
    · simp only [State.step, stands, stopping, if_true]
    · have sum := sum_set (callWork dispatcher.channels.length) stands ⟨event, .returned⟩
      simp only [callWork] at sum
      simp only [work]
      omega
  · refine ⟨.check call, { state with calls := state.calls.set call ⟨event, .passed⟩ }, none, ?_, ?_⟩
    · simp only [State.step, stands, stopping, if_false, Bool.false_eq_true]
    · have sum := sum_set (callWork dispatcher.channels.length) stands ⟨event, .passed⟩
      simp only [callWork] at sum
      simp only [work]
      omega

/-- `Notify` never waits: a full queue drops the event. -/
theorem passed_advances {call : Nat} {event : Event} (stands : state.calls[call]? = some ⟨event, .passed⟩) :
    Advances dispatcher state := by
  have sum := sum_set (callWork dispatcher.channels.length) stands ⟨event, .returned⟩
  simp only [callWork] at sum
  by_cases room : state.queue.length < dispatcher.depth
  · have sent : ∃ observation, state.step dispatcher (.send call) = some ({ state with
        calls := state.calls.set call ⟨event, .returned⟩, queue := state.queue ++ [(call, event)] }, observation) := by
      simp only [State.step, stands, room, if_true]
      exact ⟨_, rfl⟩
    obtain ⟨observation, sent⟩ := sent
    refine ⟨.send call, _, observation, sent, ?_⟩
    simp only [work, List.length_append, List.length_singleton, Nat.mul_add]
    omega
  · refine ⟨.send call, { state with calls := state.calls.set call ⟨event, .returned⟩ },
      some (.dropped .queueFull "" call), ?_, ?_⟩
    · simp only [State.step, stands, room, if_false]
    · simp only [work]
      omega

/-- A lane with a job sends it, or takes the next one. -/
theorem lane_advances {lane : Lane} {job : Job} (inLanes : lane ∈ state.lanes) (inside : job ∈ laneJobs lane) :
    Advances dispatcher state := by
  obtain ⟨index, stands⟩ := List.mem_iff_getElem?.mp inLanes
  cases busy : lane.busy with
  | some sending =>
    have sum := sum_set laneWork stands { lane with busy := none }
    refine ⟨.result index true, { state with lanes := state.lanes.set index { lane with busy := none } },
      some (.onResult lane.channel.name sending.call sending.event true), ?_, ?_⟩
    · simp only [State.step, stands, busy]
    · simp only [laneWork, busy, Option.toList_some, Option.toList_none, List.length_singleton, List.length_nil] at sum
      simp only [work]
      omega
  | none =>
    cases queue : lane.queue with
    | nil =>
      rw [laneJobs, busy, queue] at inside
      cases inside
    | cons first rest =>
      have sum := sum_set laneWork stands { lane with busy := some first, queue := rest }
      refine ⟨.take index, { state with lanes := state.lanes.set index { lane with busy := some first, queue := rest } },
        none, ?_, ?_⟩
      · simp only [State.step, stands, busy, queue]
      · simp only [laneWork, busy, queue, Option.toList_some, Option.toList_none, List.length_nil,
          List.length_cons] at sum
        simp only [work]
        omega

/-- While an event is on its way, some goroutine can take it a step further. -/
theorem advances {call : Nat} (underway : Underway state call) : Advances dispatcher state := by
  rcases underway with busy | ⟨running, item, member, _⟩ | read | ⟨draining, event, settings, rest, offering⟩ |
    ⟨lane, inLanes, job, inside, _⟩
  · cases stands : state.calls[call]? with
    | none =>
      rw [stands] at busy
      exact absurd rfl busy
    | some found =>
      obtain ⟨event, stage⟩ := found
      cases stage with
      | entered => exact entered_advances stands
      | passed => exact passed_advances stands
      | returned =>
        rw [stands] at busy
        exact absurd rfl busy
  · exact waiting_advances running member
  · cases intake : state.intake with
    | reading draining at_ event => exact reading_advances intake
    | _ =>
      rw [intake] at read
      exact absurd rfl read
  · exact offering_advances offering
  · exact lane_advances inLanes inside

/-- From every state the goroutines can go on until nothing is on its way, where an attempt is one
step with all its retries. What was queued behind the return of `run` is not on its way. -/
theorem settles (state : State) : ∃ steps last seen, state.run dispatcher steps = some (last, seen) ∧
    ∀ call, ¬Underway last call := by
  by_cases busy : ∃ call, Underway state call
  · obtain ⟨call, underway⟩ := busy
    obtain ⟨step, next, observation, stepped, less⟩ := @advances dispatcher state call underway
    obtain ⟨steps, last, seen, ran, settled⟩ := settles next
    exact ⟨step :: steps, last, observation.toList ++ seen, by simp only [State.run, stepped, ran], settled⟩
  · exact ⟨[], state, [], rfl, not_exists.mp busy⟩
termination_by work dispatcher state

/-! ## A notification without a word -/

theorem webhook_plain : '\x00' ∉ "webhook".toList := by decide

/-- One channel that is always configured. -/
def webhook : Channel := ⟨"webhook", fun _ => true, webhook_plain⟩

def single : Dispatcher := .new [webhook] ⟨0, 0, 0⟩

def failure : Event := ⟨"command.failed", "tenant", "SendSms", ""⟩

/-- After `Close` a call returns in silence; and one that passed the check before it queues its event
behind `run`. In both runs everything has come to rest. -/
theorem closed_dispatcher_loses :
    (∃ state seen, State.initial.run single [.close, .notify failure, .check 0] = some (state, seen) ∧
      ¬Underway state 0 ∧ ¬Accounted single seen 0) ∧
    ∃ state seen, State.initial.run single [.notify failure, .check 0, .close, .drain, .exit, .send 0] = some (state, seen) ∧
      ¬Underway state 0 ∧ ¬Accounted single seen 0 := by
  refine ⟨⟨_, _, rfl, ?_, ?_⟩, ⟨_, _, rfl, ?_, ?_⟩⟩
  · rintro (busy | ⟨_, item, member, _⟩ | read | ⟨_, _, _, _, offering⟩ | ⟨lane, member, _⟩)
    · exact busy rfl
    · cases member
    · exact read rfl
    · cases offering
    · cases member
  · rintro (⟨once, _⟩ | ⟨_, settings, member, _⟩)
    · cases once
    · simp at member
  · rintro (busy | ⟨running, _⟩ | read | ⟨_, _, _, _, offering⟩ | ⟨lane, member, _⟩)
    · exact busy rfl
    · exact running rfl
    · exact read rfl
    · cases offering
    · cases member
  · rintro (⟨once, _⟩ | ⟨_, settings, member, _⟩)
    · cases once
    · simp at member

/-- An event on its way through one lane. -/
def through : List Step :=
  [.notify failure, .check 0, .send 0, .receive, .settings (some []), .offer, .offer, .take 0, .result 0 false]

theorem delivered_through : ∃ state seen, State.initial.run single through = some (state, seen) ∧ Accounted single seen 0 := by
  refine ⟨_, _, rfl, ((@notifications_accounted_iff single _ through _ rfl).1 0 (by decide) ?_).mpr ?_⟩
  · rintro (busy | ⟨_, item, member, _⟩ | read | ⟨_, _, _, _, offering⟩ | ⟨lane, member, job, inside, _⟩)
    · exact busy rfl
    · cases member
    · exact read rfl
    · cases offering
    · obtain rfl := List.mem_singleton.mp member
      cases inside
  · intro observation member
    rcases List.mem_cons.mp member with rfl | member
    · exact ⟨rfl, rfl⟩
    · rcases List.mem_cons.mp member with rfl | member
      · exact ⟨rfl, rfl⟩
      · rcases List.mem_cons.mp member with rfl | member
        · exact ⟨rfl, rfl⟩
        · cases member

end VodogeCloud.Guarantees.NotificationAccounting
