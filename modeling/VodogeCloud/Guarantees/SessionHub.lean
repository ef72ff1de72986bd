import VodogeCloud.Guarantees.SessionTurns
import VodogeCloud.Lib.Transactions
import VodogeCloud.Source.SessionHub

/-!
# Sessions and the hub

The hub knows a session by a connection id that the device chose, so everything
rests on who else is using that id. A binding always belongs to the newest session
of its device, and as long as no session takes the id of another one that has not
ended, `Touch` and the deferred `Unbind` of a session reach its own binding or none.
Across devices less is enough: a session of another device must not be using the id.

A session that was superseded or swept still has its `Unbind` ahead of it. An id is
therefore in use until its session has ended, whatever the hub says.
-/

set_option autoImplicit false

namespace VodogeCloud.Guarantees.SessionHub

open VodogeCloud.Lib.Transactions
open VodogeCloud.Source.Postgres VodogeCloud.Source.IngressWindow
open VodogeCloud.Source.ServeDevice VodogeCloud.Source.SessionHub
open VodogeCloud.Guarantees.SessionTurns

/-! ## The two indexes -/

section Indexes

variable {hub hub' : Hub} {connectionId : String} {now : Timestamp}

/-- `byID` maps exactly the ids of the connections in `byDevice` to their devices. -/
def Inverse (hub : Hub) : Prop :=
  ∀ id device, hub.byID id = some device ↔
    ∃ connection, hub.byDevice device = some connection ∧ connection.id = id

theorem inverse_new : Inverse Hub.new := by
  intro id device
  simp [Hub.new]

theorem bound_iff {device : String} {connection : Connection} :
    hub.bound connectionId = some (device, connection) ↔
      hub.byID connectionId = some device ∧ hub.byDevice device = some connection ∧
        connection.id = connectionId := by
  unfold Hub.bound
  constructor
  · intro h
    split at h
    · cases h
    · next kept owner =>
      split at h
      · cases h
      · next live found =>
        split at h
        · next same =>
          cases h
          exact ⟨owner, found, same⟩
        · cases h
  · rintro ⟨owner, found, id⟩
    simp [owner, found, id]

/-- In step, an id is bound where a connection has it. -/
theorem Inverse.bound (inverse : Inverse hub) {device : String} {connection : Connection} :
    hub.bound connectionId = some (device, connection) ↔
      hub.byDevice device = some connection ∧ connection.id = connectionId := by
  rw [bound_iff]
  constructor
  · exact And.right
  · rintro ⟨found, id⟩
    exact ⟨(inverse connectionId device).mpr ⟨connection, found, id⟩, found, id⟩

/-- What `Touch` does when it goes through. -/
theorem touch_cases (h : hub.touch connectionId now = some hub') :
    ∃ device connection, hub.bound connectionId = some (device, connection) ∧
      hub'.byID = hub.byID ∧
      hub'.byDevice = Function.update hub.byDevice device (some { connection with lastPacketAt := now }) := by
  unfold Hub.touch at h
  cases found : hub.bound connectionId with
  | none =>
    rw [found] at h
    cases h
  | some binding =>
    rw [found] at h
    cases h
    exact ⟨binding.1, binding.2, rfl, rfl, rfl⟩

/-- What `Unbind` does. -/
theorem unbind_cases (hub : Hub) (connectionId : String) :
    (hub.bound connectionId = none ∧ hub.unbind connectionId = hub) ∨
    ∃ device connection, hub.bound connectionId = some (device, connection) ∧
      (hub.unbind connectionId).byDevice = Function.update hub.byDevice device none ∧
      (hub.unbind connectionId).byID = Function.update hub.byID connectionId none := by
  unfold Hub.unbind
  cases found : hub.bound connectionId with
  | none => exact Or.inl ⟨rfl, rfl⟩
  | some binding => exact Or.inr ⟨binding.1, binding.2, rfl, rfl, rfl⟩

/-- The id is not kept for another device. -/
def Unowned (hub : Hub) (connection : Connection) : Prop :=
  ∀ device, hub.byID connection.id = some device → device = connection.device.commonName

theorem bind_byDevice (hub : Hub) (connection : Connection) :
    (hub.bind connection).byDevice =
      Function.update hub.byDevice connection.device.commonName (some connection) := rfl

theorem bind_byID_self (hub : Hub) (connection : Connection) :
    (hub.bind connection).byID connection.id = some connection.device.commonName := by
  simp [Hub.bind]

/-- Another id keeps its device unless `Bind` replaced its connection. -/
theorem bind_byID_other {connection : Connection} (other : connectionId ≠ connection.id) :
    (hub.bind connection).byID connectionId =
      if ∃ previous, hub.byDevice connection.device.commonName = some previous ∧
        previous.id = connectionId then none
      else hub.byID connectionId := by
  simp only [Hub.bind, Function.update_of_ne other]
  cases found : hub.byDevice connection.device.commonName with
  | none => simp
  | some previous =>
    by_cases same : previous.id = connectionId
    · simp [same]
    · simp [same, Function.update_of_ne (Ne.symm same)]

/-- `Bind` keeps the indexes in step exactly when it takes nobody's id. -/
theorem Inverse.bind_iff (inverse : Inverse hub) (connection : Connection) :
    Inverse (hub.bind connection) ↔ Unowned hub connection := by
  constructor
  · intro after device owner
    obtain ⟨other, found, id⟩ := (inverse connection.id device).mp owner
    by_contra differs
    have kept : (hub.bind connection).byDevice device = some other := by
      rw [bind_byDevice, Function.update_of_ne differs, found]
    have claimed := (after connection.id device).mpr ⟨other, kept, id⟩
    rw [bind_byID_self] at claimed
    exact differs (Option.some.inj claimed).symm
  · intro unowned id device
    by_cases own : device = connection.device.commonName
    · subst own
      rw [bind_byDevice, Function.update_self]
      by_cases same : id = connection.id
      · subst same
        simp [bind_byID_self]
      · -- nothing else is kept for the device: its old connection was replaced
        rw [bind_byID_other same]
        constructor
        · intro owner
          split at owner
          · cases owner
          · next unreplaced =>
            exact absurd ((inverse id _).mp owner) unreplaced
        · rintro ⟨_, ⟨⟩, rfl⟩
          exact absurd rfl same
    · rw [bind_byDevice, Function.update_of_ne own]
      by_cases same : id = connection.id
      · subst same
        rw [bind_byID_self]
        constructor
        · intro owner
          exact absurd (Option.some.inj owner).symm own
        · intro held
          exact absurd (unowned device ((inverse _ _).mpr held)) own
      · rw [bind_byID_other same]
        split
        · next replaced =>
          constructor
          · intro impossible
            cases impossible
          · intro held
            have first := (inverse id _).mpr replaced
            rw [(inverse id device).mpr held] at first
            exact absurd (Option.some.inj first) own
        · exact inverse id device

theorem Inverse.touch (inverse : Inverse hub) (h : hub.touch connectionId now = some hub') :
    Inverse hub' := by
  obtain ⟨touched, connection, bound, sameIds, written⟩ := touch_cases h
  obtain ⟨found, _⟩ := inverse.bound.mp bound
  intro id device
  rw [sameIds, written, inverse id device]
  by_cases own : device = touched
  · subst own
    rw [Function.update_self, found]
    simp
  · rw [Function.update_of_ne own]

/-- Taking a connection out of both indexes. -/
theorem Inverse.remove (inverse : Inverse hub) {gone : String} {connection : Connection}
    (found : hub.byDevice gone = some connection) :
    Inverse ⟨Function.update hub.byDevice gone none, Function.update hub.byID connection.id none⟩ := by
  intro id device
  dsimp only
  have owner := (inverse connection.id gone).mpr ⟨connection, found, rfl⟩
  by_cases own : device = gone
  · subst own
    rw [Function.update_self]
    by_cases same : id = connection.id
    · subst same
      simp
    · rw [Function.update_of_ne same, inverse id device, found]
      constructor
      · rintro ⟨_, ⟨⟩, rfl⟩
        exact absurd rfl same
      · rintro ⟨_, impossible, _⟩
        cases impossible
  · rw [Function.update_of_ne own]
    by_cases same : id = connection.id
    · subst same
      rw [Function.update_self]
      constructor
      · intro impossible
        cases impossible
      · intro held
        rw [(inverse _ device).mpr held] at owner
        exact absurd (Option.some.inj owner) own
    · rw [Function.update_of_ne same]
      exact inverse id device

theorem Inverse.unbind (inverse : Inverse hub) (connectionId : String) :
    Inverse (hub.unbind connectionId) := by
  rcases unbind_cases hub connectionId with ⟨_, same⟩ | ⟨device, connection, bound, byDevice, byID⟩
  · rwa [same]
  · obtain ⟨found, id⟩ := inverse.bound.mp bound
    have removed := inverse.remove found
    rw [id, ← byDevice, ← byID] at removed
    exact removed

theorem Inverse.sweepIdle (inverse : Inverse hub) (order : List String) (now : Timestamp) :
    Inverse (hub.sweepIdle order now) := by
  unfold Hub.sweepIdle
  induction order generalizing hub with
  | nil => exact inverse
  | cons device rest ih =>
    apply ih
    unfold Hub.sweepDevice
    split
    · exact inverse
    · next connection found =>
      split
      · exact inverse.remove found
      · exact inverse

/-- A sweep only takes connections away. -/
theorem sweepIdle_keeps {order : List String} {device : String} {connection : Connection}
    (after : (hub.sweepIdle order now).byDevice device = some connection) :
    hub.byDevice device = some connection := by
  unfold Hub.sweepIdle at after
  induction order generalizing hub with
  | nil => exact after
  | cons first rest ih =>
    have kept := ih after
    unfold Hub.sweepDevice at kept
    split at kept
    · exact kept
    · split at kept
      · by_cases own : device = first
        · subst own
          simp at kept
        · dsimp only at kept
          rwa [Function.update_of_ne own] at kept
      · exact kept

/-- A sweep leaves a connection that is not idle, or that it does not come to. -/
theorem sweepIdle_spares {order : List String} {device : String} {connection : Connection}
    (found : hub.byDevice device = some connection)
    (spared : ¬ (device ∈ order ∧ connection.idle now = true)) :
    (hub.sweepIdle order now).byDevice device = some connection := by
  unfold Hub.sweepIdle
  induction order generalizing hub with
  | nil => exact found
  | cons first rest ih =>
    apply ih
    · unfold Hub.sweepDevice
      by_cases own : device = first
      · subst own
        have awake : connection.idle now = false := by
          rw [Bool.eq_false_iff]
          exact fun idle => spared ⟨List.mem_cons_self, idle⟩
        simp only [found, awake, Bool.false_eq_true, if_false]
      · split
        · exact found
        · split
          · dsimp only
            rw [Function.update_of_ne own]
            exact found
          · exact found
    · rintro ⟨member, idle⟩
      exact spared ⟨List.mem_cons_of_mem _ member, idle⟩

/-- No `Bind` takes an id that the hub keeps for another device. -/
def unownedBind (hub : Hub) : HubOp → Prop
  | .bind connection => Unowned hub connection
  | _ => True

theorem apply_inverse_iff (hub : Hub) (op : HubOp) (inverse : Inverse hub) :
    Inverse (op.apply hub) ↔ unownedBind hub op := by
  cases op with
  | bind connection => exact inverse.bind_iff connection
  | touch connectionId now =>
    refine iff_of_true ?_ trivial
    show Inverse ((hub.touch connectionId now).getD hub)
    cases touched : hub.touch connectionId now with
    | none => exact inverse
    | some hub' => exact inverse.touch touched
  | unbind connectionId => exact iff_of_true (inverse.unbind connectionId) trivial
  | sweepIdle order now => exact iff_of_true (inverse.sweepIdle order now) trivial

end Indexes

/-! ## The sessions behind the bindings -/

/-- What the hub's users are to each other. -/
structure Member where
  device : String
  id : String
  live : Bool
  deriving DecidableEq, Repr

def member (running : Running) : Member :=
  ⟨running.session.device.commonName, running.session.connectionId, running.phase.live⟩

variable {σ : Type}

/-- The sessions so far, in the order of their `Bind`. -/
def roster (state : Sessions σ) : List Member := state.running.map member

theorem roster_getElem (state : Sessions σ) (index : Nat) :
    (roster state)[index]? = (state.running[index]?).map member := by
  simp [roster]

theorem set_self {α : Type} {items : List α} {index : Nat} {item : α}
    (here : items[index]? = some item) : items.set index item = items := by
  apply List.ext_getElem?
  intro i
  by_cases same : index = i
  · subst same
    rw [List.getElem?_set_self', here]
    rfl
  · rw [List.getElem?_set_ne same]

theorem roster_advance (state : Sessions σ) (index : Nat) (session : Session) (phase : Phase) :
    roster (state.advance index session phase) = (roster state).set index (member ⟨session, phase⟩) := by
  simp [roster, Sessions.advance, List.map_set]

/-- A step that keeps the session, its id and its life. -/
theorem roster_advance_live {state : Sessions σ} {index : Nat} {running : Running}
    (here : state.running[index]? = some running) {session : Session} {phase : Phase}
    (device : session.device = running.session.device)
    (id : session.connectionId = running.session.connectionId)
    (live : phase.live = running.phase.live) :
    roster (state.advance index session phase) = roster state := by
  rw [roster_advance]
  apply set_self
  rw [roster_getElem, here, Option.map_some, member, member, device, id, live]

/-- If the loop goes on, it goes on with this session. -/
def Keeps (session : Session) (turn : Turn σ) : Prop := ∀ next, turn.next = .ok next → next = session

section Turns

variable {env : Environment σ} {session : Session} {envelope : Envelope} {gateway : Gateway σ}

/-- The loop body changes nothing of a session but the time of its last check. -/
theorem serveTouched_keeps :
    Keeps (checkedPending env session) (serveTouched env session envelope gateway) := by
  unfold serveTouched
  dsimp only
  split
  · exact nofun
  · exact serveKind_answers.keeps

end Turns

/-- The hub and the roster are as they were. -/
def Unmoved (state after : Sessions σ) : Prop := after.hub = state.hub ∧ roster after = roster state

section Steps

variable {state : Sessions σ} {index : Nat} {env : Environment σ}

theorem resumeStep_unmoved : Unmoved state (resumeStep index env state) := by
  unfold resumeStep
  split
  · next session here =>
    refine ⟨rfl, roster_advance_live here rfl rfl ?_⟩
    split <;> rfl
  · exact ⟨rfl, rfl⟩

theorem readStep_unmoved {frame : Frame} : Unmoved state (readStep index frame state) := by
  unfold readStep
  split
  · next session here =>
    refine ⟨rfl, roster_advance_live here rfl rfl ?_⟩
    split
    · rfl
    · split <;> rfl
  · exact ⟨rfl, rfl⟩

theorem serveStep_unmoved : Unmoved state (serveStep index env state) := by
  unfold serveStep
  split
  · next session envelope bound here =>
    dsimp only
    split
    · next next_ goesOn =>
      have same := serveTouched_keeps next_ goesOn
      refine ⟨rfl, @roster_advance_live σ _ index _ here next_ _ ?_ ?_ rfl⟩
      · rw [same]
        exact checkedPending_device
      · rw [same]
        exact checkedPending_connectionId
    · exact ⟨rfl, @roster_advance_live σ _ index _ here session _ rfl rfl rfl⟩
  · exact ⟨rfl, rfl⟩

theorem loseStep_unmoved : Unmoved state (loseStep index state) := by
  unfold loseStep
  split
  · next session here => exact ⟨rfl, roster_advance_live here rfl rfl rfl⟩
  · next session here => exact ⟨rfl, roster_advance_live here rfl rfl rfl⟩
  · exact ⟨rfl, rfl⟩

/-- A touch that the hub takes is for the id of a session that is on; one that it refuses
ends the loop and changes nothing else. -/
theorem touchStep_cases (state : Sessions σ) (index : Nat) (now : Timestamp) :
    Unmoved state (touchStep index now state) ∨
    ∃ one, (roster state)[index]? = some one ∧ one.live = true ∧
      state.hub.touch one.id now = some (touchStep index now state).hub ∧
      roster (touchStep index now state) = roster state := by
  cases here : state.running[index]? with
  | none => exact Or.inl (by simp [Unmoved, touchStep, here])
  | some running =>
    obtain ⟨session, phase⟩ := running
    cases phase with
    | read envelope bound =>
      cases touched : state.hub.touch session.connectionId now with
      | none =>
        refine Or.inl ⟨by simp [touchStep, here, touched, Sessions.advance], ?_⟩
        simpa [touchStep, here, touched] using
          roster_advance_live here rfl rfl (by rfl : Phase.live .returning = _)
      | some hub =>
        have stepped : touchStep index now state =
            { state with hub := hub }.advance index session (.touched envelope bound) := by
          simp [touchStep, here, touched]
        refine Or.inr ⟨member ⟨session, .read envelope bound⟩, ?_, rfl, ?_, ?_⟩
        · rw [roster_getElem, here]
          rfl
        · rw [stepped]
          exact touched
        · rw [stepped]
          exact @roster_advance_live σ { state with hub := hub } index _ here session _ rfl rfl rfl
    | resuming => exact Or.inl (by simp [Unmoved, touchStep, here])
    | reading => exact Or.inl (by simp [Unmoved, touchStep, here])
    | touched envelope bound => exact Or.inl (by simp [Unmoved, touchStep, here])
    | returning => exact Or.inl (by simp [Unmoved, touchStep, here])
    | ended => exact Or.inl (by simp [Unmoved, touchStep, here])

/-- Only a session that is returning runs its deferred `Unbind`, and is then off. -/
theorem unbindStep_cases (state : Sessions σ) (index : Nat) :
    Unmoved state (unbindStep index state) ∨
    ∃ one, (roster state)[index]? = some one ∧ one.live = true ∧
      (unbindStep index state).hub = state.hub.unbind one.id ∧
      roster (unbindStep index state) = (roster state).set index { one with live := false } := by
  cases here : state.running[index]? with
  | none => exact Or.inl (by simp [Unmoved, unbindStep, here])
  | some running =>
    obtain ⟨session, phase⟩ := running
    cases phase with
    | returning =>
      have stepped : unbindStep index state =
          { state with hub := state.hub.unbind session.connectionId }.advance index session
            .ended := by
        simp [unbindStep, here]
      refine Or.inr ⟨member ⟨session, .returning⟩, ?_, rfl, ?_, ?_⟩
      · rw [roster_getElem, here]
        rfl
      · rw [stepped]
        rfl
      · rw [stepped, roster_advance]
        rfl
    | resuming => exact Or.inl (by simp [Unmoved, unbindStep, here])
    | reading => exact Or.inl (by simp [Unmoved, unbindStep, here])
    | read envelope bound => exact Or.inl (by simp [Unmoved, unbindStep, here])
    | touched envelope bound => exact Or.inl (by simp [Unmoved, unbindStep, here])
    | ended => exact Or.inl (by simp [Unmoved, unbindStep, here])

end Steps

/-- Everything a step can do to the hub and to the roster. -/
theorem step_cases (state : Sessions σ) (event : Event σ) :
    ((step state event).hub = state.hub ∧ roster (step state event) = roster state) ∨
    (∃ connection, event = .bind connection ∧ connection.id ≠ "" ∧
      (step state event).hub = state.hub.bind connection ∧
      roster (step state event) =
        roster state ++ [⟨connection.device.commonName, connection.id, true⟩]) ∨
    (∃ index now one, event = .touch index now ∧ (roster state)[index]? = some one ∧
      one.live = true ∧ state.hub.touch one.id now = some (step state event).hub ∧
      roster (step state event) = roster state) ∨
    (∃ index one, event = .unbind index ∧ (roster state)[index]? = some one ∧ one.live = true ∧
      (step state event).hub = state.hub.unbind one.id ∧
      roster (step state event) = (roster state).set index { one with live := false }) ∨
    (∃ order now, event = .sweep order now ∧
      (step state event).hub = state.hub.sweepIdle order now ∧
      roster (step state event) = roster state) := by
  cases event with
  | bind connection =>
    show (bindStep connection state).hub = _ ∧ roster (bindStep connection state) = _ ∨ _
    by_cases unnamed : connection.id = ""
    · exact Or.inl (by simp [bindStep, unnamed])
    · refine Or.inr (Or.inl ⟨connection, rfl, unnamed, ?_, ?_⟩)
      · simp [step, bindStep, unnamed]
      · simp [step, bindStep, unnamed, roster, member, Phase.live]
  | resume index env => exact Or.inl resumeStep_unmoved
  | read index frame => exact Or.inl readStep_unmoved
  | touch index now =>
    obtain unmoved | ⟨one, here, live, touched, same⟩ := touchStep_cases state index now
    · exact Or.inl unmoved
    · exact Or.inr (Or.inr (Or.inl ⟨index, now, one, rfl, here, live, touched, same⟩))
  | serve index env => exact Or.inl serveStep_unmoved
  | lose index => exact Or.inl loseStep_unmoved
  | unbind index =>
    obtain unmoved | ⟨one, here, live, unbound, same⟩ := unbindStep_cases state index
    · exact Or.inl unmoved
    · exact Or.inr (Or.inr (Or.inr (Or.inl ⟨index, one, rfl, here, live, unbound, same⟩)))
  | sweep order now => exact Or.inr (Or.inr (Or.inr (Or.inr ⟨order, now, rfl, rfl, rfl⟩)))
  | elsewhere cloud => exact Or.inl ⟨rfl, rfl⟩

/-! ## Whose binding it is -/

theorem getElem_concat {α : Type} {items : List α} {last item : α} {index : Nat}
    (here : (items ++ [last])[index]? = some item) :
    items[index]? = some item ∨ (index = items.length ∧ item = last) := by
  rcases Nat.lt_trichotomy index items.length with before | here' | after
  · rw [List.getElem?_append_left before] at here
    exact Or.inl here
  · subst here'
    rw [List.getElem?_append_right (Nat.le_refl _)] at here
    simp only [Nat.sub_self, List.getElem?_cons_zero, Option.some.injEq] at here
    exact Or.inr ⟨rfl, here.symm⟩
  · rw [List.getElem?_eq_none (by simp; omega)] at here
    cases here

theorem getElem_concat_old {α : Type} {items : List α} {last item : α} {index : Nat}
    (here : items[index]? = some item) : (items ++ [last])[index]? = some item := by
  rw [List.getElem?_append_left (List.getElem?_eq_some_iff.mp here).1]
  exact here

section Ownership

variable {hub hub' : Hub} {members : List Member}

/-- Whoever has not ended when a session ends was there before. -/
theorem live_of_set {index k : Nat} {one other : Member} (here : members[index]? = some one)
    (there : (members.set index { one with live := false })[k]? = some other)
    (live : other.live = true) : members[k]? = some other := by
  by_cases same : index = k
  · subst same
    rw [List.getElem?_set_self', here] at there
    cases there
    cases live
  · rwa [List.getElem?_set_ne same] at there

/-- A binding belongs to the newest session of its device, which has not ended, and
an id is in use by the sessions of one device only. -/
structure Kept (hub : Hub) (members : List Member) : Prop where
  inverse : Inverse hub
  owned : ∀ {device : String} {connection : Connection}, hub.byDevice device = some connection →
    ∃ (index : Nat) (one : Member), members[index]? = some one ∧ one.live = true ∧
      one.device = device ∧ one.id = connection.id ∧
      ∀ (later : Nat) (other : Member), index < later → members[later]? = some other →
        other.device ≠ device
  shared : ∀ {i j : Nat} {a b : Member}, members[i]? = some a → members[j]? = some b →
    a.live = true → b.live = true → a.id = b.id → a.device = b.device

theorem kept_new : Kept Hub.new [] where
  inverse := inverse_new
  owned := by
    intro device connection found
    cases found
  shared := by
    intro i j a b here
    simp at here

/-- A session's own id leads to the binding of its own device. -/
theorem Kept.reaches (kept : Kept hub members) {index : Nat} {one : Member}
    (here : members[index]? = some one) (live : one.live = true) {device : String}
    {connection : Connection} (bound : hub.bound one.id = some (device, connection)) :
    device = one.device := by
  obtain ⟨found, id⟩ := kept.inverse.bound.mp bound
  obtain ⟨_, owner, hereToo, liveToo, rfl, sameId, _⟩ := kept.owned found
  exact kept.shared hereToo here liveToo live (sameId.trans id)

theorem Kept.bind (kept : Kept hub members) {connection : Connection}
    (apart : ∀ (index : Nat) (one : Member), members[index]? = some one → one.live = true →
      one.id = connection.id → one.device = connection.device.commonName) :
    Kept (hub.bind connection)
      (members ++ [⟨connection.device.commonName, connection.id, true⟩]) where
  inverse := by
    refine (kept.inverse.bind_iff connection).mpr fun device owner => ?_
    obtain ⟨held, found, id⟩ := (kept.inverse _ _).mp owner
    obtain ⟨index, one, here, live, rfl, sameId, _⟩ := kept.owned found
    exact apart index one here live (sameId.trans id)
  owned := by
    intro device found after
    rw [bind_byDevice] at after
    by_cases own : device = connection.device.commonName
    · subst own
      rw [Function.update_self] at after
      cases after
      refine ⟨members.length, _, List.getElem?_concat_length, rfl, rfl, rfl, ?_⟩
      intro later other beyond here
      rw [List.getElem?_eq_none (by simp; omega)] at here
      cases here
    · rw [Function.update_of_ne own] at after
      obtain ⟨index, one, here, live, sameDevice, sameId, newest⟩ := kept.owned after
      refine ⟨index, one, getElem_concat_old here, live, sameDevice, sameId, ?_⟩
      intro later other beyond there
      rcases getElem_concat there with old | ⟨_, rfl⟩
      · exact newest later other beyond old
      · exact fun same => own same.symm
  shared := by
    intro i j a b hereA hereB liveA liveB same
    rcases getElem_concat hereA with oldA | ⟨_, rfl⟩
    · rcases getElem_concat hereB with oldB | ⟨_, rfl⟩
      · exact kept.shared oldA oldB liveA liveB same
      · exact apart i a oldA liveA same
    · rcases getElem_concat hereB with oldB | ⟨_, rfl⟩
      · exact (apart j b oldB liveB same.symm).symm
      · rfl

theorem Kept.touch (kept : Kept hub members) {connectionId : String} {now : Timestamp}
    (h : hub.touch connectionId now = some hub') : Kept hub' members where
  inverse := kept.inverse.touch h
  owned := by
    intro device connection after
    obtain ⟨touched, before, bound, _, written⟩ := touch_cases h
    rw [written] at after
    by_cases own : device = touched
    · subst own
      rw [Function.update_self] at after
      cases after
      have owner := kept.owned (kept.inverse.bound.mp bound).1
      exact owner
    · rw [Function.update_of_ne own] at after
      exact kept.owned after
  shared := kept.shared

/-- `Unbind` leaves no binding with the id, so those left are of other sessions. -/
theorem Kept.unbind (kept : Kept hub members) {index : Nat} {one : Member}
    (here : members[index]? = some one) :
    Kept (hub.unbind one.id) (members.set index { one with live := false }) where
  inverse := kept.inverse.unbind one.id
  owned := by
    intro device connection after
    have before : hub.byDevice device = some connection ∧ connection.id ≠ one.id := by
      rcases unbind_cases hub one.id with ⟨none_, same⟩ | ⟨gone, old, bound, byDevice, byID⟩
      · rw [same] at after
        refine ⟨after, fun sameId => ?_⟩
        rw [kept.inverse.bound.mpr ⟨after, sameId⟩] at none_
        cases none_
      · rw [byDevice] at after
        by_cases own : device = gone
        · subst own
          simp at after
        · rw [Function.update_of_ne own] at after
          refine ⟨after, fun sameId => ?_⟩
          rw [kept.inverse.bound.mpr ⟨after, sameId⟩] at bound
          cases bound
          exact own rfl
    obtain ⟨found, differs⟩ := before
    obtain ⟨at_, owner, there, live, sameDevice, sameId, newest⟩ := kept.owned found
    have elsewhere : index ≠ at_ := by
      rintro rfl
      rw [here] at there
      cases there
      exact differs sameId.symm
    refine ⟨at_, owner, ?_, live, sameDevice, sameId, ?_⟩
    · rw [List.getElem?_set_ne elsewhere]
      exact there
    · intro later other beyond hereToo
      by_cases same : index = later
      · subst same
        rw [List.getElem?_set_self', here] at hereToo
        cases hereToo
        exact newest index one beyond here
      · rw [List.getElem?_set_ne same] at hereToo
        exact newest later other beyond hereToo
  shared := by
    intro i j a b hereA hereB liveA liveB same
    exact kept.shared (live_of_set here hereA liveA) (live_of_set here hereB liveB) liveA liveB same

theorem Kept.sweep (kept : Kept hub members) (order : List String) (now : Timestamp) :
    Kept (hub.sweepIdle order now) members where
  inverse := kept.inverse.sweepIdle order now
  owned := fun after => kept.owned (sweepIdle_keeps after)
  shared := kept.shared

end Ownership

/-! ## Devices are independent -/

/-- No session that has not ended belongs to another device and uses the id. -/
def apart (state : Sessions σ) : Event σ → Prop
  | .bind connection => ∀ running ∈ state.running, running.phase.live = true →
      running.session.connectionId = connection.id →
      running.session.device.commonName = connection.device.commonName
  | _ => True

theorem running_of_roster {state : Sessions σ} {index : Nat} {one : Member}
    (here : (roster state)[index]? = some one) :
    ∃ running, state.running[index]? = some running ∧ member running = one := by
  rw [roster_getElem, Option.map_eq_some_iff] at here
  exact here

theorem apart_roster {state : Sessions σ} {connection : Connection}
    (guarded : apart state (.bind connection)) (index : Nat) (one : Member)
    (here : (roster state)[index]? = some one) (live : one.live = true)
    (same : one.id = connection.id) : one.device = connection.device.commonName := by
  obtain ⟨running, there, rfl⟩ := running_of_roster here
  exact guarded running (List.mem_of_getElem? there) live same

theorem step_kept (state : Sessions σ) (event : Event σ) (kept : Kept state.hub (roster state))
    (guarded : apart state event) : Kept (step state event).hub (roster (step state event)) := by
  rcases step_cases state event with ⟨hub, members⟩ | ⟨connection, rfl, _, hub, members⟩ |
    ⟨index, now, one, _, _, _, touched, members⟩ | ⟨index, one, _, here, _, hub, members⟩ |
    ⟨order, now, _, hub, members⟩
  · rwa [hub, members]
  · rw [hub, members]
    exact kept.bind (apart_roster guarded)
  · rw [members]
    exact kept.touch touched
  · rw [hub, members]
    exact kept.unbind here
  · rw [hub, members]
    exact kept.sweep order now

theorem run_kept (cloud : Cloud σ) (events : List (Event σ))
    (guarded : Guarded step apart (Sessions.start cloud) events) :
    Kept (events.foldl step (.start cloud)).hub (roster (events.foldl step (.start cloud))) :=
  foldl_guarded step_kept (.start cloud) kept_new events guarded

/-- A session's step leaves the binding of every other device alone. -/
theorem step_lookup {state : Sessions σ} {event : Event σ} (kept : Kept state.hub (roster state))
    {device other : String} (own : event.by_ state = some device) (differs : other ≠ device) :
    (step state event).hub.byDevice other = state.hub.byDevice other := by
  have reached : ∀ {index : Nat} {one : Member}, (roster state)[index]? = some one →
      (state.running[index]?).map (fun running => running.session.device.commonName) = some device →
      one.device = device := by
    intro index one here owner
    obtain ⟨running, there, rfl⟩ := running_of_roster here
    rw [there, Option.map_some, Option.some.injEq] at owner
    exact owner
  rcases step_cases state event with ⟨hub, _⟩ | ⟨connection, rfl, _, hub, _⟩ |
    ⟨index, now, one, rfl, here, live, touched, _⟩ | ⟨index, one, rfl, here, live, hub, _⟩ |
    ⟨order, now, rfl, _, _⟩
  · rw [hub]
  · cases own
    rw [hub, bind_byDevice, Function.update_of_ne differs]
  · obtain ⟨gone, connection, bound, _, written⟩ := touch_cases touched
    rw [written, Function.update_of_ne]
    rw [kept.reaches here live bound, reached here own]
    exact differs
  · rw [hub]
    rcases unbind_cases state.hub one.id with ⟨_, same⟩ | ⟨gone, connection, bound, byDevice, _⟩
    · rw [same]
    · rw [byDevice, Function.update_of_ne]
      rw [kept.reaches here live bound, reached here own]
      exact differs
  · cases own

/-- The indexes stay inverse exactly as long as no `Bind` takes an id that is kept for
another device; and where no `Bind` takes an id that a session of another device is
still using, no step of a device's session is felt by another device. -/
theorem devices_are_independent (cloud : Cloud σ) (ops : List HubOp) (events : List (Event σ))
    (event : Event σ) :
    ((∀ early, early <+: ops → Inverse (early.foldl HubOp.apply Hub.new)) ↔
      Guarded HubOp.apply unownedBind Hub.new ops) ∧
    (Guarded step apart (Sessions.start cloud) (events ++ [event]) →
      let before := events.foldl step (Sessions.start cloud)
      Inverse before.hub ∧
      ∀ device other, event.by_ before = some device → other ≠ device →
        (step before event).hub.lookup other = before.hub.lookup other ∧
        ∀ connection now, before.hub.lookup other = some connection →
          ((step before event).hub.touch connection.id now).isSome = true) := by
  refine ⟨guarded_iff apply_inverse_iff Hub.new inverse_new ops, fun guarded => ?_⟩
  obtain ⟨early, late⟩ := guarded_append.mp guarded
  have kept := run_kept cloud events early
  have after := step_kept _ event kept late.1
  refine ⟨kept.inverse, fun device other own differs => ?_⟩
  have same := step_lookup kept own differs
  refine ⟨same, fun connection now found => ?_⟩
  have bound := after.inverse.bound.mpr ⟨same.trans found, rfl⟩
  simp [Hub.touch, bound]

def quietCloud : Cloud Unit := ⟨sampleJournal, .empty, ()⟩

/-- A device of another tenant. -/
def neighbour : Device := ⟨6, 8, "00000000-0000-0000-0000-000000000008"⟩

/-- Two devices connect. -/
def neighbours (id : String) : List (Event Unit) :=
  [.bind ⟨"c1", sampleDevice, 0⟩, .bind ⟨id, neighbour, 0⟩]

theorem own_ids_independent :
    Guarded step apart (Sessions.start quietCloud)
      (neighbours "c2" ++ [.bind ⟨"c3", sampleDevice, 1⟩]) ∧
    (step ((neighbours "c2").foldl step (Sessions.start quietCloud))
      (.bind ⟨"c3", sampleDevice, 1⟩)).hub.lookup neighbour.commonName =
        some ⟨"c2", neighbour, 0⟩ := by
  have guarded : Guarded step apart (Sessions.start quietCloud)
      (neighbours "c2" ++ [.bind ⟨"c3", sampleDevice, 1⟩]) := by
    refine ⟨?_, ?_, ?_, trivial⟩ <;> unfold apart <;> decide
  have whole := (devices_are_independent quietCloud [] (neighbours "c2")
    (.bind ⟨"c3", sampleDevice, 1⟩)).2 guarded
  refine ⟨guarded, ?_⟩
  rw [(whole.2 sampleDevice.commonName neighbour.commonName rfl (by decide)).1]
  rfl

/-- The neighbour connects under the id the device is using. Its session then ends, and
the device's connection, live and untouched, is refused. -/
theorem foreign_id_disconnects :
    ¬ Inverse ([HubOp.bind ⟨"c1", sampleDevice, 0⟩, .bind ⟨"c1", neighbour, 0⟩].foldl HubOp.apply
      Hub.new) ∧
    let before := (neighbours "c1" ++ [Event.lose 1]).foldl step (Sessions.start quietCloud)
    (Event.unbind 1).by_ before = some neighbour.commonName ∧
      before.hub.lookup sampleDevice.commonName = some ⟨"c1", sampleDevice, 0⟩ ∧
      (before.hub.touch "c1" 1).isSome = true ∧
      ((step before (.unbind 1)).hub.touch "c1" 1).isSome = false := by
  refine ⟨fun inverse => ?_, by decide⟩
  have owner := (inverse "c1" sampleDevice.commonName).mpr ⟨⟨"c1", sampleDevice, 0⟩, by decide, rfl⟩
  have other : ([HubOp.bind ⟨"c1", sampleDevice, 0⟩, .bind ⟨"c1", neighbour, 0⟩].foldl HubOp.apply
      Hub.new).byID "c1" = some neighbour.commonName := by decide
  rw [other] at owner
  exact absurd owner (by decide)

/-! ## A newer session supersedes an older one -/

/-- No session that has not ended uses the id. -/
def unused (state : Sessions σ) : Event σ → Prop
  | .bind connection => ∀ running ∈ state.running, running.phase.live = true →
      running.session.connectionId ≠ connection.id
  | _ => True

theorem apart_of_unused {state : Sessions σ} {event : Event σ} (guarded : unused state event) :
    apart state event := by
  cases event with
  | bind connection => exact fun running member live same => absurd same (guarded running member live)
  | _ => trivial

/-- Sessions that have not ended have different ids. -/
def Distinct (members : List Member) : Prop :=
  ∀ {i j : Nat} {a b : Member}, members[i]? = some a → members[j]? = some b → a.live = true →
    b.live = true → a.id = b.id → i = j

theorem step_distinct {state : Sessions σ} {event : Event σ} (distinct : Distinct (roster state))
    (guarded : unused state event) : Distinct (roster (step state event)) := by
  rcases step_cases state event with ⟨_, members⟩ | ⟨connection, rfl, _, _, members⟩ |
    ⟨_, _, _, _, _, _, _, members⟩ | ⟨index, one, _, here, _, _, members⟩ | ⟨_, _, _, _, members⟩
  · rwa [members]
  · rw [members]
    have fresh : ∀ {i : Nat} {a : Member}, (roster state)[i]? = some a → a.live = true →
        a.id ≠ connection.id := by
      intro i a there live
      obtain ⟨running, at_, rfl⟩ := running_of_roster there
      exact guarded running (List.mem_of_getElem? at_) live
    intro i j a b hereA hereB liveA liveB same
    rcases getElem_concat hereA with oldA | ⟨atA, rfl⟩
    · rcases getElem_concat hereB with oldB | ⟨_, rfl⟩
      · exact distinct oldA oldB liveA liveB same
      · exact absurd same (fresh oldA liveA)
    · rcases getElem_concat hereB with oldB | ⟨atB, rfl⟩
      · exact absurd same.symm (fresh oldB liveB)
      · exact atA.trans atB.symm
  · rwa [members]
  · rw [members]
    intro i j a b hereA hereB liveA liveB same
    exact distinct (live_of_set here hereA liveA) (live_of_set here hereB liveB) liveA liveB same
  · rwa [members]

/-- The device's binding is the session's. -/
def Holds (hub : Hub) (members : List Member) (index : Nat) (device id : String) : Prop :=
  members[index]? = some ⟨device, id, true⟩ ∧
    ∃ connection, hub.byDevice device = some connection ∧ connection.id = id

/-- What takes the device's binding from the session: its own end, a sweep that finds
it idle, or a later `Bind` of the device. -/
def Releases (index : Nat) (device : String) (state : Sessions σ) : Event σ → Prop
  | .bind connection => connection.id ≠ "" ∧ connection.device.commonName = device
  | .unbind other => other = index
  | .sweep order now => device ∈ order ∧
      ∃ connection, state.hub.lookup device = some connection ∧ connection.idle now = true
  | _ => False

theorem step_holds {state : Sessions σ} {event : Event σ} (kept : Kept state.hub (roster state))
    (distinct : Distinct (roster state)) {index : Nat} {device id : String}
    (held : Holds state.hub (roster state) index device id)
    (unreleased : ¬ Releases index device state event) :
    Holds (step state event).hub (roster (step state event)) index device id := by
  obtain ⟨here, connection, found, sameId⟩ := held
  rcases step_cases state event with ⟨hub, members⟩ | ⟨newer, rfl, named, hub, members⟩ |
    ⟨other, now, one, _, _, _, touched, members⟩ | ⟨other, one, rfl, there, live, hub, members⟩ |
    ⟨order, now, rfl, hub, members⟩
  · rw [hub, members]
    exact ⟨here, connection, found, sameId⟩
  · have differs : device ≠ newer.device.commonName := fun same => unreleased ⟨named, same.symm⟩
    rw [hub, members]
    refine ⟨getElem_concat_old here, connection, ?_, sameId⟩
    rw [bind_byDevice, Function.update_of_ne differs, found]
  · rw [members]
    refine ⟨here, ?_⟩
    obtain ⟨touchedDevice, old, bound, _, written⟩ := touch_cases touched
    rw [written]
    by_cases own : device = touchedDevice
    · subst own
      rw [Function.update_self]
      rw [(kept.inverse.bound.mp bound).1] at found
      cases found
      exact ⟨_, rfl, sameId⟩
    · rw [Function.update_of_ne own]
      exact ⟨connection, found, sameId⟩
  · have elsewhere : other ≠ index := unreleased
    rw [hub, members]
    refine ⟨by rw [List.getElem?_set_ne elsewhere]; exact here, ?_⟩
    rcases unbind_cases state.hub one.id with ⟨_, same⟩ | ⟨gone, old, bound, byDevice, _⟩
    · rw [same]
      exact ⟨connection, found, sameId⟩
    · -- the binding that goes has the other session's id, and ids are distinct
      have differs : device ≠ gone := by
        rintro rfl
        obtain ⟨found', id'⟩ := kept.inverse.bound.mp bound
        rw [found] at found'
        cases found'
        exact elsewhere (distinct there here live rfl (id'.symm.trans sameId))
      rw [byDevice, Function.update_of_ne differs]
      exact ⟨connection, found, sameId⟩
  · rw [hub, members]
    refine ⟨here, connection, sweepIdle_spares found ?_, sameId⟩
    rintro ⟨member, idle⟩
    exact unreleased ⟨member, connection, found, idle⟩

/-- The devices of the sessions so far. -/
def devices (state : Sessions σ) : List String := (roster state).map Member.device

theorem devices_length (state : Sessions σ) : (devices state).length = state.running.length := by
  simp [devices, roster]

/-- Nobody's device changes, and a session is added at the end. -/
theorem step_devices (state : Sessions σ) (event : Event σ) :
    ∃ new, devices (step state event) = devices state ++ new := by
  unfold devices
  rcases step_cases state event with ⟨_, members⟩ | ⟨connection, rfl, _, _, members⟩ |
    ⟨_, _, _, _, _, _, _, members⟩ | ⟨index, one, _, here, _, _, members⟩ | ⟨_, _, _, _, members⟩
  · exact ⟨[], by rw [members, List.append_nil]⟩
  · exact ⟨[connection.device.commonName], by rw [members, List.map_append]; rfl⟩
  · exact ⟨[], by rw [members, List.append_nil]⟩
  · refine ⟨[], ?_⟩
    rw [members, List.append_nil, List.map_set]
    apply set_self
    rw [List.getElem?_map, here]
    rfl
  · exact ⟨[], by rw [members, List.append_nil]⟩

/-- Of the sessions that had bound, none after this one is of its device. -/
def Current (names : List String) (index bound : Nat) : Prop :=
  bound ≤ names.length ∧ ∀ later, index < later → later < bound → names[later]? ≠ names[index]?

theorem Current.append {names new : List String} {index bound : Nat}
    (current : Current names index bound) : Current (names ++ new) index bound := by
  obtain ⟨within, newest⟩ := current
  refine ⟨by rw [List.length_append]; omega, fun later after before => ?_⟩
  rw [List.getElem?_append_left (by omega), List.getElem?_append_left (by omega)]
  exact newest later after before

/-- What a session has in hand. -/
def Sound (names : List String) (index : Nat) : Phase → Prop
  | .read _ bound => bound ≤ names.length
  | .touched _ bound => Current names index bound
  | _ => True

theorem Sound.append {names new : List String} {index : Nat} {phase : Phase}
    (sound : Sound names index phase) : Sound (names ++ new) index phase := by
  cases phase with
  | read envelope bound => exact le_trans sound (by rw [List.length_append]; omega)
  | touched envelope bound => exact Current.append sound
  | _ => trivial

/-- Frames that are served were read before any newer session of the device bound. -/
structure Orderly (state : Sessions σ) : Prop where
  kept : Kept state.hub (roster state)
  distinct : Distinct (roster state)
  phases : ∀ {index : Nat} {running : Running}, state.running[index]? = some running →
    Sound (devices state) index running.phase
  served : ∀ frame ∈ state.served, Current (devices state) frame.session frame.bound

theorem orderly_start (cloud : Cloud σ) : Orderly (Sessions.start cloud) where
  kept := kept_new
  distinct := by
    intro i j a b here
    simp [roster, Sessions.start] at here
  phases := by
    intro index running here
    simp [Sessions.start] at here
  served := by
    intro frame member
    simp [Sessions.start] at member

section Phases

variable {state : Sessions σ}

theorem advance_sound {names : List String} {index : Nat} {session : Session} {phase : Phase}
    (phases : ∀ {j : Nat} {running : Running}, state.running[j]? = some running →
      Sound names j running.phase)
    {j : Nat} {running : Running}
    (there : (state.advance index session phase).running[j]? = some running)
    (new : Sound names index phase) : Sound names j running.phase := by
  by_cases same : index = j
  · subst same
    simp only [Sessions.advance, List.getElem?_set_self'] at there
    cases here : state.running[index]? with
    | none =>
      rw [here] at there
      cases there
    | some old =>
      rw [here] at there
      cases there
      exact new
  · simp only [Sessions.advance, List.getElem?_set_ne same] at there
    exact phases there

/-- A `Touch` that goes through is of the newest session of the device. -/
theorem Orderly.touched (orderly : Orderly state) {index bound : Nat} {session : Session}
    {envelope : Envelope} (here : state.running[index]? = some ⟨session, .read envelope bound⟩)
    {now : Timestamp} {hub : Hub} (touched : state.hub.touch session.connectionId now = some hub) :
    Current (devices state) index bound := by
  refine ⟨orderly.phases here, fun later after _ same => ?_⟩
  have mine : (roster state)[index]? =
      some ⟨session.device.commonName, session.connectionId, true⟩ := by
    rw [roster_getElem, here]
    rfl
  obtain ⟨device, connection, reached, _, _⟩ := touch_cases touched
  obtain ⟨found, id⟩ := orderly.kept.inverse.bound.mp reached
  obtain ⟨at_, owner, there, live, ownDevice, sameId, newest⟩ := orderly.kept.owned found
  have one : at_ = index := orderly.distinct there mine live rfl (sameId.trans id)
  subst one
  rw [mine] at there
  cases there
  unfold devices at same
  rw [List.getElem?_map, List.getElem?_map, mine, Option.map_some] at same
  obtain ⟨other, hereToo, sameDevice⟩ := Option.map_eq_some_iff.mp same
  exact newest later other after hereToo (sameDevice.trans ownDevice)

theorem step_phases (orderly : Orderly state) (event : Event σ) {index : Nat} {running : Running}
    (there : (step state event).running[index]? = some running) :
    Sound (devices state) index running.phase := by
  cases event with
  | bind connection =>
    change (bindStep connection state).running[index]? = _ at there
    unfold bindStep at there
    split at there
    · exact orderly.phases there
    · rcases getElem_concat there with old | ⟨_, rfl⟩
      · exact orderly.phases old
      · trivial
  | resume at_ env =>
    change (resumeStep at_ env state).running[index]? = _ at there
    unfold resumeStep at there
    split at there
    · refine advance_sound orderly.phases there ?_
      split <;> trivial
    · exact orderly.phases there
  | read at_ frame =>
    change (readStep at_ frame state).running[index]? = _ at there
    unfold readStep at there
    split at there
    · refine advance_sound orderly.phases there ?_
      split
      · trivial
      · split
        · exact le_of_eq (devices_length state).symm
        · trivial
    · exact orderly.phases there
  | touch at_ now =>
    change (touchStep at_ now state).running[index]? = _ at there
    unfold touchStep at there
    split at there
    · next session envelope bound here =>
      split at there
      · exact advance_sound orderly.phases there trivial
      · next hub touched =>
        exact advance_sound orderly.phases there (orderly.touched here touched)
    · exact orderly.phases there
  | serve at_ env =>
    change (serveStep at_ env state).running[index]? = _ at there
    unfold serveStep at there
    split at there
    · dsimp only at there
      split at there
      · exact advance_sound orderly.phases there trivial
      · exact advance_sound orderly.phases there trivial
    · exact orderly.phases there
  | lose at_ =>
    change (loseStep at_ state).running[index]? = _ at there
    unfold loseStep at there
    split at there
    · exact advance_sound orderly.phases there trivial
    · exact advance_sound orderly.phases there trivial
    · exact orderly.phases there
  | unbind at_ =>
    change (unbindStep at_ state).running[index]? = _ at there
    unfold unbindStep at there
    split at there
    · exact advance_sound orderly.phases there trivial
    · exact orderly.phases there
  | sweep order now => exact orderly.phases there
  | elsewhere cloud => exact orderly.phases there

/-- A session writes the database where it serves a frame, and the command tables
also in the pending read of its Resume. -/
def Writes (state next : Sessions σ) (event : Event σ) : Prop :=
  (next.served = state.served ∧
    ((∃ cloud, event = .elsewhere cloud) ∨
      (next.cloud.journal = state.cloud.journal ∧
        ((∃ index env, event = .resume index env) ∨ next.cloud = state.cloud)))) ∨
  ∃ index env session envelope bound, event = .serve index env ∧
    state.running[index]? = some ⟨session, .touched envelope bound⟩ ∧
    next.served = ⟨index, envelope, bound⟩ :: state.served

theorem Writes.of_still {next : Sessions σ} {event : Event σ} (served : next.served = state.served)
    (cloud : next.cloud = state.cloud) : Writes state next event :=
  Or.inl ⟨served, Or.inr ⟨by rw [cloud], Or.inr cloud⟩⟩

theorem step_writes (state : Sessions σ) (event : Event σ) : Writes state (step state event) event := by
  cases event with
  | bind connection =>
    change Writes state (bindStep connection state) _
    unfold bindStep
    split
    · exact .of_still rfl rfl
    · exact .of_still rfl rfl
  | resume at_ env =>
    change Writes state (resumeStep at_ env state) _
    unfold resumeStep
    split
    · exact Or.inl ⟨rfl, Or.inr ⟨rfl, Or.inl ⟨at_, env, rfl⟩⟩⟩
    · exact .of_still rfl rfl
  | read at_ frame =>
    change Writes state (readStep at_ frame state) _
    unfold readStep
    split
    · exact .of_still rfl rfl
    · exact .of_still rfl rfl
  | touch at_ now =>
    change Writes state (touchStep at_ now state) _
    unfold touchStep
    split
    · split
      · exact .of_still rfl rfl
      · exact .of_still rfl rfl
    · exact .of_still rfl rfl
  | serve at_ env =>
    change Writes state (serveStep at_ env state) _
    unfold serveStep
    split
    · next session envelope bound here =>
      refine Or.inr ⟨at_, env, session, envelope, bound, rfl, here, ?_⟩
      dsimp only
      split
      · rfl
      · rfl
    · exact .of_still rfl rfl
  | lose at_ =>
    change Writes state (loseStep at_ state) _
    unfold loseStep
    split
    · exact .of_still rfl rfl
    · exact .of_still rfl rfl
    · exact .of_still rfl rfl
  | unbind at_ =>
    change Writes state (unbindStep at_ state) _
    unfold unbindStep
    split
    · exact .of_still rfl rfl
    · exact .of_still rfl rfl
  | sweep order now => exact .of_still rfl rfl
  | elsewhere cloud => exact Or.inl ⟨rfl, Or.inl ⟨cloud, rfl⟩⟩

theorem step_served (orderly : Orderly state) (event : Event σ) :
    ∀ frame ∈ (step state event).served, Current (devices state) frame.session frame.bound := by
  rcases step_writes state event with ⟨same, _⟩ | ⟨index, _, _, envelope, bound, _, here, more⟩
  · rw [same]
    exact orderly.served
  · rw [more]
    exact List.forall_mem_cons.mpr ⟨orderly.phases here, orderly.served⟩

theorem step_orderly (state : Sessions σ) (event : Event σ) (orderly : Orderly state)
    (guarded : unused state event) : Orderly (step state event) := by
  obtain ⟨new, grown⟩ := step_devices state event
  exact {
    kept := step_kept state event orderly.kept (apart_of_unused guarded)
    distinct := step_distinct orderly.distinct guarded
    phases := fun there => by
      rw [grown]
      exact (step_phases orderly event there).append
    served := fun frame member => by
      rw [grown]
      exact (step_served orderly event frame member).append }

end Phases

theorem run_orderly (cloud : Cloud σ) (events : List (Event σ))
    (guarded : Guarded step unused (Sessions.start cloud) events) :
    Orderly (events.foldl step (.start cloud)) :=
  foldl_guarded step_orderly (.start cloud) (orderly_start cloud) events guarded

/-- The newest session of a device keeps its binding: nothing in `later` releases it,
so the hub still leads from its id to it. -/
def StaysBound (state : Sessions σ) (connection : Connection) (later : List (Event σ)) : Prop :=
  ∃ kept, (later.foldl step (step state (.bind connection))).hub.bound connection.id =
    some (connection.device.commonName, kept)

/-- No frame was served that a session read after a newer one of its device had bound. -/
def NoneStale (state : Sessions σ) : Prop :=
  ∀ frame ∈ state.served, ∀ newer older newerSession, frame.session < newer → newer < frame.bound →
    state.running[frame.session]? = some older → state.running[newer]? = some newerSession →
    newerSession.session.device.commonName ≠ older.session.device.commonName

theorem bind_holds {state : Sessions σ} {connection : Connection} (named : connection.id ≠ "") :
    Holds (step state (.bind connection)).hub (roster (step state (.bind connection)))
      state.running.length connection.device.commonName connection.id := by
  have length : state.running.length = (roster state).length := by simp [roster]
  rcases step_cases state (.bind connection) with ⟨_, members⟩ | ⟨same, event, _, hub, members⟩ |
    ⟨_, _, _, event, _⟩ | ⟨_, _, event, _⟩ | ⟨_, _, event, _⟩
  · have grown : (step state (.bind connection)).running.length = state.running.length + 1 := by
      simp [step, bindStep, named]
    have kept := congrArg List.length members
    simp [roster, grown] at kept
  · cases event
    rw [hub, members, length]
    refine ⟨List.getElem?_concat_length, connection, ?_, rfl⟩
    rw [bind_byDevice, Function.update_self]
  · cases event
  · cases event
  · cases event

/-- Where no `Bind` takes the id of a session that has not ended, a session keeps its
binding until it ends, is swept idle or is superseded, and what an older session reads
after a newer one has bound is never served: its steps leave the journal alone. -/
theorem supersession_is_safe (cloud : Cloud σ) (events : List (Event σ))
    (guarded : Guarded step unused (Sessions.start cloud) events) :
    let state := events.foldl step (Sessions.start cloud)
    (∀ connection later, connection.id ≠ "" → unused state (.bind connection) →
      Guarded step (fun now event => unused now event ∧
          ¬ Releases state.running.length connection.device.commonName now event)
        (step state (.bind connection)) later →
      StaysBound state connection later) ∧
    NoneStale state ∧ ∀ event, Writes state (step state event) event := by
  have orderly := run_orderly cloud events guarded
  refine ⟨fun connection later named free unreleased => ?_, ?_, step_writes _⟩
  · have start := step_orderly _ _ orderly free
    have whole := @foldl_guarded _ _ step
      (fun now => Orderly now ∧ Holds now.hub (roster now)
        (events.foldl step (Sessions.start cloud)).running.length connection.device.commonName
        connection.id)
      _ (fun now event held guards =>
        ⟨step_orderly now event held.1 guards.1,
          step_holds held.1.kept held.1.distinct held.2 guards.2⟩)
      _ ⟨start, bind_holds named⟩ later unreleased
    obtain ⟨after, _, kept, found, id⟩ := whole
    exact ⟨kept, after.kept.inverse.bound.mpr ⟨found, id⟩⟩
  · intro frame member newer older newerSession beyond before hereOlder hereNewer same
    refine (orderly.served frame member).2 newer beyond before ?_
    simp [devices, roster, hereOlder, hereNewer, VodogeCloud.Guarantees.SessionHub.member, same]

/-! ## Two sessions of one device -/

def quietEnvironment : Environment Unit := sampleEnvironment fun rest _ => .ok rest

/-- An Alert of the device. -/
def alertFrame : Frame :=
  sampleFrame "Alert" "00000000-0000-0000-0000-00000000000a" [(chars "seq", .str (chars "1"))] (.obj [])

/-- The device connects and sends its record. -/
def firstSession : List (Event Unit) :=
  [.bind ⟨"c1", sampleDevice, 0⟩, .resume 0 quietEnvironment, .read 0 alertFrame, .touch 0 0,
    .serve 0 quietEnvironment]

/-- It connects again, and the session it had returns. -/
def reconnect : List (Event Unit) := [.lose 0, .unbind 0]

theorem fresh_id_stays_bound :
    Guarded step unused (Sessions.start quietCloud) firstSession ∧
    StaysBound (firstSession.foldl step (Sessions.start quietCloud)) ⟨"c2", sampleDevice, 5⟩ reconnect ∧
    NoneStale (firstSession.foldl step (Sessions.start quietCloud)) := by
  have guarded : Guarded step unused (Sessions.start quietCloud) firstSession := by
    refine ⟨?_, trivial, trivial, trivial, trivial, trivial⟩
    intro running member
    cases member
  have free : unused (firstSession.foldl step (Sessions.start quietCloud))
      (.bind ⟨"c2", sampleDevice, 5⟩) := by
    unfold unused
    decide
  have whole := supersession_is_safe quietCloud firstSession guarded
  refine ⟨guarded, whole.1 _ reconnect (by decide) free ?_, whole.2.1⟩
  refine ⟨⟨trivial, id⟩, ⟨trivial, ?_⟩, trivial⟩
  unfold Releases
  decide

/-- One session of the device is bound. -/
def oneSession : Sessions Unit :=
  [Event.bind ⟨"c1", sampleDevice, 0⟩].foldl step (Sessions.start quietCloud)

/-- The older of two sessions reads a frame after the newer one has bound. -/
def staleRead : List (Event Unit) :=
  [.bind ⟨"c1", sampleDevice, 0⟩, .resume 0 quietEnvironment, .bind ⟨"c1", sampleDevice, 1⟩,
    .read 0 alertFrame, .touch 0 2, .serve 0 quietEnvironment]

/-- The device connects a second time under the same connection id. Its first session
then still has its frames accepted, and takes the second one's binding with it. -/
theorem same_id_breaks_supersession :
    (Guarded step (fun now event => ¬ Releases 1 sampleDevice.commonName now event)
      (step oneSession (.bind ⟨"c1", sampleDevice, 1⟩)) reconnect ∧
      ¬ StaysBound oneSession ⟨"c1", sampleDevice, 1⟩ reconnect) ∧
    (staleRead.foldl step (Sessions.start quietCloud)).cloud.journal.ingress.rows.length = 1 ∧
    ¬ NoneStale (staleRead.foldl step (Sessions.start quietCloud)) := by
  refine ⟨⟨⟨id, ?_, trivial⟩, ?_⟩, by decide, ?_⟩
  · unfold Releases
    decide
  · rintro ⟨kept, bound⟩
    have gone : (reconnect.foldl step
        (step oneSession (.bind ⟨"c1", sampleDevice, 1⟩))).hub.bound "c1" = none := by
      decide
    rw [gone] at bound
    cases bound
  · intro none_
    have served : ((staleRead.foldl step (Sessions.start quietCloud)).served.any fun frame =>
        frame.session = 0 && frame.bound = 2) = true := by
      decide
    obtain ⟨frame, member, read⟩ := List.any_eq_true.mp served
    simp only [Bool.and_eq_true, decide_eq_true_eq] at read
    have devices : (staleRead.foldl step (Sessions.start quietCloud)).running.map
        (fun running => running.session.device.commonName) = [sampleName, sampleName] := by
      decide
    have length := congrArg List.length devices
    rw [List.length_map] at length
    have older := List.getElem?_eq_getElem (by rw [length]; decide :
      0 < (staleRead.foldl step (Sessions.start quietCloud)).running.length)
    have newer := List.getElem?_eq_getElem (by rw [length]; decide :
      1 < (staleRead.foldl step (Sessions.start quietCloud)).running.length)
    refine none_ frame member 1 _ _ (by omega) (by omega) (by rw [read.1]; exact older)
      newer ?_
    have first := congrArg (fun names : List String => names[0]?) devices
    have second := congrArg (fun names : List String => names[1]?) devices
    simp only [List.getElem?_map, older, newer, Option.map_some] at first second
    simp at first second
    rw [first, second]

end VodogeCloud.Guarantees.SessionHub
