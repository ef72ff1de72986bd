import VodogeCloud.Guarantees.CardRenderings
import VodogeCloud.Guarantees.CommandOrders

/-!
# What one step does to card policies and their commands

A step of a handler enqueues at most one command; every other step leaves the card
policy commands that are there, but for their status. A handler is where it was, or
the step started it, or it is what the step left of a handler.
-/

set_option autoImplicit false

namespace VodogeCloud.Guarantees.PolicyCommands

open VodogeCloud.Lib VodogeCloud.Lib.Transactions
open VodogeCloud.Source.Postgres VodogeCloud.Source.CommandTables
open VodogeCloud.Source.CommandLifecycle VodogeCloud.Source.PendingCommands
open VodogeCloud.Source.CardPolicies VodogeCloud.Source.CardDelivery
open VodogeCloud.Guarantees.EnqueuedCommands VodogeCloud.Guarantees.CommandOrders

/-- A card policy command of a device. -/
def PolicyOf (tenant device : Uuid) (row : CommandRow) : Prop :=
  row.tenantId = tenant ∧ row.deviceId = device ∧ row.kind = .updateCardPolicy

instance (tenant device : Uuid) (row : CommandRow) : Decidable (PolicyOf tenant device row) :=
  inferInstanceAs (Decidable (_ ∧ _ ∧ _))

theorem PolicyOf.touched {tenant device : Uuid} {answered : Option Uuid} {row after : CommandRow}
    (touch : Touched answered row after) :
    PolicyOf tenant device after ↔ PolicyOf tenant device row := by
  obtain ⟨_, owner, device_, kind, _⟩ := touch.fields
  unfold PolicyOf
  rw [owner, device_, kind]

/-- Every command is there afterwards, and every card policy was there before. -/
structure PoliciesKept (answered : Option Uuid) (db db' : CommandDb) : Prop where
  onward : ∀ row ∈ db.commands, ∃ after ∈ db'.commands, Touched answered row after
  back : ∀ after ∈ db'.commands, after.kind = .updateCardPolicy →
    ∃ row ∈ db.commands, Touched answered row after

theorem PoliciesKept.refl (answered : Option Uuid) (db : CommandDb) : PoliciesKept answered db db :=
  ⟨fun row member => ⟨row, member, .kept⟩, fun row member _ => ⟨row, member, .kept⟩⟩

section Commands

variable {world : World} {args : EnqueueArgs} {draw : Draw} {at_ : Timestamp} {db db' : CommandDb}

theorem enqueued_cases :
    enqueued world args draw at_ db = db ∨
    (¬ KeyTaken db args.tenantId args.idempotencyKey ∧
      (∀ other ∈ db.commands, other.id ≠ draw.commandId) ∧
      ∀ other, other ∈ (enqueued world args draw at_ db).commands ↔
        other ∈ db.commands ∨ other = args.command draw.commandId at_) := by
  unfold enqueued
  split
  · next after row done =>
    rcases enqueueCommand_cases done with ⟨same, _⟩ | ⟨rfl, free, fresh, members⟩
    · exact Or.inl same
    · exact Or.inr ⟨free, fresh, members⟩
  · exact Or.inl rfl

theorem mem_enqueued_of_mem {row : CommandRow} (member : row ∈ db.commands) :
    row ∈ (enqueued world args draw at_ db).commands := by
  rcases @enqueued_cases world args draw at_ db with same | ⟨_, _, members⟩
  · rwa [same]
  · exact (members row).mpr (Or.inl member)

theorem mem_enqueued {row : CommandRow} (member : row ∈ (enqueued world args draw at_ db).commands) :
    row ∈ db.commands ∨ (row = args.command draw.commandId at_ ∧
      ¬ KeyTaken db args.tenantId args.idempotencyKey ∧
      ∀ other ∈ db.commands, other.id ≠ draw.commandId) := by
  rcases @enqueued_cases world args draw at_ db with same | ⟨free, fresh, members⟩
  · rw [same] at member
    exact Or.inl member
  · rcases (members row).mp member with old | new
    · exact Or.inl old
    · exact Or.inr ⟨new, free, fresh⟩

/-- The lifecycle queues no card policy. -/
theorem lifecycle_keeps {calendar : Calendar} {op : CommandOp} (other : ordersPolicy op = false)
    (h : op.apply calendar db = .ok db') : PoliciesKept (answers op) db db' := by
  obtain ⟨onward, back⟩ := @apply_keeps_kind _ _ _ .updateCardPolicy _ (by
    rintro registered context args id outboxId now rfl policy
    simp [ordersPolicy, policy] at other) h
  exact ⟨onward, back⟩

/-- The command the next statement of a handler enqueues, and the time it is issued. -/
def orders (draw : Draw) : Handler → Option (EnqueueArgs × Timestamp)
  | .pushing tenant version rows (device :: _) =>
    some (pushArgs tenant device version rows draw.gateway, draw.database)
  | .resuming tenant device version rows =>
    some (pushArgs tenant device version rows draw.gateway, draw.database)
  | .redelivering tenant device row payload now started =>
    some (repeatArgs tenant device row payload now, started)
  | _ => none

theorem advance_commands {cards : CardDb} (handler : Handler) :
    (advance world draw cards db handler).1 =
      match orders draw handler with
      | some (args, at_) => enqueued world args draw at_ db
      | none => db := by
  cases handler with
  | saved tenant => by_cases empty : cards.list tenant = [] <;> simp [advance, orders, empty]
  | listed => rfl
  | pushing tenant version rows devices => cases devices <;> rfl
  | versioned tenant device version =>
    by_cases empty : cards.list tenant = [] <;> simp [advance, orders, empty]
  | resuming => rfl
  | redelivering => rfl

end Commands

/-- The state after a run. -/
def reached (world : World) (events : List Event) : Delivery := events.foldl (step world) Delivery.start

theorem reached_snoc (world : World) (events : List Event) (event : Event) :
    reached world (events ++ [event]) = step world (reached world events) event := by
  rw [reached, List.foldl_append]
  rfl

section Steps

variable {world : World} {state : Delivery} {event : Event}

/-- A step enqueues the command of one handler, or keeps the card policies. -/
theorem step_commands (world : World) (state : Delivery) (event : Event) :
    (∃ index draw handler args at_, event = .advance index draw ∧
      state.handlers[index]? = some handler ∧ orders draw handler = some (args, at_) ∧
      (step world state event).commands = enqueued world args draw at_ state.commands) ∨
    (∃ op, event = .lifecycle op ∧
      PoliciesKept (answers op) state.commands (step world state event).commands) ∨
    (step world state event).commands = state.commands := by
  cases event with
  | save tenant policy now =>
    right; right
    unfold step
    dsimp only
    split <;> rfl
  | delete tenant iccid =>
    right; right
    unfold step
    dsimp only
    split <;> rfl
  | resume tenant device held =>
    right; right
    unfold step
    dsimp only
    split <;> rfl
  | read tenant device now started => exact Or.inr (Or.inr rfl)
  | drop index => exact Or.inr (Or.inr rfl)
  | advance index draw =>
    unfold step
    dsimp only
    cases found : state.handlers[index]? with
    | none => exact Or.inr (Or.inr rfl)
    | some handler =>
      have written := @advance_commands world draw state.commands state.cards handler
      cases ordered : orders draw handler with
      | none =>
        rw [ordered] at written
        exact Or.inr (Or.inr written)
      | some order =>
        rw [ordered] at written
        exact Or.inl ⟨index, draw, handler, order.1, order.2, rfl, found, ordered, written⟩
  | lifecycle op =>
    right; left
    refine ⟨op, rfl, ?_⟩
    unfold step
    dsimp only
    by_cases policy : ordersPolicy op = true
    · rw [if_pos policy]
      exact .refl _ _
    · rw [if_neg policy]
      split
      · next commands done => exact lifecycle_keeps (by simpa using policy) done
      · exact .refl _ _

/-- Commands stay, with what was ordered. -/
def Grown (db db' : CommandDb) : Prop :=
  ∀ row ∈ db.commands, ∃ after ∈ db'.commands, order after = order row

theorem step_grown (world : World) (state : Delivery) (event : Event) :
    Grown state.commands (step world state event).commands := by
  intro row member
  rcases step_commands world state event with ⟨_, _, _, _, _, _, _, _, written⟩ | ⟨_, _, kept⟩ | same
  · rw [written]
    exact ⟨row, mem_enqueued_of_mem member, rfl⟩
  · obtain ⟨after, inAfter, touched⟩ := kept.onward row member
    exact ⟨after, inAfter, touched.order_eq⟩
  · rw [same]
    exact ⟨row, member, rfl⟩

theorem steps_grown (world : World) (state : Delivery) (events : List Event) :
    Grown state.commands (events.foldl (step world) state).commands := by
  refine @foldl_rel _ _ (step world) (fun a b => Grown a.commands b.commands) ?_ ?_ ?_ state events
  · exact fun state row member => ⟨row, member, rfl⟩
  · intro a b c first second row member
    obtain ⟨middle, inMiddle, same⟩ := first row member
    obtain ⟨after, inAfter, again⟩ := second middle inMiddle
    exact ⟨after, inAfter, again.trans same⟩
  · exact fun state event => step_grown world state event

/-- The handler a step starts, or what it leaves of one. -/
inductive Started (world : World) (state : Delivery) : Event → Handler → Prop
  | save {tenant : Uuid} {policy : Policy} {now : Timestamp} {cards : CardDb}
    (done : state.cards.save tenant policy now = .ok cards) :
    Started world state (.save tenant policy now) (.saved tenant)
  | delete {tenant : Uuid} {iccid : String} {cards : CardDb}
    (done : state.cards.delete tenant iccid = .ok cards) :
    Started world state (.delete tenant iccid) (.saved tenant)
  | resume (tenant device : Uuid) (held : String) :
    Started world state (.resume tenant device held)
      (.versioned tenant device (state.cards.version tenant))
  | read {tenant device : Uuid} {now started : Timestamp} {handler : Handler}
    (found : redelivery world tenant device now started state.commands = some handler) :
    Started world state (.read tenant device now started) handler
  | advance {index : Nat} {draw : Draw} {before handler : Handler}
    (found : state.handlers[index]? = some before)
    (left : (advance world draw state.cards state.commands before).2 = some handler) :
    Started world state (.advance index draw) handler

theorem mem_replaceAt {handlers : List Handler} {index : Nat} {left : Option Handler}
    {handler : Handler} (member : handler ∈ replaceAt handlers index left) :
    handler ∈ handlers ∨ left = some handler := by
  unfold replaceAt at member
  rw [List.mem_append, List.mem_append, Option.mem_toList] at member
  rcases member with (early | new) | late
  · exact Or.inl (List.mem_of_mem_take early)
  · exact Or.inr new
  · exact Or.inl (List.mem_of_mem_drop late)

theorem step_handlers {handler : Handler} (member : handler ∈ (step world state event).handlers) :
    handler ∈ state.handlers ∨ Started world state event handler := by
  cases event with
  | save tenant policy now =>
    unfold step at member
    dsimp only at member
    split at member
    · next cards done =>
      rcases List.mem_append.mp member with old | new
      · exact Or.inl old
      · rw [List.mem_singleton.mp new]
        exact Or.inr (.save done)
    · exact Or.inl member
  | delete tenant iccid =>
    unfold step at member
    dsimp only at member
    split at member
    · next cards done =>
      rcases List.mem_append.mp member with old | new
      · exact Or.inl old
      · rw [List.mem_singleton.mp new]
        exact Or.inr (.delete done)
    · exact Or.inl member
  | resume tenant device held =>
    unfold step at member
    dsimp only at member
    split at member
    · exact Or.inl member
    · rcases List.mem_append.mp member with old | new
      · exact Or.inl old
      · rw [List.mem_singleton.mp new]
        exact Or.inr (.resume tenant device held)
  | read tenant device now started =>
    rcases List.mem_append.mp member with old | new
    · exact Or.inl old
    · exact Or.inr (.read (Option.mem_toList.mp new))
  | drop index =>
    rcases mem_replaceAt member with old | new
    · exact Or.inl old
    · cases new
  | advance index draw =>
    unfold step at member
    dsimp only at member
    cases found : state.handlers[index]? with
    | none =>
      rw [found] at member
      exact Or.inl member
    | some before =>
      rw [found] at member
      rcases mem_replaceAt member with old | new
      · exact Or.inl old
      · exact Or.inr (.advance found new)
  | lifecycle op =>
    left
    unfold step at member
    dsimp only at member
    split at member
    · exact member
    · split at member <;> exact member

/-- The card policies after a step. -/
theorem step_cards (world : World) (state : Delivery) (event : Event) :
    (step world state event).cards =
      match event with
      | .save tenant policy now =>
        (state.cards.save tenant policy now).toOption.getD state.cards
      | .delete tenant iccid => (state.cards.delete tenant iccid).toOption.getD state.cards
      | _ => state.cards := by
  cases event with
  | save tenant policy now =>
    unfold step
    dsimp only
    cases state.cards.save tenant policy now <;> rfl
  | delete tenant iccid =>
    unfold step
    dsimp only
    cases state.cards.delete tenant iccid <;> rfl
  | resume tenant device held =>
    unfold step
    dsimp only
    split <;> rfl
  | read => rfl
  | drop => rfl
  | advance index draw =>
    unfold step
    dsimp only
    split <;> rfl
  | lifecycle op =>
    unfold step
    dsimp only
    split
    · rfl
    · split <;> rfl

end Steps

/-! ## The newest command -/

/-- No card policy command of the device was issued after it. -/
structure Newest (tenant device : Uuid) (db : CommandDb) (row : CommandRow) : Prop where
  member : row ∈ db.commands
  policy : PolicyOf tenant device row
  latest : ∀ other ∈ db.commands, PolicyOf tenant device other → other.issuedAt ≤ row.issuedAt

instance (tenant device : Uuid) (db : CommandDb) (row : CommandRow) :
    Decidable (Newest tenant device db row) :=
  decidable_of_iff (row ∈ db.commands ∧ PolicyOf tenant device row ∧
      ∀ other ∈ db.commands, PolicyOf tenant device other → other.issuedAt ≤ row.issuedAt)
    ⟨fun h => ⟨h.1, h.2.1, h.2.2⟩, fun h => ⟨h.member, h.policy, h.latest⟩⟩

/-- The choice of the SELECT between what it holds and the next row. -/
def later (best : Option CommandRow) (row : CommandRow) : Option CommandRow :=
  match best with
  | some held => if held.issuedAt < row.issuedAt then some row else some held
  | none => some row

theorem foldl_later {rows : List CommandRow} {best : Option CommandRow} {found : CommandRow}
    (h : rows.foldl later best = some found) :
    (found ∈ rows ∨ best = some found) ∧ (∀ row ∈ rows, row.issuedAt ≤ found.issuedAt) ∧
      ∀ held, best = some held → held.issuedAt ≤ found.issuedAt := by
  induction rows generalizing best with
  | nil =>
    refine ⟨Or.inr h, fun row member => absurd member List.not_mem_nil, ?_⟩
    intro held same
    cases same.symm.trans h
    exact le_refl _
  | cons row rest ih =>
    obtain ⟨source, others, first⟩ := ih h
    have taken : row.issuedAt ≤ found.issuedAt ∧ ∀ held, best = some held →
        held.issuedAt ≤ found.issuedAt := by
      cases best with
      | none => exact ⟨first row rfl, fun held no => by cases no⟩
      | some held =>
        by_cases newer : held.issuedAt < row.issuedAt
        · have bound := first row (if_pos newer)
          refine ⟨bound, fun other same => ?_⟩
          cases same
          exact newer.le.trans bound
        · have bound := first held (if_neg newer)
          refine ⟨(not_lt.mp newer).trans bound, fun other same => ?_⟩
          cases same
          exact bound
    refine ⟨?_, ?_, taken.2⟩
    · rcases source with inRest | same
      · exact Or.inl (List.mem_cons_of_mem _ inRest)
      · cases best with
        | none =>
          cases same
          exact Or.inl List.mem_cons_self
        | some held =>
          by_cases newer : held.issuedAt < row.issuedAt
          · cases (if_pos newer).symm.trans same
            exact Or.inl List.mem_cons_self
          · cases (if_neg newer).symm.trans same
            exact Or.inr rfl
    · intro other member
      rcases List.mem_cons.mp member with rfl | inRest
      · exact taken.1
      · exact others other inRest

theorem newestCardPolicy_newest {tenant device : Uuid} {db : CommandDb} {row : CommandRow}
    (h : newestCardPolicy tenant device db = some row) : Newest tenant device db row := by
  have selected : ∀ other, other ∈ db.commands.rows.filter (fun row =>
      row.tenantId = tenant && row.deviceId = device && row.kind = .updateCardPolicy) ↔
      other ∈ db.commands ∧ PolicyOf tenant device other := by
    intro other
    simp [List.mem_filter, PolicyOf, Table.mem_rows, and_assoc]
  obtain ⟨source, latest, _⟩ := foldl_later (h : (db.commands.rows.filter (fun row =>
    row.tenantId = tenant && row.deviceId = device && row.kind = .updateCardPolicy)).foldl later none =
      some row)
  rcases source with inRows | no
  · obtain ⟨member, policy⟩ := (selected row).mp inRows
    exact ⟨member, policy, fun other inTable own => latest other ((selected other).mpr ⟨inTable, own⟩)⟩
  · cases no

/-- What a pending read found to repeat. -/
theorem redelivery_found {world : World} {tenant device : Uuid} {now started : Timestamp}
    {db : CommandDb} {handler : Handler}
    (h : redelivery world tenant device now started db = some handler) :
    ∃ row payload, handler = .redelivering tenant device row payload now started ∧
      Newest tenant device db row ∧ planCardPolicyRedelivery row now = none ∧
      contractCardPolicyPayload world.number row.payload = some payload := by
  unfold redelivery at h
  cases found : newestCardPolicy tenant device db with
  | none =>
    rw [found] at h
    cases h
  | some row =>
    rw [found] at h
    cases plan : planCardPolicyRedelivery row now with
    | some reason =>
      simp [plan] at h
    | none =>
      cases again : contractCardPolicyPayload world.number row.payload with
      | none => simp [plan, again] at h
      | some payload =>
        simp only [plan, again, Option.bind_eq_bind, Option.bind_some, Option.isSome_none,
          Bool.false_eq_true, if_false, pure, Option.some.injEq] at h
        exact ⟨row, payload, h.symm, newestCardPolicy_newest found, plan, again⟩

/-! ## A world to run in -/

def anyCalendar : Calendar := ⟨fun at_ _ => some at_, fun at_ _ => some at_, fun _ => ""⟩

/-- Every device is registered. -/
def plainWorld : World := ⟨anyCalendar, fun _ _ => true, some⟩

def anyDraw : Draw := ⟨1, 1, 20000000, 20000000, [7]⟩

def cardPolicy (iccid : String) (smsSend : Option Bool) : Policy :=
  ⟨iccid, true, smsSend, none, none, none, "cn", none, ""⟩

def firstCard : String := "8986000000000000001"

def secondCard : String := "8986000000000000002"

end VodogeCloud.Guarantees.PolicyCommands
