import VodogeCloud.Guarantees.CardVersions
import VodogeCloud.Guarantees.PolicyRedelivery

/-!
# Whether a redelivered set is the current one

A redelivery repeats the newest command of the device, on the understanding that the
newest command carries the current set. An edit breaks that until its push has queued
a newer command for every device that has one, and the push does not always do so: it
sends nothing of an emptied set, and under a version that is back it finds the key of
an older command taken. The understanding holds where every edit is pushed to its end,
newer commands and all, before anything else of the tenant begins.
-/

set_option autoImplicit false

namespace VodogeCloud.Guarantees.CurrentPolicies

open VodogeCloud.Lib VodogeCloud.Lib.Transactions
open VodogeCloud.Source.Postgres VodogeCloud.Source.CommandTables
open VodogeCloud.Source.CommandLifecycle VodogeCloud.Source.PendingCommands
open VodogeCloud.Source.CardPolicies VodogeCloud.Source.CardDelivery
open VodogeCloud.Guarantees.EnqueuedCommands VodogeCloud.Guarantees.CommandOrders
open VodogeCloud.Guarantees.CardRenderings VodogeCloud.Guarantees.PolicyCommands
open VodogeCloud.Guarantees.CardVersions VodogeCloud.Guarantees.PolicyRedelivery

/-! ## The condition -/

/-- The payload reads as the rows, under some version. -/
def CarriesSet (number : Rat → Option Rat) (payload : Jsonb) (rows : List PolicyRow) : Prop :=
  ∃ version, Carries number payload version rows

/-- The newest command of the device carries the current set of the tenant. -/
def UpToDate (world : World) (cards : CardDb) (commands : CommandDb) (tenant device : Uuid) : Prop :=
  ∀ row ∈ commands.commands, Newest tenant device commands row →
    CarriesSet world.number row.payload (cards.list tenant)

/-- The push of an edit. -/
def edits : Handler → Bool
  | .saved _ => true
  | .listed _ _ => true
  | .pushing _ _ _ _ => true
  | _ => false

/-- The next statement of a push leaves no device behind that has a command. -/
def Completes (world : World) (draw : Draw) (cards : CardDb) (commands : CommandDb) : Handler → Prop
  | .saved tenant => cards.list tenant = [] →
    ∀ row ∈ commands.commands, row.tenantId = tenant → row.kind ≠ .updateCardPolicy
  | .listed tenant _ => ∀ row ∈ commands.commands, row.tenantId = tenant →
    row.kind = .updateCardPolicy → row.deviceId ∈ draw.devices
  | .pushing tenant version rows (device :: _) =>
    UpToDate world cards commands tenant device ∨
    (¬ KeyTaken commands tenant (pushArgs tenant device version rows draw.gateway).idempotencyKey ∧
      Insertable world.registered (pushArgs tenant device version rows draw.gateway) draw.commandId
        draw.outboxId draw.database commands ∧
      ∀ row ∈ commands.commands, PolicyOf tenant device row → row.issuedAt < draw.database)
  | _ => True

/-- An edit commits while nothing of the tenant is under way, nothing of the tenant
starts before its push is over, and the push is neither dropped nor leaves a device
behind. -/
def Orderly (world : World) (tenant : Uuid) (state : Delivery) : Event → Prop
  | .save owner _ _ => owner = tenant → ∀ handler ∈ state.handlers, handler.tenant ≠ tenant
  | .delete owner _ => owner = tenant → ∀ handler ∈ state.handlers, handler.tenant ≠ tenant
  | .resume owner _ _ => owner = tenant →
    ∀ handler ∈ state.handlers, handler.tenant = tenant → edits handler = false
  | .read owner _ _ _ => owner = tenant →
    ∀ handler ∈ state.handlers, handler.tenant = tenant → edits handler = false
  | .drop index => ∀ handler ∈ state.handlers[index]?, handler.tenant = tenant → edits handler = false
  | .advance index draw => ∀ handler ∈ state.handlers[index]?, handler.tenant = tenant →
    Completes world draw state.cards state.commands handler
  | .lifecycle _ => True

/-! ## Newest commands -/

section Newest

variable {world : World} {cards : CardDb} {db db' : CommandDb} {tenant device : Uuid}

theorem upToDate_kept {answered : Option Uuid} (kept : PoliciesKept answered db db')
    (current : UpToDate world cards db tenant device) : UpToDate world cards db' tenant device := by
  intro after inAfter newest
  obtain ⟨row, member, touched⟩ := kept.back after inAfter newest.policy.2.2
  obtain ⟨_, _, _, _, payloads, _, issued⟩ := touched.fields
  rw [payloads]
  refine current row member ⟨member, (PolicyOf.touched touched).mp newest.policy, ?_⟩
  intro rival inRival policy
  obtain ⟨rivalAfter, inRivalAfter, rivalTouched⟩ := kept.onward rival inRival
  obtain ⟨_, _, _, _, _, _, rivalIssued⟩ := rivalTouched.fields
  rw [← rivalIssued, ← issued]
  exact newest.latest rivalAfter inRivalAfter ((PolicyOf.touched rivalTouched).mpr policy)

/-- What is newest beside a new command was newest before it. -/
theorem newest_before {new row : CommandRow}
    (members : ∀ other, other ∈ db'.commands ↔ other ∈ db.commands ∨ other = new)
    (member : row ∈ db.commands) (newest : Newest tenant device db' row) :
    Newest tenant device db row :=
  ⟨member, newest.policy, fun rival inRival policy =>
    newest.latest rival ((members rival).mpr (Or.inl inRival)) policy⟩

/-- A command that carries the current set, or is of another device, leaves a device
up to date. -/
theorem upToDate_enqueued {args : EnqueueArgs} {draw : Draw} {at_ : Timestamp}
    (current : UpToDate world cards db tenant device)
    (carries : PolicyOf tenant device (args.command draw.commandId at_) →
      CarriesSet world.number args.payload (cards.list tenant)) :
    UpToDate world cards (enqueued world args draw at_ db) tenant device := by
  rcases @enqueued_cases world args draw at_ db with same | ⟨_, _, members⟩
  · rwa [same]
  · intro row member newest
    rcases (members row).mp member with old | rfl
    · exact current row old (newest_before members old newest)
    · exact carries newest.policy

/-- A new command that is later than the others of its device is the newest. -/
theorem upToDate_inserted {args : EnqueueArgs} {draw : Draw} {at_ : Timestamp}
    (fit : Insertable world.registered args draw.commandId draw.outboxId at_ db)
    (free : ¬ KeyTaken db args.tenantId args.idempotencyKey)
    (own : PolicyOf tenant device (args.command draw.commandId at_))
    (later : ∀ row ∈ db.commands, PolicyOf tenant device row → row.issuedAt < at_)
    (carries : CarriesSet world.number args.payload (cards.list tenant)) :
    UpToDate world cards (enqueued world args draw at_ db) tenant device := by
  obtain ⟨after, done⟩ := enqueueCommand_new fit free
  have written : enqueued world args draw at_ db = after := by
    unfold enqueued
    rw [done]
  have members : ∀ other, other ∈ after.commands ↔
      other ∈ db.commands ∨ other = args.command draw.commandId at_ := by
    rcases enqueueCommand_cases done with ⟨_, member, _, named, _⟩ | ⟨_, _, _, members⟩
    · exact absurd ⟨_, member, rfl, named⟩ free
    · exact members
  rw [written]
  intro row member newest
  rcases (members row).mp member with old | rfl
  · have bound := newest.latest _ ((members _).mpr (Or.inr rfl)) own
    exact absurd (later row old newest.policy) (not_lt.mpr bound)
  · exact carries

end Newest

theorem carriesSet_push {number : Rat → Option Rat} (tenant device : Uuid) (version : String)
    (rows : List PolicyRow) (gateway : Timestamp) :
    CarriesSet number (pushArgs tenant device version rows gateway).payload rows :=
  ⟨version, carries_push version rows⟩

/-! ## Handlers -/

section Handlers

variable {tenant : Uuid} {handlers : List Handler} {index : Nat} {handler : Handler}

theorem replaceAt_split (found : handlers[index]? = some handler) :
    ∃ before after, handlers = before ++ handler :: after ∧
      ∀ left, replaceAt handlers index left = before ++ left.toList ++ after := by
  obtain ⟨small, here⟩ := List.getElem?_eq_some_iff.mp found
  refine ⟨handlers.take index, handlers.drop (index + 1), ?_, fun left => rfl⟩
  rw [← here, List.getElem_cons_drop, List.take_append_drop]

/-- The handlers of a tenant. -/
def ofTenant (tenant : Uuid) (handlers : List Handler) : List Handler :=
  handlers.filter fun handler => handler.tenant = tenant

theorem mem_ofTenant : handler ∈ ofTenant tenant handlers ↔ handler ∈ handlers ∧ handler.tenant = tenant := by
  simp [ofTenant]

/-- What is left in the place of the tenant's only handler is its only handler. -/
theorem ofTenant_replaceAt {left : Option Handler} (found : handlers[index]? = some handler)
    (own : handler.tenant = tenant) (alone : ofTenant tenant handlers = [handler]) :
    ofTenant tenant (replaceAt handlers index left) = ofTenant tenant left.toList := by
  obtain ⟨before, after, split_, replaced⟩ := replaceAt_split found
  rw [ofTenant, split_, List.filter_append, List.filter_cons_of_pos (by simpa using own)] at alone
  have lengths := congrArg List.length alone
  simp only [List.length_append, List.length_cons, List.length_nil] at lengths
  have early : before.filter (fun handler => handler.tenant = tenant) = [] :=
    List.eq_nil_of_length_eq_zero (by omega)
  have late_ : after.filter (fun handler => handler.tenant = tenant) = [] :=
    List.eq_nil_of_length_eq_zero (by omega)
  rw [replaced, ofTenant, List.filter_append, List.filter_append, early, late_, List.nil_append,
    List.append_nil]
  rfl

/-- Another tenant's handlers come and go unseen. -/
theorem ofTenant_elsewhere {left : Option Handler} (found : handlers[index]? = some handler)
    (other : handler.tenant ≠ tenant) (others : ∀ rest ∈ left, rest.tenant ≠ tenant) :
    ofTenant tenant (replaceAt handlers index left) = ofTenant tenant handlers := by
  obtain ⟨before, after, split_, replaced⟩ := replaceAt_split found
  have nothing : left.toList.filter (fun handler => handler.tenant = tenant) = [] := by
    refine List.filter_eq_nil_iff.mpr fun rest member => ?_
    simpa using others rest (Option.mem_toList.mp member)
  rw [replaced, ofTenant, ofTenant, List.filter_append, List.filter_append, nothing, List.append_nil]
  conv_rhs => rw [split_, List.filter_append, List.filter_cons_of_neg (by simpa using other)]

theorem advance_tenant {world : World} {draw : Draw} {cards : CardDb} {commands : CommandDb}
    {rest : Handler} (left : (advance world draw cards commands handler).2 = some rest) :
    rest.tenant = handler.tenant := by
  cases handler with
  | saved owner =>
    unfold advance at left
    dsimp only at left
    split at left <;> cases left
    rfl
  | listed => cases left; rfl
  | pushing owner version rows devices =>
    cases devices with
    | nil => cases left
    | cons device others => cases left; rfl
  | versioned owner device version =>
    unfold advance at left
    dsimp only at left
    split at left <;> cases left
    rfl
  | resuming => cases left
  | redelivering => cases left

theorem orders_tenant {draw : Draw} {args : EnqueueArgs} {at_ : Timestamp}
    (ordered : orders draw handler = some (args, at_)) : args.tenantId = handler.tenant := by
  cases handler with
  | saved => cases ordered
  | listed => cases ordered
  | versioned => cases ordered
  | pushing owner version rows devices =>
    cases devices with
    | nil => cases ordered
    | cons device others => cases ordered; rfl
  | resuming => cases ordered; rfl
  | redelivering => cases ordered; rfl

end Handlers

/-! ## The invariant -/

/-- What a handler of the tenant holds is the current set, and a push has brought the
devices behind it up to date. -/
def HoldsCurrent (world : World) (cards : CardDb) (commands : CommandDb) (tenant : Uuid) :
    Handler → Prop
  | .listed _ rows => rows = cards.list tenant
  | .pushing _ _ rows devices => rows = cards.list tenant ∧
    ∀ device, device ∉ devices → UpToDate world cards commands tenant device
  | .resuming _ _ _ rows => rows = cards.list tenant
  | .redelivering _ _ _ payload _ _ => CarriesSet world.number payload (cards.list tenant)
  | _ => True

structure InStep (world : World) (tenant : Uuid) (state : Delivery) : Prop where
  alone : ∀ handler ∈ ofTenant tenant state.handlers, edits handler = true →
    ofTenant tenant state.handlers = [handler]
  settled : (∀ handler ∈ ofTenant tenant state.handlers, edits handler = false) →
    ∀ device, UpToDate world state.cards state.commands tenant device
  holds : ∀ handler ∈ ofTenant tenant state.handlers,
    HoldsCurrent world state.cards state.commands tenant handler

section Steps

variable {world : World} {tenant : Uuid} {state state' : Delivery}

theorem holdsCurrent_frame {handler : Handler}
    (cards : state'.cards.list tenant = state.cards.list tenant)
    (commands : ∀ device, UpToDate world state.cards state.commands tenant device →
      UpToDate world state'.cards state'.commands tenant device)
    (held : HoldsCurrent world state.cards state.commands tenant handler) :
    HoldsCurrent world state'.cards state'.commands tenant handler := by
  cases handler with
  | saved => trivial
  | listed owner rows =>
    show rows = _
    rw [cards]
    exact held
  | pushing owner version rows devices =>
    exact ⟨held.1.trans cards.symm, fun device outside => commands device (held.2 device outside)⟩
  | versioned => trivial
  | resuming owner device version rows =>
    show rows = _
    rw [cards]
    exact held
  | redelivering owner device row payload now started =>
    show CarriesSet _ payload _
    rw [cards]
    exact held

/-- The same set, the same handlers of the tenant, and no device left behind. -/
theorem inStep_frame (inStep : InStep world tenant state)
    (handlers : ofTenant tenant state'.handlers = ofTenant tenant state.handlers)
    (cards : state'.cards.list tenant = state.cards.list tenant)
    (commands : ∀ device, UpToDate world state.cards state.commands tenant device →
      UpToDate world state'.cards state'.commands tenant device) : InStep world tenant state' := by
  refine ⟨?_, ?_, ?_⟩
  · rw [handlers]
    exact inStep.alone
  · rw [handlers]
    exact fun idle device => commands device (inStep.settled idle device)
  · rw [handlers]
    exact fun handler member => holdsCurrent_frame cards commands (inStep.holds handler member)

theorem upToDate_list {cards cards' : CardDb} {commands : CommandDb} {device : Uuid}
    (same : cards'.list tenant = cards.list tenant)
    (current : UpToDate world cards commands tenant device) :
    UpToDate world cards' commands tenant device := by
  unfold UpToDate
  rw [same]
  exact current

/-- One push and nothing else of the tenant. -/
theorem inStep_only {handler : Handler} (only : ofTenant tenant state'.handlers = [handler])
    (active : edits handler = true)
    (holds : HoldsCurrent world state'.cards state'.commands tenant handler) :
    InStep world tenant state' := by
  refine ⟨?_, ?_, ?_⟩
  · rw [only]
    intro other member _
    rw [List.mem_singleton.mp member]
  · rw [only]
    intro idle
    rw [idle handler List.mem_cons_self] at active
    cases active
  · rw [only]
    intro other member
    rw [List.mem_singleton.mp member]
    exact holds

/-- Nothing of the tenant and every device up to date. -/
theorem inStep_idle (nothing : ofTenant tenant state'.handlers = [])
    (current : ∀ device, UpToDate world state'.cards state'.commands tenant device) :
    InStep world tenant state' := by
  refine ⟨?_, fun _ => current, ?_⟩
  · rw [nothing]
    exact fun handler member => absurd member List.not_mem_nil
  · rw [nothing]
    exact fun handler member => absurd member List.not_mem_nil

/-- An edit starts the push that is then alone. -/
theorem inStep_edited (quiet : ∀ handler ∈ state.handlers, handler.tenant ≠ tenant)
    (handlers : state'.handlers = state.handlers ++ [.saved tenant]) : InStep world tenant state' := by
  have nothing : state.handlers.filter (fun handler => handler.tenant = tenant) = [] :=
    List.filter_eq_nil_iff.mpr fun handler member => by simpa using quiet handler member
  refine @inStep_only world tenant state' (.saved tenant) ?_ rfl trivial
  rw [handlers, ofTenant, List.filter_append, nothing]
  simp [Handler.tenant]

/-- An edit of another tenant. -/
theorem inStep_elsewhere {owner : Uuid} (inStep : InStep world tenant state) (other : owner ≠ tenant)
    (handlers : state'.handlers = state.handlers ++ [.saved owner])
    (cards : state'.cards.list tenant = state.cards.list tenant)
    (commands : state'.commands = state.commands) : InStep world tenant state' := by
  refine inStep_frame inStep ?_ cards fun device current => ?_
  · rw [handlers, ofTenant, List.filter_append]
    simp [ofTenant, Handler.tenant, other]
  · rw [commands]
    exact upToDate_list cards current

/-- A handler that is no push may start while there is no push. -/
theorem inStep_started {new : Handler} (inStep : InStep world tenant state)
    (idle : new.tenant = tenant → ∀ handler ∈ state.handlers, handler.tenant = tenant →
      edits handler = false)
    (plain : edits new = false)
    (holds : new.tenant = tenant → HoldsCurrent world state.cards state.commands tenant new) :
    InStep world tenant { state with handlers := state.handlers ++ [new] } := by
  by_cases own : new.tenant = tenant
  · have all : ofTenant tenant (state.handlers ++ [new]) = ofTenant tenant state.handlers ++ [new] := by
      rw [ofTenant, List.filter_append]
      simp [ofTenant, own]
    have before : ∀ handler ∈ ofTenant tenant state.handlers, edits handler = false :=
      fun handler member => idle own handler (mem_ofTenant.mp member).1 (mem_ofTenant.mp member).2
    refine ⟨?_, fun _ => inStep.settled before, ?_⟩
    · intro handler member active
      rw [all, List.mem_append, List.mem_singleton] at member
      rcases member with old | rfl
      · rw [before handler old] at active
        cases active
      · rw [plain] at active
        cases active
    · intro handler member
      rw [all, List.mem_append, List.mem_singleton] at member
      rcases member with old | rfl
      · exact inStep.holds handler old
      · exact holds own
  · refine inStep_frame inStep ?_ rfl fun _ current => current
    rw [ofTenant, List.filter_append]
    simp [ofTenant, own]

theorem inStep_dropped {index : Nat} (inStep : InStep world tenant state)
    (guard_ : ∀ handler ∈ state.handlers[index]?, handler.tenant = tenant → edits handler = false) :
    InStep world tenant { state with handlers := replaceAt state.handlers index none } := by
  have subset : ∀ handler ∈ ofTenant tenant (replaceAt state.handlers index none),
      handler ∈ ofTenant tenant state.handlers := by
    intro handler member
    obtain ⟨inRest, own⟩ := mem_ofTenant.mp member
    rcases mem_replaceAt inRest with old | new
    · exact mem_ofTenant.mpr ⟨old, own⟩
    · cases new
  cases found : state.handlers[index]? with
  | none =>
    have same : replaceAt state.handlers index none = state.handlers := by
      have long := List.getElem?_eq_none_iff.mp found
      rw [replaceAt, List.take_of_length_le long, List.drop_of_length_le (by omega)]
      simp
    rw [same]
    exact inStep
  | some dropped =>
    by_cases own : dropped.tenant = tenant
    · have plain := guard_ dropped found own
      have idle : ∀ handler ∈ ofTenant tenant state.handlers, edits handler = false := by
        intro handler member
        by_contra active
        have only := inStep.alone handler member (by simpa using active)
        have here : dropped ∈ ofTenant tenant state.handlers :=
          mem_ofTenant.mpr ⟨List.mem_of_getElem? found, own⟩
        rw [only, List.mem_singleton] at here
        rw [here] at plain
        exact active plain
      refine ⟨fun handler member active => ?_, fun _ => inStep.settled idle,
        fun handler member => inStep.holds handler (subset handler member)⟩
      rw [idle handler (subset handler member)] at active
      cases active
    · refine inStep_frame inStep (ofTenant_elsewhere found own ?_) rfl fun _ current => current
      exact fun rest no => absurd no (Option.not_mem_none rest)

/-- A handler that is no push finds no push under way. -/
theorem idle_of_plain {handler : Handler} (inStep : InStep world tenant state)
    (member : handler ∈ ofTenant tenant state.handlers) (plain : edits handler = false) :
    ∀ other ∈ ofTenant tenant state.handlers, edits other = false := by
  intro other inOther
  by_contra active
  rw [Bool.not_eq_false] at active
  have only := inStep.alone other inOther active
  rw [only, List.mem_singleton] at member
  rw [← member, plain] at active
  cases active

/-- A reconcile or a redelivery goes on. -/
theorem inStep_plain {index : Nat} {handler : Handler} {left : Option Handler} {commands : CommandDb}
    (inStep : InStep world tenant state) (found : state.handlers[index]? = some handler)
    (own : handler.tenant = tenant) (plain : edits handler = false)
    (kept : ∀ device, UpToDate world state.cards state.commands tenant device →
      UpToDate world state.cards commands tenant device)
    (rest : ∀ new ∈ left, edits new = false ∧ HoldsCurrent world state.cards commands tenant new) :
    InStep world tenant
      { state with commands := commands, handlers := replaceAt state.handlers index left } := by
  have idle := idle_of_plain inStep (mem_ofTenant.mpr ⟨List.mem_of_getElem? found, own⟩) plain
  have sources : ∀ other ∈ ofTenant tenant (replaceAt state.handlers index left),
      other ∈ ofTenant tenant state.handlers ∨ other ∈ left := by
    intro other member
    obtain ⟨inRest, ownOther⟩ := mem_ofTenant.mp member
    rcases mem_replaceAt inRest with old | new
    · exact Or.inl (mem_ofTenant.mpr ⟨old, ownOther⟩)
    · exact Or.inr new
  refine ⟨?_, fun _ device => kept device (inStep.settled idle device), ?_⟩
  · intro other member active
    rcases sources other member with old | new
    · rw [idle other old] at active
      cases active
    · rw [(rest other new).1] at active
      cases active
  · intro other member
    rcases sources other member with old | new
    · exact @holdsCurrent_frame world tenant state { state with commands := commands } other rfl kept
        (inStep.holds other old)
    · exact (rest other new).2

/-- A push lists the policies, or ends where there are none. -/
theorem inStep_saved {index : Nat} {draw : Draw} (inStep : InStep world tenant state)
    (found : state.handlers[index]? = some (.saved tenant))
    (complete : Completes world draw state.cards state.commands (.saved tenant)) :
    InStep world tenant
      { state with
        commands := (advance world draw state.cards state.commands (.saved tenant)).1
        handlers := replaceAt state.handlers index
          (advance world draw state.cards state.commands (.saved tenant)).2 } := by
  have only := inStep.alone _ (mem_ofTenant.mpr ⟨List.mem_of_getElem? found, rfl⟩) rfl
  by_cases empty : state.cards.list tenant = []
  · have over_ : advance world draw state.cards state.commands (.saved tenant) =
        (state.commands, none) := by
      simp [advance, empty]
    rw [over_]
    refine inStep_idle (ofTenant_replaceAt found rfl only) fun device row member newest => ?_
    exact absurd newest.policy.2.2 (complete empty row member newest.policy.1)
  · have on : advance world draw state.cards state.commands (.saved tenant) =
        (state.commands, some (.listed tenant (state.cards.list tenant))) := by
      simp [advance, empty]
    rw [on]
    refine @inStep_only world tenant _ (.listed tenant (state.cards.list tenant))
      ((ofTenant_replaceAt found rfl only).trans ?_) rfl rfl
    simp [ofTenant, Handler.tenant]

/-- A push is at a device less, which has the policies now. -/
theorem inStep_pushed {index : Nat} {draw : Draw} {version : String} {rows : List PolicyRow} {device : Uuid}
    {rest : List Uuid} (inStep : InStep world tenant state)
    (found : state.handlers[index]? = some (.pushing tenant version rows (device :: rest)))
    (complete : Completes world draw state.cards state.commands (.pushing tenant version rows (device :: rest))) :
    InStep world tenant
      { state with
        commands := (advance world draw state.cards state.commands (.pushing tenant version rows (device :: rest))).1
        handlers := replaceAt state.handlers index
          (advance world draw state.cards state.commands (.pushing tenant version rows (device :: rest))).2 } := by
  have here : Handler.pushing tenant version rows (device :: rest) ∈ ofTenant tenant state.handlers :=
    mem_ofTenant.mpr ⟨List.mem_of_getElem? found, rfl⟩
  have holds := inStep.holds _ here
  have only := inStep.alone _ here rfl
  have carried : CarriesSet world.number
      (pushArgs tenant device version rows draw.gateway).payload (state.cards.list tenant) := by
    rw [← holds.1]
    exact carriesSet_push tenant device version rows draw.gateway
  refine @inStep_only world tenant _ (.pushing tenant version rows rest)
    ((ofTenant_replaceAt found rfl only).trans ?_) rfl ⟨holds.1, fun target outside => ?_⟩
  · simp [advance, ofTenant, Handler.tenant]
  · by_cases same : target = device
    · subst same
      rcases complete with current | ⟨free, fit, later⟩
      · exact upToDate_enqueued current fun _ => carried
      · exact upToDate_inserted fit free ⟨rfl, rfl, rfl⟩ later carried
    · have before := holds.2 target fun member => by
        rcases List.mem_cons.mp member with here_ | there
        · exact same here_
        · exact outside there
      exact upToDate_enqueued before fun _ => carried

/-- A reconcile reads the policies, or ends where there are none. -/
theorem inStep_versioned {index : Nat} {draw : Draw} {device : Uuid} {version : String}
    (inStep : InStep world tenant state)
    (found : state.handlers[index]? = some (.versioned tenant device version)) :
    InStep world tenant
      { state with
        commands := (advance world draw state.cards state.commands (.versioned tenant device version)).1
        handlers := replaceAt state.handlers index
          (advance world draw state.cards state.commands (.versioned tenant device version)).2 } := by
  by_cases empty : state.cards.list tenant = []
  · have over_ : advance world draw state.cards state.commands (.versioned tenant device version) =
        (state.commands, none) := by
      simp [advance, empty]
    rw [over_]
    exact inStep_plain inStep found rfl rfl (fun _ current => current)
      fun new no => absurd no (Option.not_mem_none new)
  · have on : advance world draw state.cards state.commands (.versioned tenant device version) =
        (state.commands, some (.resuming tenant device version (state.cards.list tenant))) := by
      simp [advance, empty]
    rw [on]
    refine inStep_plain inStep found rfl rfl (fun _ current => current) fun new here_ => ?_
    cases here_
    exact ⟨rfl, rfl⟩

theorem inStep_advanced {index : Nat} {draw : Draw} {handler : Handler}
    (inStep : InStep world tenant state) (found : state.handlers[index]? = some handler)
    (completes : handler.tenant = tenant → Completes world draw state.cards state.commands handler) :
    InStep world tenant
      { state with
        commands := (advance world draw state.cards state.commands handler).1
        handlers := replaceAt state.handlers index
          (advance world draw state.cards state.commands handler).2 } := by
  by_cases own : handler.tenant = tenant
  · have here : handler ∈ ofTenant tenant state.handlers :=
      mem_ofTenant.mpr ⟨List.mem_of_getElem? found, own⟩
    have holds := inStep.holds handler here
    have complete := completes own
    cases handler with
    | saved owner =>
      obtain rfl : owner = tenant := own
      exact inStep_saved inStep found complete
    | listed owner rows =>
      have only := inStep.alone _ here rfl
      obtain rfl : owner = tenant := own
      refine @inStep_only world owner _
        (.pushing owner (state.cards.version owner) rows draw.devices)
        ((ofTenant_replaceAt found rfl only).trans ?_) rfl ⟨holds, ?_⟩
      · simp [advance, ofTenant, Handler.tenant]
      · intro device outside row member newest
        have inside := complete row member newest.policy.1 newest.policy.2.2
        rw [newest.policy.2.1] at inside
        exact absurd inside outside
    | pushing owner version rows devices =>
      obtain rfl : owner = tenant := own
      cases devices with
      | nil =>
        refine inStep_idle (ofTenant_replaceAt found rfl (inStep.alone _ here rfl)) fun device => ?_
        exact holds.2 device List.not_mem_nil
      | cons device rest => exact inStep_pushed inStep found complete
    | versioned owner device version =>
      obtain rfl : owner = tenant := own
      exact inStep_versioned inStep found
    | resuming owner device version rows =>
      obtain rfl : owner = tenant := own
      refine inStep_plain inStep found rfl rfl (fun target current => ?_)
        fun new no => absurd no (Option.not_mem_none new)
      refine upToDate_enqueued current fun _ => ?_
      have same : rows = state.cards.list owner := holds
      rw [← same]
      exact carriesSet_push owner device version rows draw.gateway
    | redelivering owner device row payload now started =>
      exact inStep_plain inStep found own rfl
        (fun target current => upToDate_enqueued current fun _ => holds)
        fun new no => absurd no (Option.not_mem_none new)
  · refine inStep_frame inStep (ofTenant_elsewhere found own fun rest left => ?_) rfl
      fun device current => ?_
    · rw [advance_tenant left]
      exact own
    · show UpToDate world state.cards (advance world draw state.cards state.commands handler).1 tenant device
      rw [advance_commands]
      cases ordered : orders draw handler with
      | none => exact current
      | some order =>
        refine upToDate_enqueued current fun policy => ?_
        have owners := orders_tenant (show orders draw handler = some (order.1, order.2) from ordered)
        exact absurd (owners.symm.trans policy.1) own

theorem inStep_step {event : Event} (inStep : InStep world tenant state)
    (orderly : Orderly world tenant state event) : InStep world tenant (step world state event) := by
  cases event with
  | save owner policy now =>
    unfold step
    dsimp only
    cases done : state.cards.save owner policy now with
    | error err => exact inStep
    | ok cards =>
      by_cases own : owner = tenant
      · subst own
        exact inStep_edited (orderly rfl) rfl
      · exact inStep_elsewhere inStep own rfl (save_elsewhere done own) rfl
  | delete owner iccid =>
    unfold step
    dsimp only
    cases done : state.cards.delete owner iccid with
    | error err => exact inStep
    | ok cards =>
      by_cases own : owner = tenant
      · subst own
        exact inStep_edited (orderly rfl) rfl
      · exact inStep_elsewhere inStep own rfl (delete_elsewhere done own) rfl
  | resume owner device held =>
    unfold step
    dsimp only
    by_cases same : held ≠ "" ∧ held = state.cards.version owner
    · rw [if_pos same]
      exact inStep
    · rw [if_neg same]
      exact inStep_started inStep orderly rfl fun _ => trivial
  | read owner device now started =>
    unfold step
    dsimp only
    cases found : redelivery world owner device now started state.commands with
    | none =>
      show InStep world tenant { state with handlers := state.handlers ++ [] }
      rw [List.append_nil]
      exact inStep
    | some handler =>
      obtain ⟨row, payload, rfl, newest, _, again⟩ := redelivery_found found
      refine inStep_started inStep orderly rfl fun own => ?_
      obtain rfl : owner = tenant := own
      have idle : ∀ handler ∈ ofTenant owner state.handlers, edits handler = false := fun handler member =>
        orderly rfl handler (mem_ofTenant.mp member).1 (mem_ofTenant.mp member).2
      obtain ⟨version, carried⟩ := inStep.settled idle device row newest.member newest
      exact ⟨version, carries_repeat carried again⟩
  | drop index => exact inStep_dropped inStep orderly
  | advance index draw =>
    unfold step
    dsimp only
    cases found : state.handlers[index]? with
    | none => exact inStep
    | some handler => exact inStep_advanced inStep found (orderly handler found)
  | lifecycle op =>
    unfold step
    dsimp only
    by_cases policy : ordersPolicy op = true
    · rw [if_pos policy]
      exact inStep
    · rw [if_neg policy]
      cases done : op.apply world.calendar state.commands with
      | error err => exact inStep
      | ok commands =>
        have kept := lifecycle_keeps (by simpa using policy) done
        exact inStep_frame inStep rfl rfl fun _ current => upToDate_kept kept current

theorem inStep_run {events : List Event}
    (orderly : Guarded (step world) (Orderly world tenant) Delivery.start events) :
    InStep world tenant (reached world events) := by
  refine foldl_guarded (fun state event => inStep_step) _ ?_ events orderly
  exact inStep_idle rfl fun device row member => absurd member List.not_mem_nil

/-- Where edits are pushed to their end before anything else of the tenant begins, a
command that a redelivery creates carries the set the tenant has at that moment. -/
theorem redelivered_set_current {events : List Event}
    (orderly : Guarded (step world) (Orderly world tenant) Delivery.start events) :
    ∀ before index draw, before ++ [.advance index draw] <+: events →
      ∀ device row payload now started, (reached world before).handlers[index]? =
        some (.redelivering tenant device row payload now started) →
      ∀ made ∈ (reached world (before ++ [.advance index draw])).commands.commands,
        (∀ old ∈ (reached world before).commands.commands, old.id ≠ made.id) →
        ∃ command, readCommand world.number made.payload = some command ∧
          command.policies =
            ((reached world (before ++ [.advance index draw])).cards.list tenant).map rendered := by
  rintro before index draw ⟨rest, rfl⟩ device row payload now started found made member new
  have inStep := inStep_run (guarded_append.mp (guarded_append.mp orderly).1).1
  have carried : CarriesSet world.number payload ((reached world before).cards.list tenant) :=
    inStep.holds _ (mem_ofTenant.mpr ⟨List.mem_of_getElem? found, rfl⟩)
  obtain ⟨version, carries⟩ := carried
  have wrote : (step world (reached world before) (.advance index draw)).commands =
      enqueued world (repeatArgs tenant device row payload now) draw started
        (reached world before).commands := by
    unfold step
    dsimp only
    rw [found]
    rfl
  rw [reached_snoc, wrote] at member
  rw [reached_snoc, step_cards]
  rcases mem_enqueued member with old | ⟨rfl, _⟩
  · exact absurd rfl (new made old)
  · exact ⟨_, carries, rfl⟩

end Steps

/-! ## Two runs -/

section Decisions

theorem carriesSet_iff {number : Rat → Option Rat} {payload : Jsonb} {rows : List PolicyRow} :
    CarriesSet number payload rows ↔ (readCommand number payload).any (fun command =>
      command.kind = "UpdateCardPolicy" && command.policies = rows.map rendered) = true := by
  unfold CarriesSet Carries
  cases readCommand number payload with
  | none => simp
  | some command =>
    rcases command with ⟨kind, version, policies⟩
    simp [Option.any]

instance (number : Rat → Option Rat) (payload : Jsonb) (rows : List PolicyRow) :
    Decidable (CarriesSet number payload rows) := decidable_of_iff _ carriesSet_iff.symm

instance (world : World) (cards : CardDb) (commands : CommandDb) (tenant device : Uuid) :
    Decidable (UpToDate world cards commands tenant device) :=
  inferInstanceAs (Decidable (∀ row ∈ commands.commands, Newest tenant device commands row → _))

instance (world : World) (draw : Draw) (cards : CardDb) (commands : CommandDb) :
    ∀ handler, Decidable (Completes world draw cards commands handler)
  | .saved _ => inferInstanceAs (Decidable (_ → ∀ row ∈ commands.commands, _ → _ ≠ _))
  | .listed _ _ => inferInstanceAs (Decidable (∀ row ∈ commands.commands, _ → _ → _))
  | .pushing _ _ _ [] => .isTrue trivial
  | .pushing _ _ _ (_ :: _) =>
    inferInstanceAs (Decidable (_ ∨ (¬ _ ∧ _ ∧ ∀ row ∈ commands.commands, _ → _)))
  | .versioned _ _ _ => .isTrue trivial
  | .resuming _ _ _ _ => .isTrue trivial
  | .redelivering _ _ _ _ _ _ => .isTrue trivial

instance (world : World) (tenant : Uuid) (state : Delivery) :
    ∀ event, Decidable (Orderly world tenant state event)
  | .save _ _ _ => inferInstanceAs (Decidable (_ → ∀ handler ∈ state.handlers, _ ≠ _))
  | .delete _ _ => inferInstanceAs (Decidable (_ → ∀ handler ∈ state.handlers, _ ≠ _))
  | .resume _ _ _ => inferInstanceAs (Decidable (_ → ∀ handler ∈ state.handlers, _ → _ = _))
  | .read _ _ _ _ => inferInstanceAs (Decidable (_ → ∀ handler ∈ state.handlers, _ → _ = _))
  | .drop index => inferInstanceAs (Decidable (∀ handler ∈ state.handlers[index]?, _ → _ = _))
  | .advance index _ => inferInstanceAs (Decidable (∀ handler ∈ state.handlers[index]?, _ → _))
  | .lifecycle _ => .isTrue trivial

end Decisions

/-- A policy is pushed to device 7, and the push is over before the command runs out. -/
def pushedOut : List Event :=
  [.save 1 (cardPolicy firstCard none) 10000000, .advance 0 anyDraw, .advance 0 anyDraw,
    .advance 0 anyDraw, .advance 0 anyDraw]

def redelivers (tenant : Uuid) : Handler → Bool
  | .redelivering owner _ _ _ _ _ => owner = tenant
  | _ => false

theorem redelivers_some {tenant : Uuid} {waiting : Option Handler}
    (h : waiting.any (redelivers tenant) = true) :
    ∃ device row payload now started,
      waiting = some (.redelivering tenant device row payload now started) := by
  rw [Option.any_eq_true] at h
  obtain ⟨handler, rfl, own⟩ := h
  cases handler with
  | redelivering owner device row payload now started =>
    obtain rfl : owner = tenant := of_decide_eq_true own
    exact ⟨device, row, payload, now, started, rfl⟩
  | saved => cases own
  | listed => cases own
  | pushing => cases own
  | versioned => cases own
  | resuming => cases own

/-- A session reads the command when it has run out. -/
def readBack : List Event := pushedOut ++ [.read 1 7 2000000000 2000000000]

/-- The command is repeated, and carries the set. -/
theorem pushed_set_redelivered :
    ∃ made ∈ (reached plainWorld (readBack ++ [.advance 0 nextDraw])).commands.commands,
      revivalSuffix made.idempotencyKey ≠ none ∧
      ∃ command, readCommand plainWorld.number made.payload = some command ∧
        command.policies =
          ((reached plainWorld (readBack ++ [.advance 0 nextDraw])).cards.list 1).map rendered := by
  have facts : Guarded (step plainWorld) (Orderly plainWorld 1) Delivery.start
        (readBack ++ [.advance 0 nextDraw]) ∧
      (reached plainWorld readBack).handlers[0]?.any (redelivers 1) = true ∧
      ∃ made ∈ (reached plainWorld (readBack ++ [.advance 0 nextDraw])).commands.commands,
        revivalSuffix made.idempotencyKey ≠ none ∧
        ∀ old ∈ (reached plainWorld readBack).commands.commands, old.id ≠ made.id := by decide +kernel
  obtain ⟨orderly, waiting, made, member, counted, new⟩ := facts
  obtain ⟨device, row, payload, now, started, found⟩ := redelivers_some waiting
  have current := redelivered_set_current orderly readBack 0 nextDraw (List.prefix_refl _) device row
    payload now started found made member new
  exact ⟨made, member, counted, current⟩

/-- The policy is removed and its push, of an empty set, sends nothing. -/
def removed : List Event := pushedOut ++ [.delete 1 firstCard, .advance 0 anyDraw]

/-- A session reads the command all the same. -/
def readRemoved : List Event := removed ++ [.read 1 7 2000000000 2000000000]

/-- The removed policy is repeated to the device. -/
theorem removed_policy_redelivered :
    (reached plainWorld (readRemoved ++ [.advance 0 nextDraw])).cards.list 1 = [] ∧
    ∃ made ∈ (reached plainWorld (readRemoved ++ [.advance 0 nextDraw])).commands.commands,
      revivalSuffix made.idempotencyKey ≠ none ∧
      (∀ old ∈ (reached plainWorld readRemoved).commands.commands, old.id ≠ made.id) ∧
      (readCommand plainWorld.number made.payload).map UpdateCardPolicyCommand.policies =
        some [⟨firstCard, true, "cn", none, none⟩] := by
  decide +kernel

end VodogeCloud.Guarantees.CurrentPolicies
