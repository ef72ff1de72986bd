import VodogeCloud.Lib.Decimal
import VodogeCloud.Guarantees.PolicyCommands

/-!
# What a card policy version says

A version is the number of policies and the whole second of the latest of them. It
names one set as long as no two saves of a tenant fall into one second: a later set
with the same latest second can only have lost rows, and with the same number of rows
it has lost none. A command pairs a version with a set it was read beside in another
transaction, so the pair is one of the history only while no edit comes between.
-/

set_option autoImplicit false

namespace VodogeCloud.Guarantees.CardVersions

open VodogeCloud.Lib VodogeCloud.Lib.Transactions VodogeCloud.Lib.Decimal
open VodogeCloud.Source.Postgres VodogeCloud.Source.CommandTables
open VodogeCloud.Source.CommandLifecycle VodogeCloud.Source.PendingCommands
open VodogeCloud.Source.CardPolicies VodogeCloud.Source.CardDelivery
open VodogeCloud.Guarantees.EnqueuedCommands VodogeCloud.Guarantees.CommandOrders
open VodogeCloud.Guarantees.CardRenderings VodogeCloud.Guarantees.PolicyCommands

/-! ## The set behind a version -/

section Sets

variable {tenant : Uuid} {db early late : CardDb}

theorem mem_list {row : PolicyRow} :
    row ∈ db.list tenant ↔ row ∈ db.policies ∧ row.tenantId = tenant := by
  unfold CardDb.list
  rw [List.mem_insertionSort, List.mem_filter, Table.mem_rows]
  simp

theorem list_nodup : (db.list tenant).Nodup :=
  (List.perm_insertionSort _ _).nodup_iff.mpr
    ((List.Nodup.of_map _ db.policies.unique).filter _)

/-- Two lists of the same policies are one list. -/
theorem list_eq_of_perm (same : (late.list tenant).Perm (early.list tenant)) :
    late.list tenant = early.list tenant := by
  let before : PolicyRow → PolicyRow → Prop := fun a b => a.iccid.toList ≤ b.iccid.toList
  have : Std.Total before := ⟨fun a b => le_total a.iccid.toList b.iccid.toList⟩
  have : IsTrans PolicyRow before := ⟨fun _ _ _ first second => le_trans first second⟩
  refine List.Perm.eq_of_pairwise (fun a b inLate inEarly up down => ?_)
    (List.pairwise_insertionSort before _) (List.pairwise_insertionSort before _) same
  obtain ⟨memberA, tenantA⟩ := mem_list.mp (same.mem_iff.mp inLate)
  obtain ⟨memberB, tenantB⟩ := mem_list.mp inEarly
  have iccid : a.iccid = b.iccid := String.toList_inj.mp (le_antisymm up down)
  exact Table.eq_of_key memberA memberB (by rw [PolicyRow.key, PolicyRow.key, tenantA, tenantB, iccid])

theorem seconds_mono {a b : Int} (earlier : a ≤ b) : seconds a ≤ seconds b := by
  have sign : Int.sign 1000000 = 1 := rfl
  unfold seconds
  rw [Int.tdiv_eq_ediv, Int.tdiv_eq_ediv, sign]
  split <;> split <;> omega

theorem latestSecond_bound {rows : List PolicyRow} {row : PolicyRow} (member : row ∈ rows) :
    seconds row.updatedAt ≤ latestSecond rows := by
  unfold latestSecond
  cases found : (rows.map PolicyRow.updatedAt).max? with
  | none =>
    rw [List.max?_eq_none_iff, List.map_eq_nil_iff] at found
    rw [found] at member
    cases member
  | some newest =>
    exact seconds_mono ((List.max?_eq_some_iff.mp found).2 _ (List.mem_map_of_mem member))

theorem latestSecond_attained {rows : List PolicyRow} (some_ : rows ≠ []) :
    ∃ row ∈ rows, seconds row.updatedAt = latestSecond rows := by
  unfold latestSecond
  cases found : (rows.map PolicyRow.updatedAt).max? with
  | none =>
    rw [List.max?_eq_none_iff, List.map_eq_nil_iff] at found
    exact absurd found some_
  | some newest =>
    obtain ⟨row, member, same⟩ := List.mem_map.mp (List.max?_eq_some_iff.mp found).1
    exact ⟨row, member, by rw [same]; rfl⟩

theorem version_eq (same : early.version tenant = late.version tenant) :
    (early.list tenant).length = (late.list tenant).length ∧
      latestSecond (early.list tenant) = latestSecond (late.list tenant) := by
  have lists := congrArg String.toList same
  simp only [CardDb.version, String.toList_append, List.append_assoc] at lists
  obtain ⟨counts, rests⟩ := digits_append_inj (fun _ => isDigit_of_mem_natText)
    (fun _ => isDigit_of_mem_natText) (by decide) lists
  exact ⟨natText_injective (String.toList_inj.mp counts),
    intText_injective (String.toList_inj.mp rests)⟩

end Sets

/-! ## Where a row comes from -/

/-- When the event saves a policy of the tenant. -/
def savedAt (tenant : Uuid) : Event → Option Timestamp
  | .save owner _ now => if owner = tenant then some now else none
  | _ => none

section Rows

variable {world : World} {state : Delivery} {event : Event} {row : PolicyRow}

theorem mem_save {db after : CardDb} {tenant : Uuid} {policy : Policy} {now : Timestamp}
    (done : db.save tenant policy now = .ok after) (member : row ∈ after.policies) :
    row ∈ db.policies ∨ (row.tenantId = tenant ∧ row.updatedAt = now) := by
  unfold CardDb.save at done
  split at done
  · cases done
  · split at done
    · cases done
      rcases Table.mem_upsert.mp member with ⟨old, _⟩ | ⟨old, _, same, rfl⟩ | ⟨rfl, _⟩
      · exact Or.inl old
      · exact Or.inr ⟨congrArg Prod.fst same, rfl⟩
      · exact Or.inr ⟨rfl, rfl⟩
    · cases done

theorem mem_delete {db after : CardDb} {tenant : Uuid} {iccid : String}
    (done : db.delete tenant iccid = .ok after) (member : row ∈ after.policies) :
    row ∈ db.policies := by
  unfold CardDb.delete at done
  split at done
  · cases done
  · cases done
    exact (Table.mem_delete.mp member).1

/-- A row was there before the step, or the step saved it. -/
theorem mem_step (member : row ∈ (step world state event).cards.policies) :
    row ∈ state.cards.policies ∨ savedAt row.tenantId event = some row.updatedAt := by
  rw [step_cards] at member
  cases event with
  | save tenant policy now =>
    dsimp only at member
    cases done : state.cards.save tenant policy now with
    | error err =>
      rw [done] at member
      exact Or.inl member
    | ok after =>
      rw [done] at member
      rcases mem_save done member with old | ⟨owner, when_⟩
      · exact Or.inl old
      · right
        rw [savedAt, if_pos owner.symm, when_]
  | delete tenant iccid =>
    left
    dsimp only at member
    cases done : state.cards.delete tenant iccid with
    | error err =>
      rw [done] at member
      exact member
    | ok after =>
      rw [done] at member
      exact mem_delete done member
  | resume => exact Or.inl member
  | read => exact Or.inl member
  | advance => exact Or.inl member
  | drop => exact Or.inl member
  | lifecycle => exact Or.inl member

theorem mem_steps {events : List Event}
    (member : row ∈ (events.foldl (step world) state).cards.policies) :
    row ∈ state.cards.policies ∨ row.updatedAt ∈ events.filterMap (savedAt row.tenantId) := by
  induction events generalizing state with
  | nil => exact Or.inl member
  | cons event rest ih =>
    rcases ih member with before | later
    · rcases mem_step before with old | saved
      · exact Or.inl old
      · exact Or.inr (List.mem_filterMap.mpr ⟨event, List.mem_cons_self, saved⟩)
    · obtain ⟨other, inRest, saved⟩ := List.mem_filterMap.mp later
      exact Or.inr (List.mem_filterMap.mpr ⟨other, List.mem_cons_of_mem _ inRest, saved⟩)

/-- The saves of a tenant fall into different seconds, one after another. -/
def Spread (tenant : Uuid) (events : List Event) : Prop :=
  (events.filterMap (savedAt tenant)).Pairwise fun a b => seconds a < seconds b

instance (tenant : Uuid) (events : List Event) : Decidable (Spread tenant events) :=
  inferInstanceAs (Decidable (List.Pairwise _ _))

/-- With one save a second, the version of a set is back only with the set. -/
theorem list_eq_of_version {tenant : Uuid} {early later : List Event}
    (spread : Spread tenant (early ++ later))
    (same : (reached world early).cards.version tenant =
      (reached world (early ++ later)).cards.version tenant) :
    (reached world (early ++ later)).cards.list tenant = (reached world early).cards.list tenant := by
  obtain ⟨counts, latest⟩ := version_eq same
  rw [Spread, List.filterMap_append, List.pairwise_append] at spread
  have subset : (reached world (early ++ later)).cards.list tenant ⊆
      (reached world early).cards.list tenant := by
    intro row inLate
    obtain ⟨member, owner⟩ := mem_list.mp inLate
    rw [reached, List.foldl_append] at member
    rcases mem_steps member with before | saved
    · exact mem_list.mpr ⟨before, owner⟩
    · -- A row saved in between is of a later second than all there was.
      have someEarly : (reached world early).cards.list tenant ≠ [] := by
        intro none_
        rw [none_, List.length_nil] at counts
        rw [List.eq_nil_of_length_eq_zero counts.symm] at inLate
        cases inLate
      obtain ⟨newest, inEarly, attained⟩ := latestSecond_attained someEarly
      obtain ⟨memberEarly, ownerEarly⟩ := mem_list.mp inEarly
      have savedEarly : newest.updatedAt ∈ early.filterMap (savedAt tenant) := by
        rcases mem_steps memberEarly with absurd_ | savedEarly
        · cases absurd_
        · rwa [ownerEarly] at savedEarly
      rw [owner] at saved
      have above := spread.2.2 _ savedEarly _ saved
      have bound := latestSecond_bound inLate
      rw [attained, latest] at above
      exact absurd above (not_lt.mpr bound)
  exact list_eq_of_perm ((List.subperm_of_subset list_nodup subset).perm_of_length_le counts.le)

end Rows

/-! ## The pair a command carries -/

/-- The handler has read one of the set and its version, and not yet the other. -/
def betweenReads (tenant : Uuid) : Handler → Bool
  | .listed owner _ => owner = tenant
  | .versioned owner _ _ => owner = tenant
  | _ => false

/-- An edit of the tenant commits while none of its handlers is between the two reads. -/
def Undivided (tenant : Uuid) (state : Delivery) : Event → Prop
  | .save owner _ _ => owner = tenant → ∀ handler ∈ state.handlers, betweenReads tenant handler = false
  | .delete owner _ => owner = tenant → ∀ handler ∈ state.handlers, betweenReads tenant handler = false
  | _ => True

instance (tenant : Uuid) (state : Delivery) : ∀ event, Decidable (Undivided tenant state event)
  | .save owner _ _ => inferInstanceAs (Decidable (owner = tenant →
      ∀ handler ∈ state.handlers, betweenReads tenant handler = false))
  | .delete owner _ => inferInstanceAs (Decidable (owner = tenant →
      ∀ handler ∈ state.handlers, betweenReads tenant handler = false))
  | .resume _ _ _ => .isTrue trivial
  | .read _ _ _ _ => .isTrue trivial
  | .advance _ _ => .isTrue trivial
  | .drop _ => .isTrue trivial
  | .lifecycle _ => .isTrue trivial

section Pairs

variable {world : World} {tenant : Uuid} {events : List Event} {event : Event}

theorem list_eq_of_mem {early late : CardDb}
    (same : ∀ row : PolicyRow, row.tenantId = tenant → (row ∈ late.policies ↔ row ∈ early.policies)) :
    late.list tenant = early.list tenant := by
  refine list_eq_of_perm ((List.perm_ext_iff_of_nodup list_nodup list_nodup).mpr fun row => ?_)
  rw [mem_list, mem_list, and_congr_left_iff]
  exact same row

/-- Another tenant's edits leave the set alone. -/
theorem save_elsewhere {db after : CardDb} {owner : Uuid} {policy : Policy} {now : Timestamp}
    (done : db.save owner policy now = .ok after) (other : owner ≠ tenant) :
    after.list tenant = db.list tenant := by
  unfold CardDb.save at done
  split at done
  · cases done
  · split at done
    · cases done
      refine list_eq_of_mem fun row owned => ?_
      have differs : row.key ≠ (newRow owner policy now).key := fun same =>
        other ((congrArg Prod.fst same).symm.trans owned)
      constructor
      · intro member
        rcases Table.mem_upsert.mp member with ⟨old, _⟩ | ⟨old, _, same, rfl⟩ | ⟨rfl, _⟩
        · exact old
        · exact absurd same differs
        · exact absurd rfl differs
      · intro member
        exact Table.mem_upsert.mpr (Or.inl ⟨member, differs⟩)
    · cases done

theorem delete_elsewhere {db after : CardDb} {owner : Uuid} {iccid : String}
    (done : db.delete owner iccid = .ok after) (other : owner ≠ tenant) :
    after.list tenant = db.list tenant := by
  unfold CardDb.delete at done
  split at done
  · cases done
  · cases done
    refine list_eq_of_mem fun row owned => ?_
    rw [Table.mem_delete]
    exact and_iff_left (by simp [owned, Ne.symm other])

theorem version_of_list {early late : CardDb} (same : late.list tenant = early.list tenant) :
    late.version tenant = early.version tenant := by
  rw [CardDb.version, CardDb.version, same]

/-- A step leaves the set as it is, or edits it. -/
theorem list_step (state : Delivery) :
    (step world state event).cards.list tenant = state.cards.list tenant ∨
      (∃ policy now, event = .save tenant policy now) ∨ ∃ iccid, event = .delete tenant iccid := by
  rw [step_cards]
  cases event with
  | save owner policy now =>
    by_cases own : owner = tenant
    · subst own
      exact Or.inr (Or.inl ⟨policy, now, rfl⟩)
    · left
      dsimp only
      cases done : state.cards.save owner policy now with
      | error err => rfl
      | ok after => exact save_elsewhere done own
  | delete owner iccid =>
    by_cases own : owner = tenant
    · subst own
      exact Or.inr (Or.inr ⟨iccid, rfl⟩)
    · left
      dsimp only
      cases done : state.cards.delete owner iccid with
      | error err => rfl
      | ok after => exact delete_elsewhere done own
  | resume => exact Or.inl rfl
  | read => exact Or.inl rfl
  | advance => exact Or.inl rfl
  | drop => exact Or.inl rfl
  | lifecycle => exact Or.inl rfl

/-- The version was that of the rows at some point of the run. -/
def Paired (world : World) (tenant : Uuid) (events : List Event) (version : String)
    (rows : List PolicyRow) : Prop :=
  ∃ early, early <+: events ∧ version = (reached world early).cards.version tenant ∧
    rows = (reached world early).cards.list tenant

theorem Paired.now (world : World) (tenant : Uuid) (events : List Event) :
    Paired world tenant events ((reached world events).cards.version tenant)
      ((reached world events).cards.list tenant) :=
  ⟨events, List.prefix_refl _, rfl, rfl⟩

theorem Paired.later {version : String} {rows : List PolicyRow} (event : Event)
    (h : Paired world tenant events version rows) :
    Paired world tenant (events ++ [event]) version rows := by
  obtain ⟨early, short, facts⟩ := h
  exact ⟨early, short.trans (List.prefix_append _ _), facts⟩

/-- The payload carries a pair of the run. -/
def CarriesPair (world : World) (tenant : Uuid) (events : List Event) (payload : Jsonb) : Prop :=
  ∃ version rows, Carries world.number payload version rows ∧ Paired world tenant events version rows

theorem CarriesPair.later {payload : Jsonb} (event : Event)
    (h : CarriesPair world tenant events payload) : CarriesPair world tenant (events ++ [event]) payload := by
  obtain ⟨version, rows, carried, paired⟩ := h
  exact ⟨version, rows, carried, paired.later event⟩

/-- What a handler of the tenant holds: one half of the present pair, a pair of the
run, or a payload that carries one. -/
def Holds (world : World) (tenant : Uuid) (events : List Event) : Handler → Prop
  | .saved _ => True
  | .listed owner rows => owner = tenant → rows = (reached world events).cards.list tenant
  | .pushing owner version rows _ => owner = tenant → Paired world tenant events version rows
  | .versioned owner _ version => owner = tenant → version = (reached world events).cards.version tenant
  | .resuming owner _ version rows => owner = tenant → Paired world tenant events version rows
  | .redelivering owner _ _ payload _ _ => owner = tenant → CarriesPair world tenant events payload

structure Honest (world : World) (tenant : Uuid) (events : List Event) : Prop where
  handlers : ∀ handler ∈ (reached world events).handlers, Holds world tenant events handler
  commands : ∀ row ∈ (reached world events).commands.commands, row.tenantId = tenant →
    row.kind = .updateCardPolicy → CarriesPair world tenant events row.payload

/-- A handler that stays still holds what it held. -/
theorem holds_later {handler : Handler} (held : Holds world tenant events handler)
    (calm : betweenReads tenant handler = true →
      (step world (reached world events) event).cards.list tenant =
        (reached world events).cards.list tenant) :
    Holds world tenant (events ++ [event]) handler := by
  cases handler with
  | saved => trivial
  | listed owner rows =>
    intro own
    rw [reached_snoc, calm (by simpa [betweenReads] using own)]
    exact held own
  | pushing => exact fun own => (held own).later event
  | versioned owner device version =>
    intro own
    rw [reached_snoc, version_of_list (calm (by simpa [betweenReads] using own))]
    exact held own
  | resuming => exact fun own => (held own).later event
  | redelivering => exact fun own => (held own).later event

/-- The next statement of a handler keeps what it holds. -/
theorem advance_holds {draw : Draw} {before handler : Handler} {commands : CommandDb}
    (held : Holds world tenant events before)
    (left : (advance world draw (reached world events).cards commands before).2 = some handler) :
    Holds world tenant events handler := by
  cases before with
  | saved owner =>
    unfold advance at left
    dsimp only at left
    split at left
    · cases left
    · cases left
      intro own
      rw [own]
  | listed owner rows =>
    cases left
    intro own
    rw [held own, own]
    exact .now world tenant events
  | pushing owner version rows devices =>
    cases devices with
    | nil => cases left
    | cons device rest =>
      cases left
      exact held
  | versioned owner device version =>
    unfold advance at left
    dsimp only at left
    split at left
    · cases left
    · cases left
      intro own
      rw [held own, own]
      exact .now world tenant events
  | resuming => cases left
  | redelivering => cases left

/-- A command a handler queues carries a pair of the run. -/
theorem orders_carry {draw : Draw} {handler : Handler} {args : EnqueueArgs} {at_ : Timestamp}
    (held : Holds world tenant events handler) (ordered : orders draw handler = some (args, at_))
    (own : args.tenantId = tenant) : CarriesPair world tenant events args.payload := by
  cases handler with
  | saved => cases ordered
  | listed => cases ordered
  | pushing owner version rows devices =>
    cases devices with
    | nil => cases ordered
    | cons device rest =>
      cases ordered
      exact ⟨version, rows, carries_push version rows, held own⟩
  | versioned => cases ordered
  | resuming owner device version rows =>
    cases ordered
    exact ⟨version, rows, carries_push version rows, held own⟩
  | redelivering =>
    cases ordered
    exact held own

theorem honest_step (honest : Honest world tenant events)
    (undivided : Undivided tenant (reached world events) event) :
    Honest world tenant (events ++ [event]) := by
  have calm : ∀ handler ∈ (reached world events).handlers, betweenReads tenant handler = true →
      (step world (reached world events) event).cards.list tenant =
        (reached world events).cards.list tenant := by
    intro handler member between
    rcases @list_step world tenant event (reached world events) with
      same | ⟨policy, now, rfl⟩ | ⟨iccid, rfl⟩
    · exact same
    · rw [undivided rfl handler member] at between
      cases between
    · rw [undivided rfl handler member] at between
      cases between
  constructor
  · intro handler member
    rw [reached_snoc] at member
    rcases step_handlers member with old | started
    · exact holds_later (honest.handlers handler old) (calm handler old)
    · cases started with
      | save => trivial
      | delete => trivial
      | resume owner device held =>
        intro own
        rw [reached_snoc, step_cards, own]
      | read found =>
        obtain ⟨row, payload, rfl, newest, _, again⟩ := redelivery_found found
        intro own
        obtain ⟨version, rows, carried, paired⟩ := honest.commands row newest.member
          (newest.policy.1.trans own) newest.policy.2.2
        exact ⟨version, rows, carries_repeat carried again, paired.later _⟩
      | advance found left =>
        have holds := advance_holds (honest.handlers _ (List.mem_of_getElem? found)) left
        exact holds_later holds fun _ => by rw [step_cards]
  · intro row member own policy
    rw [reached_snoc] at member
    rcases step_commands world (reached world events) event with
      ⟨index, draw, handler, args, at_, rfl, found, ordered, written⟩ | ⟨op, rfl, kept⟩ | same
    · rw [written] at member
      rcases mem_enqueued member with old | ⟨rfl, _⟩
      · exact (honest.commands row old own policy).later _
      · exact (orders_carry (honest.handlers _ (List.mem_of_getElem? found)) ordered own).later _
    · obtain ⟨old, inOld, touched⟩ := kept.back row member policy
      obtain ⟨_, tenants, _, kinds, payloads, _⟩ := touched.fields
      rw [payloads]
      exact (honest.commands old inOld (tenants.symm.trans own) (kinds.symm.trans policy)).later _
    · rw [same] at member
      exact (honest.commands row member own policy).later _

theorem honest_run (undivided : Guarded (step world) (Undivided tenant) Delivery.start events) :
    Honest world tenant events := by
  induction events using List.reverseRecOn with
  | nil =>
    exact ⟨fun _ member => absurd member List.not_mem_nil, fun _ member => absurd member List.not_mem_nil⟩
  | append_singleton before event ih =>
    rw [guarded_append] at undivided
    exact honest_step (ih undivided.1) undivided.2.1

/-- Where the saves of a tenant fall into different seconds, one version is one set;
and where no edit divides the two reads of a push either, a device that holds the
current version was sent the current set. -/
theorem versions_name_sets (spread : Spread tenant events) :
    (∀ early late, early <+: events → late <+: events →
      (reached world early).cards.version tenant = (reached world late).cards.version tenant →
      (reached world early).cards.list tenant = (reached world late).cards.list tenant) ∧
    (Guarded (step world) (Undivided tenant) Delivery.start events →
      ∀ point, point <+: events → ∀ row ∈ (reached world point).commands.commands,
        row.tenantId = tenant → row.kind = .updateCardPolicy →
        ∃ command, readCommand world.number row.payload = some command ∧
          (command.policyVersion = (reached world point).cards.version tenant →
            command.policies = ((reached world point).cards.list tenant).map rendered)) := by
  have ordered : ∀ early late, early <+: late → late <+: events →
      (reached world early).cards.version tenant = (reached world late).cards.version tenant →
      (reached world early).cards.list tenant = (reached world late).cards.list tenant := by
    rintro early late ⟨later, rfl⟩ ⟨rest, rfl⟩ same
    have shorter : Spread tenant (early ++ later) := by
      rw [Spread, List.filterMap_append] at spread
      exact (List.pairwise_append.mp spread).1
    exact (list_eq_of_version shorter same).symm
  refine ⟨fun early late shortEarly shortLate same => ?_, ?_⟩
  · rcases List.prefix_or_prefix_of_prefix shortEarly shortLate with before | after
    · exact ordered early late before shortLate same
    · exact (ordered late early after shortEarly same.symm).symm
  · intro undivided point short row member own policy
    obtain ⟨rest, rfl⟩ := short
    have honest := honest_run (guarded_append.mp undivided).1
    obtain ⟨version, rows, carried, early, before, rfl, rfl⟩ := honest.commands row member own policy
    refine ⟨_, carried, fun current => ?_⟩
    rw [ordered early point before (List.prefix_append _ _) current]

end Pairs

/-! ## Two runs -/

/-- A card at ten seconds and its push to device 7, another card a second later, which
is removed again. -/
def editedBack : List Event :=
  [.save 1 (cardPolicy firstCard none) 10000000, .advance 0 anyDraw, .advance 0 anyDraw,
    .advance 0 anyDraw, .save 1 (cardPolicy secondCard (some false)) 11000000, .delete 1 secondCard]

theorem version_back_with_set :
    (reached plainWorld editedBack).cards.version 1 = "1-10" ∧
    (reached plainWorld (editedBack.take 1)).cards.list 1 = (reached plainWorld editedBack).cards.list 1 ∧
    ∀ row ∈ (reached plainWorld editedBack).commands.commands, row.tenantId = 1 →
      row.kind = .updateCardPolicy →
      ∃ command, readCommand plainWorld.number row.payload = some command ∧
        (command.policyVersion = (reached plainWorld editedBack).cards.version 1 →
          command.policies = ((reached plainWorld editedBack).cards.list 1).map rendered) := by
  have spread : Spread 1 editedBack := by decide
  have undivided : Guarded (step plainWorld) (Undivided 1) Delivery.start editedBack := by
    decide
  refine ⟨by decide, ?_, ?_⟩
  · exact (@versions_name_sets plainWorld 1 editedBack spread).1 _ _ (List.take_prefix 1 editedBack)
      (List.prefix_refl _) (by decide)
  · exact (@versions_name_sets plainWorld 1 editedBack spread).2 undivided _ (List.prefix_refl _)

/-- A card that may send is pushed to device 7 and half a second after its first save
forbidden to send. -/
def editedWithinSecond : List Event :=
  [.save 1 (cardPolicy firstCard none) 10000000, .advance 0 anyDraw, .advance 0 anyDraw,
    .advance 0 anyDraw, .save 1 (cardPolicy firstCard (some false)) 10500000]

/-- The version is still the one the device was sent, the set is another, and a resume
with that version pushes nothing. -/
theorem version_kept_by_edit :
    (reached plainWorld (editedWithinSecond.take 4)).cards.version 1 =
      (reached plainWorld editedWithinSecond).cards.version 1 ∧
    ((reached plainWorld (editedWithinSecond.take 4)).cards.list 1).map rendered ≠
      ((reached plainWorld editedWithinSecond).cards.list 1).map rendered ∧
    (∃ row ∈ (reached plainWorld editedWithinSecond).commands.commands, ∃ command,
      readCommand plainWorld.number row.payload = some command ∧
      command.policyVersion = (reached plainWorld editedWithinSecond).cards.version 1 ∧
      command.policies ≠ ((reached plainWorld editedWithinSecond).cards.list 1).map rendered) ∧
    (step plainWorld (reached plainWorld editedWithinSecond)
      (.resume 1 7 ((reached plainWorld editedWithinSecond).cards.version 1))).handlers =
      (reached plainWorld editedWithinSecond).handlers := by
  have sent : (reached plainWorld editedWithinSecond).commands.commands.rows.any (fun row =>
      (readCommand plainWorld.number row.payload).any fun command =>
        command.policyVersion = (reached plainWorld editedWithinSecond).cards.version 1 &&
          command.policies ≠ ((reached plainWorld editedWithinSecond).cards.list 1).map rendered) =
      true := by decide
  refine ⟨by decide, by decide, ?_, by decide⟩
  obtain ⟨row, member, stale⟩ := List.any_eq_true.mp sent
  rw [Option.any_eq_true] at stale
  obtain ⟨command, read, differs⟩ := stale
  rw [Bool.and_eq_true, decide_eq_true_eq, decide_eq_true_eq] at differs
  exact ⟨row, member, command, read, differs⟩

end VodogeCloud.Guarantees.CardVersions
