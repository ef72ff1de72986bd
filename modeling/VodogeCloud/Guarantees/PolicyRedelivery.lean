import VodogeCloud.Lib.Decimal
import VodogeCloud.Guarantees.PolicyCommands

/-!
# A card policy is repeated at most twice

The attempts of one intent are counted in the keys of its commands: `K`, `K:r1`,
`K:r2`. The key of a repetition is made from the row that was read, and the third key
spends the budget, so the rows of an intent are three at most in any interleaving. That
the row is still newest and still not taken when its repetition is queued is another
matter: the SELECT takes no lock, so it holds where neither an answer to that row nor
a push to that device commits in between.
-/

set_option autoImplicit false

namespace VodogeCloud.Guarantees.PolicyRedelivery

open VodogeCloud.Lib VodogeCloud.Lib.Transactions VodogeCloud.Lib.Decimal
open VodogeCloud.Source.Postgres VodogeCloud.Source.CommandTables
open VodogeCloud.Source.CommandLifecycle VodogeCloud.Source.PendingCommands
open VodogeCloud.Source.JsonText
open VodogeCloud.Source.CardPolicies VodogeCloud.Source.CardDelivery
open VodogeCloud.Guarantees.EnqueuedCommands VodogeCloud.Guarantees.CommandOrders
open VodogeCloud.Guarantees.PolicyCommands

/-! ## Keys -/

/-- The key without the counter of a redelivery. -/
def intent (key : String) : String :=
  match revivalSuffix key with
  | none => key
  | some (front, _) => String.ofList front

theorem revivalKey_eq (key : String) (attempt : Nat) :
    cardPolicyRevivalKey key attempt = intent key ++ ":r" ++ toString attempt := rfl

/-- A counter at the end of a key is read as it was written. -/
theorem revivalSuffix_counted (base : String) (n : Nat) :
    revivalSuffix (base ++ ":r" ++ toString n) = some (base.toList, (toString n).toList) := by
  have reversed : (base ++ ":r" ++ toString n).toList.reverse =
      (toString n).toList.reverse ++ 'r' :: ':' :: base.toList.reverse := by
    simp
  have digits : ∀ c ∈ (toString n).toList.reverse, c.isDigit = true := fun c member =>
    isDigit_of_mem_natText (List.mem_reverse.mp member)
  have taken : (base ++ ":r" ++ toString n).toList.reverse.takeWhile Char.isDigit =
      (toString n).toList.reverse := by
    rw [reversed, List.takeWhile_append_of_pos digits]
    simp
  have dropped : (base ++ ":r" ++ toString n).toList.reverse.dropWhile Char.isDigit =
      'r' :: ':' :: base.toList.reverse := by
    rw [reversed, List.dropWhile_append_of_pos digits]
    simp
  unfold revivalSuffix
  rw [taken, dropped]
  simp

theorem intent_counted (base : String) (n : Nat) : intent (base ++ ":r" ++ toString n) = base := by
  rw [intent, revivalSuffix_counted]
  exact String.ofList_toList

theorem intent_again (base : String) : intent (base ++ ":r1") = base := by
  have one : ":r" ++ toString 1 = ":r1" := by decide
  have counted := intent_counted base 1
  rwa [String.append_assoc, one] at counted

theorem attempts_counted (base : String) {n : Nat} (fits : n ≤ bigintMax) :
    cardPolicyAttempts (base ++ ":r" ++ toString n) = n + 1 := by
  unfold cardPolicyAttempts
  rw [revivalSuffix_counted]
  dsimp only
  rw [value_natText]
  by_cases zero : n = 0
  · rw [if_pos (Or.inr (by omega)), zero]
  · rw [if_neg (by omega)]

/-- Counting a counted key replaces the counter. -/
theorem revivalKey_revivalKey (key : String) (m n : Nat) :
    cardPolicyRevivalKey (cardPolicyRevivalKey key m) n = cardPolicyRevivalKey key n := by
  rw [revivalKey_eq, revivalKey_eq key m, intent_counted, ← revivalKey_eq]

theorem attempts_revivalKey (key : String) {n : Nat} (fits : n ≤ bigintMax) :
    cardPolicyAttempts (cardPolicyRevivalKey key n) = n + 1 := by
  rw [revivalKey_eq]
  exact attempts_counted _ fits

/-- The first key of an intent for a device. -/
def FirstKey (device : Uuid) (key : String) : Prop :=
  ∃ version payload, key = cardPolicyKey (uuidOut device) version payload

theorem pushArgs_firstKey (tenant device : Uuid) (version : String) (rows : List PolicyRow)
    (gateway : Timestamp) :
    FirstKey device (pushArgs tenant device version rows gateway).idempotencyKey :=
  ⟨version, _, rfl⟩

theorem head_dropWhile {p : Char → Bool} {front rest : List Char} {mark c : Char} {others : List Char}
    (stops : p mark = false) (h : (front ++ mark :: rest).dropWhile p = c :: others) :
    c ∈ front ∨ c = mark := by
  induction front with
  | nil =>
    rw [List.nil_append, List.dropWhile_cons_of_neg (by simp [stops])] at h
    exact Or.inr (List.cons.inj h).1.symm
  | cons first later ih =>
    by_cases skipped : p first = true
    · rw [List.cons_append, List.dropWhile_cons_of_pos skipped] at h
      rcases ih h with inLater | atMark
      · exact Or.inl (List.mem_cons_of_mem _ inLater)
      · exact Or.inr atMark
    · rw [List.cons_append, List.dropWhile_cons_of_neg skipped] at h
      exact Or.inl ((List.cons.inj h).1 ▸ List.mem_cons_self)

/-- r is no hexadecimal digit. -/
theorem revivalSuffix_hexadecimal {front tail : String}
    (digits : ∀ c ∈ tail.toList, c.isDigit = true ∨ ('a' ≤ c ∧ c ≤ 'f')) :
    revivalSuffix (front ++ ":" ++ tail) = none := by
  have reversed : (front ++ ":" ++ tail).toList.reverse =
      tail.toList.reverse ++ ':' :: front.toList.reverse := by
    simp
  unfold revivalSuffix
  rw [reversed]
  dsimp only
  split
  · next rest dropped =>
    rcases head_dropWhile (by decide) dropped with inHex | atMark
    · exact absurd (digits 'r' (List.mem_reverse.mp inHex)) (by decide)
    · exact absurd atMark (by decide)
  · rfl

theorem revivalSuffix_firstKey {device : Uuid} {key : String} (first : FirstKey device key) :
    revivalSuffix key = none := by
  obtain ⟨version, payload, rfl⟩ := first
  refine revivalSuffix_hexadecimal fun c member => ?_
  rw [fingerprint, String.toList_ofList] at member
  exact Sha256.mem_hex member

theorem intent_firstKey {device : Uuid} {key : String} (first : FirstKey device key) :
    intent key = key := by
  rw [intent, revivalSuffix_firstKey first]

theorem attempts_firstKey {device : Uuid} {key : String} (first : FirstKey device key) :
    cardPolicyAttempts key = 1 := by
  rw [cardPolicyAttempts, revivalSuffix_firstKey first]

/-! ## The commands of an intent -/

/-- A card policy of the device is stored under the key. -/
def Has (db : CommandDb) (tenant device : Uuid) (key : String) : Prop :=
  ∃ row ∈ db.commands, PolicyOf tenant device row ∧ row.idempotencyKey = key

/-- A key of an intent whose earlier keys are there. -/
inductive Lineage (db : CommandDb) (tenant device : Uuid) : String → Prop
  | first {key : String} (made : FirstKey device key) : Lineage db tenant device key
  | second {key : String} (made : FirstKey device key) (has : Has db tenant device key) :
    Lineage db tenant device (cardPolicyRevivalKey key 1)
  | third {key : String} (made : FirstKey device key) (has : Has db tenant device key)
    (again : Has db tenant device (cardPolicyRevivalKey key 1)) :
    Lineage db tenant device (cardPolicyRevivalKey key 2)

section Intents

variable {db db' : CommandDb} {tenant device : Uuid} {key : String}

theorem Has.grown (grown : Grown db db') (has : Has db tenant device key) :
    Has db' tenant device key := by
  obtain ⟨row, member, policy, named⟩ := has
  obtain ⟨after, inAfter, same⟩ := grown row member
  simp only [order, Prod.mk.injEq] at same
  obtain ⟨⟨_, tenants, devices, kinds⟩, _, keys, _⟩ := same
  exact ⟨after, inAfter, ⟨tenants.trans policy.1, devices.trans policy.2.1, kinds.trans policy.2.2⟩,
    keys.trans named⟩

theorem Lineage.grown (grown : Grown db db') (h : Lineage db tenant device key) :
    Lineage db' tenant device key := by
  cases h with
  | first made => exact .first made
  | second made has => exact .second made (has.grown grown)
  | third made has again => exact .third made (has.grown grown) (again.grown grown)

/-- The repetition of a key within the budget is the next key of its intent. -/
theorem Lineage.repeated (h : Lineage db tenant device key) (has : Has db tenant device key)
    (budget : cardPolicyAttempts key < maxCardPolicyDeliveries) :
    Lineage db tenant device (cardPolicyRevivalKey key (cardPolicyAttempts key)) := by
  cases h with
  | first made =>
    rw [attempts_firstKey made]
    exact .second made has
  | second made before =>
    rw [attempts_revivalKey _ (by decide), revivalKey_revivalKey]
    exact .third made before has
  | third made =>
    rw [attempts_revivalKey _ (by decide)] at budget
    exact absurd budget (by decide)

/-- The keys of an intent. -/
theorem Lineage.cases (h : Lineage db tenant device key) :
    FirstKey device (intent key) ∧
      (key = intent key ∨ (key = intent key ++ ":r1" ∧ Has db tenant device (intent key)) ∨
        (key = intent key ++ ":r2" ∧ Has db tenant device (intent key ++ ":r1"))) := by
  cases h with
  | first made =>
    rw [intent_firstKey made]
    exact ⟨made, Or.inl rfl⟩
  | @second base made has =>
    have named : cardPolicyRevivalKey base 1 = base ++ ":r1" := by
      rw [revivalKey_eq, intent_firstKey made]
      exact String.append_assoc
    have own : intent (cardPolicyRevivalKey base 1) = base := by
      rw [revivalKey_eq, intent_counted, intent_firstKey made]
    rw [own, named]
    exact ⟨made, Or.inr (Or.inl ⟨rfl, has⟩)⟩
  | @third base made _ again =>
    have named : ∀ n, cardPolicyRevivalKey base n = base ++ (":r" ++ toString n) := by
      intro n
      rw [revivalKey_eq, intent_firstKey made]
      exact String.append_assoc
    have own : intent (cardPolicyRevivalKey base 2) = base := by
      rw [revivalKey_eq, intent_counted, intent_firstKey made]
    rw [named 1] at again
    rw [own, named 2]
    exact ⟨made, Or.inr (Or.inr ⟨rfl, again⟩)⟩

theorem plan_none {row : CommandRow} {now : Timestamp} (h : planCardPolicyRedelivery row now = none) :
    row.acceptedAt = none ∧ late row = false ∧
      (row.status ≠ .succeeded ∧ row.status ≠ .failed ∧ row.status ≠ .unknown) ∧
      row.status ≠ .cancelled ∧ (row.status = .expired ∨ row.expiresAt ≤ now) ∧
      cardPolicyAttempts row.idempotencyKey < maxCardPolicyDeliveries := by
  unfold planCardPolicyRedelivery at h
  by_cases accepted : row.acceptedAt.isSome = true
  · rw [if_pos accepted] at h
    cases h
  rw [if_neg accepted] at h
  by_cases belated : late row = true
  · rw [if_pos belated] at h
    cases h
  rw [if_neg belated] at h
  by_cases answered : row.status = .succeeded ∨ row.status = .failed ∨ row.status = .unknown
  · rw [if_pos answered] at h
    cases h
  rw [if_neg answered] at h
  by_cases cancelled : row.status = .cancelled
  · rw [if_pos cancelled] at h
    cases h
  rw [if_neg cancelled] at h
  by_cases deliverable : row.status ≠ .expired ∧ now < row.expiresAt
  · rw [if_pos deliverable] at h
    cases h
  rw [if_neg deliverable] at h
  by_cases spent : maxCardPolicyDeliveries ≤ cardPolicyAttempts row.idempotencyKey
  · rw [if_pos spent] at h
    cases h
  simp only [not_or] at answered
  rw [not_and_or, not_not, not_lt] at deliverable
  exact ⟨by simpa using accepted, by simpa using belated, answered, cancelled, deliverable,
    not_le.mp spent⟩

theorem plan_none_of {row : CommandRow} {now : Timestamp} (accepted : row.acceptedAt = none)
    (belated : late row = false)
    (answered : row.status ≠ .succeeded ∧ row.status ≠ .failed ∧ row.status ≠ .unknown)
    (cancelled : row.status ≠ .cancelled) (over_ : row.status = .expired ∨ row.expiresAt ≤ now)
    (budget : cardPolicyAttempts row.idempotencyKey < maxCardPolicyDeliveries) :
    planCardPolicyRedelivery row now = none := by
  have undeliverable : ¬ (row.status ≠ .expired ∧ now < row.expiresAt) := by
    rwa [not_and_or, not_not, not_lt]
  unfold planCardPolicyRedelivery
  rw [if_neg (by simp [accepted]), if_neg (by simp [belated]), if_neg (by simpa using answered),
    if_neg cancelled, if_neg undeliverable, if_neg (not_le.mpr budget)]

end Intents

/-- Every card policy command has a key of its intent, and so has every row that is
about to be repeated. -/
structure Counted (state : Delivery) : Prop where
  commands : ∀ row ∈ state.commands.commands, ∀ tenant device, PolicyOf tenant device row →
    Lineage state.commands tenant device row.idempotencyKey
  handlers : ∀ tenant device row payload now started,
    Handler.redelivering tenant device row payload now started ∈ state.handlers →
    Lineage state.commands tenant device row.idempotencyKey ∧
      Has state.commands tenant device row.idempotencyKey ∧
      cardPolicyAttempts row.idempotencyKey < maxCardPolicyDeliveries

section Steps

variable {world : World} {state : Delivery} {event : Event}

/-- A redelivery is started by a read only. -/
theorem started_redelivering {tenant device : Uuid} {row : CommandRow} {payload : Jsonb}
    {now started : Timestamp}
    (h : Started world state event (.redelivering tenant device row payload now started)) :
    event = .read tenant device now started ∧ Newest tenant device state.commands row ∧
      planCardPolicyRedelivery row now = none := by
  cases h with
  | read found =>
    obtain ⟨_, _, same, newest, plan, _⟩ := redelivery_found found
    cases same
    exact ⟨rfl, newest, plan⟩
  | @advance index draw before handler found left =>
    cases before with
    | saved owner =>
      unfold advance at left
      dsimp only at left
      split at left <;> cases left
    | listed => cases left
    | pushing owner version rows devices => cases devices <;> cases left
    | versioned owner device version =>
      unfold advance at left
      dsimp only at left
      split at left <;> cases left
    | resuming => cases left
    | redelivering => cases left

theorem counted_step (world : World) (event : Event) (counted : Counted state) :
    Counted (step world state event) := by
  have grown := step_grown world state event
  constructor
  · intro row member tenant device policy
    rcases step_commands world state event with
      ⟨index, draw, handler, args, at_, rfl, found, ordered, written⟩ | ⟨op, rfl, kept⟩ | same
    · rw [written] at member
      rcases mem_enqueued member with old | ⟨rfl, _⟩
      · exact (counted.commands row old tenant device policy).grown grown
      · cases handler with
        | saved => cases ordered
        | listed => cases ordered
        | versioned => cases ordered
        | pushing owner version rows devices =>
          cases devices with
          | nil => cases ordered
          | cons first rest =>
            cases ordered
            obtain ⟨_, rfl, _⟩ := policy
            exact .first (pushArgs_firstKey owner first version rows draw.gateway)
        | resuming owner first version rows =>
          cases ordered
          obtain ⟨_, rfl, _⟩ := policy
          exact .first (pushArgs_firstKey owner first version rows draw.gateway)
        | redelivering owner first row payload now started =>
          cases ordered
          obtain ⟨rfl, rfl, _⟩ := policy
          obtain ⟨line, has, budget⟩ := counted.handlers _ _ _ _ _ _ (List.mem_of_getElem? found)
          exact (line.repeated has budget).grown grown
    · obtain ⟨old, inOld, touched⟩ := kept.back row member policy.2.2
      obtain ⟨_, _, _, _, _, keys, _⟩ := touched.fields
      rw [keys]
      exact (counted.commands old inOld tenant device ((PolicyOf.touched touched).mp policy)).grown grown
    · rw [same] at member
      exact (counted.commands row member tenant device policy).grown grown
  · intro tenant device row payload now started member
    rcases step_handlers member with old | new
    · obtain ⟨line, has, budget⟩ := counted.handlers _ _ _ _ _ _ old
      exact ⟨line.grown grown, has.grown grown, budget⟩
    · obtain ⟨_, newest, plan⟩ := started_redelivering new
      have has : Has state.commands tenant device row.idempotencyKey :=
        ⟨row, newest.member, newest.policy, rfl⟩
      refine ⟨(counted.commands row newest.member tenant device newest.policy).grown grown,
        has.grown grown, ?_⟩
      exact (plan_none plan).2.2.2.2.2

theorem counted_run (world : World) (events : List Event) : Counted (reached world events) := by
  induction events using List.reverseRecOn with
  | nil =>
    exact ⟨fun _ member => absurd member List.not_mem_nil,
      fun _ _ _ _ _ _ member => absurd member List.not_mem_nil⟩
  | append_singleton before event ih =>
    rw [reached_snoc]
    exact counted_step world event ih

end Steps

/-! ## The row that is repeated -/

/-- The device a handler is about to push to. -/
def pushTarget : Handler → Option (Uuid × Uuid)
  | .pushing tenant _ _ (device :: _) => some (tenant, device)
  | .resuming tenant device _ _ => some (tenant, device)
  | _ => none

/-- The redelivery has its key taken already, or the event neither pushes to its device
nor answers the row it read. -/
def Spares (state : Delivery) (event : Event) : Handler → Prop
  | .redelivering tenant device row payload now _ =>
    KeyTaken state.commands tenant (repeatArgs tenant device row payload now).idempotencyKey ∨
    match event with
    | .advance index _ => state.handlers[index]?.bind pushTarget ≠ some (tenant, device)
    | .lifecycle op => answers op ≠ some row.id
    | _ => True
  | _ => True

/-- The event spares every redelivery that is between its SELECT and its enqueue. -/
def Undisturbed (state : Delivery) (event : Event) : Prop :=
  ∀ handler ∈ state.handlers, Spares state event handler

instance (state : Delivery) (event : Event) : ∀ handler, Decidable (Spares state event handler)
  | .redelivering _ _ _ _ _ _ =>
    match event with
    | .advance _ _ => inferInstanceAs (Decidable (_ ∨ _ ≠ _))
    | .lifecycle _ => inferInstanceAs (Decidable (_ ∨ _ ≠ _))
    | .save _ _ _ => .isTrue (Or.inr trivial)
    | .delete _ _ => .isTrue (Or.inr trivial)
    | .resume _ _ _ => .isTrue (Or.inr trivial)
    | .read _ _ _ _ => .isTrue (Or.inr trivial)
    | .drop _ => .isTrue (Or.inr trivial)
  | .saved _ => .isTrue trivial
  | .listed _ _ => .isTrue trivial
  | .pushing _ _ _ _ => .isTrue trivial
  | .versioned _ _ _ => .isTrue trivial
  | .resuming _ _ _ _ => .isTrue trivial

instance (state : Delivery) (event : Event) : Decidable (Undisturbed state event) :=
  inferInstanceAs (Decidable (∀ handler ∈ state.handlers, _))

/-- No two card policies of a device were issued at one time. -/
def DistinctTimes (db : CommandDb) : Prop :=
  ∀ a ∈ db.commands, ∀ b ∈ db.commands, a.kind = .updateCardPolicy → b.kind = .updateCardPolicy →
    a.tenantId = b.tenantId → a.deviceId = b.deviceId → a.issuedAt = b.issuedAt → a = b

instance (db : CommandDb) : Decidable (DistinctTimes db) :=
  inferInstanceAs (Decidable (∀ a ∈ db.commands, ∀ b ∈ db.commands, _))

/-- The row a redelivery read, as it is now: still newest, still not taken. -/
structure Untaken (db : CommandDb) (tenant device : Uuid) (row : CommandRow) (now : Timestamp)
    (current : CommandRow) : Prop where
  newest : Newest tenant device db current
  same : order current = order row
  plan : planCardPolicyRedelivery current now = none

def Standing (state : Delivery) : Prop :=
  ∀ tenant device row payload now started,
    Handler.redelivering tenant device row payload now started ∈ state.handlers →
    KeyTaken state.commands tenant (repeatArgs tenant device row payload now).idempotencyKey ∨
    ∃ current, Untaken state.commands tenant device row now current

section Standing

variable {world : World} {state : Delivery} {event : Event} {db db' : CommandDb}
  {tenant device : Uuid} {row current : CommandRow} {now : Timestamp}

theorem KeyTaken.grown {key : String} (grown : Grown db db') (taken : KeyTaken db tenant key) :
    KeyTaken db' tenant key := by
  obtain ⟨row, member, owner, named⟩ := taken
  obtain ⟨after, inAfter, same⟩ := grown row member
  simp only [order, Prod.mk.injEq] at same
  obtain ⟨⟨_, tenants, _, _⟩, _, keys, _⟩ := same
  exact ⟨after, inAfter, tenants.trans owner, keys.trans named⟩

/-- Dispatching and expiring take nothing from a row that may be repeated. -/
theorem plan_touched {answered : Option Uuid} {after : CommandRow} (other : answered ≠ some row.id)
    (touched : Touched answered row after) (plan : planCardPolicyRedelivery row now = none) :
    planCardPolicyRedelivery after now = none := by
  obtain ⟨accepted, belated, settled, cancelled, ended, budget⟩ := plan_none plan
  cases touched with
  | kept => exact plan
  | dispatched at_ due =>
    have past : row.expiresAt ≤ now := by
      rcases ended with expired | past
      · rw [expired] at due
        cases due
      · exact past
    have status : (dispatchRow at_ row).status = .dispatched := rfl
    exact plan_none_of accepted belated (by simp [status]) (by simp [status]) (Or.inr past) budget
  | expired calendar at_ =>
    have status : (expireRow calendar at_ row).status = .expired := rfl
    exact plan_none_of accepted rfl (by simp [status]) (by simp [status]) (Or.inl status) budget
  | answered own => exact absurd own other

theorem Untaken.kept {answered : Option Uuid} (h : Untaken db tenant device row now current)
    (other : answered ≠ some row.id) (kept : PoliciesKept answered db db') :
    ∃ after, Untaken db' tenant device row now after := by
  obtain ⟨after, inAfter, touched⟩ := kept.onward current h.newest.member
  have id : current.id = row.id := congrArg (fun order => order.1.1) h.same
  obtain ⟨_, _, _, _, _, _, issued⟩ := touched.fields
  refine ⟨after, ⟨inAfter, (PolicyOf.touched touched).mpr h.newest.policy, ?_⟩,
    touched.order_eq.trans h.same, plan_touched (by rwa [id]) touched h.plan⟩
  intro rival inRival policy
  obtain ⟨old, inOld, before⟩ := kept.back rival inRival policy.2.2
  obtain ⟨_, _, _, _, _, _, rivalIssued⟩ := before.fields
  rw [rivalIssued, issued]
  exact h.newest.latest old inOld ((PolicyOf.touched before).mp policy)

/-- A new command of another device changes nothing for this one. -/
theorem Untaken.elsewhere {new : CommandRow} (h : Untaken db tenant device row now current)
    (members : ∀ other, other ∈ db'.commands ↔ other ∈ db.commands ∨ other = new)
    (other : ¬ PolicyOf tenant device new) : Untaken db' tenant device row now current := by
  refine ⟨⟨(members _).mpr (Or.inl h.newest.member), h.newest.policy, ?_⟩, h.same, h.plan⟩
  intro rival inRival policy
  rcases (members rival).mp inRival with old | rfl
  · exact h.newest.latest rival old policy
  · exact absurd policy other

theorem newest_unique (distinct : DistinctTimes db) {a b : CommandRow}
    (newestA : Newest tenant device db a) (newestB : Newest tenant device db b) : a = b := by
  obtain ⟨memberA, policyA, latestA⟩ := newestA
  obtain ⟨memberB, policyB, latestB⟩ := newestB
  exact distinct a memberA b memberB policyA.2.2 policyB.2.2 (policyA.1.trans policyB.1.symm)
    (policyA.2.1.trans policyB.2.1.symm)
    (le_antisymm (latestB a memberA policyA) (latestA b memberB policyB))

theorem standing_step (standing : Standing state) (distinct : DistinctTimes state.commands)
    (undisturbed : Undisturbed state event) : Standing (step world state event) := by
  have grown := step_grown world state event
  intro tenant device row payload now started member
  rcases step_handlers member with old | new
  · rcases standing _ _ _ _ _ _ old with taken | ⟨current, untaken⟩
    · exact Or.inl (KeyTaken.grown grown taken)
    rcases undisturbed _ old with taken | calm
    · exact Or.inl (KeyTaken.grown grown taken)
    rcases step_commands world state event with
      ⟨index, draw, handler, args, at_, rfl, found, ordered, written⟩ | ⟨op, rfl, kept⟩ | same
    · rcases @enqueued_cases world args draw at_ state.commands with same | ⟨free, _, members⟩
      · rw [written, same]
        exact Or.inr ⟨current, untaken⟩
      · by_cases here : PolicyOf tenant device (args.command draw.commandId at_)
        · -- Only another redelivery of this row comes here, and it takes the key.
          left
          dsimp only at calm
          rw [found] at calm
          cases handler with
          | saved => cases ordered
          | listed => cases ordered
          | versioned => cases ordered
          | pushing owner version rows devices =>
            cases devices with
            | nil => cases ordered
            | cons first rest =>
              cases ordered
              obtain ⟨rfl, rfl, _⟩ := here
              exact absurd rfl calm
          | resuming owner first version rows =>
            cases ordered
            obtain ⟨rfl, rfl, _⟩ := here
            exact absurd rfl calm
          | redelivering owner first other otherPayload otherNow otherStarted =>
            cases ordered
            obtain ⟨rfl, rfl, _⟩ := here
            rcases standing _ _ _ _ _ _ (List.mem_of_getElem? found) with taken | ⟨rival, rivalUntaken⟩
            · exact absurd taken free
            · have one := newest_unique distinct untaken.newest rivalUntaken.newest
              have keys : other.idempotencyKey = row.idempotencyKey := by
                have first := congrArg (fun order => order.2.2.1) rivalUntaken.same
                have second := congrArg (fun order => order.2.2.1) untaken.same
                rw [one] at second
                exact first.symm.trans second
              refine ⟨_, (written ▸ (members _).mpr (Or.inr rfl)), rfl, ?_⟩
              show cardPolicyRevivalKey other.idempotencyKey (cardPolicyAttempts other.idempotencyKey) =
                cardPolicyRevivalKey row.idempotencyKey (cardPolicyAttempts row.idempotencyKey)
              rw [keys]
        · right
          refine ⟨current, untaken.elsewhere (fun other => ?_) here⟩
          rw [written]
          exact members other
    · exact Or.inr (untaken.kept calm kept)
    · rw [same]
      exact Or.inr ⟨current, untaken⟩
  · obtain ⟨rfl, newest, plan⟩ := started_redelivering new
    exact Or.inr ⟨row, newest, rfl, plan⟩

theorem DistinctTimes.earlier (grown : Grown db db') (distinct : DistinctTimes db') :
    DistinctTimes db := by
  intro a memberA b memberB policyA policyB tenants devices times
  obtain ⟨afterA, inA, sameA⟩ := grown a memberA
  obtain ⟨afterB, inB, sameB⟩ := grown b memberB
  simp only [order, Prod.mk.injEq] at sameA sameB
  obtain ⟨⟨idA, tenantA, deviceA, kindA⟩, _, _, issuedA, _⟩ := sameA
  obtain ⟨⟨idB, tenantB, deviceB, kindB⟩, _, _, issuedB, _⟩ := sameB
  have one : afterA = afterB := distinct afterA inA afterB inB (kindA.trans policyA)
    (kindB.trans policyB) (by rw [tenantA, tenantB, tenants]) (by rw [deviceA, deviceB, devices])
    (by rw [issuedA, issuedB, times])
  refine Table.eq_of_key memberA memberB ?_
  rw [← idA, ← idB, one]

theorem standing_run {events : List Event}
    (undisturbed : Guarded (step world) Undisturbed Delivery.start events)
    (distinct : DistinctTimes (reached world events).commands) :
    Standing (reached world events) := by
  induction events using List.reverseRecOn with
  | nil => exact fun _ _ _ _ _ _ member => absurd member List.not_mem_nil
  | append_singleton before event ih =>
    rw [guarded_append] at undisturbed
    rw [reached_snoc] at distinct ⊢
    have before_ := distinct.earlier (step_grown world _ event)
    exact standing_step (ih undisturbed.1 before_) before_ undisturbed.2.1

end Standing

/-! ## Bounded redelivery -/

/-- The card policy commands of an intent. -/
def intentRows (tenant : Uuid) (key : String) (db : CommandDb) : List CommandRow :=
  db.commands.rows.filter fun row => row.tenantId = tenant && row.kind = .updateCardPolicy &&
    intent row.idempotencyKey = key

/-- The new command repeats the newest one of its device, which the device has neither
taken nor answered and which is over by the clock of the redelivery. -/
def Repeats (db : CommandDb) (made : CommandRow) : Prop :=
  ∃ row now, Newest made.tenantId made.deviceId db row ∧
    made.idempotencyKey =
      cardPolicyRevivalKey row.idempotencyKey (cardPolicyAttempts row.idempotencyKey) ∧
    row.acceptedAt = none ∧ late row = false ∧
    row.status ∉ [.succeeded, .failed, .unknown, .cancelled] ∧
    (row.status = .expired ∨ row.expiresAt ≤ now) ∧ made.expiresAt = now + cardPolicyTTL

section Bounded

variable {world : World} {tenant : Uuid} {key : String}

theorem mem_intentRows {db : CommandDb} {row : CommandRow} :
    row ∈ intentRows tenant key db ↔ row ∈ db.commands ∧ PolicyOf tenant row.deviceId row ∧
      intent row.idempotencyKey = key := by
  simp [intentRows, PolicyOf, Table.mem_rows, and_assoc]

theorem intentRows_keys {state : Delivery} (counted : Counted state) {row : CommandRow}
    (member : row ∈ intentRows tenant key state.commands) :
    row.idempotencyKey ∈ [key, key ++ ":r1", key ++ ":r2"] := by
  obtain ⟨inTable, policy, rfl⟩ := mem_intentRows.mp member
  rcases (counted.commands row inTable _ _ policy).cases.2 with same | ⟨same, _⟩ | ⟨same, _⟩
  · exact List.mem_cons.mpr (Or.inl same)
  · exact List.mem_cons_of_mem _ (List.mem_cons.mpr (Or.inl same))
  · exact List.mem_cons_of_mem _ (List.mem_cons_of_mem _ (List.mem_cons.mpr (Or.inl same)))

theorem intentRows_length {state : Delivery} (counted : Counted state) :
    (intentRows tenant key state.commands).length ≤ 3 := by
  have distinct : ((intentRows tenant key state.commands).map CommandRow.idempotencyKey).Nodup := by
    refine List.Nodup.map_on (fun a memberA b memberB same => ?_)
      ((List.Nodup.of_map _ state.commands.commands.unique).filter _)
    obtain ⟨inA, policyA, _⟩ := mem_intentRows.mp memberA
    obtain ⟨inB, policyB, _⟩ := mem_intentRows.mp memberB
    exact state.commands.valid.idempotencyKey a inA b inB (policyA.1.trans policyB.1.symm) same
  have three : (intentRows tenant key state.commands).map CommandRow.idempotencyKey ⊆
      [key, key ++ ":r1", key ++ ":r2"] := by
    intro found member
    obtain ⟨row, inRows, rfl⟩ := List.mem_map.mp member
    exact intentRows_keys counted inRows
  simpa using (List.subperm_of_subset distinct three).length_le

/-- A stored key of the intent is the key of one of its commands. -/
theorem intentRows_of_has {db : CommandDb} {device : Uuid} {found : String}
    (has : Has db tenant device found) (own : intent found = key) :
    ∃ row ∈ intentRows tenant key db, row.idempotencyKey = found := by
  obtain ⟨row, member, policy, rfl⟩ := has
  exact ⟨row, mem_intentRows.mpr ⟨member, ⟨policy.1, rfl, policy.2.2⟩, own⟩, rfl⟩

/-- A later key of an intent stands beside the one before it. -/
theorem intentRows_order {state : Delivery} (counted : Counted state) {row : CommandRow}
    (member : row ∈ intentRows tenant key state.commands) :
    (row.idempotencyKey = key ++ ":r1" →
      ∃ first ∈ intentRows tenant key state.commands, first.idempotencyKey = key) ∧
    (row.idempotencyKey = key ++ ":r2" →
      ∃ second ∈ intentRows tenant key state.commands, second.idempotencyKey = key ++ ":r1") := by
  have differ : ∀ text rest : String, rest.length ≠ 0 → text ≠ text ++ rest := by
    intro text rest some_ same
    have lengths := congrArg String.length same
    rw [String.length_append] at lengths
    omega
  have apart : ∀ text : String, text ++ ":r1" ≠ text ++ ":r2" := by
    intro text same
    have lists := congrArg String.toList same
    rw [String.toList_append, String.toList_append, List.append_cancel_left_eq] at lists
    exact absurd lists (by decide)
  obtain ⟨inTable, policy, rfl⟩ := mem_intentRows.mp member
  obtain ⟨made, keys⟩ := (counted.commands row inTable _ _ policy).cases
  constructor
  · intro second
    rcases keys with same | ⟨_, has⟩ | ⟨same, _⟩
    · exact absurd (same.symm.trans second) (differ _ _ (by decide))
    · exact intentRows_of_has has (intent_firstKey made)
    · exact absurd (second.symm.trans same) (apart _)
  · intro third
    rcases keys with same | ⟨same, _⟩ | ⟨_, has⟩
    · exact absurd (same.symm.trans third) (differ _ _ (by decide))
    · exact absurd (same.symm.trans third) (apart _)
    · exact intentRows_of_has has (intent_again _)

/-- A command with a counted key is new only where it repeats the newest one. -/
theorem made_repeats {state : Delivery} {event : Event} {made : CommandRow} (standing : Standing state)
    (member : made ∈ (step world state event).commands.commands) (policy : made.kind = .updateCardPolicy)
    (counted : revivalSuffix made.idempotencyKey ≠ none)
    (new : ∀ old ∈ state.commands.commands, old.id ≠ made.id) : Repeats state.commands made := by
  rcases step_commands world state event with
    ⟨index, draw, handler, args, at_, rfl, found, ordered, written⟩ | ⟨op, rfl, kept⟩ | same
  · rw [written] at member
    rcases mem_enqueued member with old | ⟨rfl, free, _⟩
    · exact absurd rfl (new made old)
    · cases handler with
      | saved => cases ordered
      | listed => cases ordered
      | versioned => cases ordered
      | pushing owner version rows devices =>
        cases devices with
        | nil => cases ordered
        | cons first rest =>
          cases ordered
          have first_ := pushArgs_firstKey owner first version rows draw.gateway
          exact absurd (revivalSuffix_firstKey first_) counted
      | resuming owner first version rows =>
        cases ordered
        have first_ := pushArgs_firstKey owner first version rows draw.gateway
        exact absurd (revivalSuffix_firstKey first_) counted
      | redelivering owner first row payload now started =>
        cases ordered
        rcases standing _ _ _ _ _ _ (List.mem_of_getElem? found) with taken | ⟨current, untaken⟩
        · exact absurd taken free
        · obtain ⟨accepted, belated, answered, cancelled, ended, _⟩ := plan_none untaken.plan
          have keys : current.idempotencyKey = row.idempotencyKey :=
            congrArg (fun order => order.2.2.1) untaken.same
          refine ⟨current, now, untaken.newest, ?_, accepted, belated, ?_, ended, rfl⟩
          · rw [keys]
            rfl
          · simpa [not_or] using ⟨answered.1, answered.2.1, answered.2.2, cancelled⟩
  · obtain ⟨old, inOld, touched⟩ := kept.back made member policy
    exact absurd touched.fields.1.symm (new old inOld)
  · rw [same] at member
    exact absurd rfl (new made member)

/-- In every run the commands of an intent are three at most, one after another, and
no counter is put on a counter; and where nothing disturbs a redelivery between its
SELECT and its enqueue, it repeats the newest command, and one that was not taken. -/
theorem redelivery_bounded {events : List Event}
    (undisturbed : Guarded (step world) Undisturbed Delivery.start events)
    (distinct : DistinctTimes (reached world events).commands) :
    (∀ tenant device key, FirstKey device key →
      (intentRows tenant key (reached world events).commands).length ≤ 3 ∧
      ∀ row ∈ intentRows tenant key (reached world events).commands,
        row.idempotencyKey ∈ [key, key ++ ":r1", key ++ ":r2"] ∧
        (row.idempotencyKey = key ++ ":r1" →
          ∃ first ∈ intentRows tenant key (reached world events).commands,
            first.idempotencyKey = key) ∧
        (row.idempotencyKey = key ++ ":r2" →
          ∃ second ∈ intentRows tenant key (reached world events).commands,
            second.idempotencyKey = key ++ ":r1")) ∧
    (∀ before event, before ++ [event] <+: events →
      ∀ made ∈ (reached world (before ++ [event])).commands.commands,
        made.kind = .updateCardPolicy → revivalSuffix made.idempotencyKey ≠ none →
        (∀ old ∈ (reached world before).commands.commands, old.id ≠ made.id) →
        Repeats (reached world before).commands made) ∧
    (∀ row ∈ (reached world events).commands.commands, row.kind = .updateCardPolicy →
      FirstKey row.deviceId (intent row.idempotencyKey) ∧ ∀ n < bigintMax,
        cardPolicyAttempts (cardPolicyRevivalKey row.idempotencyKey n) = n + 1 ∧
        cardPolicyRevivalKey row.idempotencyKey n =
          intent row.idempotencyKey ++ ":r" ++ toString n) := by
  have counted := counted_run world events
  refine ⟨fun tenant device key _ => ⟨intentRows_length counted, fun row member => ?_⟩, ?_, ?_⟩
  · exact ⟨intentRows_keys counted member, intentRows_order counted member⟩
  · rintro before event ⟨rest, rfl⟩ made member policy again new
    rw [reached_snoc] at member
    refine made_repeats (standing_run ?_ (distinct.earlier ?_)) member policy again new
    · exact (guarded_append.mp (guarded_append.mp undisturbed).1).1
    · rw [reached, reached, List.append_assoc, List.foldl_append]
      exact steps_grown world _ _
  · intro row member policy
    refine ⟨(counted.commands row member _ _ ⟨rfl, rfl, policy⟩).cases.1, fun n small => ?_⟩
    exact ⟨attempts_revivalKey _ small.le, revivalKey_eq _ n⟩

end Bounded

/-- A policy is pushed to device 7 and runs out, and a session of the device reads it. -/
def readOnce : List Event :=
  [.save 1 (cardPolicy firstCard none) 10000000, .advance 0 anyDraw, .advance 0 anyDraw,
    .advance 0 anyDraw, .read 1 7 2000000000 2000000000]

def nextDraw : Draw := ⟨2, 2, 2000000002, 2000000002, []⟩

/-- A second session reads it too, and both queue it. -/
def queuedTwice : List Event :=
  readOnce ++ [.read 1 7 2000000001 2000000001] ++ [.advance 1 nextDraw] ++ [.advance 1 nextDraw]

/-- There is one repetition, of a command that was not taken. -/
theorem two_sessions_repeat_once :
    (reached plainWorld queuedTwice).commands.commands.rows.length = 2 ∧
    ∃ made ∈ (reached plainWorld queuedTwice).commands.commands,
      Repeats (reached plainWorld (readOnce ++ [.read 1 7 2000000001 2000000001])).commands made := by
  have facts : (reached plainWorld queuedTwice).commands.commands.rows.length = 2 ∧
      Guarded (step plainWorld) Undisturbed Delivery.start queuedTwice ∧
      DistinctTimes (reached plainWorld queuedTwice).commands ∧
      ∃ made ∈ (reached plainWorld queuedTwice).commands.commands,
        made ∈ (reached plainWorld (readOnce ++ [.read 1 7 2000000001 2000000001] ++
          [.advance 1 nextDraw])).commands.commands ∧
        made.kind = .updateCardPolicy ∧ revivalSuffix made.idempotencyKey ≠ none ∧
        ∀ old ∈ (reached plainWorld (readOnce ++ [.read 1 7 2000000001 2000000001])).commands.commands,
          old.id ≠ made.id := by decide +kernel
  obtain ⟨two, undisturbed, distinct, made, member, before, policy, counted, new⟩ := facts
  exact ⟨two, made, member, (redelivery_bounded undisturbed distinct).2.1 _ _ (List.prefix_append _ _)
    made before policy counted new⟩

/-- The device accepts the command while the session is about to repeat it. -/
def acceptedMeanwhile : List Event :=
  readOnce ++ [.lifecycle (.recordReceipt 1 ⟨uuidOut 5, uuidOut 1, uuidOut 6, "accepted", 2000000000⟩
    2000000001)]

/-- An accepted command is repeated all the same. -/
theorem accepted_policy_repeated :
    ∃ made ∈ (reached plainWorld (acceptedMeanwhile ++ [.advance 1 nextDraw])).commands.commands,
      made.kind = .updateCardPolicy ∧ revivalSuffix made.idempotencyKey ≠ none ∧
      (∀ old ∈ (reached plainWorld acceptedMeanwhile).commands.commands, old.id ≠ made.id) ∧
      DistinctTimes (reached plainWorld (acceptedMeanwhile ++ [.advance 1 nextDraw])).commands ∧
      ¬ Repeats (reached plainWorld acceptedMeanwhile).commands made := by
  have facts : (∀ row ∈ (reached plainWorld acceptedMeanwhile).commands.commands,
        row.acceptedAt ≠ none) ∧
      ∃ made ∈ (reached plainWorld (acceptedMeanwhile ++ [.advance 1 nextDraw])).commands.commands,
        made.kind = .updateCardPolicy ∧ revivalSuffix made.idempotencyKey ≠ none ∧
        (∀ old ∈ (reached plainWorld acceptedMeanwhile).commands.commands, old.id ≠ made.id) ∧
        DistinctTimes (reached plainWorld (acceptedMeanwhile ++ [.advance 1 nextDraw])).commands := by
    decide +kernel
  obtain ⟨accepted, made, member, policy, counted, new, distinct⟩ := facts
  refine ⟨made, member, policy, counted, new, distinct, ?_⟩
  rintro ⟨row, now, newest, _, untaken, _⟩
  exact accepted row newest.member untaken

end VodogeCloud.Guarantees.PolicyRedelivery
