import Mathlib.Tactic.Common

/-!
# Runs of transactions

An operation is a function that returns the next state or an error, and an error
rolls back: the state stays as it was. A run is any finite sequence of
operations. Two rules carry a fact about one committed transaction over a whole
run, one for relations between the first and the last state and one for
invariants.
-/

set_option autoImplicit false

namespace VodogeCloud.Lib.Transactions

section Peel

variable {ε α β : Type}

theorem ok_bind (value : α) (next : α → Except ε β) : (Except.ok value >>= next) = next value := rfl

/-- A transaction that went through went through in each of its steps. -/
theorem bind_success {step : Except ε α} {next : α → Except ε β} {value : β}
    (h : (step >>= next) = .ok value) : ∃ x, step = .ok x ∧ next x = .ok value := by
  cases step with
  | error e => cases h
  | ok x => exact ⟨x, rfl, h⟩

theorem map_success {step : Except ε α} {f : α → β} {value : β} (h : step.map f = .ok value) :
    ∃ x, step = .ok x ∧ f x = value := by
  cases step with
  | error e => cases h
  | ok x => cases h; exact ⟨x, rfl, rfl⟩

/-- A transaction that went through passed its check. -/
theorem check_success {refused : Prop} [Decidable refused] {err : ε} {next : Except ε β} {value : β}
    (h : (if refused then .error err else next) = .ok value) : ¬ refused ∧ next = .ok value := by
  by_cases stopped : refused
  · rw [if_pos stopped] at h
    cases h
  · rw [if_neg stopped] at h
    exact ⟨stopped, h⟩

/-- A transaction that failed failed in its first step or after it. -/
theorem bind_failure {step : Except ε α} {next : α → Except ε β} {err : ε}
    (h : (step >>= next) = .error err) :
    step = .error err ∨ ∃ x, step = .ok x ∧ next x = .error err := by
  cases step with
  | error e => cases h; exact Or.inl rfl
  | ok x => exact Or.inr ⟨x, rfl, h⟩

/-- A result that is no success is a failure. -/
theorem exists_error {result : Except ε α} (fails : ∀ value, result ≠ .ok value) : ∃ err, result = .error err := by
  cases result with
  | ok value => exact absurd rfl (fails value)
  | error err => exact ⟨err, rfl⟩

/-- A loop of checks that went through checked every item. -/
theorem forM_success {check : α → Except ε Unit} {items : List α} (passed : items.forM check = .ok ()) :
    ∀ item ∈ items, check item = .ok () := by
  induction items with
  | nil => exact fun item member => absurd member List.not_mem_nil
  | cons first rest ih =>
    change (check first >>= fun _ => rest.forM check) = .ok () at passed
    obtain ⟨_, here, passed⟩ := bind_success passed
    intro item member
    rcases List.mem_cons.mp member with rfl | later
    · exact here
    · exact ih passed item later

/-- What no turn of a loop changes, the loop does not change. -/
theorem foldlM_keeps {V : Type} {turn : α → β → Except ε α} (view : α → V)
    (once : ∀ state item next, turn state item = .ok next → view next = view state)
    {items : List β} {state last : α} (h : items.foldlM turn state = .ok last) :
    view last = view state := by
  induction items generalizing state with
  | nil =>
    cases h
    rfl
  | cons item rest ih =>
    rw [List.foldlM_cons] at h
    obtain ⟨next, first, h⟩ := bind_success h
    exact (ih h).trans (once state item next first)

/-- A loop whose turns go through and follow a second machine goes through and
ends where that machine does. -/
theorem foldlM_simulates {T : Type} {turn : α → β → Except ε α} {abstract : T → β → T}
    {R : α → T → Prop} {items : List β}
    (once : ∀ item ∈ items, ∀ state shadow, R state shadow →
      ∃ next, turn state item = .ok next ∧ R next (abstract shadow item))
    {state : α} {shadow : T} (start : R state shadow) :
    ∃ last, items.foldlM turn state = .ok last ∧ R last (items.foldl abstract shadow) := by
  induction items generalizing state shadow with
  | nil => exact ⟨state, rfl, start⟩
  | cons item rest ih =>
    obtain ⟨next, taken, related⟩ := once item List.mem_cons_self state shadow start
    obtain ⟨last, followed, final⟩ :=
      ih (fun other member => once other (List.mem_cons_of_mem _ member)) related
    refine ⟨last, ?_, final⟩
    rw [List.foldlM_cons, taken]
    exact followed

end Peel

section Steps

variable {S Op : Type} {step : S → Op → S}

/-- What one step keeps, any sequence of steps keeps. -/
theorem foldl_rel {R : S → S → Prop} (refl : ∀ state, R state state)
    (trans : ∀ a b c, R a b → R b c → R a c) (once : ∀ state op, R state (step state op)) (state : S)
    (ops : List Op) : R state (ops.foldl step state) := by
  induction ops generalizing state with
  | nil => exact refl state
  | cons op rest ih => exact trans _ _ _ (once state op) (ih _)

/-- Every step meets the guard in the state it is taken in. -/
def Guarded (step : S → Op → S) (guard_ : S → Op → Prop) : S → List Op → Prop
  | _, [] => True
  | state, op :: rest => guard_ state op ∧ Guarded step guard_ (step state op) rest

instance {guard_ : S → Op → Prop} [∀ state op, Decidable (guard_ state op)] :
    ∀ (state : S) (ops : List Op), Decidable (Guarded step guard_ state ops)
  | _, [] => .isTrue trivial
  | state, op :: rest =>
    have : Decidable (Guarded step guard_ (step state op) rest) :=
      instDecidableGuarded (step state op) rest
    inferInstanceAs (Decidable (_ ∧ _))

theorem guarded_append {guard_ : S → Op → Prop} {state : S} {early late : List Op} :
    Guarded step guard_ state (early ++ late) ↔
      Guarded step guard_ state early ∧ Guarded step guard_ (early.foldl step state) late := by
  induction early generalizing state with
  | nil => simp [Guarded]
  | cons op rest ih => simp [Guarded, ih, and_assoc]

/-- An invariant that guarded steps keep. -/
theorem foldl_guarded {P : S → Prop} {guard_ : S → Op → Prop}
    (once : ∀ state op, P state → guard_ state op → P (step state op)) (state : S) (start : P state)
    (ops : List Op) (guarded : Guarded step guard_ state ops) : P (ops.foldl step state) := by
  induction ops generalizing state with
  | nil => exact start
  | cons op rest ih => exact ih _ (once state op start guarded.1) guarded.2

/-- A guard that is exactly what one step needs is exactly what a run needs. -/
theorem guarded_iff {P : S → Prop} {guard_ : S → Op → Prop}
    (once : ∀ state op, P state → (P (step state op) ↔ guard_ state op)) (state : S) (start : P state)
    (ops : List Op) :
    (∀ early, early <+: ops → P (early.foldl step state)) ↔ Guarded step guard_ state ops := by
  induction ops generalizing state with
  | nil =>
    refine iff_of_true (fun early short => ?_) trivial
    rw [List.prefix_nil.mp short]
    exact start
  | cons op rest ih =>
    constructor
    · intro every
      have first : P (step state op) := every [op] (by simp)
      refine ⟨(once state op start).mp first, (ih _ first).mp fun early short => ?_⟩
      exact every (op :: early) (List.cons_prefix_cons.mpr ⟨rfl, short⟩)
    · rintro ⟨first, others⟩ early short
      cases early with
      | nil => exact start
      | cons other later =>
        obtain ⟨rfl, shorter⟩ := List.cons_prefix_cons.mp short
        exact (ih _ ((once state other start).mpr first)).mpr others later shorter

end Steps

variable {S Op ε : Type} {apply : Op → S → Except ε S}

/-- Commit or roll back. -/
def settle (apply : Op → S → Except ε S) (state : S) (op : Op) : S :=
  match apply op state with
  | .ok next => next
  | .error _ => state

def run (apply : Op → S → Except ε S) (state : S) (ops : List Op) : S :=
  ops.foldl (settle apply) state

@[simp] theorem run_nil (state : S) : run apply state [] = state := rfl

theorem run_cons (state : S) (op : Op) (ops : List Op) :
    run apply state (op :: ops) = run apply (settle apply state op) ops := rfl

theorem settle_of_ok {state next : S} {op : Op} (h : apply op state = .ok next) :
    settle apply state op = next := by
  simp [settle, h]

theorem settle_of_error {state : S} {op : Op} {err : ε} (h : apply op state = .error err) :
    settle apply state op = state := by
  simp [settle, h]

/-- What a transaction keeps when it commits, it keeps when it is settled. -/
theorem settle_rel {R : S → S → Prop} (refl : ∀ state, R state state)
    (step : ∀ op state next, apply op state = .ok next → R state next) (state : S) (op : Op) :
    R state (settle apply state op) := by
  cases outcome : apply op state with
  | ok next => rw [settle_of_ok outcome]; exact step op state next outcome
  | error err => rw [settle_of_error outcome]; exact refl state

theorem run_rel {R : S → S → Prop} (refl : ∀ state, R state state)
    (trans : ∀ a b c, R a b → R b c → R a c)
    (step : ∀ op state next, apply op state = .ok next → R state next) (state : S)
    (ops : List Op) : R state (run apply state ops) :=
  foldl_rel refl trans (settle_rel refl step) state ops

theorem run_invariant {P : S → Prop}
    (step : ∀ op state next, P state → apply op state = .ok next → P next) (state : S)
    (start : P state) (ops : List Op) : P (run apply state ops) :=
  run_rel (fun _ h => h) (fun _ _ _ first second h => second (first h))
    (fun op state next committed h => step op state next h committed) state ops start

end VodogeCloud.Lib.Transactions
