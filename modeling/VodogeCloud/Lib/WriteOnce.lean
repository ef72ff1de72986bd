import Mathlib.Data.List.Forall2
import Mathlib.Logic.Function.Basic

/-!
# Logs that are written once

A log keeps the first content offered under a key. A later offer under the key is a repeat
where it says the same and a conflict where it does not. What a log answers depends on the
offers alone, so stores whose steps simulate those of the log answer alike.
-/

set_option autoImplicit false

namespace VodogeCloud.Lib.WriteOnce

variable {κ γ : Type}

inductive Answer where
  | stored
  | repeated
  | conflict
  deriving DecidableEq, Repr

/-- What is stored under each key. -/
abbrev Log (κ γ : Type) : Type := κ → Option γ

def Log.empty : Log κ γ := fun _ => none

section Answers

variable [DecidableEq γ]

def Log.answer (log : Log κ γ) (key : κ) (content : γ) : Answer :=
  match log key with
  | none => .stored
  | some held => if held = content then .repeated else .conflict

variable {log : Log κ γ} {key : κ} {content held : γ}

theorem answer_of_none (absent : log key = none) : log.answer key content = .stored := by
  rw [Log.answer, absent]

theorem answer_of_same (found : log key = some content) : log.answer key content = .repeated := by
  rw [Log.answer, found]
  exact if_pos rfl

theorem answer_of_other (found : log key = some held) (different : held ≠ content) :
    log.answer key content = .conflict := by
  rw [Log.answer, found]
  exact if_neg different

end Answers

section Offers

variable [DecidableEq κ] {log : Log κ γ} {key : κ} {content held : γ}

/-- The log after an offer. -/
def Log.offer (log : Log κ γ) (key : κ) (content : γ) : Log κ γ :=
  Function.update log key (some ((log key).getD content))

theorem offer_of_none (absent : log key = none) : log.offer key content = Function.update log key (some content) := by
  rw [Log.offer, absent, Option.getD_none]

/-- A key that is taken stays as it is. -/
theorem offer_of_some (found : log key = some held) : log.offer key content = log := by
  rw [Log.offer, found, Option.getD_some, ← found, Function.update_eq_self]

end Offers

/-! ## Stores that simulate a log -/

section Simulation

variable [DecidableEq κ] [DecidableEq γ] {σ ι α : Type}

/-- The answers to a list of offers, each with the log after it. -/
def Log.answers (log : Log κ γ) : List (κ × γ) → List (Answer × Log κ γ)
  | [] => []
  | (key, content) :: rest => (log.answer key content, log.offer key content) :: (log.offer key content).answers rest

/-- What a store says to a list of items; it may not return. -/
def outputs (step : σ → ι → Option (σ × α)) (state : σ) : List ι → Option (List α)
  | [] => some []
  | input :: rest => do
    let (next, output) ← step state input
    let later ← outputs step next rest
    return output :: later

variable {step : σ → ι → Option (σ × α)} {item : ι → κ × γ} {holds : σ → Log κ γ → Prop}
  {tells : ι → Answer × Log κ γ → α → Prop}

/-- A step stands for an offer to the log. -/
def Simulates (step : σ → ι → Option (σ × α)) (item : ι → κ × γ) (holds : σ → Log κ γ → Prop)
    (tells : ι → Answer × Log κ γ → α → Prop) (input : ι) : Prop :=
  ∀ state log, holds state log → ∃ next output, step state input = some (next, output) ∧
    holds next (log.offer (item input).1 (item input).2) ∧
    tells input (log.answer (item input).1 (item input).2, log.offer (item input).1 (item input).2) output

/-- A store whose every step is an offer says what the log answers. -/
theorem outputs_tell {log : Log κ γ} (inputs : List ι) {state : σ} (held : holds state log)
    (simulates : ∀ input ∈ inputs, Simulates step item holds tells input) :
    ∃ said, outputs step state inputs = some said ∧
      List.Forall₂ (fun asked output => tells asked.1 asked.2 output)
        (inputs.zip (log.answers (inputs.map item))) said := by
  induction inputs generalizing state log with
  | nil => exact ⟨[], rfl, List.Forall₂.nil⟩
  | cons input rest ih =>
    obtain ⟨next, output, stepped, kept, answered⟩ := simulates input List.mem_cons_self state log held
    obtain ⟨later, run, said⟩ := ih kept fun other member => simulates other (List.mem_cons_of_mem _ member)
    refine ⟨output :: later, ?_, List.Forall₂.cons answered said⟩
    rw [outputs, stepped]
    simp [run]

end Simulation

end VodogeCloud.Lib.WriteOnce
