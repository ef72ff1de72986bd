import VodogeCloud.Lib.Transactions
import Mathlib.Data.List.Infix

/-!
# What held earlier in a run

A run passed through the states after each of its prefixes. What it passed through it has
passed through for ever, so an invariant may speak of the past: the rule for it is an
induction on the run from its end.
-/

set_option autoImplicit false

namespace VodogeCloud.Lib.Histories

open VodogeCloud.Lib.Transactions

variable {S Op : Type} {step : S → Op → S} {start : S} {P Q : S → Prop}

/-- The run went through a state where this held. -/
def Passed (step : S → Op → S) (start : S) (ops : List Op) (P : S → Prop) : Prop :=
  ∃ early, early <+: ops ∧ P (early.foldl step start)

theorem Passed.of_now {ops : List Op} (now : P (ops.foldl step start)) : Passed step start ops P :=
  ⟨ops, List.prefix_rfl, now⟩

theorem Passed.later {ops : List Op} (passed : Passed step start ops P) (more : List Op) :
    Passed step start (ops ++ more) P := by
  obtain ⟨early, first, held⟩ := passed
  exact ⟨early, first.trans (List.prefix_append ops more), held⟩

theorem Passed.imp {ops : List Op} (passed : Passed step start ops P) (weaker : ∀ state, P state → Q state) :
    Passed step start ops Q := by
  obtain ⟨early, first, held⟩ := passed
  exact ⟨early, first, weaker _ held⟩

/-- A run in two parts passed through it in the first or in the second. -/
theorem passed_append {early late : List Op} :
    Passed step start (early ++ late) P ↔
      Passed step start early P ∨ Passed step (early.foldl step start) late P := by
  constructor
  · rintro ⟨ops, first, held⟩
    rcases List.prefix_or_prefix_of_prefix first (List.prefix_append early late) with short | ⟨rest, rfl⟩
    · exact Or.inl ⟨ops, short, held⟩
    · rw [List.foldl_append] at held
      exact Or.inr ⟨rest, (List.prefix_append_right_inj early).mp first, held⟩
  · rintro (passed | ⟨rest, short, held⟩)
    · exact passed.later late
    · refine ⟨early ++ rest, (List.prefix_append_right_inj early).mpr short, ?_⟩
      rw [List.foldl_append]
      exact held

/-- An invariant of the run so far that each guarded step keeps. -/
theorem guarded_history {guard_ : S → Op → Prop} {Kept : List Op → Prop} (first : Kept [])
    (once : ∀ past op, Kept past → guard_ (past.foldl step start) op → Kept (past ++ [op])) (ops : List Op)
    (guarded : Guarded step guard_ start ops) : Kept ops := by
  induction ops using List.reverseRecOn with
  | nil => exact first
  | append_singleton past op ih =>
    obtain ⟨before, last⟩ := guarded_append.mp guarded
    exact once past op (ih before) last.1

end VodogeCloud.Lib.Histories
