import Mathlib.Tactic.Common

/-!
# Calls in flight

The calls a system is working on, by place. A statement of one call moves that call and
leaves the others where they are.
-/

set_option autoImplicit false

namespace VodogeCloud.Lib.Calls

variable {α : Type} {calls : List α} {move : α → α} {index place : Nat} {call : α}

theorem getElem?_moved (found : (calls.modify index move)[place]? = some call) :
    ∃ old, calls[place]? = some old ∧ (place ≠ index ∧ call = old ∨ place = index ∧ call = move old) := by
  rw [List.getElem?_modify] at found
  cases before : calls[place]? with
  | none =>
    rw [before] at found
    cases found
  | some old =>
    rw [before] at found
    simp only [Option.map_eq_map, Option.map_some, Option.some.injEq] at found
    refine ⟨old, rfl, ?_⟩
    by_cases same : index = place
    · rw [if_pos same] at found
      exact Or.inr ⟨same.symm, found.symm⟩
    · rw [if_neg same] at found
      exact Or.inl ⟨Ne.symm same, found.symm⟩

theorem mem_moved (member : call ∈ calls.modify index move) :
    (∃ place, place ≠ index ∧ calls[place]? = some call) ∨
      ∃ old, calls[index]? = some old ∧ call = move old := by
  obtain ⟨place, found⟩ := List.mem_iff_getElem?.mp member
  obtain ⟨old, before, ⟨other, rfl⟩ | ⟨rfl, rfl⟩⟩ := getElem?_moved found
  · exact Or.inl ⟨place, other, before⟩
  · exact Or.inr ⟨old, before, rfl⟩

/-- Counted before and after, beside the call that moved. -/
theorem countP_modify (p : α → Bool) (f : α → α) (items : List α) (index : Nat) :
    (items.modify index f).countP p + (items[index]?.elim 0 fun item => if p item then 1 else 0) =
      items.countP p + (items[index]?.elim 0 fun item => if p (f item) then 1 else 0) := by
  induction items generalizing index with
  | nil => simp
  | cons item rest ih =>
    cases index with
    | zero =>
      simp only [List.modify_zero_cons, List.countP_cons, List.getElem?_cons_zero, Option.elim_some]
      omega
    | succ index =>
      have later := ih index
      simp only [List.modify_succ_cons, List.countP_cons, List.getElem?_cons_succ]
      omega

/-! ## One call at most -/

section Lone

variable {κ : Type} {p : α → Bool} {key : α → κ}

/-- No two calls with the property have the same key. -/
def Lone (p : α → Bool) (key : α → κ) (calls : List α) : Prop :=
  ∀ (i j : Nat) (a b : α), calls[i]? = some a → calls[j]? = some b → p a = true → p b = true → key a = key b → i = j

/-- A call comes to have the property only where no other call with it has the key. -/
theorem Lone.modify (lone : Lone p key calls) (keeps : ∀ call, key (move call) = key call)
    (free : ∀ a, calls[index]? = some a → p (move a) = true → p a = true ∨ ∀ b ∈ calls, p b = true → key b ≠ key a) :
    Lone p key (calls.modify index move) := by
  have claims : ∀ (j : Nat) (a b : α), calls[index]? = some a → calls[j]? = some b → p (move a) = true →
      p b = true → key (move a) = key b → index = j := by
    intro j a b foundA foundB hasA hasB same
    rw [keeps] at same
    rcases free a foundA hasA with before | apart
    · exact lone index j a b foundA foundB before hasB same
    · exact absurd same.symm (apart b (List.mem_of_getElem? foundB) hasB)
  intro i j a b foundA foundB hasA hasB same
  obtain ⟨oldA, beforeA, ⟨_, rfl⟩ | ⟨rfl, rfl⟩⟩ := getElem?_moved foundA
  · obtain ⟨oldB, beforeB, ⟨_, rfl⟩ | ⟨rfl, rfl⟩⟩ := getElem?_moved foundB
    · exact lone i j _ _ beforeA beforeB hasA hasB same
    · exact (claims _ _ _ beforeB beforeA hasB hasA same.symm).symm
  · obtain ⟨oldB, beforeB, ⟨_, rfl⟩ | ⟨rfl, rfl⟩⟩ := getElem?_moved foundB
    · exact claims _ _ _ beforeA beforeB hasA hasB same
    · rfl

/-- A new call without the property. -/
theorem Lone.append (lone : Lone p key calls) (idle : p call = false) : Lone p key (calls ++ [call]) := by
  have old : ∀ (place : Nat) (a : α), (calls ++ [call])[place]? = some a → p a = true → calls[place]? = some a := by
    intro place a found has
    rw [List.getElem?_append] at found
    split at found
    · exact found
    · obtain rfl := List.mem_singleton.mp (List.mem_of_getElem? found)
      rw [idle] at has
      cases has
  intro i j a b foundA foundB hasA hasB
  exact lone i j a b (old i a foundA hasA) (old j b foundB hasB) hasA hasB

end Lone

end VodogeCloud.Lib.Calls
