import Mathlib.Data.List.Forall2
import Mathlib.Data.List.Sort

/-!
# Lists that correspond element by element

What `List.Forall₂` says about members and about two lists that correspond to a third, and
that sorting two corresponding lists by orders that agree on corresponding elements keeps
them so.
-/

set_option autoImplicit false

namespace VodogeCloud.Lib.PairedLists

variable {α β : Type} {R : α → β → Prop} {as : List α} {bs : List β}

theorem exists_right (paired : List.Forall₂ R as bs) {a : α} (member : a ∈ as) : ∃ b ∈ bs, R a b := by
  induction paired with
  | nil => cases member
  | cons related _ ih =>
    rcases List.mem_cons.mp member with rfl | later
    · exact ⟨_, List.mem_cons_self, related⟩
    · obtain ⟨b, inRest, same⟩ := ih later
      exact ⟨b, List.mem_cons_of_mem _ inRest, same⟩

theorem exists_left (paired : List.Forall₂ R as bs) {b : β} (member : b ∈ bs) : ∃ a ∈ as, R a b :=
  exists_right (List.Forall₂.flip paired) member

theorem imp_paired {S : α → β → Prop} (paired : List.Forall₂ R as bs) (weaken : ∀ a, ∀ b ∈ bs, R a b → S a b) :
    List.Forall₂ S as bs := by
  induction paired with
  | nil => exact .nil
  | cons related _ ih =>
    exact .cons (weaken _ _ List.mem_cons_self related) (ih fun a b member => weaken a b (List.mem_cons_of_mem _ member))

theorem filter_paired {p : α → Bool} {q : β → Bool} (agree : ∀ a b, R a b → p a = q b)
    (paired : List.Forall₂ R as bs) : List.Forall₂ R (as.filter p) (bs.filter q) :=
  List.rel_filter (fun a b related => Bool.eq_iff_iff.mp (agree a b related)) paired

theorem map_paired {γ δ : Type} {S : γ → δ → Prop} {f : α → γ} {g : β → δ}
    (agree : ∀ a b, R a b → S (f a) (g b)) (paired : List.Forall₂ R as bs) :
    List.Forall₂ S (as.map f) (bs.map g) :=
  List.forall₂_map_left_iff.mpr (List.forall₂_map_right_iff.mpr (paired.imp agree))

/-- Two correspondences in a row. -/
theorem trans_paired {γ : Type} {Q : β → γ → Prop} {S : α → γ → Prop} {cs : List γ}
    (first : List.Forall₂ R as bs) (second : List.Forall₂ Q bs cs)
    (chain : ∀ a ∈ as, ∀ b c, R a b → Q b c → S a c) : List.Forall₂ S as cs := by
  induction first generalizing cs with
  | nil =>
    cases second
    exact .nil
  | cons related _ ih =>
    cases second with
    | cons next rest =>
      exact .cons (chain _ List.mem_cons_self _ _ related next)
        (ih rest fun a member => chain a (List.mem_cons_of_mem _ member))

theorem any_paired {p : α → Bool} {q : β → Bool} (paired : List.Forall₂ R as bs)
    (agree : ∀ a ∈ as, ∀ b, R a b → p a = q b) : as.any p = bs.any q := by
  induction paired with
  | nil => rfl
  | cons related _ ih =>
    rw [List.any_cons, List.any_cons, agree _ List.mem_cons_self _ related,
      ih fun a member => agree a (List.mem_cons_of_mem _ member)]

theorem forall_paired {P : α → Prop} {Q : β → Prop} (paired : List.Forall₂ R as bs)
    (agree : ∀ a ∈ as, ∀ b, R a b → (P a ↔ Q b)) : (∀ a ∈ as, P a) ↔ ∀ b ∈ bs, Q b := by
  induction paired with
  | nil => exact iff_of_true (fun _ member => nomatch member) (fun _ member => nomatch member)
  | cons related _ ih =>
    rw [List.forall_mem_cons, List.forall_mem_cons, agree _ List.mem_cons_self _ related,
      ih fun a member => agree a (List.mem_cons_of_mem _ member)]

/-- What holds between elements of the one list in order holds between those they
correspond to. -/
theorem pairwise_paired {S : β → β → Prop} {T : α → α → Prop}
    (agree : ∀ a a' b b', R a b → R a' b' → S b b' → T a a') (paired : List.Forall₂ R as bs)
    (held : bs.Pairwise S) : as.Pairwise T := by
  induction paired with
  | nil => exact .nil
  | cons related rest ih =>
    obtain ⟨first, later⟩ := List.pairwise_cons.mp held
    refine List.pairwise_cons.mpr ⟨fun a' inAs => ?_, ih later⟩
    obtain ⟨b', inBs, same⟩ := exists_right rest inAs
    exact agree _ _ _ _ related same (first b' inBs)

section Sorted

variable {r : α → α → Prop} {s : β → β → Prop} [DecidableRel r] [DecidableRel s]

theorem orderedInsert_paired {a : α} {b : β} (first : R a b)
    (agree : ∀ x ∈ as, ∀ y ∈ bs, R x y → (r a x ↔ s b y)) (paired : List.Forall₂ R as bs) :
    List.Forall₂ R (as.orderedInsert r a) (bs.orderedInsert s b) := by
  induction paired with
  | nil => exact .cons first .nil
  | @cons x y xs ys related rest ih =>
    rw [List.orderedInsert_cons, List.orderedInsert_cons]
    have same := agree x List.mem_cons_self y List.mem_cons_self related
    by_cases before : r a x
    · rw [if_pos before, if_pos (same.mp before)]
      exact .cons first (.cons related rest)
    · rw [if_neg before, if_neg (fun after => before (same.mpr after))]
      exact .cons related (ih fun x' inXs y' inYs =>
        agree x' (List.mem_cons_of_mem _ inXs) y' (List.mem_cons_of_mem _ inYs))

/-- Sorting keeps the correspondence where the two orders agree. -/
theorem insertionSort_paired
    (agree : ∀ a ∈ as, ∀ a' ∈ as, ∀ b ∈ bs, ∀ b' ∈ bs, R a b → R a' b' → (r a a' ↔ s b b'))
    (paired : List.Forall₂ R as bs) : List.Forall₂ R (as.insertionSort r) (bs.insertionSort s) := by
  induction paired with
  | nil => exact .nil
  | @cons a b as bs related rest ih =>
    rw [List.insertionSort_cons, List.insertionSort_cons]
    refine orderedInsert_paired related (fun x inAs y inBs same => ?_) (ih ?_)
    · exact agree a List.mem_cons_self x (List.mem_cons_of_mem _ ((List.mem_insertionSort r).mp inAs))
        b List.mem_cons_self y (List.mem_cons_of_mem _ ((List.mem_insertionSort s).mp inBs)) related same
    · exact fun a inA a' inA' b inB b' inB' => agree a (List.mem_cons_of_mem _ inA)
        a' (List.mem_cons_of_mem _ inA') b (List.mem_cons_of_mem _ inB) b' (List.mem_cons_of_mem _ inB')

end Sorted

/-- Two lists that correspond to one list correspond to each other. -/
theorem forall₂_both {ν : Type} {S : α → ν → Prop} {cs : List ν}
    (left : List.Forall₂ R as bs) (right : List.Forall₂ S as cs) :
    List.Forall₂ (fun b c => ∃ a ∈ as, R a b ∧ S a c) bs cs := by
  induction left generalizing cs with
  | nil =>
    cases right
    exact List.Forall₂.nil
  | @cons a b as bs first _ ih =>
    cases right with
    | cons second rest =>
      refine List.Forall₂.cons ⟨a, List.mem_cons_self, first, second⟩ ?_
      exact (ih rest).imp fun b c ⟨a, member, both⟩ => ⟨a, List.mem_cons_of_mem _ member, both⟩

end VodogeCloud.Lib.PairedLists
