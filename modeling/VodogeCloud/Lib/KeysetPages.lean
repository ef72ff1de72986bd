import Mathlib.Data.List.Sort
import Mathlib.Order.Defs.LinearOrder

/-!
# Pages after a key

Rows are read from the highest key down, a page of at most `limit` of them at a time, and each
page is followed by the rows below the key of its last one. Rows of that key on the other side
of the page are not read. So a walk reads every row exactly when no page ends inside a run of
rows of one key.
-/

set_option autoImplicit false

namespace VodogeCloud.Lib.KeysetPages

/-- No page of that many keys ends inside a run of one key. -/
def Fits {κ : Type} (limit : Nat) (keys : List κ) : Prop :=
  ∀ page a b, 0 < page → keys[page * limit - 1]? = some a → keys[page * limit]? = some b → a ≠ b

theorem fits_nil {κ : Type} {limit : Nat} : Fits limit ([] : List κ) := by
  intro page a b _ found
  cases found

/-- The first page ends well, and so do those after it. -/
theorem fits_drop {κ : Type} {limit : Nat} (positive : 0 < limit) {keys : List κ} : Fits limit keys ↔
    (∀ a b, keys[limit - 1]? = some a → keys[limit]? = some b → a ≠ b) ∧ Fits limit (keys.drop limit) := by
  constructor
  · intro fits
    refine ⟨fun a b => ?_, fun page a b some_ => ?_⟩
    · have first := fits 1 a b (by decide)
      rwa [Nat.one_mul] at first
    · have next := fits (page + 1) a b (Nat.succ_pos page)
      have least := Nat.le_mul_of_pos_left limit some_
      rw [List.getElem?_drop, List.getElem?_drop]
      rwa [Nat.succ_mul, Nat.add_comm, Nat.add_sub_assoc (by omega)] at next
  · rintro ⟨first, fits⟩ page a b some_
    rcases Nat.lt_or_ge 1 page with more | one
    · have next := fits (page - 1) a b (by omega)
      obtain ⟨page, rfl⟩ := Nat.exists_eq_add_of_lt more
      have least := Nat.le_mul_of_pos_left limit (show 0 < 1 + page by omega)
      rw [List.getElem?_drop, List.getElem?_drop] at next
      rw [Nat.succ_mul, Nat.add_comm, Nat.add_sub_assoc (by omega)]
      rwa [show 1 + page + 1 - 1 = 1 + page from rfl] at next
    · obtain rfl : page = 1 := by omega
      rw [Nat.one_mul]
      exact first a b

variable {α κ : Type} [LinearOrder κ] (key : α → κ) (limit : Nat)

/-- Rows from the highest key down. -/
def Descends (rows : List α) : Prop := rows.Pairwise fun a b => key b ≤ key a

/-- The pages of the rows, in an order for each page. -/
inductive Walk : List α → List (List α) → Prop
  | done : Walk [] []
  | more {rows ordered : List α} {last : α} {pages : List (List α)} (perm : ordered.Perm rows)
      (descends : Descends key ordered) (ends : (ordered.take limit).getLast? = some last)
      (rest : Walk (rows.filter fun row => key row < key last) pages) : Walk rows (ordered.take limit :: pages)

/-- The keys of the rows from the highest down. -/
def keysOf (rows : List α) : List κ := (rows.map key).insertionSort (· ≥ ·)

section

variable {key} {limit} {rows ordered : List α} {last : α} {pages : List (List α)}

theorem keysOf_eq (perm : ordered.Perm rows) (descends : Descends key ordered) : ordered.map key = keysOf key rows := by
  refine List.Perm.eq_of_pairwise (fun a b _ _ up down => ge_antisymm up down) ?_
    (List.pairwise_insertionSort (· ≥ ·) _) ((perm.map key).trans (List.perm_insertionSort _ _).symm)
  exact List.pairwise_map.mpr descends

/-- What a page and the rows after it are. -/
theorem page_cases (descends : Descends key ordered) (ends : (ordered.take limit).getLast? = some last) :
    (∀ row ∈ ordered.take limit, key last ≤ key row) ∧ ∀ row ∈ ordered.drop limit, key row ≤ key last := by
  obtain ⟨front, shape⟩ := List.getLast?_eq_some_iff.mp ends
  have whole : ordered = front ++ last :: ordered.drop limit := by
    conv_lhs => rw [← List.take_append_drop limit ordered, shape, List.append_assoc]
    rfl
  unfold Descends at descends
  rw [whole, List.pairwise_append] at descends
  obtain ⟨_, rest, across⟩ := descends
  refine ⟨fun row member => ?_, (List.pairwise_cons.mp rest).1⟩
  rw [shape] at member
  rcases List.mem_append.mp member with inFront | same
  · exact across row inFront last List.mem_cons_self
  · rw [List.mem_singleton.mp same]

/-- The rows a page leaves for the next ones. -/
theorem later_perm (perm : ordered.Perm rows) (descends : Descends key ordered)
    (ends : (ordered.take limit).getLast? = some last) :
    (rows.filter fun row => key row < key last).Perm ((ordered.drop limit).filter fun row => key row < key last) := by
  refine (perm.symm.filter _).trans (List.Perm.of_eq ?_)
  conv_lhs => rw [← List.take_append_drop limit ordered]
  rw [List.filter_append, List.filter_eq_nil_iff.mpr, List.nil_append]
  intro row member
  rw [decide_eq_true_eq]
  exact not_lt.mpr ((page_cases descends ends).1 row member)

theorem walk_subperm (walk : Walk key limit rows pages) : pages.flatten.Subperm rows := by
  induction walk with
  | done => exact List.Subperm.refl _
  | @more rows ordered last pages perm descends ends rest ih =>
    have later := ih.trans ((later_perm perm descends ends).subperm.trans List.filter_sublist.subperm)
    rw [List.flatten_cons]
    refine ((List.subperm_append_left _).mpr later).trans ?_
    rw [List.take_append_drop]
    exact perm.subperm

/-- The row before a next page is the last one of the page. -/
theorem last_of_next (positive : 0 < limit) (ends : (ordered.take limit).getLast? = some last) {next : α}
    (found : ordered[limit]? = some next) : ordered[limit - 1]? = some last := by
  have bound : limit < ordered.length := (List.getElem?_eq_some_iff.mp found).1
  rw [List.getLast?_take, if_neg (Nat.ne_of_gt positive), List.getElem?_eq_getElem (by omega), Option.some_or] at ends
  rw [List.getElem?_eq_getElem (by omega), ends]

/-- The first page ends well where the rows after it have lower keys. -/
theorem first_iff (positive : 0 < limit) (descends : Descends key ordered)
    (ends : (ordered.take limit).getLast? = some last) :
    (∀ a b, (ordered.map key)[limit - 1]? = some a → (ordered.map key)[limit]? = some b → a ≠ b) ↔
      ∀ row ∈ ordered.drop limit, key row < key last := by
  have most := (page_cases descends ends).2
  have tail : Descends key (ordered.drop limit) := List.Pairwise.sublist (List.drop_sublist limit ordered) descends
  constructor
  · intro apart row member
    cases rest : ordered.drop limit with
    | nil =>
      rw [rest] at member
      cases member
    | cons next others =>
      have found : ordered[limit]? = some next := by
        rw [← List.head?_drop, rest]
        rfl
      have different := apart (key last) (key next)
        (by rw [List.getElem?_map, last_of_next positive ends found]; rfl) (by rw [List.getElem?_map, found]; rfl)
      rw [rest] at member most tail
      have below : key next < key last := lt_of_le_of_ne (most next List.mem_cons_self) (Ne.symm different)
      rcases List.mem_cons.mp member with rfl | inOthers
      · exact below
      · exact ((List.pairwise_cons.mp tail).1 row inOthers).trans_lt below
  · intro below a b first second
    rw [List.getElem?_map, Option.map_eq_some_iff] at first second
    obtain ⟨next, found, rfl⟩ := second
    obtain ⟨row, before, rfl⟩ := first
    rw [last_of_next positive ends found, Option.some.injEq] at before
    rw [← before]
    have member : next ∈ ordered.drop limit := by
      refine List.mem_of_mem_head? ?_
      rw [List.head?_drop, found]
      exact rfl
    exact ne_of_gt (below next member)

/-- The pages of a walk have every row once exactly when none ends inside a run of one key. -/
theorem walk_exact (positive : 0 < limit) (walk : Walk key limit rows pages) :
    pages.flatten.Perm rows ↔ Fits limit (keysOf key rows) := by
  induction walk with
  | done => exact iff_of_true (List.Perm.refl _) fits_nil
  | @more rows ordered last pages perm descends ends rest ih =>
    have later := later_perm perm descends ends
    rw [← keysOf_eq perm descends, fits_drop positive, first_iff positive descends ends, List.flatten_cons]
    by_cases below : ∀ row ∈ ordered.drop limit, key row < key last
    · rw [List.filter_eq_self.mpr fun row member => decide_eq_true (below row member)] at later
      rw [and_iff_right below, ← List.map_drop,
        keysOf_eq later.symm (List.Pairwise.sublist (List.drop_sublist limit ordered) descends), ← ih]
      constructor
      · intro all
        rw [← List.take_append_drop limit ordered] at perm
        exact (List.perm_append_left_iff _).mp (all.trans perm.symm) |>.trans later.symm
      · intro all
        refine ((all.trans later).append_left _).trans ?_
        rw [List.take_append_drop]
        exact perm
    · refine iff_of_false (fun all => below fun row member => ?_) fun fits => below fits.1
      -- What the page skips is in no later page, so the numbers differ.
      have whole := congrArg List.length (List.take_append_drop limit ordered)
      have counted := all.length_eq
      have read := (walk_subperm rest).length_le
      have fewer := List.length_filter_le (fun row => decide (key row < key last)) (ordered.drop limit)
      rw [later.length_eq] at read
      rw [List.length_append, perm.length_eq] at whole
      rw [List.length_append] at counted
      have same := List.length_filter_eq_length_iff.mp (show
        ((ordered.drop limit).filter fun row => decide (key row < key last)).length = (ordered.drop limit).length by omega)
      exact of_decide_eq_true (same row member)

end

end VodogeCloud.Lib.KeysetPages
