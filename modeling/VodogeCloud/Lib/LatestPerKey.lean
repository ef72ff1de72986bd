import Mathlib.Data.List.Sort
import Mathlib.Tactic.Common

/-!
# The latest item for each key

Items come with a key and a stamp, in any order and any number of times. A map that remembers
the order of its keys keeps one item for each key and replaces it by every item stamped higher.
It ends with the highest item of every key, whatever the order was; the order of the keys is that
of their first items. Sorting the kept items afterwards keeps the order of those that compare
alike, so which of them comes last depends on what came first.
-/

set_option autoImplicit false

namespace VodogeCloud.Lib.LatestPerKey

variable {α κ T : Type} [LinearOrder T] (key : α → κ) (stamp : α → T)

/-- No item of its key is stamped higher. -/
def Highest (items : List α) (item : α) : Prop :=
  item ∈ items ∧ ∀ other ∈ items, key other = key item → stamp other ≤ stamp item

/-- One item is kept for every key, the highest. -/
structure Keeps (items kept : List α) : Prop where
  once : (kept.map key).Nodup
  highest : ∀ item ∈ kept, Highest key stamp items item
  every : ∀ item ∈ items, key item ∈ kept.map key

variable {key stamp} {items kept : List α}

theorem Keeps.nil : Keeps key stamp [] [] := ⟨List.nodup_nil, by simp, by simp⟩

theorem Highest.concat {item other : α} (highest : Highest key stamp items other)
    (below : key item = key other → stamp item ≤ stamp other) :
    Highest key stamp (items ++ [item]) other := by
  refine ⟨List.mem_append_left _ highest.1, fun third member same => ?_⟩
  rcases List.mem_append.mp member with old | new
  · exact highest.2 third old same
  · obtain rfl := List.mem_singleton.mp new
    exact below same

/-- Where items of one key and one stamp are the same, what is kept is what is highest. -/
theorem Keeps.mem_of_highest (keeps : Keeps key stamp items kept)
    (distinct : ∀ a ∈ items, ∀ b ∈ items, key a = key b → stamp a = stamp b → a = b) {item : α}
    (highest : Highest key stamp items item) : item ∈ kept := by
  obtain ⟨known, inKept, same⟩ := List.mem_map.mp (keeps.every item highest.1)
  have best := keeps.highest known inKept
  have level := le_antisymm (highest.2 known best.1 same) (best.2 item highest.1 same.symm)
  rwa [← distinct known best.1 item highest.1 same level]

/-! ## Writing item by item -/

section Writing

variable [DecidableEq κ]

variable (key stamp) in
/-- One item. A key that is already there keeps its place. -/
def put (kept : List α) (item : α) : List α :=
  match kept.find? (fun old => key old = key item) with
  | none => kept ++ [item]
  | some old =>
    if stamp item ≤ stamp old then kept
    else kept.map (fun other => if key other = key item then item else other)

variable (key stamp) in
/-- What is kept of a sequence of items. -/
def latest (items : List α) : List α := items.foldl (put key stamp) []

/-- Replacing the item of a key leaves the keys. -/
theorem map_replace (item : α) :
    (kept.map (fun other => if key other = key item then item else other)).map key = kept.map key := by
  rw [List.map_map]
  apply List.map_congr_left
  intro other _
  show key (if key other = key item then item else other) = key other
  split
  · next same => exact same.symm
  · rfl

theorem put_keys (item : α) : (put key stamp kept item).map key =
    if key item ∈ kept.map key then kept.map key else kept.map key ++ [key item] := by
  unfold put
  split
  · next absent =>
    rw [List.find?_eq_none] at absent
    rw [if_neg, List.map_append, List.map_singleton]
    intro inside
    obtain ⟨old, member, same⟩ := List.mem_map.mp inside
    exact absent old member (decide_eq_true same)
  · next old found =>
    have member := List.mem_of_find?_eq_some found
    have same : key old = key item := by simpa using List.find?_some found
    rw [if_pos (List.mem_map.mpr ⟨old, member, same⟩)]
    split
    · rfl
    · exact map_replace item

/-- Keys that are there stay where they are. -/
theorem keys_put_grow (item : α) : kept.map key <+: (put key stamp kept item).map key := by
  rw [put_keys]
  split
  · exact List.prefix_refl _
  · exact List.prefix_append _ _

/-- What one item does. -/
theorem Keeps.put (keeps : Keeps key stamp items kept) (item : α) :
    Keeps key stamp (items ++ [item]) (put key stamp kept item) := by
  have keys : (LatestPerKey.put key stamp kept item).map key = _ := put_keys item
  refine ⟨?_, ?_, ?_⟩
  · rw [keys]
    split
    · exact keeps.once
    · next absent => exact List.nodup_append_comm.mp (List.nodup_cons.mpr ⟨absent, keeps.once⟩)
  · intro other member
    unfold LatestPerKey.put at member
    split at member
    · next absent =>
      rw [List.find?_eq_none] at absent
      rcases List.mem_append.mp member with old | new
      · exact (keeps.highest other old).concat
          (fun same => absurd (decide_eq_true same.symm) (absent other old))
      · obtain rfl := List.mem_singleton.mp new
        refine ⟨List.mem_append_right _ new, fun third inside same => ?_⟩
        rcases List.mem_append.mp inside with old | last
        · obtain ⟨known, inKept, sameKey⟩ := List.mem_map.mp (keeps.every third old)
          exact absurd (decide_eq_true (sameKey.trans same)) (absent known inKept)
        · obtain rfl := List.mem_singleton.mp last
          exact le_refl _
    · next old found =>
      have inKept := List.mem_of_find?_eq_some found
      have same : key old = key item := by simpa using List.find?_some found
      have unique : ∀ third ∈ kept, key third = key item → third = old :=
        fun third inside matches_ =>
          List.inj_on_of_nodup_map keeps.once inside inKept (matches_.trans same.symm)
      split at member
      · next older =>
        refine (keeps.highest other member).concat fun sameKey => ?_
        rw [unique other member sameKey.symm]
        exact older
      · next newer =>
        obtain ⟨third, inside, rfl⟩ := List.mem_map.mp member
        split
        · -- the item has taken the place of the old one
          refine ⟨List.mem_append_right _ List.mem_cons_self, fun fourth place sameKey => ?_⟩
          rcases List.mem_append.mp place with before | last
          · exact ((keeps.highest old inKept).2 fourth before (sameKey.trans same.symm)).trans
              (le_of_not_ge newer)
          · obtain rfl := List.mem_singleton.mp last
            exact le_refl _
        · next other_ =>
          exact (keeps.highest third inside).concat (fun sameKey => absurd sameKey.symm other_)
  · intro other member
    rw [keys]
    rcases List.mem_append.mp member with old | new
    · have known := keeps.every other old
      split
      · exact known
      · exact List.mem_append_left _ known
    · obtain rfl := List.mem_singleton.mp new
      split
      · next known => exact known
      · exact List.mem_append_right _ List.mem_cons_self

theorem foldl_keeps (more : List α) (keeps : Keeps key stamp items kept) :
    Keeps key stamp (items ++ more) (more.foldl (put key stamp) kept) := by
  induction more generalizing items kept with
  | nil =>
    rw [List.append_nil]
    exact keeps
  | cons item rest ih =>
    have next := ih (keeps.put item)
    rwa [List.append_assoc] at next

/-- The highest item of every key is kept, whatever the order of the items. -/
theorem latest_keeps (items : List α) : Keeps key stamp items (latest key stamp items) := by
  have all := foldl_keeps items (@Keeps.nil _ _ _ _ key stamp)
  rwa [List.nil_append] at all

/-- The key of the first item comes first. -/
theorem latest_head (first : α) (rest : List α) :
    ∃ others, (latest key stamp (first :: rest)).map key = key first :: others := by
  have grows : ∀ kept : List α, kept.map key <+: (rest.foldl (put key stamp) kept).map key := by
    induction rest with
    | nil => exact fun kept => List.prefix_refl _
    | cons item rest ih => exact fun kept => (keys_put_grow item).trans (ih _)
  obtain ⟨others, whole⟩ := grows [first]
  exact ⟨others, whole.symm⟩

end Writing

/-! ## Looking into the sorted items -/

section Sorting

variable [DecidableEq κ]

/-- What comes before something else is not the last. -/
theorem not_last_of_pair {l : List α} {a b : α} (nodup : l.Nodup) (pair : [a, b].Sublist l) :
    l.getLast? ≠ some a := by
  intro last
  obtain ⟨front, rfl⟩ : ∃ front, l = front ++ [a] := List.getLast?_eq_some_iff.mp last
  have alone := List.disjoint_of_nodup_append nodup
  rw [List.sublist_append_iff] at pair
  obtain ⟨left, right, whole, inFront, inLast⟩ := pair
  rcases List.sublist_singleton.mp inLast with rfl | rfl
  · rw [List.append_nil] at whole
    exact alone (inFront.subset (whole ▸ List.mem_cons_self)) List.mem_cons_self
  · have size := congrArg List.length whole
    cases left with
    | nil => simp at size
    | cons head tail =>
      rw [List.cons_append, List.cons.injEq] at whole
      exact alone (inFront.subset (whole.1 ▸ List.mem_cons_self)) List.mem_cons_self

variable {r : α → α → Prop} [DecidableRel r] {p : α → Bool}

/-- What has something after it that it does not compare after is not the last. -/
theorem not_last_of_sorted (nodup : kept.Nodup) {item other : α} (pair : [item, other].Sublist kept)
    (chosen : p item = true ∧ p other = true) (before : r item other) :
    ((kept.insertionSort r).filter p).getLast? ≠ some item := by
  apply not_last_of_pair
  · exact ((List.perm_insertionSort r kept).nodup_iff.mpr nodup).filter _
  · have kept_ := (List.pair_sublist_insertionSort before pair).filter p
    rwa [List.filter_cons_of_pos chosen.1, List.filter_cons_of_pos chosen.2, List.filter_nil] at kept_

variable [Std.Total r] [IsTrans α r]

/-- What nothing compares after is the last of the sorted items. -/
theorem last_of_sorted (nodup : kept.Nodup) {item : α} (member : item ∈ kept) (chosen : p item = true)
    (after : ∀ other ∈ kept, p other = true → other ≠ item → ¬ r item other) :
    ((kept.insertionSort r).filter p).getLast? = some item := by
  have sorted := (List.pairwise_insertionSort r kept).filter p
  have distinct : ((kept.insertionSort r).filter p).Nodup :=
    ((List.perm_insertionSort r kept).nodup_iff.mpr nodup).filter _
  have inside : item ∈ (kept.insertionSort r).filter p :=
    List.mem_filter.mpr ⟨(List.mem_insertionSort r).mpr member, chosen⟩
  have within : ∀ other ∈ (kept.insertionSort r).filter p, other ∈ kept ∧ p other = true := by
    intro other place
    obtain ⟨inSorted, chosen'⟩ := List.mem_filter.mp place
    exact ⟨(List.mem_insertionSort r).mp inSorted, chosen'⟩
  rcases List.eq_nil_or_concat ((kept.insertionSort r).filter p) with none_ | ⟨front, last, whole⟩
  · rw [none_] at inside
    cases inside
  · rw [whole] at sorted inside within distinct ⊢
    rw [List.concat_eq_append, List.getLast?_concat, Option.some.injEq]
    by_contra other
    rw [List.concat_eq_append] at sorted inside within
    have inFront : item ∈ front := by
      rcases List.mem_append.mp inside with early | late
      · exact early
      · exact absurd (List.mem_singleton.mp late).symm other
    have lastIn : last ∈ front ++ [last] := List.mem_append_right _ List.mem_cons_self
    exact after last (within last lastIn).1 (within last lastIn).2 other
      ((List.pairwise_append.mp sorted).2.2 item inFront last List.mem_cons_self)

end Sorting

end VodogeCloud.Lib.LatestPerKey
