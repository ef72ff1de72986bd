import VodogeCloud.Lib.Table

/-!
# Joins on a key

`leftJoin` and `antiJoin` are the nested loops of SQL. Where the right side has at
most one row of a key, the left join has one row for each row of the left side, and
the rows of the one side without a partner together with all the rows of the other
have every key of either side once.
-/

set_option autoImplicit false

namespace VodogeCloud.Lib.Joins

variable {ρ σ κ : Type} [DecidableEq κ] {a : ρ → κ} {b : σ → κ} {left : List ρ} {right : List σ}

/-- The rows of the right side with the key of `row`. -/
def partners (a : ρ → κ) (b : σ → κ) (right : List σ) (row : ρ) : List σ :=
  right.filter fun other => b other = a row

/-- `left LEFT JOIN right ON right.key = left.key`. -/
def leftJoin (a : ρ → κ) (b : σ → κ) (left : List ρ) (right : List σ) : List (ρ × Option σ) :=
  left.flatMap fun row =>
    match partners a b right row with
    | [] => [(row, none)]
    | found => found.map fun other => (row, some other)

/-- `left WHERE NOT EXISTS (SELECT 1 FROM right WHERE right.key = left.key)`. -/
def antiJoin (a : ρ → κ) (b : σ → κ) (left : List ρ) (right : List σ) : List ρ :=
  left.filter fun row => (partners a b right row).isEmpty

theorem partners_eq_nil_iff {row : ρ} :
    partners a b right row = [] ↔ ∀ other ∈ right, b other ≠ a row := by
  simp [partners, List.filter_eq_nil_iff]

theorem mem_antiJoin {row : ρ} :
    row ∈ antiJoin a b left right ↔ row ∈ left ∧ ∀ other ∈ right, b other ≠ a row := by
  rw [antiJoin, List.mem_filter, List.isEmpty_iff, partners_eq_nil_iff]

/-- At most one row of the right side has the key. -/
theorem partners_eq_toList (unique : (right.map b).Nodup) (row : ρ) :
    partners a b right row = (right.find? fun other => b other = a row).toList := by
  unfold partners
  induction right with
  | nil => rfl
  | cons other rest ih =>
    rw [List.map_cons, List.nodup_cons] at unique
    rw [List.filter_cons, List.find?_cons]
    by_cases same : b other = a row
    · have noMore : rest.filter (fun other => b other = a row) = [] := by
        refine List.filter_eq_nil_iff.mpr fun later member => ?_
        intro again
        exact unique.1 (List.mem_map.mpr ⟨later, member, (of_decide_eq_true again).trans same.symm⟩)
      simp [same, noMore]
    · simp only [same, decide_false, Bool.false_eq_true, if_false]
      exact ih unique.2

/-- A left join on a unique key looks each row of the left side up. -/
theorem leftJoin_unique (unique : (right.map b).Nodup) :
    leftJoin a b left right =
      left.map fun row => (row, right.find? fun other => b other = a row) := by
  unfold leftJoin
  rw [← List.flatMap_singleton' (left.map _), List.flatMap_map]
  apply congrArg (fun f => left.flatMap f)
  funext row
  rw [partners_eq_toList unique]
  cases right.find? fun other => b other = a row with
  | none => rfl
  | some other => rfl

/-- No row of the left side comes out twice, or not at all. -/
theorem leftJoin_fst (unique : (right.map b).Nodup) :
    (leftJoin a b left right).map Prod.fst = left := by
  rw [leftJoin_unique unique, List.map_map]
  exact List.map_id left

theorem mem_leftJoin (unique : (right.map b).Nodup) {row : ρ} {found : Option σ} :
    (row, found) ∈ leftJoin a b left right ↔
      row ∈ left ∧ found = right.find? fun other => b other = a row := by
  rw [leftJoin_unique unique, List.mem_map]
  constructor
  · rintro ⟨other, member, same⟩
    cases same
    exact ⟨member, rfl⟩
  · rintro ⟨member, rfl⟩
    exact ⟨row, member, rfl⟩

section Cover

variable (uniqueLeft : (left.map a).Nodup) (uniqueRight : (right.map b).Nodup)

include uniqueLeft uniqueRight in
/-- The left rows without a partner and the rows of the right side: no key twice. -/
theorem cover_nodup : ((antiJoin a b left right).map a ++ right.map b).Nodup := by
  rw [List.nodup_append]
  refine ⟨uniqueLeft.sublist (List.filter_sublist.map a), uniqueRight, ?_⟩
  intro key alone other found same
  obtain ⟨row, member, rfl⟩ := List.mem_map.mp alone
  obtain ⟨partner, present, rfl⟩ := List.mem_map.mp found
  exact (mem_antiJoin.mp member).2 partner present same.symm

omit uniqueLeft uniqueRight in
/-- They have every key of either side. -/
theorem mem_cover {key : κ} :
    key ∈ (antiJoin a b left right).map a ++ right.map b ↔ key ∈ left.map a ∨ key ∈ right.map b := by
  rw [List.mem_append]
  constructor
  · rintro (alone | found)
    · obtain ⟨row, member, rfl⟩ := List.mem_map.mp alone
      exact Or.inl (List.mem_map_of_mem (mem_antiJoin.mp member).1)
    · exact Or.inr found
  · rintro (held | found)
    · obtain ⟨row, member, rfl⟩ := List.mem_map.mp held
      by_cases paired : a row ∈ right.map b
      · exact Or.inr paired
      · refine Or.inl (List.mem_map_of_mem (mem_antiJoin.mpr ⟨member, ?_⟩))
        exact fun other present same => paired (List.mem_map.mpr ⟨other, present, same⟩)
    · exact Or.inr found

end Cover

end VodogeCloud.Lib.Joins
