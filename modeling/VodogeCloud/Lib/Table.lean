import Mathlib.Data.List.Basic
import Mathlib.Data.List.Nodup

/-!
# Relational tables with a primary key

A table is a list of rows in insertion order together with the proof that no
two rows share a key, so a state that violates the primary key cannot be built.
The three statements that write a table are `insert` (the key is fresh),
`update` (one SET clause under a WHERE condition, which may not touch the key)
and `delete`. Their membership lemmas are what a client proof uses; the row
list itself is never unfolded outside this file except by read queries.
-/

set_option autoImplicit false

namespace VodogeCloud.Lib

variable {κ ρ : Type}

@[ext] structure Table (key : ρ → κ) where
  rows : List ρ
  unique : (rows.map key).Nodup
  deriving DecidableEq

namespace Table

variable {key : ρ → κ}

instance : Membership ρ (Table key) := ⟨fun table row => row ∈ table.rows⟩

theorem mem_rows {table : Table key} {row : ρ} : row ∈ table.rows ↔ row ∈ table := Iff.rfl

instance [DecidableEq ρ] {table : Table key} {row : ρ} : Decidable (row ∈ table) :=
  inferInstanceAs (Decidable (row ∈ table.rows))

instance {table : Table key} {P : ρ → Prop} [DecidablePred P] :
    Decidable (∀ row ∈ table, P row) :=
  inferInstanceAs (Decidable (∀ row ∈ table.rows, P row))

instance {table : Table key} {P : ρ → Prop} [DecidablePred P] :
    Decidable (∃ row ∈ table, P row) :=
  inferInstanceAs (Decidable (∃ row ∈ table.rows, P row))

/-- The table with no rows. -/
def empty : Table key := ⟨[], List.nodup_nil⟩

/-- Rows of one table that share a key are the same row. -/
theorem eq_of_key {table : Table key} {a b : ρ} (ha : a ∈ table) (hb : b ∈ table)
    (same : key a = key b) : a = b :=
  List.inj_on_of_nodup_map table.unique ha hb same

/-- A row whose key is among the keys of picked rows was picked. -/
theorem picked_of_key {table : Table key} {row : ρ} (member : row ∈ table) {p q : ρ → Bool}
    (taken : key row ∈ ((table.rows.filter p).filter q).map key) : p row = true := by
  obtain ⟨other, picked, same⟩ := List.mem_map.mp taken
  obtain ⟨inTable, meets⟩ := List.mem_filter.mp (List.mem_filter.mp picked).1
  rwa [eq_of_key member inTable same.symm]

/-- The row stored under a key, if any. -/
def find [DecidableEq κ] (table : Table key) (k : κ) : Option ρ :=
  table.rows.find? (fun row => key row = k)

theorem find_eq_some_iff [DecidableEq κ] {table : Table key} {k : κ} {row : ρ} :
    table.find k = some row ↔ row ∈ table ∧ key row = k := by
  constructor
  · intro found
    exact ⟨List.mem_of_find?_eq_some found, by simpa using List.find?_some found⟩
  · rintro ⟨member, rfl⟩
    cases found : table.find (key row) with
    | none =>
      have absent := List.find?_eq_none.mp found row member
      simp at absent
    | some other =>
      have same : key other = key row := by simpa using List.find?_some found
      rw [eq_of_key (List.mem_of_find?_eq_some found) member same]

theorem find_eq_none_iff [DecidableEq κ] {table : Table key} {k : κ} :
    table.find k = none ↔ ∀ row ∈ table, key row ≠ k := by
  unfold find
  rw [List.find?_eq_none]
  exact forall₂_congr fun row _ => by simp

/-- `INSERT` of a row whose key is known to be free. -/
def insert (table : Table key) (row : ρ) (fresh : ∀ other ∈ table, key other ≠ key row) :
    Table key where
  rows := table.rows ++ [row]
  unique := by
    rw [List.map_append, List.nodup_append]
    refine ⟨table.unique, by simp, ?_⟩
    intro a inTable b inNew
    obtain ⟨other, member, rfl⟩ := List.mem_map.mp inTable
    simp only [List.map_cons, List.map_nil, List.mem_singleton] at inNew
    rw [inNew]
    exact fresh other member

@[simp] theorem mem_insert {table : Table key} {row other : ρ}
    {fresh : ∀ r ∈ table, key r ≠ key row} :
    other ∈ table.insert row fresh ↔ other ∈ table ∨ other = row := by
  show other ∈ table.rows ++ [row] ↔ _
  simp [mem_rows]

theorem find_insert [DecidableEq κ] {table : Table key} {row : ρ}
    {fresh : ∀ other ∈ table, key other ≠ key row} {k : κ} :
    (table.insert row fresh).find k = if key row = k then some row else table.find k := by
  split
  · next same => exact find_eq_some_iff.mpr ⟨mem_insert.mpr (Or.inr rfl), same⟩
  · next other =>
    cases found : table.find k with
    | some existing =>
      obtain ⟨member, same⟩ := find_eq_some_iff.mp found
      exact find_eq_some_iff.mpr ⟨mem_insert.mpr (Or.inl member), same⟩
    | none =>
      refine find_eq_none_iff.mpr fun existing member => ?_
      rcases mem_insert.mp member with old | rfl
      · exact find_eq_none_iff.mp found existing old
      · exact other

/-- `UPDATE ... SET change WHERE hit`. -/
def update (table : Table key) (hit : ρ → Bool) (change : ρ → ρ)
    (keeps : ∀ row, key (change row) = key row) : Table key where
  rows := table.rows.map (fun row => if hit row then change row else row)
  unique := by
    have same : (fun row => key (if hit row then change row else row)) = key := by
      funext row
      split
      · exact keeps row
      · rfl
    rw [List.map_map]
    simpa only [Function.comp_def, same] using table.unique

theorem mem_update {table : Table key} {hit : ρ → Bool} {change : ρ → ρ}
    {keeps : ∀ row, key (change row) = key row} {row : ρ} :
    row ∈ table.update hit change keeps ↔
      ∃ old ∈ table, row = if hit old then change old else old := by
  show row ∈ table.rows.map _ ↔ _
  rw [List.mem_map]
  exact ⟨fun ⟨old, member, same⟩ => ⟨old, member, same.symm⟩,
    fun ⟨old, member, same⟩ => ⟨old, member, same.symm⟩⟩

/-- Where an update finds no row and writes none, the rows stay. -/
theorem mem_update_elsewhere {table : Table key} {hit : ρ → Bool}
    {change : ρ → ρ} {keeps : ∀ row, key (change row) = key row} (P : ρ → Prop) {row : ρ}
    (elsewhere : ¬ P row) (inside : ∀ old ∈ table, hit old = true → P old ∧ P (change old)) :
    row ∈ table.update hit change keeps ↔ row ∈ table := by
  rw [mem_update]
  constructor
  · rintro ⟨old, member, rfl⟩
    by_cases written : hit old = true
    · rw [if_pos written] at elsewhere
      exact absurd (inside old member written).2 elsewhere
    · rw [if_neg written]
      exact member
  · intro member
    refine ⟨row, member, ?_⟩
    rw [if_neg (fun written => elsewhere (inside row member written).1)]

/-- An update that changes no row it hits. -/
theorem mem_update_same {table : Table key} {hit : ρ → Bool}
    {change : ρ → ρ} {keeps : ∀ row, key (change row) = key row} {row : ρ}
    (same : ∀ old ∈ table, hit old = true → change old = old) :
    row ∈ table.update hit change keeps ↔ row ∈ table := by
  have kept : ∀ old ∈ table, (if hit old then change old else old) = old := by
    intro old member
    by_cases written : hit old = true
    · rw [if_pos written, same old member written]
    · rw [if_neg written]
  rw [mem_update]
  constructor
  · rintro ⟨old, member, rfl⟩
    rw [kept old member]
    exact member
  · exact fun member => ⟨row, member, (kept row member).symm⟩

/-- An update whose condition no row meets leaves the table as it was. -/
theorem update_eq_self {table : Table key} {hit : ρ → Bool} {change : ρ → ρ}
    {keeps : ∀ row, key (change row) = key row} (miss : ∀ row ∈ table, hit row = false) :
    table.update hit change keeps = table := by
  apply Table.ext
  show table.rows.map _ = table.rows
  conv_rhs => rw [← List.map_id table.rows]
  apply List.map_congr_left
  intro row member
  simp [miss row member]

/-- Reading one key after an update: the row found there, changed if it was hit. -/
theorem find_update [DecidableEq κ] {table : Table key} {hit : ρ → Bool} {change : ρ → ρ}
    {keeps : ∀ row, key (change row) = key row} (k : κ) :
    (table.update hit change keeps).find k =
      (table.find k).map (fun row => if hit row then change row else row) := by
  cases found : table.find k with
  | none =>
    rw [Option.map_none, find_eq_none_iff]
    intro row member
    obtain ⟨old, memberOld, rfl⟩ := mem_update.mp member
    have absent := find_eq_none_iff.mp found old memberOld
    split
    · rwa [keeps]
    · exact absent
  | some row =>
    obtain ⟨member, rfl⟩ := find_eq_some_iff.mp found
    rw [Option.map_some, find_eq_some_iff]
    refine ⟨mem_update.mpr ⟨row, member, rfl⟩, ?_⟩
    split
    · exact keeps row
    · rfl

/-- `INSERT ... ON CONFLICT (key) DO UPDATE SET change`. -/
def upsert [DecidableEq κ] (table : Table key) (row : ρ) (change : ρ → ρ)
    (keeps : ∀ other, key (change other) = key other) : Table key :=
  match found : table.find (key row) with
  | some _ => table.update (fun other => key other = key row) change keeps
  | none => table.insert row (find_eq_none_iff.mp found)

/-- The rows of an upsert, in order. -/
theorem rows_upsert [DecidableEq κ] {table : Table key} {row : ρ} {change : ρ → ρ}
    {keeps : ∀ other, key (change other) = key other} :
    (table.upsert row change keeps).rows =
      if ∃ other ∈ table, key other = key row then
        table.rows.map fun other => if key other = key row then change other else other
      else table.rows ++ [row] := by
  unfold upsert
  split
  · next existing found =>
    obtain ⟨member, same⟩ := find_eq_some_iff.mp found
    rw [if_pos ⟨existing, member, same⟩]
    show table.rows.map _ = _
    simp only [decide_eq_true_eq]
  · next absent =>
    have differs := find_eq_none_iff.mp absent
    have none_ : ¬ ∃ other ∈ table, key other = key row := by
      rintro ⟨other, member, same⟩
      exact differs other member same
    rw [if_neg none_]
    rfl

theorem mem_upsert [DecidableEq κ] {table : Table key} {row : ρ} {change : ρ → ρ}
    {keeps : ∀ other, key (change other) = key other} {other : ρ} :
    other ∈ table.upsert row change keeps ↔
      (other ∈ table ∧ key other ≠ key row) ∨
        (∃ old ∈ table, key old = key row ∧ other = change old) ∨
        (other = row ∧ table.find (key row) = none) := by
  unfold upsert
  split
  · next existing found =>
    obtain ⟨member, same⟩ := find_eq_some_iff.mp found
    rw [mem_update]
    constructor
    · rintro ⟨old, memberOld, rfl⟩
      by_cases hit : key old = key row
      · exact Or.inr (Or.inl ⟨old, memberOld, hit, by simp [hit]⟩)
      · exact Or.inl (by simp [hit, memberOld])
    · rintro (⟨memberOther, differs⟩ | ⟨old, memberOld, hit, rfl⟩ | ⟨_, absent⟩)
      · exact ⟨other, memberOther, by simp [differs]⟩
      · exact ⟨old, memberOld, by simp [hit]⟩
      · rw [found] at absent; cases absent
  · next absent =>
    rw [mem_insert]
    have differs := find_eq_none_iff.mp absent
    constructor
    · rintro (memberOther | rfl)
      · exact Or.inl ⟨memberOther, differs other memberOther⟩
      · exact Or.inr (Or.inr ⟨rfl, absent⟩)
    · rintro (⟨memberOther, _⟩ | ⟨old, memberOld, hit, _⟩ | ⟨rfl, _⟩)
      · exact Or.inl memberOther
      · exact absurd hit (differs old memberOld)
      · exact Or.inr rfl

/-- Reading another key does not see an upsert. -/
theorem find_upsert_of_ne [DecidableEq κ] {table : Table key} {row : ρ} {change : ρ → ρ}
    {keeps : ∀ other, key (change other) = key other} {k : κ} (differs : k ≠ key row) :
    (table.upsert row change keeps).find k = table.find k := by
  cases found : table.find k with
  | none =>
    rw [find_eq_none_iff] at found ⊢
    intro other member
    rcases mem_upsert.mp member with ⟨memberOther, _⟩ | ⟨old, _, same, rfl⟩ | ⟨rfl, _⟩
    · exact found other memberOther
    · rw [keeps, same]; exact differs.symm
    · exact differs.symm
  | some other =>
    obtain ⟨member, rfl⟩ := find_eq_some_iff.mp found
    exact find_eq_some_iff.mpr ⟨mem_upsert.mpr (Or.inl ⟨member, differs⟩), rfl⟩

/-- Reading the upserted key: the changed row, or the new one. -/
theorem find_upsert_self [DecidableEq κ] {table : Table key} {row : ρ} {change : ρ → ρ}
    {keeps : ∀ other, key (change other) = key other} :
    (table.upsert row change keeps).find (key row) =
      some (((table.find (key row)).map change).getD row) := by
  cases found : table.find (key row) with
  | none =>
    exact find_eq_some_iff.mpr ⟨mem_upsert.mpr (Or.inr (Or.inr ⟨rfl, found⟩)), rfl⟩
  | some old =>
    obtain ⟨member, same⟩ := find_eq_some_iff.mp found
    refine find_eq_some_iff.mpr ⟨mem_upsert.mpr (Or.inr (Or.inl ⟨old, member, same, rfl⟩)), ?_⟩
    exact (keeps old).trans same

/-- `DELETE ... WHERE hit`. -/
def delete (table : Table key) (hit : ρ → Bool) : Table key where
  rows := table.rows.filter (fun row => !hit row)
  unique := (List.Sublist.map key (List.filter_sublist)).nodup table.unique

@[simp] theorem mem_delete {table : Table key} {hit : ρ → Bool} {row : ρ} :
    row ∈ table.delete hit ↔ row ∈ table ∧ hit row = false := by
  show row ∈ table.rows.filter _ ↔ _
  simp [List.mem_filter, mem_rows]

/-- Reading one key after a deletion. -/
theorem find_delete [DecidableEq κ] {table : Table key} {hit : ρ → Bool} (k : κ) :
    (table.delete hit).find k = (table.find k).filter (fun row => !hit row) := by
  cases found : table.find k with
  | none =>
    rw [Option.filter_none, find_eq_none_iff]
    exact fun row member => find_eq_none_iff.mp found row (mem_delete.mp member).1
  | some row =>
    obtain ⟨member, same⟩ := find_eq_some_iff.mp found
    cases deleted : hit row with
    | false =>
      rw [Option.filter_some, deleted]
      exact find_eq_some_iff.mpr ⟨mem_delete.mpr ⟨member, deleted⟩, same⟩
    | true =>
      rw [Option.filter_some, deleted]
      refine find_eq_none_iff.mpr fun other inTable same' => ?_
      obtain ⟨inOld, kept⟩ := mem_delete.mp inTable
      rw [eq_of_key inOld member (same'.trans same.symm), deleted] at kept
      cases kept

/-! ## Constraints

`Q` is a constraint on one row; `P a b` says that two rows agree in the columns of a unique one. -/

section Constraints

variable {table : Table key} {P : ρ → ρ → Prop}

theorem forall_insert {row : ρ} {fresh : ∀ other ∈ table, key other ≠ key row} {Q : ρ → Prop}
    (held : ∀ a ∈ table, Q a) (new : Q row) : ∀ a ∈ table.insert row fresh, Q a := by
  intro a member
  rcases mem_insert.mp member with old | rfl
  · exact held a old
  · exact new

theorem forall_update {hit : ρ → Bool} {change : ρ → ρ} {keeps : ∀ row, key (change row) = key row} {Q : ρ → Prop}
    (held : ∀ a ∈ table, Q a) (changed : ∀ a, Q a → Q (change a)) : ∀ a ∈ table.update hit change keeps, Q a := by
  intro a member
  obtain ⟨old, inTable, rfl⟩ := mem_update.mp member
  split
  · exact changed old (held old inTable)
  · exact held old inTable

theorem unique_insert {row : ρ} {fresh : ∀ other ∈ table, key other ≠ key row}
    (symm : ∀ a b, P a b → P b a) (held : ∀ a ∈ table, ∀ b ∈ table, P a b → a = b)
    (free : ∀ a ∈ table, ¬ P a row) :
    ∀ a ∈ table.insert row fresh, ∀ b ∈ table.insert row fresh, P a b → a = b := by
  intro a inA b inB same
  rcases mem_insert.mp inA with oldA | rfl <;> rcases mem_insert.mp inB with oldB | rfl
  · exact held a oldA b oldB same
  · exact absurd same (free a oldA)
  · exact absurd (symm _ _ same) (free b oldB)
  · rfl

/-- At most one row is changed, and what it becomes agrees with no other row. -/
theorem unique_update {hit : ρ → Bool} {change : ρ → ρ} {keeps : ∀ row, key (change row) = key row}
    (symm : ∀ a b, P a b → P b a) (held : ∀ a ∈ table, ∀ b ∈ table, P a b → a = b)
    (once : ∀ a ∈ table, ∀ b ∈ table, hit a = true → hit b = true → a = b)
    (free : ∀ a ∈ table, hit a = true → ∀ b ∈ table, hit b = false → ¬ P (change a) b) :
    ∀ a ∈ table.update hit change keeps, ∀ b ∈ table.update hit change keeps, P a b → a = b := by
  intro a inA b inB same
  obtain ⟨oldA, memberA, rfl⟩ := mem_update.mp inA
  obtain ⟨oldB, memberB, rfl⟩ := mem_update.mp inB
  cases hitA : hit oldA <;> cases hitB : hit oldB <;> rw [hitA, hitB] at same
  · exact held oldA memberA oldB memberB same
  · exact absurd (symm _ _ same) (free oldB memberB hitB oldA memberA hitA)
  · exact absurd same (free oldA memberA hitA oldB memberB hitB)
  · rw [once oldA memberA oldB memberB hitA hitB]

end Constraints

end Table

end VodogeCloud.Lib
