import Mathlib.Data.List.Sort
import Mathlib.Order.Defs.LinearOrder

/-!
# Maps as sorted entries

A map with one value per key, kept in the order of its keys, so that equal maps are equal
lists whatever order their entries were set in.
-/

set_option autoImplicit false

namespace VodogeCloud.Lib.SortedEntries

variable {κ α : Type} [LinearOrder κ]

/-- `map[key] = value`. -/
def setEntry (key : κ) (value : α) : List (κ × α) → List (κ × α)
  | [] => [(key, value)]
  | (other, kept) :: rest =>
    if key = other then (key, value) :: rest
    else if key < other then (key, value) :: (other, kept) :: rest
    else (other, kept) :: setEntry key value rest

/-- The entries set one after another. -/
def setAll (entries : List (κ × α)) : List (κ × α) :=
  entries.foldl (fun map entry => setEntry entry.1 entry.2 map) []

def Sorted (map : List (κ × α)) : Prop := map.Pairwise fun first second => first.1 < second.1

theorem mem_setEntry {key : κ} {value : α} {map : List (κ × α)} {entry : κ × α}
    (member : entry ∈ setEntry key value map) : entry = (key, value) ∨ entry ∈ map := by
  induction map with
  | nil => exact .inl (List.mem_singleton.mp member)
  | cons head rest ih =>
    unfold setEntry at member
    split at member
    · exact (List.mem_cons.mp member).imp id (List.mem_cons_of_mem _)
    split at member
    · exact List.mem_cons.mp member
    · rcases List.mem_cons.mp member with rfl | later
      · exact .inr List.mem_cons_self
      · exact (ih later).imp id (List.mem_cons_of_mem _)

theorem sorted_setEntry (key : κ) (value : α) {map : List (κ × α)} (sorted : Sorted map) :
    Sorted (setEntry key value map) := by
  induction map with
  | nil => exact List.pairwise_singleton _ _
  | cons head rest ih =>
    obtain ⟨above, sortedRest⟩ := List.pairwise_cons.mp sorted
    unfold setEntry
    split
    case isTrue same => exact List.pairwise_cons.mpr ⟨fun entry member => same ▸ above entry member, sortedRest⟩
    case isFalse other =>
      split
      case isTrue before =>
        refine List.pairwise_cons.mpr ⟨fun entry member => ?_, sorted⟩
        rcases List.mem_cons.mp member with rfl | later
        · exact before
        · exact before.trans (above entry later)
      case isFalse after =>
        refine List.pairwise_cons.mpr ⟨fun entry member => ?_, ih sortedRest⟩
        rcases mem_setEntry member with rfl | later
        · exact lt_of_le_of_ne (not_lt.mp after) (Ne.symm other)
        · exact above entry later

theorem perm_setEntry {key : κ} (value : α) {map : List (κ × α)} (fresh : key ∉ map.map Prod.fst) :
    (setEntry key value map).Perm ((key, value) :: map) := by
  induction map with
  | nil => exact List.Perm.refl _
  | cons head rest ih =>
    rw [List.map_cons, List.mem_cons, not_or] at fresh
    unfold setEntry
    rw [if_neg fresh.1]
    split
    · exact List.Perm.refl _
    · exact ((ih fresh.2).cons head).trans (List.Perm.swap (key, value) head rest)

/-! ## Many entries -/

theorem sorted_setAll (entries : List (κ × α)) : Sorted (setAll entries) := by
  have each : ∀ map : List (κ × α), Sorted map →
      Sorted (entries.foldl (fun map entry => setEntry entry.1 entry.2 map) map) := by
    induction entries with
    | nil => exact fun _ sorted => sorted
    | cons entry rest ih => exact fun map sorted => ih _ (sorted_setEntry entry.1 entry.2 sorted)
  exact each [] .nil

theorem nodup_of_sorted {map : List (κ × α)} (sorted : Sorted map) : (map.map Prod.fst).Nodup :=
  List.pairwise_map.mpr (sorted.imp fun before => before.ne)

theorem mem_setAll {entries : List (κ × α)} {entry : κ × α} (member : entry ∈ setAll entries) :
    entry ∈ entries := by
  have each : ∀ map : List (κ × α),
      entry ∈ entries.foldl (fun map entry => setEntry entry.1 entry.2 map) map → entry ∈ map ∨ entry ∈ entries := by
    clear member
    induction entries with
    | nil => exact fun _ => .inl
    | cons head rest ih =>
      intro map member
      rcases ih _ member with held | later
      · exact (mem_setEntry held).elim (fun same => .inr (same ▸ List.mem_cons_self)) .inl
      · exact .inr (List.mem_cons_of_mem _ later)
  exact (each [] member).resolve_left List.not_mem_nil

/-- With distinct keys no entry is overwritten. -/
theorem perm_setAll {entries : List (κ × α)} (distinct : (entries.map Prod.fst).Nodup) :
    (setAll entries).Perm entries := by
  have each : ∀ map : List (κ × α), ((entries ++ map).map Prod.fst).Nodup →
      (entries.foldl (fun map entry => setEntry entry.1 entry.2 map) map).Perm (entries ++ map) := by
    clear distinct
    induction entries with
    | nil => exact fun map _ => List.Perm.refl map
    | cons entry rest ih =>
      intro map distinct
      rw [List.cons_append, List.map_cons, List.nodup_cons] at distinct
      have fresh : entry.1 ∉ map.map Prod.fst := fun held =>
        distinct.1 (by rw [List.map_append]; exact List.mem_append_right _ held)
      have set_ := perm_setEntry entry.2 fresh
      have moved : (rest ++ setEntry entry.1 entry.2 map).Perm (entry :: (rest ++ map)) :=
        (set_.append_left rest).trans List.perm_middle
      refine (ih _ ?_).trans moved
      exact ((moved.map Prod.fst).nodup_iff).mpr (List.nodup_cons.mpr distinct)
  have whole := each [] (by rwa [List.append_nil])
  rwa [List.append_nil] at whole

/-- The order in which entries with distinct keys are set does not show. -/
theorem setAll_eq_of_perm {entries others : List (κ × α)} (permuted : entries.Perm others)
    (distinct : (others.map Prod.fst).Nodup) : setAll entries = setAll others := by
  have perms : (setAll entries).Perm (setAll others) :=
    ((perm_setAll ((permuted.map Prod.fst).nodup_iff.mpr distinct)).trans permuted).trans
      (perm_setAll distinct).symm
  refine perms.eq_of_pairwise (fun first second _ _ before after => ?_) (sorted_setAll _) (sorted_setAll _)
  exact absurd after before.asymm

end VodogeCloud.Lib.SortedEntries
