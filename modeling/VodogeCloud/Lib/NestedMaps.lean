import Mathlib.Data.List.Nodup
import Mathlib.Data.List.Pairwise

/-!
# Maps inside maps

A map is a list of entries, read by the first entry under a key. A path is a list of keys:
all but the last lead into a map that is a value. Writes replace an entry where it stands
and append a new one, so a list of entries is the same list again once every value is.

`adjustAll` changes what stands at some paths and makes no path, `restore` puts back what
another map holds there. Where no path leads into another, the order of the paths says
nothing, and a map is told by what it holds at the paths and by what it is besides.
-/

set_option autoImplicit false

namespace VodogeCloud.Lib.NestedMaps

variable {κ α : Type} [DecidableEq κ]

/-! ## One map -/

def get (key : κ) (entries : List (κ × α)) : Option α := (entries.find? fun entry => entry.1 = key).map Prod.snd

/-- `m[key] = value`. -/
def put (key : κ) (value : α) (entries : List (κ × α)) : List (κ × α) :=
  if entries.any fun entry => entry.1 = key then
    entries.map fun entry => if entry.1 = key then (key, value) else entry
  else entries ++ [(key, value)]

/-- `delete(m, key)`. -/
def erase (key : κ) (entries : List (κ × α)) : List (κ × α) := entries.filter fun entry => entry.1 ≠ key

@[simp] theorem get_nil (key : κ) : get key ([] : List (κ × α)) = none := rfl

theorem get_cons (key : κ) (entry : κ × α) (rest : List (κ × α)) :
    get key (entry :: rest) = if entry.1 = key then some entry.2 else get key rest := by
  unfold get
  rw [List.find?_cons]
  by_cases same : entry.1 = key
  · simp [same]
  · simp [same]

theorem get_append (key : κ) (front back : List (κ × α)) :
    get key (front ++ back) = (get key front).or (get key back) := by
  induction front with
  | nil => rfl
  | cons entry rest ih =>
    rw [List.cons_append, get_cons, get_cons, ih]
    split
    · rfl
    · rfl

theorem any_key {key : κ} {entries : List (κ × α)} :
    (entries.any fun entry => entry.1 = key) = (get key entries).isSome := by
  induction entries with
  | nil => rfl
  | cons entry rest ih =>
    rw [List.any_cons, get_cons, ih]
    by_cases same : entry.1 = key
    · simp [same]
    · simp [same]

theorem get_eq_none_iff {key : κ} {entries : List (κ × α)} : get key entries = none ↔ key ∉ entries.map Prod.fst := by
  induction entries with
  | nil => simp
  | cons entry rest ih =>
    rw [get_cons, List.map_cons, List.mem_cons, not_or]
    by_cases same : entry.1 = key
    · simp [same]
    · rw [if_neg same, ih]
      exact ⟨fun absent => ⟨Ne.symm same, absent⟩, fun h => h.2⟩

theorem mem_of_get {key : κ} {entries : List (κ × α)} {value : α} (held : get key entries = some value) :
    (key, value) ∈ entries := by
  unfold get at held
  obtain ⟨entry, found, rfl⟩ := Option.map_eq_some_iff.mp held
  have same := List.find?_some found
  rw [decide_eq_true_eq] at same
  subst same
  exact List.mem_of_find?_eq_some found

theorem get_of_mem {entries : List (κ × α)} (distinct : (entries.map Prod.fst).Nodup) {key : κ} {value : α}
    (member : (key, value) ∈ entries) : get key entries = some value := by
  induction entries with
  | nil => cases member
  | cons entry rest ih =>
    rw [List.map_cons, List.nodup_cons] at distinct
    rw [get_cons]
    rcases List.mem_cons.mp member with rfl | later
    · rw [if_pos rfl]
    · have differs : entry.1 ≠ key := by
        rintro rfl
        exact distinct.1 (List.mem_map.mpr ⟨_, later, rfl⟩)
      rw [if_neg differs]
      exact ih distinct.2 later

/-- An entry rewritten where it stands. -/
theorem put_of_some {key : κ} {entries : List (κ × α)} {old : α} (held : get key entries = some old) (value : α) :
    put key value entries = entries.map fun entry => if entry.1 = key then (key, value) else entry := by
  unfold put
  rw [if_pos]
  rw [any_key, held]
  rfl

theorem put_of_none {key : κ} {entries : List (κ × α)} (absent : get key entries = none) (value : α) :
    put key value entries = entries ++ [(key, value)] := by
  unfold put
  rw [if_neg]
  rw [any_key, absent]
  exact Bool.false_ne_true

theorem get_map_other {key other : κ} (differs : other ≠ key) (value : α) (entries : List (κ × α)) :
    get other (entries.map fun entry => if entry.1 = key then (key, value) else entry) = get other entries := by
  induction entries with
  | nil => rfl
  | cons entry rest ih =>
    rw [List.map_cons, get_cons, get_cons, ih]
    by_cases same : entry.1 = key
    · rw [if_pos same, if_neg (Ne.symm differs), if_neg (fun equal => differs (equal.symm.trans same))]
    · rw [if_neg same]

@[simp] theorem get_put_self (key : κ) (value : α) (entries : List (κ × α)) :
    get key (put key value entries) = some value := by
  cases held : get key entries with
  | none =>
    rw [put_of_none held, get_append, held, get_cons, if_pos rfl]
    rfl
  | some old =>
    rw [put_of_some held]
    induction entries with
    | nil => cases held
    | cons entry rest ih =>
      rw [List.map_cons, get_cons]
      by_cases same : entry.1 = key
      · rw [if_pos same, if_pos rfl]
      · rw [get_cons, if_neg same] at held
        rw [if_neg same, if_neg same, ih held]

theorem get_put_other {key other : κ} (differs : other ≠ key) (value : α) (entries : List (κ × α)) :
    get other (put key value entries) = get other entries := by
  cases held : get key entries with
  | none =>
    rw [put_of_none held, get_append, get_cons, if_neg (Ne.symm differs), get_nil, Option.or_none]
  | some old => rw [put_of_some held, get_map_other differs]

@[simp] theorem get_erase_self (key : κ) (entries : List (κ × α)) : get key (erase key entries) = none := by
  rw [get_eq_none_iff]
  simp [erase]

theorem get_erase_other {key other : κ} (differs : other ≠ key) (entries : List (κ × α)) :
    get other (erase key entries) = get other entries := by
  induction entries with
  | nil => rfl
  | cons entry rest ih =>
    unfold erase at ih ⊢
    rw [List.filter_cons, get_cons]
    by_cases same : entry.1 = key
    · rw [if_neg (by simp [same]), if_neg (fun equal => differs (equal.symm.trans same)), ih]
    · rw [if_pos (by simp [same]), get_cons, ih]

theorem map_absent {key : κ} {entries : List (κ × α)} (absent : get key entries = none) (value : α) :
    entries.map (fun entry => if entry.1 = key then (key, value) else entry) = entries := by
  refine (List.map_congr_left fun entry member => ?_).trans (List.map_id _)
  exact if_neg fun same => get_eq_none_iff.mp absent (List.mem_map.mpr ⟨entry, member, same⟩)

theorem put_put (key : κ) (value first : α) (entries : List (κ × α)) :
    put key value (put key first entries) = put key value entries := by
  rw [put_of_some (get_put_self key first entries)]
  cases held : get key entries with
  | none =>
    rw [put_of_none held, put_of_none held, List.map_append]
    rw [map_absent held, List.map_cons, if_pos rfl, List.map_nil]
  | some old =>
    rw [put_of_some held, put_of_some held, List.map_map]
    refine List.map_congr_left fun entry _ => ?_
    by_cases same : entry.1 = key
    · simp [same]
    · simp [same]

/-- What is held already is put back where it stands. -/
theorem put_held {key : κ} {value : α} {entries : List (κ × α)} (distinct : (entries.map Prod.fst).Nodup)
    (held : get key entries = some value) : put key value entries = entries := by
  rw [put_of_some held]
  induction entries with
  | nil => rfl
  | cons entry rest ih =>
    rw [List.map_cons, List.nodup_cons] at distinct
    rw [get_cons] at held
    rw [List.map_cons]
    by_cases same : entry.1 = key
    · rw [if_pos same] at held ⊢
      have absent : get key rest = none := by
        rw [get_eq_none_iff, ← same]
        exact distinct.1
      rw [map_absent absent, ← same, ← Option.some.inj held]
    · rw [if_neg same] at held ⊢
      rw [ih distinct.2 held]

/-- Two entries that are there, rewritten in either order. -/
theorem put_comm {a b : κ} (differs : a ≠ b) {entries : List (κ × α)} {x y : α} (heldA : get a entries = some x)
    (heldB : get b entries = some y) (v w : α) : put a v (put b w entries) = put b w (put a v entries) := by
  rw [put_of_some ((get_put_other differs w entries).trans heldA),
    put_of_some ((get_put_other differs.symm v entries).trans heldB), put_of_some heldA, put_of_some heldB,
    List.map_map, List.map_map]
  refine List.map_congr_left fun entry _ => ?_
  by_cases isA : entry.1 = a
  · simp [isA, differs]
  · by_cases isB : entry.1 = b
    · simp [isB, differs.symm]
    · simp [isA, isB]

/-! ## Paths -/

/-- How a value holds a map. -/
structure Nest (κ α : Type) where
  fields : α → Option (List (κ × α))
  map : List (κ × α) → α
  fields_map : ∀ entries, fields (map entries) = some entries
  map_fields : ∀ {value entries}, fields value = some entries → map entries = value

variable (nest : Nest κ α)

/-- The map that stands under a key. -/
def Nest.into (key : κ) (entries : List (κ × α)) : Option (List (κ × α)) := (get key entries).bind nest.fields

def Nest.lookup : List κ → List (κ × α) → Option α
  | [], _ => none
  | [key], entries => get key entries
  | key :: next :: rest, entries => (nest.into key entries).bind (Nest.lookup (next :: rest))

/-- A map that is not there is made on the way. -/
def Nest.set : List κ → α → List (κ × α) → List (κ × α)
  | [], _, entries => entries
  | [key], value, entries => put key value entries
  | key :: next :: rest, value, entries =>
    put key (nest.map (Nest.set (next :: rest) value ((nest.into key entries).getD []))) entries

def Nest.unset : List κ → List (κ × α) → List (κ × α)
  | [], entries => entries
  | [key], entries => erase key entries
  | key :: next :: rest, entries =>
    match nest.into key entries with
    | some inner => put key (nest.map (Nest.unset (next :: rest) inner)) entries
    | none => entries

/-- Neither path leads along the other. -/
def Apart (p q : List κ) : Prop := ¬ p <+: q ∧ ¬ q <+: p

instance (p q : List κ) : Decidable (Apart p q) := inferInstanceAs (Decidable (_ ∧ _))

omit [DecidableEq κ] in
theorem Apart.symm {p q : List κ} (apart : Apart p q) : Apart q p := ⟨apart.2, apart.1⟩

omit [DecidableEq κ] in
theorem Apart.tails {key : κ} {p q : List κ} (apart : Apart (key :: p) (key :: q)) : Apart p q :=
  ⟨fun short => apart.1 (List.cons_prefix_cons.mpr ⟨rfl, short⟩),
    fun short => apart.2 (List.cons_prefix_cons.mpr ⟨rfl, short⟩)⟩

omit [DecidableEq κ] in
theorem not_apart_nil {p : List κ} : ¬ Apart [] p := fun apart => apart.1 List.nil_prefix

/-- Paths that are apart differ in their first keys, or go on from one key and are apart there. -/
@[elab_as_elim]
theorem Apart.walk {motive : (p q : List κ) → Apart p q → Prop} {p q : List κ} (apart : Apart p q)
    (here : ∀ a b p q (apart : Apart (a :: p) (b :: q)), a ≠ b → motive (a :: p) (b :: q) apart)
    (below : ∀ a next p other q (apart : Apart (a :: next :: p) (a :: other :: q)),
      motive (next :: p) (other :: q) apart.tails → motive (a :: next :: p) (a :: other :: q) apart) :
    motive p q apart := by
  induction p generalizing q with
  | nil => exact absurd apart not_apart_nil
  | cons a p ih =>
    cases q with
    | nil => exact absurd apart.symm not_apart_nil
    | cons b q =>
      by_cases same : a = b
      · subst same
        cases p with
        | nil => exact absurd apart.tails not_apart_nil
        | cons next p =>
          cases q with
          | nil => exact absurd apart.tails.symm not_apart_nil
          | cons other q => exact below a next p other q apart (ih apart.tails)
      · exact here a b p q apart same

omit [DecidableEq κ] in
theorem apart_of_mem {paths : List (List κ)} (apart : paths.Pairwise Apart) {p q : List κ} (inP : p ∈ paths)
    (inQ : q ∈ paths) : p = q ∨ Apart p q := by
  induction apart with
  | nil => cases inP
  | cons first _ ih =>
    rcases List.mem_cons.mp inP with rfl | laterP
    · exact (List.mem_cons.mp inQ).imp Eq.symm (first q)
    · rcases List.mem_cons.mp inQ with rfl | laterQ
      · exact Or.inr (first p laterP).symm
      · exact ih laterP laterQ

variable {nest}

theorem into_put_self (key : κ) (inner entries : List (κ × α)) :
    nest.into key (put key (nest.map inner) entries) = some inner := by
  unfold Nest.into
  rw [get_put_self, Option.bind_some, nest.fields_map]

theorem into_put_other {key other : κ} (differs : other ≠ key) (value : α) (entries : List (κ × α)) :
    nest.into other (put key value entries) = nest.into other entries := by
  unfold Nest.into
  rw [get_put_other differs]

theorem lookup_nil (p : List κ) : nest.lookup p [] = none := by
  cases p with
  | nil => rfl
  | cons key rest =>
    cases rest with
    | nil => rfl
    | cons next rest => rfl

theorem lookup_set_self {p : List κ} (some_ : p ≠ []) (value : α) (entries : List (κ × α)) :
    nest.lookup p (nest.set p value entries) = some value := by
  induction p generalizing entries with
  | nil => exact absurd rfl some_
  | cons key rest ih =>
    cases rest with
    | nil => exact get_put_self key value entries
    | cons next rest =>
      rw [Nest.set, Nest.lookup, into_put_self, Option.bind_some]
      exact ih (List.cons_ne_nil _ _) _

theorem lookup_of_get {key : κ} {rest : List κ} {changed entries : List (κ × α)}
    (same : get key changed = get key entries) : nest.lookup (key :: rest) changed = nest.lookup (key :: rest) entries := by
  cases rest with
  | nil => exact same
  | cons next rest => rw [Nest.lookup, Nest.lookup, Nest.into, Nest.into, same]

/-- What a write leaves alone: everything but its path, what is on the way to it and what
it leads to. -/
theorem lookup_set_apart {p q : List κ} (apart : Apart p q) (value : α) (entries : List (κ × α)) :
    nest.lookup q (nest.set p value entries) = nest.lookup q entries := by
  induction apart using Apart.walk generalizing entries with
  | here a b p q _ differs =>
    cases p with
    | nil => exact lookup_of_get (get_put_other differs.symm _ _)
    | cons next p => exact lookup_of_get (get_put_other differs.symm _ _)
  | below a next p other q _ ih =>
    rw [Nest.set, Nest.lookup, into_put_self, Option.bind_some, ih]
    cases held : nest.into a entries with
    | none => rw [Option.getD_none, lookup_nil, Nest.lookup, held, Option.bind_none]
    | some inner => rw [Option.getD_some, Nest.lookup, held, Option.bind_some]

theorem lookup_unset_self (p : List κ) (entries : List (κ × α)) : nest.lookup p (nest.unset p entries) = none := by
  induction p generalizing entries with
  | nil => rfl
  | cons key rest ih =>
    cases rest with
    | nil => exact get_erase_self key entries
    | cons next rest =>
      rw [Nest.unset]
      cases held : nest.into key entries with
      | none => rw [Nest.lookup, held, Option.bind_none]
      | some inner =>
        rw [Nest.lookup, into_put_self, Option.bind_some]
        exact ih inner

theorem lookup_unset_apart {p q : List κ} (apart : Apart p q) (entries : List (κ × α)) :
    nest.lookup q (nest.unset p entries) = nest.lookup q entries := by
  induction apart using Apart.walk generalizing entries with
  | here a b p q _ differs =>
    cases p with
    | nil => exact lookup_of_get (get_erase_other differs.symm _)
    | cons next p =>
      rw [Nest.unset]
      cases held : nest.into a entries with
      | none => rfl
      | some inner => exact lookup_of_get (get_put_other differs.symm _ _)
  | below a next p other q _ ih =>
    rw [Nest.unset]
    cases held : nest.into a entries with
    | none => rfl
    | some inner => rw [Nest.lookup, into_put_self, Option.bind_some, ih, Nest.lookup, held, Option.bind_some]

theorem set_set (p : List κ) (value first : α) (entries : List (κ × α)) :
    nest.set p value (nest.set p first entries) = nest.set p value entries := by
  induction p generalizing entries with
  | nil => rfl
  | cons key rest ih =>
    cases rest with
    | nil => exact put_put key value first entries
    | cons next rest =>
      rw [Nest.set, Nest.set, into_put_self, Option.getD_some, ih, put_put, Nest.set]

/-- Every map on a path has each key once. -/
def Nest.Distinct (nest : Nest κ α) : List κ → List (κ × α) → Prop
  | [], _ => True
  | key :: rest, entries =>
    (entries.map Prod.fst).Nodup ∧ ∀ inner, nest.into key entries = some inner → Nest.Distinct nest rest inner

theorem set_held {p : List κ} {value : α} {entries : List (κ × α)} (distinct : nest.Distinct p entries)
    (held : nest.lookup p entries = some value) : nest.set p value entries = entries := by
  induction p generalizing entries with
  | nil => rfl
  | cons key rest ih =>
    cases rest with
    | nil => exact put_held distinct.1 held
    | cons next rest =>
      rw [Nest.lookup, Option.bind_eq_some_iff] at held
      obtain ⟨inner, inside, held⟩ := held
      rw [Nest.set, inside, Option.getD_some, ih (distinct.2 inner inside) held]
      obtain ⟨value_, under, shaped⟩ := Option.bind_eq_some_iff.mp inside
      rw [nest.map_fields shaped]
      exact put_held distinct.1 under

/-- What stands at a path is under its first key. -/
theorem get_of_lookup {key : κ} {rest : List κ} {value : α} {entries : List (κ × α)}
    (held : nest.lookup (key :: rest) entries = some value) : ∃ top, get key entries = some top := by
  cases rest with
  | nil => exact ⟨value, held⟩
  | cons next rest =>
    rw [Nest.lookup, Option.bind_eq_some_iff] at held
    obtain ⟨inner, inside, _⟩ := held
    obtain ⟨top, under, _⟩ := Option.bind_eq_some_iff.mp inside
    exact ⟨top, under⟩

/-- A write is one to the entry under the first key. -/
theorem set_eq_put (key : κ) (rest : List κ) (value : α) (entries : List (κ × α)) :
    ∃ top, ∀ changed, get key changed = get key entries → nest.set (key :: rest) value changed = put key top changed := by
  cases rest with
  | nil => exact ⟨value, fun _ _ => rfl⟩
  | cons next rest =>
    refine ⟨nest.map (nest.set (next :: rest) value ((nest.into key entries).getD [])), fun changed equal => ?_⟩
    rw [Nest.set, Nest.into, equal]
    rfl

/-- Writes to two places that are there, in either order. -/
theorem set_comm {p q : List κ} (apart : Apart p q) {entries : List (κ × α)} {x y : α}
    (heldP : nest.lookup p entries = some x) (heldQ : nest.lookup q entries = some y) (v w : α) :
    nest.set p v (nest.set q w entries) = nest.set q w (nest.set p v entries) := by
  induction apart using Apart.walk generalizing entries with
  | here a b p q _ differs =>
    obtain ⟨topA, writeA⟩ := @set_eq_put κ α _ nest a p v entries
    obtain ⟨topB, writeB⟩ := @set_eq_put κ α _ nest b q w entries
    obtain ⟨_, underA⟩ := get_of_lookup heldP
    obtain ⟨_, underB⟩ := get_of_lookup heldQ
    rw [writeB entries rfl, writeA entries rfl, writeA _ (get_put_other differs _ _),
      writeB _ (get_put_other differs.symm _ _)]
    exact put_comm differs underA underB _ _
  | below a next p other q _ ih =>
    rw [Nest.lookup, Option.bind_eq_some_iff] at heldP heldQ
    obtain ⟨inner, inside, heldP⟩ := heldP
    obtain ⟨inner', inside', heldQ⟩ := heldQ
    obtain rfl : inner = inner' := Option.some.inj (inside.symm.trans inside')
    rw [Nest.set, Nest.set, Nest.set, Nest.set, into_put_self, into_put_self, inside, put_put, put_put,
      Option.getD_some, Option.getD_some, Option.getD_some, ih heldP heldQ]

theorem nodup_put (key : κ) (value : α) {entries : List (κ × α)} (distinct : (entries.map Prod.fst).Nodup) :
    ((put key value entries).map Prod.fst).Nodup := by
  cases held : get key entries with
  | none =>
    rw [put_of_none held, List.map_append, List.nodup_append]
    refine ⟨distinct, List.nodup_singleton _, fun a inOld b new equal => ?_⟩
    rw [List.map_cons, List.map_nil, List.mem_singleton] at new
    subst new equal
    exact get_eq_none_iff.mp held inOld
  | some old =>
    rw [put_of_some held, List.map_map]
    have same : Prod.fst ∘ (fun entry : κ × α => if entry.1 = key then (key, value) else entry) = Prod.fst := by
      funext entry
      by_cases equal : entry.1 = key
      · simp [equal]
      · simp [equal]
    rwa [same]

theorem distinct_set {p q : List κ} (apart : p = q ∨ Apart p q) (value : α) {entries : List (κ × α)}
    (distinct : nest.Distinct p entries) : nest.Distinct p (nest.set q value entries) := by
  induction p generalizing q entries with
  | nil => trivial
  | cons a p ih =>
    cases q with
    | nil => exact distinct
    | cons b q =>
      obtain ⟨top, write⟩ := @set_eq_put κ α _ nest b q value entries
      refine ⟨?_, fun inner inside => ?_⟩
      · rw [write entries rfl]
        exact nodup_put b top distinct.1
      by_cases same : a = b
      · subst same
        have tails : p = q ∨ Apart p q := apart.imp (fun equal => (List.cons.inj equal).2) Apart.tails
        cases q with
        | nil =>
          rcases tails with rfl | apart
          · trivial
          · exact absurd apart.symm not_apart_nil
        | cons next q =>
          rw [Nest.set, into_put_self, Option.some.injEq] at inside
          subst inside
          refine ih tails ?_
          cases held : nest.into a entries with
          | some old => exact distinct.2 old held
          | none =>
            cases p with
            | nil => trivial
            | cons key p => exact ⟨List.nodup_nil, fun inner inside => by cases inside⟩
      · rw [write entries rfl, into_put_other same] at inside
        exact distinct.2 inner inside

/-! ## Changes at some paths -/

variable (nest) in
/-- What `change` makes of what stands at a path; none leaves it. -/
def Nest.adjust (change : α → Option α) (p : List κ) (entries : List (κ × α)) : List (κ × α) :=
  match (nest.lookup p entries).bind change with
  | some value => nest.set p value entries
  | none => entries

variable (nest) in
def Nest.adjustAll (change : α → Option α) (paths : List (List κ)) (entries : List (κ × α)) : List (κ × α) :=
  paths.foldl (fun entries p => nest.adjust change p entries) entries

variable (nest) in
/-- What stands at a path of `stored` is put there. -/
def Nest.restore (stored : List (κ × α)) (p : List κ) (entries : List (κ × α)) : List (κ × α) :=
  match nest.lookup p stored with
  | some value => nest.set p value entries
  | none => entries

variable (nest) in
def Nest.restoreAll (stored : List (κ × α)) (paths : List (List κ)) (entries : List (κ × α)) : List (κ × α) :=
  paths.foldl (fun entries p => nest.restore stored p entries) entries

section Adjust

variable {change other : α → Option α} {p q : List κ} {entries : List (κ × α)}

theorem adjust_of_none (untouched : (nest.lookup p entries).bind change = none) :
    nest.adjust change p entries = entries := by
  unfold Nest.adjust
  rw [untouched]

theorem adjust_of_some {value : α} (changed : (nest.lookup p entries).bind change = some value) :
    nest.adjust change p entries = nest.set p value entries := by
  unfold Nest.adjust
  rw [changed]

theorem lookup_adjust_self (some_ : p ≠ []) :
    nest.lookup p (nest.adjust change p entries) =
      (nest.lookup p entries).map fun value => (change value).getD value := by
  cases changed : (nest.lookup p entries).bind change with
  | some value =>
    obtain ⟨old, held, new⟩ := Option.bind_eq_some_iff.mp changed
    rw [adjust_of_some changed, lookup_set_self some_, held, Option.map_some, new, Option.getD_some]
  | none =>
    rw [adjust_of_none changed]
    cases held : nest.lookup p entries with
    | none => rfl
    | some old =>
      rw [held, Option.bind_some] at changed
      rw [Option.map_some, changed, Option.getD_none]

theorem lookup_adjust_apart (apart : Apart p q) :
    nest.lookup q (nest.adjust change p entries) = nest.lookup q entries := by
  unfold Nest.adjust
  split
  · exact lookup_set_apart apart _ _
  · rfl

theorem adjust_comm (apart : Apart p q) :
    nest.adjust change p (nest.adjust other q entries) = nest.adjust other q (nest.adjust change p entries) := by
  have readsP : nest.lookup p (nest.adjust other q entries) = nest.lookup p entries := lookup_adjust_apart apart.symm
  have readsQ : nest.lookup q (nest.adjust change p entries) = nest.lookup q entries := lookup_adjust_apart apart
  cases changedP : (nest.lookup p entries).bind change with
  | none => rw [adjust_of_none changedP, adjust_of_none (by rw [readsP]; exact changedP)]
  | some v =>
    have writeP := adjust_of_some changedP
    rw [writeP] at readsQ ⊢
    cases changedQ : (nest.lookup q entries).bind other with
    | none =>
      have still : nest.adjust other q (nest.set p v entries) = nest.set p v entries :=
        adjust_of_none (by rw [readsQ]; exact changedQ)
      rw [adjust_of_none changedQ, writeP, still]
    | some w =>
      rw [adjust_of_some changedQ] at readsP
      rw [adjust_of_some changedQ, adjust_of_some (by rw [readsP]; exact changedP),
        adjust_of_some (by rw [readsQ]; exact changedQ)]
      obtain ⟨_, heldP, _⟩ := Option.bind_eq_some_iff.mp changedP
      obtain ⟨_, heldQ, _⟩ := Option.bind_eq_some_iff.mp changedQ
      exact set_comm apart heldP heldQ v w

theorem distinct_adjust (apart : p = q ∨ Apart p q) (distinct : nest.Distinct p entries) :
    nest.Distinct p (nest.adjust change q entries) := by
  unfold Nest.adjust
  split
  · exact distinct_set apart _ distinct
  · exact distinct

theorem adjustAll_cons (paths : List (List κ)) :
    nest.adjustAll change (p :: paths) entries = nest.adjustAll change paths (nest.adjust change p entries) := rfl

theorem restoreAll_cons (stored : List (κ × α)) (paths : List (List κ)) :
    nest.restoreAll stored (p :: paths) entries = nest.restoreAll stored paths (nest.restore stored p entries) := rfl

theorem adjustAll_adjust_comm {paths : List (List κ)} (apart : ∀ q ∈ paths, Apart p q) :
    nest.adjustAll change paths (nest.adjust other p entries) =
      nest.adjust other p (nest.adjustAll change paths entries) := by
  induction paths generalizing entries with
  | nil => rfl
  | cons q paths ih =>
    rw [adjustAll_cons, adjustAll_cons, ← adjust_comm (apart q List.mem_cons_self)]
    exact ih fun other member => apart other (List.mem_cons_of_mem _ member)

theorem lookup_adjustAll_apart {paths : List (List κ)} (apart : ∀ p ∈ paths, Apart p q) :
    nest.lookup q (nest.adjustAll change paths entries) = nest.lookup q entries := by
  induction paths generalizing entries with
  | nil => rfl
  | cons p paths ih =>
    rw [adjustAll_cons, ih fun other member => apart other (List.mem_cons_of_mem _ member)]
    exact lookup_adjust_apart (apart p List.mem_cons_self)

theorem lookup_adjustAll {paths : List (List κ)} (some_ : [] ∉ paths) (apart : paths.Pairwise Apart) (member : q ∈ paths) :
    nest.lookup q (nest.adjustAll change paths entries) =
      (nest.lookup q entries).map fun value => (change value).getD value := by
  induction paths generalizing entries with
  | nil => cases member
  | cons p paths ih =>
    rw [List.pairwise_cons] at apart
    rw [List.mem_cons, not_or] at some_
    rw [adjustAll_cons]
    rcases List.mem_cons.mp member with rfl | later
    · rw [lookup_adjustAll_apart fun other inRest => (apart.1 other inRest).symm, lookup_adjust_self (Ne.symm some_.1)]
    · rw [ih some_.2 apart.2 later, lookup_adjust_apart (apart.1 q later)]

theorem distinct_adjustAll {paths : List (List κ)} (apart : ∀ q ∈ paths, p = q ∨ Apart p q)
    (distinct : nest.Distinct p entries) : nest.Distinct p (nest.adjustAll change paths entries) := by
  induction paths generalizing entries with
  | nil => exact distinct
  | cons q paths ih =>
    exact ih (fun other member => apart other (List.mem_cons_of_mem _ member))
      (distinct_adjust (apart q List.mem_cons_self) distinct)

/-- A constant written over a change. -/
theorem adjust_const_adjust (some_ : p ≠ []) (value : α) :
    nest.adjust (fun _ => some value) p (nest.adjust change p entries) =
      nest.adjust (fun _ => some value) p entries := by
  cases changed : (nest.lookup p entries).bind change with
  | none => rw [adjust_of_none changed]
  | some new =>
    obtain ⟨old, held, _⟩ := Option.bind_eq_some_iff.mp changed
    have first : (nest.lookup p entries).bind (fun _ => some value) = some value := by rw [held]; rfl
    have later : (nest.lookup p (nest.set p new entries)).bind (fun _ => some value) = some value := by
      rw [lookup_set_self some_]
      rfl
    rw [adjust_of_some changed, adjust_of_some later, adjust_of_some first, set_set]

theorem adjustAll_const_adjustAll {paths : List (List κ)} (some_ : [] ∉ paths) (apart : paths.Pairwise Apart) (value : α) :
    nest.adjustAll (fun _ => some value) paths (nest.adjustAll change paths entries) =
      nest.adjustAll (fun _ => some value) paths entries := by
  induction paths generalizing entries with
  | nil => rfl
  | cons p paths ih =>
    rw [List.pairwise_cons] at apart
    rw [List.mem_cons, not_or] at some_
    rw [adjustAll_cons, adjustAll_cons, adjustAll_cons, ← adjustAll_adjust_comm apart.1, ih some_.2 apart.2,
      adjust_const_adjust (Ne.symm some_.1)]

/-- What stood at a path is put back over the changes at other paths. -/
theorem set_adjustAll {paths : List (List κ)} (some_ : p ≠ []) (apart : ∀ q ∈ paths, Apart p q) {value : α}
    (distinct : nest.Distinct p entries) (held : nest.lookup p entries = some value) :
    nest.set p value (nest.adjustAll change paths (nest.adjust change p entries)) =
      nest.adjustAll change paths entries := by
  have reads : nest.lookup p (nest.adjustAll change paths (nest.adjust change p entries)) =
      some ((change value).getD value) := by
    rw [lookup_adjustAll_apart fun q member => (apart q member).symm, lookup_adjust_self some_, held, Option.map_some]
  have whole : nest.adjust (fun _ => some value) p (nest.adjustAll change paths (nest.adjust change p entries)) =
      nest.set p value (nest.adjustAll change paths (nest.adjust change p entries)) :=
    adjust_of_some (by rw [reads]; rfl)
  have first : nest.adjust (fun _ => some value) p entries = nest.set p value entries :=
    adjust_of_some (by rw [held]; rfl)
  rw [← whole, ← adjustAll_adjust_comm apart, adjust_const_adjust some_, first, set_held distinct held]

/-- Changes at some paths undone by what stood there. -/
theorem restoreAll_adjustAll {paths : List (List κ)} (some_ : [] ∉ paths) (apart : paths.Pairwise Apart)
    (distinct : ∀ p ∈ paths, nest.Distinct p entries) :
    nest.restoreAll entries paths (nest.adjustAll change paths entries) = entries := by
  induction paths with
  | nil => rfl
  | cons p paths ih =>
    rw [List.pairwise_cons] at apart
    rw [List.mem_cons, not_or] at some_
    have later := ih some_.2 apart.2 fun q member => distinct q (List.mem_cons_of_mem _ member)
    rw [restoreAll_cons, adjustAll_cons, Nest.restore]
    cases held : nest.lookup p entries with
    | none =>
      rw [adjust_of_none (by rw [held]; rfl)]
      exact later
    | some value =>
      dsimp only
      rw [set_adjustAll (Ne.symm some_.1) apart.1 (distinct p List.mem_cons_self) held]
      exact later

theorem restoreAll_congr {paths : List (List κ)} {a b : List (κ × α)}
    (same : ∀ p ∈ paths, nest.lookup p a = nest.lookup p b) : nest.restoreAll a paths entries = nest.restoreAll b paths entries := by
  induction paths generalizing entries with
  | nil => rfl
  | cons p paths ih =>
    rw [restoreAll_cons, restoreAll_cons, Nest.restore, Nest.restore, same p List.mem_cons_self]
    exact ih fun q member => same q (List.mem_cons_of_mem _ member)

/-- Maps that agree at the paths and, those blanked, everywhere are one. -/
theorem eq_of_blanked {paths : List (List κ)} (some_ : [] ∉ paths) (apart : paths.Pairwise Apart) {a b : List (κ × α)}
    (distinctA : ∀ p ∈ paths, nest.Distinct p a) (distinctB : ∀ p ∈ paths, nest.Distinct p b) (blank : α)
    (outside : nest.adjustAll (fun _ => some blank) paths a = nest.adjustAll (fun _ => some blank) paths b)
    (same : ∀ p ∈ paths, nest.lookup p a = nest.lookup p b) : a = b := by
  calc a = nest.restoreAll a paths (nest.adjustAll (fun _ => some blank) paths a) :=
        (restoreAll_adjustAll some_ apart distinctA).symm
    _ = nest.restoreAll b paths (nest.adjustAll (fun _ => some blank) paths b) := by
        rw [outside]
        exact restoreAll_congr same
    _ = b := restoreAll_adjustAll some_ apart distinctB

end Adjust

end VodogeCloud.Lib.NestedMaps
