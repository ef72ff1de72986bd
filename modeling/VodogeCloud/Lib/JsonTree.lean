import Mathlib.Data.List.Nodup
import Mathlib.Data.List.Perm.Basic
import VodogeCloud.Lib.PairedLists

/-!
# JSON trees

Documents over any type of numbers and any type of strings, so that spellings, code points
and decoded texts are trees of one kind. Two trees are the same document when their objects
hold the same entries in some order.
-/

set_option autoImplicit false

namespace VodogeCloud.Lib

open VodogeCloud.Lib.PairedLists

/-- A JSON document with numbers in `ν` and strings in `σ`. -/
inductive JsonTree (ν σ : Type) where
  | null
  | bool (value : Bool)
  | num (value : ν)
  | str (text : σ)
  | arr (items : List (JsonTree ν σ))
  | obj (fields : List (σ × JsonTree ν σ))

namespace JsonTree

variable {ν σ τ υ : Type}

/-! ## Induction -/

/-- The cases of an induction over the tree, the parts given by membership. -/
structure Cases (motive : JsonTree ν σ → Prop) : Prop where
  null : motive .null
  bool : ∀ value, motive (.bool value)
  num : ∀ value, motive (.num value)
  str : ∀ text, motive (.str text)
  arr : ∀ items, (∀ item ∈ items, motive item) → motive (.arr items)
  obj : ∀ fields, (∀ field ∈ fields, motive field.2) → motive (.obj fields)

mutual

theorem Cases.all {motive : JsonTree ν σ → Prop} (cases_ : Cases motive) : ∀ tree, motive tree
  | .null => cases_.null
  | .bool value => cases_.bool value
  | .num value => cases_.num value
  | .str text => cases_.str text
  | .arr items => cases_.arr items (cases_.allItems items)
  | .obj fields => cases_.obj fields (cases_.allFields fields)

theorem Cases.allItems {motive : JsonTree ν σ → Prop} (cases_ : Cases motive) :
    ∀ items : List (JsonTree ν σ), ∀ item ∈ items, motive item
  | [], _, member => nomatch member
  | item :: rest, other, member =>
    (List.mem_cons.mp member).elim (fun same => same ▸ cases_.all item) (cases_.allItems rest other)

theorem Cases.allFields {motive : JsonTree ν σ → Prop} (cases_ : Cases motive) :
    ∀ fields : List (σ × JsonTree ν σ), ∀ field ∈ fields, motive field.2
  | [], _, member => nomatch member
  | (_, item) :: rest, other, member =>
    (List.mem_cons.mp member).elim (fun same => same ▸ cases_.all item) (cases_.allFields rest other)

end

@[induction_eliminator]
theorem induction {motive : JsonTree ν σ → Prop} (null : motive .null) (bool : ∀ value, motive (.bool value))
    (num : ∀ value, motive (.num value)) (str : ∀ text, motive (.str text))
    (arr : ∀ items, (∀ item ∈ items, motive item) → motive (.arr items))
    (obj : ∀ fields, (∀ field ∈ fields, motive field.2) → motive (.obj fields)) (tree : JsonTree ν σ) :
    motive tree :=
  Cases.all ⟨null, bool, num, str, arr, obj⟩ tree

/-! ## Strings replaced, strings tested, depth -/

mutual

/-- Every string and every key through `f`. -/
def map (f : σ → τ) : JsonTree ν σ → JsonTree ν τ
  | .null => .null
  | .bool value => .bool value
  | .num value => .num value
  | .str text => .str (f text)
  | .arr items => .arr (mapItems f items)
  | .obj fields => .obj (mapFields f fields)

def mapItems (f : σ → τ) : List (JsonTree ν σ) → List (JsonTree ν τ)
  | [] => []
  | item :: rest => item.map f :: mapItems f rest

def mapFields (f : σ → τ) : List (σ × JsonTree ν σ) → List (τ × JsonTree ν τ)
  | [] => []
  | (key, item) :: rest => (f key, item.map f) :: mapFields f rest

end

theorem mapItems_eq (f : σ → τ) (items : List (JsonTree ν σ)) : mapItems f items = items.map (map f) := by
  induction items with
  | nil => rfl
  | cons item rest ih => exact congrArg _ ih

theorem mapFields_eq (f : σ → τ) (fields : List (σ × JsonTree ν σ)) :
    mapFields f fields = fields.map (Prod.map f (map f)) := by
  induction fields with
  | nil => rfl
  | cons field rest ih => exact congrArg _ ih

@[simp] theorem map_arr (f : σ → τ) (items : List (JsonTree ν σ)) :
    (arr items).map f = .arr (items.map (map f)) :=
  congrArg arr (mapItems_eq f items)

@[simp] theorem map_obj (f : σ → τ) (fields : List (σ × JsonTree ν σ)) :
    (obj fields).map f = .obj (fields.map (Prod.map f (map f))) :=
  congrArg obj (mapFields_eq f fields)

mutual

/-- Some string or key passes the test. -/
def any (p : σ → Bool) : JsonTree ν σ → Bool
  | .str text => p text
  | .arr items => anyItems p items
  | .obj fields => anyFields p fields
  | _ => false

def anyItems (p : σ → Bool) : List (JsonTree ν σ) → Bool
  | [] => false
  | item :: rest => item.any p || anyItems p rest

def anyFields (p : σ → Bool) : List (σ × JsonTree ν σ) → Bool
  | [] => false
  | (key, item) :: rest => p key || item.any p || anyFields p rest

end

theorem anyItems_eq (p : σ → Bool) (items : List (JsonTree ν σ)) :
    anyItems p items = items.any fun item => item.any p := by
  induction items with
  | nil => rfl
  | cons item rest ih => exact congrArg _ ih

theorem anyFields_eq (p : σ → Bool) (fields : List (σ × JsonTree ν σ)) :
    anyFields p fields = fields.any fun field => p field.1 || field.2.any p := by
  induction fields with
  | nil => rfl
  | cons field rest ih => exact congrArg _ ih

@[simp] theorem any_arr (p : σ → Bool) (items : List (JsonTree ν σ)) :
    (arr items).any p = items.any fun item => item.any p :=
  anyItems_eq p items

@[simp] theorem any_obj (p : σ → Bool) (fields : List (σ × JsonTree ν σ)) :
    (obj fields).any p = fields.any fun field => p field.1 || field.2.any p :=
  anyFields_eq p fields

mutual

/-- How many arrays and objects are open at once. -/
def nesting : JsonTree ν σ → Nat
  | .arr items => nestingItems items + 1
  | .obj fields => nestingFields fields + 1
  | _ => 0

def nestingItems : List (JsonTree ν σ) → Nat
  | [] => 0
  | item :: rest => max item.nesting (nestingItems rest)

def nestingFields : List (σ × JsonTree ν σ) → Nat
  | [] => 0
  | (_, item) :: rest => max item.nesting (nestingFields rest)

end

mutual

/-- No object has a key twice. -/
def DistinctKeys : JsonTree ν σ → Prop
  | .arr items => DistinctItems items
  | .obj fields => (fields.map Prod.fst).Nodup ∧ DistinctFields fields
  | _ => True

def DistinctItems : List (JsonTree ν σ) → Prop
  | [] => True
  | item :: rest => item.DistinctKeys ∧ DistinctItems rest

def DistinctFields : List (σ × JsonTree ν σ) → Prop
  | [] => True
  | (_, item) :: rest => item.DistinctKeys ∧ DistinctFields rest

end

theorem distinctItems_iff (items : List (JsonTree ν σ)) :
    DistinctItems items ↔ ∀ item ∈ items, item.DistinctKeys := by
  induction items with
  | nil => simp [DistinctItems]
  | cons item rest ih => simp [DistinctItems, ih]

theorem distinctFields_iff (fields : List (σ × JsonTree ν σ)) :
    DistinctFields fields ↔ ∀ field ∈ fields, field.2.DistinctKeys := by
  induction fields with
  | nil => simp [DistinctFields]
  | cons field rest ih => simp [DistinctFields, ih]

@[simp] theorem distinctKeys_arr (items : List (JsonTree ν σ)) :
    (arr items).DistinctKeys ↔ ∀ item ∈ items, item.DistinctKeys :=
  distinctItems_iff items

@[simp] theorem distinctKeys_obj (fields : List (σ × JsonTree ν σ)) :
    (obj fields).DistinctKeys ↔ (fields.map Prod.fst).Nodup ∧ ∀ field ∈ fields, field.2.DistinctKeys :=
  and_congr_right fun _ => distinctFields_iff fields

/-! ## Laws of the replacement -/

theorem map_map (f : σ → τ) (g : τ → υ) (tree : JsonTree ν σ) : (tree.map f).map g = tree.map (g ∘ f) := by
  induction tree with
  | null | bool | num | str => rfl
  | arr items ih =>
    rw [map_arr, map_arr, map_arr, List.map_map]
    exact congrArg _ (List.map_congr_left ih)
  | obj fields ih =>
    rw [map_obj, map_obj, map_obj, List.map_map]
    exact congrArg _ (List.map_congr_left fun field member => congrArg _ (ih field member))

/-- A replacement that leaves alone what fails a test leaves a tree without a hit. -/
theorem map_eq_self {f : σ → σ} {p : σ → Bool} (same : ∀ text, p text = false → f text = text)
    {tree : JsonTree ν σ} (none_ : tree.any p = false) : tree.map f = tree := by
  induction tree with
  | null | bool | num => rfl
  | str text => exact congrArg _ (same text none_)
  | arr items ih =>
    rw [any_arr, List.any_eq_false] at none_
    rw [map_arr, List.map_congr_left fun item member => ih item member (by simpa using none_ item member),
      List.map_id']
  | obj fields ih =>
    rw [any_obj, List.any_eq_false] at none_
    have each : ∀ field ∈ fields, Prod.map f (map f) field = field := by
      intro field member
      have own := none_ field member
      rw [Bool.not_eq_true, Bool.or_eq_false_iff] at own
      exact Prod.ext (same field.1 own.1) (ih field member own.2)
    rw [map_obj, List.map_congr_left each, List.map_id']

theorem any_map (f : σ → τ) (p : τ → Bool) (tree : JsonTree ν σ) : (tree.map f).any p = tree.any (p ∘ f) := by
  induction tree with
  | null | bool | num | str => rfl
  | arr items ih =>
    rw [map_arr, any_arr, any_arr, List.any_map, Bool.eq_iff_iff, List.any_eq_true, List.any_eq_true]
    exact exists_congr fun item => and_congr_right fun member => by rw [Function.comp_apply, ih item member]
  | obj fields ih =>
    rw [map_obj, any_obj, any_obj, List.any_map, Bool.eq_iff_iff, List.any_eq_true, List.any_eq_true]
    refine exists_congr fun field => and_congr_right fun member => ?_
    rw [Function.comp_apply, Prod.map_fst, Prod.map_snd, ih field member, Function.comp_apply]

theorem any_never {p : σ → Bool} (never : ∀ text, p text = false) (tree : JsonTree ν σ) : tree.any p = false := by
  induction tree with
  | null | bool | num => rfl
  | str text => exact never text
  | arr items ih =>
    rw [any_arr, List.any_eq_false]
    exact fun item member => Bool.not_eq_true _ ▸ ih item member
  | obj fields ih =>
    rw [any_obj, List.any_eq_false]
    intro field member
    rw [never, ih field member]
    exact Bool.false_ne_true

theorem DistinctKeys.along {f : σ → τ} (injective : Function.Injective f) {tree : JsonTree ν σ}
    (distinct : tree.DistinctKeys) : (tree.map f).DistinctKeys := by
  induction tree with
  | null | bool | num | str => trivial
  | arr items ih =>
    rw [distinctKeys_arr] at distinct
    rw [map_arr, distinctKeys_arr, List.forall_mem_map]
    exact fun item member => ih item member (distinct item member)
  | obj fields ih =>
    rw [distinctKeys_obj] at distinct
    rw [map_obj, distinctKeys_obj, List.forall_mem_map]
    refine ⟨?_, fun field member => ih field member (distinct.2 field member)⟩
    have keys := distinct.1.map injective
    rw [List.map_map] at keys ⊢
    exact keys

theorem DistinctKeys.of_map {f : σ → τ} {tree : JsonTree ν σ} (distinct : (tree.map f).DistinctKeys) :
    tree.DistinctKeys := by
  induction tree with
  | null | bool | num | str => trivial
  | arr items ih =>
    rw [map_arr, distinctKeys_arr, List.forall_mem_map] at distinct
    exact (distinctKeys_arr items).mpr fun item member => ih item member (distinct item member)
  | obj fields ih =>
    rw [map_obj, distinctKeys_obj, List.forall_mem_map, List.map_map] at distinct
    refine (distinctKeys_obj fields).mpr ⟨?_, fun field member => ih field member (distinct.2 field member)⟩
    have keys : fields.map (Prod.fst ∘ Prod.map f (map f)) = (fields.map Prod.fst).map f := by
      rw [List.map_map]
      rfl
    exact List.Nodup.of_map f (keys ▸ distinct.1)

/-! ## The same document -/

mutual

/-- Equal up to the order of the entries of each object. -/
def Same : JsonTree ν σ → JsonTree ν σ → Prop
  | .arr items, .arr others => SameItems items others
  | .obj fields, .obj others => ∃ ordered, SameFields fields ordered ∧ ordered.Perm others
  | .null, .null => True
  | .bool value, .bool other => value = other
  | .num value, .num other => value = other
  | .str text, .str other => text = other
  | _, _ => False

def SameItems : List (JsonTree ν σ) → List (JsonTree ν σ) → Prop
  | [], [] => True
  | item :: rest, other :: others => item.Same other ∧ SameItems rest others
  | _, _ => False

def SameFields : List (σ × JsonTree ν σ) → List (σ × JsonTree ν σ) → Prop
  | [], [] => True
  | (key, item) :: rest, other :: others => (key = other.1 ∧ item.Same other.2) ∧ SameFields rest others
  | _, _ => False

end

/-- One entry as another. -/
def SameField (field other : σ × JsonTree ν σ) : Prop := field.1 = other.1 ∧ field.2.Same other.2

theorem sameItems_iff (items others : List (JsonTree ν σ)) :
    SameItems items others ↔ List.Forall₂ Same items others := by
  induction items generalizing others with
  | nil => cases others <;> simp [SameItems]
  | cons item rest ih => cases others <;> simp [SameItems, ih]

theorem sameFields_iff (fields others : List (σ × JsonTree ν σ)) :
    SameFields fields others ↔ List.Forall₂ SameField fields others := by
  induction fields generalizing others with
  | nil => cases others <;> simp [SameFields]
  | cons field rest ih => cases others <;> simp [SameFields, SameField, ih]

theorem same_arr (items others : List (JsonTree ν σ)) :
    (arr items).Same (arr others) ↔ List.Forall₂ Same items others :=
  sameItems_iff items others

theorem same_obj (fields others : List (σ × JsonTree ν σ)) :
    (obj fields).Same (obj others) ↔ ∃ ordered, List.Forall₂ SameField fields ordered ∧ ordered.Perm others :=
  exists_congr fun ordered => and_congr_left fun _ => sameFields_iff fields ordered

theorem Same.refl (tree : JsonTree ν σ) : tree.Same tree := by
  induction tree with
  | null => trivial
  | bool | num | str => rfl
  | arr items ih => exact (same_arr items items).mpr (List.forall₂_same.mpr ih)
  | obj fields ih =>
    refine (same_obj fields fields).mpr ⟨fields, List.forall₂_same.mpr fun field member => ?_, List.Perm.refl _⟩
    exact ⟨rfl, ih field member⟩

/-- The shapes two trees that are the same can have. -/
theorem Same.arr_right {items : List (JsonTree ν σ)} {other : JsonTree ν σ} (same : (arr items).Same other) :
    ∃ others, other = arr others ∧ List.Forall₂ Same items others := by
  cases other with
  | arr others => exact ⟨others, rfl, (same_arr items others).mp same⟩
  | _ => exact same.elim

theorem Same.obj_right {fields : List (σ × JsonTree ν σ)} {other : JsonTree ν σ} (same : (obj fields).Same other) :
    ∃ others ordered, other = obj others ∧ List.Forall₂ SameField fields ordered ∧ ordered.Perm others := by
  cases other with
  | obj others =>
    obtain ⟨ordered, each, permuted⟩ := (same_obj fields others).mp same
    exact ⟨others, ordered, rfl, each, permuted⟩
  | _ => exact same.elim

theorem Same.trans {first second third : JsonTree ν σ} (same : first.Same second) (next : second.Same third) :
    first.Same third := by
  induction first generalizing second third with
  | null | bool | num | str =>
    cases second <;> first | exact same.elim | skip
    cases third <;> first | exact next.elim | exact Eq.trans same next | trivial
  | arr items ih =>
    obtain ⟨others, rfl, each⟩ := same.arr_right
    obtain ⟨thirds, rfl, also⟩ := next.arr_right
    exact (same_arr items thirds).mpr (trans_paired each also fun item member _ _ => ih item member)
  | obj fields ih =>
    obtain ⟨others, ordered, rfl, each, permuted⟩ := same.obj_right
    obtain ⟨thirds, further, rfl, also, again⟩ := next.obj_right
    obtain ⟨moved, alike, order⟩ := List.perm_comp_forall₂ permuted also
    refine (same_obj fields thirds).mpr ⟨moved, ?_, order.trans again⟩
    refine trans_paired each alike fun field member _ _ one two => ?_
    exact ⟨one.1.trans two.1, ih field member one.2 two.2⟩

theorem Same.map (f : σ → τ) {first second : JsonTree ν σ} (same : first.Same second) :
    (first.map f).Same (second.map f) := by
  induction first generalizing second with
  | null | bool | num =>
    cases second <;> first | exact same.elim | exact same
  | str =>
    cases second <;> first | exact same.elim | exact congrArg f same
  | arr items ih =>
    obtain ⟨others, rfl, each⟩ := same.arr_right
    rw [map_arr, map_arr, same_arr, List.forall₂_map_left_iff, List.forall₂_map_right_iff]
    exact ((List.forall₂_and_left _ _).mpr ⟨ih, each⟩).imp fun _ _ both => both.1 both.2
  | obj fields ih =>
    obtain ⟨others, ordered, rfl, each, permuted⟩ := same.obj_right
    rw [map_obj, map_obj, same_obj]
    refine ⟨ordered.map (Prod.map f (JsonTree.map f)), ?_, permuted.map _⟩
    rw [List.forall₂_map_left_iff, List.forall₂_map_right_iff]
    exact ((List.forall₂_and_left _ _).mpr ⟨ih, each⟩).imp fun _ _ both => ⟨congrArg f both.2.1, both.1 both.2.2⟩

theorem Same.any_eq (p : σ → Bool) {first second : JsonTree ν σ} (same : first.Same second) :
    first.any p = second.any p := by
  induction first generalizing second with
  | null | bool | num =>
    cases second <;> first | exact same.elim | rfl
  | str =>
    cases second <;> first | exact same.elim | exact congrArg p same
  | arr items ih =>
    obtain ⟨others, rfl, each⟩ := same.arr_right
    rw [any_arr, any_arr]
    exact any_paired each fun item member _ => ih item member
  | obj fields ih =>
    obtain ⟨others, ordered, rfl, each, permuted⟩ := same.obj_right
    rw [any_obj, any_obj, ← permuted.any_eq]
    refine any_paired each fun field member other alike => ?_
    rw [alike.1, ih field member alike.2]

/-- Distinct keys carry over to a document that is the same. -/
theorem Same.distinct {first second : JsonTree ν σ} (same : first.Same second) :
    first.DistinctKeys ↔ second.DistinctKeys := by
  induction first generalizing second with
  | null | bool | num | str =>
    cases second <;> first | exact same.elim | exact Iff.rfl
  | arr items ih =>
    obtain ⟨others, rfl, each⟩ := same.arr_right
    rw [distinctKeys_arr, distinctKeys_arr]
    exact forall_paired each fun item member _ => ih item member
  | obj fields ih =>
    obtain ⟨others, ordered, rfl, each, permuted⟩ := same.obj_right
    have keys : fields.map Prod.fst = ordered.map Prod.fst :=
      List.forall₂_eq_eq_eq ▸ map_paired (fun _ _ alike => alike.1) each
    rw [distinctKeys_obj, distinctKeys_obj, keys, (permuted.map Prod.fst).nodup_iff]
    refine and_congr_right fun _ => (forall_paired each fun field member other alike => ih field member alike.2).trans ?_
    exact forall_congr' fun field => imp_congr_left permuted.mem_iff

end JsonTree

end VodogeCloud.Lib
