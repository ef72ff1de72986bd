import VodogeCloud.Guarantees.RedactedCopies
import VodogeCloud.Source.Settings

/-!
# Settings redacted in a copy

`Redact` on the heap against `Redact` on documents. The copy is a tree: every map and slice
of it lies in an interval of the heap that it shares with nothing, so a write below one key
shows nowhere else.
-/

set_option autoImplicit false

namespace VodogeCloud.Guarantees.SettingsCopies

open VodogeCloud.Lib.NestedMaps
open VodogeCloud.Source.Postgres VodogeCloud.Source.CommandRedaction
open VodogeCloud.Source.CardDelivery (anyOf anyFields anyItems)
open VodogeCloud.Source.Settings
open VodogeCloud.Guarantees.RedactedCopies

/-! ## Trees -/

mutual

/-- A value stands for a document in the places from `lo` to before `hi` of the heap. -/
def Holds (heap : Heap) : Nat → Nat → GoValue → Jsonb → Prop
  | lo, hi, .plain value, document => lo ≤ hi ∧ value = document ∧ isScalar document = true
  | lo, hi, .map ref, .obj document => lo ≤ ref ∧ ref < hi ∧
    ∃ fields, heap[ref]? = some (.map fields) ∧ (fields.map Prod.fst).Nodup ∧ HoldsFields heap lo ref fields document
  | lo, hi, .slice ref, .arr documents => lo ≤ ref ∧ ref < hi ∧
    ∃ items, heap[ref]? = some (.slice items) ∧ HoldsItems heap lo ref items documents
  | _, _, _, _ => False

def HoldsFields (heap : Heap) : Nat → Nat → List (String × GoValue) → List (String × Jsonb) → Prop
  | lo, hi, [], [] => lo ≤ hi
  | lo, hi, (key, value) :: fields, (name, document) :: documents =>
    key = name ∧ ∃ mid, Holds heap lo mid value document ∧ HoldsFields heap mid hi fields documents
  | _, _, _, _ => False

def HoldsItems (heap : Heap) : Nat → Nat → List GoValue → List Jsonb → Prop
  | lo, hi, [], [] => lo ≤ hi
  | lo, hi, value :: items, document :: documents =>
    ∃ mid, Holds heap lo mid value document ∧ HoldsItems heap mid hi items documents
  | _, _, _, _ => False

end

/-- The heaps agree from `lo` to before `hi`. -/
def Same (lo hi : Nat) (heap heap' : Heap) : Prop := ∀ ref, lo ≤ ref → ref < hi → heap'[ref]? = heap[ref]?

theorem Same.within {lo hi lo' hi' : Nat} {heap heap' : Heap} (same : Same lo hi heap heap') (low : lo ≤ lo')
    (high : hi' ≤ hi) : Same lo' hi' heap heap' :=
  fun ref above below => same ref (Nat.le_trans low above) (Nat.lt_of_lt_of_le below high)

mutual

theorem holds_le {heap : Heap} : ∀ {document : Jsonb} {lo hi : Nat} {value : GoValue},
    Holds heap lo hi value document → lo ≤ hi
  | _, lo, hi, .plain value, holds => by
    unfold Holds at holds
    exact holds.1
  | .obj document, lo, hi, .map ref, holds => by
    unfold Holds at holds
    omega
  | .arr documents, lo, hi, .slice ref, holds => by
    unfold Holds at holds
    omega
  | .null, _, _, .map _, holds | .bool _, _, _, .map _, holds | .num _, _, _, .map _, holds
  | .str _, _, _, .map _, holds | .arr _, _, _, .map _, holds | .null, _, _, .slice _, holds
  | .bool _, _, _, .slice _, holds | .num _, _, _, .slice _, holds | .str _, _, _, .slice _, holds
  | .obj _, _, _, .slice _, holds => by simp [Holds] at holds

theorem holdsFields_le {heap : Heap} : ∀ {documents : List (String × Jsonb)} {lo hi : Nat}
    {fields : List (String × GoValue)}, HoldsFields heap lo hi fields documents → lo ≤ hi
  | [], _, _, [], holds => by
    unfold HoldsFields at holds
    exact holds
  | (_, _) :: _, _, _, (_, _) :: _, ⟨_, _, first, rest⟩ => Nat.le_trans (holds_le first) (holdsFields_le rest)
  | [], _, _, _ :: _, holds => by simp [HoldsFields] at holds
  | _ :: _, _, _, [], holds => by simp [HoldsFields] at holds

theorem holdsItems_le {heap : Heap} : ∀ {documents : List Jsonb} {lo hi : Nat} {items : List GoValue},
    HoldsItems heap lo hi items documents → lo ≤ hi
  | [], _, _, [], holds => by
    unfold HoldsItems at holds
    exact holds
  | _ :: _, _, _, _ :: _, ⟨_, first, rest⟩ => Nat.le_trans (holds_le first) (holdsItems_le rest)
  | [], _, _, _ :: _, holds => by simp [HoldsItems] at holds
  | _ :: _, _, _, [], holds => by simp [HoldsItems] at holds

end

mutual

/-- What a tree says of the heap is about its own places. -/
theorem holds_frame {heap heap' : Heap} : ∀ (document : Jsonb) (lo hi : Nat) (value : GoValue),
    Same lo hi heap heap' → Holds heap lo hi value document → Holds heap' lo hi value document
  | _, lo, hi, .plain value, same, holds => by
    unfold Holds at holds ⊢
    exact holds
  | .obj document, lo, hi, .map ref, same, holds => by
    unfold Holds at holds ⊢
    obtain ⟨low, high, fields, found, distinct, each⟩ := holds
    exact ⟨low, high, fields, (same ref low high).trans found, distinct,
      holdsFields_frame document lo ref fields (same.within (Nat.le_refl _) (Nat.le_of_lt high)) each⟩
  | .arr documents, lo, hi, .slice ref, same, holds => by
    unfold Holds at holds ⊢
    obtain ⟨low, high, items, found, each⟩ := holds
    exact ⟨low, high, items, (same ref low high).trans found,
      holdsItems_frame documents lo ref items (same.within (Nat.le_refl _) (Nat.le_of_lt high)) each⟩
  | .null, _, _, .map _, _, holds | .bool _, _, _, .map _, _, holds | .num _, _, _, .map _, _, holds
  | .str _, _, _, .map _, _, holds | .arr _, _, _, .map _, _, holds | .null, _, _, .slice _, _, holds
  | .bool _, _, _, .slice _, _, holds | .num _, _, _, .slice _, _, holds | .str _, _, _, .slice _, _, holds
  | .obj _, _, _, .slice _, _, holds => by simp [Holds] at holds

theorem holdsFields_frame {heap heap' : Heap} : ∀ (documents : List (String × Jsonb)) (lo hi : Nat)
    (fields : List (String × GoValue)), Same lo hi heap heap' → HoldsFields heap lo hi fields documents →
      HoldsFields heap' lo hi fields documents
  | [], _, _, [], _, holds => by
    unfold HoldsFields at holds ⊢
    exact holds
  | (_, document) :: documents, lo, hi, (_, value) :: fields, same, ⟨named, mid, first, rest⟩ =>
    ⟨named, mid, holds_frame document lo mid value (same.within (Nat.le_refl _) (holdsFields_le rest)) first,
      holdsFields_frame documents mid hi fields (same.within (holds_le first) (Nat.le_refl _)) rest⟩
  | [], _, _, _ :: _, _, holds => by simp [HoldsFields] at holds
  | _ :: _, _, _, [], _, holds => by simp [HoldsFields] at holds

theorem holdsItems_frame {heap heap' : Heap} : ∀ (documents : List Jsonb) (lo hi : Nat) (items : List GoValue),
    Same lo hi heap heap' → HoldsItems heap lo hi items documents → HoldsItems heap' lo hi items documents
  | [], _, _, [], _, holds => by
    unfold HoldsItems at holds ⊢
    exact holds
  | document :: documents, lo, hi, value :: items, same, ⟨mid, first, rest⟩ =>
    ⟨mid, holds_frame document lo mid value (same.within (Nat.le_refl _) (holdsItems_le rest)) first,
      holdsItems_frame documents mid hi items (same.within (holds_le first) (Nat.le_refl _)) rest⟩
  | [], _, _, _ :: _, _, holds => by simp [HoldsItems] at holds
  | _ :: _, _, _, [], _, holds => by simp [HoldsItems] at holds

end

mutual

theorem holds_reads {heap : Heap} {bound : Nat} : ∀ (document : Jsonb) (lo hi : Nat) (value : GoValue),
    bound ≤ lo → Holds heap lo hi value document → Reads (bound ≤ ·) heap value document
  | _, _, _, .plain value, _, holds => by
    unfold Holds at holds
    unfold Reads
    exact holds.2
  | .obj document, lo, _, .map ref, inside, holds => by
    unfold Holds at holds
    unfold Reads
    obtain ⟨low, _, fields, found, distinct, each⟩ := holds
    exact ⟨Nat.le_trans inside low, fields, found, distinct, holdsFields_reads document lo ref fields inside each⟩
  | .arr documents, lo, _, .slice ref, inside, holds => by
    unfold Holds at holds
    unfold Reads
    obtain ⟨low, _, items, found, each⟩ := holds
    exact ⟨Nat.le_trans inside low, items, found, holdsItems_reads documents lo ref items inside each⟩
  | .null, _, _, .map _, _, holds | .bool _, _, _, .map _, _, holds | .num _, _, _, .map _, _, holds
  | .str _, _, _, .map _, _, holds | .arr _, _, _, .map _, _, holds | .null, _, _, .slice _, _, holds
  | .bool _, _, _, .slice _, _, holds | .num _, _, _, .slice _, _, holds | .str _, _, _, .slice _, _, holds
  | .obj _, _, _, .slice _, _, holds => by simp [Holds] at holds

theorem holdsFields_reads {heap : Heap} {bound : Nat} : ∀ (documents : List (String × Jsonb)) (lo hi : Nat)
    (fields : List (String × GoValue)), bound ≤ lo → HoldsFields heap lo hi fields documents →
      ReadsFields (bound ≤ ·) heap fields documents
  | [], _, _, [], _, _ => trivial
  | (_, document) :: documents, lo, hi, (_, value) :: fields, inside, ⟨named, mid, first, rest⟩ =>
    ⟨named, holds_reads document lo mid value inside first,
      holdsFields_reads documents mid hi fields (Nat.le_trans inside (holds_le first)) rest⟩
  | [], _, _, _ :: _, _, holds => by simp [HoldsFields] at holds
  | _ :: _, _, _, [], _, holds => by simp [HoldsFields] at holds

theorem holdsItems_reads {heap : Heap} {bound : Nat} : ∀ (documents : List Jsonb) (lo hi : Nat) (items : List GoValue),
    bound ≤ lo → HoldsItems heap lo hi items documents → ReadsItems (bound ≤ ·) heap items documents
  | [], _, _, [], _, _ => trivial
  | document :: documents, lo, hi, value :: items, inside, ⟨mid, first, rest⟩ =>
    ⟨holds_reads document lo mid value inside first,
      holdsItems_reads documents mid hi items (Nat.le_trans inside (holds_le first)) rest⟩
  | [], _, _, _ :: _, _, holds => by simp [HoldsItems] at holds
  | _ :: _, _, _, [], _, holds => by simp [HoldsItems] at holds

end

/-! ## The copy -/

theorem mapM_found {α β : Type} {f : α → Option β} {items : List α} {images : List β}
    (each : List.Forall₂ (fun item image => f item = some image) items images) : items.mapM f = some images := by
  induction each with
  | nil => rfl
  | cons first _ ih => rw [List.mapM_cons, first, Option.bind_eq_bind, Option.bind_some, ih]; rfl

theorem encodes_fields {allowed : Nat → Prop} {heap : Heap} {visit : GoValue → Option Jsonb} :
    ∀ {documents : List (String × Jsonb)} {fields : List (String × GoValue)},
      (∀ entry ∈ documents, ∀ value, Reads allowed heap value entry.2 → visit value = some entry.2) →
      ReadsFields allowed heap fields documents →
      List.Forall₂ (fun (field : String × GoValue) image => (visit field.2).map (Prod.mk field.1) = some image)
        fields documents
  | [], [], _, _ => List.Forall₂.nil
  | (_, document) :: _, (_, value) :: _, visits, ⟨named, first, rest⟩ => by
    refine List.Forall₂.cons ?_ (encodes_fields (fun entry member => visits entry (List.mem_cons_of_mem _ member)) rest)
    dsimp only
    rw [visits _ List.mem_cons_self value first, Option.map_some, named]
  | [], _ :: _, _, reads => by simp [ReadsFields] at reads
  | _ :: _, [], _, reads => by simp [ReadsFields] at reads

theorem encodes_items {allowed : Nat → Prop} {heap : Heap} {visit : GoValue → Option Jsonb} :
    ∀ {documents : List Jsonb} {items : List GoValue},
      (∀ document ∈ documents, ∀ value, Reads allowed heap value document → visit value = some document) →
      ReadsItems allowed heap items documents → List.Forall₂ (fun item image => visit item = some image) items documents
  | [], [], _, _ => List.Forall₂.nil
  | _ :: _, value :: _, visits, ⟨first, rest⟩ =>
    List.Forall₂.cons (visits _ List.mem_cons_self value first)
      (encodes_items (fun document member => visits document (List.mem_cons_of_mem _ member)) rest)
  | [], _ :: _, _, reads => by simp [ReadsItems] at reads
  | _ :: _, [], _, reads => by simp [ReadsItems] at reads

/-- A value is encoded to the document it stands for. -/
theorem encode_reads {allowed : Nat → Prop} {heap : Heap} : ∀ (fuel : Nat) (document : Jsonb) (value : GoValue),
    sizeOf document < fuel → Reads allowed heap value document → encode fuel heap value = some document := by
  intro fuel
  induction fuel with
  | zero => intro document _ small; omega
  | succ fuel ih =>
    intro document value small reads
    cases value with
    | plain inner =>
      unfold Reads at reads
      rw [encode, reads.1]
    | map ref =>
      cases document with
      | obj documents =>
        unfold Reads at reads
        obtain ⟨_, fields, found, _, each⟩ := reads
        have visits : ∀ entry ∈ documents, ∀ value, Reads allowed heap value entry.2 →
            encode fuel heap value = some entry.2 := by
          intro entry member value readsValue
          refine ih entry.2 value ?_ readsValue
          have part := List.sizeOf_lt_of_mem member
          have whole : sizeOf (Jsonb.obj documents) = 1 + sizeOf documents := Jsonb.obj.sizeOf_spec documents
          have inner : sizeOf entry = 1 + sizeOf entry.1 + sizeOf entry.2 := rfl
          omega
        rw [encode, found]
        dsimp only
        rw [mapM_found (encodes_fields visits each), Option.map_some]
      | _ => simp [Reads] at reads
    | slice ref =>
      cases document with
      | arr documents =>
        unfold Reads at reads
        obtain ⟨_, items, found, each⟩ := reads
        have visits : ∀ document ∈ documents, ∀ value, Reads allowed heap value document →
            encode fuel heap value = some document := by
          intro document member value readsValue
          refine ih document value ?_ readsValue
          have part := List.sizeOf_lt_of_mem member
          have whole : sizeOf (Jsonb.arr documents) = 1 + sizeOf documents := Jsonb.arr.sizeOf_spec documents
          omega
        rw [encode, found]
        dsimp only
        rw [mapM_found (encodes_items visits each), Option.map_some]
      | _ => simp [Reads] at reads

theorem extends_trans {a b c : Heap} (first : Extends a b) (second : Extends b c) : Extends a c := by
  refine ⟨Nat.le_trans first.1 second.1, fun ref old => ?_⟩
  rw [second.2 ref (Nat.lt_of_lt_of_le old first.1), first.2 ref old]

theorem extends_append (heap : Heap) (object : Object) : Extends heap (heap ++ [object]) := by
  refine ⟨?_, fun ref old => List.getElem?_append_left old⟩
  rw [List.length_append]
  omega

theorem same_of_extends {lo : Nat} {heap heap' : Heap} (grows : Extends heap heap') : Same lo heap.length heap heap' :=
  fun ref _ below => grows.2 ref below

theorem fields_names {allowed : Nat → Prop} {heap : Heap} : ∀ {documents : List (String × Jsonb)}
    {fields : List (String × GoValue)}, ReadsFields allowed heap fields documents →
      fields.map Prod.fst = documents.map Prod.fst
  | [], [], _ => rfl
  | (_, _) :: _, (_, _) :: _, ⟨named, _, rest⟩ => by
    rw [List.map_cons, List.map_cons, fields_names rest, named]
  | [], _ :: _, reads => by simp [ReadsFields] at reads
  | _ :: _, [], reads => by simp [ReadsFields] at reads

mutual

/-- What is decoded is a tree of new objects. -/
theorem decode_holds {number : Rat → Option Rat} {allowed : Nat → Prop} {old : Heap} : ∀ (document : Jsonb) (value : GoValue)
    (heap : Heap), anyOf number document = some document → Reads allowed old value document →
      ∃ heap' copy, decode number heap document = some (heap', copy) ∧ Extends heap heap' ∧
        Holds heap' heap.length heap'.length copy document
  | .null, _, heap, _, _ => by
    refine ⟨heap, .plain .null, rfl, Extends.refl heap, ?_⟩
    unfold Holds
    exact ⟨Nat.le_refl _, rfl, rfl⟩
  | .bool flag, _, heap, _, _ => by
    refine ⟨heap, .plain (.bool flag), rfl, Extends.refl heap, ?_⟩
    unfold Holds
    exact ⟨Nat.le_refl _, rfl, rfl⟩
  | .num q, _, heap, plain, _ => by
    refine ⟨heap, .plain (.num q), ?_, Extends.refl heap, ?_⟩
    · rw [anyOf, Option.map_eq_some_iff] at plain
      obtain ⟨read, kept, same⟩ := plain
      cases same
      rw [decode, kept]
      rfl
    · unfold Holds
      exact ⟨Nat.le_refl _, rfl, rfl⟩
  | .str text, _, heap, _, _ => by
    refine ⟨heap, .plain (.str text), rfl, Extends.refl heap, ?_⟩
    unfold Holds
    exact ⟨Nat.le_refl _, rfl, rfl⟩
  | .arr documents, .slice ref, heap, plain, reads => by
    unfold Reads at reads
    obtain ⟨_, items, _, each⟩ := reads
    have kept : anyItems number documents = some documents := by
      rw [anyOf, Option.map_eq_some_iff] at plain
      obtain ⟨read, kept, same⟩ := plain
      cases same
      exact kept
    obtain ⟨heap', copies, run, grows, holds⟩ := decodeItems_holds documents items heap kept each
    refine ⟨heap' ++ [.slice copies], .slice heap'.length, ?_, extends_trans grows (extends_append _ _), ?_⟩
    · rw [decode, run]
      rfl
    · unfold Holds
      rw [List.length_append]
      exact ⟨grows.1, Nat.lt_succ_self _, copies, List.getElem?_concat_length,
        holdsItems_frame _ _ _ _ (same_of_extends (extends_append _ _)) holds⟩
  | .obj documents, .map ref, heap, plain, reads => by
    unfold Reads at reads
    obtain ⟨_, fields, _, distinct, each⟩ := reads
    have kept : anyFields number documents = some documents := by
      rw [anyOf, Option.map_eq_some_iff] at plain
      obtain ⟨read, kept, same⟩ := plain
      cases same
      exact kept
    obtain ⟨heap', copies, run, grows, holds⟩ := decodeFields_holds documents fields heap kept each
    refine ⟨heap' ++ [.map copies], .map heap'.length, ?_, extends_trans grows (extends_append _ _), ?_⟩
    · rw [decode, run]
      rfl
    · have names := fields_names (holdsFields_reads documents _ _ copies (Nat.le_refl _) holds)
      unfold Holds
      rw [List.length_append]
      refine ⟨grows.1, Nat.lt_succ_self _, copies, List.getElem?_concat_length, ?_,
        holdsFields_frame _ _ _ _ (same_of_extends (extends_append _ _)) holds⟩
      rwa [names, ← fields_names each]
  | .arr _, .plain _, _, _, reads | .obj _, .plain _, _, _, reads => by
    unfold Reads at reads
    cases reads.2
  | .arr _, .map _, _, _, reads | .obj _, .slice _, _, _, reads => by simp [Reads] at reads

theorem decodeItems_holds {number : Rat → Option Rat} {allowed : Nat → Prop} {old : Heap} : ∀ (documents : List Jsonb)
    (items : List GoValue) (heap : Heap), anyItems number documents = some documents →
      ReadsItems allowed old items documents →
      ∃ heap' copies, decodeItems number heap documents = some (heap', copies) ∧ Extends heap heap' ∧
        HoldsItems heap' heap.length heap'.length copies documents
  | [], _, heap, _, _ => by
    refine ⟨heap, [], rfl, Extends.refl heap, ?_⟩
    unfold HoldsItems
    exact Nat.le_refl _
  | document :: documents, value :: items, heap, plain, ⟨readsFirst, readsRest⟩ => by
    obtain ⟨first, rest⟩ : anyOf number document = some document ∧ anyItems number documents = some documents := by
      rw [anyItems] at plain
      obtain ⟨a, first, plain⟩ := Option.bind_eq_some_iff.mp plain
      obtain ⟨b, rest, same⟩ := Option.bind_eq_some_iff.mp plain
      cases same
      exact ⟨first, rest⟩
    obtain ⟨heap₁, copy, run₁, grows₁, holds₁⟩ := decode_holds document value heap first readsFirst
    obtain ⟨heap₂, copies, run₂, grows₂, holds₂⟩ := decodeItems_holds documents items heap₁ rest readsRest
    refine ⟨heap₂, copy :: copies, ?_, extends_trans grows₁ grows₂, ?_⟩
    · rw [decodeItems, run₁]
      simp only [Option.bind_eq_bind, Option.bind_some, run₂]
      rfl
    · unfold HoldsItems
      exact ⟨heap₁.length, holds_frame _ _ _ _ (same_of_extends grows₂) holds₁, holds₂⟩
  | _ :: _, [], _, _, reads => by simp [ReadsItems] at reads

theorem decodeFields_holds {number : Rat → Option Rat} {allowed : Nat → Prop} {old : Heap} :
    ∀ (documents : List (String × Jsonb)) (fields : List (String × GoValue)) (heap : Heap),
      anyFields number documents = some documents → ReadsFields allowed old fields documents →
      ∃ heap' copies, decodeFields number heap documents = some (heap', copies) ∧ Extends heap heap' ∧
        HoldsFields heap' heap.length heap'.length copies documents
  | [], _, heap, _, _ => by
    refine ⟨heap, [], rfl, Extends.refl heap, ?_⟩
    unfold HoldsFields
    exact Nat.le_refl _
  | (key, document) :: documents, (_, value) :: fields, heap, plain, ⟨_, readsFirst, readsRest⟩ => by
    obtain ⟨first, rest⟩ : anyOf number document = some document ∧ anyFields number documents = some documents := by
      rw [anyFields] at plain
      obtain ⟨a, first, plain⟩ := Option.bind_eq_some_iff.mp plain
      obtain ⟨b, rest, same⟩ := Option.bind_eq_some_iff.mp plain
      cases same
      exact ⟨first, rest⟩
    obtain ⟨heap₁, copy, run₁, grows₁, holds₁⟩ := decode_holds document value heap first readsFirst
    obtain ⟨heap₂, copies, run₂, grows₂, holds₂⟩ := decodeFields_holds documents fields heap₁ rest readsRest
    refine ⟨heap₂, (key, copy) :: copies, ?_, extends_trans grows₁ grows₂, ?_⟩
    · rw [decodeFields, run₁]
      simp only [Option.bind_eq_bind, Option.bind_some, run₂]
      rfl
    · unfold HoldsFields
      exact ⟨rfl, heap₁.length, holds_frame _ _ _ _ (same_of_extends grows₂) holds₁, holds₂⟩
  | _ :: _, [], _, _, reads => by simp [ReadsFields] at reads

end

/-! ## Reading and writing along a path -/

theorem entriesAt_of {heap : Heap} {ref : Nat} {fields : List (String × GoValue)}
    (found : heap[ref]? = some (.map fields)) : entriesAt heap ref = fields := by
  unfold entriesAt
  rw [found]

/-- Under one key of a map that stands for a document: nothing in both, or a value and what
it stands for. -/
theorem readsFields_get {allowed : Nat → Prop} {heap : Heap} (key : String) :
    ∀ {documents : List (String × Jsonb)} {fields : List (String × GoValue)}, ReadsFields allowed heap fields documents →
      get key fields = none ∧ get key documents = none ∨
        ∃ value document, get key fields = some value ∧ get key documents = some document ∧
          Reads allowed heap value document
  | [], [], _ => Or.inl ⟨rfl, rfl⟩
  | (_, document) :: documents, (name, value) :: fields, ⟨named, first, rest⟩ => by
    subst named
    rw [get_cons, get_cons]
    by_cases same : name = key
    · rw [if_pos same, if_pos same]
      exact Or.inr ⟨value, document, rfl, rfl, first⟩
    · rw [if_neg same, if_neg same]
      exact readsFields_get key rest
  | [], _ :: _, reads => by simp [ReadsFields] at reads
  | _ :: _, [], reads => by simp [ReadsFields] at reads

theorem reads_map {allowed : Nat → Prop} {heap : Heap} {ref : Nat} {document : Document}
    (reads : Reads allowed heap (.map ref) (.obj document)) :
    ((entriesAt heap ref).map Prod.fst).Nodup ∧ ReadsFields allowed heap (entriesAt heap ref) document := by
  unfold Reads at reads
  obtain ⟨_, fields, found, distinct, each⟩ := reads
  rw [entriesAt_of found]
  exact ⟨distinct, each⟩

/-- A value is a map on the heap where its document is one. -/
theorem asMap_of_reads {allowed : Nat → Prop} {heap : Heap} {value : GoValue} {document : Jsonb}
    (reads : Reads allowed heap value document) :
    asMap document = none ∧ (∀ inner, value ≠ .map inner) ∨
      ∃ inner fields, value = .map inner ∧ document = .obj fields := by
  cases value with
  | plain inner =>
    unfold Reads at reads
    cases document with
    | obj _ => cases reads.2
    | _ => exact Or.inl ⟨rfl, fun _ => nofun⟩
  | map ref =>
    cases document with
    | obj fields => exact Or.inr ⟨ref, fields, rfl, rfl⟩
    | _ => simp [Reads] at reads
  | slice ref =>
    cases document with
    | arr _ => exact Or.inl ⟨rfl, fun _ => nofun⟩
    | _ => simp [Reads] at reads

theorem lookupAt_reads {allowed : Nat → Prop} {heap : Heap} : ∀ {keys : List String} {ref : Nat} {document : Document},
    Reads allowed heap (.map ref) (.obj document) →
      lookupAt heap keys ref = none ∧ json.lookup keys document = none ∨
        ∃ value held, lookupAt heap keys ref = some value ∧ json.lookup keys document = some held ∧
          Reads allowed heap value held
  | [], _, _, _ => Or.inl ⟨rfl, rfl⟩
  | [key], ref, document, reads => readsFields_get key (reads_map reads).2
  | key :: next :: rest, ref, document, reads => by
    rw [lookupAt, Nest.lookup, Nest.into]
    rcases readsFields_get key (reads_map reads).2 with ⟨absent, none_⟩ | ⟨value, held, found, stood, inside⟩
    · rw [absent, none_]
      exact Or.inl ⟨rfl, rfl⟩
    · rw [found, stood, Option.bind_some]
      rcases asMap_of_reads inside with ⟨flat, other⟩ | ⟨inner, fields, rfl, rfl⟩
      · refine Or.inl ⟨?_, ?_⟩
        · cases value with
          | map inner => exact absurd rfl (other inner)
          | _ => rfl
        · show (asMap held).bind _ = none
          rw [flat, Option.bind_none]
      · exact lookupAt_reads inside

theorem textOf_reads {allowed : Nat → Prop} {heap : Heap} {value : GoValue} {document : Jsonb}
    (reads : Reads allowed heap value document) : textOf value = asString (some document) := by
  cases value with
  | plain inner =>
    unfold Reads at reads
    rw [← reads.1]
    cases inner with
    | str text => rfl
    | _ => rfl
  | map ref =>
    cases document with
    | obj fields => rfl
    | _ => simp [Reads] at reads
  | slice ref =>
    cases document with
    | arr _ => rfl
    | _ => simp [Reads] at reads

/-- A tree under one key, with room for another in its place. -/
theorem holdsFields_get {heap : Heap} (key : String) : ∀ {documents : List (String × Jsonb)}
    {fields : List (String × GoValue)} {lo hi : Nat} {document : Jsonb}, HoldsFields heap lo hi fields documents →
      (fields.map Prod.fst).Nodup → get key documents = some document →
      ∃ value from_ upto, get key fields = some value ∧ lo ≤ from_ ∧ upto ≤ hi ∧ Holds heap from_ upto value document ∧
        ∀ heap' value' document', Same lo from_ heap heap' → Same upto hi heap heap' →
          Holds heap' from_ upto value' document' →
          HoldsFields heap' lo hi (put key value' fields) (put key document' documents)
  | [], [], _, _, _, _, _, held => by cases held
  | (name, first) :: documents, (other, value) :: fields, lo, hi, document, holds, distinct, held => by
    unfold HoldsFields at holds
    obtain ⟨named, mid, holdsFirst, holdsRest⟩ := holds
    subst named
    rw [List.map_cons, List.nodup_cons] at distinct
    rw [get_cons] at held
    by_cases same : other = key
    · rw [if_pos same, Option.some.injEq] at held
      subst held same
      refine ⟨value, lo, mid, by rw [get_cons, if_pos rfl], Nat.le_refl _, holdsFields_le holdsRest, holdsFirst, ?_⟩
      intro heap' value' document' _ above holds'
      have absent : get other fields = none := get_eq_none_iff.mpr distinct.1
      have absent' : get other documents = none := by
        rw [get_eq_none_iff, ← fields_names (holdsFields_reads documents mid hi fields (Nat.le_refl _) holdsRest)]
        exact distinct.1
      rw [@put_of_some _ _ _ _ _ value (by rw [get_cons, if_pos rfl]), @put_of_some _ _ _ _ _ first (by rw [get_cons, if_pos rfl]),
        List.map_cons, List.map_cons, if_pos rfl, if_pos rfl, map_absent absent, map_absent absent']
      unfold HoldsFields
      exact ⟨rfl, mid, holds', holdsFields_frame documents mid hi fields above holdsRest⟩
    · rw [if_neg same] at held
      obtain ⟨found, from_, upto, reads, low, high, inner, swap⟩ := holdsFields_get key holdsRest distinct.2 held
      refine ⟨found, from_, upto, by rw [get_cons, if_neg same]; exact reads, Nat.le_trans (holds_le holdsFirst) low, high,
        inner, ?_⟩
      intro heap' value' document' below above holds'
      have rest := swap heap' value' document' (below.within (holds_le holdsFirst) (Nat.le_refl _)) above holds'
      rw [put_of_some (by rw [get_cons, if_neg same]; exact reads), put_of_some (by rw [get_cons, if_neg same]; exact held),
        List.map_cons, List.map_cons, if_neg same, if_neg same, ← put_of_some reads, ← put_of_some held]
      unfold HoldsFields
      exact ⟨rfl, mid, holds_frame first lo mid value (below.within (Nat.le_refl _) low) holdsFirst, rest⟩
  | [], _ :: _, _, _, _, holds, _, _ => by simp [HoldsFields] at holds
  | _ :: _, [], _, _, _, holds, _, _ => by simp [HoldsFields] at holds

theorem setKey_other {heap : Heap} {ref other : Nat} (apart : other ≠ ref) (key : String) (value : GoValue) :
    (setKey heap ref key value)[other]? = heap[other]? := List.getElem?_modify_ne _ _ (Ne.symm apart)

theorem setKey_self {heap : Heap} {ref : Nat} {fields : List (String × GoValue)} (found : heap[ref]? = some (.map fields))
    (key : String) (value : GoValue) : (setKey heap ref key value)[ref]? = some (.map (put key value fields)) := by
  unfold setKey
  rw [List.getElem?_modify_eq, found]
  rfl

/-- A write over what stands at a path of a tree: the tree stands for the document written
to, and nothing outside it changes. -/
theorem setAt_holds {text : String} : ∀ {keys : List String} {heap : Heap} {lo hi ref : Nat} {document : Document},
    Holds heap lo hi (.map ref) (.obj document) → (json.lookup keys document).isSome →
      Holds (setAt keys heap ref (.plain (.str text))) lo hi (.map ref) (.obj (json.set keys (.str text) document)) ∧
        (setAt keys heap ref (.plain (.str text))).length = heap.length ∧
        ∀ other, other < lo ∨ hi ≤ other → (setAt keys heap ref (.plain (.str text)))[other]? = heap[other]?
  | [], _, _, _, _, _, _, some_ => by cases some_
  | [key], heap, lo, hi, ref, document, holds, some_ => by
    unfold Holds at holds
    obtain ⟨low, high, fields, found, distinct, each⟩ := holds
    obtain ⟨held, stood⟩ := Option.isSome_iff_exists.mp some_
    obtain ⟨value, from_, upto, reads, below, above, inner, swap⟩ := holdsFields_get key each distinct stood
    have inside := holds_le inner
    refine ⟨?_, List.length_modify _ _ _, fun other outside => setKey_other (by omega) key _⟩
    unfold Holds
    refine ⟨low, high, _, setKey_self found key _, nodup_put key _ distinct, ?_⟩
    refine swap _ _ _ (fun other _ under => setKey_other (by omega) key _)
      (fun other _ under => setKey_other (by omega) key _) ?_
    unfold Holds
    exact ⟨holds_le inner, rfl, rfl⟩
  | key :: next :: rest, heap, lo, hi, ref, document, holds, some_ => by
    unfold Holds at holds
    obtain ⟨low, high, fields, found, distinct, each⟩ := holds
    rw [Nest.lookup, Nest.into] at some_
    cases stood : get key document with
    | none =>
      rw [stood] at some_
      cases some_
    | some held =>
      obtain ⟨value, from_, upto, reads, below, above, inner, swap⟩ := holdsFields_get key each distinct stood
      rw [stood, Option.bind_some] at some_
      rcases asMap_of_reads (holds_reads held from_ upto value (Nat.le_refl _) inner) with
        ⟨flat, _⟩ | ⟨deeper, entries, rfl, rfl⟩
      · have blank : ((json.fields held).bind (json.lookup (next :: rest))).isSome = false := by
          show ((asMap held).bind _).isSome = false
          rw [flat]
          rfl
        rw [blank] at some_
        cases some_
      · obtain ⟨holds', sized, kept⟩ := setAt_holds inner some_
        have step : setAt (key :: next :: rest) heap ref (.plain (.str text)) =
            setAt (next :: rest) heap deeper (.plain (.str text)) := by
          rw [setAt, entriesAt_of found, reads]
        have still : put key (GoValue.map deeper) fields = fields := put_held distinct reads
        rw [step]
        refine ⟨?_, sized, fun other outside => kept other (by omega)⟩
        rw [Nest.set, Nest.into, stood]
        unfold Holds
        refine ⟨low, high, fields, (kept ref (Or.inr above)).trans found, distinct, ?_⟩
        have placed := swap _ (.map deeper) _ (fun other _ under => kept other (Or.inl under))
          (fun other over_ _ => kept other (Or.inr over_)) holds'
        rw [still] at placed
        exact placed

/-! ## Redact -/

/-- One turn of the loop over the secrets, on a tree. -/
theorem redactPathAt_holds {heap : Heap} {lo hi clone : Nat} {document : Document} (path : String)
    (holds : Holds heap lo hi (.map clone) (.obj document)) :
    Holds (redactPathAt clone heap path) lo hi (.map clone) (.obj (redactPath document path)) ∧
      (redactPathAt clone heap path).length = heap.length ∧
      ∀ other, other < lo → (redactPathAt clone heap path)[other]? = heap[other]? := by
  unfold redactPathAt redactPath lookup
  rcases lookupAt_reads (holds_reads _ _ _ _ (Nat.le_refl _) holds) with
    ⟨absent, none_⟩ | ⟨value, held, found, stood, reads⟩
  · rw [absent, none_]
    exact ⟨holds, rfl, fun _ _ => rfl⟩
  · rw [found, stood]
    dsimp only
    rw [textOf_reads reads]
    by_cases blank : asString (some held) = ""
    · rw [if_neg (not_not_intro blank), if_neg (not_not_intro blank)]
      exact ⟨holds, rfl, fun _ _ => rfl⟩
    · rw [if_pos blank, if_pos blank]
      obtain ⟨written, sized, kept⟩ := setAt_holds holds (Option.isSome_iff_exists.mpr ⟨held, stood⟩)
      exact ⟨written, sized, fun other under => kept other (Or.inl under)⟩

theorem redactPaths_holds {lo hi clone : Nat} (paths : List String) {heap : Heap} {document : Document}
    (holds : Holds heap lo hi (.map clone) (.obj document)) :
    Holds (paths.foldl (redactPathAt clone) heap) lo hi (.map clone) (.obj (paths.foldl redactPath document)) ∧
      (paths.foldl (redactPathAt clone) heap).length = heap.length ∧
      ∀ other, other < lo → (paths.foldl (redactPathAt clone) heap)[other]? = heap[other]? := by
  induction paths generalizing heap document with
  | nil => exact ⟨holds, rfl, fun _ _ => rfl⟩
  | cons path rest ih =>
    obtain ⟨first, sized, kept⟩ := redactPathAt_holds path holds
    obtain ⟨all, sized', kept'⟩ := ih first
    exact ⟨all, sized'.trans sized, fun other under => (kept' other under).trans (kept other under)⟩

/-- With fuel for the size of the document, `Redact` answers with a map that stands for the
redacted document, and every object there was is as it was. -/
theorem redactAt_reads {number : Rat → Option Rat} {heap : Heap} {ref : Nat} {document : Document} (section_ : String)
    (plain : anyFields number document = some document)
    (reads : Reads (· < heap.length) heap (.map ref) (.obj document)) {fuel : Nat}
    (enough : sizeOf (Jsonb.obj document) < fuel) :
    ∃ heap' clone, redactAt number fuel section_ heap ref = some (heap', clone) ∧ Extends heap heap' ∧
      Reads (fun _ => True) heap' (.map clone) (.obj (redact number section_ document)) := by
  unfold redactAt redact
  cases secretFields section_ with
  | none => exact ⟨heap, ref, rfl, Extends.refl heap, reads_frame (fun _ _ _ found => ⟨trivial, found⟩) _ _ reads⟩
  | some paths =>
    have whole : anyOf number (.obj document) = some (.obj document) := by
      rw [anyOf, plain]
      rfl
    obtain ⟨grown, copy, run, grows, holds⟩ := decode_holds _ _ heap whole reads
    rcases asMap_of_reads (holds_reads _ _ _ _ (Nat.le_refl _) holds) with ⟨flat, _⟩ | ⟨clone, fields, rfl, same⟩
    · cases flat
    · cases same
      obtain ⟨all, sized, kept⟩ := redactPaths_holds paths holds
      refine ⟨paths.foldl (redactPathAt clone) grown, clone, ?_, ⟨?_, ?_⟩, ?_⟩
      · rw [deepCopyAt, encode_reads fuel _ _ enough reads]
        dsimp only
        rw [run]
        rfl
      · rw [sized]
        exact grows.1
      · intro other under
        rw [kept other under, grows.2 other under]
      · rw [deepCopy, plain, Option.getD_some]
        exact reads_frame (fun _ _ _ found => ⟨trivial, found⟩) _ _ (holds_reads _ _ _ _ (Nat.le_refl _) all)

end VodogeCloud.Guarantees.SettingsCopies
