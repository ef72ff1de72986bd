import Mathlib.Data.List.Nodup
import VodogeCloud.Source.CommandRedaction

/-!
# Redacting into a copy

`Redact` on the heap against `Redact` on documents. The copy stands for the redacted
document, it is made of new objects only, and every object that was there before is as it
was.
-/

set_option autoImplicit false

namespace VodogeCloud.Guarantees.RedactedCopies

open VodogeCloud.Source.Postgres VodogeCloud.Source.CommandRedaction

/-! ## The document a value stands for -/

def isScalar : Jsonb → Bool
  | .arr _ => false
  | .obj _ => false
  | _ => true

mutual

/-- A value stands for a document, through references that are `allowed`. A map has each
key once. -/
def Reads (allowed : Nat → Prop) (heap : Heap) : GoValue → Jsonb → Prop
  | .plain value, document => value = document ∧ isScalar document = true
  | .map ref, .obj document => allowed ref ∧
    ∃ fields, heap[ref]? = some (.map fields) ∧ (fields.map Prod.fst).Nodup ∧ ReadsFields allowed heap fields document
  | .slice ref, .arr documents =>
    allowed ref ∧ ∃ items, heap[ref]? = some (.slice items) ∧ ReadsItems allowed heap items documents
  | _, _ => False

def ReadsFields (allowed : Nat → Prop) (heap : Heap) : List (String × GoValue) → List (String × Jsonb) → Prop
  | [], [] => True
  | (key, value) :: fields, (name, document) :: documents =>
    key = name ∧ Reads allowed heap value document ∧ ReadsFields allowed heap fields documents
  | _, _ => False

def ReadsItems (allowed : Nat → Prop) (heap : Heap) : List GoValue → List Jsonb → Prop
  | [], [] => True
  | value :: items, document :: documents =>
    Reads allowed heap value document ∧ ReadsItems allowed heap items documents
  | _, _ => False

end

/-- What could be reached still can, and is the same. -/
def Stays (allowed wider : Nat → Prop) (heap heap' : Heap) : Prop :=
  ∀ ref object, allowed ref → heap[ref]? = some object → wider ref ∧ heap'[ref]? = some object

section Frame

variable {allowed wider : Nat → Prop} {heap heap' : Heap}

mutual

/-- A value still stands for its document where its objects are the same. -/
theorem reads_frame (same : Stays allowed wider heap heap') :
    ∀ (document : Jsonb) (value : GoValue), Reads allowed heap value document → Reads wider heap' value document
  | .obj document, .map ref, reads => by
    unfold Reads at reads ⊢
    obtain ⟨ok, fields, found, distinct, each⟩ := reads
    have stays := same ref _ ok found
    exact ⟨stays.1, fields, stays.2, distinct, readsFields_frame same document fields each⟩
  | .arr documents, .slice ref, reads => by
    unfold Reads at reads ⊢
    obtain ⟨ok, items, found, each⟩ := reads
    have stays := same ref _ ok found
    exact ⟨stays.1, items, stays.2, readsItems_frame same documents items each⟩
  | document, .plain value, reads => by
    unfold Reads at reads ⊢
    exact reads
  | .null, .map _, reads | .bool _, .map _, reads | .num _, .map _, reads | .str _, .map _, reads
  | .arr _, .map _, reads | .null, .slice _, reads | .bool _, .slice _, reads | .num _, .slice _, reads
  | .str _, .slice _, reads | .obj _, .slice _, reads => by simp [Reads] at reads

theorem readsFields_frame (same : Stays allowed wider heap heap') :
    ∀ (documents : List (String × Jsonb)) (fields : List (String × GoValue)),
      ReadsFields allowed heap fields documents → ReadsFields wider heap' fields documents
  | [], [], _ => trivial
  | (_, document) :: documents, (_, value) :: fields, reads =>
    ⟨reads.1, reads_frame same document value reads.2.1, readsFields_frame same documents fields reads.2.2⟩
  | [], _ :: _, reads => by simp [ReadsFields] at reads
  | _ :: _, [], reads => by simp [ReadsFields] at reads

theorem readsItems_frame (same : Stays allowed wider heap heap') :
    ∀ (documents : List Jsonb) (items : List GoValue),
      ReadsItems allowed heap items documents → ReadsItems wider heap' items documents
  | [], [], _ => trivial
  | document :: documents, value :: items, reads =>
    ⟨reads_frame same document value reads.1, readsItems_frame same documents items reads.2⟩
  | [], _ :: _, reads => by simp [ReadsItems] at reads
  | _ :: _, [], reads => by simp [ReadsItems] at reads

end

end Frame

/-! ## Filling the copy -/

theorem assign_fresh {key : String} {value : GoValue} {fields : List (String × GoValue)}
    (fresh : key ∉ fields.map Prod.fst) : assign key value fields = fields ++ [(key, value)] := by
  unfold assign
  rw [if_neg]
  rw [List.any_eq_true]
  rintro ⟨field, member, same⟩
  exact fresh (List.mem_map.mpr ⟨field, member, of_decide_eq_true same⟩)

theorem readsFields_append {allowed : Nat → Prop} {heap : Heap} {value : GoValue} {document : Jsonb} (key : String)
    (reads : Reads allowed heap value document) : ∀ {fields : List (String × GoValue)} {documents : List (String × Jsonb)},
    ReadsFields allowed heap fields documents →
      ReadsFields allowed heap (fields ++ [(key, value)]) (documents ++ [(key, document)])
  | [], [], _ => ⟨rfl, reads, trivial⟩
  | (_, _) :: _, (_, _) :: _, each => ⟨each.1, each.2.1, readsFields_append key reads each.2.2⟩
  | [], _ :: _, each => by simp [ReadsFields] at each
  | _ :: _, [], each => by simp [ReadsFields] at each

theorem readsItems_append {allowed : Nat → Prop} {heap : Heap} {value : GoValue} {document : Jsonb}
    (reads : Reads allowed heap value document) : ∀ {items : List GoValue} {documents : List Jsonb},
    ReadsItems allowed heap items documents →
      ReadsItems allowed heap (items ++ [value]) (documents ++ [document])
  | [], [], _ => ⟨reads, trivial⟩
  | _ :: _, _ :: _, each => ⟨each.1, readsItems_append reads each.2⟩
  | [], _ :: _, each => by simp [ReadsItems] at each
  | _ :: _, [], each => by simp [ReadsItems] at each

/-- What is empty text on the heap is empty text in the document. -/
theorem isEmptyText_iff {allowed : Nat → Prop} {heap : Heap} {value : GoValue} {document : Jsonb}
    (reads : Reads allowed heap value document) : isEmptyText value = true ↔ document = .str "" := by
  cases value with
  | plain inner =>
    unfold Reads at reads
    obtain ⟨rfl, _⟩ := reads
    cases inner with
    | str text => simp [isEmptyText]
    | _ => simp [isEmptyText]
  | map ref =>
    cases document with
    | obj _ => simp [isEmptyText]
    | _ => simp [Reads] at reads
  | slice ref =>
    cases document with
    | arr _ => simp [isEmptyText]
    | _ => simp [Reads] at reads

theorem concealed_reads {allowed : Nat → Prop} {heap : Heap} {value : GoValue} {document : Jsonb}
    (wider : Nat → Prop) (heap' : Heap) (reads : Reads allowed heap value document) :
    Reads wider heap' (if isEmptyText value then value else .plain (.str redacted)) (concealed document) := by
  by_cases empty : isEmptyText value = true
  · rw [if_pos empty, (isEmptyText_iff reads).mp empty]
    cases value with
    | plain inner =>
      have blank := (isEmptyText_iff reads).mp empty
      unfold Reads at reads
      rw [reads.1, blank]
      exact ⟨rfl, rfl⟩
    | map ref => cases empty
    | slice ref => cases empty
  · rw [if_neg empty]
    unfold concealed
    rw [if_neg fun same => empty ((isEmptyText_iff reads).mpr same)]
    exact ⟨rfl, rfl⟩

/-- The copy at `clone` is being filled: nothing that was there at the start has changed
besides. -/
structure Filling (clone : Nat) (start heap : Heap) (object : Object) : Prop where
  longer : start.length ≤ heap.length
  frame : ∀ ref < start.length, ref ≠ clone → heap[ref]? = start[ref]?
  found : heap[clone]? = some object

/-- Every object stays, and new ones may come. -/
def Extends (heap grown : Heap) : Prop :=
  heap.length ≤ grown.length ∧ ∀ ref < heap.length, grown[ref]? = heap[ref]?

theorem Extends.refl (heap : Heap) : Extends heap heap := ⟨Nat.le_refl _, fun _ _ => rfl⟩

theorem Extends.get {heap grown : Heap} (grows : Extends heap grown) {ref : Nat} {object : Object}
    (held : heap[ref]? = some object) : grown[ref]? = some object := by
  have old := (List.getElem?_eq_some_iff.mp held).1
  exact (grows.2 ref old).trans held

section Fill

variable {clone : Nat} {start heap grown : Heap} {object : Object}

theorem Filling.inside (filling : Filling clone start heap object) : clone < heap.length :=
  (List.getElem?_eq_some_iff.mp filling.found).1

/-- A write to the copy, after something else was allocated. -/
theorem Filling.write (filling : Filling clone start heap object) (grows : Extends heap grown) (f : Object → Object) :
    Filling clone start (grown.modify clone f) (f object) where
  longer := by
    rw [List.length_modify]
    exact Nat.le_trans filling.longer grows.1
  frame ref old apart := by
    have held := Nat.lt_of_lt_of_le old filling.longer
    rw [List.getElem?_modify_ne _ _ (Ne.symm apart), grows.2 ref held, filling.frame ref old apart]
  found := by
    rw [List.getElem?_modify_eq, grows.get filling.found]
    rfl

/-- What is in the copy already does not go through the copy. -/
theorem stays_write (grows : Extends heap grown) (f : Object → Object) :
    Stays (clone < ·) (clone < ·) heap (grown.modify clone f) := by
  intro ref held above found
  exact ⟨above, (List.getElem?_modify_ne _ _ (Nat.ne_of_lt above)).trans (grows.get found)⟩

/-- The argument lies below the copy and is as it was. -/
theorem Filling.argument (filling : Filling clone start heap object) : Stays (· < clone) (· < clone) start heap := by
  intro ref held below found
  have old := (List.getElem?_eq_some_iff.mp found).1
  exact ⟨below, (filling.frame ref old (Nat.ne_of_lt below)).trans found⟩

end Fill

/-- A visit answers with a copy made of new objects and changes no old one. -/
def Copies (visit : Heap → GoValue → Option (Heap × GoValue)) (document : Jsonb) : Prop :=
  ∀ (heap : Heap) (value : GoValue) (bound : Nat), bound ≤ heap.length → Reads (· < bound) heap value document →
    ∃ heap' value', visit heap value = some (heap', value') ∧ Extends heap heap' ∧
      Reads (heap.length ≤ ·) heap' value' (redactDocument document)

/-- A new value is above the copy. -/
theorem stays_above {clone : Nat} {heap grown : Heap} (inside : clone < heap.length) (f : Object → Object) :
    Stays (heap.length ≤ ·) (clone < ·) grown (grown.modify clone f) := by
  intro ref held above found
  have later := Nat.lt_of_lt_of_le inside above
  exact ⟨later, (List.getElem?_modify_ne _ _ (Nat.ne_of_lt later)).trans found⟩

/-- The loop over a map: what is in the copy already stays, and the rest is added. -/
theorem redactEntries_reads {visit : Heap → GoValue → Option (Heap × GoValue)} {clone : Nat} {start : Heap} :
    ∀ {fields : List (String × GoValue)} {documents : List (String × Jsonb)} {heap : Heap}
      {done : List (String × GoValue)} {images : List (String × Jsonb)},
      (∀ entry ∈ documents, Copies visit entry.2) → Filling clone start heap (.map done) →
      ((done ++ fields).map Prod.fst).Nodup → ReadsFields (· < clone) start fields documents →
      ReadsFields (clone < ·) heap done images →
      ∃ heap' all, redactEntries visit clone heap fields = some heap' ∧ Filling clone start heap' (.map all) ∧
        (all.map Prod.fst).Nodup ∧ ReadsFields (clone < ·) heap' all (images ++ redactFields documents) := by
  intro fields
  induction fields with
  | nil =>
    intro documents heap done images _ filling distinct reads doneReads
    cases documents with
    | cons _ _ => simp [ReadsFields] at reads
    | nil =>
      rw [List.append_nil] at distinct
      refine ⟨heap, done, rfl, filling, distinct, ?_⟩
      rwa [redactFields, List.append_nil]
  | cons field rest ih =>
    intro documents heap done images copies filling distinct reads doneReads
    obtain ⟨key, value⟩ := field
    cases documents with
    | nil => simp [ReadsFields] at reads
    | cons entry documents =>
      obtain ⟨name, document⟩ := entry
      obtain ⟨rfl, readsValue, readsRest⟩ := reads
      have readsHere := reads_frame filling.argument _ _ readsValue
      have fresh : key ∉ done.map Prod.fst := by
        intro member
        rw [List.map_append, List.map_cons] at distinct
        exact (List.nodup_append.mp distinct).2.2 key member key List.mem_cons_self rfl
      have later := fun entry member => copies entry (List.mem_cons_of_mem _ member)
      -- the copy with one entry more, and the rest of the loop
      have add : ∀ (grown : Heap) (copy : GoValue) (image : Jsonb), Extends heap grown →
          Reads (clone < ·) (setKey grown clone key copy) copy image →
          ∃ heap' all, redactEntries visit clone (setKey grown clone key copy) rest = some heap' ∧
            Filling clone start heap' (.map all) ∧ (all.map Prod.fst).Nodup ∧
            ReadsFields (clone < ·) heap' all (images ++ (key, image) :: redactFields documents) := by
        intro grown copy image grows readsCopy
        have written : Filling clone start (setKey grown clone key copy) (.map (done ++ [(key, copy)])) := by
          rw [← assign_fresh fresh]
          exact filling.write grows _
        have readsDone := readsFields_append key readsCopy (readsFields_frame (stays_write grows _) _ _ doneReads)
        have added := ih later written (by simpa using distinct) readsRest readsDone
        rwa [List.append_assoc] at added
      unfold redactEntries
      by_cases secret : isSecret key = true
      · rw [if_pos secret, redactFields, if_pos secret]
        by_cases empty : isEmptyText value = true
        · have image := concealed_reads (clone < ·) (setKey heap clone key value) readsHere
          rw [if_pos empty] at image ⊢
          exact add heap value _ (Extends.refl heap) image
        · have image := concealed_reads (clone < ·) (setKey heap clone key (.plain (.str redacted))) readsHere
          rw [if_neg empty] at image ⊢
          exact add heap _ _ (Extends.refl heap) image
      · obtain ⟨grown, copy, visited, grows, readsCopy⟩ :=
          copies _ List.mem_cons_self heap value clone (Nat.le_of_lt filling.inside) readsHere
        rw [if_neg secret, visited, redactFields, if_neg secret]
        exact add grown copy _ grows (reads_frame (stays_above filling.inside _) _ _ readsCopy)

/-- The loop over a slice: the elements before `index` are done. -/
theorem redactElements_reads {visit : Heap → GoValue → Option (Heap × GoValue)} {clone : Nat} {start : Heap} :
    ∀ {items : List GoValue} {documents : List Jsonb} {heap : Heap} {done : List GoValue} {images : List Jsonb},
      (∀ document ∈ documents, Copies visit document) →
      Filling clone start heap (.slice (done ++ List.replicate items.length (.plain .null))) →
      ReadsItems (· < clone) start items documents → ReadsItems (clone < ·) heap done images →
      ∃ heap' all, redactElements visit clone heap done.length items = some heap' ∧
        Filling clone start heap' (.slice all) ∧ ReadsItems (clone < ·) heap' all (images ++ redactItems documents) := by
  intro items
  induction items with
  | nil =>
    intro documents heap done images _ filling reads doneReads
    cases documents with
    | cons _ _ => simp [ReadsItems] at reads
    | nil =>
      refine ⟨heap, done, rfl, ?_, ?_⟩
      · simpa using filling
      · rwa [redactItems, List.append_nil]
  | cons value rest ih =>
    intro documents heap done images copies filling reads doneReads
    cases documents with
    | nil => simp [ReadsItems] at reads
    | cons document documents =>
      obtain ⟨readsValue, readsRest⟩ := reads
      obtain ⟨grown, copy, visited, grows, readsCopy⟩ := copies _ List.mem_cons_self heap value clone
        (Nat.le_of_lt filling.inside) (reads_frame filling.argument _ _ readsValue)
      have written : Filling clone start (setIndex grown clone done.length copy)
          (.slice ((done ++ [copy]) ++ List.replicate rest.length (.plain .null))) := by
        have placed : (done ++ List.replicate (value :: rest).length (GoValue.plain .null)).set done.length copy =
            (done ++ [copy]) ++ List.replicate rest.length (.plain .null) := by
          simp [List.replicate_succ]
        rw [← placed]
        exact filling.write grows _
      have readsNew : Reads (clone < ·) (setIndex grown clone done.length copy) copy (redactDocument document) :=
        reads_frame (stays_above filling.inside _) _ _ readsCopy
      have readsDone := readsItems_append readsNew (readsItems_frame (stays_write grows _) _ _ doneReads)
      have added := ih (fun document member => copies document (List.mem_cons_of_mem _ member)) written readsRest
        readsDone
      rw [List.length_append, List.append_assoc] at added
      unfold redactElements
      rw [visited, redactItems]
      exact added

/-! ## The whole value -/

theorem extends_made {heap heap' : Heap} {blank object : Object}
    (filling : Filling heap.length (heap ++ [blank]) heap' object) : Extends heap heap' := by
  refine ⟨?_, ?_⟩
  · have longer := filling.longer
    rw [List.length_append] at longer
    omega
  · intro ref old
    rw [filling.frame ref (by rw [List.length_append]; omega) (Nat.ne_of_lt old), List.getElem?_append_left old]

theorem filling_made (heap : Heap) (blank : Object) : Filling heap.length (heap ++ [blank]) (heap ++ [blank]) blank where
  longer := Nat.le_refl _
  frame _ _ _ := rfl
  found := List.getElem?_concat_length

theorem stays_made {bound : Nat} (heap : Heap) (blank : Object) (inside : bound ≤ heap.length) :
    Stays (· < bound) (· < heap.length) heap (heap ++ [blank]) := by
  intro ref object below found
  have old := Nat.lt_of_lt_of_le below inside
  exact ⟨old, (List.getElem?_append_left old).trans found⟩

/-- With fuel for the size of the document, the value is copied. -/
theorem redactValue_copies : ∀ (fuel : Nat) (document : Jsonb), sizeOf document < fuel →
    Copies (redactValue fuel) document := by
  intro fuel
  induction fuel with
  | zero => intro document small; omega
  | succ fuel ih =>
    intro document small heap value bound inside reads
    cases value with
    | plain inner =>
      unfold Reads at reads
      refine ⟨heap, .plain inner, rfl, Extends.refl heap, ?_⟩
      cases document with
      | arr _ => cases reads.2
      | obj _ => cases reads.2
      | _ =>
        unfold Reads
        exact reads
    | map ref =>
      cases document with
      | obj documents =>
        obtain ⟨_, fields, found, distinct, each⟩ := reads
        have copies : ∀ entry ∈ documents, Copies (redactValue fuel) entry.2 := by
          intro entry member
          refine ih entry.2 ?_
          have part := List.sizeOf_lt_of_mem member
          have whole : sizeOf (Jsonb.obj documents) = 1 + sizeOf documents := Jsonb.obj.sizeOf_spec documents
          have inner : sizeOf entry = 1 + sizeOf entry.1 + sizeOf entry.2 := rfl
          omega
        obtain ⟨heap', all, run, filling, once, readsAll⟩ :=
          @redactEntries_reads _ _ _ fields documents _ [] [] copies (filling_made heap (.map [])) distinct
            (readsFields_frame (stays_made heap _ inside) _ _ each) trivial
        refine ⟨heap', .map heap.length, ?_, extends_made filling, ?_⟩
        · unfold redactValue
          rw [found]
          simp only [run]
          rfl
        · unfold redactDocument Reads
          have upwards : Stays (heap.length < ·) (heap.length ≤ ·) heap' heap' :=
            fun ref object above held => ⟨Nat.le_of_lt above, held⟩
          exact ⟨Nat.le_refl _, all, filling.found, once, readsFields_frame upwards _ _ readsAll⟩
      | _ => simp [Reads] at reads
    | slice ref =>
      cases document with
      | arr documents =>
        obtain ⟨_, items, found, each⟩ := reads
        have copies : ∀ document ∈ documents, Copies (redactValue fuel) document := by
          intro document member
          refine ih document ?_
          have part := List.sizeOf_lt_of_mem member
          have whole : sizeOf (Jsonb.arr documents) = 1 + sizeOf documents := Jsonb.arr.sizeOf_spec documents
          omega
        obtain ⟨heap', all, run, filling, readsAll⟩ :=
          @redactElements_reads _ _ _ items documents _ [] [] copies (filling_made heap _)
            (readsItems_frame (stays_made heap _ inside) _ _ each) trivial
        refine ⟨heap', .slice heap.length, ?_, extends_made filling, ?_⟩
        · unfold redactValue
          rw [found]
          simp only [List.nil_append, List.length_nil] at run
          simp only [run]
          rfl
        · unfold redactDocument Reads
          have upwards : Stays (heap.length < ·) (heap.length ≤ ·) heap' heap' :=
            fun ref object above held => ⟨Nat.le_of_lt above, held⟩
          exact ⟨Nat.le_refl _, all, filling.found, readsItems_frame upwards _ _ readsAll⟩
      | _ => simp [Reads] at reads

end VodogeCloud.Guarantees.RedactedCopies
