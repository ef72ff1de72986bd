import VodogeCloud.Lib.NetAddress
import VodogeCloud.Source.Conformance

/-!
# What the conformance check sees

The walk down a path meets every value the path leads to and keeps the strings among them.
So the check is exact for strings, blind to a value of another type, and says too much where
a document as a whole does not decode.
-/

set_option autoImplicit false

namespace VodogeCloud.Guarantees.CheckedEnums

open VodogeCloud.Lib.NetAddress (joined)
open VodogeCloud.Source.Postgres VodogeCloud.Source.Conformance
open VodogeCloud.Source.GoJson (goString)
open VodogeCloud.Source.NetUrl (before after before_append after_append before_absent after_absent)

/-! ## Paths -/

/-- One name of a path: a field, or each element of an array in a field. -/
inductive Step where
  | field (name : String)
  | each (name : String)
  deriving DecidableEq, Repr

/-- A path is written with dots between its names and `[]` behind the arrays. -/
def stepOf (head : List Char) : Step :=
  if isArrayHead head then .each (String.ofList (head.take (head.length - 2)))
  else .field (String.ofList head)

def stepsOf (path : String) : List Step := (path.toList.splitOn '.').map stepOf

/-- The value is one the path leads to from the node. -/
inductive At : Json → List Step → Json → Prop where
  | here (value : Json) : At value [] value
  | field {node child value : Json} {name : String} {rest : List Step}
      (there : objectField node name = some child) (below : At child rest value) :
      At node (.field name :: rest) value
  | each {node item value : Json} {name : String} {rest : List Step} {items : List Json}
      (there : objectField node name = some (.arr items)) (member : item ∈ items)
      (below : At item rest value) : At node (.each name :: rest) value

/-- The heads a path can be cut into. -/
def Named (heads : List (List Char)) : Prop := ∀ head ∈ heads, head ≠ [] ∧ '.' ∉ head

theorem cut_joined {head : List Char} {heads : List (List Char)} (named : Named (head :: heads)) :
    joined '.' (head :: heads) ≠ [] ∧ before '.' (joined '.' (head :: heads)) = head ∧
      after '.' (joined '.' (head :: heads)) = joined '.' heads := by
  obtain ⟨some_, free⟩ := named head List.mem_cons_self
  cases heads with
  | nil => exact ⟨some_, before_absent free, after_absent free⟩
  | cons next rest =>
    refine ⟨?_, before_append free _, after_append free _⟩
    intro empty
    exact some_ (List.append_eq_nil_iff.mp empty).1

theorem at_each {node value : Json} {name : String} {rest : List Step} :
    At node (.each name :: rest) value ↔ ∃ item ∈ elements (objectField node name), At item rest value := by
  constructor
  · intro at_
    cases at_ with
    | each there member below =>
      rw [there]
      exact ⟨_, member, below⟩
  · rintro ⟨item, member, below⟩
    cases found : objectField node name with
    | none =>
      rw [found] at member
      cases member
    | some child =>
      rw [found] at member
      cases child with
      | arr items => exact .each found member below
      | _ => cases member

theorem at_field {node value : Json} {name : String} {rest : List Step} :
    At node (.field name :: rest) value ↔ ∃ child, objectField node name = some child ∧ At child rest value := by
  constructor
  · intro at_
    cases at_ with
    | field there below => exact ⟨_, there, below⟩
  · rintro ⟨child, there, below⟩
    exact .field there below

/-- What the walk returns along a path are the strings the path leads to. -/
theorem mem_valuesAt {heads : List (List Char)} (named : Named heads) (node : Json) (text : String) :
    text ∈ valuesAt node (joined '.' heads) ↔
      ∃ value, At node (heads.map stepOf) value ∧ stringOf value = some text := by
  induction heads generalizing node with
  | nil =>
    have root : valuesAt node [] = (stringOf node).toList := by
      rw [valuesAt]
      exact if_pos rfl
    rw [joined, root, Option.mem_toList]
    constructor
    · exact fun same => ⟨node, .here node, same⟩
    · rintro ⟨_, ⟨⟩, same⟩
      exact same
  | cons head heads ih =>
    obtain ⟨some_, headIs, restIs⟩ := cut_joined named
    have below := fun item => ih (fun other member => named other (List.mem_cons_of_mem _ member)) item
    rw [valuesAt, if_neg some_]
    dsimp only
    rw [headIs, restIs, List.map_cons, stepOf]
    split
    · rw [List.mem_flatMap]
      constructor
      · rintro ⟨item, member, seen⟩
        obtain ⟨value, at_, same⟩ := (below item).mp seen
        exact ⟨value, at_each.mpr ⟨item, member, at_⟩, same⟩
      · rintro ⟨value, at_, same⟩
        obtain ⟨item, member, at_⟩ := at_each.mp at_
        exact ⟨item, member, (below item).mpr ⟨value, at_, same⟩⟩
    · cases found : objectField node (String.ofList head) with
      | none =>
        constructor
        · intro seen
          cases seen
        · rintro ⟨value, at_, _⟩
          obtain ⟨child, there, _⟩ := at_field.mp at_
          rw [found] at there
          cases there
      | some child =>
        constructor
        · intro seen
          obtain ⟨value, at_, same⟩ := (below child).mp seen
          exact ⟨value, at_field.mpr ⟨child, found, at_⟩, same⟩
        · rintro ⟨value, at_, same⟩
          obtain ⟨other, there, at_⟩ := at_field.mp at_
          rw [found] at there
          cases there
          exact (below child).mpr ⟨value, at_, same⟩

/-! ## The table -/

/-- A path that is its names with dots between them. -/
def cuttable (path : String) : Bool :=
  let heads := path.toList.splitOn '.'
  heads.all (fun head => !head.isEmpty && !head.contains '.') && joined '.' heads == path.toList

theorem paths_cuttable (kind : String) :
    (payloadConstraints kind).all (fun constraint => cuttable constraint.path) = true := by
  unfold payloadConstraints
  split
  all_goals decide

theorem constraint_named {kind : String} {constraint : FieldConstraint}
    (member : constraint ∈ payloadConstraints kind) :
    Named (constraint.path.toList.splitOn '.') ∧
      joined '.' (constraint.path.toList.splitOn '.') = constraint.path.toList := by
  have cut := List.all_eq_true.mp (paths_cuttable kind) constraint member
  rw [cuttable, Bool.and_eq_true, List.all_eq_true, beq_iff_eq] at cut
  refine ⟨fun head inPath => ?_, cut.2⟩
  have named := cut.1 head inPath
  simpa using named

/-! ## Exactness -/

/-- Every value a constrained path leads to is one of the strings of its enum. -/
def WithinEnums (kind : String) (document : Json) : Prop :=
  ∀ constraint ∈ payloadConstraints kind, ∀ value, At document (stepsOf constraint.path) value →
    ∃ text ∈ constraint.enum, stringOf value = some text

/-- The same of the strings alone. -/
def StringsWithinEnums (kind : String) (document : Json) : Prop :=
  ∀ constraint ∈ payloadConstraints kind, ∀ value, At document (stepsOf constraint.path) value →
    ∀ text, stringOf value = some text → text ∈ constraint.enum

/-- A constrained path leads to strings only. -/
def OnlyStrings (kind : String) (document : Json) : Prop :=
  ∀ constraint ∈ payloadConstraints kind, ∀ value, At document (stepsOf constraint.path) value →
    (stringOf value).isSome

theorem withinEnums_iff {kind : String} {document : Json} :
    WithinEnums kind document ↔ StringsWithinEnums kind document ∧ OnlyStrings kind document := by
  constructor
  · intro within
    refine ⟨fun constraint member value at_ text is => ?_, fun constraint member value at_ => ?_⟩
    · obtain ⟨other, allowed, same⟩ := within constraint member value at_
      rw [is] at same
      cases same
      exact allowed
    · obtain ⟨text, _, same⟩ := within constraint member value at_
      rw [same]
      rfl
  · rintro ⟨strings, only⟩ constraint member value at_
    obtain ⟨text, is⟩ := Option.isSome_iff_exists.mp (only constraint member value at_)
    exact ⟨text, strings constraint member value at_ text is, is⟩

variable (quote : String → String)

/-- A document that decodes is reported exactly for the strings outside their enums. -/
theorem violations_decoded {kind : String} {document : Json} (decoded : decodes document = true) :
    violations quote kind (some document) = [] ↔ StringsWithinEnums kind document := by
  have lines : violations quote kind (some document) = (payloadConstraints kind).flatMap fun constraint =>
      ((valuesAt document constraint.path.toList).filter
        fun actual => !constraint.enum.contains actual).map (violation quote constraint) := by
    unfold violations
    dsimp only
    rw [decoded]
    split
    · rename_i none_
      rw [none_]
      rfl
    · rfl
  rw [lines, List.flatMap_eq_nil_iff]
  constructor
  · intro silent constraint member value at_ text is
    obtain ⟨named, whole⟩ := constraint_named member
    have seen : text ∈ valuesAt document constraint.path.toList := by
      rw [← whole]
      exact (mem_valuesAt named document text).mpr ⟨value, at_, is⟩
    have kept := List.filter_eq_nil_iff.mp (List.map_eq_nil_iff.mp (silent constraint member)) text seen
    simpa using kept
  · intro strings constraint member
    obtain ⟨named, whole⟩ := constraint_named member
    rw [List.map_eq_nil_iff, List.filter_eq_nil_iff]
    intro text seen
    rw [← whole] at seen
    obtain ⟨value, at_, is⟩ := (mem_valuesAt named document text).mp seen
    simpa using strings constraint member value at_ text is

theorem violations_undecoded {kind : String} {document : Json} (constrained : payloadConstraints kind ≠ [])
    (undecoded : decodes document = false) : violations quote kind (some document) ≠ [] := by
  unfold violations
  dsimp only
  rw [if_neg constrained, undecoded]
  exact List.cons_ne_nil _ _

/-- The check is exact on a document unless its strings are all within their enums while one
of two things is the case: a value is no string, or the document does not decode. -/
theorem violations_exact_iff (kind : String) (document : Json) :
    (violations quote kind (some document) = [] ↔ WithinEnums kind document) ↔
      (payloadConstraints kind = [] ∨ (StringsWithinEnums kind document →
        (decodes document = true ↔ OnlyStrings kind document))) := by
  by_cases free : payloadConstraints kind = []
  · have within : WithinEnums kind document := by
      intro constraint member
      rw [free] at member
      cases member
    have silent : violations quote kind (some document) = [] := if_pos free
    exact ⟨fun _ => Or.inl free, fun _ => ⟨fun _ => within, fun _ => silent⟩⟩
  · rw [withinEnums_iff, or_iff_right free]
    cases decoded : decodes document with
    | true =>
      rw [violations_decoded quote decoded]
      constructor
      · intro same strings
        exact ⟨fun _ => (same.mp strings).2, fun _ => rfl⟩
      · intro exact_
        exact ⟨fun strings => ⟨strings, (exact_ strings).mp rfl⟩, And.left⟩
    | false =>
      have reported := violations_undecoded quote free decoded
      constructor
      · intro same strings
        exact ⟨fun no => absurd no (by decide), fun only => absurd (same.mpr ⟨strings, only⟩) reported⟩
      · intro exact_
        refine ⟨fun silent => absurd silent reported, fun within => ?_⟩
        exact absurd ((exact_ within.1).mpr within.2) (by decide)

/-- An alert whose level is a boolean. -/
def booleanAlert : Json := .obj [(chars "level", .bool true)]

theorem boolean_unseen :
    violations id "Alert" (some booleanAlert) = [] ∧ ¬ WithinEnums "Alert" booleanAlert := by
  have steps : stepsOf "level" = [.field "level"] := by decide
  have level : objectField booleanAlert "level" = some (.bool true) := rfl
  refine ⟨(violations_decoded id (by decide)).mpr ?_, fun within => ?_⟩
  · intro constraint member value at_ text is
    rw [List.mem_singleton.mp member, steps] at at_
    obtain ⟨child, there, below⟩ := at_field.mp at_
    rw [level] at there
    cases there
    cases below
    cases is
  · have at_ : At booleanAlert (stepsOf "level") (.bool true) := by
      rw [steps]
      exact .field level (.here _)
    obtain ⟨text, _, is⟩ := within _ List.mem_cons_self _ at_
    cases is

end VodogeCloud.Guarantees.CheckedEnums
