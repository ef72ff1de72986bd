import VodogeCloud.Guarantees.CommandDocuments
import VodogeCloud.Guarantees.RedactedCopies

/-!
# What a reader sees of a command

Two requests that differ in nothing but their credentials leave the same audit row and the
same listed payload. Beneath, what `Redact` does to an arbitrary document, along every path
into it.
-/

set_option autoImplicit false

namespace VodogeCloud.Guarantees.HiddenCredentials

open VodogeCloud.Lib.Transactions VodogeCloud.Source.Postgres VodogeCloud.Source.CommandCatalogue
open VodogeCloud.Source.CommandRedaction VodogeCloud.Source.CommandLifecycle
open VodogeCloud.Source.ServeDevice (trimSpace)
open VodogeCloud.Source.CardDelivery (anyOf anyFields)
open VodogeCloud.Guarantees.CommandDocuments VodogeCloud.Guarantees.RedactedCopies

/-! ## Paths -/

inductive Step where
  | key (name : String)
  | index (at_ : Nat)

def child (value : Jsonb) (step : Step) : Option Jsonb :=
  match value, step with
  | .obj fields, .key name => (fields.find? fun field => field.1 = name).map Prod.snd
  | .arr items, .index at_ => items[at_]?
  | _, _ => none

def follow : List Step → Jsonb → Option Jsonb
  | [], value => some value
  | step :: rest, value => (child value step).bind (follow rest)

/-- A path that passes no secret key. -/
def Open (path : List Step) : Prop := ∀ name, Step.key name ∈ path → isSecret name = false

/-- A value without what lies below it. -/
inductive Outline where
  | object (keys : List String)
  | array (length : Nat)
  | scalar (value : Jsonb)

def outline : Jsonb → Outline
  | .obj fields => .object (fields.map Prod.fst)
  | .arr items => .array items.length
  | value => .scalar value

/-- Along every path: under a secret key stands the placeholder, or no text where there was
none, and everything else is as it was. -/
structure Conceals (before after : Jsonb) : Prop where
  secrets : ∀ path name value, Open path → isSecret name = true →
    follow (path ++ [.key name]) before = some value →
    follow (path ++ [.key name]) after = some (if value = .str "" then .str "" else .str redacted)
  others : ∀ path, Open path → (follow path after).map outline = (follow path before).map outline

/-! ## One step -/

/-- A field after `Redact`. -/
def redactField (field : String × Jsonb) : String × Jsonb :=
  (field.1, if isSecret field.1 then concealed field.2 else redactDocument field.2)

theorem redactFields_eq_map (fields : List (String × Jsonb)) : redactFields fields = fields.map redactField := by
  induction fields with
  | nil => rfl
  | cons field rest ih =>
    obtain ⟨key, value⟩ := field
    rw [redactFields, ih]
    rfl

theorem redactItems_eq_map (items : List Jsonb) : redactItems items = items.map redactDocument := by
  induction items with
  | nil => rfl
  | cons item rest ih => rw [redactItems, ih, List.map_cons]

theorem outline_redactDocument (value : Jsonb) : outline (redactDocument value) = outline value := by
  cases value with
  | obj fields =>
    rw [redactDocument, outline, outline, redactFields_eq_map, List.map_map]
    rfl
  | arr items => rw [redactDocument, outline, outline, redactItems_eq_map, List.length_map]
  | _ => rfl

theorem child_key (fields : List (String × Jsonb)) (name : String) :
    child (.obj (redactFields fields)) (.key name) =
      (child (.obj fields) (.key name)).map fun value => if isSecret name then concealed value else redactDocument value := by
  show ((redactFields fields).find? fun field => field.1 = name).map Prod.snd = _
  rw [redactFields_eq_map, List.find?_map]
  show _ = ((fields.find? fun field => field.1 = name).map Prod.snd).map _
  cases found : fields.find? fun field => field.1 = name with
  | none =>
    have none_ : fields.find? ((fun field => decide (field.1 = name)) ∘ redactField) = none := found
    rw [none_]
    rfl
  | some field =>
    have some_ : fields.find? ((fun field => decide (field.1 = name)) ∘ redactField) = some field := found
    have named : field.1 = name := by simpa using List.find?_some found
    rw [some_, ← named]
    rfl

theorem child_redactDocument {step : Step} (value : Jsonb) (plain : ∀ name, step = .key name → isSecret name = false) :
    child (redactDocument value) step = (child value step).map redactDocument := by
  cases value with
  | obj fields =>
    cases step with
    | key name => rw [redactDocument, child_key, plain name rfl]; rfl
    | index _ => rfl
  | arr items =>
    cases step with
    | key _ => rfl
    | index at_ =>
      show (redactItems items)[at_]? = (items[at_]?).map redactDocument
      rw [redactItems_eq_map, List.getElem?_map]
  | _ => rfl

theorem child_secret {name : String} (value : Jsonb) (secret : isSecret name = true) :
    child (redactDocument value) (.key name) = (child value (.key name)).map concealed := by
  cases value with
  | obj fields => rw [redactDocument, child_key, secret]; rfl
  | _ => rfl

/-! ## Every path -/

theorem follow_redactDocument {path : List Step} : ∀ {value : Jsonb}, Open path →
    follow path (redactDocument value) = (follow path value).map redactDocument := by
  induction path with
  | nil => exact fun _ => rfl
  | cons step rest ih =>
    intro value open_
    have first : ∀ name, step = .key name → isSecret name = false :=
      fun name same => open_ name (same ▸ List.mem_cons_self)
    have later : Open rest := fun name member => open_ name (List.mem_cons_of_mem _ member)
    show (child (redactDocument value) step).bind (follow rest) = ((child value step).bind (follow rest)).map _
    rw [child_redactDocument value first]
    cases child value step with
    | none => rfl
    | some inner => exact ih later

theorem follow_append (path more : List Step) : ∀ (value : Jsonb),
    follow (path ++ more) value = (follow path value).bind (follow more) := by
  induction path with
  | nil => exact fun _ => rfl
  | cons step rest ih =>
    intro value
    show (child value step).bind (follow (rest ++ more)) = ((child value step).bind (follow rest)).bind (follow more)
    cases child value step with
    | none => rfl
    | some inner => exact ih inner

theorem follow_single (step : Step) (value : Jsonb) : follow [step] value = child value step := by
  show (child value step).bind (follow []) = child value step
  cases child value step with
  | none => rfl
  | some inner => rfl

theorem conceals_redactDocument (value : Jsonb) : Conceals value (redactDocument value) where
  secrets path name held open_ secret found := by
    rw [follow_append] at found ⊢
    rw [follow_redactDocument open_]
    cases reached : follow path value with
    | none =>
      rw [reached] at found
      cases found
    | some inner =>
      rw [reached] at found
      have here : child inner (.key name) = some held := by
        rw [← follow_single]
        exact found
      show follow [.key name] (redactDocument inner) = _
      rw [follow_single, child_secret inner secret, here, Option.map_some, concealed]
      by_cases empty : held = .str ""
      · rw [if_pos empty, if_pos empty, empty]
      · rw [if_neg empty, if_neg empty]
  others path open_ := by
    rw [follow_redactDocument open_, Option.map_map]
    congr 1
    funext inner
    exact outline_redactDocument inner

theorem concealed_twice (value : Jsonb) : concealed (concealed value) = concealed value := by
  unfold concealed
  by_cases empty : value = .str ""
  · rw [if_pos empty, if_pos empty]
  · rw [if_neg empty, if_neg (by decide)]

mutual

theorem redactDocument_twice : ∀ value, redactDocument (redactDocument value) = redactDocument value
  | .obj fields => by rw [redactDocument, redactDocument, redactFields_twice fields]
  | .arr items => by rw [redactDocument, redactDocument, redactItems_twice items]
  | .null | .bool _ | .num _ | .str _ => rfl

theorem redactFields_twice : ∀ fields, redactFields (redactFields fields) = redactFields fields
  | [] => rfl
  | (key, value) :: rest => by
    rw [redactFields, redactFields, redactFields_twice rest]
    by_cases secret : isSecret key = true
    · rw [if_pos secret, if_pos secret, concealed_twice]
    · rw [if_neg secret, if_neg secret, redactDocument_twice value]

theorem redactItems_twice : ∀ items, redactItems (redactItems items) = redactItems items
  | [] => rfl
  | item :: rest => by rw [redactItems, redactItems, redactDocument_twice item, redactItems_twice rest]

end

/-! ## Two requests -/

/-- Two values of a credential: the same, or neither of them blank. -/
def SameOrFilled (a b : String) : Prop := a = b ∨ (trimSpace a ≠ "" ∧ trimSpace b ≠ "")

/-- The requests differ in the fields tagged sensitive alone, and there only where both
are filled in. -/
structure DifferInCredentials (a b : Request) : Prop where
  rest : b = { a with
    password := b.password, activationCode := b.activationCode, confirmationCode := b.confirmationCode }
  password : a.password = b.password ∨
    ∃ x y, a.password = some x ∧ b.password = some y ∧ trimSpace x ≠ "" ∧ trimSpace y ≠ ""
  activationCode : SameOrFilled a.activationCode b.activationCode
  confirmationCode : SameOrFilled a.confirmationCode b.confirmationCode

/-- Two fields a reader cannot tell apart. -/
def Twin (x y : String × Jsonb) : Prop :=
  x.1 = y.1 ∧ (x.2 = y.2 ∨
    (isSecret x.1 = true ∧ ∃ s t, x.2 = .str s ∧ y.2 = .str t ∧ s ≠ "" ∧ t ≠ ""))

def Twins : Fields → Fields → Prop := List.Forall₂ Twin

theorem Twin.refl (field : String × Jsonb) : Twin field field := ⟨rfl, .inl rfl⟩

theorem Twins.refl (fields : Fields) : Twins fields fields := List.forall₂_same.mpr fun field _ => Twin.refl field

theorem Twins.append {a b c d : Fields} (first : Twins a b) (second : Twins c d) : Twins (a ++ c) (b ++ d) :=
  List.rel_append first second

theorem twin_secret {key s t : String} (secret : isSecret key = true) (left : s ≠ "") (right : t ≠ "") :
    Twin (key, .str s) (key, .str t) := ⟨rfl, .inr ⟨secret, s, t, rfl, rfl, left, right⟩⟩

theorem insertField_twins {x y : String × Jsonb} (twin : Twin x y) : ∀ {a b : Fields}, Twins a b →
    Twins (insertField x.1 x.2 a) (insertField y.1 y.2 b) := by
  intro a b twins
  induction twins with
  | nil => exact .cons twin .nil
  | @cons l r a b here rest ih =>
    obtain ⟨key, value⟩ := l
    obtain ⟨other, held⟩ := r
    obtain ⟨name, kept⟩ := x
    obtain ⟨name', kept'⟩ := y
    obtain ⟨rfl, same⟩ := here
    obtain ⟨rfl, same'⟩ := twin
    unfold insertField
    by_cases equal : name = key
    · rw [if_pos equal, if_pos equal]
      exact .cons ⟨rfl, same⟩ rest
    · rw [if_neg equal, if_neg equal]
      by_cases before : keyLt name key = true
      · rw [if_pos before, if_pos before]
        exact .cons ⟨rfl, same'⟩ (.cons ⟨rfl, same⟩ rest)
      · rw [if_neg before, if_neg before]
        exact .cons ⟨rfl, same⟩ ih

theorem sorted_twins {a b : Fields} (twins : Twins a b) :
    Twins (a.foldr (fun field rest => insertField field.1 field.2 rest) [])
      (b.foldr (fun field rest => insertField field.1 field.2 rest) []) := by
  induction twins with
  | nil => exact .nil
  | cons here rest ih => exact insertField_twins here ih

/-! ### What is made of the payload -/

theorem redactFields_twins {a b : Fields} (twins : Twins a b) : redactFields a = redactFields b := by
  rw [redactFields_eq_map, redactFields_eq_map]
  induction twins with
  | nil => rfl
  | @cons x y a b here rest ih =>
    obtain ⟨key, value⟩ := x
    obtain ⟨name, held⟩ := y
    obtain ⟨rfl, same⟩ := here
    rw [List.map_cons, List.map_cons, ih]
    rcases same with rfl | ⟨secret, s, t, rfl, rfl, filled, filled'⟩
    · rfl
    · have left : concealed (.str s) = .str redacted := by simp [concealed, filled]
      have right : concealed (.str t) = .str redacted := by simp [concealed, filled']
      simp only [redactField, secret, if_true, left, right]

/-- A text goes through the decoder as it is. -/
theorem anyFields_twins {number : Rat → Option Rat} {a b : Fields} (twins : Twins a b) :
    (anyFields number a = none ∧ anyFields number b = none) ∨
      ∃ x y, anyFields number a = some x ∧ anyFields number b = some y ∧ Twins x y := by
  induction twins with
  | nil => exact .inr ⟨[], [], rfl, rfl, .nil⟩
  | @cons x y a b here rest ih =>
    obtain ⟨key, value⟩ := x
    obtain ⟨name, held⟩ := y
    obtain ⟨rfl, same⟩ := here
    rw [anyFields, anyFields]
    rcases same with rfl | ⟨secret, s, t, rfl, rfl, filled, filled'⟩
    · cases decoded : anyOf number value with
      | none => exact .inl ⟨rfl, rfl⟩
      | some inner =>
        rcases ih with ⟨left, right⟩ | ⟨x, y, left, right, twins⟩
        · rw [left, right]
          exact .inl ⟨rfl, rfl⟩
        · rw [left, right]
          exact .inr ⟨_, _, rfl, rfl, .cons (Twin.refl _) twins⟩
    · rw [anyOf, anyOf]
      rcases ih with ⟨left, right⟩ | ⟨x, y, left, right, twins⟩
      · rw [left, right]
        exact .inl ⟨rfl, rfl⟩
      · rw [left, right]
        exact .inr ⟨_, _, rfl, rfl, .cons (twin_secret secret filled filled') twins⟩

theorem redactJson_twins (number : Rat → Option Rat) {a b : Fields} (twins : Twins a b) :
    redactJson number (.obj a) = redactJson number (.obj b) := by
  simp only [redactJson]
  rcases @anyFields_twins number _ _ twins with ⟨left, right⟩ | ⟨x, y, left, right, alike⟩
  · rw [left, right]
  · rw [left, right]
    exact congrArg Jsonb.obj (redactFields_twins alike)

theorem secretKeys_eq : secretKeys = ["password", "activation_code", "confirmation_code"] := by
  decide

theorem listedKeys_eq : listedKeys = ["activation_code", "confirmation_code", "password"] := by
  decide

theorem isSecret_iff (key : String) : isSecret key = listedKeys.contains key := by
  rw [isSecret, secretKeys_eq, listedKeys_eq, Bool.eq_iff_iff]
  simp only [List.contains_iff_mem, List.mem_cons, List.not_mem_nil, or_false]
  exact ⟨fun h => by tauto, fun h => by tauto⟩

theorem listedPayload_twins {a b : Fields} (twins : Twins a b) :
    listedPayload (.obj a) = listedPayload (.obj b) := by
  show Except.ok (Jsonb.obj _) = Except.ok (Jsonb.obj _)
  congr 2
  induction twins with
  | nil => rfl
  | @cons x y a b here rest ih =>
    obtain ⟨same, equal | ⟨secret, _⟩⟩ := here
    · rw [Prod.ext same equal, List.filter_cons, List.filter_cons, ih]
    · rw [isSecret_iff] at secret
      rw [List.filter_cons_of_neg (by simpa using secret), List.filter_cons_of_neg (by simpa [← same] using secret), ih]

/-! ### What the builders make of two requests -/

theorem twins_of_password {a b : Option String}
    (alike : a = b ∨ ∃ x y, a = some x ∧ b = some y ∧ trimSpace x ≠ "" ∧ trimSpace y ≠ "") :
    Twins (a.map fun password => ("password", Jsonb.str password)).toList
      (b.map fun password => ("password", Jsonb.str password)).toList := by
  rcases alike with rfl | ⟨x, y, rfl, rfl, filled, filled'⟩
  · exact Twins.refl _
  · have blank : trimSpace "" = "" := by decide
    have left : x ≠ "" := by
      rintro rfl
      exact filled blank
    have right : y ≠ "" := by
      rintro rfl
      exact filled' blank
    exact .cons (twin_secret (by decide) left right) .nil

theorem configureApn_twins {a b : Request} {x y : Fields} (alike : DifferInCredentials a b)
    (left : configureApn.build a = .ok x) (right : configureApn.build b = .ok y) : Twins x y := by
  have password := twins_of_password alike.password
  rw [alike.rest] at right
  obtain ⟨cid, cidGiven, left⟩ := bind_success left
  obtain ⟨_, _, left⟩ := bind_success left
  obtain ⟨pdpType, typed, left⟩ := bind_success left
  obtain ⟨auth, authed, left⟩ := bind_success left
  cases left
  obtain ⟨cid', cidGiven', right⟩ := bind_success right
  obtain ⟨_, _, right⟩ := bind_success right
  obtain ⟨pdpType', typed', right⟩ := bind_success right
  obtain ⟨auth', authed', right⟩ := bind_success right
  cases right
  cases cidGiven.symm.trans cidGiven'
  cases typed.symm.trans typed'
  cases authed.symm.trans authed'
  exact (Twins.refl _).append password

theorem downloadEsimProfile_twins {a b : Request} {x y : Fields} (alike : DifferInCredentials a b)
    (left : downloadEsimProfile.build a = .ok x) (right : downloadEsimProfile.build b = .ok y) : Twins x y := by
  have modem : a.modemImei = b.modemImei := by rw [alike.rest]
  obtain ⟨_, filled, left⟩ := bind_success left
  obtain ⟨_, _, left⟩ := bind_success left
  obtain ⟨code, confirmed, left⟩ := bind_success left
  cases left
  obtain ⟨_, filled', right⟩ := bind_success right
  obtain ⟨_, _, right⟩ := bind_success right
  obtain ⟨code', confirmed', right⟩ := bind_success right
  cases right
  have head : Twins [("kind", .str "DownloadEsimProfile"), ("modem_imei", .str a.modemImei),
      ("activation_code", .str (trimSpace a.activationCode))] [("kind", .str "DownloadEsimProfile"),
      ("modem_imei", .str b.modemImei), ("activation_code", .str (trimSpace b.activationCode))] := by
    have left := of_decide_eq_true (require_iff.mp filled)
    have right := of_decide_eq_true (require_iff.mp filled')
    rw [modem]
    exact .cons (Twin.refl _) (.cons (Twin.refl _) (.cons (twin_secret (by decide) left right) .nil))
  refine head.append ?_
  rcases alike.confirmationCode with same | ⟨here, there⟩
  · rw [same] at confirmed
    cases confirmed.symm.trans confirmed'
    exact Twins.refl _
  · rcases optional_ok confirmed with ⟨absent, _⟩ | ⟨_, _, rfl⟩
    · exact absurd (of_decide_eq_true absent) here
    · rcases optional_ok confirmed' with ⟨absent, _⟩ | ⟨_, _, rfl⟩
      · exact absurd (of_decide_eq_true absent) there
      · exact .cons (twin_secret (by decide) here there) .nil

/-- A command that reads no credential. -/
def Blind (spec : Spec) : Prop := ∀ (request : Request) (password : Option String) (activation confirmation : String),
  spec.build { request with
    password := password, activationCode := activation, confirmationCode := confirmation } = spec.build request

theorem blind_twins {spec : Spec} (blind : Blind spec) {a b : Request} {x y : Fields}
    (alike : DifferInCredentials a b) (left : spec.build a = .ok x) (right : spec.build b = .ok y) : Twins x y := by
  rw [alike.rest, blind, left] at right
  cases right
  exact Twins.refl _

theorem build_twins {a b : Request} (alike : DifferInCredentials a b) : ∀ spec ∈ catalogue, ∀ {x y : Fields},
    spec.build a = .ok x → spec.build b = .ok y → Twins x y := by
  have blind : ∀ {spec : Spec}, Blind spec → ∀ {x y : Fields}, spec.build a = .ok x → spec.build b = .ok y → Twins x y :=
    fun blind _ _ left right => blind_twins blind alike left right
  simp only [catalogue, List.forall_mem_cons]
  refine ⟨?_, ?_, ?_, ?_, ?_, configureApn_twins alike, ?_, ?_, ?_, ?_, ?_, ?_, ?_, ?_, ?_, ?_, ?_, ?_, ?_, ?_, ?_, ?_,
    ?_, ?_, ?_, ?_, ?_, ?_, ?_, downloadEsimProfile_twins alike, ?_, ?_, ?_,
    fun _ member => absurd member List.not_mem_nil⟩
  all_goals exact blind fun _ _ _ _ => rfl

/-- Two requests that differ in their credentials alone leave the same trace for every reader. -/
theorem requests_look_alike {quote : String → String} {number : Rat → Option Rat} {a b : Request}
    {specA specB : Spec} {payloadA payloadB : Jsonb} (alike : DifferInCredentials a b)
    (left : buildPayload quote a = .ok (specA, payloadA)) (right : buildPayload quote b = .ok (specB, payloadB)) :
    redactJson number payloadA = redactJson number payloadB ∧
      auditEvent number a specA payloadA = auditEvent number b specB payloadB ∧
      listedPayload payloadA = listedPayload payloadB := by
  obtain ⟨found, _, x, builtA, rfl⟩ := buildPayload_ok left
  obtain ⟨found', _, y, builtB, rfl⟩ := buildPayload_ok right
  have device : a.deviceId = b.deviceId := by rw [alike.rest]
  have kind : requestKind a = requestKind b := by rw [alike.rest]; rfl
  rw [kind, found'] at found
  cases found
  have twins := sorted_twins (build_twins alike specA (lookup_ok found').1 builtA builtB)
  have audit : redactJson number (jsonbObject x) = redactJson number (jsonbObject y) := redactJson_twins number twins
  refine ⟨audit, ?_, listedPayload_twins twins⟩
  unfold auditEvent
  rw [audit, device]

/-- `Redact` of a map makes a copy without the secrets, of new objects alone, and leaves every
object there was as it was. -/
def CopiesConcealed (fuel : Nat) (heap : Heap) (ref : Nat) (document : Jsonb) : Prop :=
  ∃ heap' copy, redactValue fuel heap (.map ref) = some (heap', copy) ∧
    (∀ old < heap.length, heap'[old]? = heap[old]?) ∧
    Reads (heap.length ≤ ·) heap' copy (redactDocument document) ∧
    Conceals document (redactDocument document) ∧
    redactDocument (redactDocument document) = redactDocument document

theorem redact_copies_concealed {heap : Heap} {ref fuel : Nat} {fields : Fields}
    (reads : Reads (· < heap.length) heap (.map ref) (.obj fields)) (enough : sizeOf (Jsonb.obj fields) < fuel) :
    CopiesConcealed fuel heap ref (.obj fields) := by
  obtain ⟨heap', copy, ran, extended, readsCopy⟩ :=
    redactValue_copies fuel _ enough heap (.map ref) heap.length (Nat.le_refl _) reads
  exact ⟨heap', copy, ran, extended.2, readsCopy, conceals_redactDocument _, redactDocument_twice _⟩

/-- No reader tells two commands apart by their credentials, and `Redact` conceals every secret of
every object on the heap. -/
theorem credentials_not_visible (quote : String → String) (number : Rat → Option Rat) :
    (∀ a b specA specB payloadA payloadB, DifferInCredentials a b →
      buildPayload quote a = .ok (specA, payloadA) → buildPayload quote b = .ok (specB, payloadB) →
      redactJson number payloadA = redactJson number payloadB ∧
        auditEvent number a specA payloadA = auditEvent number b specB payloadB ∧
        listedPayload payloadA = listedPayload payloadB) ∧
      ∀ heap ref fuel fields, Reads (· < heap.length) heap (.map ref) (.obj fields) →
        sizeOf (Jsonb.obj fields) < fuel → CopiesConcealed fuel heap ref (.obj fields) :=
  ⟨fun _ _ _ _ _ _ alike left right => requests_look_alike alike left right,
    fun _ _ _ _ reads enough => redact_copies_concealed reads enough⟩

/-- An eSIM download with one of two activation codes. -/
def downloadRequest (matching : String) : Request :=
  { bareRequest "download_esim_profile" with activationCode := "LPA:1$smdp.example.com$" ++ matching }

def downloadPayload (matching : String) : Jsonb :=
  jsonbObject [("kind", .str "DownloadEsimProfile"), ("modem_imei", .str "867929068986654"),
    ("activation_code", .str ("LPA:1$smdp.example.com$" ++ matching))]

/-- A map on the heap with a nested password. -/
def nestedHeap : Heap :=
  [.map [("apn", .plain (.str "internet")), ("auth", .map 1)], .map [("password", .plain (.str "secret"))]]

theorem nestedHeap_reads : Reads (· < nestedHeap.length) nestedHeap (.map 0)
    (.obj [("apn", .str "internet"), ("auth", .obj [("password", .str "secret")])]) :=
  ⟨by decide, _, rfl, by decide, rfl, ⟨rfl, rfl⟩, rfl,
    ⟨by decide, _, rfl, by decide, rfl, ⟨rfl, rfl⟩, trivial⟩, trivial⟩

theorem downloads_look_alike :
    redactJson some (downloadPayload "ALPHA") = redactJson some (downloadPayload "BRAVO") ∧
      listedPayload (downloadPayload "ALPHA") = listedPayload (downloadPayload "BRAVO") ∧
      downloadPayload "ALPHA" ≠ downloadPayload "BRAVO" ∧
      ∃ fuel heap' copy, redactValue fuel nestedHeap (.map 0) = some (heap', copy) ∧
        ∀ old < nestedHeap.length, heap'[old]? = nestedHeap[old]? := by
  have alike : DifferInCredentials (downloadRequest "ALPHA") (downloadRequest "BRAVO") :=
    ⟨rfl, .inl rfl, .inr (by decide), .inl rfl⟩
  obtain ⟨readers, copies⟩ := credentials_not_visible id some
  obtain ⟨audit, _, listed⟩ := readers (downloadRequest "ALPHA") (downloadRequest "BRAVO") downloadEsimProfile
    downloadEsimProfile (downloadPayload "ALPHA") (downloadPayload "BRAVO") alike rfl rfl
  obtain ⟨heap', copy, ran, same, _⟩ := copies nestedHeap 0 _ _ nestedHeap_reads (Nat.lt_succ_self _)
  exact ⟨audit, listed, by decide, _, heap', copy, ran, same⟩

end VodogeCloud.Guarantees.HiddenCredentials
