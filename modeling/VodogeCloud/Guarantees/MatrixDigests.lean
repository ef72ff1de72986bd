import VodogeCloud.Guarantees.CanonicalTexts
import VodogeCloud.Guarantees.CardRenderings

/-!
# The digest of a pushed matrix

An edge refuses a matrix whose digest it cannot reproduce. The gateway hashes what
`Canonical` wrote, and the edge hashes what it received as serde_json writes it. Both
push paths carry the digest of the canonical text beside the same document, so the
digest is right exactly where the two encoders agree on that document, collisions of the
hash apart: a `<` in the reason of an unsupported rule is enough to make it wrong.
-/

set_option autoImplicit false

namespace VodogeCloud.Guarantees.MatrixDigests

open VodogeCloud.Lib VodogeCloud.Lib.Transactions VodogeCloud.Source VodogeCloud.Source.Postgres
open VodogeCloud.Source.CommandLifecycle VodogeCloud.Source.GoJson VodogeCloud.Source.JsonText
open VodogeCloud.Source.CapabilityMatrix VodogeCloud.Guarantees.CanonicalTexts
open VodogeCloud.Guarantees.CardRenderings (get_jsonbObject)

/-! ## The two push paths -/

/-- The overlays that are pushed for an accepted document: the fresh one, and the one
read back while the row of the tenant is still the one that was put. -/
inductive Pushed (float : FloatFormat) (raw : Json) : Overlay → Prop
  | fresh {overlay : Overlay} (accepted : parse float raw = .ok overlay) : Pushed float raw overlay
  | readBack {overlay back : Overlay} {tenant : Uuid} {db stored later : MatrixDb}
      (accepted : parse float raw = .ok overlay) (written : put tenant overlay db = .ok stored)
      (kept : later.find tenant = stored.find tenant) (read : get tenant later = some back) :
      Pushed float raw back

/-- The digest of a command is the one the edge computes from its matrix. -/
def DigestRight (payload : Jsonb) : Prop :=
  ∃ value, payload.get "matrix" = some value ∧
    payload.get "matrix_sha256" = some (.str (sha256Hex (serdeText value)))

theorem parse_ok {float : FloatFormat} {raw : Json} {overlay : Overlay} (h : parse float raw = .ok overlay) :
    ∃ value, reencode float raw = some value ∧ overlay.document = .written value ∧
      overlay.sha256 = sha256Hex (goText value) ∧
      stringField "version" ((structFields value).getD []) = some overlay.version := by
  obtain ⟨value, encoded, h⟩ := bind_success h
  refine ⟨value, ?_, ?_⟩
  · unfold canonical at encoded
    cases again : reencode float raw with
    | none =>
      rw [again] at encoded
      cases encoded
    | some other =>
      rw [again] at encoded
      dsimp only at encoded
      by_cases object : other.isObject = true
      · rw [if_pos object] at encoded
        cases encoded
        rfl
      · rw [if_neg object] at encoded
        cases encoded
  · dsimp only at h
    cases version : stringField "version" ((structFields value).getD []) with
    | none =>
      rw [version] at h
      cases h
    | some name =>
      cases rules : rawMessages "rule" ((structFields value).getD []) with
      | none =>
        rw [version, rules] at h
        cases h
      | some count =>
        rw [version, rules] at h
        dsimp only at h
        by_cases unnamed : name = ""
        · rw [if_pos unnamed] at h
          cases h
        · rw [if_neg unnamed] at h
          by_cases none_ : count = 0
          · rw [if_pos none_] at h
            cases h
          · rw [if_neg none_] at h
            cases h
            exact ⟨rfl, rfl, rfl⟩

theorem put_ok {tenant : Uuid} {overlay : Overlay} {db stored : MatrixDb}
    (h : put tenant overlay db = .ok stored) :
    ∃ value, overlay.document.value = .ok value ∧
      stored.find tenant = some ⟨tenant, overlay.version, overlay.sha256, value⟩ ∧
      ∀ other, other ≠ tenant → stored.find other = db.find other := by
  unfold put at h
  by_cases nul : overlay.version.toList.contains '\x00' = true
  · rw [if_pos nul] at h
    cases h
  · rw [if_neg nul] at h
    cases cast : overlay.document.value with
    | error err =>
      rw [cast] at h
      cases h
    | ok value =>
      rw [cast] at h
      dsimp only at h
      by_cases object : value.isObject = false
      · rw [if_pos object] at h
        cases h
      · rw [if_neg object] at h
        by_cases noDigest : blank overlay.sha256 = true
        · rw [if_pos noDigest] at h
          cases h
        · rw [if_neg noDigest] at h
          by_cases noVersion : blank overlay.version = true
          · rw [if_pos noVersion] at h
            cases h
          · rw [if_neg noVersion] at h
            cases h
            refine ⟨value, rfl, Table.find_upsert_self.trans ?_, fun other differs =>
              Table.find_upsert_of_ne differs⟩
            congr 1
            cases found : db.find tenant with
            | none => rfl
            | some old =>
              obtain ⟨_, owner⟩ := Table.find_eq_some_iff.mp found
              show overwriteWith _ old = _
              unfold overwriteWith
              rw [owner]

/-- Either path carries the digest of the canonical text beside the stored document. -/
theorem Pushed.digest {float : FloatFormat} {raw : Json} {overlay : Overlay} {value : Jsonb}
    (pushed : Pushed float raw overlay) (document : overlay.document.value = .ok value) :
    ∃ written, reencode float raw = some written ∧ jsonbIn written = .ok value ∧
      overlay.sha256 = sha256Hex (goText written) := by
  cases pushed with
  | fresh accepted =>
    obtain ⟨written, encoded, kept, digest, _⟩ := parse_ok accepted
    rw [kept] at document
    exact ⟨written, encoded, document, digest⟩
  | readBack accepted stored kept read =>
    obtain ⟨written, encoded, source, digest, _⟩ := parse_ok accepted
    obtain ⟨column, cast, row, _⟩ := put_ok stored
    rw [source] at cast
    unfold CapabilityMatrix.get at read
    rw [kept, row] at read
    cases read
    cases document
    exact ⟨written, encoded, cast, digest⟩

/-- What a matrix payload says. -/
theorem payloadObject_get (version sha256 : String) (value : Jsonb) :
    (payloadObject version sha256 value).get "matrix_version" = some (.str version) ∧
      (payloadObject version sha256 value).get "matrix_sha256" = some (.str sha256) ∧
      (payloadObject version sha256 value).get "matrix" = some value := by
  have fields := @get_jsonbObject [("kind", .str "UpdateCapabilityMatrix"), ("matrix_version", .str version),
    ("matrix_sha256", .str sha256), ("matrix", value)]
    (show ["kind", "matrix_version", "matrix_sha256", "matrix"].Nodup by decide)
  unfold payloadObject
  rw [fields, fields, fields]
  simp

theorem digestRight_payload {overlay : Overlay} {value payload : Jsonb}
    (document : overlay.document.value = .ok value) (built : commandPayload overlay = .ok payload) :
    DigestRight payload ↔ overlay.sha256 = sha256Hex (serdeText value) := by
  unfold commandPayload at built
  rw [document] at built
  cases built
  obtain ⟨_, digest, matrix⟩ := payloadObject_get overlay.version overlay.sha256 value
  unfold DigestRight
  rw [digest, matrix]
  simp

/-! ## The two encoders -/

/-- The two encoders write different texts of one digest. -/
def Collision (value : Jsonb) : Prop :=
  orderedText goEscape value ≠ serdeText value ∧
    sha256Hex (orderedText goEscape value) = sha256Hex (serdeText value)

/-- The digest is the one the edge computes exactly where no key and no string of the
document has one of the five characters that Go escapes for HTML, or SHA-256 collides. -/
theorem digest_right_iff_plain {float : FloatFormat} (integers : ExactIntegers float) {raw : Json}
    (whole : AllNumbers Whole raw) {overlay : Overlay} (pushed : Pushed float raw overlay)
    {value payload : Jsonb} (document : overlay.document.value = .ok value)
    (built : commandPayload overlay = .ok payload) :
    DigestRight payload ↔ Plain value ∨ Collision value := by
  obtain ⟨written, encoded, cast, digest⟩ := pushed.digest document
  have same := goText_of_jsonbIn
    (reencode_canonical (whole.imp fun _ _ => sameEncoded_of_whole integers) encoded) cast
  rw [digestRight_payload document built, digest, same, ← texts_agree_iff]
  constructor
  · intro equal
    by_cases texts : orderedText goEscape value = serdeText value
    · exact Or.inl texts
    · exact Or.inr ⟨texts, equal⟩
  · rintro (texts | collision)
    · rw [texts]
    · exact collision.2

/-! ## Two documents -/

/-- The integer a JSON number is, where it is one. -/
def integerValue (mantissa : Int) (exponent : Option Int) : Int :=
  match exponent.getD 0 with
  | .ofNat up => mantissa * 10 ^ up
  | .negSucc down => mantissa / 10 ^ (down + 1)

theorem integerValue_eq {mantissa : Int} {exponent : Option Int} {value : Int}
    (number : NumberIs mantissa exponent value) : integerValue mantissa exponent = value := by
  unfold NumberIs at number
  unfold integerValue
  cases power : exponent.getD 0 with
  | ofNat up =>
    rw [power] at number
    exact number
  | negSucc down =>
    rw [power] at number
    dsimp only at number ⊢
    rw [number]
    exact Int.mul_ediv_cancel _ (pow_ne_zero _ (by decide))

/-- An integer below 2^53 as Go writes it; the documents below have no other number. -/
def exactInteger (value : Int) : Int := if value.natAbs < 2 ^ 53 then value else 0

theorem exactInteger_digits (value : Int) : (exactInteger value).natAbs < 10 ^ 21 := by
  have limit : 2 ^ 53 < 10 ^ 21 := by decide
  unfold exactInteger
  split
  · omega
  · decide

theorem no_exponent (power : Int) (member : power ∈ (none : Option Int)) : -400 ≤ power ∧ power ≤ 400 := by
  cases member

def integerFloat : FloatFormat where
  encode mantissa exponent := (exactInteger (integerValue mantissa exponent), none)
  digits mantissa exponent := exactInteger_digits (integerValue mantissa exponent)
  exponents _ _ := no_exponent

theorem integerFloat_exact : ExactIntegers integerFloat := by
  intro mantissa exponent value number small
  show (exactInteger (integerValue mantissa exponent), none) = (value, none)
  rw [integerValue_eq number, exactInteger, if_pos small]

/-- A document with one rule that is unsupported for a reason. -/
def reasonDocument (reason : String) : Json :=
  object [("version", text "1"), ("rule", .arr [object [("data", object [("kind", text "unsupported"),
    ("reason", text reason)])]])]

def storedReason (reason : String) : Jsonb :=
  jsonbObject [("version", .str "1"), ("rule", .arr [jsonbObject [("data", jsonbObject
    [("kind", .str "unsupported"), ("reason", .str reason)])]])]

/-- What `Canonical` makes of it. -/
def canonicalReason (reason : String) : Json :=
  object [("rule", .arr [object [("data", object [("kind", text "unsupported"),
    ("reason", text reason)])]]), ("version", text "1")]

def reasonOverlay (reason : String) : Overlay :=
  ⟨"1", sha256Hex (goText (canonicalReason reason)), .written (canonicalReason reason)⟩

theorem reasonDocument_whole (reason : String) : AllNumbers Whole (reasonDocument reason) :=
  ⟨trivial, ⟨⟨⟨trivial, trivial, trivial⟩, trivial⟩, trivial⟩, trivial⟩

theorem storedReason_plain : Plain (storedReason "too slow") := by
  have clean : ∀ text ∈ ["rule", "data", "kind", "unsupported", "reason", "too slow", "version", "1"],
      NoHtml text.toList := by
    have checked : (["rule", "data", "kind", "unsupported", "reason", "too slow", "version", "1"].all
        fun text => text.toList.all fun c => !htmlSpecial c) = true := by decide
    intro text member c inside
    simpa using List.all_eq_true.mp (List.all_eq_true.mp checked text member) c inside
  have inner : Plain (jsonbObject [("kind", .str "unsupported"), ("reason", .str "too slow")]) :=
    ⟨clean "kind" (by simp), clean "unsupported" (by simp), clean "reason" (by simp),
      clean "too slow" (by simp), trivial⟩
  exact ⟨clean "rule" (by simp), ⟨⟨clean "data" (by simp), inner, trivial⟩, trivial⟩,
    clean "version" (by simp), clean "1" (by simp), trivial⟩

theorem plain_reason_right :
    DigestRight (payloadObject "1" (reasonOverlay "too slow").sha256 (storedReason "too slow")) := by
  have accepted : parse integerFloat (reasonDocument "too slow") = .ok (reasonOverlay "too slow") := rfl
  have document : (reasonOverlay "too slow").document.value = .ok (storedReason "too slow") := rfl
  have built : commandPayload (reasonOverlay "too slow") =
    .ok (payloadObject "1" (reasonOverlay "too slow").sha256 (storedReason "too slow")) := rfl
  have exactly_ := digest_right_iff_plain integerFloat_exact (reasonDocument_whole "too slow") (.fresh accepted)
    document built
  exact exactly_.mpr (Or.inl storedReason_plain)

theorem angled_reason_wrong :
    AllNumbers Whole (reasonDocument "a<b") ∧ Pushed integerFloat (reasonDocument "a<b") (reasonOverlay "a<b") ∧
    ∃ payload, commandPayload (reasonOverlay "a<b") = .ok payload ∧ ¬DigestRight payload := by
  have accepted : parse integerFloat (reasonDocument "a<b") = .ok (reasonOverlay "a<b") := rfl
  have document : (reasonOverlay "a<b").document.value = .ok (storedReason "a<b") := rfl
  have built : commandPayload (reasonOverlay "a<b") =
    .ok (payloadObject "1" (reasonOverlay "a<b").sha256 (storedReason "a<b")) := rfl
  have digests : sha256Hex (goText (canonicalReason "a<b")) ≠ sha256Hex (serdeText (storedReason "a<b")) := by
    decide +kernel
  refine ⟨reasonDocument_whole _, .fresh accepted, _, built, fun right => ?_⟩
  exact digests ((digestRight_payload document built).mp right)

end VodogeCloud.Guarantees.MatrixDigests
