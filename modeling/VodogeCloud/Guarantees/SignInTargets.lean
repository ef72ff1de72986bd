import VodogeCloud.Guarantees.ExportedUrls
import VodogeCloud.Source.ConsoleSession

/-!
# Where signing in leads

A destination that `safeNext` lets through begins with one slash, and a reference that begins
so names another host exactly when the second character the URL parser reads is a slash to
it: tabs and newlines are dropped before it looks, and a backslash counts. What
`loginRedirect` writes reads back as the path it was given.
-/

set_option autoImplicit false

namespace VodogeCloud.Guarantees.SignInTargets

open VodogeCloud.Source.Postgres VodogeCloud.Source.ConsoleSession
open VodogeCloud.Source.GoJson (scalarOf)
open VodogeCloud.Source.JsonText (utf8)
open VodogeCloud.Source.NetUrl (before after before_append after_append)
open VodogeCloud.Source.ProxyExport (upperHex)
open VodogeCloud.Source.ClientAddress (trimWith)
open VodogeCloud.Guarantees.ExportedUrls (hexDigit_upperHex digits_lt utf8_append absent_of_all)

/-! ## Escaping and reading back -/

theorem octets_escapeOctet (octet : UInt8) (rest : List Char) :
    octets (escapeOctet octet ++ rest) = (octets rest).map (octet :: ·) := by
  obtain ⟨high, low⟩ := digits_lt octet
  have first := hexDigit_upperHex ⟨octet.toNat / 16, high⟩
  have second := hexDigit_upperHex ⟨octet.toNat % 16, low⟩
  have whole : 16 * (octet.toNat / 16) + octet.toNat % 16 = octet.toNat := Nat.div_add_mod _ _
  dsimp only at first second
  show octets ('%' :: upperHex (octet.toNat / 16) :: upperHex (octet.toNat % 16) :: rest) = _
  rw [octets, first, second]
  dsimp only
  rw [whole, UInt8.ofNat_toNat]

theorem octets_escaped (bytes : List UInt8) (rest : List Char) :
    octets (bytes.flatMap escapeOctet ++ rest) = (octets rest).map (bytes ++ ·) := by
  induction bytes with
  | nil => exact (Option.map_id_apply).symm
  | cons octet bytes ih =>
    rw [List.flatMap_cons, List.append_assoc, octets_escapeOctet, ih, Option.map_map]
    rfl

theorem octets_bare {c : Char} (bare : c ≠ '%') (rest : List Char) :
    octets (c :: rest) = (octets rest).map (utf8 [c] ++ ·) := by
  rw [octets.eq_def]
  split
  · next same => cases same
  · next high low more same => exact absurd (List.cons.inj same).1 bare
  · next head more _ same =>
    obtain ⟨rfl, rfl⟩ := List.cons.inj same
    rw [if_neg bare]

theorem octets_encodeChar (c : Char) (rest : List Char) :
    octets (encodeChar c ++ rest) = (octets rest).map (utf8 [c] ++ ·) := by
  unfold encodeChar
  split
  · rename_i plain
    have bare : c ≠ '%' := by
      rintro rfl
      exact absurd plain (by decide)
    exact octets_bare bare rest
  · exact octets_escaped (utf8 [c]) rest

theorem encodeURIComponent_scalars (text : List Char) :
    encodeURIComponent (text.map .scalar) = some (text.flatMap encodeChar) := by
  induction text with
  | nil => rfl
  | cons c text ih =>
    rw [List.map_cons, encodeURIComponent, ih]
    rfl

theorem octets_encoded (text : List Char) : octets (text.flatMap encodeChar) = some (utf8 text) := by
  induction text with
  | nil => rfl
  | cons c text ih =>
    rw [List.flatMap_cons, octets_encodeChar, ih, Option.map_some, ← utf8_append]
    rfl

theorem decodeURIComponent_encoded (text : List Char) :
    decodeURIComponent (text.flatMap encodeChar) = some (text.map .scalar) := by
  have read : (utf8 text).toByteArray.utf8Decode? = some text.toArray := List.utf8Decode?_utf8Encode
  unfold decodeURIComponent
  rw [octets_encoded]
  simp only [Option.bind_eq_bind, Option.bind_some, read]
  rfl

/-! ## The parameter of the redirect -/

/-- The characters a component is written with. -/
def componentChar (c : Char) : Bool := uriUnescaped c || c = '%'

theorem componentChar_upperHex : ∀ digit : Fin 16, componentChar (upperHex digit.val) = true := by decide

theorem encodeChar_component {c : Char} : ∀ x ∈ encodeChar c, componentChar x = true := by
  intro x member
  unfold encodeChar at member
  split at member
  · rename_i plain
    rw [List.mem_singleton.mp member, componentChar, plain, Bool.true_or]
  · obtain ⟨octet, _, member⟩ := List.mem_flatMap.mp member
    obtain ⟨high, low⟩ := digits_lt octet
    simp only [escapeOctet, List.mem_cons, List.not_mem_nil, or_false] at member
    rcases member with rfl | rfl | rfl
    · decide
    · exact componentChar_upperHex ⟨_, high⟩
    · exact componentChar_upperHex ⟨_, low⟩

theorem encoded_component (text : List Char) : ∀ x ∈ text.flatMap encodeChar, componentChar x = true := by
  intro x member
  obtain ⟨c, _, member⟩ := List.mem_flatMap.mp member
  exact encodeChar_component x member

theorem nextParameter_redirect {encoded : List Char} (component : ∀ x ∈ encoded, componentChar x = true) :
    nextParameter ("/login?next=".toList ++ encoded) = some encoded := by
  have query : "/login?next=".toList ++ encoded = "/login".toList ++ '?' :: ("next=".toList ++ encoded) := rfl
  have field : "next=".toList ++ encoded = "next".toList ++ '=' :: encoded := rfl
  have single : ('&' : Char) ∉ "next=".toList ++ encoded := by
    intro member
    rcases List.mem_append.mp member with inName | inValue
    · exact absurd inName (by decide)
    · exact @absent_of_all componentChar _ _ (by decide) component inValue
  unfold nextParameter
  rw [query, after_append (by decide), List.splitOn_eq_singleton single, field,
    List.find?_cons_of_pos (by rw [before_append (by decide)]; decide), Option.map_some,
    after_append (by decide)]

theorem exists_scalars {text : JsString} (paired : ∀ unit, JsonChar.loneSurrogate unit ∉ text) :
    ∃ scalars : List Char, text = scalars.map .scalar := by
  induction text with
  | nil => exact ⟨[], rfl⟩
  | cons c text ih =>
    cases c with
    | loneSurrogate unit => exact absurd List.mem_cons_self (paired unit)
    | scalar c =>
      obtain ⟨scalars, rfl⟩ := ih fun unit member => paired unit (List.mem_cons_of_mem _ member)
      exact ⟨c :: scalars, rfl⟩

theorem encodeURIComponent_lone {text : JsString} {unit : Nat}
    (lone : JsonChar.loneSurrogate unit ∈ text) : encodeURIComponent text = none := by
  induction text with
  | nil => cases lone
  | cons c text ih =>
    cases c with
    | loneSurrogate _ => rfl
    | scalar c =>
      rcases List.mem_cons.mp lone with same | later
      · cases same
      · rw [encodeURIComponent, ih later]
        rfl

/-- A path of the site: one slash, and not a second. -/
structure SitePath (pathname : JsString) : Prop where
  slash : startsWith pathname "/" = true
  single : startsWith pathname "//" = false

theorem safeNext_sitePath {text : JsString} (path : SitePath text) : safeNext (some text) = text := by
  have some_ : text ≠ [] := by
    rintro rfl
    exact absurd path.slash (by decide)
  unfold safeNext
  dsimp only
  rw [path.slash, path.single, if_neg (by simp [some_])]

theorem loginRedirect_sitePath {pathname : JsString} (path : SitePath pathname)
    (guarded : isPublicPath pathname = false) (inner : pathname ≠ chars "/") :
    loginRedirect pathname = (encodeURIComponent pathname).map ("/login?next=".toList ++ ·) := by
  have safe : (if startsWith pathname "/" && !startsWith pathname "//" then pathname else chars "/") = pathname :=
    if_pos (by rw [path.slash, path.single]; rfl)
  unfold loginRedirect
  dsimp only
  rw [safe, guarded, Bool.or_false, if_neg (by rw [decide_eq_true_eq]; exact inner)]

/-- A path comes back whole exactly when it can be encoded at all. -/
theorem landing_iff {pathname : JsString} (path : SitePath pathname)
    (guarded : isPublicPath pathname = false) :
    landing pathname = some pathname ↔ ∀ unit, JsonChar.loneSurrogate unit ∉ pathname := by
  by_cases root : pathname = chars "/"
  · subst root
    exact ⟨fun _ unit => by simp [chars], fun _ => by decide⟩
  · unfold landing
    rw [loginRedirect_sitePath path guarded root]
    constructor
    · intro landed unit lone
      rw [encodeURIComponent_lone lone] at landed
      cases landed
    · intro paired
      obtain ⟨text, rfl⟩ := exists_scalars paired
      rw [encodeURIComponent_scalars]
      simp only [Option.map_some, Option.bind_eq_bind, Option.bind_some,
        nextParameter_redirect (encoded_component text), decodeURIComponent_encoded,
        safeNext_sitePath path]
      rfl

/-! ## The host a reference names -/

/-- The parser reads a slash where a path has its second character. -/
def SecondSlash (input : List Char) : Prop := ∃ first second rest, input = first :: second :: rest ∧ isSlash second = true

/-- A path that names a host once the tabs and newlines are dropped. -/
def NamesHost (text : JsString) : Prop :=
  SitePath text ∧ SecondSlash ((text.map scalarOf).filter fun c => !isTabOrNewline c)

theorem trimWith_append {space : Char → Bool} {first : Char} (rest : List Char) (kept : space first = false) :
    ∃ tail, first :: rest = trimWith space (first :: rest) ++ tail ∧ ∀ c ∈ tail, space c = true := by
  have start : (first :: rest).dropWhile space = first :: rest :=
    List.dropWhile_cons_of_neg (by rw [kept]; decide)
  refine ⟨((first :: rest).reverse.takeWhile space).reverse, ?_, ?_⟩
  · unfold trimWith
    rw [start, ← List.reverse_append, List.takeWhile_append_dropWhile, List.reverse_reverse]
  · intro c member
    exact List.mem_takeWhile_imp (List.mem_reverse.mp member)

theorem isSlash_kept {c : Char} (slash : isSlash c = true) :
    isControlOrSpace c = false ∧ isTabOrNewline c = false := by
  rw [isSlash, Bool.or_eq_true, decide_eq_true_eq, decide_eq_true_eq] at slash
  rcases slash with rfl | rfl
  · exact ⟨by decide, by decide⟩
  · exact ⟨by decide, by decide⟩

theorem secondSlash_append {input tail : List Char} (plain : ∀ c ∈ tail, isSlash c = false) :
    SecondSlash (input ++ tail) ↔ SecondSlash input := by
  constructor
  · rintro ⟨first, second, rest, same, slash⟩
    have notTail : second ∉ tail := fun member => by
      rw [plain second member] at slash
      cases slash
    match input with
    | [] =>
      rw [List.nil_append] at same
      rw [same] at notTail
      exact absurd (List.mem_cons_of_mem _ List.mem_cons_self) notTail
    | [head] =>
      have tailIs : tail = second :: rest := (List.cons.inj same).2
      rw [tailIs] at notTail
      exact absurd List.mem_cons_self notTail
    | head :: next :: more =>
      have nextIs : next = second := (List.cons.inj (List.cons.inj same).2).1
      exact ⟨head, next, more, rfl, by rw [nextIs]; exact slash⟩
  · rintro ⟨first, second, rest, rfl, slash⟩
    exact ⟨first, second, rest ++ tail, rfl, slash⟩

/-- What trimming takes away is never the second slash. -/
theorem secondSlash_parserInput {text : JsString} {rest : List Char}
    (slash : text.map scalarOf = '/' :: rest) :
    SecondSlash (parserInput text) ↔ SecondSlash ((text.map scalarOf).filter fun c => !isTabOrNewline c) := by
  obtain ⟨tail, whole, spaces⟩ := @trimWith_append isControlOrSpace '/' rest (by decide)
  have plain : ∀ c ∈ tail.filter (fun c => !isTabOrNewline c), isSlash c = false := by
    intro c member
    rw [Bool.eq_false_iff]
    intro slash
    have kept := (isSlash_kept slash).1
    rw [spaces c (List.mem_filter.mp member).1] at kept
    cases kept
  rw [parserInput, slash]
  conv_rhs => rw [whole, List.filter_append]
  exact (secondSlash_append plain).symm

theorem parserInput_head {text : JsString} {rest : List Char} (slash : text.map scalarOf = '/' :: rest) :
    ∃ more, parserInput text = '/' :: more := by
  obtain ⟨tail, whole, spaces⟩ := @trimWith_append isControlOrSpace '/' rest (by decide)
  rw [parserInput, slash]
  match trimWith isControlOrSpace ('/' :: rest), whole with
  | [], whole =>
    have inTail : '/' ∈ tail := by
      rw [← List.nil_append tail, ← whole]
      exact List.mem_cons_self
    exact absurd (spaces '/' inTail) (by decide)
  | first :: more, whole =>
    obtain ⟨rfl, _⟩ := List.cons.inj whole
    exact ⟨_, List.filter_cons_of_pos (by decide)⟩

/-- A second slash makes the target the same for every site, anything else makes it the site
that was asked from. -/
theorem resolve_cases (parser : UrlParser) {text : JsString} {rest : List Char}
    (slash : text.map scalarOf = '/' :: rest) :
    (SecondSlash (parserInput text) → ∃ target, ∀ base, parser.resolve base text = target) ∧
      (¬ SecondSlash (parserInput text) → ∀ base, parser.resolve base text = some base) := by
  obtain ⟨more, input⟩ := parserInput_head slash
  have relative : schemeOf ('/' :: more) = none := by
    unfold schemeOf
    exact if_neg (by decide)
  have resolved : ∀ base, parser.resolve base text =
      match more with
      | second :: rest =>
        if isSlash second then
          parser.authority ((rest.dropWhile isSlash).takeWhile fun c => !(isSlash c || c = '?' || c = '#'))
        else some base
      | [] => some base := by
    intro base
    unfold UrlParser.resolve
    simp only [input, relative]
    cases more with
    | nil => rfl
    | cons second rest => rfl
  rw [input]
  cases more with
  | nil =>
    refine ⟨?_, fun _ => resolved⟩
    rintro ⟨_, _, _, same, _⟩
    cases same
  | cons second rest =>
    constructor
    · rintro ⟨_, _, _, same, host⟩
      obtain ⟨_, same⟩ := List.cons.inj same
      obtain ⟨rfl, _⟩ := List.cons.inj same
      exact ⟨_, fun base => (resolved base).trans (if_pos host)⟩
    · intro local_ base
      refine (resolved base).trans (if_neg fun host => ?_)
      exact local_ ⟨_, _, _, rfl, host⟩

theorem scalars_slash {text : JsString} (path : SitePath text) : ∃ rest, text.map scalarOf = '/' :: rest := by
  obtain ⟨rest, rfl⟩ := List.isPrefixOf_iff_prefix.mp path.slash
  exact ⟨rest.map scalarOf, rfl⟩

theorem resolve_root (parser : UrlParser) (base : Origin) : parser.resolve base (chars "/") = some base := rfl

/-! ## Signing in -/

/-- Every site keeps the account exactly when the destination is no path that names a host
to the parser, and a guarded path is where the account lands exactly when it can be encoded. -/
theorem sign_in_stays_iff (parser : UrlParser) (next : Option JsString) (pathname : JsString)
    (path : SitePath pathname) (guarded : isPublicPath pathname = false) :
    ((∀ base, parser.resolve base (safeNext next) = some base) ↔ ∀ text, next = some text → ¬ NamesHost text) ∧
      (landing pathname = some pathname ↔ ∀ unit, JsonChar.loneSurrogate unit ∉ pathname) := by
  refine ⟨⟨?_, ?_⟩, landing_iff path guarded⟩
  · rintro stays text rfl ⟨single, host⟩
    obtain ⟨rest, slash⟩ := scalars_slash single
    obtain ⟨target, same⟩ := (resolve_cases parser slash).1 ((secondSlash_parserInput slash).mpr host)
    rw [safeNext_sitePath single] at stays
    have here := (same ⟨"", 0⟩).symm.trans (stays ⟨"", 0⟩)
    have there := (same ⟨"", 1⟩).symm.trans (stays ⟨"", 1⟩)
    rw [here] at there
    exact absurd there (by decide)
  · intro local_ base
    cases next with
    | none => exact resolve_root parser base
    | some text =>
      by_cases single : SitePath text
      · obtain ⟨rest, slash⟩ := scalars_slash single
        rw [safeNext_sitePath single]
        refine (resolve_cases parser slash).2 (fun host => ?_) base
        exact local_ text rfl ⟨single, (secondSlash_parserInput slash).mp host⟩
      · have refused : safeNext (some text) = chars "/" := by
          refine if_pos ?_
          by_contra accepted
          simp only [Bool.or_eq_true, Bool.not_eq_true', not_or, Bool.not_eq_false] at accepted
          exact single ⟨accepted.1.2, Bool.eq_false_iff.mpr accepted.2⟩
        rw [refused]
        exact resolve_root parser base

/-- A parser that knows one host. -/
def sampleParser : UrlParser where
  authority text := if text = "evil.example".toList then some ⟨"evil.example", 443⟩ else none
  absolute _ _ _ := none

theorem sign_in_stays_inbox :
    (∀ base, sampleParser.resolve base (safeNext (some (chars "/inbox"))) = some base) ∧
      landing (chars "/inbox") = some (chars "/inbox") := by
  have stays := sign_in_stays_iff sampleParser (some (chars "/inbox")) (chars "/inbox") ⟨by decide, by decide⟩ (by decide)
  refine ⟨stays.1.mpr ?_, stays.2.mpr ?_⟩
  · rintro text same ⟨_, _, _, _, input, slash⟩
    cases same
    cases input
    exact absurd slash (by decide)
  · intro unit
    simp [chars]

/-- `/\evil.example` is let through and leaves the site. -/
theorem backslash_leaves :
    safeNext (some (chars "/\\evil.example")) = chars "/\\evil.example" ∧
      sampleParser.resolve ⟨"a.vodoge.com", 443⟩ (safeNext (some (chars "/\\evil.example"))) ≠
        some ⟨"a.vodoge.com", 443⟩ ∧
      sampleParser.resolve ⟨"a.vodoge.com", 443⟩ (safeNext (some (chars "/\\evil.example"))) =
        some ⟨"evil.example", 443⟩ := by
  decide

end VodogeCloud.Guarantees.SignInTargets
