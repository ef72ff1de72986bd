import VodogeCloud.Guarantees.ClientBuckets
import VodogeCloud.Source.TenantHost

/-!
# One host, two tenants

The gateway cuts a port off a host as `net.SplitHostPort` does, the console by the digits
after the last colon or by the brackets. Where both rules apply or neither does, the two
read the same name. A host that one rule cuts and the other does not names a tenant to
one of them alone, or to neither.
-/

set_option autoImplicit false

namespace VodogeCloud.Guarantees.TenantHosts

open VodogeCloud.Source.ClientAddress VodogeCloud.Source.TenantHost VodogeCloud.Guarantees.ClientBuckets
open VodogeCloud.Source.ServeDevice (isSpace)

/-! ## Readings of a host -/

/-- The host is one label under the base domain, and not `www`. -/
def Names (base host label : List Char) : Prop :=
  host = label ++ '.' :: base ∧ label ≠ [] ∧ '.' ∉ label ∧ label ≠ "www".toList

def Unmarked (text : List Char) : Prop := ':' ∉ text ∧ '[' ∉ text ∧ ']' ∉ text

/-- The texts `net.SplitHostPort` takes for a name and a port. -/
inductive Split : List Char → List Char → Prop
  | port {name port : List Char} (plain : Unmarked name) (after : Unmarked port) : Split (name ++ ':' :: port) name
  | bracketed {name port : List Char} (plain : '[' ∉ name ∧ ']' ∉ name) (after : Unmarked port) :
    Split ('[' :: name ++ ']' :: ':' :: port) name

/-- The texts the console cuts: anything that starts with brackets, and else a name with
decimal digits after the last colon. -/
inductive Stripped : List Char → List Char → Prop
  | bracketed {name rest : List Char} (closed : ']' ∉ name) : Stripped ('[' :: name ++ ']' :: rest) name
  | port {name port : List Char} (named : name ≠ []) (digits : isPort port = true)
    (open_ : ¬(name.head? = some '[' ∧ ']' ∈ name)) : Stripped (name ++ ':' :: port) name

/-- What is left of a text by a rule: the name it cuts out, or the text when it cuts nothing. -/
def Reads (rule : List Char → List Char → Prop) (text name : List Char) : Prop :=
  rule text name ∨ ((∀ other, ¬rule text other) ∧ name = text)

theorem eq_iff_reads {rule : List Char → List Char → Prop} {text result : List Char}
    (cut : ∀ name, rule text name → result = name) (uncut : (∀ name, ¬rule text name) → result = text)
    (name : List Char) : result = name ↔ Reads rule text name := by
  constructor
  · rintro rfl
    by_cases applies : ∃ other, rule text other
    · obtain ⟨other, applied⟩ := applies
      exact .inl (cut other applied ▸ applied)
    · exact .inr ⟨not_exists.mp applies, uncut (not_exists.mp applies)⟩
  · rintro (applied | ⟨none_, rfl⟩)
    · exact cut name applied
    · exact uncut none_

theorem exists_reading {rule : List Char → List Char → Prop} {text result name : List Char}
    (reads : ∀ name, result = name ↔ Reads rule text name) (read : Reads rule text name) (p : List Char → Prop) :
    (∃ other, Reads rule text other ∧ p other) ↔ p name := by
  obtain rfl := (reads name).mpr read
  refine ⟨?_, fun holds => ⟨result, read, holds⟩⟩
  rintro ⟨other, readOther, holds⟩
  exact (reads other).mpr readOther ▸ holds

/-! ## Labels -/

theorem slugUnder_eq_some {base host label : List Char} : slugUnder base host = some label ↔ Names base host label := by
  have cut (slug : List Char) : (slug ++ '.' :: base).take ((slug ++ '.' :: base).length - ('.' :: base).length) = slug := by
    rw [List.length_append, Nat.add_sub_cancel, List.take_left]
  constructor
  · intro found
    unfold slugUnder at found
    by_cases apex : host = base ∨ host = "www.".toList ++ base
    · rw [if_pos apex] at found
      cases found
    · rw [if_neg apex] at found
      by_cases under : ('.' :: base).isSuffixOf host = true
      · obtain ⟨slug, rfl⟩ := List.isSuffixOf_iff_suffix.mp under
        simp only [under, if_true, cut] at found
        by_cases refused : slug = [] ∨ '.' ∈ slug
        · rw [if_pos refused] at found
          cases found
        · rw [if_neg refused] at found
          cases found
          refine ⟨rfl, fun empty => refused (.inl empty), fun dotted => refused (.inr dotted), fun www => ?_⟩
          exact apex (.inr (www ▸ rfl))
      · rw [if_neg under] at found
        cases found
  · rintro ⟨rfl, some_, dotless, other⟩
    have apex : ¬(label ++ '.' :: base = base ∨ label ++ '.' :: base = "www.".toList ++ base) := by
      rintro (same | same)
      · have := congrArg List.length same
        simp at this
        omega
      · exact other (List.append_cancel_right (show label ++ '.' :: base = "www".toList ++ '.' :: base from same))
    unfold slugUnder
    rw [if_neg apex]
    have under : ('.' :: base).isSuffixOf (label ++ '.' :: base) = true := List.isSuffixOf_iff_suffix.mpr ⟨label, rfl⟩
    simp only [under, if_true, cut]
    exact if_neg fun refused => refused.elim some_ dotless

theorem names_stem {base stem label : List Char} :
    Names base (stem ++ base) label ↔ stem = label ++ ['.'] ∧ label ≠ [] ∧ '.' ∉ label ∧ label ≠ "www".toList := by
  have cut : stem ++ base = label ++ ['.'] ++ base ↔ stem = label ++ ['.'] := List.append_left_inj base
  rw [Names, ← cut, List.append_assoc, List.singleton_append]

theorem not_names_nil {base label : List Char} : ¬Names base [] label :=
  fun named => by simpa using congrArg List.length named.1

/-! ## The rule of the console -/

theorem not_mem_of_isPort {mark : Char} {port : List Char} (digits : isPort port = true) (other : mark.isDigit = false) :
    mark ∉ port :=
  fun member => by rw [(isPort_digits digits).2 mark member] at other; cases other

theorem brackets_of_mem {text : List Char} (opened : text.head? = some '[') (closed : ']' ∈ text) :
    ∃ name rest, text = '[' :: name ++ ']' :: rest ∧ ']' ∉ name := by
  obtain ⟨before, rest, rfl, first⟩ := List.eq_append_cons_of_mem closed
  cases before with
  | nil => cases opened
  | cons c name =>
    obtain rfl : c = '[' := Option.some.inj opened
    exact ⟨name, rest, rfl, fun member => first (List.mem_cons_of_mem _ member)⟩

theorem stripPort_of_open {host : List Char} (none_ : ∀ name, ¬Stripped (trim host) name) : stripPort host = trim host := by
  have unclosed : ¬((trim host).head? = some '[' ∧ ']' ∈ trim host) := by
    rintro ⟨opened, closed⟩
    obtain ⟨name, rest, shape, first⟩ := brackets_of_mem opened closed
    exact none_ name (by rw [shape]; exact Stripped.bracketed first)
  have uncut : cutPort (trim host) = trim host := by
    by_cases colon : ':' ∈ trim host
    · obtain ⟨before, after, shape, free⟩ := exists_cut colon
      cases before with
      | nil =>
        rw [shape, cutPort, lastIndexOf_append free]
        rfl
      | cons first more =>
        have named := List.cons_ne_nil first more
        rw [shape] at unclosed ⊢
        rw [cutPort_append free named]
        refine if_neg fun digits => none_ (first :: more) ?_
        rw [shape]
        exact .port named digits fun both => unclosed ⟨both.1, List.mem_append_left _ both.2⟩
    · exact cutPort_none colon
  unfold stripPort
  by_cases opened : (trim host).head? = some '['
  · have index : indexOf ']' (trim host) = none :=
      List.findIdx?_eq_none_iff.mpr fun c member =>
        decide_eq_false fun same => unclosed ⟨opened, same ▸ member⟩
    simp only [opened, if_true, index, uncut]
  · simp only [opened, if_false, uncut]

theorem stripPort_of_stripped {host name : List Char} (applies : Stripped (trim host) name) : stripPort host = name := by
  generalize shape : trim host = text at applies
  cases applies with
  | bracketed closed => exact stripPort_of_bracketed closed shape
  | @port _ port named digits open_ =>
    have colon : ':' ∉ port := not_mem_of_isPort digits rfl
    have bracket : ']' ∉ port := not_mem_of_isPort digits rfl
    have cut : cutPort (trim host) = name := by
      rw [shape, cutPort_append colon named, if_pos digits]
    unfold stripPort
    by_cases opened : (trim host).head? = some '['
    · have first : name.head? = some '[' := by
        rw [shape] at opened
        cases name with
        | nil => exact absurd rfl named
        | cons c more => exact opened
      have index : indexOf ']' (trim host) = none := by
        refine List.findIdx?_eq_none_iff.mpr fun c member => decide_eq_false ?_
        rintro rfl
        rw [shape] at member
        rcases List.mem_append.mp member with here | there
        · exact open_ ⟨first, here⟩
        · rcases List.mem_cons.mp there with same | later
          · cases same
          · exact bracket later
      simp only [opened, if_true, index, cut]
    · simp only [opened, if_false, cut]

theorem reads_stripped (host name : List Char) : stripPort host = name ↔ Reads Stripped (trim host) name :=
  eq_iff_reads (fun _ => stripPort_of_stripped) stripPort_of_open name

theorem consoleSlug_eq_some {casing : Casing} {host baseDomain label : List Char} :
    casing.consoleSlugFromHost host baseDomain = some label ↔
      ∃ name, Reads Stripped (trim host) name ∧ Names (casing.normalizeBaseDomain baseDomain) (casing.toLowerCase name) label := by
  unfold Casing.consoleSlugFromHost
  constructor
  · intro found
    refine ⟨stripPort host, (reads_stripped host _).mp rfl, ?_⟩
    by_cases empty : casing.toLowerCase (stripPort host) = []
    · simp only [empty, if_true] at found
      cases found
    · simp only [empty, if_false] at found
      exact slugUnder_eq_some.mp found
  · rintro ⟨name, read, named⟩
    obtain rfl := (reads_stripped host name).mpr read
    have some_ : casing.toLowerCase (stripPort host) ≠ [] := fun empty => not_names_nil (empty ▸ named)
    simp only [some_, if_false]
    exact slugUnder_eq_some.mpr named

/-! ## The rule of the gateway -/

theorem Unmarked.mem_cons {port : List Char} (after : Unmarked port) {mark : Char} (isMark : mark ∈ ['[', ']']) :
    mark ∉ ':' :: port := by
  intro member
  simp only [List.mem_cons, List.not_mem_nil, or_false] at isMark
  rcases List.mem_cons.mp member with rfl | inside
  · rcases isMark with same | same <;> cases same
  · rcases isMark with rfl | rfl
    · exact after.2.1 inside
    · exact after.2.2 inside

theorem splitHost_open {before port : List Char} (free : ':' ∉ port)
    (open_ : (before ++ ':' :: port).head? ≠ some '[') :
    splitHost (before ++ ':' :: port) =
      if ':' ∈ before ∨ '[' ∈ before ++ ':' :: port ∨ ']' ∈ before ++ ':' :: port then none else some before := by
  unfold splitHost splitHostPort
  simp only [lastIndexOf_append free, open_, if_false, List.take_left, apply_ite (Option.map Prod.fst),
    Option.map_none, Option.map_some]

theorem splitHost_bracketed {name port : List Char} (first : ']' ∉ name) (free : ':' ∉ port) :
    splitHost ('[' :: name ++ ']' :: ':' :: port) =
      if '[' ∈ name ++ ']' :: ':' :: port ∨ ']' ∈ ':' :: port then none else some name := by
  have shape : '[' :: name ++ ']' :: ':' :: port = ('[' :: name ++ [']']) ++ ':' :: port := by simp
  have opened : ('[' :: name ++ ']' :: ':' :: port).head? = some '[' := rfl
  have colon : lastIndexOf ':' ('[' :: name ++ ']' :: ':' :: port) = some (name.length + 1 + 1) := by
    rw [shape, lastIndexOf_append free]
    simp
  have rest : ('[' :: name ++ ']' :: ':' :: port).drop (name.length + 1 + 1) = ':' :: port := by
    rw [shape, show name.length + 1 + 1 = ('[' :: name ++ [']']).length by simp, List.drop_left]
  unfold splitHost splitHostPort
  simp only [colon, indexOf_bracketed first, opened, if_true, rest, take_bracketed, apply_ite (Option.map Prod.fst),
    Option.map_none, Option.map_some]
  rfl

theorem splitHost_of_split {text name : List Char} (applies : Split text name) : splitHost text = some name := by
  cases applies with
  | @port _ port plain after =>
    have open_ : (name ++ ':' :: port).head? ≠ some '[' := by
      cases name with
      | nil => simp
      | cons c more => exact fun same => plain.2.1 (Option.some.inj same ▸ List.mem_cons_self)
    rw [splitHost_open after.1 open_]
    refine if_neg ?_
    rintro (colon | opening | closing)
    · exact plain.1 colon
    · exact (List.mem_append.mp opening).elim plain.2.1 (after.mem_cons (by decide))
    · exact (List.mem_append.mp closing).elim plain.2.2 (after.mem_cons (by decide))
  | @bracketed _ port plain after =>
    rw [splitHost_bracketed plain.2 after.1]
    refine if_neg ?_
    rintro (opening | closing)
    · rcases List.mem_append.mp opening with here | there
      · exact plain.1 here
      · rcases List.mem_cons.mp there with same | later
        · cases same
        · exact after.mem_cons (by decide) later
    · exact after.mem_cons (by decide) closing

theorem split_of_splitHost {text name : List Char} (found : splitHost text = some name) : Split text name := by
  by_cases colon : ':' ∈ text
  · obtain ⟨before, port, rfl, free⟩ := exists_cut colon
    by_cases opened : (before ++ ':' :: port).head? = some '['
    · by_cases closed : ']' ∈ before ++ ':' :: port
      · obtain ⟨inner, rest, shape, first⟩ := brackets_of_mem opened closed
        by_cases adjacent : inner.length + 1 + 1 = before.length
        · -- The last colon follows the bracket, so what is before it ends with the bracket.
          have lengths : ('[' :: inner ++ [']']).length = before.length := by simpa using adjacent
          obtain ⟨rfl, rfl⟩ := List.append_inj
            (show ('[' :: inner ++ [']']) ++ rest = before ++ ':' :: port by rw [shape]; simp) lengths
          rw [shape, splitHost_bracketed first free] at found
          by_cases marked : '[' ∈ inner ++ ']' :: ':' :: port ∨ ']' ∈ ':' :: port
          · rw [if_pos marked] at found
            cases found
          · rw [if_neg marked] at found
            cases found
            simp only [not_or, List.mem_append, List.mem_cons] at marked
            rw [shape]
            exact .bracketed ⟨marked.1.1, first⟩ ⟨free, marked.1.2.2.2, marked.2.2⟩
        · have index : indexOf ']' (before ++ ':' :: port) = some (inner.length + 1) := by
            rw [shape, indexOf_bracketed first]
          unfold splitHost splitHostPort at found
          simp only [lastIndexOf_append free, opened, if_true, index, adjacent, if_false] at found
          cases found
      · have index : indexOf ']' (before ++ ':' :: port) = none :=
          List.findIdx?_eq_none_iff.mpr fun c member => decide_eq_false fun same => closed (same ▸ member)
        unfold splitHost splitHostPort at found
        simp only [lastIndexOf_append free, opened, if_true, index] at found
        cases found
    · rw [splitHost_open free opened] at found
      by_cases marked : ':' ∈ before ∨ '[' ∈ before ++ ':' :: port ∨ ']' ∈ before ++ ':' :: port
      · rw [if_pos marked] at found
        cases found
      · rw [if_neg marked] at found
        cases found
        simp only [not_or, List.mem_append, List.mem_cons] at marked
        exact .port ⟨marked.1, marked.2.1.1, marked.2.2.1⟩ ⟨free, marked.2.1.2.2, marked.2.2.2.2⟩
  · unfold splitHost splitHostPort at found
    rw [lastIndexOf_none colon] at found
    cases found

theorem splitHost_eq_some {text name : List Char} : splitHost text = some name ↔ Split text name :=
  ⟨split_of_splitHost, splitHost_of_split⟩

theorem mem_lower {casing : Casing} {mark : Char} (isMark : mark ∈ [':', '[', ']']) {text : List Char} :
    mark ∈ casing.lower text ↔ mark ∈ text := by
  rw [Casing.lower, List.mem_map]
  constructor
  · rintro ⟨c, member, same⟩
    exact (casing.toLower_mark mark isMark c).mp same ▸ member
  · exact fun member => ⟨mark, member, (casing.toLower_mark mark isMark mark).mpr rfl⟩

theorem unmarked_lower {casing : Casing} {text : List Char} : Unmarked (casing.lower text) ↔ Unmarked text := by
  rw [Unmarked, Unmarked, mem_lower (by decide), mem_lower (by decide), mem_lower (by decide)]

/-- Lower-casing moves no mark, so a port is cut off before it as after it. -/
theorem splitHost_lower (casing : Casing) (text : List Char) :
    splitHost (casing.lower text) = (splitHost text).map casing.lower := by
  have marks : ∀ mark ∈ [':', '[', ']'], casing.toLower mark = mark :=
    fun mark isMark => (casing.toLower_mark mark isMark mark).mpr rfl
  cases read : splitHost text with
  | some name =>
    refine splitHost_eq_some.mpr ?_
    cases splitHost_eq_some.mp read with
    | @port _ port plain after =>
      rw [Casing.lower, List.map_append, List.map_cons, marks ':' (by decide)]
      exact .port (unmarked_lower.mpr plain) (unmarked_lower.mpr after)
    | @bracketed _ port plain after =>
      rw [Casing.lower, List.map_append, List.map_cons, List.map_cons, List.map_cons, marks '[' (by decide),
        marks ']' (by decide), marks ':' (by decide)]
      exact .bracketed ⟨fun member => plain.1 ((mem_lower (by decide)).mp member),
        fun member => plain.2 ((mem_lower (by decide)).mp member)⟩ (unmarked_lower.mpr after)
  | none =>
    refine Option.eq_none_iff_forall_ne_some.mpr fun lowered found => ?_
    have split : ∃ name, Split text name := by
      generalize shape : casing.lower text = result at found
      cases splitHost_eq_some.mp found with
      | @port _ port plain after =>
        obtain ⟨name, rest, rfl, rfl, tail⟩ := List.map_eq_append_iff.mp shape
        obtain ⟨c, more, rfl, isColon, rfl⟩ := List.map_eq_cons_iff.mp tail
        obtain rfl := (casing.toLower_mark ':' (by decide) c).mp isColon
        exact ⟨name, .port (unmarked_lower.mp plain) (unmarked_lower.mp after)⟩
      | @bracketed _ port plain after =>
        obtain ⟨opening, rest, rfl, front, tail⟩ := List.map_eq_append_iff.mp shape
        obtain ⟨a, name, rfl, isOpen, rfl⟩ := List.map_eq_cons_iff.mp front
        obtain ⟨b, rest, rfl, isClose, tail⟩ := List.map_eq_cons_iff.mp tail
        obtain ⟨c, more, rfl, isColon, rfl⟩ := List.map_eq_cons_iff.mp tail
        obtain rfl := (casing.toLower_mark '[' (by decide) a).mp isOpen
        obtain rfl := (casing.toLower_mark ']' (by decide) b).mp isClose
        obtain rfl := (casing.toLower_mark ':' (by decide) c).mp isColon
        exact ⟨name, .bracketed ⟨fun member => plain.1 ((mem_lower (by decide)).mpr member),
          fun member => plain.2 ((mem_lower (by decide)).mpr member)⟩ (unmarked_lower.mp after)⟩
    obtain ⟨name, applies⟩ := split
    rw [splitHost_of_split applies] at read
    cases read

theorem reads_split (text name : List Char) : (splitHost text).getD text = name ↔ Reads Split text name := by
  refine eq_iff_reads (fun name applies => ?_) (fun none_ => ?_) name
  · rw [splitHost_of_split applies, Option.getD_some]
  · rw [Option.eq_none_iff_forall_ne_some.mpr fun name found => none_ name (split_of_splitHost found), Option.getD_none]

theorem gatewaySlug_eq_some {casing : Casing} {host baseDomain label : List Char} :
    casing.gatewaySlugFromHost host baseDomain = some label ↔
      ∃ name, Reads Split (trimSpace host) name ∧ Names (casing.gatewayBase baseDomain) (casing.lower name) label := by
  have reads := reads_split (trimSpace host)
  have lowered : (splitHost (casing.lower (trimSpace host))).getD (casing.lower (trimSpace host)) =
      casing.lower ((splitHost (trimSpace host)).getD (trimSpace host)) := by
    rw [splitHost_lower]
    cases splitHost (trimSpace host) with
    | none => rfl
    | some name => rfl
  unfold Casing.gatewaySlugFromHost
  by_cases empty : casing.lower (trimSpace host) = []
  · have blank : trimSpace host = [] := List.map_eq_nil_iff.mp empty
    simp only [empty, if_true]
    constructor
    · intro found
      cases found
    · rintro ⟨name, read, named⟩
      have nothing : name = [] := by
        rw [← (reads name).mpr read, blank]
        rfl
      exact absurd (nothing ▸ named) not_names_nil
  · simp only [empty, if_false, lowered, slugUnder_eq_some]
    constructor
    · exact fun named => ⟨_, (reads _).mp rfl, named⟩
    · rintro ⟨name, read, named⟩
      exact (reads name).mpr read ▸ named

/-! ## The same answer -/

/-- The two languages trim the host alike, and lower-case each part of it and the base
domain alike, as they do for ASCII. -/
structure SpelledAlike (casing : Casing) (host baseDomain : List Char) : Prop where
  trimmed : trim host = trimSpace host
  base : casing.normalizeBaseDomain baseDomain = casing.gatewayBase baseDomain
  parts : ∀ part, part <:+: trimSpace host → casing.toLowerCase part = casing.lower part

/-- Both rules cut the text, or neither does. -/
def CutAlike (text : List Char) : Prop := (∃ name, Split text name) ↔ (∃ name, Stripped text name)

/-- What the rule of the gateway leaves of the host is `label` under the base domain. -/
def GatewayNames (casing : Casing) (host baseDomain label : List Char) : Prop :=
  ∃ name, Reads Split (trimSpace host) name ∧ Names (casing.gatewayBase baseDomain) (casing.lower name) label

/-- What the rule of the console leaves of the host is `label` under the base domain. -/
def ConsoleNames (casing : Casing) (host baseDomain label : List Char) : Prop :=
  ∃ name, Reads Stripped (trim host) name ∧
    Names (casing.normalizeBaseDomain baseDomain) (casing.toLowerCase name) label

/-- Trimmed and in lower case, what the two rules leave of the host is one text before the two
base domains. -/
def SameStem (casing : Casing) (host baseDomain : List Char) : Prop :=
  ∃ stem left right, Reads Split (trimSpace host) left ∧ Reads Stripped (trim host) right ∧
    casing.lower left = stem ++ casing.gatewayBase baseDomain ∧
    casing.toLowerCase right = stem ++ casing.normalizeBaseDomain baseDomain

/-- The host is cut alike, or no reading of it names a tenant. Where the languages spell the
host or the base domain differently, the readings must still differ in the base domains alone. -/
def ReadAlike (casing : Casing) (host baseDomain : List Char) : Prop :=
  (SpelledAlike casing host baseDomain ∧ CutAlike (trimSpace host)) ∨
    (∀ label, ¬GatewayNames casing host baseDomain label ∧ ¬ConsoleNames casing host baseDomain label) ∨
    (¬SpelledAlike casing host baseDomain ∧ SameStem casing host baseDomain)

theorem split_shorter {text name : List Char} (applies : Split text name) : name.length < text.length ∧ name <:+: text := by
  cases applies with
  | @port _ port _ _ => exact ⟨by simp, ⟨[], ':' :: port, by simp⟩⟩
  | @bracketed _ port _ _ => exact ⟨by simp only [List.cons_append, List.length_cons, List.length_append]; omega, ⟨['['], ']' :: ':' :: port, by simp⟩⟩

theorem stripped_shorter {text name : List Char} (applies : Stripped text name) :
    name.length < text.length ∧ name <:+: text := by
  cases applies with
  | @bracketed _ rest _ => exact ⟨by simp only [List.cons_append, List.length_cons, List.length_append]; omega, ⟨['['], ']' :: rest, by simp⟩⟩
  | @port _ port _ _ _ => exact ⟨by simp, ⟨[], ':' :: port, by simp⟩⟩

/-- A text that both rules cut is cut at the same place. -/
theorem split_eq_stripped {text name name' : List Char} (split : Split text name) (stripped : Stripped text name') :
    name = name' := by
  cases split with
  | @port _ port plain after =>
    generalize shape : name ++ ':' :: port = text at stripped
    cases stripped with
    | bracketed _ =>
      have opening : '[' ∈ name ++ ':' :: port := by
        rw [shape]
        exact List.mem_cons_self
      exact absurd opening fun member =>
        (List.mem_append.mp member).elim plain.2.1 (after.mem_cons (by decide))
    | port _ digits _ => exact (cut_unique after.1 (not_mem_of_isPort digits rfl) shape).1
  | @bracketed _ port plain after =>
    generalize shape : '[' :: name ++ ']' :: ':' :: port = text at stripped
    cases stripped with
    | bracketed closed =>
      have index := @indexOf_bracketed name (':' :: port) plain.2
      rw [shape, indexOf_bracketed closed] at index
      have lengths : ('[' :: name).length = ('[' :: name').length := (Option.some.inj index).symm
      exact (List.cons.inj (List.append_inj shape lengths).1).2
    | port _ digits open_ =>
      obtain ⟨rfl, _⟩ := cut_unique after.1 (not_mem_of_isPort digits rfl)
        (show ('[' :: name ++ [']']) ++ ':' :: port = name' ++ ':' :: _ by rw [← shape]; simp)
      exact absurd ⟨rfl, by simp⟩ open_

theorem reads_alike {text : List Char} (alike : CutAlike text) (name : List Char) :
    Reads Split text name ↔ Reads Stripped text name := by
  constructor
  · rintro (split | ⟨none_, rfl⟩)
    · obtain ⟨other, stripped⟩ := alike.mp ⟨name, split⟩
      exact .inl (split_eq_stripped split stripped ▸ stripped)
    · exact .inr ⟨fun other stripped => (alike.mpr ⟨other, stripped⟩).elim none_, rfl⟩
  · rintro (stripped | ⟨none_, rfl⟩)
    · obtain ⟨other, split⟩ := alike.mpr ⟨name, stripped⟩
      exact .inl (split_eq_stripped split stripped ▸ split)
    · exact .inr ⟨fun other split => (alike.mp ⟨other, split⟩).elim none_, rfl⟩

theorem reads_inside {rule : List Char → List Char → Prop} (shorter : ∀ {text name}, rule text name → name <:+: text)
    {text name : List Char} (read : Reads rule text name) : name <:+: text := by
  rcases read with applies | ⟨_, rfl⟩
  · exact shorter applies
  · exact List.infix_rfl

/-- Two readings of one length are cuts by both rules, or by neither. -/
theorem cutAlike_of_length {text name name' : List Char} (left : Reads Split text name) (right : Reads Stripped text name')
    (lengths : name.length = name'.length) : CutAlike text := by
  rcases left with split | ⟨whole, rfl⟩
  · rcases right with stripped | ⟨_, rfl⟩
    · exact ⟨fun _ => ⟨name', stripped⟩, fun _ => ⟨name, split⟩⟩
    · exact absurd lengths (Nat.ne_of_lt (split_shorter split).1)
  · rcases right with stripped | ⟨whole', rfl⟩
    · exact absurd lengths.symm (Nat.ne_of_lt (stripped_shorter stripped).1)
    · exact ⟨fun ⟨other, split⟩ => absurd split (whole other), fun ⟨other, stripped⟩ => absurd stripped (whole' other)⟩

theorem sameSlug_iff (casing : Casing) (host baseDomain : List Char) :
    casing.gatewaySlugFromHost host baseDomain = casing.consoleSlugFromHost host baseDomain ↔
      ReadAlike casing host baseDomain := by
  constructor
  · intro same
    by_cases named : ∃ label, GatewayNames casing host baseDomain label
    · obtain ⟨label, gateway⟩ := named
      have console : ConsoleNames casing host baseDomain label :=
        consoleSlug_eq_some.mp (same ▸ gatewaySlug_eq_some.mpr gateway)
      obtain ⟨left, readLeft, names⟩ := gateway
      obtain ⟨right, readRight, names'⟩ := console
      by_cases spelled : SpelledAlike casing host baseDomain
      · rw [spelled.trimmed] at readRight
        have part : right <:+: trimSpace host := reads_inside (fun applies => (stripped_shorter applies).2) readRight
        rw [spelled.base, spelled.parts right part] at names'
        have lengths := congrArg List.length (names.1.trans names'.1.symm)
        rw [Casing.lower, Casing.lower, List.length_map, List.length_map] at lengths
        exact .inl ⟨spelled, cutAlike_of_length readLeft readRight lengths⟩
      · refine .inr (.inr ⟨spelled, label ++ ['.'], left, right, readLeft, readRight, ?_, ?_⟩)
        · rw [names.1, List.append_assoc, List.singleton_append]
        · rw [names'.1, List.append_assoc, List.singleton_append]
    · refine .inr (.inl fun label => ⟨fun gateway => named ⟨label, gateway⟩, fun console => named ⟨label, ?_⟩⟩)
      exact gatewaySlug_eq_some.mp (same ▸ consoleSlug_eq_some.mpr console)
  · rintro (⟨spelled, alike⟩ | refused | ⟨_, stem, left, right, readLeft, readRight, lower, lower'⟩)
    · refine Option.ext fun label => ?_
      rw [gatewaySlug_eq_some, consoleSlug_eq_some, spelled.trimmed, spelled.base]
      refine exists_congr fun name => ?_
      rw [reads_alike alike]
      refine and_congr_right fun read => ?_
      rw [spelled.parts name (reads_inside (fun applies => (stripped_shorter applies).2) read)]
    · rw [Option.eq_none_iff_forall_ne_some.mpr fun label found => (refused label).1 (gatewaySlug_eq_some.mp found),
        Option.eq_none_iff_forall_ne_some.mpr fun label found => (refused label).2 (consoleSlug_eq_some.mp found)]
    · refine Option.ext fun label => ?_
      rw [gatewaySlug_eq_some, consoleSlug_eq_some, exists_reading (reads_split _) readLeft,
        exists_reading (reads_stripped _) readRight, lower, lower', names_stem, names_stem]

/-! ## ASCII -/

theorem isJsSpace_ascii {c : Char} (ascii : c.toNat < 128) : isJsSpace c = isSpace c := by
  have each : ((List.range 128).all fun n => isJsSpace (Char.ofNat n) == isSpace (Char.ofNat n)) = true := by decide
  have here := List.all_eq_true.mp each c.toNat (List.mem_range.mpr ascii)
  rwa [Char.ofNat_toNat, beq_iff_eq] at here

theorem trim_ascii {text : List Char} (ascii : ∀ c ∈ text, c.toNat < 128) : trim text = trimSpace text := by
  have dropped : ∀ {part : List Char}, (∀ c ∈ part, c.toNat < 128) → part.dropWhile isJsSpace = part.dropWhile isSpace := by
    intro part
    induction part with
    | nil => exact fun _ => rfl
    | cons c more ih =>
      intro within
      rw [List.dropWhile_cons, List.dropWhile_cons, isJsSpace_ascii (within c List.mem_cons_self),
        ih fun x member => within x (List.mem_cons_of_mem _ member)]
  unfold trim trimSpace trimWith
  rw [dropped ascii, dropped]
  intro c member
  exact ascii c ((List.dropWhile_suffix _).subset (List.mem_reverse.mp member))

theorem trimSpace_subset {text : List Char} {c : Char} (member : c ∈ trimSpace text) : c ∈ text := by
  have inner := (List.dropWhile_suffix _).subset (List.mem_reverse.mp member)
  exact (List.dropWhile_suffix _).subset (List.mem_reverse.mp inner)

theorem lower_ascii (casing : Casing) {text : List Char} (ascii : ∀ c ∈ text, c.toNat < 128) :
    casing.toLowerCase text = casing.lower text := by
  rw [casing.toLowerCase_ascii text ascii]
  exact List.map_congr_left fun c member => (casing.toLower_ascii c (ascii c member)).symm

/-- ASCII is spelled alike, so that the shape of such a host decides. -/
theorem spelledAlike_ascii (casing : Casing) {host baseDomain : List Char} (ascii : ∀ c ∈ host, c.toNat < 128)
    (ascii' : ∀ c ∈ baseDomain, c.toNat < 128) : SpelledAlike casing host baseDomain where
  trimmed := trim_ascii ascii
  base := by
    unfold Casing.normalizeBaseDomain Casing.gatewayBase
    rw [trim_ascii ascii', lower_ascii casing fun c member => ascii' c (trimSpace_subset member)]
  parts part inside := lower_ascii casing fun c member => ascii c (trimSpace_subset (inside.subset member))

theorem sameSlug_ascii_iff (casing : Casing) {host baseDomain : List Char} (ascii : ∀ c ∈ host, c.toNat < 128)
    (ascii' : ∀ c ∈ baseDomain, c.toNat < 128) :
    ReadAlike casing host baseDomain ↔ CutAlike (trimSpace host) ∨
      ∀ label, ¬GatewayNames casing host baseDomain label ∧ ¬ConsoleNames casing host baseDomain label := by
  have spelled := spelledAlike_ascii casing ascii ascii'
  simp [ReadAlike, spelled]

theorem toLower_mark {mark : Char} (isMark : mark ∈ [':', '[', ']']) (c : Char) : c.toLower = mark ↔ c = mark := by
  simp only [List.mem_cons, List.not_mem_nil, or_false] at isMark
  constructor
  · intro lowered
    unfold Char.toLower at lowered
    by_cases upper : c.val ≥ 'A'.val ∧ c.val ≤ 'Z'.val
    · rw [dif_pos upper] at lowered
      have low : 65 ≤ c.toNat := upper.1
      have high : c.toNat ≤ 90 := upper.2
      have value := congrArg (fun x : Char => x.val.toNat) lowered
      simp only [UInt32.toNat_add] at value
      rcases isMark with rfl | rfl | rfl <;> simp at value <;> omega
    · rwa [dif_neg upper] at lowered
  · rintro rfl
    rcases isMark with rfl | rfl | rfl <;> rfl

/-- Tables that hold ASCII alone. -/
def asciiCasing : Casing where
  toLower := Char.toLower
  toLowerCase text := text.map Char.toLower
  toLower_mark _ isMark c := toLower_mark isMark c
  toLower_ascii _ _ := rfl
  toLowerCase_ascii _ _ := rfl

/-- A host with an empty port is a tenant to the gateway; a name in brackets is one to the console. -/
theorem empty_port_differs :
    ¬(asciiCasing.gatewaySlugFromHost "a.vodoge.com:".toList "vodoge.com".toList =
      asciiCasing.consoleSlugFromHost "a.vodoge.com:".toList "vodoge.com".toList) ∧
    ¬(asciiCasing.gatewaySlugFromHost "[a.vodoge.com]".toList "vodoge.com".toList =
      asciiCasing.consoleSlugFromHost "[a.vodoge.com]".toList "vodoge.com".toList) := by
  decide

end VodogeCloud.Guarantees.TenantHosts
