import Mathlib.Data.Bool.AllAny
import VodogeCloud.Source.ClientAddress

/-!
# The bucket of a client

The console cuts a port off the address it forwards, and the gateway reads what is left. A
bracketed address, an IPv4 address and an address of IPv6 that does not end in decimal
digits come through; the others lose their last group with the port they never had.
-/

set_option autoImplicit false

namespace VodogeCloud.Guarantees.ClientBuckets

open VodogeCloud.Lib.NetAddress VodogeCloud.Source.ClientAddress
open VodogeCloud.Source.ServeDevice (isSpace)

/-! ## The text of a client -/

/-- An address as a proxy writes it: bare, with a port, in brackets, or both. -/
inductive Written : List Char → Addr → Prop
  | bare {text : List Char} {addr : Addr} (read : parse text = some addr) (plain : ∀ c ∈ text, c ≠ '%') :
    Written text addr
  | port {text port : List Char} {a b c d : Octet} (read : parse text = some (.v4 a b c d)) (ported : isPort port = true) :
    Written (text ++ ':' :: port) (.v4 a b c d)
  | bracketed {text : List Char} {groups : List Group} {eight : groups.length = 8}
    (read : parse text = some (.v6 groups eight [])) (plain : ∀ c ∈ text, c ≠ '%') :
    Written ('[' :: text ++ [']']) (.v6 groups eight [])
  | bracketedPort {text port : List Char} {groups : List Group} {eight : groups.length = 8}
    (read : parse text = some (.v6 groups eight [])) (plain : ∀ c ∈ text, c ≠ '%') (ported : isPort port = true) :
    Written ('[' :: text ++ ']' :: ':' :: port) (.v6 groups eight [])

/-- The address is the value of `cf-connecting-ip`, or that is blank and it is the last
element of `x-forwarded-for`; with white space around it. -/
def Carries (headers : HeaderReader) (element : List Char) : Prop :=
  ∃ before after, before.all isJsSpace = true ∧ after.all isJsSpace = true ∧
    (headers "cf-connecting-ip" = some (before ++ element ++ after) ∨
      (((headers "cf-connecting-ip").getD []).all isJsSpace = true ∧
        ∃ earlier, (earlier = [] ∨ ∃ chain, earlier = chain ++ [',']) ∧
          headers "x-forwarded-for" = some (earlier ++ (before ++ element ++ after))))

/-- The groups after `::` are two or more, and zero. -/
def zeroTail (element : List Char) : Bool :=
  match cutEllipsis element with
  | some (_, tail) => 2 ≤ (tail.splitOn ':').length && (tail.splitOn ':').all fun piece => piece.all (· = '0')
  | none => false

/-- In brackets, with a colon at most, without decimal digits alone after the last colon, or
with two or more zero groups after `::`. -/
def Unambiguous (element : List Char) : Prop :=
  element.head? = some '[' ∨ (element.splitOn ':').length ≤ 2 ∨
    isPort ((element.splitOn ':').getLast?.getD []) = false ∨ zeroTail element = true

/-! ## Trimming -/

theorem dropWhile_pad {space : Char → Bool} {before rest : List Char} (pad : before.all space = true)
    (starts : ∀ c, rest.head? = some c → space c = false) : (before ++ rest).dropWhile space = rest := by
  induction before with
  | nil =>
    cases rest with
    | nil => rfl
    | cons c more => exact List.dropWhile_cons_of_neg (by simp [starts c rfl])
  | cons c more ih =>
    rw [List.all_cons, Bool.and_eq_true] at pad
    rw [List.cons_append, List.dropWhile_cons_of_pos pad.1, ih pad.2]

theorem trimWith_pad {space : Char → Bool} {before text after : List Char} (left : before.all space = true)
    (right : after.all space = true) (plain : ∀ c ∈ text, space c = false) :
    trimWith space (before ++ text ++ after) = text := by
  cases text with
  | nil =>
    have all : ∀ c ∈ before ++ [] ++ after, space c = true := by
      intro c member
      rw [List.append_nil] at member
      rcases List.mem_append.mp member with here | there
      · exact List.all_eq_true.mp left c here
      · exact List.all_eq_true.mp right c there
    rw [trimWith, List.dropWhile_eq_nil_iff.mpr all]
    rfl
  | cons c more =>
    have first : ∀ x, ((c :: more) ++ after).head? = some x → space x = false := by
      intro x found
      exact Option.some.inj found ▸ plain c List.mem_cons_self
    have last : ∀ x, (c :: more).reverse.head? = some x → space x = false := by
      intro x found
      exact plain x (List.mem_reverse.mp (List.mem_of_mem_head? found))
    rw [trimWith, List.append_assoc, dropWhile_pad left first, List.reverse_append,
      dropWhile_pad (by rwa [List.all_reverse]) last, List.reverse_reverse]

theorem trimWith_plain {space : Char → Bool} {text : List Char} (plain : ∀ c ∈ text, space c = false) :
    trimWith space text = text := by
  have padded := @trimWith_pad space [] text [] rfl rfl plain
  rwa [List.nil_append, List.append_nil] at padded

/-! ## Characters -/

/-- What stands in a written address. -/
def isElementChar (c : Char) : Bool := isAddressChar c || c = '[' || c = ']'

theorem char_le {a b : Char} : a ≤ b ↔ a.toNat ≤ b.toNat := Iff.rfl

theorem hexDigit_range {c : Char} (digit : (hexDigit c).isSome = true) : 48 ≤ c.toNat ∧ c.toNat ≤ 102 := by
  unfold hexDigit at digit
  simp only [char_le] at digit
  by_cases decimal : '0'.toNat ≤ c.toNat ∧ c.toNat ≤ '9'.toNat
  · exact ⟨decimal.1, Nat.le_trans decimal.2 (by decide)⟩
  · rw [if_neg decimal] at digit
    by_cases lower : 'a'.toNat ≤ c.toNat ∧ c.toNat ≤ 'f'.toNat
    · exact ⟨Nat.le_trans (by decide) lower.1, lower.2⟩
    · rw [if_neg lower] at digit
      by_cases upper : 'A'.toNat ≤ c.toNat ∧ c.toNat ≤ 'F'.toNat
      · exact ⟨Nat.le_trans (by decide) upper.1, Nat.le_trans upper.2 (by decide)⟩
      · rw [if_neg upper] at digit
        cases digit

theorem elementChar_range {c : Char} (char : isElementChar c = true) : 37 ≤ c.toNat ∧ c.toNat ≤ 102 := by
  rw [isElementChar, isAddressChar, isMark] at char
  simp only [Bool.or_eq_true, decide_eq_true_eq] at char
  rcases char with ((((rfl | rfl) | rfl) | digit) | rfl) | rfl
  · decide
  · decide
  · decide
  · have range := hexDigit_range digit
    omega
  · decide
  · decide

theorem not_blank {listed : List Char} {c : Char} (outside : ∀ c ∈ listed, c.toNat < 37 ∨ 102 < c.toNat)
    (char : isElementChar c = true) : (listed.contains c || ('\u2000' ≤ c && c ≤ '\u200a')) = false := by
  obtain ⟨low, high⟩ := elementChar_range char
  have far : ¬ '\u2000' ≤ c := fun above => absurd (Nat.le_trans (char_le.mp above) high) (by decide)
  by_contra blank
  rw [Bool.not_eq_false, Bool.or_eq_true, List.contains_iff_mem, Bool.and_eq_true, decide_eq_true_eq] at blank
  rcases blank with inside | above
  · have := outside c inside
    omega
  · exact far above.1

theorem not_isJsSpace {c : Char} (char : isElementChar c = true) : isJsSpace c = false :=
  not_blank (List.all_iff_forall_prop.mp (by decide)) char

theorem not_isSpace {c : Char} (char : isElementChar c = true) : isSpace c = false :=
  not_blank (List.all_iff_forall_prop.mp (by decide)) char

theorem address_chars {text : List Char} {addr : Addr} (read : parse text = some addr) (plain : ∀ c ∈ text, c ≠ '%') :
    ∀ c ∈ text, isAddressChar c = true := by
  cases addr with
  | v4 a b c d =>
    intro char member
    rcases octets_chars (by rw [parse_v4 read]; rfl) char member with rfl | digit
    · rfl
    · exact isAddressChar_of_isDigit digit
  | v6 groups eight zone => exact groupsOf_chars (by rw [(parse_v6 read plain).2.2]; rfl)

theorem v4_plain {text : List Char} {a b c d : Octet} (read : parse text = some (.v4 a b c d)) :
    ∀ char ∈ text, char = '.' ∨ char.isDigit = true := octets_chars (by rw [parse_v4 read]; rfl)

theorem isElementChar_of_address {c : Char} (char : isAddressChar c = true) : isElementChar c = true := by
  rw [isElementChar, char]
  rfl

theorem isPort_digits {port : List Char} (ported : isPort port = true) :
    port ≠ [] ∧ ∀ c ∈ port, c.isDigit = true := by
  rw [isPort, Bool.and_eq_true, decide_eq_true_eq, List.all_eq_true] at ported
  exact ported

theorem colon_not_digit {text : List Char} (digits : ∀ c ∈ text, c.isDigit = true) : ':' ∉ text :=
  fun member => absurd (digits _ member) (by decide)

theorem written_chars {element : List Char} {addr : Addr} (written : Written element addr) :
    ∀ c ∈ element, isElementChar c = true := by
  have address := fun {c} => @isElementChar_of_address c
  cases written with
  | bare read plain => exact fun c member => address (address_chars read plain c member)
  | @port text port _ _ _ _ read ported =>
    intro char member
    rcases List.mem_append.mp member with here | there
    · rcases v4_plain read char here with rfl | digit
      · rfl
      · exact address (isAddressChar_of_isDigit digit)
    · rcases List.mem_cons.mp there with rfl | there
      · rfl
      · exact address (isAddressChar_of_isDigit ((isPort_digits ported).2 char there))
  | bracketed read plain =>
    intro char member
    rcases List.mem_append.mp member with here | there
    · rcases List.mem_cons.mp here with rfl | here
      · rfl
      · exact address (address_chars read plain char here)
    · rw [List.mem_singleton.mp there]
      rfl
  | bracketedPort read plain ported =>
    intro char member
    rcases List.mem_append.mp member with here | there
    · rcases List.mem_cons.mp here with rfl | here
      · rfl
      · exact address (address_chars read plain char here)
    · rcases List.mem_cons.mp there with rfl | there
      · rfl
      · rcases List.mem_cons.mp there with rfl | there
        · rfl
        · exact address (isAddressChar_of_isDigit ((isPort_digits ported).2 char there))

/-! ## Ports and brackets -/

theorem lastIndexOf_none {c : Char} : ∀ {text : List Char}, c ∉ text → lastIndexOf c text = none := by
  intro text
  induction text with
  | nil => exact fun _ => rfl
  | cons first rest ih =>
    intro free
    have differs : first ≠ c := fun same => free (same ▸ List.mem_cons_self)
    rw [lastIndexOf, ih fun member => free (List.mem_cons_of_mem _ member)]
    exact if_neg differs

theorem lastIndexOf_append {c : Char} {after : List Char} (free : c ∉ after) : ∀ (before : List Char),
    lastIndexOf c (before ++ c :: after) = some before.length := by
  intro before
  induction before with
  | nil =>
    rw [List.nil_append, lastIndexOf, lastIndexOf_none free]
    exact if_pos rfl
  | cons first rest ih =>
    rw [List.cons_append, lastIndexOf, ih]
    rfl

/-- There is one way to cut a text at its last colon. -/
theorem cut_unique {c : Char} {before before' after after' : List Char} (free : c ∉ after) (free' : c ∉ after')
    (same : before ++ c :: after = before' ++ c :: after') : before = before' ∧ after = after' := by
  have lengths := lastIndexOf_append free before
  rw [same, lastIndexOf_append free' before'] at lengths
  obtain ⟨left, right⟩ := List.append_inj same (Option.some.inj lengths).symm
  exact ⟨left, (List.cons.inj right).2⟩

theorem exists_cut {c : Char} {text : List Char} (member : c ∈ text) :
    ∃ before after, text = before ++ c :: after ∧ c ∉ after := by
  obtain ⟨after, before, reversed, free⟩ := List.eq_append_cons_of_mem (List.mem_reverse.mpr member)
  refine ⟨before.reverse, after.reverse, ?_, fun inside => free (List.mem_reverse.mp inside)⟩
  rw [← List.reverse_reverse text, reversed, List.reverse_append, List.reverse_cons, List.append_assoc,
    List.singleton_append]

theorem cutPort_none {text : List Char} (free : ':' ∉ text) : cutPort text = text := by
  rw [cutPort, lastIndexOf_none free]

theorem cutPort_append {before after : List Char} (free : ':' ∉ after) (some_ : before ≠ []) :
    cutPort (before ++ ':' :: after) = if isPort after then before else before ++ ':' :: after := by
  have positive : 0 < before.length := List.length_pos_of_ne_nil some_
  have rest : (before ++ ':' :: after).drop (before.length + 1) = after := by
    rw [← List.drop_drop, List.drop_left]
    rfl
  rw [cutPort, lastIndexOf_append free]
  simp only [rest, positive, decide_true, Bool.true_and, List.take_left]

theorem stripPort_plain {element : List Char} (chars : ∀ c ∈ element, isElementChar c = true)
    (open_ : element.head? ≠ some '[') : stripPort element = cutPort element := by
  have trimmed : trim element = element := trimWith_plain fun c member => not_isJsSpace (chars c member)
  unfold stripPort
  rw [trimmed]
  exact if_neg open_

theorem indexOf_bracketed {text rest : List Char} (closed : ']' ∉ text) :
    indexOf ']' ('[' :: text ++ ']' :: rest) = some (text.length + 1) := by
  have first : (']' :: rest).findIdx? (· = ']') = some 0 := by
    rw [List.findIdx?_cons]
    rfl
  unfold indexOf
  rw [List.findIdx?_append, List.findIdx?_eq_none_iff.mpr]
  · simp [first]
  · intro c member
    rcases List.mem_cons.mp member with rfl | inside
    · decide
    · exact decide_eq_false fun same => closed (same ▸ inside)

theorem take_bracketed (text rest : List Char) :
    (('[' :: text ++ ']' :: rest).take (text.length + 1)).drop 1 = text := by
  rw [show text.length + 1 = ('[' :: text).length from rfl, List.take_left]
  rfl

theorem stripPort_of_bracketed {host text rest : List Char} (closed : ']' ∉ text)
    (trimmed : trim host = '[' :: text ++ ']' :: rest) : stripPort host = text := by
  unfold stripPort
  rw [trimmed]
  simp only [indexOf_bracketed closed]
  exact take_bracketed text rest

theorem stripPort_bracketed {text rest : List Char} (closed : ']' ∉ text)
    (chars : ∀ c ∈ '[' :: text ++ ']' :: rest, isElementChar c = true) :
    stripPort ('[' :: text ++ ']' :: rest) = text :=
  stripPort_of_bracketed closed (trimWith_plain fun c member => not_isJsSpace (chars c member))

/-! ## Through the headers -/

theorem normaliseAddress_blank {value : List Char} (blank : value.all isJsSpace = true) :
    normaliseAddress (some value) = none := by
  have trimmed : trim value = [] := by
    have padded := @trimWith_pad isJsSpace value [] [] blank rfl fun _ h => nomatch h
    rwa [List.append_nil, List.append_nil] at padded
  unfold normaliseAddress
  rw [Option.getD_some, trimmed]
  rfl

theorem normaliseAddress_padded {before element after : List Char} (left : before.all isJsSpace = true)
    (right : after.all isJsSpace = true) (chars : ∀ c ∈ element, isElementChar c = true)
    (some_ : stripPort element ≠ []) : normaliseAddress (some (before ++ element ++ after)) = some (stripPort element) := by
  have trimmed : trim (before ++ element ++ after) = element :=
    trimWith_pad left right fun c member => not_isJsSpace (chars c member)
  have filled : element ≠ [] := by
    rintro rfl
    exact some_ rfl
  unfold normaliseAddress
  simp only [Option.getD_some, trimmed]
  rw [if_neg filled, if_neg some_]

theorem comma_not_mem {before element after : List Char} (left : before.all isJsSpace = true)
    (right : after.all isJsSpace = true) (chars : ∀ c ∈ element, isElementChar c = true) :
    ',' ∉ before ++ element ++ after := by
  intro member
  rcases List.mem_append.mp member with inner | here
  · rcases List.mem_append.mp inner with here | here
    · exact absurd (List.all_eq_true.mp left _ here) (by decide)
    · exact absurd (chars _ here) (by decide)
  · exact absurd (List.all_eq_true.mp right _ here) (by decide)

/-- What is after the last comma. -/
theorem lastElement {earlier last : List Char} (shape : earlier = [] ∨ ∃ chain, earlier = chain ++ [','])
    (free : ',' ∉ last) : ((earlier ++ last).splitOn ',').getLast? = some last := by
  rcases shape with rfl | ⟨chain, rfl⟩
  · rw [List.nil_append, List.splitOn_eq_singleton free]
    rfl
  · rw [List.append_assoc, List.singleton_append, List.splitOn_append_cons_self, List.splitOn_eq_singleton free]
    exact List.getLast?_concat

theorem forwardedClientAddress_carried {headers : HeaderReader} {element : List Char} (carried : Carries headers element)
    (chars : ∀ c ∈ element, isElementChar c = true) (some_ : stripPort element ≠ []) :
    forwardedClientAddress headers = some (stripPort element) := by
  obtain ⟨before, after, left, right, direct | ⟨blank, earlier, shape, chain⟩⟩ := carried
  · unfold forwardedClientAddress
    rw [direct, normaliseAddress_padded left right chars some_]
  · have absent : normaliseAddress (headers "cf-connecting-ip") = none := by
      cases held : headers "cf-connecting-ip" with
      | none => rfl
      | some value =>
        rw [held] at blank
        exact normaliseAddress_blank blank
    have filled : element ≠ [] := by
      rintro rfl
      exact some_ rfl
    have whole : earlier ++ (before ++ element ++ after) ≠ [] := by
      intro empty
      exact filled (List.append_eq_nil_iff.mp (List.append_eq_nil_iff.mp (List.append_eq_nil_iff.mp empty).2).1).2
    unfold forwardedClientAddress
    rw [absent, chain]
    simp only
    rw [if_neg whole, lastElement shape (comma_not_mem left right chars),
      normaliseAddress_padded left right chars some_]

/-! ## Through the gateway -/

/-- The peer of the request is in a trusted network. -/
def FromTrusted (trusted : List Prefix) (request : Request) : Prop :=
  ∃ addr, parse (clientKey request) = some addr ∧ ∃ network ∈ trusted, network.contains (unmap addr) = true

theorem clientKeyBehind_trusted {trusted : List Prefix} {request : Request} {value : List Char}
    (peer : FromTrusted trusted request) (sent : request.clientAddress = some value)
    (chars : ∀ c ∈ value, isElementChar c = true) :
    clientKeyBehind trusted request =
      match parse value with
      | none => "proxy:".toList ++ clientKey request
      | some forwarded => text (unmap forwarded) := by
  obtain ⟨addr, read, network, member, contains⟩ := peer
  have some_ : trusted ≠ [] := List.ne_nil_of_mem member
  have trustedPeer : (trusted.any fun network => network.contains (unmap addr)) = true :=
    List.any_eq_true.mpr ⟨network, member, contains⟩
  have trimmed : trimWith isSpace value = value := trimWith_plain fun c member => not_isSpace (chars c member)
  unfold clientKeyBehind
  rw [if_neg some_, read]
  dsimp only
  rw [if_pos trustedPeer, sent, Option.getD_some]
  cases parsed : parse value with
  | none => rw [trimmed, parsed]
  | some forwarded => rw [trimmed, parsed]

/-! ## An address without its last group -/

theorem lastGroups_append {digits : List Char} {values : List Group} (plain : '.' ∉ digits) :
    ∀ {pieces : List (List Char)} , lastGroups (pieces ++ [digits]) = some values →
    ∃ init last, pieces.mapM group = some init ∧ group digits = some last ∧ values = init ++ [last] := by
  intro pieces
  induction pieces generalizing values with
  | nil =>
    intro read
    have dotless : octets digits = none := by
      rw [octets, List.splitOn_eq_singleton plain]
    cases single : group digits with
    | some value =>
      simp only [List.nil_append, lastGroups, single] at read
      exact ⟨[], value, rfl, rfl, (Option.some.inj read).symm⟩
    | none =>
      simp only [List.nil_append, lastGroups, single, dotless] at read
      cases read
  | cons piece rest ih =>
    intro read
    obtain ⟨value, more, single, later, rfl⟩ :=
      lastGroups_cons (List.append_ne_nil_of_right_ne_nil _ (List.cons_ne_nil _ _)) read
    obtain ⟨init, last, all, final, rfl⟩ := ih later
    refine ⟨value :: init, last, ?_, final, rfl⟩
    rw [List.mapM_cons, single, all]
    rfl

theorem lastGroups_of_mapM : ∀ {pieces : List (List Char)} {values : List Group}, pieces.mapM group = some values →
    lastGroups pieces = some values := by
  intro pieces
  induction pieces with
  | nil => exact fun h => h
  | cons piece rest ih =>
    intro values all
    rw [List.mapM_cons] at all
    cases single : group piece with
    | none => rw [single] at all; cases all
    | some value =>
      cases later : rest.mapM group with
      | none => rw [single, later] at all; cases all
      | some more =>
        rw [single, later] at all
        cases all
        cases rest with
        | nil =>
          cases later
          simp [lastGroups, single]
        | cons next others =>
          rw [lastGroups, single, ih later]
          · rfl
          · exact List.cons_ne_nil _ _

theorem lastGroups_empty (pieces : List (List Char)) : lastGroups (pieces ++ [[]]) = none := by
  cases read : lastGroups (pieces ++ [[]]) with
  | none => rfl
  | some values =>
    obtain ⟨_, _, _, final, _⟩ := lastGroups_append List.not_mem_nil read
    cases final

/-! ### Zero groups -/

theorem ofDigits_zero {digits : List Nat} : ∀ {value : Nat},
    digits.foldl (fun value digit => value * 16 + digit) value = 0 ↔ value = 0 ∧ ∀ digit ∈ digits, digit = 0 := by
  induction digits with
  | nil => simp
  | cons digit rest ih =>
    intro value
    rw [List.foldl_cons, ih, List.forall_mem_cons]
    constructor
    · rintro ⟨zero, rest⟩
      exact ⟨by omega, by omega, rest⟩
    · rintro ⟨rfl, rfl, rest⟩
      exact ⟨rfl, rest⟩

theorem ofDigits_lt {digits : List (Fin 16)} : ∀ {value : Nat},
    (digits.map Fin.val).foldl (fun value digit => value * 16 + digit) value < (value + 1) * 16 ^ digits.length := by
  induction digits with
  | nil => simp
  | cons digit rest ih =>
    intro value
    have bound := digit.isLt
    rw [List.map_cons, List.foldl_cons, List.length_cons]
    refine Nat.lt_of_lt_of_le ih ?_
    rw [Nat.pow_succ', ← Nat.mul_assoc]
    exact Nat.mul_le_mul_right _ (by omega)

theorem digits_zero : ∀ {piece : List Char} {digits : List (Fin 16)}, piece.mapM hexDigit = some digits →
    ((∀ digit ∈ digits.map Fin.val, digit = 0) ↔ ∀ c ∈ piece, c = '0') := by
  intro piece
  induction piece with
  | nil =>
    intro digits all
    cases all
    simp
  | cons c rest ih =>
    intro digits all
    rw [List.mapM_cons] at all
    cases here : hexDigit c with
    | none => rw [here] at all; cases all
    | some digit =>
      cases later : rest.mapM hexDigit with
      | none => rw [here, later] at all; cases all
      | some more =>
        rw [here, later] at all
        cases all
        rw [List.map_cons, List.forall_mem_cons, List.forall_mem_cons, hexDigit_zero here, ih later]

/-- A group is zero when all its digits are. -/
theorem group_zero {piece : List Char} {value : Group} (read : group piece = some value) :
    value = 0 ↔ piece.all (· = '0') = true := by
  unfold group at read
  by_cases cond : piece ≠ [] ∧ piece.length ≤ 4
  · rw [if_pos cond] at read
    cases digits : piece.mapM hexDigit with
    | none => rw [digits] at read; cases read
    | some values =>
      rw [digits] at read
      cases read
      have lengths := congrArg List.length (map_of_mapM digits)
      rw [List.length_map, List.length_map] at lengths
      have short : values.length ≤ 4 := lengths ▸ cond.2
      have small : ofDigits 16 (values.map Fin.val) < 65536 := by
        refine Nat.lt_of_lt_of_le (@ofDigits_lt values 0) ?_
        calc (0 + 1) * 16 ^ values.length ≤ (0 + 1) * 16 ^ 4 :=
              Nat.mul_le_mul_left _ (Nat.pow_le_pow_right (by decide) short)
          _ = 65536 := rfl
      have value_ : Fin.ofNat 65536 (ofDigits 16 (values.map Fin.val)) = 0 ↔ ofDigits 16 (values.map Fin.val) = 0 := by
        rw [Fin.ext_iff]
        show ofDigits 16 (values.map Fin.val) % 65536 = 0 ↔ _
        rw [Nat.mod_eq_of_lt small]
      rw [value_, ofDigits, ofDigits_zero, List.all_eq_true]
      simp only [true_and, decide_eq_true_eq]
      exact digits_zero digits
  · rw [if_neg cond] at read
    cases read

theorem groups_zero : ∀ {pieces : List (List Char)} {values : List Group}, pieces.mapM group = some values →
    ((∀ value ∈ values, value = 0) ↔ pieces.all (fun piece => piece.all (· = '0')) = true) := by
  intro pieces
  induction pieces with
  | nil =>
    intro values all
    cases all
    simp
  | cons piece rest ih =>
    intro values all
    rw [List.mapM_cons] at all
    cases here : group piece with
    | none => rw [here] at all; cases all
    | some value =>
      cases later : rest.mapM group with
      | none => rw [here, later] at all; cases all
      | some more =>
        rw [here, later] at all
        cases all
        rw [List.forall_mem_cons, List.all_cons, Bool.and_eq_true, group_zero here, ih later]

/-- Zero before or after some groups makes no difference exactly when they are all zero. -/
theorem cons_zero_iff {last : Group} : ∀ {groups : List Group},
    (0 : Group) :: groups = groups ++ [last] ↔ ∀ value ∈ groups ++ [last], value = 0 := by
  intro groups
  induction groups with
  | nil => simp [eq_comm]
  | cons value rest ih =>
    rw [List.cons_append, List.forall_mem_cons, ← ih]
    constructor
    · intro same
      obtain ⟨rfl, same⟩ := List.cons.inj same
      exact ⟨rfl, same⟩
    · rintro ⟨rfl, same⟩
      rw [← same]

/-! ### The cut -/

theorem cutEllipsis_before {rest : List Char} : ∀ {before : List Char}, cutEllipsis (before ++ rest) = none →
    cutEllipsis before = none := by
  intro before none_
  cases cut : cutEllipsis before with
  | none => rfl
  | some sides =>
    obtain ⟨whole, single⟩ := @cutEllipsis_some _ sides.1 sides.2 cut
    rw [whole, List.append_assoc, List.cons_append, List.cons_append, cutEllipsis_append _ single] at none_
    cases none_

/-- Without `::` there are seven groups left, which is no address. -/
theorem groupsOf_cut_plain {before digits : List Char} {groups : List Group} (dotless : '.' ∉ digits)
    (free : ':' ∉ digits) (none_ : cutEllipsis (before ++ ':' :: digits) = none)
    (read : groupsOf (before ++ ':' :: digits) = some groups) : groupsOf before ≠ some groups := by
  unfold groupsOf at read ⊢
  rw [cutEllipsis_before none_]
  rw [none_, List.splitOn_append_cons_self, List.splitOn_eq_singleton free] at read
  obtain ⟨init, last, all, _, rfl⟩ := lastGroups_append dotless read
  rw [lastGroups_of_mapM all]
  intro same
  have lengths := congrArg List.length (Option.some.inj same)
  rw [List.length_append, List.length_singleton] at lengths
  omega

/-- A text that ends in a single colon is no address. -/
theorem groupsOf_colon {head : List Char} (none_ : cutEllipsis (head ++ [':']) = none) :
    groupsOf (head ++ [':']) = none := by
  unfold groupsOf
  rw [none_, List.splitOn_append_cons_self]
  exact lastGroups_empty _

/-- With groups between `::` and the last one, an address is left; it is the same address when
these and the last one are zero. -/
theorem groupsOf_cut_tail {head middle digits : List Char} {groups : List Group} (dotless : '.' ∉ digits)
    (free : ':' ∉ digits) (single : cutEllipsis (head ++ [':']) = none)
    (read : groupsOf (head ++ ':' :: ':' :: (middle ++ ':' :: digits)) = some groups) :
    groupsOf (head ++ ':' :: ':' :: middle) = some groups ↔
      (middle.splitOn ':' ++ [digits]).all (fun piece => piece.all (· = '0')) = true := by
  have tail : side (middle ++ ':' :: digits) = middle.splitOn ':' ++ [digits] := by
    rw [side, if_neg (List.append_ne_nil_of_right_ne_nil _ (List.cons_ne_nil _ _)), List.splitOn_append_cons_self,
      List.splitOn_eq_singleton free]
  unfold groupsOf at read ⊢
  rw [cutEllipsis_append _ single] at read ⊢
  simp only [tail] at read ⊢
  cases before : (side head).mapM group with
  | none => rw [before] at read; cases read
  | some left =>
    cases after : lastGroups (middle.splitOn ':' ++ [digits]) with
    | none => rw [before, after] at read; cases read
    | some right =>
      rw [before, after] at read
      simp only [Option.bind_eq_bind, Option.bind_some] at read ⊢
      obtain ⟨init, last, all, final, rfl⟩ := lastGroups_append dotless after
      by_cases fits : left.length + (init ++ [last]).length ≤ 7
      · rw [if_pos fits] at read
        cases read
        rw [List.length_append, List.length_singleton] at fits
        have some_ : middle ≠ [] := by
          rintro rfl
          rw [List.splitOn_nil] at all
          cases all
        have counted : 8 - (left.length + init.length) = 8 - (left.length + (init ++ [last]).length) + 1 := by
          rw [List.length_append, List.length_singleton]
          omega
        have zeros : (∀ value ∈ init ++ [last], value = 0) ↔
            (middle.splitOn ':' ++ [digits]).all (fun piece => piece.all (· = '0')) = true := by
          refine groups_zero ?_
          rw [List.mapM_append, all]
          simp [final]
        rw [side, if_neg some_, lastGroups_of_mapM all, ← zeros, ← cons_zero_iff]
        simp only [Option.bind_some]
        rw [if_pos (by omega), counted, List.replicate_succ']
        constructor
        · intro same
          have inner := Option.some.inj same
          simpa [List.append_assoc] using inner
        · intro same
          rw [List.append_assoc, List.append_assoc, List.singleton_append, same, List.append_assoc]
          rfl
      · rw [if_neg fits] at read
        cases read

/-- The address without its last group is the address exactly when two or more zero groups
stand after `::`. -/
theorem groupsOf_cut {before digits : List Char} {groups : List Group} (ported : isPort digits = true)
    (read : groupsOf (before ++ ':' :: digits) = some groups) :
    groupsOf before = some groups ↔ zeroTail (before ++ ':' :: digits) = true := by
  obtain ⟨some_, digit⟩ := isPort_digits ported
  have free := colon_not_digit digit
  have dotless : '.' ∉ digits := fun member => absurd (digit _ member) (by decide)
  cases cut : cutEllipsis (before ++ ':' :: digits) with
  | none =>
    unfold zeroTail
    rw [cut]
    exact iff_of_false (groupsOf_cut_plain dotless free cut read) Bool.false_ne_true
  | some sides =>
    obtain ⟨head, tail⟩ := sides
    obtain ⟨whole, single⟩ := cutEllipsis_some cut
    unfold zeroTail
    rw [cut]
    simp only
    by_cases inside : ':' ∈ tail
    · obtain ⟨middle, after, rfl, free'⟩ := exists_cut inside
      have shape : before ++ ':' :: digits = (head ++ ':' :: ':' :: middle) ++ ':' :: after := by
        rw [whole, List.append_assoc]
        rfl
      obtain ⟨rfl, rfl⟩ := cut_unique free free' shape
      rw [whole] at read
      rw [groupsOf_cut_tail dotless free single read, List.splitOn_append_cons_self, List.splitOn_eq_singleton free]
      have long : 2 ≤ (middle.splitOn ':' ++ [digits]).length := by
        have pieces := List.length_pos_of_ne_nil (List.splitOn_ne_nil ':' middle)
        rw [List.length_append, List.length_singleton]
        omega
      rw [Bool.and_eq_true, decide_eq_true_eq]
      exact ⟨fun all => ⟨long, all⟩, And.right⟩
    · -- the last group is the only one after `::`
      have shape : before ++ ':' :: digits = (head ++ [':']) ++ ':' :: tail := by
        rw [whole, List.append_assoc]
        rfl
      obtain ⟨rfl, rfl⟩ := cut_unique free inside shape
      rw [groupsOf_colon single, List.splitOn_eq_singleton inside]
      simp

theorem length_lastGroups : ∀ {pieces : List (List Char)} {values : List Group}, lastGroups pieces = some values →
    values.length ≤ pieces.length + 1 := by
  intro pieces
  induction pieces with
  | nil =>
    intro values read
    cases read
    exact Nat.zero_le _
  | cons piece rest ih =>
    intro values read
    cases rest with
    | nil =>
      cases single : group piece with
      | some value =>
        simp only [lastGroups, single] at read
        cases read
        exact Nat.le_succ 1
      | none =>
        simp only [lastGroups, single] at read
        cases inner : octets piece with
        | none => rw [inner] at read; cases read
        | some parts =>
          rw [inner] at read
          cases read
          exact Nat.le_refl 2
    | cons next more =>
      obtain ⟨_, _, _, later, rfl⟩ := lastGroups_cons (List.cons_ne_nil _ _) read
      exact Nat.succ_le_succ (ih later)

/-- An address of IPv6 has two colons. -/
theorem two_colons {before after : List Char} {groups : List Group} (free : ':' ∉ after) (eight : groups.length = 8)
    (read : groupsOf (before ++ ':' :: after) = some groups) : ':' ∈ before := by
  by_contra lone
  have single : after.head? ≠ some ':' := fun colon => free (List.mem_of_mem_head? colon)
  have inner : cutEllipsis after = none := by
    have plain := @cutEllipsis_piece after [] free rfl
    rwa [List.append_nil] at plain
  have none_ : cutEllipsis (before ++ ':' :: after) = none := by
    refine cutEllipsis_piece lone ?_
    rw [cutEllipsis_colon single, inner]
    rfl
  unfold groupsOf at read
  rw [none_, List.splitOn_append_cons_self_of_not_mem lone, List.splitOn_eq_singleton free] at read
  have few := length_lastGroups read
  rw [eight, List.length_cons, List.length_singleton] at few
  omega

/-! ## Every client -/

theorem written_zoneless {element : List Char} {addr : Addr} (written : Written element addr) : zoneless addr = true := by
  cases written with
  | bare read plain =>
    cases addr with
    | v4 a b c d => rfl
    | v6 groups eight zone => exact decide_eq_true (parse_v6 read plain).2.1
  | port _ _ => rfl
  | bracketed _ _ => rfl
  | bracketedPort _ _ _ => rfl

section Client

variable {headers : HeaderReader} {element stripped : List Char} {addr : Addr} {trusted : List Prefix} {request : Request}

/-- The key is what the gateway reads of the stripped element. -/
theorem key_of_stripped (chars : ∀ c ∈ element, isElementChar c = true) (carried : Carries headers element)
    (peer : FromTrusted trusted request) (sent : request.clientAddress = forwardedClientAddress headers)
    (strip : stripPort element = stripped) (some_ : stripped ≠ []) (inner : ∀ c ∈ stripped, isElementChar c = true) :
    clientKeyBehind trusted request =
      match parse stripped with
      | none => "proxy:".toList ++ clientKey request
      | some forwarded => text (unmap forwarded) := by
  have forwarded := forwardedClientAddress_carried carried chars (by rwa [strip])
  rw [forwarded, strip] at sent
  exact clientKeyBehind_trusted peer sent inner

theorem parse_ne_nil {text : List Char} (read : parse text = some addr) : text ≠ [] := by
  rintro rfl
  cases read

theorem bare_head {text : List Char} (chars : ∀ c ∈ text, isAddressChar c = true) : text.head? ≠ some '[' := by
  intro bracket
  exact absurd (chars _ (List.mem_of_mem_head? bracket)) (by decide)

theorem not_bracket {text : List Char} (chars : ∀ c ∈ text, isAddressChar c = true) : ']' ∉ text :=
  fun member => absurd (chars _ member) (by decide)

/-- What follows the brackets is nothing or a port. -/
theorem key_bracketed {literal rest : List Char} (chars : ∀ c ∈ '[' :: literal ++ ']' :: rest, isElementChar c = true)
    (read : parse literal = some addr) (plain : ∀ c ∈ literal, c ≠ '%')
    (carried : Carries headers ('[' :: literal ++ ']' :: rest)) (peer : FromTrusted trusted request)
    (sent : request.clientAddress = forwardedClientAddress headers) :
    clientKeyBehind trusted request = text (unmap addr) := by
  have address := address_chars read plain
  rw [key_of_stripped chars carried peer sent (stripPort_bracketed (not_bracket address) chars) (parse_ne_nil read)
    fun c member => isElementChar_of_address (address c member), read]

/-- With decimal digits after the last colon, only the zero groups help. -/
theorem unambiguous_iff {before digits : List Char} (open_ : (before ++ ':' :: digits).head? ≠ some '[')
    (free : ':' ∉ digits) (colon : ':' ∈ before) (ported : isPort digits = true) :
    Unambiguous (before ++ ':' :: digits) ↔ zeroTail (before ++ ':' :: digits) = true := by
  refine ⟨?_, fun tail => .inr (.inr (.inr tail))⟩
  rintro (bracket | few | unported | tail)
  · exact absurd bracket open_
  · obtain ⟨left, right, rfl, free'⟩ := exists_cut colon
    have pieces := List.length_pos_of_ne_nil (List.splitOn_ne_nil ':' left)
    rw [List.splitOn_append_cons_self, List.splitOn_append_cons_self, List.splitOn_eq_singleton free,
      List.splitOn_eq_singleton free', List.length_append, List.length_append, List.length_singleton,
      List.length_singleton] at few
    omega
  · rw [List.splitOn_append_cons_self, List.splitOn_eq_singleton free, List.getLast?_concat, Option.getD_some,
      ported] at unported
    cases unported
  · exact tail

/-- What is left of an address of IPv6 is read as one. -/
theorem parse_prefix {before after : List Char} (first : (before ++ after).find? isMark = some ':')
    (colon : ':' ∈ before) (plain : ∀ c ∈ before, c ≠ '%') :
    parse before = (groupsOf before).bind (ofGroups []) := by
  have mark : before.find? (fun c => c = '.' || c = ':' || c = '%') = some ':' := by
    rw [List.find?_append] at first
    cases found : before.find? isMark with
    | none => exact absurd (List.find?_eq_none.mp found _ colon) (by decide)
    | some mark =>
      rw [found] at first
      cases first
      exact found
  unfold parse
  rw [mark]
  exact parseV6_plain plain

theorem proxy_ne {addr : Addr} (plain : zoneless addr = true) (rest : List Char) :
    "proxy:".toList ++ rest ≠ text (unmap addr) := by
  intro same
  have letter : 'p' ∈ "proxy:".toList ++ rest := List.mem_append_left _ (by decide)
  rw [same] at letter
  exact text_without plain letter

/-- A bare address of IPv6. -/
theorem key_bare_v6 {literal : List Char} {groups : List Group} {eight : groups.length = 8}
    (read : parse literal = some (.v6 groups eight [])) (plain : ∀ c ∈ literal, c ≠ '%') (carried : Carries headers literal)
    (peer : FromTrusted trusted request) (sent : request.clientAddress = forwardedClientAddress headers) :
    clientKeyBehind trusted request = text (unmap (.v6 groups eight [])) ↔ Unambiguous literal := by
  obtain ⟨first, _, grouped⟩ := parse_v6 read plain
  have address := address_chars read plain
  have chars : ∀ c ∈ literal, isElementChar c = true := fun c member => isElementChar_of_address (address c member)
  obtain ⟨before, digits, rfl, free⟩ := exists_cut (List.mem_of_find?_eq_some first)
  have colon := two_colons free eight grouped
  have filled : before ≠ [] := List.ne_nil_of_mem colon
  have strip := stripPort_plain chars (bare_head address)
  rw [cutPort_append free filled] at strip
  by_cases ported : isPort digits = true
  · rw [if_pos ported] at strip
    have inner : ∀ c ∈ before, isElementChar c = true := fun c member => chars c (List.mem_append_left _ member)
    have reached := parse_prefix first colon fun c member => plain c (List.mem_append_left _ member)
    rw [unambiguous_iff (bare_head address) free colon ported, ← groupsOf_cut ported grouped,
      key_of_stripped chars carried peer sent strip filled inner, reached]
    cases shorter : groupsOf before with
    | none => exact iff_of_false (@proxy_ne (.v6 groups eight []) rfl _) fun same => nomatch same
    | some others =>
      rw [Option.bind_some, ofGroups]
      by_cases eight' : others.length = 8
      · rw [dif_pos eight']
        constructor
        · intro same
          exact congrArg some (unmap_injective (text_unmap_injective rfl rfl same))
        · intro same
          cases same
          rfl
      · rw [dif_neg eight']
        refine iff_of_false (@proxy_ne (.v6 groups eight []) rfl _) ?_
        intro same
        cases same
        exact eight' eight
  · rw [if_neg ported] at strip
    have whole : before ++ ':' :: digits ≠ [] := List.append_ne_nil_of_left_ne_nil filled _
    have unported : isPort (((before ++ ':' :: digits).splitOn ':').getLast?.getD []) = false := by
      rw [List.splitOn_append_cons_self, List.splitOn_eq_singleton free, List.getLast?_concat, Option.getD_some]
      exact Bool.eq_false_iff.mpr ported
    refine iff_of_true ?_ (.inr (.inr (.inl unported)))
    rw [key_of_stripped chars carried peer sent strip whole chars, read]

/-- An address of IPv4, bare or with a port. -/
theorem key_v4 {literal rest : List Char} {a b c d : Octet} (read : parse literal = some (.v4 a b c d))
    (chars : ∀ char ∈ literal ++ rest, isElementChar char = true) (strip : cutPort (literal ++ rest) = literal)
    (carried : Carries headers (literal ++ rest)) (peer : FromTrusted trusted request)
    (sent : request.clientAddress = forwardedClientAddress headers) :
    clientKeyBehind trusted request = text (unmap (.v4 a b c d)) := by
  have filled := parse_ne_nil read
  have open_ : (literal ++ rest).head? ≠ some '[' := by
    rw [List.head?_append_of_ne_nil _ filled]
    intro bracket
    rcases v4_plain read _ (List.mem_of_mem_head? bracket) with dot | digit
    · exact absurd dot (by decide)
    · exact absurd digit (by decide)
  rw [key_of_stripped chars carried peer sent ((stripPort_plain chars open_).trans strip) filled
    fun char member => chars char (List.mem_append_left _ member), read]

theorem v4_colonless {literal : List Char} {a b c d : Octet} (read : parse literal = some (.v4 a b c d)) :
    ':' ∉ literal := by
  intro colon
  rcases v4_plain read _ colon with dot | digit
  · exact absurd dot (by decide)
  · exact absurd digit (by decide)

/-- Behind a trusted peer, the key of a client is its address exactly when its text cannot be
taken for one with a port; and different addresses are different keys. -/
theorem client_key_iff (written : Written element addr) (carried : Carries headers element)
    (peer : FromTrusted trusted request) (sent : request.clientAddress = forwardedClientAddress headers) :
    (clientKeyBehind trusted request = text (unmap addr) ↔ Unambiguous element) ∧
      ∀ otherElement other, Written otherElement other → (text (unmap other) = text (unmap addr) ↔ unmap other = unmap addr) := by
  have chars := written_chars written
  refine ⟨?_, fun otherElement other writes => ⟨?_, fun same => by rw [same]⟩⟩
  · cases written with
    | bare read plain =>
      cases addr with
      | v4 a b c d =>
        have lone := v4_colonless read
        refine iff_of_true ?_ (.inr (.inl ?_))
        · rw [← List.append_nil element] at chars carried
          exact key_v4 read chars (by rw [List.append_nil, cutPort_none lone]) carried peer sent
        · rw [List.splitOn_eq_singleton lone]
          exact Nat.le_succ 1
      | v6 groups eight zone =>
        obtain rfl : zone = [] := (parse_v6 read plain).2.1
        exact key_bare_v6 read plain carried peer sent
    | @port literal port a b c d read ported =>
      have free := colon_not_digit (isPort_digits ported).2
      refine iff_of_true (key_v4 read chars ?_ carried peer sent) (.inr (.inl ?_))
      · rw [cutPort_append free (parse_ne_nil read), if_pos ported]
      · rw [List.splitOn_append_cons_self, List.splitOn_eq_singleton free, List.splitOn_eq_singleton (v4_colonless read)]
        exact Nat.le_refl 2
    | bracketed read plain => exact iff_of_true (key_bracketed chars read plain carried peer sent) (.inl rfl)
    | bracketedPort read plain ported =>
      exact iff_of_true (key_bracketed chars read plain carried peer sent) (.inl rfl)
  · exact text_unmap_injective (written_zoneless writes) (written_zoneless written)

end Client

/-- The network of the containers, with the console in it. -/
def backend : Prefix where
  addr := .v4 (UInt8.ofNat 172).toFin (UInt8.ofNat 18).toFin (UInt8.ofNat 0).toFin (UInt8.ofNat 0).toFin
  length := 16
  valid := by decide

/-- A request the console forwards for a client that Cloudflare names. -/
def forwardedRequest (client : String) : HeaderReader × Request :=
  let headers := fun name => if name = "cf-connecting-ip" then some client.toList else none
  (headers, ⟨"172.18.0.5:41234".toList, forwardedClientAddress headers⟩)

theorem console_address : parse ((splitHost "172.18.0.5:41234".toList).getD "172.18.0.5:41234".toList) =
    some (.v4 172 18 0 5) ∧ backend.contains (unmap (.v4 172 18 0 5)) = true := by
  decide

theorem backend_trusted (client : String) : FromTrusted [backend] (forwardedRequest client).2 :=
  ⟨.v4 172 18 0 5, console_address.1, backend, List.mem_cons_self, console_address.2⟩

theorem bracketed_client_kept : clientKeyBehind [backend] (forwardedRequest "[2001:DB8:0::1]:443").2 =
    "2001:db8::1".toList := by
  have read : parse "2001:DB8:0::1".toList = some (.v6 [8193, 3512, 0, 0, 0, 0, 0, 1] rfl []) := by decide
  have written : Written "[2001:DB8:0::1]:443".toList (.v6 [8193, 3512, 0, 0, 0, 0, 0, 1] rfl []) :=
    @Written.bracketedPort _ "443".toList _ _ read (List.all_iff_forall_prop.mp (by decide)) (by decide)
  have carried : Carries (forwardedRequest "[2001:DB8:0::1]:443").1 "[2001:DB8:0::1]:443".toList :=
    ⟨[], [], rfl, rfl, .inl rfl⟩
  have kept := (client_key_iff written carried (backend_trusted "[2001:DB8:0::1]:443") rfl).1.mpr (.inl (by decide))
  rw [kept]
  decide

/-- Two clients of one network, written without brackets, share a key. -/
theorem bare_clients_share : parse "2001:db8::1".toList ≠ parse "2001:db8::2".toList ∧
    clientKeyBehind [backend] (forwardedRequest "2001:db8::1").2 = "proxy:172.18.0.5".toList ∧
    clientKeyBehind [backend] (forwardedRequest "2001:db8::2").2 = "proxy:172.18.0.5".toList := by
  decide

end VodogeCloud.Guarantees.ClientBuckets
