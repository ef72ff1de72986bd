import Mathlib.Data.Fin.Basic
import Mathlib.Data.List.TakeWhile

/-!
# Internet addresses as text

The addresses of IPv4 and IPv6, how their text is read, and the one text each of them is
written as: four decimal octets; or eight hexadecimal groups, the first of the longest runs
of two or more zero groups left out. What is written reads back as the address it was
written for.
-/

set_option autoImplicit false

namespace VodogeCloud.Lib.NetAddress

/-! ## Addresses -/

abbrev Octet := Fin 256

abbrev Group := Fin 65536

inductive Addr where
  | v4 (a b c d : Octet)
  | v6 (groups : List Group) (eight : groups.length = 8) (zone : List Char)
  deriving DecidableEq

/-! ## Reading -/

def hexDigit (c : Char) : Option (Fin 16) :=
  if '0' ≤ c ∧ c ≤ '9' then some (Fin.ofNat 16 (c.toNat - '0'.toNat))
  else if 'a' ≤ c ∧ c ≤ 'f' then some (Fin.ofNat 16 (c.toNat - 'a'.toNat + 10))
  else if 'A' ≤ c ∧ c ≤ 'F' then some (Fin.ofNat 16 (c.toNat - 'A'.toNat + 10))
  else none

/-- The value of digits in a base. -/
def ofDigits (base : Nat) (digits : List Nat) : Nat := digits.foldl (fun value digit => value * base + digit) 0

/-- One to four hexadecimal digits. -/
def group (piece : List Char) : Option Group :=
  if piece ≠ [] ∧ piece.length ≤ 4 then
    (piece.mapM hexDigit).map fun digits => Fin.ofNat 65536 (ofDigits 16 (digits.map Fin.val))
  else none

/-- A decimal number up to 255 without a leading zero. -/
def octet (piece : List Char) : Option Octet :=
  let value := ofDigits 10 (piece.map fun c => c.toNat - '0'.toNat)
  if piece ≠ [] ∧ piece.all Char.isDigit ∧ (piece.length = 1 ∨ piece.head? ≠ some '0') ∧ value ≤ 255 then
    some (Fin.ofNat 256 value)
  else none

def octets (text : List Char) : Option (Octet × Octet × Octet × Octet) :=
  match text.splitOn '.' with
  | [a, b, c, d] => do
    let a ← octet a
    let b ← octet b
    let c ← octet c
    let d ← octet d
    return (a, b, c, d)
  | _ => none

def word (high low : Octet) : Group := Fin.ofNat 65536 (high.val * 256 + low.val)

/-- Groups, the last two of which may be written as an IPv4 address. -/
def lastGroups : List (List Char) → Option (List Group)
  | [] => some []
  | [piece] =>
    match group piece with
    | some value => some [value]
    | none => (octets piece).map fun (a, b, c, d) => [word a b, word c d]
  | piece :: rest => do
    let value ← group piece
    let values ← lastGroups rest
    return value :: values

/-- In front of others a piece is a group. -/
theorem lastGroups_cons {piece : List Char} {rest : List (List Char)} {groups : List Group} (others : rest ≠ [])
    (read : lastGroups (piece :: rest) = some groups) :
    ∃ value values, group piece = some value ∧ lastGroups rest = some values ∧ groups = value :: values := by
  rw [lastGroups, Option.bind_eq_bind, Option.bind_eq_some_iff] at read
  · obtain ⟨value, single, read⟩ := read
    obtain ⟨values, later, read⟩ := Option.bind_eq_some_iff.mp read
    exact ⟨value, values, single, later, (Option.some.inj read).symm⟩
  · exact others

/-- The text on either side of the first `::`. -/
def cutEllipsis : List Char → Option (List Char × List Char)
  | [] => none
  | c :: rest =>
    match c, rest with
    | ':', ':' :: tail => some ([], tail)
    | _, _ => (cutEllipsis rest).map fun (head, tail) => (c :: head, tail)

/-- The pieces of one side; no text has no piece. -/
def side (text : List Char) : List (List Char) := if text = [] then [] else text.splitOn ':'

/-- The groups of an address; `::` stands for one zero or more. -/
def groupsOf (text : List Char) : Option (List Group) :=
  match cutEllipsis text with
  | none => lastGroups (text.splitOn ':')
  | some (head, tail) => do
    let before ← (side head).mapM group
    let after ← lastGroups (side tail)
    if before.length + after.length ≤ 7 then
      return before ++ List.replicate (8 - (before.length + after.length)) 0 ++ after
    else none

def ofGroups (zone : List Char) (groups : List Group) : Option Addr :=
  if eight : groups.length = 8 then some (.v6 groups eight zone) else none

/-- An IPv6 address, and the zone after a `%`. -/
def parseV6 (text : List Char) : Option Addr :=
  let zone := (text.dropWhile (· ≠ '%')).drop 1
  if '%' ∈ text ∧ zone = [] then none
  else (groupsOf (text.takeWhile (· ≠ '%'))).bind (ofGroups zone)

/-- The first of a dot, a colon and a percent sign decides. -/
def parse (text : List Char) : Option Addr :=
  match text.find? fun c => c = '.' || c = ':' || c = '%' with
  | some '.' => (octets text).map fun (a, b, c, d) => .v4 a b c d
  | some ':' => parseV6 text
  | _ => none

/-! ## Writing -/

def hexChar (digit : Nat) : Char := "0123456789abcdef".toList.getD digit '0'

def octetText (value : Octet) : List Char :=
  (if 100 ≤ value.val then [hexChar (value.val / 100)] else []) ++
    (if 10 ≤ value.val then [hexChar (value.val / 10 % 10)] else []) ++ [hexChar (value.val % 10)]

def groupText (value : Group) : List Char :=
  (if 4096 ≤ value.val then [hexChar (value.val / 4096)] else []) ++
    (if 256 ≤ value.val then [hexChar (value.val / 256 % 16)] else []) ++
    (if 16 ≤ value.val then [hexChar (value.val / 16 % 16)] else []) ++ [hexChar (value.val % 16)]

def joined (separator : Char) : List (List Char) → List Char
  | [] => []
  | [piece] => piece
  | piece :: rest => piece ++ separator :: joined separator rest

def v4Text (a b c d : Octet) : List Char := joined '.' [octetText a, octetText b, octetText c, octetText d]

/-- The zero groups from a position on. -/
def zerosFrom (groups : List Group) (start : Nat) : Nat := ((groups.drop start).takeWhile (· = 0)).length

/-- A run as its start and its length, or the longer one from another start. -/
def longerRun (groups : List Group) (best : Nat × Nat) (start : Nat) : Nat × Nat :=
  if 2 ≤ zerosFrom groups start ∧ best.2 < zerosFrom groups start then (start, zerosFrom groups start) else best

/-- The first of the longest runs of two or more zero groups; its length is 0 if there is
none. -/
def zeroRun (groups : List Group) : Nat × Nat := (List.range 8).foldl (longerRun groups) (0, 0)

def v6Text (groups : List Group) : List Char :=
  let run := zeroRun groups
  if run.2 = 0 then joined ':' (groups.map groupText)
  else joined ':' ((groups.take run.1).map groupText) ++ ':' :: ':' ::
    joined ':' ((groups.drop (run.1 + run.2)).map groupText)

/-- The IPv4 address inside `::ffff:0:0/96`. -/
def mapped : List Group → Option (Octet × Octet × Octet × Octet)
  | [0, 0, 0, 0, 0, 65535, high, low] =>
    some (Fin.ofNat 256 (high.val / 256), Fin.ofNat 256 high.val, Fin.ofNat 256 (low.val / 256), Fin.ofNat 256 low.val)
  | _ => none

def unmap : Addr → Addr
  | .v6 groups eight zone =>
    match mapped groups with
    | some (a, b, c, d) => .v4 a b c d
    | none => .v6 groups eight zone
  | address => address

def zoneText (zone : List Char) : List Char := if zone = [] then [] else '%' :: zone

def text : Addr → List Char
  | .v4 a b c d => v4Text a b c d
  | .v6 groups _ zone =>
    match mapped groups with
    | some (a, b, c, d) => "::ffff:".toList ++ v4Text a b c d ++ zoneText zone
    | none => v6Text groups ++ zoneText zone

/-- The number of an address, and how many bits it has. -/
def bits : Addr → Nat × Nat
  | .v4 a b c d => (ofDigits 256 [a.val, b.val, c.val, d.val], 32)
  | .v6 groups _ _ => (ofDigits 65536 (groups.map Fin.val), 128)

/-! ## Pieces -/

theorem splitOn_joined {separator : Char} : ∀ {pieces : List (List Char)}, (∀ piece ∈ pieces, separator ∉ piece) →
    pieces ≠ [] → (joined separator pieces).splitOn separator = pieces := by
  intro pieces
  induction pieces with
  | nil => exact fun _ some_ => absurd rfl some_
  | cons piece rest ih =>
    intro free _
    have first := free piece List.mem_cons_self
    cases rest with
    | nil => exact List.splitOn_eq_singleton first
    | cons next more =>
      rw [joined, List.splitOn_append_cons_self_of_not_mem first,
        ih (fun other member => free other (List.mem_cons_of_mem _ member)) (List.cons_ne_nil _ _)]
      exact List.cons_ne_nil _ _

/-! ## Digits -/

theorem hexDigit_hexChar : ∀ digit : Fin 16, hexDigit (hexChar digit.val) = some digit := by decide

theorem hexDigit_zero {c : Char} {digit : Fin 16} (read : hexDigit c = some digit) : digit.val = 0 ↔ c = '0' := by
  constructor
  · intro zero
    unfold hexDigit at read
    have le : ∀ {a b : Char}, a ≤ b ↔ a.toNat ≤ b.toNat := Iff.rfl
    simp only [le] at read
    have back : ∀ {n : Nat}, c.toNat = n → Char.ofNat n = c := fun same => same ▸ Char.ofNat_toNat c
    by_cases decimal : '0'.toNat ≤ c.toNat ∧ c.toNat ≤ '9'.toNat
    · rw [if_pos decimal] at read
      cases read
      have low : 48 ≤ c.toNat := decimal.1
      have high : c.toNat ≤ 57 := decimal.2
      have exact_ : (c.toNat - 48) % 16 = 0 := zero
      have code : c.toNat = 48 := by omega
      exact (back code).symm
    · rw [if_neg decimal] at read
      by_cases lower : 'a'.toNat ≤ c.toNat ∧ c.toNat ≤ 'f'.toNat
      · rw [if_pos lower] at read
        cases read
        have low : 97 ≤ c.toNat := lower.1
        have high : c.toNat ≤ 102 := lower.2
        have exact_ : (c.toNat - 97 + 10) % 16 = 0 := zero
        omega
      · rw [if_neg lower] at read
        by_cases upper : 'A'.toNat ≤ c.toNat ∧ c.toNat ≤ 'F'.toNat
        · rw [if_pos upper] at read
          cases read
          have low : 65 ≤ c.toNat := upper.1
          have high : c.toNat ≤ 70 := upper.2
          have exact_ : (c.toNat - 65 + 10) % 16 = 0 := zero
          omega
        · rw [if_neg upper] at read
          cases read
  · rintro rfl
    cases read
    rfl

/-- What separates the parts of an address. -/
def isMark (c : Char) : Bool := c = '.' || c = ':' || c = '%'

theorem isMark_hexChar : ∀ digit : Fin 16, isMark (hexChar digit.val) = false := by decide

/-- The digits of a group. -/
def groupDigits (value : Group) : List (Fin 16) :=
  (if 4096 ≤ value.val then [Fin.ofNat 16 (value.val / 4096)] else []) ++
    (if 256 ≤ value.val then [Fin.ofNat 16 (value.val / 256)] else []) ++
    (if 16 ≤ value.val then [Fin.ofNat 16 (value.val / 16)] else []) ++ [Fin.ofNat 16 value.val]

theorem groupText_eq (value : Group) : groupText value = (groupDigits value).map fun digit => hexChar digit.val := by
  have top : value.val / 4096 % 16 = value.val / 4096 := Nat.mod_eq_of_lt (by omega)
  unfold groupText groupDigits
  simp only [List.map_append, apply_ite (List.map _), List.map_cons, List.map_nil, Fin.ofNat, top]

theorem groupDigits_value (value : Group) : ofDigits 16 ((groupDigits value).map Fin.val) = value.val := by
  have bound := value.isLt
  unfold groupDigits ofDigits
  by_cases four : 4096 ≤ value.val
  · rw [if_pos four, if_pos (by omega), if_pos (by omega)]
    simp only [List.cons_append, List.nil_append, List.map_cons, List.map_nil, List.foldl_cons, List.foldl_nil, Fin.ofNat]
    omega
  · rw [if_neg four]
    by_cases three : 256 ≤ value.val
    · rw [if_pos three, if_pos (by omega)]
      simp only [List.cons_append, List.nil_append, List.map_cons, List.map_nil, List.foldl_cons, List.foldl_nil,
        Fin.ofNat]
      omega
    · rw [if_neg three]
      by_cases two : 16 ≤ value.val
      · rw [if_pos two]
        simp only [List.cons_append, List.nil_append, List.map_cons, List.map_nil, List.foldl_cons, List.foldl_nil,
          Fin.ofNat]
        omega
      · rw [if_neg two]
        simp only [List.nil_append, List.map_cons, List.map_nil, List.foldl_cons, List.foldl_nil, Fin.ofNat]
        omega

theorem length_groupDigits (value : Group) : groupDigits value ≠ [] ∧ (groupDigits value).length ≤ 4 := by
  refine ⟨List.append_ne_nil_of_right_ne_nil _ (List.cons_ne_nil _ _), ?_⟩
  unfold groupDigits
  simp only [List.length_append, apply_ite List.length, List.length_cons, List.length_nil]
  split_ifs <;> omega

theorem mapM_hexDigit (digits : List (Fin 16)) :
    (digits.map fun digit => hexChar digit.val).mapM hexDigit = some digits := by
  induction digits with
  | nil => rfl
  | cons digit rest ih => rw [List.map_cons, List.mapM_cons, hexDigit_hexChar, ih]; rfl

theorem group_groupText (value : Group) : group (groupText value) = some value := by
  obtain ⟨filled, short⟩ := length_groupDigits value
  have cond : groupText value ≠ [] ∧ (groupText value).length ≤ 4 := by
    rw [groupText_eq, List.length_map]
    exact ⟨fun empty => filled (List.map_eq_nil_iff.mp empty), short⟩
  unfold group
  rw [if_pos cond, groupText_eq, mapM_hexDigit, Option.map_some, groupDigits_value]
  exact congrArg some (Fin.ext (Nat.mod_eq_of_lt value.isLt))

theorem groupText_ne_nil (value : Group) : groupText value ≠ [] :=
  List.append_ne_nil_of_right_ne_nil _ (List.cons_ne_nil _ _)

theorem groupText_unmarked {value : Group} {c : Char} (member : c ∈ groupText value) : isMark c = false := by
  rw [groupText_eq] at member
  obtain ⟨digit, _, rfl⟩ := List.mem_map.mp member
  exact isMark_hexChar digit

theorem octet_octetText : ∀ value : Octet, octet (octetText value) = some value := by decide +kernel

theorem octetText_digits : ∀ value : Octet, (octetText value).all Char.isDigit = true ∧ octetText value ≠ [] := by
  decide +kernel

theorem octetText_dotless (value : Octet) : '.' ∉ octetText value := by
  intro member
  have digit := List.all_eq_true.mp (octetText_digits value).1 _ member
  exact absurd digit (by decide)

/-! ## IPv4 -/

theorem octets_v4Text (a b c d : Octet) : octets (v4Text a b c d) = some (a, b, c, d) := by
  have pieces : (v4Text a b c d).splitOn '.' = [octetText a, octetText b, octetText c, octetText d] := by
    refine splitOn_joined ?_ (List.cons_ne_nil _ _)
    intro piece member
    simp only [List.mem_cons, List.not_mem_nil, or_false] at member
    obtain rfl | rfl | rfl | rfl := member
    all_goals exact octetText_dotless _
  unfold octets
  rw [pieces]
  simp only [octet_octetText]
  rfl

/-! ## `::` -/

theorem cutEllipsis_plain {c : Char} (plain : c ≠ ':') (rest : List Char) :
    cutEllipsis (c :: rest) = (cutEllipsis rest).map fun (head, tail) => (c :: head, tail) := by
  rw [cutEllipsis.eq_def]
  split
  · rename_i h
    cases h
  · rename_i h
    obtain ⟨rfl, rfl⟩ := List.cons.inj h
    simp [plain]

theorem cutEllipsis_colon {rest : List Char} (single : rest.head? ≠ some ':') :
    cutEllipsis (':' :: rest) = (cutEllipsis rest).map fun (head, tail) => (':' :: head, tail) := by
  cases rest with
  | nil => rfl
  | cons c more =>
    have plain : c ≠ ':' := fun same => single (congrArg some same)
    conv_lhs => unfold cutEllipsis
    simp [plain]

/-- What is before the first `::` has none, also with the colon it is followed by. -/
theorem cutEllipsis_some : ∀ {text head tail : List Char}, cutEllipsis text = some (head, tail) →
    text = head ++ ':' :: ':' :: tail ∧ cutEllipsis (head ++ [':']) = none := by
  intro text
  induction text with
  | nil => intro head tail found; cases found
  | cons c rest ih =>
    intro head tail found
    by_cases plain : c = ':'
    · subst plain
      by_cases double : rest.head? = some ':'
      · cases rest with
        | nil => cases double
        | cons c more =>
          cases double
          cases found
          exact ⟨rfl, rfl⟩
      · rw [cutEllipsis_colon double] at found
        cases inner : cutEllipsis rest with
        | none => rw [inner] at found; cases found
        | some cut =>
          rw [inner] at found
          cases found
          obtain ⟨whole, none_⟩ := ih inner
          refine ⟨congrArg (':' :: ·) whole, ?_⟩
          have single : (cut.1 ++ [':']).head? ≠ some ':' := by
            rw [whole] at double
            cases same : cut.1 with
            | nil => simp [same] at double
            | cons _ _ => simpa [same] using double
          rw [List.cons_append, cutEllipsis_colon single, none_]
          rfl
    · rw [cutEllipsis_plain plain] at found
      cases inner : cutEllipsis rest with
      | none => rw [inner] at found; cases found
      | some cut =>
        rw [inner] at found
        cases found
        obtain ⟨whole, none_⟩ := ih inner
        refine ⟨congrArg (c :: ·) whole, ?_⟩
        rw [List.cons_append, cutEllipsis_plain plain, none_]
        rfl

theorem cutEllipsis_append : ∀ {head : List Char} (tail : List Char), cutEllipsis (head ++ [':']) = none →
    cutEllipsis (head ++ ':' :: ':' :: tail) = some (head, tail) := by
  intro head
  induction head with
  | nil => exact fun _ _ => rfl
  | cons c rest ih =>
    intro tail none_
    by_cases plain : c = ':'
    · subst plain
      have single : (rest ++ [':']).head? ≠ some ':' := by
        intro double
        cases rest with
        | nil => cases none_
        | cons c more =>
          cases double
          cases none_
      have single' : (rest ++ ':' :: ':' :: tail).head? ≠ some ':' := by
        cases rest with
        | nil => exact absurd rfl single
        | cons c more => exact single
      rw [List.cons_append, cutEllipsis_colon single, Option.map_eq_none_iff] at none_
      rw [List.cons_append, cutEllipsis_colon single', ih tail none_]
      rfl
    · rw [List.cons_append, cutEllipsis_plain plain, Option.map_eq_none_iff] at none_
      rw [List.cons_append, cutEllipsis_plain plain, ih tail none_]
      rfl

theorem cutEllipsis_piece {piece rest : List Char} (free : ':' ∉ piece) (none_ : cutEllipsis rest = none) :
    cutEllipsis (piece ++ rest) = none := by
  induction piece with
  | nil => exact none_
  | cons c more ih =>
    have plain : c ≠ ':' := fun same => free (same ▸ List.mem_cons_self)
    rw [List.cons_append, cutEllipsis_plain plain, ih fun member => free (List.mem_cons_of_mem _ member)]
    rfl

theorem head_joined {separator : Char} {piece : List Char} (filled : piece ≠ []) (rest : List (List Char))
    (tail : List Char) : (joined separator (piece :: rest) ++ tail).head? = piece.head? := by
  cases piece with
  | nil => exact absurd rfl filled
  | cons c more =>
    cases rest with
    | nil => rfl
    | cons next others => rfl

/-- Pieces with something in them have no `::` between them, also with a colon after them. -/
theorem cutEllipsis_joined {tail : List Char} (short : tail = [] ∨ tail = [':']) : ∀ {pieces : List (List Char)},
    (∀ piece ∈ pieces, piece ≠ [] ∧ ':' ∉ piece) → cutEllipsis (joined ':' pieces ++ tail) = none := by
  intro pieces
  induction pieces with
  | nil => intro _; rcases short with rfl | rfl <;> rfl
  | cons piece rest ih =>
    intro filled
    have later := ih fun other member => filled other (List.mem_cons_of_mem _ member)
    have first := filled piece List.mem_cons_self
    cases rest with
    | nil => exact cutEllipsis_piece first.2 later
    | cons next others =>
      have second := filled next (List.mem_cons_of_mem _ List.mem_cons_self)
      have single : (joined ':' (next :: others) ++ tail).head? ≠ some ':' := by
        rw [head_joined second.1]
        intro colon
        exact second.2 (List.mem_of_mem_head? colon)
      rw [joined, List.append_assoc]
      · refine cutEllipsis_piece first.2 ?_
        rw [List.cons_append, cutEllipsis_colon single, later]
        rfl
      · exact List.cons_ne_nil _ _

/-! ## IPv6 -/

theorem groupText_filled (groups : List Group) : ∀ piece ∈ groups.map groupText, piece ≠ [] ∧ ':' ∉ piece := by
  intro piece member
  obtain ⟨value, _, rfl⟩ := List.mem_map.mp member
  refine ⟨groupText_ne_nil value, fun colon => ?_⟩
  exact absurd (groupText_unmarked colon) (by decide)

theorem mapM_groupText (groups : List Group) : (groups.map groupText).mapM group = some groups := by
  induction groups with
  | nil => rfl
  | cons value rest ih => rw [List.map_cons, List.mapM_cons, group_groupText, ih]; rfl

theorem lastGroups_groupText (groups : List Group) : lastGroups (groups.map groupText) = some groups := by
  induction groups with
  | nil => rfl
  | cons value rest ih =>
    cases rest with
    | nil => simp [lastGroups, group_groupText]
    | cons next more =>
      rw [List.map_cons] at ih
      rw [List.map_cons, List.map_cons, lastGroups, group_groupText, ih]
      · rfl
      · exact List.cons_ne_nil _ _

theorem side_joined (groups : List Group) : side (joined ':' (groups.map groupText)) = groups.map groupText := by
  cases groups with
  | nil => rfl
  | cons value rest =>
    have some_ : joined ':' ((value :: rest).map groupText) ≠ [] := by
      intro empty
      have first := @head_joined ':' _ (groupText_ne_nil value) (rest.map groupText) []
      rw [List.append_nil, ← List.map_cons, empty] at first
      exact groupText_ne_nil value (List.head?_eq_none_iff.mp first.symm)
    rw [side, if_neg some_, splitOn_joined (fun piece member => (groupText_filled _ piece member).2)]
    exact List.cons_ne_nil _ _

def IsRun (groups : List Group) (run : Nat × Nat) : Prop := run.2 = 0 ∨ run.2 = zerosFrom groups run.1

theorem longerRun_isRun {groups : List Group} {best : Nat × Nat} (run : IsRun groups best) (start : Nat) :
    IsRun groups (longerRun groups best start) := by
  unfold longerRun
  by_cases longer : 2 ≤ zerosFrom groups start ∧ best.2 < zerosFrom groups start
  · rw [if_pos longer]
    exact .inr rfl
  · rw [if_neg longer]
    exact run

theorem zeroRun_isRun (groups : List Group) : IsRun groups (zeroRun groups) := by
  have kept : ∀ (starts : List Nat) {best : Nat × Nat}, IsRun groups best →
      IsRun groups (starts.foldl (longerRun groups) best) := by
    intro starts
    induction starts with
    | nil => exact id
    | cons start rest ih => exact fun run => ih (longerRun_isRun run start)
  exact kept _ (.inl rfl)

theorem takeWhile_zero (groups : List Group) :
    groups.takeWhile (· = 0) = List.replicate (groups.takeWhile (· = 0)).length 0 := by
  refine List.eq_replicate_of_mem fun value member => ?_
  simpa using List.mem_takeWhile_imp member

/-- The groups around a run, and the run. -/
theorem groups_around (groups : List Group) (start : Nat) :
    groups.take start ++ List.replicate (zerosFrom groups start) 0 ++ groups.drop (start + zerosFrom groups start) =
      groups := by
  have after : groups.drop (start + zerosFrom groups start) = (groups.drop start).dropWhile (· = 0) := by
    have split := List.takeWhile_append_dropWhile (p := fun value : Group => decide (value = 0)) (l := groups.drop start)
    rw [← List.drop_drop, zerosFrom]
    calc (groups.drop start).drop ((groups.drop start).takeWhile (· = 0)).length
        = ((groups.drop start).takeWhile (· = 0) ++ (groups.drop start).dropWhile (· = 0)).drop
            ((groups.drop start).takeWhile (· = 0)).length := by rw [split]
      _ = (groups.drop start).dropWhile (· = 0) := List.drop_left
  rw [after, zerosFrom, ← takeWhile_zero, List.append_assoc, List.takeWhile_append_dropWhile, List.take_append_drop]

theorem groupsOf_v6Text {groups : List Group} (eight : groups.length = 8) : groupsOf (v6Text groups) = some groups := by
  unfold v6Text
  by_cases whole : (zeroRun groups).2 = 0
  · have none_ := cutEllipsis_joined (.inl rfl) (groupText_filled groups)
    rw [List.append_nil] at none_
    have pieces : groups.map groupText ≠ [] := by
      intro empty
      rw [List.map_eq_nil_iff] at empty
      rw [empty] at eight
      cases eight
    simp only [whole, if_true]
    unfold groupsOf
    rw [none_, splitOn_joined (fun piece member => (groupText_filled _ piece member).2) pieces]
    exact lastGroups_groupText groups
  · obtain zero | run := zeroRun_isRun groups
    · exact absurd zero whole
    · have around := groups_around groups (zeroRun groups).1
      rw [← run] at around
      have lengths := congrArg List.length around
      rw [List.length_append, List.length_append, List.length_replicate, eight] at lengths
      have before := cutEllipsis_joined (.inr rfl) (groupText_filled (groups.take (zeroRun groups).1))
      simp only [whole, if_false]
      unfold groupsOf
      rw [cutEllipsis_append _ before]
      simp only [side_joined, mapM_groupText, lastGroups_groupText, Option.bind_eq_bind, Option.bind_some]
      rw [if_pos (by omega)]
      have missing : 8 - ((groups.take (zeroRun groups).1).length +
          (groups.drop ((zeroRun groups).1 + (zeroRun groups).2)).length) = (zeroRun groups).2 := by omega
      rw [missing]
      exact congrArg some around

/-! ## The whole text -/

theorem find_mark {piece : List Char} {mark : Char} (plain : ∀ c ∈ piece, isMark c = false) (marked : isMark mark = true)
    (tail : List Char) : (piece ++ mark :: tail).find? isMark = some mark := by
  rw [List.find?_append, List.find?_eq_none.mpr fun c member => by simp [plain c member], Option.none_or]
  exact List.find?_cons_of_pos marked

theorem isMark_of_isDigit {c : Char} (digit : c.isDigit = true) : isMark c = false := by
  by_contra marked
  have cases_ : c = '.' ∨ c = ':' ∨ c = '%' := by
    rw [Bool.not_eq_false, isMark, Bool.or_eq_true, Bool.or_eq_true, decide_eq_true_eq, decide_eq_true_eq,
      decide_eq_true_eq, or_assoc] at marked
    exact marked
  obtain rfl | rfl | rfl := cases_
  all_goals exact absurd digit (by decide)

theorem parse_v4Text (a b c d : Octet) : parse (v4Text a b c d) = some (.v4 a b c d) := by
  have dot : (v4Text a b c d).find? isMark = some '.' :=
    find_mark (fun c member => isMark_of_isDigit (List.all_eq_true.mp (octetText_digits a).1 c member)) rfl _
  have found : (v4Text a b c d).find? (fun c => c = '.' || c = ':' || c = '%') = some '.' := dot
  unfold parse
  rw [found, octets_v4Text]
  rfl

/-- Before the first colon of written groups stand no marks. -/
theorem joined_find (groups : List Group) (tail : List Char) :
    (joined ':' (groups.map groupText) ++ ':' :: tail).find? isMark = some ':' := by
  cases groups with
  | nil => rfl
  | cons value rest =>
    have plain : ∀ c ∈ groupText value, isMark c = false := fun c => groupText_unmarked
    cases rest with
    | nil => exact find_mark plain rfl tail
    | cons next more =>
      rw [List.map_cons, List.map_cons, joined, List.append_assoc]
      · exact find_mark plain rfl _
      · exact List.cons_ne_nil _ _

theorem joined_mem {separator c : Char} : ∀ {pieces : List (List Char)}, c ∈ joined separator pieces →
    c = separator ∨ ∃ piece ∈ pieces, c ∈ piece := by
  intro pieces
  induction pieces with
  | nil => exact fun member => nomatch member
  | cons piece rest ih =>
    intro member
    cases rest with
    | nil => exact .inr ⟨piece, List.mem_cons_self, member⟩
    | cons next more =>
      rw [joined] at member
      · rcases List.mem_append.mp member with here | there
        · exact .inr ⟨piece, List.mem_cons_self, here⟩
        · rcases List.mem_cons.mp there with same | there
          · exact .inl same
          · refine (ih there).imp_right ?_
            rintro ⟨other, inside, held⟩
            exact ⟨other, List.mem_cons_of_mem _ inside, held⟩
      · exact List.cons_ne_nil _ _

/-- Written groups are colons and hexadecimal digits. -/
theorem joined_groups_mem {groups : List Group} {c : Char} (member : c ∈ joined ':' (groups.map groupText)) :
    c = ':' ∨ ∃ digit : Fin 16, c = hexChar digit.val := by
  refine (joined_mem member).imp_right ?_
  rintro ⟨piece, inside, held⟩
  obtain ⟨value, _, rfl⟩ := List.mem_map.mp inside
  rw [groupText_eq] at held
  obtain ⟨digit, _, rfl⟩ := List.mem_map.mp held
  exact ⟨digit, rfl⟩

theorem v6Text_mem {groups : List Group} {c : Char} (member : c ∈ v6Text groups) :
    c = ':' ∨ ∃ digit : Fin 16, c = hexChar digit.val := by
  unfold v6Text at member
  by_cases whole : (zeroRun groups).2 = 0
  · simp only [whole, if_true] at member
    exact joined_groups_mem member
  · simp only [whole, if_false] at member
    rcases List.mem_append.mp member with here | there
    · exact joined_groups_mem here
    · rcases List.mem_cons.mp there with colon | there
      · exact .inl colon
      · rcases List.mem_cons.mp there with colon | there
        · exact .inl colon
        · exact joined_groups_mem there

theorem v6Text_chars (groups : List Group) : ∀ c ∈ v6Text groups, c ≠ '%' := by
  rintro c member rfl
  rcases v6Text_mem member with colon | ⟨digit, same⟩
  · exact absurd colon (by decide)
  · have unmarked := isMark_hexChar digit
    rw [← same] at unmarked
    exact absurd unmarked (by decide)

theorem v6Text_find {groups : List Group} (eight : groups.length = 8) : (v6Text groups).find? isMark = some ':' := by
  unfold v6Text
  by_cases whole : (zeroRun groups).2 = 0
  · simp only [whole, if_true]
    match groups, eight with
    | value :: next :: more, _ =>
      rw [List.map_cons, List.map_cons, joined]
      · exact find_mark (fun c => groupText_unmarked) rfl _
      · exact List.cons_ne_nil _ _
  · simp only [whole, if_false]
    exact joined_find _ _

theorem takeWhile_plain {text : List Char} (plain : ∀ c ∈ text, c ≠ '%') :
    text.takeWhile (· ≠ '%') = text ∧ text.dropWhile (· ≠ '%') = [] := by
  rw [List.takeWhile_eq_self_iff, List.dropWhile_eq_nil_iff]
  exact ⟨fun c member => decide_eq_true (plain c member), fun c member => decide_eq_true (plain c member)⟩

/-- Without a percent sign there is no zone. -/
theorem parseV6_plain {text : List Char} (plain : ∀ c ∈ text, c ≠ '%') :
    parseV6 text = (groupsOf text).bind (ofGroups []) := by
  unfold parseV6
  rw [(takeWhile_plain plain).1, (takeWhile_plain plain).2]
  exact if_neg fun both => plain '%' both.1 rfl

theorem parse_v6Text {groups : List Group} (eight : groups.length = 8) :
    parse (v6Text groups) = some (.v6 groups eight []) := by
  have found : (v6Text groups).find? (fun c => c = '.' || c = ':' || c = '%') = some ':' := v6Text_find eight
  unfold parse
  rw [found]
  show parseV6 (v6Text groups) = _
  rw [parseV6_plain (v6Text_chars groups), groupsOf_v6Text eight, Option.bind_some, ofGroups, dif_pos eight]

def zoneless : Addr → Bool
  | .v4 _ _ _ _ => true
  | .v6 _ _ zone => zone = []

section Mapped

variable {groups : List Group} {eight : groups.length = 8} {zone : List Char}

theorem unmap_mapped {octets : Octet × Octet × Octet × Octet} (inner : mapped groups = some octets) :
    unmap (.v6 groups eight zone) = .v4 octets.1 octets.2.1 octets.2.2.1 octets.2.2.2 := by
  simp only [unmap, inner]

theorem unmap_plain (none_ : mapped groups = none) : unmap (.v6 groups eight zone) = .v6 groups eight zone := by
  simp only [unmap, none_]

theorem text_plain (none_ : mapped groups = none) : text (.v6 groups eight zone) = v6Text groups ++ zoneText zone := by
  simp only [text, none_]

end Mapped

/-- The text of an unmapped address reads back as the address. -/
theorem parse_text {address : Addr} (plain : zoneless address = true) :
    parse (text (unmap address)) = some (unmap address) := by
  cases address with
  | v4 a b c d => exact parse_v4Text a b c d
  | v6 groups eight zone =>
    obtain rfl : zone = [] := of_decide_eq_true plain
    cases inner : mapped groups with
    | some octets =>
      rw [unmap_mapped inner]
      exact parse_v4Text _ _ _ _
    | none =>
      rw [unmap_plain inner, text_plain inner, zoneText, if_pos rfl, List.append_nil]
      exact parse_v6Text eight

/-- Unmapped addresses with one text are one address. -/
theorem text_unmap_injective {a b : Addr} (left : zoneless a = true) (right : zoneless b = true)
    (same : text (unmap a) = text (unmap b)) : unmap a = unmap b := by
  have read := parse_text left
  rw [same, parse_text right] at read
  exact (Option.some.inj read).symm

theorem v4Text_mem {a b c d : Octet} {char : Char} (member : char ∈ v4Text a b c d) : char = '.' ∨ char.isDigit = true := by
  refine (joined_mem member).imp_right ?_
  rintro ⟨piece, inside, held⟩
  simp only [List.mem_cons, List.not_mem_nil, or_false] at inside
  obtain rfl | rfl | rfl | rfl := inside
  all_goals exact List.all_eq_true.mp (octetText_digits _).1 _ held

theorem hexChar_ne : ∀ digit : Fin 16, hexChar digit.val ≠ 'p' := by decide

/-- No letter after f is in the text of an unmapped address; p stands for them. -/
theorem text_without {address : Addr} (plain : zoneless address = true) : 'p' ∉ text (unmap address) := by
  intro member
  have v4 : ∀ {a b c d : Octet}, 'p' ∉ v4Text a b c d := by
    intro a b c d held
    rcases v4Text_mem held with dot | digit
    · exact absurd dot (by decide)
    · exact absurd digit (by decide)
  cases address with
  | v4 a b c d => exact v4 member
  | v6 groups eight zone =>
    obtain rfl : zone = [] := of_decide_eq_true plain
    cases inner : mapped groups with
    | some octets =>
      rw [unmap_mapped inner] at member
      exact v4 member
    | none =>
      rw [unmap_plain inner, text_plain inner, zoneText, if_pos rfl, List.append_nil] at member
      rcases v6Text_mem member with colon | ⟨digit, same⟩
      · exact absurd colon (by decide)
      · exact hexChar_ne digit same.symm

theorem mapped_eq {groups : List Group} {octets : Octet × Octet × Octet × Octet} (inner : mapped groups = some octets) :
    groups = [0, 0, 0, 0, 0, 65535, word octets.1 octets.2.1, word octets.2.2.1 octets.2.2.2] := by
  unfold mapped at inner
  split at inner
  · rename_i high low
    cases inner
    have join : ∀ value : Group, word (Fin.ofNat 256 (value.val / 256)) (Fin.ofNat 256 value.val) = value := by
      intro value
      refine Fin.ext ?_
      have bound := value.isLt
      simp only [word, Fin.ofNat]
      omega
    simp only [join]
  · cases inner

/-- Unmapping tells the addresses of IPv6 apart. -/
theorem unmap_injective {groups others : List Group} {eight : groups.length = 8} {eight' : others.length = 8}
    (same : unmap (.v6 groups eight []) = unmap (.v6 others eight' [])) : groups = others := by
  cases left : mapped groups with
  | some octets =>
    rw [unmap_mapped left] at same
    cases right : mapped others with
    | some octets' =>
      rw [unmap_mapped right] at same
      rw [mapped_eq left, mapped_eq right]
      injection same with a b c d
      rw [a, b, c, d]
    | none =>
      rw [unmap_plain right] at same
      cases same
  | none =>
    rw [unmap_plain left] at same
    cases right : mapped others with
    | some octets' =>
      rw [unmap_mapped right] at same
      cases same
    | none =>
      rw [unmap_plain right] at same
      injection same

/-! ## What is read -/

def isAddressChar (c : Char) : Bool := isMark c || (hexDigit c).isSome

theorem mem_splitOn {separator c : Char} : ∀ {text : List Char}, c ∈ text →
    c = separator ∨ ∃ piece ∈ text.splitOn separator, c ∈ piece := by
  intro text
  induction text with
  | nil => exact fun member => nomatch member
  | cons first rest ih =>
    intro member
    rw [List.splitOn_cons_eq_if_modifyHead]
    have some_ := List.splitOn_ne_nil separator rest
    by_cases cut : first = separator
    · rw [if_pos (beq_iff_eq.mpr cut)]
      rcases List.mem_cons.mp member with rfl | later
      · exact .inl cut
      · refine (ih later).imp_right ?_
        rintro ⟨piece, inside, held⟩
        exact ⟨piece, List.mem_cons_of_mem _ inside, held⟩
    · rw [if_neg fun same => cut (beq_iff_eq.mp same)]
      cases pieces : rest.splitOn separator with
      | nil => exact absurd pieces some_
      | cons piece more =>
        rw [pieces] at ih
        rw [List.modifyHead_cons]
        rcases List.mem_cons.mp member with rfl | later
        · exact .inr ⟨_, List.mem_cons_self, List.mem_cons_self⟩
        · refine (ih later).imp_right ?_
          rintro ⟨other, inside, held⟩
          rcases List.mem_cons.mp inside with rfl | inside
          · exact ⟨_, List.mem_cons_self, List.mem_cons_of_mem _ held⟩
          · exact ⟨other, List.mem_cons_of_mem _ inside, held⟩

theorem map_of_mapM {α β : Type} {f : α → Option β} : ∀ {items : List α} {values : List β},
    items.mapM f = some values → items.map f = values.map some := by
  intro items
  induction items with
  | nil =>
    intro values all
    cases all
    rfl
  | cons item rest ih =>
    intro values all
    rw [List.mapM_cons] at all
    cases here : f item with
    | none => rw [here] at all; cases all
    | some value =>
      cases later : rest.mapM f with
      | none => rw [here, later] at all; cases all
      | some more =>
        rw [here, later] at all
        cases all
        rw [List.map_cons, List.map_cons, here, ih later]

theorem mapM_some {α β : Type} {f : α → Option β} {items : List α} {values : List β}
    (all : items.mapM f = some values) {item : α} (member : item ∈ items) : (f item).isSome = true := by
  have image := List.mem_map_of_mem (f := f) member
  rw [map_of_mapM all] at image
  obtain ⟨value, _, same⟩ := List.mem_map.mp image
  rw [← same, Option.isSome_some]

theorem group_chars {piece : List Char} (read : (group piece).isSome = true) : ∀ c ∈ piece, isAddressChar c = true := by
  intro c member
  unfold group at read
  by_cases cond : piece ≠ [] ∧ piece.length ≤ 4
  · rw [if_pos cond, Option.isSome_map] at read
    obtain ⟨values, all⟩ := Option.isSome_iff_exists.mp read
    rw [isAddressChar, mapM_some all member, Bool.or_true]
  · rw [if_neg cond] at read
    cases read

theorem octet_chars {piece : List Char} (read : (octet piece).isSome = true) : ∀ c ∈ piece, c.isDigit = true := by
  intro c member
  unfold octet at read
  simp only at read
  by_cases cond : piece ≠ [] ∧ piece.all Char.isDigit = true ∧ (piece.length = 1 ∨ piece.head? ≠ some '0') ∧
      ofDigits 10 (piece.map fun c => c.toNat - '0'.toNat) ≤ 255
  · exact List.all_eq_true.mp cond.2.1 c member
  · rw [if_neg cond] at read
    cases read

theorem isAddressChar_of_isDigit {c : Char} (digit : c.isDigit = true) : isAddressChar c = true := by
  have bounds : '0' ≤ c ∧ c ≤ '9' := by
    simpa [Char.isDigit, Char.le_def] using digit
  rw [isAddressChar, hexDigit, if_pos bounds, Option.isSome_some, Bool.or_true]

theorem octets_chars {text : List Char} (read : (octets text).isSome = true) :
    ∀ c ∈ text, c = '.' ∨ c.isDigit = true := by
  intro c member
  unfold octets at read
  rcases @mem_splitOn '.' _ _ member with dot | ⟨piece, inside, held⟩
  · exact .inl dot
  · right
    split at read
    · rename_i a b e d pieces
      rw [pieces] at inside
      have all : (octet a).isSome = true ∧ (octet b).isSome = true ∧ (octet e).isSome = true ∧
          (octet d).isSome = true := by
        cases first : octet a with
        | none => simp [first] at read
        | some _ =>
          cases second : octet b with
          | none => simp [first, second] at read
          | some _ =>
            cases third : octet e with
            | none => simp [first, second, third] at read
            | some _ =>
              cases fourth : octet d with
              | none => simp [first, second, third, fourth] at read
              | some _ => exact ⟨rfl, rfl, rfl, rfl⟩
      simp only [List.mem_cons, List.not_mem_nil, or_false] at inside
      obtain rfl | rfl | rfl | rfl := inside
      · exact octet_chars all.1 c held
      · exact octet_chars all.2.1 c held
      · exact octet_chars all.2.2.1 c held
      · exact octet_chars all.2.2.2 c held
    · cases read

theorem lastGroups_chars : ∀ {pieces : List (List Char)}, (lastGroups pieces).isSome = true →
    ∀ piece ∈ pieces, ∀ c ∈ piece, isAddressChar c = true := by
  intro pieces
  induction pieces with
  | nil => exact fun _ _ h => nomatch h
  | cons piece rest ih =>
    intro read other inside c member
    cases rest with
    | nil =>
      obtain rfl : other = piece := List.mem_singleton.mp inside
      cases single : group other with
      | some value => exact group_chars (by rw [single]; rfl) c member
      | none =>
        simp only [lastGroups, single, Option.isSome_map] at read
        rcases octets_chars read c member with rfl | digit
        · rfl
        · exact isAddressChar_of_isDigit digit
    | cons next more =>
      obtain ⟨groups, read⟩ := Option.isSome_iff_exists.mp read
      obtain ⟨_, _, single, later, _⟩ := lastGroups_cons (List.cons_ne_nil _ _) read
      rcases List.mem_cons.mp inside with rfl | inside
      · exact group_chars (by rw [single]; rfl) c member
      · exact ih (by rw [later]; rfl) other inside c member

theorem side_chars {text : List Char} (good : Char → Prop) (colon : good ':')
    (pieces : ∀ piece ∈ side text, ∀ c ∈ piece, good c) : ∀ c ∈ text, good c := by
  intro c member
  have some_ : text ≠ [] := List.ne_nil_of_mem member
  rw [side, if_neg some_] at pieces
  rcases @mem_splitOn ':' _ _ member with rfl | ⟨piece, inside, held⟩
  · exact colon
  · exact pieces piece inside c held

theorem groupsOf_chars {text : List Char} (read : (groupsOf text).isSome = true) :
    ∀ c ∈ text, isAddressChar c = true := by
  unfold groupsOf at read
  cases cut : cutEllipsis text with
  | none =>
    rw [cut] at read
    intro c member
    rcases @mem_splitOn ':' _ _ member with rfl | ⟨piece, inside, held⟩
    · rfl
    · exact lastGroups_chars read piece inside c held
  | some sides =>
    obtain ⟨head, tail⟩ := sides
    rw [cut] at read
    cases before : (side head).mapM group with
    | none => simp [before] at read
    | some left =>
      cases after : lastGroups (side tail) with
      | none => simp [before, after] at read
      | some right =>
        have first := side_chars (fun c => isAddressChar c = true) rfl fun piece inside =>
          group_chars (mapM_some before inside)
        have second := side_chars (fun c => isAddressChar c = true) rfl
          (lastGroups_chars (by rw [after]; rfl))
        intro c member
        rw [(cutEllipsis_some cut).1] at member
        rcases List.mem_append.mp member with here | there
        · exact first c here
        · rcases List.mem_cons.mp there with rfl | there
          · rfl
          · rcases List.mem_cons.mp there with rfl | there
            · rfl
            · exact second c there

/-! ### By family -/

theorem parse_v4 {text : List Char} {a b c d : Octet} (read : parse text = some (.v4 a b c d)) :
    octets text = some (a, b, c, d) := by
  have v6 : ∀ {groups : Option (List Group)} {zone : List Char}, groups.bind (ofGroups zone) ≠ some (.v4 a b c d) := by
    intro groups zone same
    cases groups with
    | none => cases same
    | some values =>
      rw [Option.bind_some, ofGroups] at same
      by_cases eight : values.length = 8
      · rw [dif_pos eight] at same
        cases same
      · rw [dif_neg eight] at same
        cases same
  unfold parse at read
  split at read
  · cases inner : octets text with
    | none => rw [inner] at read; cases read
    | some values =>
      rw [inner] at read
      cases read
      rfl
  · unfold parseV6 at read
    simp only at read
    by_cases empty : '%' ∈ text ∧ (text.dropWhile (· ≠ '%')).drop 1 = []
    · rw [if_pos empty] at read
      cases read
    · rw [if_neg empty] at read
      exact absurd read v6
  · cases read

/-- Without a zone there is no sign for one to follow. -/
theorem parse_without_zone {text : List Char} {groups : List Group} {eight : groups.length = 8}
    (read : parse text = some (.v6 groups eight [])) : ∀ c ∈ text, c ≠ '%' := by
  unfold parse at read
  split at read
  · cases inner : octets text with
    | none => rw [inner] at read; cases read
    | some values => rw [inner] at read; cases read
  · unfold parseV6 at read
    dsimp only at read
    by_cases empty : '%' ∈ text ∧ (text.dropWhile (· ≠ '%')).drop 1 = []
    · rw [if_pos empty] at read
      cases read
    · rw [if_neg empty] at read
      obtain ⟨values, _, made⟩ := Option.bind_eq_some_iff.mp read
      unfold ofGroups at made
      split at made
      · injection Option.some.inj made with _ zone
        rintro c member rfl
        exact empty ⟨member, zone⟩
      · cases made
  · cases read

theorem parse_v6 {text zone : List Char} {groups : List Group} {eight : groups.length = 8}
    (read : parse text = some (.v6 groups eight zone)) (plain : ∀ c ∈ text, c ≠ '%') :
    text.find? isMark = some ':' ∧ zone = [] ∧ groupsOf text = some groups := by
  unfold parse at read
  split at read
  · cases inner : octets text with
    | none => rw [inner] at read; cases read
    | some values => rw [inner] at read; cases read
  · rename_i found
    rw [parseV6_plain plain] at read
    cases inner : groupsOf text with
    | none => rw [inner] at read; cases read
    | some values =>
      rw [inner, Option.bind_some, ofGroups] at read
      by_cases eight : values.length = 8
      · rw [dif_pos eight] at read
        cases read
        exact ⟨found, rfl, rfl⟩
      · rw [dif_neg eight] at read
        cases read
  · cases read

end VodogeCloud.Lib.NetAddress
