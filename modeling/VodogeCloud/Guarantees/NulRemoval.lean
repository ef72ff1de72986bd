import VodogeCloud.Source.NulScrub

/-!
# What scrubbing a payload leaves

The result is the document without its NULs, and the same on every call, when cleaning makes
no two keys of an object equal; other text of the payload is left as it was.
-/

set_option autoImplicit false

namespace VodogeCloud.Guarantees.NulRemoval

open VodogeCloud.Lib VodogeCloud.Lib.PairedLists VodogeCloud.Lib.SortedEntries
open VodogeCloud.Source.Postgres (JsonChar)
open VodogeCloud.Source.GoJson (scalarOf)
open VodogeCloud.Source VodogeCloud.Source.NulScrub

/-! ## Texts -/

def nul (text : List JsonChar) : Bool := decide (JsonChar.scalar '\x00' ∈ text)

def isLone : JsonChar → Bool
  | .loneSurrogate _ => true
  | .scalar _ => false

/-- Some surrogate of the text has no partner. -/
def unpaired (text : List JsonChar) : Bool := text.any isLone

/-- The text with every U+0000 removed. -/
def cleanText (text : List JsonChar) : List JsonChar := text.filter fun c => c ≠ .scalar '\x00'

def goNul (text : List Char) : Bool := decide ('\x00' ∈ text)

/-- A Go string as the code points it stands for. -/
def scalars (text : List Char) : List JsonChar := text.map .scalar

theorem scalars_injective : Function.Injective scalars :=
  List.map_injective_iff.mpr fun _ _ same => JsonChar.scalar.inj same

theorem nul_scalars (text : List Char) : nul (scalars text) = goNul text := by
  unfold nul goNul scalars
  rw [Bool.eq_iff_iff, decide_eq_true_iff, decide_eq_true_iff, List.mem_map]
  exact ⟨fun ⟨c, member, same⟩ => JsonChar.scalar.inj same ▸ member, fun member => ⟨_, member, rfl⟩⟩

theorem unpaired_scalars (text : List Char) : unpaired (scalars text) = false := by
  unfold unpaired scalars
  rw [List.any_map, List.any_eq_false]
  intro c _
  exact Bool.false_ne_true

theorem nul_cleanText (text : List JsonChar) : nul (cleanText text) = false := by
  unfold nul cleanText
  rw [decide_eq_false_iff_not, List.mem_filter]
  exact fun member => of_decide_eq_true member.2 rfl

theorem unpaired_cleanText (text : List JsonChar) : unpaired (cleanText text) = unpaired text := by
  unfold unpaired cleanText
  rw [List.any_filter]
  congr 1
  funext c
  cases c with
  | scalar c => exact Bool.and_false _
  | loneSurrogate unit => rfl

theorem cleanText_of_clean {text : List JsonChar} (clean : nul text = false) : cleanText text = text := by
  unfold cleanText
  rw [List.filter_eq_self]
  intro c member
  refine decide_eq_true fun same => ?_
  exact of_decide_eq_false clean (same ▸ member)

theorem scalars_withoutNuls (text : List Char) : scalars (withoutNuls text) = cleanText (scalars text) := by
  unfold scalars withoutNuls cleanText
  rw [List.filter_map]
  congr 2
  funext c
  rw [Function.comp_apply, decide_eq_decide]
  exact not_congr ⟨congrArg _, JsonChar.scalar.inj⟩

theorem withoutNuls_of_clean {text : List Char} (clean : goNul text = false) : withoutNuls text = text := by
  refine scalars_injective ?_
  rw [scalars_withoutNuls, cleanText_of_clean (nul_scalars text ▸ clean)]

/-- What decoding makes of a text without an unpaired surrogate. -/
theorem scalars_decoded {text : List JsonChar} (paired : unpaired text = false) :
    scalars (text.map scalarOf) = text := by
  unfold scalars
  rw [List.map_map]
  refine (List.map_congr_left fun c member => ?_).trans (List.map_id text)
  cases c with
  | scalar c => rfl
  | loneSurrogate unit => exact absurd rfl (List.any_eq_false.mp paired _ member)

theorem goNul_decoded (text : List JsonChar) : goNul (text.map scalarOf) = nul text := by
  unfold goNul nul
  rw [Bool.eq_iff_iff, decide_eq_true_iff, decide_eq_true_iff, List.mem_map]
  constructor
  · rintro ⟨c, member, same⟩
    cases c with
    | scalar c => exact same ▸ member
    | loneSurrogate unit => exact absurd (show '�' = '\x00' from same) (by decide)
  · exact fun member => ⟨_, member, rfl⟩

/-! ## The escape in the text -/

theorem value_eq_zero {hex : HexDigit} (zero : hex.value = 0) : hex.digit = '0' :=
  (NetAddress.hexDigit_zero (Option.some_get hex.hex).symm).mp zero

theorem value_lt (hex : HexDigit) : hex.value < 16 := Fin.isLt _

theorem unitOf_lt (a b c d : HexDigit) : unitOf a b c d < 65536 := by
  have bounds := And.intro (value_lt a) (And.intro (value_lt b) (And.intro (value_lt c) (value_lt d)))
  unfold unitOf
  omega

theorem unicode_of_zero {a b c d : HexDigit} (zero : unitOf a b c d = 0) :
    (Spelt.unicode a b c d).text = nulEscape := by
  unfold unitOf at zero
  have first := value_eq_zero (show a.value = 0 by omega)
  have second := value_eq_zero (show b.value = 0 by omega)
  have third := value_eq_zero (show c.value = 0 by omega)
  have fourth := value_eq_zero (show d.value = 0 by omega)
  show ['\\', 'u', a.digit, b.digit, c.digit, d.digit] = nulEscape
  rw [first, second, third, fourth]
  rfl

theorem toNat_of_valid {n : Nat} (valid : n.isValidChar) : (Char.ofNat n).toNat = n := by
  unfold Char.ofNat
  rw [dif_pos valid]
  rfl

theorem unicode_of_nul {a b c d : HexDigit} (same : unitChar (unitOf a b c d) = .scalar '\x00') :
    (Spelt.unicode a b c d).text = nulEscape := by
  have low := unitOf_lt a b c d
  generalize unit_ : unitOf a b c d = unit at same low
  unfold unitChar at same
  split at same
  · cases same
  case isFalse alone =>
    unfold isHigh isLow at alone
    simp only [Bool.or_eq_true, Bool.and_eq_true, decide_eq_true_eq] at alone
    have valid : unit.isValidChar := by
      unfold Nat.isValidChar
      omega
    have zero := congrArg Char.toNat (JsonChar.scalar.inj same)
    rw [toNat_of_valid valid] at zero
    exact unicode_of_zero (unit_.trans zero)

theorem pairChar_ne {high low : Nat} (isPair : (isHigh high && isLow low) = true) :
    pairChar high low ≠ .scalar '\x00' := by
  unfold isHigh isLow at isPair
  simp only [Bool.and_eq_true, decide_eq_true_eq] at isPair
  intro same
  have valid : ((high - 0xD800) * 0x400 + (low - 0xDC00) + 0x10000).isValidChar := by
    unfold Nat.isValidChar
    omega
  have zero := congrArg Char.toNat (JsonChar.scalar.inj same)
  rw [toNat_of_valid valid] at zero
  exact absurd zero (Nat.succ_ne_zero _)

theorem infix_flatMap {head : Spelt} {rest : List Spelt} (later : nulEscape <:+: rest.flatMap Spelt.text) :
    nulEscape <:+: (head :: rest).flatMap Spelt.text :=
  later.trans List.infix_append_right

/-- Only the escape reads as a NUL. -/
theorem escape_of_nul_mem {text : List Spelt} (member : JsonChar.scalar '\x00' ∈ readText text) :
    nulEscape <:+: text.flatMap Spelt.text := by
  fun_induction readText text with
  | case1 => cases member
  | case2 c allowed rest ih =>
    rcases List.mem_cons.mp member with same | later
    · have nul_ : '\x00' = c := JsonChar.scalar.inj same
      exact absurd (nul_ ▸ allowed.1) (by decide)
    · exact infix_flatMap (ih later)
  | case3 escape rest ih =>
    rcases List.mem_cons.mp member with same | later
    · cases escape <;> cases same
    · exact infix_flatMap (ih later)
  | case4 a b c d =>
    have same := unicode_of_nul (List.mem_singleton.mp member).symm
    rw [List.flatMap_cons, same]
    exact List.infix_append_left
  | case5 a b c d rest e f g h isPair ih =>
    rcases List.mem_cons.mp member with same | later
    · exact absurd same.symm (pairChar_ne isPair)
    · exact infix_flatMap (infix_flatMap (ih later))
  | case6 a b c d rest e f g h notPair ih =>
    rcases List.mem_cons.mp member with same | later
    · rw [List.flatMap_cons, unicode_of_nul same.symm]
      exact List.infix_append_left
    · exact infix_flatMap (ih later)
  | case7 a b c d next rest other ih =>
    rcases List.mem_cons.mp member with same | later
    · rw [List.flatMap_cons, unicode_of_nul same.symm]
      exact List.infix_append_left
    · exact infix_flatMap (ih later)

theorem escape_of_nul {text : List Spelt} (has : nul (readText text) = true) : nulEscape <:+: quotedText text := by
  obtain ⟨before, after, whole⟩ := escape_of_nul_mem (of_decide_eq_true has)
  refine ⟨'"' :: before, after ++ ['"'], ?_⟩
  unfold quotedText
  rw [← whole]
  simp

theorem infix_enclosed (open_ close : Char) (text : List Char) : text <:+: open_ :: text ++ [close] :=
  ⟨[open_], [close], rfl⟩

mutual

/-- What reads as a NUL has its escape in the text, by induction on the grammar. -/
theorem escape_of_spells : ∀ {text : List Char} {document : Document}, Spells text document →
    (content document).any nul = true → nulEscape <:+: text
  | _, _, .str _, has => escape_of_nul has
  | _, _, @Spells.arr text _ each, has => by
    unfold content at has
    rw [JsonTree.map_arr, JsonTree.any_arr] at has
    exact (escape_of_items each has).trans (infix_enclosed _ _ text)
  | _, _, @Spells.obj text _ each, has => by
    unfold content at has
    rw [JsonTree.map_obj, JsonTree.any_obj] at has
    exact (escape_of_fields each has).trans (infix_enclosed _ _ text)
  | _, _, .spaced _ spells _, has => (escape_of_spells spells has).trans (List.infix_append _ _ _)

theorem escape_of_items : ∀ {text : List Char} {items : List Document}, SpellsItems text items →
    ((items.map (JsonTree.map readText)).any fun item => item.any nul) = true → nulEscape <:+: text
  | _, _, .last spells, has => by
    rw [List.map_cons, List.any_cons, List.map_nil, List.any_nil, Bool.or_false] at has
    exact escape_of_spells spells has
  | _, _, .more spells each, has => by
    rw [List.map_cons, List.any_cons, Bool.or_eq_true] at has
    rcases has with own | others
    · exact List.infix_append_of_infix_left (escape_of_spells spells own)
    · exact List.infix_append_of_infix_right (List.infix_cons (escape_of_items each others))

theorem escape_of_fields : ∀ {text : List Char} {fields : List (List Spelt × Document)}, SpellsFields text fields →
    ((fields.map (Prod.map readText (JsonTree.map readText))).any fun field => nul field.1 || field.2.any nul) = true →
      nulEscape <:+: text
  | _, _, .last key _ _ spells, has => by
    rw [List.map_cons, List.any_cons, List.map_nil, List.any_nil, Bool.or_false, Bool.or_eq_true] at has
    rcases has with own | others
    · exact List.infix_append_of_infix_left ((escape_of_nul own).trans (List.infix_append _ _ _))
    · exact List.infix_append_of_infix_right (List.infix_cons (escape_of_spells spells others))
  | _, _, .more key _ _ spells each, has => by
    rw [List.map_cons, List.any_cons, Bool.or_eq_true, Bool.or_eq_true] at has
    rcases has with (own | value) | others
    · exact List.infix_append_of_infix_left
        (List.infix_append_of_infix_left ((escape_of_nul own).trans (List.infix_append _ _ _)))
    · exact List.infix_append_of_infix_left
        (List.infix_append_of_infix_right (List.infix_cons (escape_of_spells spells value)))
    · exact List.infix_append_of_infix_right (List.infix_cons (escape_of_fields each others))

end

/-! ## What is written back -/

theorem hexOf_value (value : Nat) : (hexOf value).value = value % 16 := by
  have each : ∀ digit : Fin 16, HexDigit.value ⟨Nat.digitChar digit, hexDigit_digitChar digit⟩ = digit := by decide
  exact each ⟨value % 16, Nat.mod_lt _ (by decide)⟩

theorem unitOf_hexOf {n : Nat} (small : n < 65536) :
    unitOf (hexOf (n / 4096)) (hexOf (n / 256)) (hexOf (n / 16)) (hexOf n) = n := by
  unfold unitOf
  rw [hexOf_value, hexOf_value, hexOf_value, hexOf_value]
  omega

/-- A code unit outside the surrogates stands for itself, whatever follows. -/
theorem readText_unicode {a b c d : HexDigit} (alone : (isHigh (unitOf a b c d) || isLow (unitOf a b c d)) = false)
    (rest : List Spelt) : readText (.unicode a b c d :: rest) = .scalar (Char.ofNat (unitOf a b c d)) :: readText rest := by
  have own : unitChar (unitOf a b c d) = .scalar (Char.ofNat (unitOf a b c d)) := by
    unfold unitChar
    rw [alone]
    rfl
  have notHigh : isHigh (unitOf a b c d) = false := (Bool.or_eq_false_iff.mp alone).1
  cases rest with
  | nil => exact congrArg (fun c => [c]) own
  | cons next later =>
    cases next with
    | unicode e f g h =>
      have split_ : readText (.unicode a b c d :: .unicode e f g h :: later) =
          if isHigh (unitOf a b c d) && isLow (unitOf e f g h) then
            pairChar (unitOf a b c d) (unitOf e f g h) :: readText later
          else unitChar (unitOf a b c d) :: readText (.unicode e f g h :: later) := rfl
      rw [split_, notHigh, own]
      rfl
    | plain other allowed => exact congrArg (fun c => c :: readText (.plain other allowed :: later)) own
    | short escape => exact congrArg (fun c => c :: readText (.short escape :: later)) own

theorem htmlSpecial_small {c : Char} (special : JsonText.htmlSpecial c = true ∨ c < ' ') :
    c.toNat < 65536 ∧ (isHigh c.toNat || isLow c.toNat) = false := by
  rcases special with html | control
  · unfold JsonText.htmlSpecial at html
    simp only [Bool.or_eq_true, decide_eq_true_eq] at html
    rcases html with (((rfl | rfl) | rfl) | rfl) | rfl <;> decide
  · have low : c.toNat < 32 := control
    unfold isHigh isLow
    simp only [Bool.or_eq_false_iff, Bool.and_eq_false_iff, decide_eq_false_iff_not]
    omega

theorem readText_unicodeSpelling {c : Char} (special : JsonText.htmlSpecial c = true ∨ c < ' ') (rest : List Spelt) :
    readText (unicodeSpelling c :: rest) = .scalar c :: readText rest := by
  obtain ⟨small, alone⟩ := htmlSpecial_small special
  unfold unicodeSpelling
  rw [readText_unicode (by rw [unitOf_hexOf small]; exact alone), unitOf_hexOf small, Char.ofNat_toNat]

theorem readText_goSpelling (c : Char) (rest : List Spelt) :
    readText (goSpelling c :: rest) = .scalar c :: readText rest := by
  unfold goSpelling
  split
  case isTrue html => exact readText_unicodeSpelling (.inl html) rest
  split
  case isTrue same => exact same ▸ rfl
  split
  case isTrue same => exact same ▸ rfl
  split
  case isTrue same => exact same ▸ rfl
  split
  case isTrue same => exact same ▸ rfl
  split
  case isTrue same => exact same ▸ rfl
  split
  case isTrue same => exact same ▸ rfl
  split
  case isTrue same => exact same ▸ rfl
  split
  case isTrue control => exact readText_unicodeSpelling (.inr control) rest
  · rfl

/-- What `json.Marshal` writes reads as what it was given. -/
theorem readText_written (text : List Char) : readText (text.map goSpelling) = scalars text := by
  induction text with
  | nil => rfl
  | cons c rest ih =>
    rw [List.map_cons, readText_goSpelling, ih]
    rfl

theorem content_marshal (value : GoValue) : content (marshal value).document = value.map scalars := by
  unfold content marshal
  rw [JsonTree.map_map]
  exact congrArg (fun f => value.map f) (funext readText_written)

/-! ## Scrubbing a value -/

variable {order : MapOrder Numeral}

/-- What comes of an item of an array. -/
def ItemScrubbed (order : MapOrder Numeral) (cleaned item : GoValue) : Prop :=
  ∃ path, cleaned = if (scrubValue order path item).2 then (scrubValue order path item).1 else item

/-- What comes of an entry of a map. -/
def EntryScrubbed (order : MapOrder Numeral) (cleaned entry : List Char × GoValue) : Prop :=
  cleaned.1 = withoutNuls entry.1 ∧ ∃ path, cleaned.2 = (scrubValue order path entry.2).1

theorem scrubItems_paired (path : List Nat) (index : Nat) (items : List GoValue) :
    List.Forall₂ (ItemScrubbed order) (scrubItems order path index items).1 items := by
  induction items generalizing index with
  | nil => exact .nil
  | cons item rest ih => exact .cons ⟨index :: path, rfl⟩ (ih (index + 1))

theorem scrubEntries_paired (path : List Nat) (index : Nat) (entries : Entries) :
    List.Forall₂ (EntryScrubbed order) (scrubEntries order path index entries).1 entries := by
  induction entries generalizing index with
  | nil => exact .nil
  | cons entry rest ih =>
    refine .cons ⟨?_, index :: path, rfl⟩ (ih (index + 1))
    show (if '\x00' ∈ entry.1 then withoutNuls entry.1 else entry.1) = withoutNuls entry.1
    split
    · rfl
    case isFalse clean => exact (withoutNuls_of_clean (decide_eq_false clean)).symm

theorem scrubItems_changed (path : List Nat) (index : Nat) {items : List GoValue}
    (each : ∀ item ∈ items, ∀ path, (scrubValue order path item).2 = item.any goNul) :
    (scrubItems order path index items).2 = items.any fun item => item.any goNul := by
  induction items generalizing index with
  | nil => rfl
  | cons item rest ih =>
    obtain ⟨own, others⟩ := List.forall_mem_cons.mp each
    show ((scrubValue order _ item).2 || (scrubItems order path (index + 1) rest).2) = _
    rw [own, ih (index + 1) others, List.any_cons]

theorem scrubEntries_changed (path : List Nat) (index : Nat) {entries : Entries}
    (each : ∀ entry ∈ entries, ∀ path, (scrubValue order path entry.2).2 = entry.2.any goNul) :
    (scrubEntries order path index entries).2 = entries.any fun entry => goNul entry.1 || entry.2.any goNul := by
  induction entries generalizing index with
  | nil => rfl
  | cons entry rest ih =>
    obtain ⟨own, others⟩ := List.forall_mem_cons.mp each
    show (goNul entry.1 || (scrubValue order _ entry.2).2 || (scrubEntries order path (index + 1) rest).2) = _
    rw [own, ih (index + 1) others, List.any_cons]

/-- A change is reported exactly when some string or key has a NUL. -/
theorem scrubValue_changed (path : List Nat) (value : GoValue) :
    (scrubValue order path value).2 = value.any goNul := by
  induction value using JsonTree.induction generalizing path with
  | null | bool | num => rfl
  | str text =>
    unfold scrubValue
    split
    case isTrue has => exact (decide_eq_true has).symm
    case isFalse clean => exact (decide_eq_false clean).symm
  | arr items ih =>
    rw [JsonTree.any_arr]
    exact scrubItems_changed path 0 ih
  | obj entries ih =>
    rw [JsonTree.any_obj]
    exact scrubEntries_changed path 0 ih

theorem map_withoutNuls_of_clean {value : GoValue} (clean : value.any goNul = false) :
    value.map withoutNuls = value :=
  JsonTree.map_eq_self (fun _ => withoutNuls_of_clean) clean

theorem scrubEntries_keys (path : List Nat) (entries : Entries) :
    (scrubEntries order path 0 entries).1.map Prod.fst = entries.map fun entry => withoutNuls entry.1 :=
  List.forall₂_eq_eq_eq ▸ map_paired (fun _ _ scrubbed => scrubbed.1) (scrubEntries_paired path 0 entries)

/-- Scrubbing only removes NULs when that makes no two keys of a map equal. -/
theorem scrubValue_same (path : List Nat) {value : GoValue} (distinct : (value.map withoutNuls).DistinctKeys) :
    (scrubValue order path value).1.Same (value.map withoutNuls) := by
  induction value using JsonTree.induction generalizing path with
  | null => trivial
  | bool | num => rfl
  | str text =>
    unfold scrubValue
    split
    · rfl
    case isFalse clean => exact (withoutNuls_of_clean (decide_eq_false clean)).symm
  | arr items ih =>
    rw [JsonTree.map_arr, JsonTree.distinctKeys_arr, List.forall_mem_map] at distinct
    rw [JsonTree.map_arr]
    refine (JsonTree.same_arr _ _).mpr (List.forall₂_map_right_iff.mpr ?_)
    refine imp_paired (scrubItems_paired path 0 items) ?_
    rintro cleaned item member ⟨below, rfl⟩
    split
    · exact ih item member below (distinct item member)
    case isFalse unchanged =>
      rw [scrubValue_changed, Bool.not_eq_true] at unchanged
      rw [map_withoutNuls_of_clean unchanged]
      exact JsonTree.Same.refl item
  | obj entries ih =>
    rw [JsonTree.map_obj, JsonTree.distinctKeys_obj, List.forall_mem_map, List.map_map] at distinct
    rw [JsonTree.map_obj]
    have alike : List.Forall₂ JsonTree.SameField (scrubEntries order path 0 entries).1
        (entries.map (Prod.map withoutNuls (JsonTree.map withoutNuls))) := by
      refine List.forall₂_map_right_iff.mpr ?_
      refine imp_paired (scrubEntries_paired path 0 entries) ?_
      rintro cleaned entry member ⟨key, below, item⟩
      exact ⟨key, item ▸ ih entry member below (distinct.2 entry member)⟩
    have visited := order.permuted path (scrubEntries order path 0 entries).1
    have kept := (perm_setAll ((visited.map Prod.fst).nodup_iff.mpr (scrubEntries_keys path entries ▸ distinct.1))).trans
      visited
    obtain ⟨moved, same, permuted⟩ := List.perm_comp_forall₂ kept alike
    exact (JsonTree.same_obj _ _).mpr ⟨moved, same, permuted⟩

section Orders

variable {other : MapOrder Numeral}

theorem scrubItems_eq {items : List GoValue}
    (each : ∀ item ∈ items, ∀ path elsewhere, scrubValue order path item = scrubValue other elsewhere item)
    (path elsewhere : List Nat) (index position : Nat) :
    scrubItems order path index items = scrubItems other elsewhere position items := by
  induction items generalizing index position with
  | nil => rfl
  | cons item rest ih =>
    obtain ⟨own, others⟩ := List.forall_mem_cons.mp each
    unfold scrubItems
    rw [own _ (position :: elsewhere), ih others (index + 1) (position + 1)]

theorem scrubEntries_eq {entries : Entries}
    (each : ∀ entry ∈ entries, ∀ path elsewhere, scrubValue order path entry.2 = scrubValue other elsewhere entry.2)
    (path elsewhere : List Nat) (index position : Nat) :
    scrubEntries order path index entries = scrubEntries other elsewhere position entries := by
  induction entries generalizing index position with
  | nil => rfl
  | cons entry rest ih =>
    obtain ⟨own, others⟩ := List.forall_mem_cons.mp each
    unfold scrubEntries
    rw [own _ (position :: elsewhere), ih others (index + 1) (position + 1)]

/-- The order in which maps are walked does not show when cleaning makes no two keys equal. -/
theorem scrubValue_orders (path elsewhere : List Nat) {value : GoValue}
    (distinct : (value.map withoutNuls).DistinctKeys) :
    scrubValue order path value = scrubValue other elsewhere value := by
  induction value using JsonTree.induction generalizing path elsewhere with
  | null | bool | num | str => rfl
  | arr items ih =>
    rw [JsonTree.map_arr, JsonTree.distinctKeys_arr, List.forall_mem_map] at distinct
    unfold scrubValue
    rw [scrubItems_eq (fun item member path elsewhere => ih item member path elsewhere (distinct item member))
      path elsewhere 0 0]
  | obj entries ih =>
    rw [JsonTree.map_obj, JsonTree.distinctKeys_obj, List.forall_mem_map, List.map_map] at distinct
    have same := scrubEntries_eq (fun entry member path elsewhere => ih entry member path elsewhere (distinct.2 entry member))
      path elsewhere 0 0
    have keys := @scrubEntries_keys other elsewhere entries
    unfold scrubValue
    rw [same]
    generalize scrubEntries other elsewhere 0 entries = cleaned at keys
    dsimp only
    have permuted := (order.permuted path cleaned.1).trans (other.permuted elsewhere cleaned.1).symm
    have nodup := ((other.permuted elsewhere cleaned.1).map Prod.fst).nodup_iff.mpr (keys ▸ distinct.1)
    rw [setAll_eq_of_perm permuted nodup]

end Orders

/-- The maps of the result have distinct keys, whatever was overwritten. -/
theorem scrubValue_distinct (path : List Nat) {value : GoValue} (distinct : value.DistinctKeys) :
    (scrubValue order path value).1.DistinctKeys := by
  induction value using JsonTree.induction generalizing path with
  | null | bool | num => trivial
  | str text =>
    unfold scrubValue
    split <;> trivial
  | arr items ih =>
    rw [JsonTree.distinctKeys_arr] at distinct
    refine (JsonTree.distinctKeys_arr _).mpr fun cleaned inside => ?_
    obtain ⟨item, member, below, rfl⟩ := exists_right (scrubItems_paired path 0 items) inside
    split
    · exact ih item member below (distinct item member)
    · exact distinct item member
  | obj entries ih =>
    rw [JsonTree.distinctKeys_obj] at distinct
    refine (JsonTree.distinctKeys_obj _).mpr ⟨nodup_of_sorted (sorted_setAll _), fun cleaned inside => ?_⟩
    have visited := (order.permuted path (scrubEntries order path 0 entries).1).mem_iff.mp (mem_setAll inside)
    obtain ⟨entry, member, _, below, item⟩ := exists_right (scrubEntries_paired path 0 entries) visited
    exact item ▸ ih entry member below (distinct.2 entry member)

/-! ## Decoding -/

theorem decodeItems_eq (items : List Content) : decodeItems items = items.map decode := by
  induction items with
  | nil => rfl
  | cons item rest ih => exact congrArg _ ih

theorem decodeFields_eq (fields : List (List JsonChar × Content)) :
    decodeFields fields = fields.map (Prod.map (List.map scalarOf) decode) := by
  induction fields with
  | nil => rfl
  | cons field rest ih => exact congrArg _ ih

theorem decode_arr (items : List Content) : decode (.arr items) = .arr (items.map decode) :=
  congrArg JsonTree.arr (decodeItems_eq items)

theorem decode_obj (fields : List (List JsonChar × Content)) :
    decode (.obj fields) = .obj (setAll (fields.map (Prod.map (List.map scalarOf) decode))) :=
  congrArg (fun entries => JsonTree.obj (setAll entries)) (decodeFields_eq fields)

theorem decode_distinct (value : Content) : (decode value).DistinctKeys := by
  induction value using JsonTree.induction with
  | null | bool | num | str => trivial
  | arr items ih =>
    rw [decode_arr, JsonTree.distinctKeys_arr, List.forall_mem_map]
    exact ih
  | obj fields ih =>
    rw [decode_obj, JsonTree.distinctKeys_obj]
    refine ⟨nodup_of_sorted (sorted_setAll _), fun entry member => ?_⟩
    obtain ⟨field, inside, rfl⟩ := List.mem_map.mp (mem_setAll member)
    exact ih field inside

theorem decode_clean {value : Content} (clean : value.any nul = false) : (decode value).any goNul = false := by
  induction value using JsonTree.induction with
  | null | bool | num => rfl
  | str text => exact (goNul_decoded text).trans clean
  | arr items ih =>
    rw [JsonTree.any_arr, List.any_eq_false] at clean
    rw [decode_arr, JsonTree.any_arr, List.any_map, List.any_eq_false]
    intro item member
    rw [Function.comp_apply, ih item member (Bool.not_eq_true _ ▸ clean item member)]
    exact Bool.false_ne_true
  | obj fields ih =>
    rw [JsonTree.any_obj, List.any_eq_false] at clean
    rw [decode_obj, JsonTree.any_obj, List.any_eq_false]
    intro entry member
    obtain ⟨field, inside, rfl⟩ := List.mem_map.mp (mem_setAll member)
    have own := clean field inside
    rw [Bool.not_eq_true, Bool.or_eq_false_iff] at own
    rw [Prod.map_fst, Prod.map_snd, goNul_decoded, own.1, ih field inside own.2]
    exact Bool.false_ne_true

/-- Decoding keeps a document without unpaired surrogates whose keys differ. -/
theorem decode_same {value : Content} (paired : value.any unpaired = false) (distinct : value.DistinctKeys) :
    ((decode value).map scalars).Same value := by
  induction value using JsonTree.induction with
  | null => trivial
  | bool | num => rfl
  | str text => exact scalars_decoded paired
  | arr items ih =>
    rw [JsonTree.any_arr, List.any_eq_false] at paired
    rw [JsonTree.distinctKeys_arr] at distinct
    rw [decode_arr, JsonTree.map_arr, JsonTree.same_arr, List.forall₂_map_left_iff, List.forall₂_map_left_iff,
      List.forall₂_same]
    exact fun item member => ih item member (Bool.not_eq_true _ ▸ paired item member) (distinct item member)
  | obj fields ih =>
    rw [JsonTree.any_obj, List.any_eq_false] at paired
    rw [JsonTree.distinctKeys_obj] at distinct
    have alike : ∀ field ∈ fields, JsonTree.SameField
        (Prod.map scalars (JsonTree.map scalars) (Prod.map (List.map scalarOf) decode field)) field := by
      intro field member
      have own := paired field member
      rw [Bool.not_eq_true, Bool.or_eq_false_iff] at own
      exact ⟨scalars_decoded own.1, ih field member own.2 (distinct.2 field member)⟩
    have keys : ((fields.map (Prod.map (List.map scalarOf) decode)).map Prod.fst).map scalars = fields.map Prod.fst := by
      rw [List.map_map, List.map_map]
      exact List.map_congr_left fun field member => (alike field member).1
    have kept := perm_setAll (List.Nodup.of_map scalars (keys ▸ distinct.1))
    rw [decode_obj, JsonTree.map_obj, JsonTree.same_obj]
    refine List.perm_comp_forall₂ (kept.map _) ?_
    rw [List.forall₂_map_left_iff, List.forall₂_map_left_iff, List.forall₂_same]
    exact alike

/-! ## The whole function -/

/-- The claim about one call: only NULs are gone, every call gives the same, and there is nothing
left to scrub. -/
structure OnlyNulsRemoved (order : MapOrder Numeral) (payload : Payload) : Prop where
  same : (content (stripNulls order payload).1.document).Same ((content payload.document).map cleanText)
  stable : ∀ other, stripNulls other payload = stripNulls order payload
  clean : (content (stripNulls order payload).1.document).any nul = false
  settled : ∀ other, (stripNulls other (stripNulls order payload).1).2 = false

/-- What can be scrubbed without loss: a document the decoder opens, in which no surrogate stands
alone and cleaning makes no two keys of an object equal. -/
structure Scrubbable (payload : Payload) : Prop where
  shallow : payload.document.nesting ≤ maxNestingDepth
  paired : (content payload.document).any unpaired = false
  distinct : ((content payload.document).map cleanText).DistinctKeys

/-- A payload without a NUL is passed on, whatever looks like the escape in it. -/
theorem stripNulls_of_clean (order : MapOrder Numeral) {payload : Payload}
    (clean : (content payload.document).any nul = false) : stripNulls order payload = (payload, false) := by
  have unchanged := @scrubValue_changed order [] (decode (content payload.document))
  rw [decode_clean clean] at unchanged
  unfold stripNulls
  split
  · rfl
  split
  · rfl
  · generalize scrubValue order [] (decode (content payload.document)) = scrubbed at unchanged
    obtain ⟨cleaned, changed⟩ := scrubbed
    cases unchanged
    rfl

/-- With a NUL the call either leaves the payload or writes the scrubbed document. -/
theorem stripNulls_cases (order : MapOrder Numeral) (payload : Payload) :
    stripNulls order payload = (payload, false) ∨
      payload.document.nesting ≤ maxNestingDepth ∧
        stripNulls order payload =
          (marshal (scrubValue order [] (decode (content payload.document))).1, true) := by
  unfold stripNulls
  split
  · exact .inl rfl
  split
  · exact .inl rfl
  case isFalse shallow =>
    generalize scrubValue order [] (decode (content payload.document)) = scrubbed
    obtain ⟨cleaned, changed⟩ := scrubbed
    cases changed
    · exact .inl rfl
    · exact .inr ⟨not_lt.mp shallow, rfl⟩

theorem clean_cleaned (value : Content) : (value.map cleanText).any nul = false := by
  rw [JsonTree.any_map]
  exact JsonTree.any_never nul_cleanText value

theorem unpaired_cleaned (value : Content) : (value.map cleanText).any unpaired = value.any unpaired := by
  rw [JsonTree.any_map]
  exact congrArg (fun p => value.any p) (funext unpaired_cleanText)

/-- A result that is the cleaned document needs the condition. -/
theorem scrubbable_of_same {payload : Payload} (has : (content payload.document).any nul = true)
    (same : (content (stripNulls order payload).1.document).Same ((content payload.document).map cleanText)) :
    Scrubbable payload := by
  rcases stripNulls_cases order payload with untouched | ⟨shallow, written⟩
  · rw [untouched] at same
    have clean := same.any_eq nul
    rw [has, clean_cleaned] at clean
    exact absurd clean.symm Bool.false_ne_true
  · rw [written, content_marshal] at same
    refine ⟨shallow, ?_, ?_⟩
    · rw [← unpaired_cleaned, ← same.any_eq unpaired, JsonTree.any_map]
      exact JsonTree.any_never unpaired_scalars _
    · exact same.distinct.mp ((scrubValue_distinct [] (decode_distinct _)).along scalars_injective)

/-- Under the condition the result is the cleaned document. -/
theorem written_same {payload : Payload} (scrubbable : Scrubbable payload) :
    ((scrubValue order [] (decode (content payload.document))).1.map scalars).Same
        ((content payload.document).map cleanText) ∧
      ((decode (content payload.document)).map withoutNuls).DistinctKeys := by
  have decoded := decode_same scrubbable.paired scrubbable.distinct.of_map
  have cleaned := decoded.map cleanText
  have commute : ((decode (content payload.document)).map scalars).map cleanText =
      ((decode (content payload.document)).map withoutNuls).map scalars := by
    rw [JsonTree.map_map, JsonTree.map_map]
    exact congrArg (fun f => (decode (content payload.document)).map f)
      (funext fun text => (scalars_withoutNuls text).symm)
  rw [commute] at cleaned
  have distinct := (cleaned.distinct.mpr scrubbable.distinct).of_map
  exact ⟨((scrubValue_same [] distinct).map scalars).trans cleaned, distinct⟩

theorem stripNulls_of_scrubbable (order : MapOrder Numeral) {payload : Payload}
    (has : (content payload.document).any nul = true) (scrubbable : Scrubbable payload) :
    stripNulls order payload = (marshal (scrubValue order [] (decode (content payload.document))).1, true) := by
  have decoded := (decode_same scrubbable.paired scrubbable.distinct.of_map).any_eq nul
  rw [JsonTree.any_map, has] at decoded
  have same : nul ∘ scalars = goNul := funext nul_scalars
  have changed := @scrubValue_changed order [] (decode (content payload.document))
  rw [← same, decoded] at changed
  unfold stripNulls
  rw [if_neg (not_not.mpr (escape_of_spells payload.spells has)), if_neg (not_lt.mpr scrubbable.shallow)]
  generalize scrubValue order [] (decode (content payload.document)) = scrubbed at changed
  obtain ⟨cleaned, flag⟩ := scrubbed
  cases changed
  rfl

/-- A call removes the NULs and nothing else, and gives the same every time, exactly for the
payloads without one and for those that can be scrubbed. -/
theorem only_nuls_removed_iff (order : MapOrder Numeral) (payload : Payload) :
    OnlyNulsRemoved order payload ↔ ((content payload.document).any nul = true → Scrubbable payload) := by
  refine ⟨fun removed has => scrubbable_of_same has removed.same, fun scrubbable => ?_⟩
  cases has : (content payload.document).any nul with
  | false =>
    have untouched := fun order => stripNulls_of_clean order has
    refine ⟨?_, fun other => ?_, ?_, fun other => ?_⟩
    · rw [untouched, JsonTree.map_eq_self (fun _ => cleanText_of_clean) has]
      exact JsonTree.Same.refl _
    · rw [untouched, untouched]
    · rw [untouched]
      exact has
    · rw [untouched, untouched]
  | true =>
    have written := fun order => stripNulls_of_scrubbable order has (scrubbable has)
    obtain ⟨same, distinct⟩ := @written_same order _ (scrubbable has)
    have clean : (content (stripNulls order payload).1.document).any nul = false := by
      rw [written, content_marshal, same.any_eq nul, clean_cleaned]
    refine ⟨?_, fun other => ?_, clean, fun other => ?_⟩
    · rw [written, content_marshal]
      exact same
    · rw [written, written, scrubValue_orders [] [] distinct]
    · rw [stripNulls_of_clean other clean]

/-- The object `{"a\u0000":1,"a":2}`. -/
def collidingKeys : Payload :=
  let letter : Spelt := .plain 'a' (by decide)
  let document : Document :=
    .obj [([letter, .unicode (hexOf 0) (hexOf 0) (hexOf 0) (hexOf 0)], .num ⟨['1'], by decide⟩),
      ([letter], .num ⟨['2'], by decide⟩)]
  ⟨compact document, document, spells_compact document⟩

/-- One of the two entries is lost, and which one depends on how the map is walked. -/
theorem colliding_keys_merge : ¬ OnlyNulsRemoved .forwards collidingKeys := by
  intro removed
  have same := congrArg (fun result => result.1.text) (removed.stable .backwards)
  exact absurd same (by decide)

end VodogeCloud.Guarantees.NulRemoval
