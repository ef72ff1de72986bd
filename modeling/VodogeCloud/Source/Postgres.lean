import Mathlib.Data.Rat.Defs
import Mathlib.Data.Nat.Log
import Mathlib.Data.List.Infix
import Mathlib.Tactic.Common
import Mathlib.Tactic.Ring
import Mathlib.Tactic.GCongr
import VodogeCloud.Lib.NetAddress

/-!
# The PostgreSQL values the migrations compute with

Errors with their SQLSTATE, uuid input and output, the bigint range and the
jsonb type, as far as the functions under `packages/db/migrations` and the SQL
the gateway sends depend on them. A JSON document is kept as the parser of the
gateway leaves it: a string may still hold a NUL or an unpaired surrogate, and
a number keeps the way it was spelt. Both are lost, or refused, on the way into
jsonb.
-/

set_option autoImplicit false

namespace VodogeCloud.Source.Postgres

open VodogeCloud.Lib.NetAddress (hexDigit)

/-- One error reported by the server. -/
structure PgError where
  code : String
  message : String
  deriving DecidableEq, Repr

/-- `strings.Contains`. -/
def contains (text part : String) : Bool :=
  decide (part.toList <:+: text.toList)

/-- `strings.HasPrefix`. -/
def startsWith (text start : String) : Bool :=
  decide (start.toList <+: text.toList)

/-- Class 22 is data exception, class 23 integrity constraint violation. -/
def PgError.isDataError (err : PgError) : Bool :=
  startsWith err.code "22" || startsWith err.code "23"

/-- `pgconn.PgError.Error()`. -/
def PgError.text (err : PgError) : String :=
  "ERROR: " ++ err.message ++ " (SQLSTATE " ++ err.code ++ ")"

/-- Microseconds since the epoch. -/
abbrev Timestamp := Int

/-- Months and days are kept apart from the microseconds: subtracting them from
a timestamp is calendar arithmetic. -/
structure Interval where
  months : Int
  days : Int
  micros : Int
  deriving DecidableEq, Repr

/-- The span that interval comparison uses: 30-day months and 24-hour days. -/
def Interval.span (i : Interval) : Int :=
  i.micros + 86400000000 * (i.days + 30 * i.months)

def Interval.hour : Interval := ⟨0, 0, 3600000000⟩

/-! ## Integers -/

def bigintMax : Nat := 9223372036854775807

def integerMax : Nat := 2147483647

/-- The result of a bigint addition, or the overflow error. -/
def bigint (value : Nat) : Except PgError Nat :=
  if value ≤ bigintMax then .ok value else .error ⟨"22003", "bigint out of range"⟩

/-- The result of an integer addition, or the overflow error. -/
def integer (value : Nat) : Except PgError Nat :=
  if value ≤ integerMax then .ok value else .error ⟨"22003", "integer out of range"⟩

/-! ## numeric and double precision -/

/-- `select_div_scale` for `micros / 10 ^ 6` over an integer: sixteen significant
digits, counted in groups of four, and at least the six of the numerator. -/
def divScale (micros divisor : Nat) : Nat :=
  let scaled := micros * 100
  let weight : Int := if micros = 0 then 0 else (Nat.log 10000 scaled : Int) - 2
  let first := scaled / 10000 ^ Nat.log 10000 scaled
  let weight' : Int := Nat.log 10000 divisor
  let first' := divisor / 10000 ^ Nat.log 10000 divisor
  let quotient := if first ≤ first' then weight - weight' - 1 else weight - weight'
  min 1000 (max 6 (16 - 4 * quotient)).toNat

/-- `floor(extract(epoch FROM span) / divisor)::bigint`, the span in microseconds.
The quotient is rounded half away from zero before the floor is taken. -/
def epochQuotient (micros : Int) (divisor : Nat) : Int :=
  let unit := 10 ^ divScale micros.natAbs divisor
  let whole := 1000000 * divisor
  let rounded := (2 * micros.natAbs * unit + whole) / (2 * whole)
  if 0 ≤ micros then (rounded / unit : Nat) else -((rounded + unit - 1) / unit : Nat)

/-- Rounding never takes a span below an occurrence it has reached. -/
theorem le_epochQuotient {micros : Int} {divisor count : Nat} (positive : 0 < divisor)
    (reached : ((count * (1000000 * divisor) : Nat) : Int) ≤ micros) :
    (count : Int) ≤ epochQuotient micros divisor := by
  have forward : 0 ≤ micros := by omega
  unfold epochQuotient
  dsimp only
  rw [if_pos forward, Int.ofNat_le]
  generalize divScale micros.natAbs divisor = scale
  have unit : 0 < 10 ^ scale := Nat.pow_pos (by decide)
  have whole : 0 < 2 * (1000000 * divisor) := by omega
  have enough : count * (1000000 * divisor) ≤ micros.natAbs := by omega
  rw [Nat.le_div_iff_mul_le unit, Nat.le_div_iff_mul_le whole]
  calc count * 10 ^ scale * (2 * (1000000 * divisor))
      = 2 * (count * (1000000 * divisor)) * 10 ^ scale := by ring
    _ ≤ 2 * micros.natAbs * 10 ^ scale := by gcongr
    _ ≤ 2 * micros.natAbs * 10 ^ scale + 1000000 * divisor := Nat.le_add_right _ _

/-- The double nearest to a natural number, ties to even. -/
def toDouble (n : Nat) : Nat :=
  let step := 2 ^ (Nat.log 2 n - 52)
  let quotient := n / step
  let rest := n % step
  if step < 2 * rest ∨ (2 * rest = step ∧ quotient % 2 = 1) then (quotient + 1) * step
  else quotient * step

theorem toDouble_eq_of_dvd {n : Nat} (exact_ : 2 ^ (Nat.log 2 n - 52) ∣ n) : toDouble n = n := by
  have rest : n % 2 ^ (Nat.log 2 n - 52) = 0 := Nat.mod_eq_zero_of_dvd exact_
  have step : 0 < 2 ^ (Nat.log 2 n - 52) := Nat.pow_pos (by decide)
  unfold toDouble
  dsimp only
  rw [rest, if_neg (by omega), Nat.div_mul_cancel exact_]

/-- A multiple of 64 below 2 ^ 59 is a double. -/
theorem toDouble_eq_of_lt {n : Nat} (small : n < 2 ^ 59) (even : 64 ∣ n) : toDouble n = n := by
  apply toDouble_eq_of_dvd
  have bound : Nat.log 2 n < 59 := by
    by_cases zero : n = 0
    · subst zero; simp
    · exact (Nat.log_lt_iff_lt_pow (by decide) zero).mpr small
  calc 2 ^ (Nat.log 2 n - 52) ∣ 2 ^ 6 := Nat.pow_dvd_pow 2 (by omega)
    _ ∣ n := even

/-- So is every number below 2 ^ 53. -/
theorem toDouble_eq_of_small {n : Nat} (small : n < 2 ^ 53) : toDouble n = n := by
  apply toDouble_eq_of_dvd
  have bound : Nat.log 2 n < 53 := by
    by_cases zero : n = 0
    · subst zero; simp
    · exact (Nat.log_lt_iff_lt_pow (by decide) zero).mpr small
  have none_ : Nat.log 2 n - 52 = 0 := by omega
  rw [none_]
  exact one_dvd n

/-! ## uuid -/

abbrev Uuid := BitVec 128

/-- Sixteen byte pairs; a hyphen may follow every second byte but the last. -/
def uuidBytes : Nat → List Char → Nat → Option (Nat × List Char)
  | 0, rest, value => some (value, rest)
  | left + 1, high :: low :: rest, value =>
    match hexDigit high, hexDigit low with
    | some h, some l =>
      let value := value * 256 + h.val * 16 + l.val
      match rest with
      | '-' :: after =>
        if (15 - left) % 2 = 1 ∧ left ≠ 0 then uuidBytes left after value
        else uuidBytes left rest value
      | _ => uuidBytes left rest value
    | _, _ => none
  | _ + 1, _, _ => none

/-- `string_to_uuid`, with the optional braces. -/
def parseUuid (text : List Char) : Option Uuid :=
  match text with
  | '\x7b' :: inner =>
    match uuidBytes 16 inner 0 with
    | some (value, ['\x7d']) => some (BitVec.ofNat 128 value)
    | _ => none
  | _ =>
    match uuidBytes 16 text 0 with
    | some (value, []) => some (BitVec.ofNat 128 value)
    | _ => none

/-- A text argument the server reads as uuid. A NUL is refused by the encoding
check before the type is looked at. -/
def uuidIn (text : String) : Except PgError Uuid :=
  if '\x00' ∈ text.toList then
    .error ⟨"22021", "invalid byte sequence for encoding \"UTF8\": 0x00"⟩
  else
    match parseUuid text.toList with
    | some value => .ok value
    | none => .error ⟨"22P02", "invalid input syntax for type uuid: \"" ++ text ++ "\""⟩

/-- `uuid_out`: lower-case hex in groups of 8-4-4-4-12. -/
def uuidOut (value : Uuid) : String :=
  let digits := (List.range 32).map fun i => Nat.digitChar (value.toNat / 16 ^ (31 - i) % 16)
  String.ofList
    (digits.take 8 ++ '-' :: (digits.drop 8).take 4 ++ '-' :: (digits.drop 12).take 4 ++
      '-' :: (digits.drop 16).take 4 ++ '-' :: digits.drop 20)

/-- The hex digit of weight `16 ^ place`. -/
def nibble (value place : Nat) : Char := Nat.digitChar (value / 16 ^ place % 16)

theorem hexDigit_nibble (value place : Nat) :
    hexDigit (nibble value place) = some ⟨value / 16 ^ place % 16, Nat.mod_lt _ (by decide)⟩ := by
  have all : ∀ x : Fin 16, hexDigit (Nat.digitChar x) = some x := by decide
  exact all ⟨value / 16 ^ place % 16, Nat.mod_lt _ (by decide)⟩

theorem nibble_plain (value place : Nat) :
    nibble value place ≠ '-' ∧ nibble value place ≠ '\x00' ∧ nibble value place ≠ '\x7b' := by
  have all : ∀ x : Fin 16, Nat.digitChar x ≠ '-' ∧ Nat.digitChar x ≠ '\x00' ∧
      Nat.digitChar x ≠ '\x7b' := by decide
  exact all ⟨value / 16 ^ place % 16, Nat.mod_lt _ (by decide)⟩

/-- Two digits appended to the digits above them. -/
theorem nibbles_append (value place : Nat) :
    value / 16 ^ (place + 2) * 256 + value / 16 ^ (place + 1) % 16 * 16 + value / 16 ^ place % 16 =
      value / 16 ^ place := by
  rw [Nat.pow_succ, Nat.pow_succ, ← Nat.div_div_eq_div_mul, ← Nat.div_div_eq_div_mul]
  omega

theorem uuidBytes_byte (value left : Nat) {rest : List Char} (next : ∀ after, rest ≠ '-' :: after) :
    uuidBytes (left + 1) (nibble value (2 * left + 1) :: nibble value (2 * left) :: rest)
      (value / 16 ^ (2 * left + 2)) = uuidBytes left rest (value / 16 ^ (2 * left)) := by
  rw [uuidBytes, hexDigit_nibble, hexDigit_nibble]
  dsimp only
  rw [nibbles_append]
  split
  · next after => exact absurd rfl (next after)
  · rfl

theorem uuidBytes_byte_hyphen (value left : Nat) {rest : List Char}
    (place : (15 - left) % 2 = 1 ∧ left ≠ 0) :
    uuidBytes (left + 1) (nibble value (2 * left + 1) :: nibble value (2 * left) :: '-' :: rest)
      (value / 16 ^ (2 * left + 2)) = uuidBytes left rest (value / 16 ^ (2 * left)) := by
  rw [uuidBytes, hexDigit_nibble, hexDigit_nibble]
  dsimp only
  rw [nibbles_append]
  exact if_pos place

theorem uuidOut_toList (value : Uuid) : (uuidOut value).toList =
    [nibble value.toNat 31, nibble value.toNat 30, nibble value.toNat 29, nibble value.toNat 28,
      nibble value.toNat 27, nibble value.toNat 26, nibble value.toNat 25, nibble value.toNat 24, '-',
      nibble value.toNat 23, nibble value.toNat 22, nibble value.toNat 21, nibble value.toNat 20, '-',
      nibble value.toNat 19, nibble value.toNat 18, nibble value.toNat 17, nibble value.toNat 16, '-',
      nibble value.toNat 15, nibble value.toNat 14, nibble value.toNat 13, nibble value.toNat 12, '-',
      nibble value.toNat 11, nibble value.toNat 10, nibble value.toNat 9, nibble value.toNat 8,
      nibble value.toNat 7, nibble value.toNat 6, nibble value.toNat 5, nibble value.toNat 4,
      nibble value.toNat 3, nibble value.toNat 2, nibble value.toNat 1, nibble value.toNat 0] := by
  rw [uuidOut, String.toList_ofList]
  rfl

theorem uuidOut_length (value : Uuid) : (uuidOut value).toList.length = 36 := by
  simp [uuidOut]

theorem uuidBytes_uuidOut (value : Uuid) :
    uuidBytes 16 (uuidOut value).toList 0 = some (value.toNat, []) := by
  have start : 0 = value.toNat / 16 ^ (2 * 15 + 2) := by
    rw [Nat.div_eq_of_lt]
    exact lt_of_lt_of_eq value.isLt (by decide)
  have plain : ∀ (place : Nat) (more after : List Char),
      nibble value.toNat place :: more ≠ '-' :: after := by
    intro place more after same
    exact (nibble_plain _ _).1 (List.cons.inj same).1
  conv_lhs => rw [start]
  rw [uuidOut_toList, uuidBytes_byte _ 15 (plain _ _), uuidBytes_byte _ 14 (plain _ _),
    uuidBytes_byte _ 13 (plain _ _), uuidBytes_byte_hyphen _ 12 (by decide),
    uuidBytes_byte _ 11 (plain _ _), uuidBytes_byte_hyphen _ 10 (by decide),
    uuidBytes_byte _ 9 (plain _ _), uuidBytes_byte_hyphen _ 8 (by decide),
    uuidBytes_byte _ 7 (plain _ _), uuidBytes_byte_hyphen _ 6 (by decide),
    uuidBytes_byte _ 5 (plain _ _), uuidBytes_byte _ 4 (plain _ _), uuidBytes_byte _ 3 (plain _ _),
    uuidBytes_byte _ 2 (plain _ _), uuidBytes_byte _ 1 (plain _ _), uuidBytes_byte _ 0 (by simp),
    uuidBytes]
  simp

/-- A uuid is read back from its own text. -/
theorem uuidIn_uuidOut (value : Uuid) : uuidIn (uuidOut value) = .ok value := by
  have read := uuidBytes_uuidOut value
  have noNul : '\x00' ∉ (uuidOut value).toList := by
    rw [uuidOut_toList]
    simp [fun place => Ne.symm (nibble_plain value.toNat place).2.1]
  unfold uuidIn parseUuid
  rw [if_neg noNul]
  split
  · next id parsed =>
    split at parsed
    · next inner braced =>
      rw [uuidOut_toList] at braced
      exact absurd (List.cons.inj braced).1 (nibble_plain _ 31).2.2
    · rw [read] at parsed
      dsimp only at parsed
      cases parsed
      simp
  · next none_ =>
    split at none_
    · next inner braced =>
      rw [uuidOut_toList] at braced
      exact absurd (List.cons.inj braced).1 (nibble_plain _ 31).2.2
    · rw [read] at none_
      cases none_

/-- Two uuids with the same text are the same. -/
theorem uuidOut_injective {a b : Uuid} (h : uuidOut a = uuidOut b) : a = b := by
  have read : Except.ok a = (Except.ok b : Except PgError Uuid) := by
    rw [← uuidIn_uuidOut a, h, uuidIn_uuidOut b]
  exact Except.ok.inj read

/-! ## JSON text and jsonb -/

/-- A code point of a JSON string, or the half of a surrogate pair whose other
half the escape sequence left out. -/
inductive JsonChar where
  | scalar (c : Char)
  | loneSurrogate (unit : Nat)
  deriving DecidableEq, Repr

/-- A JSON document as written. `exponent` is absent for a number spelt as a
plain integer; otherwise the value is `mantissa * 10 ^ exponent`. -/
inductive Json where
  | null
  | bool (value : Bool)
  | num (mantissa : Int) (exponent : Option Int)
  | str (text : List JsonChar)
  | arr (items : List Json)
  | obj (fields : List (List JsonChar × Json))
  deriving Repr

/-- The JSON string that spells `text`. -/
def chars (text : String) : List JsonChar := text.toList.map .scalar

/-- A stored jsonb value. Object keys are unique and sorted, numbers are exact. -/
inductive Jsonb where
  | null
  | bool (value : Bool)
  | num (value : Rat)
  | str (text : String)
  | arr (items : List Jsonb)
  | obj (fields : List (String × Jsonb))
  deriving Repr

namespace Jsonb

mutual

def decEq : (a b : Jsonb) → Decidable (a = b)
  | .null, .null => isTrue rfl
  | .bool a, .bool b => decidable_of_iff (a = b) (by simp)
  | .num a, .num b => decidable_of_iff (a = b) (by simp)
  | .str a, .str b => decidable_of_iff (a = b) (by simp)
  | .arr a, .arr b => @decidable_of_iff _ (a = b) (by simp) (decEqItems a b)
  | .obj a, .obj b => @decidable_of_iff _ (a = b) (by simp) (decEqFields a b)
  | .null, .bool _ | .null, .num _ | .null, .str _ | .null, .arr _ | .null, .obj _
  | .bool _, .null | .bool _, .num _ | .bool _, .str _ | .bool _, .arr _ | .bool _, .obj _
  | .num _, .null | .num _, .bool _ | .num _, .str _ | .num _, .arr _ | .num _, .obj _
  | .str _, .null | .str _, .bool _ | .str _, .num _ | .str _, .arr _ | .str _, .obj _
  | .arr _, .null | .arr _, .bool _ | .arr _, .num _ | .arr _, .str _ | .arr _, .obj _
  | .obj _, .null | .obj _, .bool _ | .obj _, .num _ | .obj _, .str _ | .obj _, .arr _ =>
    isFalse nofun

def decEqItems : (a b : List Jsonb) → Decidable (a = b)
  | [], [] => isTrue rfl
  | [], _ :: _ => isFalse nofun
  | _ :: _, [] => isFalse nofun
  | a :: as, b :: bs =>
    @decidable_of_iff _ (a = b ∧ as = bs) (by simp)
      (@instDecidableAnd _ _ (decEq a b) (decEqItems as bs))

def decEqFields : (a b : List (String × Jsonb)) → Decidable (a = b)
  | [], [] => isTrue rfl
  | [], _ :: _ => isFalse nofun
  | _ :: _, [] => isFalse nofun
  | (k, a) :: as, (l, b) :: bs =>
    @decidable_of_iff _ (k = l ∧ a = b ∧ as = bs) (by simp [and_assoc])
      (@instDecidableAnd _ _ inferInstance (@instDecidableAnd _ _ (decEq a b) (decEqFields as bs)))

end

instance : DecidableEq Jsonb := decEq

/-- `jsonb_typeof(value) = 'object'`. -/
def isObject : Jsonb → Bool
  | .obj _ => true
  | _ => false

/-- `value -> key`. -/
def get (value : Jsonb) (key : String) : Option Jsonb :=
  match value with
  | .obj fields => (fields.find? (fun field => field.1 = key)).map Prod.snd
  | _ => none

end Jsonb

/-- Key order of a jsonb object: keys of fewer bytes first, then by bytes, which in
UTF-8 is by characters. -/
def keyLt (a b : String) : Bool :=
  a.utf8ByteSize < b.utf8ByteSize ||
    (a.utf8ByteSize = b.utf8ByteSize && decide (a.toList < b.toList))

/-- Add a field to sorted fields, unless the key is there: the fields are read
from the last one back, and the last of equal keys wins. -/
def insertField (key : String) (value : Jsonb) : List (String × Jsonb) → List (String × Jsonb)
  | [] => [(key, value)]
  | (other, kept) :: rest =>
    if key = other then (other, kept) :: rest
    else if keyLt key other then (key, value) :: (other, kept) :: rest
    else (other, kept) :: insertField key value rest

/-- A fresh key is put somewhere among the others. -/
theorem insertField_perm {key : String} {value : Jsonb} {fields : List (String × Jsonb)}
    (fresh : key ∉ fields.map Prod.fst) : (insertField key value fields).Perm ((key, value) :: fields) := by
  induction fields with
  | nil => exact List.Perm.refl _
  | cons field rest ih =>
    rw [List.map_cons, List.mem_cons, not_or] at fresh
    unfold insertField
    rw [if_neg fresh.1]
    by_cases before : keyLt key field.1
    · rw [if_pos before]
    · rw [if_neg before]
      exact ((ih fresh.2).cons field).trans (List.Perm.swap _ _ _)

theorem find_insertField_of_ne {key other : String} {value : Jsonb} (different : other ≠ key)
    (fields : List (String × Jsonb)) :
    (insertField key value fields).find? (fun field => field.1 = other) =
      fields.find? (fun field => field.1 = other) := by
  induction fields with
  | nil => simp [insertField, different.symm]
  | cons field rest ih =>
    unfold insertField
    by_cases same : key = field.1
    · rw [if_pos same]
    · rw [if_neg same]
      by_cases before : keyLt key field.1 = true
      · rw [if_pos before, List.find?_cons_of_neg (by simpa using different.symm)]
      · rw [if_neg before, List.find?_cons, List.find?_cons, ih]

theorem find_insertField_self {key : String} {value : Jsonb} {fields : List (String × Jsonb)}
    (fresh : key ∉ fields.map Prod.fst) :
    (insertField key value fields).find? (fun field => field.1 = key) = some (key, value) := by
  induction fields with
  | nil => simp [insertField]
  | cons field rest ih =>
    rw [List.map_cons, List.mem_cons, not_or] at fresh
    unfold insertField
    rw [if_neg fresh.1]
    by_cases before : keyLt key field.1 = true
    · simp [before]
    · rw [if_neg before, List.find?_cons_of_neg (by simpa using Ne.symm fresh.1)]
      exact ih fresh.2

theorem keys_insertField {key other : String} {value : Jsonb} {fields : List (String × Jsonb)}
    (member : other ∈ (insertField key value fields).map Prod.fst) :
    other = key ∨ other ∈ fields.map Prod.fst := by
  by_contra outside
  rw [not_or] at outside
  obtain ⟨field, inFields, rfl⟩ := List.mem_map.mp member
  have absent := @find_insertField_of_ne key field.1 value outside.1 fields
  have missing : fields.find? (fun other => other.1 = field.1) = none := by
    refine List.find?_eq_none.mpr fun other inOther same => outside.2 ?_
    exact List.mem_map.mpr ⟨other, inOther, by simpa using same⟩
  rw [missing, List.find?_eq_none] at absent
  exact absent field inFields (by simp)

/-- Taking the key out again gives the fields back. -/
theorem filter_insertField {key : String} {value : Jsonb} {fields : List (String × Jsonb)}
    (fresh : key ∉ fields.map Prod.fst) :
    (insertField key value fields).filter (fun field => field.1 ≠ key) = fields := by
  induction fields with
  | nil => simp [insertField]
  | cons first rest ih =>
    obtain ⟨other, kept⟩ := first
    rw [List.map_cons, List.mem_cons, not_or] at fresh
    have all : rest.filter (fun field => field.1 ≠ key) = rest := by
      refine List.filter_eq_self.mpr fun field member => decide_eq_true fun same => ?_
      exact fresh.2 (List.mem_map.mpr ⟨field, member, same⟩)
    unfold insertField
    rw [if_neg fresh.1]
    split
    · simpa [Ne.symm fresh.1] using all
    · simpa [Ne.symm fresh.1] using ih fresh.2

/-- A JSON string on its way into jsonb. -/
def charIn : JsonChar → Except PgError Char
  | .scalar c => .ok c
  | .loneSurrogate _ => .error ⟨"22P02", "invalid input syntax for type json"⟩

def textIn (text : List JsonChar) : Except PgError String :=
  if JsonChar.scalar '\x00' ∈ text then .error ⟨"22P05", "unsupported Unicode escape sequence"⟩
  else (text.mapM charIn).map String.ofList

/-- A JSON number on its way into numeric: at most 131072 digits before the
decimal point and 16383 after it. -/
def numericIn (mantissa : Int) (exponent : Option Int) : Except PgError Rat :=
  let exponent := exponent.getD 0
  if exponent < -16383 ∨ (mantissa ≠ 0 ∧ (Nat.toDigits 10 mantissa.natAbs).length + exponent > 131072)
  then .error ⟨"22003", "value overflows numeric format"⟩
  else if 0 ≤ exponent then .ok (mantissa * 10 ^ exponent.toNat : Int)
  else .ok (mkRat mantissa (10 ^ (-exponent).toNat))

mutual

/-- The `::jsonb` cast. -/
def jsonbIn : Json → Except PgError Jsonb
  | .null => .ok .null
  | .bool value => .ok (.bool value)
  | .num mantissa exponent => (numericIn mantissa exponent).map .num
  | .str text => (textIn text).map .str
  | .arr items => (jsonbInItems items).map .arr
  | .obj fields => (jsonbInFields fields).map .obj

def jsonbInItems : List Json → Except PgError (List Jsonb)
  | [] => .ok []
  | item :: rest => do
    let value ← jsonbIn item
    let values ← jsonbInItems rest
    return value :: values

def jsonbInFields : List (List JsonChar × Json) → Except PgError (List (String × Jsonb))
  | [] => .ok []
  | (key, item) :: rest => do
    let key ← textIn key
    let value ← jsonbIn item
    let fields ← jsonbInFields rest
    return insertField key value fields

end

/-- The document is a JSON object. -/
def Json.isObject : Json → Bool
  | .obj _ => true
  | _ => false

theorem map_eq_ok {ε α β : Type} {x : Except ε α} {f : α → β} {b : β} :
    x.map f = .ok b ↔ ∃ a, x = .ok a ∧ f a = b := by
  cases x with
  | error err => simp [Except.map]
  | ok a => simp [Except.map]

/-- The cast neither makes an object nor unmakes one. -/
theorem jsonbIn_isObject {document : Json} {value : Jsonb} (h : jsonbIn document = .ok value) :
    value.isObject = document.isObject := by
  cases document with
  | null => cases h; rfl
  | bool flag => cases h; rfl
  | num mantissa exponent => obtain ⟨_, _, rfl⟩ := map_eq_ok.mp h; rfl
  | str text => obtain ⟨_, _, rfl⟩ := map_eq_ok.mp h; rfl
  | arr items => obtain ⟨_, _, rfl⟩ := map_eq_ok.mp h; rfl
  | obj fields => obtain ⟨_, _, rfl⟩ := map_eq_ok.mp h; rfl

/-- Everything the cast raises. -/
def jsonErrors : List PgError :=
  [⟨"22P02", "invalid input syntax for type json"⟩,
    ⟨"22P05", "unsupported Unicode escape sequence"⟩,
    ⟨"22003", "value overflows numeric format"⟩]

theorem map_eq_error {ε α β : Type} {x : Except ε α} {f : α → β} {err : ε} :
    x.map f = .error err ↔ x = .error err := by
  cases x with
  | error err => simp [Except.map]
  | ok a => simp [Except.map]

theorem mapM_charIn_error {text : List JsonChar} {err : PgError}
    (h : text.mapM charIn = .error err) : err ∈ jsonErrors := by
  induction text with
  | nil => cases h
  | cons c rest ih =>
    rw [List.mapM_cons] at h
    cases c with
    | loneSurrogate unit =>
      cases h
      simp [jsonErrors]
    | scalar c =>
      cases later : rest.mapM charIn with
      | error other =>
        rw [later] at h
        cases h
        exact ih later
      | ok value =>
        rw [later] at h
        cases h

theorem textIn_error {text : List JsonChar} {err : PgError} (h : textIn text = .error err) :
    err ∈ jsonErrors := by
  unfold textIn at h
  split at h
  · cases h
    simp [jsonErrors]
  · exact mapM_charIn_error (map_eq_error.mp h)

theorem numericIn_error {mantissa : Int} {exponent : Option Int} {err : PgError}
    (h : numericIn mantissa exponent = .error err) : err ∈ jsonErrors := by
  unfold numericIn at h
  dsimp only at h
  split at h
  · cases h
    simp [jsonErrors]
  · split at h
    · cases h
    · cases h

mutual

theorem jsonbIn_error : ∀ {document : Json} {err : PgError},
    jsonbIn document = .error err → err ∈ jsonErrors
  | .null, _, h => by cases h
  | .bool _, _, h => by cases h
  | .num _ _, _, h => numericIn_error (map_eq_error.mp h)
  | .str _, _, h => textIn_error (map_eq_error.mp h)
  | .arr _, _, h => jsonbInItems_error (map_eq_error.mp h)
  | .obj _, _, h => jsonbInFields_error (map_eq_error.mp h)

theorem jsonbInItems_error : ∀ {items : List Json} {err : PgError},
    jsonbInItems items = .error err → err ∈ jsonErrors
  | [], _, h => by cases h
  | item :: rest, err, h => by
    unfold jsonbInItems at h
    cases first : jsonbIn item with
    | error other =>
      rw [first] at h
      cases h
      exact jsonbIn_error first
    | ok value =>
      cases later : jsonbInItems rest with
      | error other =>
        rw [first, later] at h
        cases h
        exact jsonbInItems_error later
      | ok values =>
        rw [first, later] at h
        cases h

theorem jsonbInFields_error : ∀ {fields : List (List JsonChar × Json)} {err : PgError},
    jsonbInFields fields = .error err → err ∈ jsonErrors
  | [], _, h => by cases h
  | (key, item) :: rest, err, h => by
    unfold jsonbInFields at h
    cases name : textIn key with
    | error other =>
      rw [name] at h
      cases h
      exact textIn_error name
    | ok text =>
      cases first : jsonbIn item with
      | error other =>
        rw [name, first] at h
        cases h
        exact jsonbIn_error first
      | ok value =>
        cases later : jsonbInFields rest with
        | error other =>
          rw [name, first, later] at h
          cases h
          exact jsonbInFields_error later
        | ok values =>
          rw [name, first, later] at h
          cases h

end

end VodogeCloud.Source.Postgres
