import VodogeCloud.Lib.Decimal

/-!
# Seconds as a date and a time of day

The proleptic Gregorian calendar in UTC, without leap seconds. A year is counted from
March, so that the leap day is its last one, and a cycle of 400 years has 146097 days. The
text of a moment determines the second.
-/

set_option autoImplicit false

namespace VodogeCloud.Lib.CivilTime

open VodogeCloud.Lib.Decimal

structure Date where
  year : Int
  month : Int
  day : Int
  deriving DecidableEq, Repr

/-- The year of the cycle that a day of the cycle falls in. A century ends with a year
of 365 days unless the cycle ends with it, and four years end with one of 366. -/
def yearOfCycle (day : Int) : Int :=
  let century := min (day / 36524) 3
  let inCentury := day - century * 36524
  let inFour := inCentury - inCentury / 1461 * 1461
  100 * century + 4 * (inCentury / 1461) + min (inFour / 365) 3

/-- The days of a cycle before a year of it. -/
def daysBefore (year : Int) : Int := year / 100 * 36524 + year % 100 / 4 * 1461 + year % 4 * 365

/-- The date of a day of a year, both counted from March. -/
def Date.ofYear (year day : Int) : Date :=
  let month := (5 * day + 2) / 153
  { year := year + (if month < 10 then 0 else 1)
    month := if month < 10 then month + 3 else month - 9
    day := day - (153 * month + 2) / 5 + 1 }

/-- The date so many days after 1970-01-01. -/
def Date.ofDays (days : Int) : Date :=
  let shifted := days + 719468
  let year := yearOfCycle (shifted % 146097)
  Date.ofYear (shifted / 146097 * 400 + year) (shifted % 146097 - daysBefore year)

/-- The days from 1970-01-01 to a date. -/
def Date.toDays (date : Date) : Int :=
  let year := if date.month ≤ 2 then date.year - 1 else date.year
  let month := if date.month ≤ 2 then date.month + 9 else date.month - 3
  year / 400 * 146097 + daysBefore (year % 400) + (153 * month + 2) / 5 + date.day - 1 - 719468

theorem yearOfCycle_bounds {day : Int} (low : 0 ≤ day) (high : day < 146097) :
    0 ≤ yearOfCycle day ∧ yearOfCycle day < 400 := by
  unfold yearOfCycle
  dsimp only
  omega

/-- A year of the cycle has at most 366 days. -/
theorem dayOfYear_bounds {day : Int} (low : 0 ≤ day) (high : day < 146097) :
    0 ≤ day - daysBefore (yearOfCycle day) ∧ day - daysBefore (yearOfCycle day) ≤ 365 := by
  unfold daysBefore yearOfCycle
  dsimp only
  generalize century : min (day / 36524) 3 = c
  have centuries : 0 ≤ c ∧ c ≤ 3 ∧ 0 ≤ day - c * 36524 ∧ day - c * 36524 ≤ 36524 := by omega
  generalize within : day - c * 36524 = inCentury at *
  generalize four : inCentury / 1461 = q
  have fours : 0 ≤ q ∧ q ≤ 24 ∧ 0 ≤ inCentury - q * 1461 ∧ inCentury - q * 1461 ≤ 1460 := by omega
  generalize last : min ((inCentury - q * 1461) / 365) 3 = y
  have years : 0 ≤ y ∧ y ≤ 3 ∧ 0 ≤ inCentury - q * 1461 - y * 365 ∧
      inCentury - q * 1461 - y * 365 ≤ 365 := by omega
  have hundreds : (100 * c + 4 * q + y) / 100 = c := by omega
  have quarters : (100 * c + 4 * q + y) % 100 / 4 = q := by omega
  have ones : (100 * c + 4 * q + y) % 4 = y := by omega
  rw [hundreds, quarters, ones]
  omega

theorem toDays_ofYear {year day : Int} (low : 0 ≤ day) (high : day ≤ 365) :
    (Date.ofYear year day).toDays = year / 400 * 146097 + daysBefore (year % 400) + day - 719468 := by
  unfold Date.ofYear Date.toDays
  dsimp only
  generalize counted : (5 * day + 2) / 153 = month
  have months : 0 ≤ month ∧ month ≤ 11 := by omega
  by_cases early : month < 10
  · have sameYear : ¬ month + 3 ≤ 2 := by omega
    simp only [if_pos early, if_neg sameYear, Int.add_zero, Int.add_sub_cancel]
    omega
  · have nextYear : month - 9 ≤ 2 := by omega
    simp only [if_neg early, if_pos nextYear, Int.sub_add_cancel, Int.add_sub_cancel]
    omega

theorem toDays_ofDays (days : Int) : (Date.ofDays days).toDays = days := by
  have low : 0 ≤ (days + 719468) % 146097 := by omega
  have high : (days + 719468) % 146097 < 146097 := by omega
  have year := yearOfCycle_bounds low high
  have day := dayOfYear_bounds low high
  unfold Date.ofDays
  dsimp only
  rw [toDays_ofYear day.1 day.2]
  generalize yearOfCycle ((days + 719468) % 146097) = y at year ⊢
  have cycles : ((days + 719468) / 146097 * 400 + y) / 400 = (days + 719468) / 146097 := by omega
  have rest : ((days + 719468) / 146097 * 400 + y) % 400 = y := by omega
  rw [cycles, rest]
  omega

/-- The parts of a date that are written without a sign and in two digits. -/
theorem ofDays_bounds (days : Int) : (0 ≤ (Date.ofDays days).month ∧ (Date.ofDays days).month ≤ 12) ∧
    0 ≤ (Date.ofDays days).day ∧ (Date.ofDays days).day ≤ 31 := by
  have low : 0 ≤ (days + 719468) % 146097 := by omega
  have high : (days + 719468) % 146097 < 146097 := by omega
  have day := dayOfYear_bounds low high
  unfold Date.ofDays Date.ofYear
  dsimp only
  generalize (days + 719468) % 146097 - daysBefore (yearOfCycle ((days + 719468) % 146097)) = d at day ⊢
  constructor
  · split <;> omega
  · omega

/-! ## The text of a moment -/

/-- A number with zeros in front, up to a width. -/
def padded (width n : Nat) : List Char := List.leftpad width '0' (Nat.toDigits 10 n)

/-- A year has at least four digits. -/
def yearText (year : Int) : List Char :=
  if year < 0 then '-' :: padded 4 year.natAbs else padded 4 year.toNat

def dateText (date : Date) : List Char :=
  yearText date.year ++ '-' :: (padded 2 date.month.toNat ++ '-' :: padded 2 date.day.toNat)

/-- The time of day of a second of the day. -/
def clockText (second : Nat) : List Char :=
  padded 2 (second / 3600) ++ ':' :: (padded 2 (second / 60 % 60) ++ ':' :: padded 2 (second % 60))

/-- A second since 1970-01-01 as `2006-01-02T15:04:05Z`. -/
def utcText (second : Int) : List Char :=
  dateText (Date.ofDays (second / 86400)) ++ 'T' :: (clockText (second % 86400).toNat ++ ['Z'])

theorem padded_digits (width n : Nat) : ∀ c ∈ padded width n, c.isDigit = true := by
  intro c member
  unfold padded List.leftpad at member
  rcases List.mem_append.mp member with zero | digit
  · rw [List.eq_of_mem_replicate zero]
    decide
  · exact Nat.isDigit_of_mem_toDigits (by decide) (by decide) digit

theorem padded_injective {width a b : Nat} (same : padded width a = padded width b) : a = b := by
  have value : ∀ n, Nat.ofDigitChars 10 (padded width n) 0 = n := by
    intro n
    unfold padded List.leftpad
    rw [Nat.ofDigitChars_append, Nat.ofDigitChars_replicate_zero, Nat.mul_zero, Nat.ofDigitChars_ten_toDigits]
  rw [← value a, ← value b, same]

/-- A number below 100 has two digits. -/
theorem length_padded {n : Nat} (small : n < 100) : (padded 2 n).length = 2 := by
  have all : ∀ n : Fin 100, (padded 2 n.val).length = 2 := by decide
  exact all ⟨n, small⟩

/-- Two padded numbers before the same mark. -/
theorem padded_append_inj {width a b : Nat} {mark : Char} {rest rest' : List Char}
    (other : mark.isDigit = false) (same : padded width a ++ mark :: rest = padded width b ++ mark :: rest') :
    a = b ∧ rest = rest' := by
  obtain ⟨texts, rests⟩ := digits_append_inj (padded_digits width a) (padded_digits width b) other same
  exact ⟨padded_injective texts, rests⟩

/-- No text of a number starts with a sign. -/
theorem padded_ne_sign {width n : Nat} {rest rest' : List Char} (positive : 0 < width) :
    padded width n ++ rest ≠ '-' :: rest' := by
  intro same
  cases number : padded width n with
  | nil =>
    have length : (padded width n).length = max width (Nat.toDigits 10 n).length := by
      unfold padded
      exact List.length_leftpad
    rw [number, List.length_nil] at length
    omega
  | cons first others =>
    have digit := padded_digits width n first (by rw [number]; exact List.mem_cons_self)
    rw [number, List.cons_append] at same
    rw [(List.cons.inj same).1] at digit
    cases digit

theorem yearText_append_inj {a b : Int} {rest rest' : List Char}
    (same : yearText a ++ '-' :: rest = yearText b ++ '-' :: rest') : a = b ∧ rest = rest' := by
  unfold yearText at same
  by_cases before : a < 0
  · by_cases before' : b < 0
    · rw [if_pos before, if_pos before', List.cons_append, List.cons_append] at same
      obtain ⟨years, rests⟩ := padded_append_inj (by decide) (List.cons.inj same).2
      exact ⟨by omega, rests⟩
    · rw [if_pos before, if_neg before', List.cons_append] at same
      exact absurd same.symm (padded_ne_sign (by decide))
  · by_cases before' : b < 0
    · rw [if_neg before, if_pos before', List.cons_append] at same
      exact absurd same (padded_ne_sign (by decide))
    · rw [if_neg before, if_neg before'] at same
      obtain ⟨years, rests⟩ := padded_append_inj (by decide) same
      exact ⟨by omega, rests⟩

theorem yearText_injective {a b : Int} (same : yearText a = yearText b) : a = b :=
  (@yearText_append_inj a b [] [] (by rw [same])).1

theorem clockText_injective {a b : Nat} (same : clockText a ++ ['Z'] = clockText b ++ ['Z']) : a = b := by
  unfold clockText at same
  simp only [List.append_assoc, List.cons_append] at same
  obtain ⟨hours, same⟩ := padded_append_inj (by decide) same
  obtain ⟨minutes, same⟩ := padded_append_inj (by decide) same
  obtain ⟨seconds, _⟩ := padded_append_inj (by decide) same
  omega

theorem utcText_injective {a b : Int} (same : utcText a = utcText b) : a = b := by
  unfold utcText dateText at same
  simp only [List.append_assoc, List.cons_append] at same
  obtain ⟨years, same⟩ := yearText_append_inj same
  obtain ⟨months, same⟩ := padded_append_inj (by decide) same
  obtain ⟨days, same⟩ := padded_append_inj (by decide) same
  have clocks := clockText_injective same
  have signs := ofDays_bounds (a / 86400)
  have signs' := ofDays_bounds (b / 86400)
  have dates : Date.ofDays (a / 86400) = Date.ofDays (b / 86400) := by
    rw [Date.mk.injEq]
    exact ⟨years, by omega, by omega⟩
  have numbers := congrArg Date.toDays dates
  rw [toDays_ofDays, toDays_ofDays] at numbers
  omega

example : utcText 951827696 = "2000-02-29T12:34:56Z".toList := by decide

end VodogeCloud.Lib.CivilTime
