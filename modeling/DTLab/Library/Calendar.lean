import DTLab.Library.Json
import Mathlib.Algebra.Order.Group.Nat
import Mathlib.Tactic.Ring

/-!
# Dates and times

The proleptic Gregorian calendar: which dates exist, the instant of a time in microseconds, and
the ISO text of a time. Reading the text of a time gives the time.
-/

namespace DTLab.Library

/-- A date and a time of day. -/
structure DateTime where
  year : Nat
  month : Nat
  day : Nat
  hour : Nat
  minute : Nat
  second : Nat
  microsecond : Nat
  deriving DecidableEq

/-- A leap year. -/
def isLeap (year : Nat) : Bool := year % 4 == 0 && (year % 100 != 0 || year % 400 == 0)

/-- The number of days of a month. -/
def daysInMonth (year month : Nat) : Nat :=
  if month = 2 then if isLeap year then 29 else 28
  else if month ∈ [4, 6, 9, 11] then 30
  else 31

/-- The days of a year that precede a month. -/
def daysBeforeMonth (year month : Nat) : Nat :=
  ((List.range (month - 1)).map fun earlier => daysInMonth year (earlier + 1)).sum

/-- The days that precede a year, from the first of January of the year one. -/
def daysBeforeYear (year : Nat) : Nat :=
  (year - 1) * 365 + (year - 1) / 4 - (year - 1) / 100 + (year - 1) / 400

namespace DateTime

/-- A time that exists, in a year of four digits. -/
def Valid (time : DateTime) : Prop :=
  (1 ≤ time.year ∧ time.year ≤ 9999) ∧ (1 ≤ time.month ∧ time.month ≤ 12) ∧
    (1 ≤ time.day ∧ time.day ≤ daysInMonth time.year time.month) ∧ time.hour < 24 ∧
    time.minute < 60 ∧ time.second < 60 ∧ time.microsecond < 1000000

instance : DecidablePred Valid := fun _ => inferInstanceAs (Decidable (_ ∧ _))

/-- The number of the day of a time. -/
def ordinal (time : DateTime) : Nat :=
  daysBeforeYear time.year + daysBeforeMonth time.year time.month + time.day

/-- Microseconds from the beginning of the calendar. -/
def instant (time : DateTime) : Int :=
  (((time.ordinal * 24 + time.hour) * 60 + time.minute) * 60 + time.second) * 1000000 +
    time.microsecond

end DateTime

/-! ## Digits -/

/-- The last decimal digits of a number, with zeros in front. -/
def digits : Nat → Nat → Text
  | 0, _ => []
  | width + 1, n => Nat.digitChar (n / 10 ^ width % 10) :: digits width n

/-- Read some digits behind a number. -/
def readDigits : Nat → Nat → Text → Option (Nat × Text)
  | 0, value, text => some (value, text)
  | width + 1, value, c :: text =>
    if c.isDigit then readDigits width (value * 10 + (c.toNat - '0'.toNat)) text else none
  | _ + 1, _, [] => none

/-- A digit below ten and its character. -/
theorem digitChar_digit {n : Nat} (small : n < 10) :
    (Nat.digitChar n).isDigit = true ∧ (Nat.digitChar n).toNat - '0'.toNat = n := by
  revert n
  decide

/-- Digits are read as they were written. -/
theorem readDigits_digits (width value n : Nat) (rest : Text) :
    readDigits width value (digits width n ++ rest) =
      some (value * 10 ^ width + n % 10 ^ width, rest) := by
  induction width generalizing value with
  | zero => simp [digits, readDigits, Nat.mod_one]
  | succ width ih =>
    have small : n / 10 ^ width % 10 < 10 := Nat.mod_lt _ (by decide)
    obtain ⟨isDigit, same⟩ := digitChar_digit small
    rw [digits, List.cons_append, readDigits, if_pos isDigit, same, ih, Nat.pow_succ,
      Nat.mod_mul]
    congr 2
    ring

/-- Digits of a number that fits are read as the number. -/
theorem readDigits_small {width n : Nat} (small : n < 10 ^ width) (rest : Text) :
    readDigits width 0 (digits width n ++ rest) = some (n, rest) := by
  rw [readDigits_digits, Nat.zero_mul, Nat.zero_add, Nat.mod_eq_of_lt small]

@[simp] theorem length_digits (width n : Nat) : (digits width n).length = width := by
  induction width with
  | zero => rfl
  | succ width ih => rw [digits, List.length_cons, ih]

/-! ## The ISO text of a time -/

/-- The date and the time with its microseconds, and no zone. -/
def DateTime.isoText (time : DateTime) : Text :=
  digits 4 time.year ++ '-' :: (digits 2 time.month ++ '-' :: (digits 2 time.day ++
    'T' :: (digits 2 time.hour ++ ':' :: (digits 2 time.minute ++
      ':' :: (digits 2 time.second ++ '.' :: digits 6 time.microsecond)))))

/-- Read one character. -/
def readMark (mark : Char) : Text → Option Text
  | c :: text => if c = mark then some text else none
  | [] => none

/-- Read the text of a time, and what follows it. -/
def readIsoText (text : Text) : Option (DateTime × Text) := do
  let (year, text) ← readDigits 4 0 text
  let (month, text) ← readDigits 2 0 (← readMark '-' text)
  let (day, text) ← readDigits 2 0 (← readMark '-' text)
  let (hour, text) ← readDigits 2 0 (← readMark 'T' text)
  let (minute, text) ← readDigits 2 0 (← readMark ':' text)
  let (second, text) ← readDigits 2 0 (← readMark ':' text)
  let (microsecond, text) ← readDigits 6 0 (← readMark '.' text)
  some (⟨year, month, day, hour, minute, second, microsecond⟩, text)

/-- No month has more than 31 days. -/
theorem daysInMonth_le (year month : Nat) : daysInMonth year month ≤ 31 := by
  unfold daysInMonth
  split_ifs <;> decide

/-- The text of a time that exists is read as the time. -/
theorem readIsoText_isoText {time : DateTime} (valid : time.Valid) (rest : Text) :
    readIsoText (time.isoText ++ rest) = some (time, rest) := by
  obtain ⟨year, month, day, hour, minute, second, microsecond⟩ := valid
  have mark (c : Char) (text : Text) : readMark c (c :: text) = some text := if_pos rfl
  have days := daysInMonth_le time.year time.month
  have fours : time.year < 10 ^ 4 := by omega
  have months : time.month < 10 ^ 2 := by omega
  have monthDays : time.day < 10 ^ 2 := by omega
  have hours : time.hour < 10 ^ 2 := by omega
  have minutes : time.minute < 10 ^ 2 := by omega
  have seconds : time.second < 10 ^ 2 := by omega
  have sixes : time.microsecond < 10 ^ 6 := by omega
  simp only [DateTime.isoText, List.append_assoc, List.cons_append, readIsoText,
    readDigits_small fours, readDigits_small months, readDigits_small monthDays,
    readDigits_small hours, readDigits_small minutes, readDigits_small seconds,
    readDigits_small sixes, mark, Option.bind_eq_bind, Option.bind_some]

/-- Decimal digits are digits. -/
theorem digits_isDigit (width n : Nat) : ∀ c ∈ digits width n, c.isDigit = true := by
  induction width with
  | zero => simp [digits]
  | succ width ih =>
    intro c member
    rcases List.mem_cons.mp member with rfl | later
    · exact (digitChar_digit (Nat.mod_lt _ (by decide))).1
    · exact ih c later

/-- The characters of the text of a time. -/
theorem isoText_chars (time : DateTime) :
    ∀ c ∈ time.isoText, c.isDigit = true ∨ c ∈ ['-', 'T', ':', '.'] := by
  intro c member
  simp only [DateTime.isoText, List.mem_append, List.mem_cons] at member
  rcases member with year | rfl | month | rfl | day | rfl | hour | rfl | minute | rfl | second |
    rfl | microsecond
  · exact Or.inl (digits_isDigit _ _ c year)
  · exact Or.inr (by decide)
  · exact Or.inl (digits_isDigit _ _ c month)
  · exact Or.inr (by decide)
  · exact Or.inl (digits_isDigit _ _ c day)
  · exact Or.inr (by decide)
  · exact Or.inl (digits_isDigit _ _ c hour)
  · exact Or.inr (by decide)
  · exact Or.inl (digits_isDigit _ _ c minute)
  · exact Or.inr (by decide)
  · exact Or.inl (digits_isDigit _ _ c second)
  · exact Or.inr (by decide)
  · exact Or.inl (digits_isDigit _ _ c microsecond)

@[simp] theorem length_isoText (time : DateTime) : time.isoText.length = 26 := by
  simp [DateTime.isoText]

end DTLab.Library
