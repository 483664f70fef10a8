import DTLab.Library.Calendar
import Mathlib.Tactic.Linarith

/-!
# Timestamps

The order of ISO texts and the instants that they denote. The texts of times that exist are
ordered as the times as long as their seconds differ. A timestamp with a zone is read as an
instant in microseconds.
-/

namespace DTLab.Library

/-! ## The order of digits -/

/-- Digits below ten are ordered as their characters. -/
theorem digitChar_lt : ∀ m < 10, ∀ n < 10, (Nat.digitChar m < Nat.digitChar n ↔ m < n) ∧
    (Nat.digitChar m = Nat.digitChar n ↔ m = n) := by
  decide

/-- A quotient and a remainder are ordered as the number. -/
theorem quotient_lt {unit left right leftRest rightRest : Nat} (leftSmall : leftRest < unit)
    (rightSmall : rightRest < unit) :
    (leftRest + unit * left < rightRest + unit * right ↔
      left < right ∨ left = right ∧ leftRest < rightRest) ∧
    (leftRest + unit * left = rightRest + unit * right ↔
      left = right ∧ leftRest = rightRest) := by
  rcases lt_trichotomy left right with less | rfl | more
  · have gap : unit * (left + 1) ≤ unit * right := Nat.mul_le_mul_left unit less
    rw [Nat.mul_succ] at gap
    omega
  · omega
  · have gap : unit * (right + 1) ≤ unit * left := Nat.mul_le_mul_left unit more
    rw [Nat.mul_succ] at gap
    omega

/-- The digits of two numbers with texts behind them are ordered as what the digits show and then
as the texts. -/
theorem digits_append_lt_mod (width m n : Nat) (left right : Text) :
    digits width m ++ left < digits width n ++ right ↔
      m % 10 ^ width < n % 10 ^ width ∨ m % 10 ^ width = n % 10 ^ width ∧ left < right := by
  induction width with
  | zero => simp [digits, Nat.mod_one]
  | succ width ih =>
    have digit := digitChar_lt (m / 10 ^ width % 10) (Nat.mod_lt _ (by decide))
      (n / 10 ^ width % 10) (Nat.mod_lt _ (by decide))
    have positive : 0 < 10 ^ width := Nat.pow_pos (by decide)
    have number : (_ + 10 ^ width * (m / 10 ^ width % 10) < _ + 10 ^ width * (n / 10 ^ width % 10) ↔
        _) ∧ _ := quotient_lt (Nat.mod_lt m positive) (Nat.mod_lt n positive)
    rw [digits, digits, List.cons_append, List.cons_append, List.cons_lt_cons_iff, ih, digit.1,
      digit.2, Nat.mod_pow_succ, Nat.mod_pow_succ, number.1, number.2, and_or_left, or_assoc,
      and_assoc]

/-- The digits of two numbers that fit. -/
theorem digits_append_lt {width m n : Nat} (leftFits : m < 10 ^ width) (rightFits : n < 10 ^ width)
    (left right : Text) :
    digits width m ++ left < digits width n ++ right ↔ m < n ∨ m = n ∧ left < right := by
  rw [digits_append_lt_mod, Nat.mod_eq_of_lt leftFits, Nat.mod_eq_of_lt rightFits]

/-! ## The order of dates -/

/-- The days before a month are those before the last one and its own. -/
theorem daysBeforeMonth_succ (year : Nat) {month : Nat} (real : 1 ≤ month) :
    daysBeforeMonth year (month + 1) = daysBeforeMonth year month + daysInMonth year month := by
  obtain ⟨earlier, rfl⟩ := Nat.exists_eq_add_of_le' real
  rw [daysBeforeMonth, daysBeforeMonth, Nat.add_sub_cancel, Nat.add_sub_cancel, List.range_succ,
    List.map_append, List.sum_append, List.map_singleton, List.sum_singleton]

/-- A later month has more days before it than all of an earlier one. -/
theorem daysBeforeMonth_mono (year : Nat) {early late : Nat} (real : 1 ≤ early)
    (ordered : early < late) :
    daysBeforeMonth year early + daysInMonth year early ≤ daysBeforeMonth year late := by
  induction late, ordered using Nat.le_induction with
  | base => exact (daysBeforeMonth_succ year real).ge
  | succ month later ih =>
    rw [daysBeforeMonth_succ year (by omega)]
    omega

/-- The days before a year are those before the last one and its own. -/
theorem daysBeforeYear_succ {year : Nat} (real : 1 ≤ year) :
    daysBeforeYear (year + 1) = daysBeforeYear year + daysBeforeMonth year 13 := by
  obtain ⟨earlier, rfl⟩ := Nat.exists_eq_add_of_le' real
  have length : daysBeforeMonth (earlier + 1) 13 =
      if isLeap (earlier + 1) then 366 else 365 := by
    cases leap : isLeap (earlier + 1) <;>
      simp [daysBeforeMonth, daysInMonth, leap, List.range_succ]
  have fours : (earlier + 1) / 4 = earlier / 4 + if (earlier + 1) % 4 = 0 then 1 else 0 := by
    split_ifs <;> omega
  have hundreds : (earlier + 1) / 100 =
      earlier / 100 + if (earlier + 1) % 100 = 0 then 1 else 0 := by
    split_ifs <;> omega
  have cycles : (earlier + 1) / 400 =
      earlier / 400 + if (earlier + 1) % 400 = 0 then 1 else 0 := by
    split_ifs <;> omega
  have fewer : earlier / 100 ≤ earlier := Nat.div_le_self _ _
  have inside : (earlier + 1) % 100 = 0 → (earlier + 1) % 4 = 0 := by omega
  have whole : (earlier + 1) % 400 = 0 → (earlier + 1) % 100 = 0 := by omega
  rw [length, daysBeforeYear, daysBeforeYear, Nat.add_sub_cancel, Nat.add_sub_cancel, fours,
    hundreds, cycles]
  generalize earlier / 4 = four, earlier / 100 = hundred, earlier / 400 = cycle at *
  by_cases byFour : (earlier + 1) % 4 = 0
  · by_cases byHundred : (earlier + 1) % 100 = 0
    · by_cases byCycle : (earlier + 1) % 400 = 0
      · simp [isLeap, byFour, byHundred, byCycle]
        omega
      · simp [isLeap, byFour, byHundred, byCycle]
        omega
    · simp [isLeap, byFour, byHundred, mt whole byHundred]
      omega
  · simp [isLeap, byFour, mt inside byFour, mt whole (mt inside byFour)]
    omega

/-- A later year has more days before it than all of an earlier one. -/
theorem daysBeforeYear_mono {early late : Nat} (real : 1 ≤ early) (ordered : early < late) :
    daysBeforeYear early + daysBeforeMonth early 13 ≤ daysBeforeYear late := by
  induction late, ordered using Nat.le_induction with
  | base => exact (daysBeforeYear_succ real).ge
  | succ year later ih =>
    rw [daysBeforeYear_succ (by omega)]
    omega

namespace DateTime

variable {left right : DateTime}

/-- A date is before another one. -/
def DateBefore (left right : DateTime) : Prop :=
  left.year < right.year ∨ left.year = right.year ∧
    (left.month < right.month ∨ left.month = right.month ∧ left.day < right.day)

/-- The number of the day grows with the date. -/
theorem ordinal_lt (leftValid : left.Valid) (rightValid : right.Valid)
    (before : left.DateBefore right) : left.ordinal < right.ordinal := by
  obtain ⟨⟨leftYear, _⟩, ⟨leftMonth, leftMonths⟩, ⟨leftDay, leftDays⟩, _⟩ := leftValid
  obtain ⟨⟨rightYear, _⟩, ⟨rightMonth, rightMonths⟩, ⟨rightDay, rightDays⟩, _⟩ := rightValid
  rw [ordinal, ordinal]
  rcases before with year | ⟨year, month | ⟨month, day⟩⟩
  · have years := daysBeforeYear_mono leftYear year
    have months : daysBeforeMonth left.year left.month + _ ≤ daysBeforeMonth left.year 13 :=
      daysBeforeMonth_mono left.year leftMonth (by omega)
    omega
  · have months := daysBeforeMonth_mono left.year leftMonth month
    rw [year] at months leftDays ⊢
    omega
  · rw [year, month]
    omega

/-- Microseconds apart, the time in seconds. -/
def seconds (time : DateTime) : Nat :=
  ((time.ordinal * 24 + time.hour) * 60 + time.minute) * 60 + time.second

/-- An instant in seconds and microseconds. -/
theorem instant_eq (time : DateTime) :
    time.instant = (time.seconds : Int) * 1000000 + time.microsecond := by
  rw [instant, seconds]
  push_cast
  rfl

/-- Two readings of the clock, to the second. -/
def SecondBefore (left right : DateTime) : Prop :=
  left.DateBefore right ∨ (left.year = right.year ∧ left.month = right.month ∧
    left.day = right.day) ∧ (left.hour < right.hour ∨ left.hour = right.hour ∧
      (left.minute < right.minute ∨ left.minute = right.minute ∧ left.second < right.second))

/-- Two readings of the clock agree to the second. -/
def SameSecond (left right : DateTime) : Prop :=
  left.year = right.year ∧ left.month = right.month ∧ left.day = right.day ∧
    left.hour = right.hour ∧ left.minute = right.minute ∧ left.second = right.second

/-- An earlier second counts less. -/
theorem seconds_lt (leftValid : left.Valid) (rightValid : right.Valid)
    (before : left.SecondBefore right) : left.seconds < right.seconds := by
  have days := ordinal_lt leftValid rightValid
  obtain ⟨_, _, _, leftHour, leftMinute, leftSecond, _⟩ := leftValid
  obtain ⟨_, _, _, rightHour, rightMinute, rightSecond, _⟩ := rightValid
  rw [seconds, seconds]
  rcases before with date | ⟨⟨year, month, day⟩, clock⟩
  · have later := days date
    omega
  · have days : left.ordinal = right.ordinal := by
      rw [ordinal, ordinal, year, month, day]
    omega

/-- One second counts the same. -/
theorem seconds_of_same (same : left.SameSecond right) : left.seconds = right.seconds := by
  obtain ⟨year, month, day, hour, minute, second⟩ := same
  rw [seconds, seconds, ordinal, ordinal, year, month, day, hour, minute, second]

/-- Of two times one is before the other one, or they agree to the second. -/
theorem second_cases (left right : DateTime) :
    left.SecondBefore right ∨ left.SameSecond right ∨ right.SecondBefore left := by
  unfold SecondBefore SameSecond DateBefore
  omega

/-- The seconds are ordered as the fields. -/
theorem seconds_lt_iff (leftValid : left.Valid) (rightValid : right.Valid) :
    (left.seconds < right.seconds ↔ left.SecondBefore right) ∧
      (left.seconds = right.seconds ↔ left.SameSecond right) := by
  have forward := seconds_lt leftValid rightValid
  have backward := seconds_lt rightValid leftValid
  rcases second_cases left right with before | same | behind
  · have less := forward before
    refine ⟨iff_of_true less before, iff_of_false less.ne fun same => less.ne ?_⟩
    exact seconds_of_same same
  · have equal := seconds_of_same same
    exact ⟨iff_of_false equal.not_lt fun before => equal.not_lt (forward before),
      iff_of_true equal same⟩
  · have more := backward behind
    refine ⟨iff_of_false more.not_gt fun before => more.not_gt (forward before),
      iff_of_false more.ne' fun same => more.ne' ?_⟩
    exact seconds_of_same same

/-- The date and the time to the second. -/
def secondText (time : DateTime) : Text :=
  digits 4 time.year ++ '-' :: (digits 2 time.month ++ '-' :: (digits 2 time.day ++
    'T' :: (digits 2 time.hour ++ ':' :: (digits 2 time.minute ++
      ':' :: digits 2 time.second))))

/-- One character in front of two texts does not order them. -/
theorem cons_lt_cons_same (c : Char) (left right : Text) :
    c :: left < c :: right ↔ left < right := by
  simp

/-- Texts of times with texts behind them are ordered as the seconds and then as the texts. -/
theorem secondText_append_lt (leftValid : left.Valid) (rightValid : right.Valid)
    (leftRest rightRest : Text) :
    left.secondText ++ leftRest < right.secondText ++ rightRest ↔
      left.seconds < right.seconds ∨ left.seconds = right.seconds ∧ leftRest < rightRest := by
  have seconds := seconds_lt_iff leftValid rightValid
  rw [seconds.1, seconds.2]
  obtain ⟨_, _, _, leftHour, leftMinute, leftSecond, _⟩ := leftValid
  obtain ⟨_, _, _, rightHour, rightMinute, rightSecond, _⟩ := rightValid
  have leftDays := daysInMonth_le left.year left.month
  have rightDays := daysInMonth_le right.year right.month
  simp only [secondText, List.append_assoc, List.cons_append]
  rw [digits_append_lt (by omega) (by omega), cons_lt_cons_same,
    digits_append_lt (by omega) (by omega), cons_lt_cons_same,
    digits_append_lt (by omega) (by omega), cons_lt_cons_same,
    digits_append_lt (by omega) (by omega), cons_lt_cons_same,
    digits_append_lt (by omega) (by omega), cons_lt_cons_same,
    digits_append_lt (by omega) (by omega)]
  unfold SecondBefore SameSecond DateBefore
  by_cases rest : leftRest < rightRest
  · simp only [rest, and_true]
    omega
  · simp only [rest, and_false, or_false]
    omega

/-- What `isoformat` of a time in UTC writes behind the seconds, with `Z` for the zone. -/
def fractionText (time : DateTime) : Text :=
  if time.microsecond = 0 then ['Z'] else '.' :: (digits 6 time.microsecond ++ ['Z'])

/-- `isoformat` of a time in UTC, with `Z` for the zone. -/
def utcText (time : DateTime) : Text := time.secondText ++ time.fractionText

/-- Fractions are ordered as they show, but no fraction at all is the greatest one. -/
theorem fractionText_lt (leftValid : left.Valid) (rightValid : right.Valid) :
    left.fractionText < right.fractionText ↔
      left.microsecond ≠ 0 ∧
        (right.microsecond = 0 ∨ left.microsecond < right.microsecond) := by
  obtain ⟨_, _, _, _, _, _, leftMicrosecond⟩ := leftValid
  obtain ⟨_, _, _, _, _, _, rightMicrosecond⟩ := rightValid
  rw [fractionText, fractionText]
  by_cases leftZero : left.microsecond = 0
  · by_cases rightZero : right.microsecond = 0
    · simp [leftZero, rightZero]
    · rw [if_pos leftZero, if_neg rightZero]
      simp [leftZero, List.cons_lt_cons_iff]
  · by_cases rightZero : right.microsecond = 0
    · rw [if_neg leftZero, if_pos rightZero]
      simp [leftZero, rightZero, List.cons_lt_cons_iff]
    · rw [if_neg leftZero, if_neg rightZero, cons_lt_cons_same,
        digits_append_lt (by omega) (by omega)]
      simp [leftZero, rightZero]

/-- The texts of two times are ordered as the times, save that in one second a time without
microseconds comes behind all others. -/
theorem utcText_lt (leftValid : left.Valid) (rightValid : right.Valid) :
    left.utcText < right.utcText ↔
      left.seconds < right.seconds ∨ left.seconds = right.seconds ∧ left.microsecond ≠ 0 ∧
        (right.microsecond = 0 ∨ left.microsecond < right.microsecond) := by
  rw [utcText, utcText, secondText_append_lt leftValid rightValid,
    fractionText_lt leftValid rightValid]

/-- Instants are ordered as the seconds and then as the microseconds. -/
theorem instant_lt (leftValid : left.Valid) (rightValid : right.Valid) :
    left.instant < right.instant ↔
      left.seconds < right.seconds ∨ left.seconds = right.seconds ∧
        left.microsecond < right.microsecond := by
  obtain ⟨_, _, _, _, _, _, leftMicrosecond⟩ := leftValid
  obtain ⟨_, _, _, _, _, _, rightMicrosecond⟩ := rightValid
  rw [instant_eq, instant_eq]
  omega

/-- Two times in one second of which exactly one has no microseconds. -/
def Misordered (left right : DateTime) : Prop :=
  left.seconds = right.seconds ∧ (left.microsecond = 0 ↔ right.microsecond ≠ 0)

/-- Whether two times are misordered can be decided. -/
instance (left right : DateTime) : Decidable (Misordered left right) :=
  inferInstanceAs (Decidable (_ ∧ _))

/-- The texts of two times are ordered as the instants exactly when they are not in one second
with exactly one of them without microseconds. -/
theorem utcText_lt_iff_instant (leftValid : left.Valid) (rightValid : right.Valid) :
    (left.utcText < right.utcText ↔ left.instant < right.instant) ↔ ¬ Misordered left right := by
  rw [utcText_lt leftValid rightValid, instant_lt leftValid rightValid, Misordered]
  omega

end DateTime

/-! ## Reading timestamps -/

/-- The offset of a zone in minutes: `Z`, or hours and minutes behind a sign. -/
def readZone : Text → Option Int
  | ['Z'] => some 0
  | '+' :: text => readOffset text
  | '-' :: text => (readOffset text).map fun minutes => -minutes
  | _ => none
where
  /-- Hours and minutes. -/
  readOffset (text : Text) : Option Int := do
    let (hours, text) ← readDigits 2 0 text
    let (minutes, text) ← readDigits 2 0 (← readMark ':' text)
    if text = [] ∧ hours < 24 ∧ minutes < 60 then some ((hours : Int) * 60 + minutes) else none

/-- The digits in front of a text, and what follows them. -/
def spanDigits (text : Text) : Text × Text :=
  (text.takeWhile Char.isDigit, text.dropWhile Char.isDigit)

/-- The microseconds of a fraction of any length, of which digits behind the sixth are dropped. -/
def readFraction : Text → Option (Nat × Text)
  | '.' :: text =>
    match spanDigits text with
    | ([], _) => none
    | (fraction, rest) =>
      (readDigits 6 0 ((fraction ++ List.replicate 6 '0').take 6)).map fun (value, _) =>
        (value, rest)
  | text => some (0, text)

/-- `datetime.fromisoformat` of a timestamp with a zone, as microseconds in UTC. -/
def readTimestamp (text : Text) : Option Int := do
  let (year, text) ← readDigits 4 0 text
  let (month, text) ← readDigits 2 0 (← readMark '-' text)
  let (day, text) ← readDigits 2 0 (← readMark '-' text)
  let (hour, text) ← readDigits 2 0 (← readMark 'T' text)
  let (minute, text) ← readDigits 2 0 (← readMark ':' text)
  let (second, text) ← readDigits 2 0 (← readMark ':' text)
  let (microsecond, text) ← readFraction text
  let offset ← readZone text
  let time : DateTime := ⟨year, month, day, hour, minute, second, microsecond⟩
  if time.Valid then some (time.instant - offset * 60000000) else none

/-- The fraction that was written is read. -/
theorem readFraction_fractionText {time : DateTime} (valid : time.Valid) :
    readFraction time.fractionText = some (time.microsecond, ['Z']) := by
  obtain ⟨_, _, _, _, _, _, small⟩ := valid
  rw [DateTime.fractionText]
  by_cases zero : time.microsecond = 0
  · rw [if_pos zero, zero]
    rfl
  · have fits : time.microsecond < 10 ^ 6 := by omega
    have whole : spanDigits (digits 6 time.microsecond ++ ['Z']) =
        (digits 6 time.microsecond, ['Z']) := by
      rw [spanDigits, List.takeWhile_append_of_pos (digits_isDigit 6 time.microsecond),
        List.dropWhile_append_of_pos (digits_isDigit 6 time.microsecond)]
      exact congrArg₂ Prod.mk (List.append_nil _) rfl
    have front : (digits 6 time.microsecond ++ List.replicate 6 '0').take 6 =
        digits 6 time.microsecond ++ [] := by
      rw [List.take_left' (length_digits 6 time.microsecond), List.append_nil]
    have some : digits 6 time.microsecond ≠ [] := by
      intro none
      have length := length_digits 6 time.microsecond
      rw [none] at length
      cases length
    rw [if_neg zero, readFraction, whole]
    split
    · rename_i none
      exact absurd (congrArg Prod.fst none) some
    · rename_i fraction rest _ same
      obtain ⟨rfl, rfl⟩ := Prod.mk.inj same
      rw [front, readDigits_small fits]
      rfl

/-- The text of a time in UTC is read as its instant. -/
theorem readTimestamp_utcText {time : DateTime} (valid : time.Valid) :
    readTimestamp time.utcText = some time.instant := by
  have fraction := readFraction_fractionText valid
  have real := valid
  obtain ⟨year, month, day, hour, minute, second, _⟩ := valid
  have mark (c : Char) (text : Text) : readMark c (c :: text) = some text := if_pos rfl
  have zone : readZone ['Z'] = some 0 := rfl
  have days := daysInMonth_le time.year time.month
  have fours : time.year < 10 ^ 4 := by omega
  have months : time.month < 10 ^ 2 := by omega
  have monthDays : time.day < 10 ^ 2 := by omega
  have hours : time.hour < 10 ^ 2 := by omega
  have minutes : time.minute < 10 ^ 2 := by omega
  have seconds : time.second < 10 ^ 2 := by omega
  simp only [DateTime.utcText, DateTime.secondText, List.append_assoc, List.cons_append,
    readTimestamp, readDigits_small fours, readDigits_small months, readDigits_small monthDays,
    readDigits_small hours, readDigits_small minutes, readDigits_small seconds, mark, fraction,
    zone, Option.bind_eq_bind, Option.bind_some]
  rw [if_pos real, Int.zero_mul, Int.sub_zero]

example : readTimestamp "2026-01-01T12:00:00+02:00".toList =
    readTimestamp "2026-01-01T10:00:00.000Z".toList := by decide

end DTLab.Library
