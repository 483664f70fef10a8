import DTLab.Tickets.Rows
import Mathlib.Tactic.Common
import Mathlib.Data.Nat.Find
import Mathlib.Order.Basic
import Mathlib.Algebra.Order.Group.Int
import Mathlib.Algebra.Order.Ring.Int

/-!
# Deadlines in business hours

`add_business_hours` and `_sla_due_at`. An instant is a number of microseconds from the beginning
of the calendar in UTC; a local time is what a clock on the wall of a zone shows, with the fold
that tells two equal readings apart. Arithmetic and comparison within one zone are those of the
wall clock. The database of zones is a parameter.
-/

namespace DTLab

/-- The microseconds of an hour. -/
def hourMicroseconds : Int := 3600000000

/-- The microseconds of a day. -/
def dayMicroseconds : Int := 86400000000

/-- What a clock on the wall shows. -/
structure LocalTime where
  wall : Int
  fold : Bool
  deriving DecidableEq

/-- A zone: `astimezone` into it, and out of it. -/
structure Zone where
  localTime : Int → LocalTime
  instant : LocalTime → Int

/-- The policy of business hours, as `validate` accepts it; times of the day in microseconds. -/
structure BusinessHoursPolicy where
  enabled : Bool
  timezone : String
  start : Int
  finish : Int
  weekdays : List Nat
  start_nonneg : 0 ≤ start
  start_lt : start < finish
  finish_lt : finish < dayMicroseconds
  weekdays_nonempty : weekdays ≠ []
  weekdays_lt : ∀ day ∈ weekdays, day < 7

/-- `date`, as the number of the day. -/
def LocalTime.day (time : LocalTime) : Int := time.wall / dayMicroseconds

/-- `weekday` of a day; the first day of the calendar is a Monday. -/
def weekdayOf (day : Int) : Nat := ((day + 6) % 7).toNat

/-- `datetime.combine`. -/
def combine (day time : Int) : LocalTime := ⟨day * dayMicroseconds + time, false⟩

namespace BusinessHoursPolicy

variable (policy : BusinessHoursPolicy)

/-- A day on which work is done. -/
def works (day : Int) : Bool := decide (weekdayOf day ∈ policy.weekdays)

/-- Work is done on some day behind any other one. -/
theorem exists_works (day : Int) : ∃ later : Nat, policy.works (day + later) = true := by
  obtain ⟨weekday, listed⟩ := List.exists_mem_of_ne_nil _ policy.weekdays_nonempty
  have small := policy.weekdays_lt weekday listed
  refine ⟨((weekday - (day + 6)) % 7).toNat, decide_eq_true ?_⟩
  have same : weekdayOf (day + ((weekday - (day + 6)) % 7).toNat) = weekday := by
    rw [weekdayOf]
    omega
  rw [same]
  exact listed

/-- How many days pass before work is done. -/
def wait (day : Int) : Nat := Nat.find (policy.exists_works day)

/-- One day less remains to be waited for behind a day without work. -/
theorem wait_succ {day : Int} (idle : policy.works day = false) :
    policy.wait day = policy.wait (day + 1) + 1 := by
  have found := Nat.find_spec (policy.exists_works (day + 1))
  apply le_antisymm
  · apply Nat.find_min'
    rw [show day + ((policy.wait (day + 1) + 1 : Nat) : Int) =
      day + 1 + (policy.wait (day + 1) : Int) by push_cast; omega]
    exact found
  · have later := Nat.find_spec (policy.exists_works day)
    change policy.works (day + (policy.wait day : Int)) = true at later
    cases waited : policy.wait day with
    | zero =>
      rw [waited, Nat.cast_zero, add_zero, idle] at later
      cases later
    | succ before =>
      apply Nat.succ_le_succ
      apply Nat.find_min'
      rw [waited] at later
      rw [show day + 1 + (before : Int) = day + ((before + 1 : Nat) : Int) by push_cast; omega]
      exact later

/-- How many rounds the loop turns before it consumes working time. -/
def idle (current : LocalTime) : Nat :=
  if policy.works current.day ∧ current.wall < current.day * dayMicroseconds + policy.finish then 0
  else policy.wait (current.day + 1) + 1

theorem day_combine_start (day : Int) : (combine day policy.start).day = day := by
  have nonneg := policy.start_nonneg
  have ordered := policy.start_lt
  have bounded := policy.finish_lt
  simp only [LocalTime.day, combine, dayMicroseconds] at *
  omega

/-- The next day is nearer to work than one on which no work is left. -/
theorem idle_next {current : LocalTime}
    (finished : ¬ (policy.works current.day ∧
      current.wall < current.day * dayMicroseconds + policy.finish)) :
    policy.idle (combine (current.day + 1) policy.start) < policy.idle current := by
  have ordered := policy.start_lt
  have opening : (combine (current.day + 1) policy.start).wall <
      (current.day + 1) * dayMicroseconds + policy.finish := by
    simp only [combine]
    omega
  rw [idle, idle, if_neg finished, day_combine_start]
  by_cases works : policy.works (current.day + 1) = true
  · rw [if_pos ⟨works, opening⟩]
    omega
  · rw [if_neg fun both => works both.1]
    have closer := policy.wait_succ (Bool.eq_false_iff.mpr works)
    omega

/-- Less remains behind working time. -/
theorem toNat_sub_lt {remaining consumed : Int} (positive : 0 < remaining)
    (some : 0 < consumed) : (remaining - consumed).toNat < remaining.toNat := by
  omega

/-- The loop of `add_business_hours`. -/
def consume (current : LocalTime) (remaining : Int) : LocalTime :=
  if 0 < remaining then
    if _working : policy.works current.day = true then
      let opening := combine current.day policy.start
      let opened := if current.wall < opening.wall then opening else current
      let closing := current.day * dayMicroseconds + policy.finish
      if _closed : closing ≤ opened.wall then
        consume (combine (current.day + 1) policy.start) remaining
      else
        let consumed := min (closing - opened.wall) remaining
        consume ⟨opened.wall + consumed, false⟩ (remaining - consumed)
    else consume (combine (current.day + 1) policy.start) remaining
  else current
termination_by (remaining.toNat, policy.idle current)
decreasing_by
  · apply Prod.Lex.right
    apply policy.idle_next
    rintro ⟨_, early⟩
    have ordered := policy.start_lt
    simp only [opened, opening, closing, combine] at _closed
    split_ifs at _closed
    · change current.day * dayMicroseconds + policy.finish ≤
        current.day * dayMicroseconds + policy.start at _closed
      omega
    · omega
  · apply Prod.Lex.left
    have available : 0 < closing - opened.wall := by omega
    have some : 0 < consumed := lt_min available (by assumption)
    exact toNat_sub_lt (by assumption) some
  · apply Prod.Lex.right
    exact policy.idle_next fun both => _working both.1

variable {policy} {current : LocalTime} {remaining : Int}

/-- The loop ends when no working time remains. -/
theorem consume_done (done : remaining ≤ 0) : policy.consume current remaining = current := by
  rw [consume, if_neg (not_lt.mpr done)]

/-- Working time that fits into one day is consumed from its opening. -/
theorem consume_opening (works : policy.works current.day = true)
    (early : current.wall < (combine current.day policy.start).wall) (some : 0 < remaining)
    (fits : remaining ≤ policy.finish - policy.start) :
    policy.consume current remaining =
      combine current.day (policy.start + remaining) := by
  have opening : (combine current.day policy.start).wall =
      current.day * dayMicroseconds + policy.start := rfl
  have opens : ¬ current.day * dayMicroseconds + policy.finish ≤
      (combine current.day policy.start).wall := by
    omega
  have shorter : min (current.day * dayMicroseconds + policy.finish -
      (combine current.day policy.start).wall) remaining = remaining := by
    apply min_eq_right
    omega
  rw [consume, if_pos some, dif_pos works]
  simp only [if_pos early, dif_neg opens, shorter]
  rw [sub_self, consume_done le_rfl, opening, add_assoc]
  rfl

end BusinessHoursPolicy

/-- `add_business_hours` with a policy that is valid. -/
def addBusinessHours (zones : String → Zone) (anchor : Int) (hours : Nat)
    (policy : BusinessHoursPolicy) : Int :=
  if policy.enabled then
    let zone := zones policy.timezone
    zone.instant (policy.consume (zone.localTime anchor) (hours * hourMicroseconds))
  else anchor + hours * hourMicroseconds

/-- `time`, of the day. -/
def LocalTime.timeOfDay (time : LocalTime) : Int := time.wall % dayMicroseconds

/-- `is_business_open` with a policy that is valid. -/
def isBusinessOpen (zones : String → Zone) (moment : Int) (policy : BusinessHoursPolicy) : Bool :=
  if policy.enabled then
    let here := (zones policy.timezone).localTime moment
    policy.works here.day && decide (policy.start ≤ here.timeOfDay) &&
      decide (here.timeOfDay < policy.finish)
  else true

/-- `_sla_due_at`. -/
def slaDueAt (zones : String → Zone) (businessHours : Option BusinessHoursPolicy)
    (priority : TicketPriority) (createdAt : Int) : Int :=
  match businessHours with
  | some policy => addBusinessHours zones createdAt priority.slaPolicyHours policy
  | none => createdAt + priority.slaPolicyHours * hourMicroseconds

end DTLab
