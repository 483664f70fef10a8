import DTLab.Library.Elapsed
import DTLab.Library.Timestamp
import DTLab.Tickets.BusinessHours
import Mathlib.Data.Int.LeastGreatest

/-!
# Deadlines consume working time

The loop of `add_business_hours` consumes the working time that the clock of the zone shows. That
is the time that elapses while business is open, as long as the clock skips and repeats no reading
at which it is; a change of the offset in an opening window makes the two differ.
-/

namespace DTLab

open Library.Elapsed (total Undistorted total_add total_congr total_eq_zero total_eq_sub
  total_le_sub
  isLeast_total isLeast_reading)

/-! ## The loop -/

namespace BusinessHoursPolicy

/-- A reading of the clock at which business is open. -/
def Opens (policy : BusinessHoursPolicy) (wall : Int) : Prop :=
  policy.works (wall / dayMicroseconds) = true ∧ policy.start ≤ wall % dayMicroseconds ∧
    wall % dayMicroseconds < policy.finish

/-- Whether the office is open is decidable. -/
instance (policy : BusinessHoursPolicy) : DecidablePred policy.Opens := fun wall => by
  unfold Opens
  infer_instance

variable {policy : BusinessHoursPolicy}

/-- What the loop makes of a reading: working time is consumed, and its last unit is open. -/
structure Consumed (policy : BusinessHoursPolicy) (current : LocalTime) (remaining : Int)
    (done : LocalTime) : Prop where
  ordered : current.wall ≤ done.wall
  elapsed : (total policy.Opens current.wall done.wall : Int) = remaining
  later : 0 < remaining → current.wall < done.wall
  holds : 0 < remaining → policy.Opens (done.wall - 1)
  early : 0 < remaining → done.fold = false

/-- A reading of a day is open when work is done on the day and it is in the window. -/
theorem opens_iff {day wall : Int} (low : day * dayMicroseconds ≤ wall)
    (high : wall < (day + 1) * dayMicroseconds) :
    policy.Opens wall ↔ policy.works day = true ∧ day * dayMicroseconds + policy.start ≤ wall ∧
      wall < day * dayMicroseconds + policy.finish := by
  have here : wall / dayMicroseconds = day := by
    simp only [dayMicroseconds] at *
    omega
  have time : wall % dayMicroseconds = wall - day * dayMicroseconds := by
    simp only [dayMicroseconds] at *
    omega
  rw [Opens, here, time]
  constructor
  · rintro ⟨works, after, before⟩
    exact ⟨works, by omega, by omega⟩
  · rintro ⟨works, after, before⟩
    exact ⟨works, by omega, by omega⟩

/-- The day of a reading. -/
theorem day_bounds (time : LocalTime) : time.day * dayMicroseconds ≤ time.wall ∧
    time.wall < (time.day + 1) * dayMicroseconds := by
  simp only [LocalTime.day, dayMicroseconds]
  omega

/-- No reading is open from one that is not before the closing of its day, or whose day is idle, to
the opening of the next day. -/
theorem not_opens_next {current : LocalTime}
    (finished : policy.works current.day = true →
      current.day * dayMicroseconds + policy.finish ≤ current.wall)
    {wall : Int} (after : current.wall ≤ wall)
    (before : wall < (combine (current.day + 1) policy.start).wall) : ¬ policy.Opens wall := by
  have bounds := day_bounds current
  have ordered := policy.start_lt
  have bounded := policy.finish_lt
  simp only [combine] at before
  by_cases today : wall < (current.day + 1) * dayMicroseconds
  · rw [opens_iff (bounds.1.trans after) today]
    rintro ⟨works, _, early⟩
    have late := finished works
    omega
  · rw [opens_iff (not_lt.mp today) (by simp only [dayMicroseconds] at *; omega)]
    rintro ⟨_, opened, _⟩
    omega

/-- No reading is open before the opening of its day. -/
theorem not_opens_early {current : LocalTime} {wall : Int} (after : current.wall ≤ wall)
    (before : wall < (combine current.day policy.start).wall) : ¬ policy.Opens wall := by
  have bounds := day_bounds current
  have ordered := policy.start_lt
  have bounded := policy.finish_lt
  simp only [combine] at before
  rw [opens_iff (bounds.1.trans after) (by simp only [dayMicroseconds] at *; omega)]
  rintro ⟨_, opened, _⟩
  omega

/-- Time that is not working time is skipped. -/
theorem Consumed.skip {current next done : LocalTime} {remaining : Int}
    (consumed : policy.Consumed next remaining done) (ordered : current.wall ≤ next.wall)
    (closed : ∀ wall, current.wall ≤ wall → wall < next.wall → ¬ policy.Opens wall) :
    policy.Consumed current remaining done := by
  have split : total policy.Opens current.wall next.wall + _ = _ :=
    total_add ordered consumed.ordered
  rw [total_eq_zero closed, zero_add] at split
  refine ⟨ordered.trans consumed.ordered, ?_, ?_, consumed.holds, consumed.early⟩
  · rw [← split]
    exact consumed.elapsed
  · intro positive
    exact lt_of_le_of_lt ordered (consumed.later positive)

/-- Working time is consumed. -/
theorem Consumed.work {current next done : LocalTime} {amount remaining : Int}
    (consumed : policy.Consumed next (remaining - amount) done)
    (worked : next.wall = current.wall + amount) (positive : 0 < amount)
    (opened : ∀ wall, current.wall ≤ wall → wall < next.wall → policy.Opens wall)
    (last : remaining - amount = 0 → done = next) (fold : next.fold = false) :
    policy.Consumed current remaining done := by
  have before : current.wall ≤ next.wall := by omega
  have after := consumed.ordered
  have split : total policy.Opens current.wall next.wall + _ = _ := total_add before after
  have all := total_eq_sub before opened
  have rest := consumed.elapsed
  refine ⟨by omega, by omega, fun _ => by omega, fun _ => ?_, fun _ => ?_⟩
  · by_cases more : 0 < remaining - amount
    · exact consumed.holds more
    · rw [last (by omega)]
      exact opened _ (by omega) (by omega)
  · by_cases more : 0 < remaining - amount
    · exact consumed.early more
    · rw [last (by omega)]
      exact fold

/-- The loop consumes working time of the clock. -/
theorem consumed_consume (current : LocalTime) {remaining : Int} (nonneg : 0 ≤ remaining) :
    policy.Consumed current remaining (policy.consume current remaining) := by
  fun_induction policy.consume current remaining with
  | case1 current remaining positive working opening opened closing closed ih =>
    have window := policy.start_lt
    have bounds := day_bounds current
    have late : closing ≤ current.wall := by
      simp only [opened] at closed
      split_ifs at closed
      · simp only [opening, closing, combine] at closed
        omega
      · exact closed
    apply (ih nonneg).skip
    · simp only [combine]
      have start := policy.start_nonneg
      omega
    · intro wall
      exact not_opens_next fun _ => late
  | case2 current remaining positive working opening opened closing closed consumed ih =>
    have bounds := day_bounds current
    have start := policy.start_nonneg
    have finish := policy.finish_lt
    have some : 0 < consumed := lt_min (by omega) positive
    have within : opened.wall + consumed ≤ closing := by
      have least : consumed ≤ closing - opened.wall := min_le_left _ _
      omega
    have enough : consumed ≤ remaining := min_le_right _ _
    have opens : opening.wall ≤ opened.wall ∧ current.wall ≤ opened.wall := by
      simp only [opened]
      split_ifs <;> omega
    have whole : policy.Consumed opened remaining
        (policy.consume ⟨opened.wall + consumed, false⟩ (remaining - consumed)) := by
      apply (ih (by omega)).work rfl some
      · intro wall after before
        change wall < opened.wall + consumed at before
        have low : current.day * dayMicroseconds + policy.start ≤ opened.wall := opens.1
        have high : wall < current.day * dayMicroseconds + policy.finish := by
          simp only [closing] at within
          omega
        have today : current.day * dayMicroseconds ≤ wall := by omega
        have tonight : wall < (current.day + 1) * dayMicroseconds := by
          rw [add_mul, one_mul]
          omega
        rw [opens_iff today tonight]
        exact ⟨working, by omega, high⟩
      · intro done
        exact consume_done done.le
      · rfl
    apply whole.skip opens.2
    intro wall after before
    apply not_opens_early after
    simp only [opened] at before
    split_ifs at before
    · exact before
    · omega
  | case3 current remaining positive idle ih =>
    have bounds := day_bounds current
    have start := policy.start_nonneg
    apply (ih nonneg).skip
    · simp only [combine]
      omega
    · intro wall
      exact not_opens_next fun works => absurd works idle
  | case4 current remaining done =>
    have none : remaining = 0 := by omega
    refine ⟨le_rfl, ?_, ?_, ?_, ?_⟩
    · rw [none, Library.Elapsed.total_of_le le_rfl]
      rfl
    · intro positive
      omega
    · intro positive
      omega
    · intro positive
      omega

end BusinessHoursPolicy

/-! ## Zones -/

/-- A zone whose clock has some offset at each instant. The instant of an early reading is the first
one at which the clock shows it; a reading that the clock skips is taken with the offset before. -/
structure Zone.Follows (zone : Zone) (offset : Int → Int) : Prop where
  small : ∀ instant, |offset instant| < dayMicroseconds
  wall : ∀ instant, (zone.localTime instant).wall = instant + offset instant
  returns : ∀ instant, zone.instant (zone.localTime instant) = instant
  reaches : ∀ wall instant, (∀ earlier < instant, earlier + offset earlier < wall) →
    wall ≤ instant + offset instant → zone.instant ⟨wall, false⟩ =
      if instant + offset instant = wall then instant else wall - offset (instant - 1)

/-- From an anchor to a deadline the clock of a zone skips and repeats no reading at which business
is open, nor has it shown one before that it shows again from the anchor on. -/
structure BusinessHoursPolicy.Undisturbed (policy : BusinessHoursPolicy) (offset : Int → Int)
    (anchor deadline : Int) : Prop where
  steady : Undistorted policy.Opens (fun instant => instant + offset instant) anchor deadline
  fresh : ∀ earlier < anchor, ∀ wall, anchor + offset anchor ≤ wall →
    wall ≤ earlier + offset earlier → ¬ policy.Opens wall

variable {zones : String → Zone} {policy : BusinessHoursPolicy} {offset : Int → Int}

/-- Business is open when the clock shows an open reading. -/
theorem isBusinessOpen_iff (enabled : policy.enabled = true)
    (follows : (zones policy.timezone).Follows offset) (instant : Int) :
    isBusinessOpen zones instant policy = true ↔ policy.Opens (instant + offset instant) := by
  rw [isBusinessOpen, if_pos enabled, Bool.and_eq_true, Bool.and_eq_true, decide_eq_true_eq,
    decide_eq_true_eq, and_assoc, LocalTime.day, LocalTime.timeOfDay, follows.wall]
  rfl

/-- A clock reaches every reading. -/
theorem Zone.Follows.exists_reaches {zone : Zone} (follows : zone.Follows offset) (wall : Int) :
    ∃ instant, wall ≤ instant + offset instant ∧
      ∀ earlier < instant, earlier + offset earlier < wall := by
  have bounded : ∃ bound : Int, ∀ instant, wall ≤ instant + offset instant → bound ≤ instant := by
    refine ⟨wall - dayMicroseconds, ?_⟩
    intro instant reached
    have small := (abs_lt.mp (follows.small instant)).2
    omega
  have reached : ∃ instant : Int, wall ≤ instant + offset instant := by
    refine ⟨wall + dayMicroseconds, ?_⟩
    have small := (abs_lt.mp (follows.small (wall + dayMicroseconds))).1
    omega
  obtain ⟨least, holds, first⟩ := Int.exists_least_of_bdd bounded reached
  refine ⟨least, holds, ?_⟩
  intro earlier less
  by_contra later
  have bound := first earlier (not_lt.mp later)
  omega

/-- No hours end at once. -/
theorem addBusinessHours_zero (enabled : policy.enabled = true)
    (follows : (zones policy.timezone).Follows offset) (anchor : Int) :
    addBusinessHours zones anchor 0 policy = anchor := by
  have still : policy.consume ((zones policy.timezone).localTime anchor) 0 =
      (zones policy.timezone).localTime anchor := BusinessHoursPolicy.consume_done le_rfl
  rw [addBusinessHours, if_pos enabled, Nat.cast_zero, zero_mul]
  show (zones policy.timezone).instant (policy.consume _ 0) = anchor
  rw [still]
  exact follows.returns anchor

/-- Some hours end at an early reading behind an open one. -/
theorem addBusinessHours_pos (enabled : policy.enabled = true)
    (follows : (zones policy.timezone).Follows offset) (anchor : Int) {hours : Nat}
    (some : 0 < hours) :
    ∃ wall, addBusinessHours zones anchor hours policy =
        (zones policy.timezone).instant ⟨wall, false⟩ ∧
      anchor + offset anchor < wall ∧ policy.Opens (wall - 1) ∧
      (total policy.Opens (anchor + offset anchor) wall : Int) = hours * hourMicroseconds := by
  have positive : 0 < (hours : Int) * hourMicroseconds := by
    simp only [hourMicroseconds]
    omega
  have consumed :=
    policy.consumed_consume ((zones policy.timezone).localTime anchor) positive.le
  have deadline : addBusinessHours zones anchor hours policy = (zones policy.timezone).instant
      (policy.consume ((zones policy.timezone).localTime anchor) (hours * hourMicroseconds)) :=
    if_pos enabled
  generalize policy.consume ((zones policy.timezone).localTime anchor)
    (hours * hourMicroseconds) = done at consumed deadline
  have later := consumed.later positive
  have elapsed := consumed.elapsed
  rw [follows.wall] at later elapsed
  refine ⟨done.wall, ?_, later, consumed.holds positive, elapsed⟩
  rw [deadline, ← consumed.early positive]

/-- The deadline is the reading at which the working time of the clock is consumed. -/
theorem addBusinessHours_wall (enabled : policy.enabled = true)
    (follows : (zones policy.timezone).Follows offset) (anchor : Int) (hours : Nat) :
    ∃ wall fold, addBusinessHours zones anchor hours policy =
        (zones policy.timezone).instant ⟨wall, fold⟩ ∧
      IsLeast {other | anchor + offset anchor ≤ other ∧
        (total policy.Opens (anchor + offset anchor) other : Int) =
          hours * hourMicroseconds} wall := by
  rcases Nat.eq_zero_or_pos hours with rfl | some
  · refine ⟨anchor + offset anchor, ((zones policy.timezone).localTime anchor).fold, ?_, ?_⟩
    · rw [addBusinessHours_zero enabled follows, ← follows.wall]
      exact (follows.returns anchor).symm
    · refine ⟨⟨le_rfl, ?_⟩, fun other both => both.1⟩
      rw [Library.Elapsed.total_of_le le_rfl, Nat.cast_zero, zero_mul]
  · obtain ⟨wall, deadline, later, holds, elapsed⟩ :=
      addBusinessHours_pos enabled follows anchor some
    refine ⟨wall, false, deadline, ⟨later.le, elapsed⟩, ?_⟩
    rintro other ⟨after, same⟩
    have least := isLeast_total (total policy.Opens (anchor + offset anchor) wall) later rfl holds
    exact least.2 ⟨after, by omega⟩

/-- Undisturbed, the deadline is the instant at which working time has elapsed. -/
theorem addBusinessHours_instant (enabled : policy.enabled = true)
    (follows : (zones policy.timezone).Follows offset) (anchor : Int) (hours : Nat)
    (undisturbed : policy.Undisturbed offset anchor (addBusinessHours zones anchor hours policy)) :
    IsLeast {instant | anchor ≤ instant ∧
      (total (fun moment => isBusinessOpen zones moment policy = true) anchor instant : Int) =
        hours * hourMicroseconds} (addBusinessHours zones anchor hours policy) := by
  rcases Nat.eq_zero_or_pos hours with rfl | some
  · rw [addBusinessHours_zero enabled follows]
    refine ⟨⟨le_rfl, ?_⟩, fun other both => both.1⟩
    rw [Library.Elapsed.total_of_le le_rfl, Nat.cast_zero, zero_mul]
  · obtain ⟨wall, deadline, later, holds, elapsed⟩ :=
      addBusinessHours_pos enabled follows anchor some
    obtain ⟨reached, atLeast, before⟩ := follows.exists_reaches wall
    have ordered : anchor < reached := by
      by_contra early
      rcases lt_or_eq_of_le (not_lt.mp early) with less | same
      · exact undisturbed.fresh reached less (wall - 1) (by omega) (by omega) holds
      · rw [same] at atLeast
        omega
    have short := before (reached - 1) (by omega)
    have instant := follows.reaches wall reached before atLeast
    rw [← deadline] at instant
    have behind : reached ≤ addBusinessHours zones anchor hours policy := by
      rw [instant]
      split_ifs <;> omega
    have steady : Undistorted policy.Opens
      (fun instant => instant + offset instant) anchor reached :=
      fun moment after until_ => undisturbed.steady moment after (until_.trans behind)
    have least := isLeast_reading ordered later rfl holds before atLeast steady
    have same : addBusinessHours zones anchor hours policy = reached := by
      have exact_ := least.1
      rw [instant]
      split_ifs <;> omega
    have totals : ∀ last, total (fun moment => isBusinessOpen zones moment policy = true)
        anchor last = total (fun moment => policy.Opens (moment + offset moment)) anchor last :=
      fun last => total_congr (isBusinessOpen_iff enabled follows) anchor last
    rw [same]
    constructor
    · refine ⟨ordered.le, ?_⟩
      rw [totals, least.2.1.2, elapsed]
    · rintro other ⟨after, equal⟩
      rw [totals] at equal
      exact least.2.2 ⟨after, by omega⟩

/-! ## A clock that is put forward -/

/-- The instant at which the clocks of Rome are put forward. -/
def springForward : Int := (⟨2026, 3, 29, 1, 0, 0, 0⟩ : Library.DateTime).instant

/-- The offset of the clocks of Rome in that spring. -/
def romeOffset (instant : Int) : Int :=
  if instant < springForward then hourMicroseconds else 2 * hourMicroseconds

/-- The clocks of Rome in that spring. -/
def romeZones : String → Zone := fun _ => {
  localTime := fun instant => ⟨instant + romeOffset instant, false⟩
  instant := fun time =>
    if time.wall < springForward + hourMicroseconds ∨
        time.wall < springForward + 2 * hourMicroseconds ∧ time.fold = false then
      time.wall - hourMicroseconds
    else time.wall - 2 * hourMicroseconds }

/-- The clocks have their offset. -/
theorem romeZones_follows (timezone : String) : (romeZones timezone).Follows romeOffset where
  small instant := by
    rw [romeOffset]
    split_ifs <;> decide
  wall instant := rfl
  returns instant := by
    simp only [romeZones, romeOffset, hourMicroseconds]
    split_ifs <;> omega
  reaches wall instant before reached := by
    have last := before (instant - 1) (by omega)
    clear before
    simp only [romeZones, romeOffset, hourMicroseconds, and_true] at *
    split_ifs at * <;> omega

/-- The office does not open before midnight. -/
theorem office_start_nonneg : 0 ≤ 9 * hourMicroseconds := by decide

/-- It opens before it closes. -/
theorem office_start_lt : 9 * hourMicroseconds < 18 * hourMicroseconds := by decide

/-- It closes before midnight. -/
theorem office_finish_lt : 18 * hourMicroseconds < dayMicroseconds := by decide

/-- The office works on some days. -/
theorem office_weekdays_nonempty : [0, 1, 2, 3, 4] ≠ ([] : List Nat) := by decide

/-- Its days are days of a week. -/
theorem office_weekdays_lt : ∀ day ∈ ([0, 1, 2, 3, 4] : List Nat), day < 7 := by decide

/-- The office works from nine to six, from Monday to Friday. -/
def romeOffice : BusinessHoursPolicy where
  enabled := true
  timezone := "Europe/Rome"
  start := 9 * hourMicroseconds
  finish := 18 * hourMicroseconds
  weekdays := [0, 1, 2, 3, 4]
  start_nonneg := office_start_nonneg
  start_lt := office_start_lt
  finish_lt := office_finish_lt
  weekdays_nonempty := office_weekdays_nonempty
  weekdays_lt := office_weekdays_lt

/-- The night shift works from one to five, every day. -/
def romeNight : BusinessHoursPolicy where
  enabled := true
  timezone := "Europe/Rome"
  start := hourMicroseconds
  finish := 5 * hourMicroseconds
  weekdays := [0, 1, 2, 3, 4, 5, 6]
  start_nonneg := by decide
  start_lt := by decide
  finish_lt := by decide
  weekdays_nonempty := by decide
  weekdays_lt := by decide

/-- Friday at four in the afternoon, in Rome. -/
def fridayAtFour : Int := (⟨2026, 3, 27, 15, 0, 0, 0⟩ : Library.DateTime).instant

/-- Half an hour past midnight before the clocks are put forward, in Rome. -/
def pastMidnight : Int := (⟨2026, 3, 28, 23, 30, 0, 0⟩ : Library.DateTime).instant

/-- The change of the clocks does not disturb the office. -/
theorem romeOffice_undisturbed (anchor deadline : Int) :
    romeOffice.Undisturbed romeOffset anchor deadline where
  steady := by
    intro instant _ _ shown low high opens
    have sunday : springForward / dayMicroseconds * dayMicroseconds ≤ shown ∧
        shown < (springForward / dayMicroseconds + 1) * dayMicroseconds := by
      have noon : springForward / dayMicroseconds * dayMicroseconds + hourMicroseconds =
          springForward := by decide
      simp only [romeOffset, hourMicroseconds, dayMicroseconds] at *
      split_ifs at low high <;> omega
    have works := ((BusinessHoursPolicy.opens_iff sunday.1 sunday.2).mp opens).1
    have idle : romeOffice.works (springForward / dayMicroseconds) = false := by decide
    rw [idle] at works
    cases works
  fresh := by
    intro earlier before wall low high
    simp only [romeOffset, hourMicroseconds] at low high
    split_ifs at low high <;> omega

/-- The night shift is to work for two hours. -/
theorem consume_romeNight :
    romeNight.consume ((romeZones "Europe/Rome").localTime pastMidnight) (2 * hourMicroseconds) =
      ⟨springForward + 2 * hourMicroseconds, false⟩ := by
  have consumed : romeNight.consume ((romeZones "Europe/Rome").localTime pastMidnight)
      (2 * hourMicroseconds) =
        combine ((romeZones "Europe/Rome").localTime pastMidnight).day
          (romeNight.start + 2 * hourMicroseconds) := by
    apply BusinessHoursPolicy.consume_opening <;> decide
  rw [consumed]
  decide

/-- The deadline is the least reading of the clock at which the working time that it shows is
consumed. Undisturbed, it is the least instant at which the working time has elapsed. -/
theorem business_deadline (enabled : policy.enabled = true)
    (follows : (zones policy.timezone).Follows offset) (anchor : Int) (hours : Nat) :
    (∃ wall fold, addBusinessHours zones anchor hours policy =
        (zones policy.timezone).instant ⟨wall, fold⟩ ∧
      IsLeast {other | anchor + offset anchor ≤ other ∧
        (total policy.Opens (anchor + offset anchor) other : Int) =
          hours * hourMicroseconds} wall) ∧
    (policy.Undisturbed offset anchor (addBusinessHours zones anchor hours policy) →
      IsLeast {instant | anchor ≤ instant ∧
        (total (fun moment => isBusinessOpen zones moment policy = true) anchor instant : Int) =
          hours * hourMicroseconds} (addBusinessHours zones anchor hours policy)) :=
  ⟨addBusinessHours_wall enabled follows anchor hours,
    addBusinessHours_instant enabled follows anchor hours⟩

/-- The office is done on Monday at eleven, four hours of work later. -/
theorem business_deadline_office :
    IsLeast {instant | fridayAtFour ≤ instant ∧
      (total (fun moment => isBusinessOpen romeZones moment romeOffice = true) fridayAtFour
        instant : Int) = (4 : Nat) * hourMicroseconds}
      (addBusinessHours romeZones fridayAtFour 4 romeOffice) :=
  (business_deadline rfl (romeZones_follows _) fridayAtFour 4).2
    (romeOffice_undisturbed fridayAtFour _)

/-- Of the two hours of the night shift only one elapses, as the clocks are put forward. -/
theorem business_deadline_night :
    ¬ IsLeast {instant | pastMidnight ≤ instant ∧
      (total (fun moment => isBusinessOpen romeZones moment romeNight = true) pastMidnight
        instant : Int) = (2 : Nat) * hourMicroseconds}
      (addBusinessHours romeZones pastMidnight 2 romeNight) := by
  rintro ⟨⟨_, elapsed⟩, _⟩
  have deadline : addBusinessHours romeZones pastMidnight 2 romeNight =
      pastMidnight + 90 * 60000000 := by
    show (romeZones "Europe/Rome").instant (romeNight.consume
      ((romeZones "Europe/Rome").localTime pastMidnight) (2 * hourMicroseconds)) = _
    rw [consume_romeNight]
    decide
  have bounded : total (fun moment => isBusinessOpen romeZones moment romeNight = true)
      pastMidnight (addBusinessHours romeZones pastMidnight 2 romeNight) ≤ _ := total_le_sub _ _
  rw [deadline] at elapsed bounded
  simp only [hourMicroseconds] at elapsed
  omega

end DTLab
