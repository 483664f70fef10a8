import DTLab.Tickets.Service

/-!
# The order of stored instants

The ticket store keeps instants as texts and orders them as texts. `isoformat` writes no fraction
for an instant without microseconds, and the `Z` behind its seconds comes after the point of a
fraction. So the texts are ordered as the instants except in one second, and there only behind an
instant without microseconds.
-/

namespace DTLab

open Library (DateTime)

/-- A datetime with a zone: what its clock shows, the microseconds its zone is ahead of UTC, and
what `astimezone(UTC)` makes of it. -/
structure AwareTime where
  /-- What the clock of the zone shows. -/
  reading : ClockTime
  /-- How far the zone is ahead of UTC. -/
  offset : Int
  /-- What a clock in UTC shows. -/
  utc : ClockTime
  /-- Both clocks show one instant. -/
  shifted : utc.instant = reading.instant - offset

/-- A datetime. -/
inductive Datetime where
  | naive (reading : ClockTime)
  | aware (time : AwareTime)

/-- `_utc_text`. -/
def storedText : Datetime → Except TicketError String
  | .naive _ => .error (.validation "I timestamp operativi devono includere il fuso orario.")
  | .aware time => .ok time.utc.text

namespace AwareTime

variable {left right : AwareTime}

/-- The instant that a datetime with a zone denotes. -/
def instant (time : AwareTime) : Int := time.reading.instant - time.offset

/-- A datetime without microseconds, and a later one in its second. -/
def Overtaken (left right : AwareTime) : Prop :=
  left.utc.1.seconds = right.utc.1.seconds ∧ left.utc.1.microsecond = 0 ∧
    right.utc.1.microsecond ≠ 0

instance (left right : AwareTime) : Decidable (Overtaken left right) :=
  inferInstanceAs (Decidable (_ ∧ _))

/-- Datetimes are ordered as the seconds in UTC and then as the microseconds. -/
theorem instant_lt : left.instant < right.instant ↔
    left.utc.1.seconds < right.utc.1.seconds ∨
      left.utc.1.seconds = right.utc.1.seconds ∧
        left.utc.1.microsecond < right.utc.1.microsecond := by
  have order := DateTime.instant_lt left.utc.2 right.utc.2
  rw [← order, instant, instant, ← left.shifted, ← right.shifted]
  rfl

/-- The texts of datetimes are ordered as the seconds, and then as the fractions show. -/
theorem text_lt : left.utc.text < right.utc.text ↔
    left.utc.1.seconds < right.utc.1.seconds ∨
      left.utc.1.seconds = right.utc.1.seconds ∧ left.utc.1.microsecond ≠ 0 ∧
        (right.utc.1.microsecond = 0 ∨ left.utc.1.microsecond < right.utc.1.microsecond) := by
  rw [ClockTime.text, ClockTime.text, String.lt_iff, String.toList_ofList, String.toList_ofList]
  exact DateTime.utcText_lt left.utc.2 right.utc.2

/-- Equal datetimes have equal texts. -/
theorem text_eq (same : left.instant = right.instant) : left.utc.text = right.utc.text := by
  have notLess : ¬ left.instant < right.instant := same.not_lt
  have notMore : ¬ right.instant < left.instant := same.not_gt
  rw [instant_lt] at notLess notMore
  apply le_antisymm
  · apply not_lt.mp
    rw [text_lt]
    omega
  · apply not_lt.mp
    rw [text_lt]
    omega

/-- An earlier datetime has a smaller text exactly when it is not overtaken. -/
theorem text_lt_iff (before : left.instant < right.instant) :
    left.utc.text < right.utc.text ↔ ¬ Overtaken left right := by
  have order := instant_lt.mp before
  rw [text_lt, Overtaken]
  omega

end AwareTime

/-- The texts of two datetimes with zones are ordered as the datetimes, and equal when they are,
exactly when the earlier one is not overtaken in its second. -/
theorem storedText_ordered_iff (left right : AwareTime) :
    (∃ leftText rightText, storedText (.aware left) = .ok leftText ∧
      storedText (.aware right) = .ok rightText ∧
      (left.instant < right.instant → leftText < rightText) ∧
      (left.instant = right.instant → leftText = rightText)) ↔
    ¬ AwareTime.Overtaken left right := by
  constructor
  · rintro ⟨leftText, rightText, leftStored, rightStored, ordered, _⟩ overtaken
    obtain rfl := Except.ok.inj leftStored
    obtain rfl := Except.ok.inj rightStored
    have before : left.instant < right.instant := by
      obtain ⟨second, whole, fraction⟩ := overtaken
      rw [AwareTime.instant_lt]
      omega
    exact (AwareTime.text_lt_iff before).mp (ordered before) overtaken
  · intro plain
    exact ⟨_, _, rfl, rfl, fun before => (AwareTime.text_lt_iff before).mpr plain,
      AwareTime.text_eq⟩

/-- A datetime in UTC. -/
def AwareTime.ofUtc (time : ClockTime) : AwareTime where
  reading := time
  offset := 0
  utc := time
  shifted := (Int.sub_zero _).symm

/-- Half a second past a full second comes first as a text. -/
theorem storedText_ordered_half :
    let full := AwareTime.ofUtc ⟨⟨2026, 7, 1, 8, 0, 0, 0⟩, by decide⟩
    let half := AwareTime.ofUtc ⟨⟨2026, 7, 1, 8, 0, 0, 500000⟩, by decide⟩
    full.instant < half.instant ∧ storedText (.aware full) = .ok full.utc.text ∧
      storedText (.aware half) = .ok half.utc.text ∧ ¬ full.utc.text < half.utc.text := by
  intro full half
  have overtaken : AwareTime.Overtaken full half := by decide
  have before : full.instant < half.instant := by decide
  exact ⟨before, rfl, rfl, fun less => (AwareTime.text_lt_iff before).mp less overtaken⟩

/-! ## Orders of whole lists -/

/-- A list in which nobody is overtaken is in order as texts when it is in order. -/
theorem pairwise_text {times : List AwareTime}
    (plain : times.Pairwise fun left right => ¬ AwareTime.Overtaken left right)
    (ordered : times.Pairwise fun left right => left.instant ≤ right.instant) :
    times.Pairwise fun left right => left.utc.text ≤ right.utc.text := by
  apply (plain.and ordered).imp
  intro left right both
  rcases Int.le_iff_lt_or_eq.mp both.2 with before | same
  · exact ((AwareTime.text_lt_iff before).mpr both.1).le
  · exact (AwareTime.text_eq same).le

end DTLab
