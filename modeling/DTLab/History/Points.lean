import DTLab.Library.Buckets
import DTLab.Tickets.BusinessHours
import Mathlib.Data.String.Basic
import Mathlib.Data.Sum.Order

/-!
# The trend history

`prune_points` and what `HistoryStore.record` does to the points of a history. An instant is a
number of microseconds, counted so that the first day of the calendar is the first whole one.
-/

namespace DTLab

/-- A point of the history. -/
structure HistoryPoint (μ : Type) where
  /-- The snapshot it was derived from. -/
  snapshotId : String
  /-- When that was generated. -/
  generatedAt : String
  /-- The indicators. -/
  metrics : μ

/-- What a history is limited to. -/
structure HistoryRetention where
  /-- The width of the buckets. -/
  resolution : Option String
  /-- The most points. -/
  maxPoints : Option Int
  /-- The greatest age in days. -/
  maxAgeDays : Option Int

namespace HistoryRetention

/-- The resolution, or that of `DEFAULT_RETENTION`. -/
def theResolution (retention : HistoryRetention) : String := retention.resolution.getD "daily"

/-- The most points, or those of `DEFAULT_RETENTION`. -/
def theMaxPoints (retention : HistoryRetention) : Int := retention.maxPoints.getD 365

/-- The greatest age, or that of `DEFAULT_RETENTION`. -/
def theMaxAgeDays (retention : HistoryRetention) : Int := retention.maxAgeDays.getD 365

end HistoryRetention

/-- The instant some days before another one, which must be one of the calendar. -/
def cutoffOf (reference days : Int) : Option Int :=
  let cutoff := reference - days * dayMicroseconds
  if dayMicroseconds ≤ cutoff ∧ cutoff < 3652060 * dayMicroseconds then some cutoff else none

/-- `kept[-count:]`. -/
def lastPoints {α : Type} (count : Int) (kept : List α) : List α :=
  if 0 < count then kept.drop (kept.length - count.toNat) else kept.drop (-count).toNat

section

variable {μ : Type} (parse : String → Int)

/-- `_bucket_key`: the day or the hour in UTC, or the text itself. -/
def bucketKey (resolution ts : String) : Lex (Int ⊕ String) :=
  if resolution = "daily" then toLex (.inl (parse ts / dayMicroseconds))
  else if resolution = "hourly" then toLex (.inl (parse ts / hourMicroseconds))
  else toLex (.inr ts)

/-- The instant of a point. -/
def HistoryPoint.instant (point : HistoryPoint μ) : Int := parse point.generatedAt

/-- The bucket of a point. -/
def HistoryPoint.bucket (resolution : String) (point : HistoryPoint μ) : Lex (Int ⊕ String) :=
  bucketKey parse resolution point.generatedAt

/-- `prune_points`; nothing where the cutoff is out of the calendar. -/
def prunePoints (retention : HistoryRetention) (now : Int) (points : List (HistoryPoint μ)) :
    Option (List (HistoryPoint μ)) :=
  (cutoffOf now retention.theMaxAgeDays).map fun cutoff =>
    let kept := Library.Buckets.recentOnes (HistoryPoint.instant parse)
      (HistoryPoint.bucket parse retention.theResolution) cutoff points
    if retention.theMaxPoints < kept.length then lastPoints retention.theMaxPoints kept else kept

/-- The points after `HistoryStore.record`. -/
def recordPoint (retention : HistoryRetention) (now : Int) (points : List (HistoryPoint μ))
    (point : HistoryPoint μ) : Option (List (HistoryPoint μ)) :=
  prunePoints parse retention now
    ((points.filter fun other => decide (other.snapshotId ≠ point.snapshotId)) ++ [point])

/-! ## The buckets -/

variable {parse}

/-- A later point is in no earlier bucket. -/
theorem bucket_mono {resolution : String} (known : resolution = "daily" ∨ resolution = "hourly")
    (first second : HistoryPoint μ) (ordered : first.instant parse ≤ second.instant parse) :
    first.bucket parse resolution ≤ second.bucket parse resolution := by
  have widths : 0 < dayMicroseconds ∧ 0 < hourMicroseconds := by decide
  rw [HistoryPoint.bucket, HistoryPoint.bucket, bucketKey, bucketKey]
  rcases known with daily | hourly
  · rw [if_pos daily, if_pos daily, Sum.Lex.inl_le_inl_iff]
    exact Int.ediv_le_ediv widths.1 ordered
  · have other : resolution ≠ "daily" := by
      rw [hourly]
      decide
    rw [if_neg other, if_neg other, if_pos hourly, if_pos hourly, Sum.Lex.inl_le_inl_iff]
    exact Int.ediv_le_ediv widths.2 ordered

/-- Pruning keeps the latest points of the buckets, the last ones of these. -/
theorem prunePoints_eq {retention : HistoryRetention} (positive : 1 ≤ retention.theMaxPoints)
    (now : Int) (points : List (HistoryPoint μ)) :
    prunePoints parse retention now points =
      (cutoffOf now retention.theMaxAgeDays).map fun cutoff =>
      Library.Buckets.retained (HistoryPoint.instant parse)
        (HistoryPoint.bucket parse retention.theResolution) cutoff retention.theMaxPoints.toNat
        points := by
  rw [prunePoints]
  congr 1
  funext cutoff
  rw [Library.Buckets.retained]
  dsimp only
  split
  · rw [lastPoints, if_pos (by omega)]
  · rw [Nat.sub_eq_zero_of_le (by omega), List.drop_zero]

/-- The cutoff is the age before the instant of the pruning, and does not fall. -/
theorem cutoffOf_mono {reference later days cutoff next : Int} (moves : reference ≤ later)
    (first : cutoffOf reference days = some cutoff) (second : cutoffOf later days = some next) :
    cutoff ≤ next := by
  unfold cutoffOf at first second
  dsimp only at first second
  split at first
  · split at second
    · have one := Option.some.inj first
      have two := Option.some.inj second
      omega
    · cases second
  · cases first

end

end DTLab
