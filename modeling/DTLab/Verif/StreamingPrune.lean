import DTLab.History.Points
import DTLab.Library.Timestamp

/-!
# Pruning a history after every point

A history that is pruned after every point that is added to it ends with the points that pruning
all of them at once leaves.
-/

namespace DTLab

variable {μ : Type} {parse : String → Int} {retention : HistoryRetention}

/-- What pruning at an instant leaves: points by rising instants, no more than allowed, one for each
bucket, and that the most recent one of the bucket. A bucket has one exactly if one of its points is
not before the cutoff and it is among the last buckets that fit. -/
structure PrunedPoints (parse : String → Int) (retention : HistoryRetention) (now : Int)
    (points result : List (HistoryPoint μ)) : Prop where
  sorted : result.Pairwise fun first second => first.instant parse ≤ second.instant parse
  bounded : result.length ≤ retention.theMaxPoints
  apart : result.Pairwise fun first second =>
    first.bucket parse retention.theResolution ≠ second.bucket parse retention.theResolution
  latest : ∀ point ∈ result, point ∈ points ∧ ∀ other ∈ points,
    other.bucket parse retention.theResolution = point.bucket parse retention.theResolution →
      other.instant parse ≤ point.instant parse
  represented : ∀ cutoff, cutoffOf now retention.theMaxAgeDays = some cutoff → ∀ point ∈ points,
    ((∃ kept ∈ result,
        kept.bucket parse retention.theResolution = point.bucket parse retention.theResolution) ↔
      (∃ other ∈ points,
        other.bucket parse retention.theResolution = point.bucket parse retention.theResolution ∧
          cutoff ≤ other.instant parse) ∧
        (Library.Buckets.laterKeys (HistoryPoint.bucket parse retention.theResolution) points
          (point.bucket parse retention.theResolution)).card < retention.theMaxPoints)

/-- The buckets that have a point in what is left. -/
theorem represented_retained {cutoff : Int} {points : List (HistoryPoint μ)}
    (known : retention.theResolution = "daily" ∨ retention.theResolution = "hourly")
    (positive : 1 ≤ retention.theMaxPoints) {point : HistoryPoint μ} (listed : point ∈ points) :
    (∃ kept ∈ Library.Buckets.retained (HistoryPoint.instant parse)
        (HistoryPoint.bucket parse retention.theResolution) cutoff retention.theMaxPoints.toNat
        points,
        kept.bucket parse retention.theResolution = point.bucket parse retention.theResolution) ↔
      (∃ other ∈ points,
        other.bucket parse retention.theResolution = point.bucket parse retention.theResolution ∧
          cutoff ≤ other.instant parse) ∧
        (Library.Buckets.laterKeys (HistoryPoint.bucket parse retention.theResolution) points
          (point.bucket parse retention.theResolution)).card < retention.theMaxPoints := by
  have mono : ∀ first second : HistoryPoint μ, first.instant parse ≤ second.instant parse →
      first.bucket parse retention.theResolution ≤ second.bucket parse retention.theResolution :=
    bucket_mono known
  have fits : ∀ count : Nat, count < retention.theMaxPoints.toNat ↔
      (count : Int) < retention.theMaxPoints := by omega
  constructor
  · rintro ⟨kept, member, same⟩
    have facts := (Library.Buckets.mem_retained mono).mp member
    rw [same] at facts
    have found := Library.Buckets.latestIn_some facts.1.1
    exact ⟨⟨kept, found.1, same, facts.1.2⟩, (fits _).mp facts.2⟩
  · rintro ⟨⟨other, also, same, recent⟩, few⟩
    cases latest : Library.Buckets.latestIn (HistoryPoint.instant parse)
        (HistoryPoint.bucket parse retention.theResolution)
        (point.bucket parse retention.theResolution) points with
    | none => exact absurd rfl (Library.Buckets.latestIn_eq_none.mp latest point listed)
    | some kept =>
      have found := Library.Buckets.latestIn_some latest
      refine ⟨kept, ?_, found.2.1⟩
      apply (Library.Buckets.mem_retained mono).mpr
      rw [found.2.1]
      exact ⟨⟨latest, recent.trans (found.2.2 other also same)⟩, (fits _).mpr few⟩

/-- Pruning leaves the latest points. -/
theorem prunedPoints_of_prunePoints
    (known : retention.theResolution = "daily" ∨ retention.theResolution = "hourly")
    (positive : 1 ≤ retention.theMaxPoints) {now : Int} {points result : List (HistoryPoint μ)}
    (left : prunePoints parse retention now points = some result) :
    PrunedPoints parse retention now points result := by
  have mono : ∀ first second : HistoryPoint μ, first.instant parse ≤ second.instant parse →
      first.bucket parse retention.theResolution ≤ second.bucket parse retention.theResolution :=
    bucket_mono known
  rw [prunePoints_eq positive] at left
  obtain ⟨cutoff, reached, rfl⟩ := Option.map_eq_some_iff.mp left
  have rising := Library.Buckets.rising_retained mono cutoff retention.theMaxPoints.toNat points
  have recent : ∀ point ∈ Library.Buckets.retained (HistoryPoint.instant parse)
      (HistoryPoint.bucket parse retention.theResolution) cutoff retention.theMaxPoints.toNat
      points, Library.Buckets.latestIn (HistoryPoint.instant parse)
        (HistoryPoint.bucket parse retention.theResolution)
        (point.bucket parse retention.theResolution) points = some point :=
    fun point member => ((Library.Buckets.mem_retained mono).mp member).1.1
  refine ⟨rising.imp le_of_lt, ?_, ?_, ?_, ?_⟩
  · rw [Library.Buckets.retained, List.length_drop]
    omega
  · apply rising.imp_of_mem
    intro first second firstKept secondKept less same
    have one := Library.Buckets.latestIn_unique (recent first firstKept)
      (recent second secondKept) same
    exact less.ne (congrArg (HistoryPoint.instant parse) one)
  · intro point member
    have found := Library.Buckets.latestIn_some (recent point member)
    exact ⟨found.1, found.2.2⟩
  · intro other same point listed
    rw [← Option.some.inj (reached.symm.trans same)]
    exact represented_retained known positive listed

/-- Pruning what an earlier pruning left and a further point is pruning all points. -/
theorem prunePoints_concat
    (known : retention.theResolution = "daily" ∨ retention.theResolution = "hourly")
    (positive : 1 ≤ retention.theMaxPoints) {now later : Int} (moves : now ≤ later)
    {points kept : List (HistoryPoint μ)}
    (left : prunePoints parse retention now points = some kept) (point : HistoryPoint μ) :
    prunePoints parse retention later (kept ++ [point]) =
      prunePoints parse retention later (points ++ [point]) := by
  have mono : ∀ first second : HistoryPoint μ, first.instant parse ≤ second.instant parse →
      first.bucket parse retention.theResolution ≤ second.bucket parse retention.theResolution :=
    bucket_mono known
  rw [prunePoints_eq positive] at left
  obtain ⟨cutoff, first, rfl⟩ := Option.map_eq_some_iff.mp left
  rw [prunePoints_eq positive, prunePoints_eq positive]
  cases second : cutoffOf later retention.theMaxAgeDays with
  | none => rfl
  | some next =>
    have order := cutoffOf_mono moves first second
    rw [Option.map_some, Option.map_some, Library.Buckets.retained_concat mono order]

/-- Pruning is safe for a stream of points: what an earlier pruning dropped is not missed, and what
is left are the latest points of the last buckets. -/
theorem prunePoints_streaming
    (known : retention.theResolution = "daily" ∨ retention.theResolution = "hourly")
    (positive : 1 ≤ retention.theMaxPoints) {now later : Int} (moves : now ≤ later)
    {points kept : List (HistoryPoint μ)}
    (left : prunePoints parse retention now points = some kept) (point : HistoryPoint μ) :
    prunePoints parse retention later (kept ++ [point]) =
        prunePoints parse retention later (points ++ [point]) ∧
      ∀ result, prunePoints parse retention later (points ++ [point]) = some result →
        PrunedPoints parse retention later (points ++ [point]) result :=
  ⟨prunePoints_concat known positive moves left point,
    fun _ pruned => prunedPoints_of_prunePoints known positive pruned⟩

/-- The instant of a text that the sensors write. -/
def sampleParse (ts : String) : Int := (Library.readTimestamp ts.toList).getD 0

/-- A point of the first of July. -/
def samplePoint (snapshotId generatedAt : String) : HistoryPoint Unit :=
  ⟨snapshotId, generatedAt, ()⟩

/-- A late point in a history of two days: the day before the last one takes the place of the
first. -/
theorem prunePoints_streaming_day :
    prunePoints sampleParse ⟨some "daily", some 2, some 30⟩ (sampleParse "2026-07-03T00:00:00Z")
        ([samplePoint "a" "2026-06-30T08:00:00Z", samplePoint "c" "2026-07-02T07:00:00Z"] ++
          [samplePoint "b" "2026-07-01T15:00:00Z"]) =
      some [samplePoint "b" "2026-07-01T15:00:00Z", samplePoint "c" "2026-07-02T07:00:00Z"] ∧
      PrunedPoints sampleParse ⟨some "daily", some 2, some 30⟩ (sampleParse "2026-07-03T00:00:00Z")
        ([samplePoint "a" "2026-06-30T08:00:00Z", samplePoint "c" "2026-07-02T07:00:00Z"] ++
          [samplePoint "b" "2026-07-01T15:00:00Z"])
        [samplePoint "b" "2026-07-01T15:00:00Z", samplePoint "c" "2026-07-02T07:00:00Z"] := by
  have left : prunePoints sampleParse ⟨some "daily", some 2, some 30⟩
      (sampleParse "2026-07-02T09:00:00Z")
      [samplePoint "a" "2026-06-30T08:00:00Z", samplePoint "c" "2026-07-02T07:00:00Z"] =
        some [samplePoint "a" "2026-06-30T08:00:00Z", samplePoint "c" "2026-07-02T07:00:00Z"] := by
    rfl
  have streaming := prunePoints_streaming (Or.inl rfl) (by decide)
    (by decide : sampleParse "2026-07-02T09:00:00Z" ≤ sampleParse "2026-07-03T00:00:00Z") left
    (samplePoint "b" "2026-07-01T15:00:00Z")
  exact ⟨rfl, streaming.2 _ rfl⟩

/-! ## Runs of the store -/

/-- The points after some calls of `HistoryStore.record`, each with its instant. -/
def recordAll (parse : String → Int) (retention : HistoryRetention)
    (calls : List (HistoryPoint μ × Int)) : Option (List (HistoryPoint μ)) :=
  calls.foldlM (fun points call => recordPoint parse retention call.2 points call.1) []

/-- A history of snapshots that are recorded once each is what pruning all of their points at the
last instant leaves. -/
theorem recordAll_eq_prunePoints
    (known : retention.theResolution = "daily" ∨ retention.theResolution = "hourly")
    (positive : 1 ≤ retention.theMaxPoints) {calls : List (HistoryPoint μ × Int)}
    {last : HistoryPoint μ × Int}
    (moves : (calls ++ [last]).Pairwise fun first second => first.2 ≤ second.2)
    (once : (calls ++ [last]).Pairwise fun first second =>
      first.1.snapshotId ≠ second.1.snapshotId) {result : List (HistoryPoint μ)}
    (recorded : recordAll parse retention (calls ++ [last]) = some result) :
    prunePoints parse retention last.2 ((calls ++ [last]).map Prod.fst) = some result := by
  induction calls using List.reverseRecOn generalizing last result with
  | nil =>
    obtain ⟨points, same, done⟩ := Option.bind_eq_some_iff.mp recorded
    rw [← Option.some.inj done]
    exact same
  | append_singleton calls previous ih =>
    rw [recordAll, List.foldlM_append] at recorded
    obtain ⟨kept, before, after⟩ := Option.bind_eq_some_iff.mp recorded
    obtain ⟨points, same, done⟩ := Option.bind_eq_some_iff.mp after
    obtain rfl := Option.some.inj done
    have movesParts := List.pairwise_append.mp moves
    have onceParts := List.pairwise_append.mp once
    have pruned := ih movesParts.1 onceParts.1 before
    have next := movesParts.2.2 previous (List.mem_append_right _ List.mem_cons_self) last
      List.mem_cons_self
    have others : kept.filter (fun other =>
        decide (other.snapshotId ≠ last.1.snapshotId)) = kept := by
      apply List.filter_eq_self.mpr
      intro point member
      have listed := ((prunedPoints_of_prunePoints known positive pruned).latest point member).1
      obtain ⟨call, called, rfl⟩ := List.mem_map.mp listed
      exact decide_eq_true (onceParts.2.2 call called last List.mem_cons_self)
    have step : recordPoint parse retention last.2 kept last.1 = some points := same
    rw [recordPoint, others, prunePoints_concat known positive next pruned] at step
    rw [List.map_append]
    exact step

end DTLab
