import DTLab.Sensor.Runtime
import DTLab.Verif.Accounting

/-!
# Conservation of observations through the spool

After a final `flush_all` the latest spooled revisions count every observation exactly when
each revision that missed the spool was followed by a later revision of its episode that
reached it. A revision that misses the spool is not made again: rendering already marked its
episode clean, and a flush already closed it.
-/

namespace DTLab

open Library (Text latest latestMeasure latestMeasure_mem le_latestMeasure latestMeasure_le
  latestMeasure_of_notMem sum_latest)

variable {τ : Type}

/-- For every revision that was returned, the spool has it or a later one of the episode. -/
def Superseded (attempts : List Attempt) : Prop :=
  ∀ attempt ∈ attempts, ∃ kept ∈ spooledEvents attempts,
    kept.episodeSequence = attempt.event.episodeSequence ∧
      attempt.event.revision ≤ kept.revision

instance : DecidablePred Superseded := fun attempts =>
  inferInstanceAs (Decidable (∀ attempt ∈ attempts, ∃ kept ∈ spooledEvents attempts, _))

/-- Reports of one episode are ordered alike by number and by size. -/
theorem Records.size_le_iff {past : List (Observation τ)} {nextSequence : Nat}
    {logs : List (EpisodeLog τ)} {reports : List (Report τ)}
    (records : Records past nextSequence logs reports) {left right : Report τ}
    (leftIn : left ∈ reports) (rightIn : right ∈ reports)
    (same : left.sequence = right.sequence) :
    left.size ≤ right.size ↔ left.earlier ≤ right.earlier := by
  have sizes : (reportsOn right.sequence reports).Pairwise
      fun earlier later => earlier.size < later.size := by
    refine (records.growing.sublist List.filter_sublist).imp_of_mem ?_
    intro earlier later earlierIn laterIn grows
    have both := And.intro (List.mem_filter.mp earlierIn).2 (List.mem_filter.mp laterIn).2
    simp only [decide_eq_true_eq] at both
    exact (grows (both.1.trans both.2.symm)).2
  have numbers : (reportsOn right.sequence reports).Pairwise
      fun earlier later => earlier.earlier < later.earlier := by
    rw [← List.pairwise_map (f := Report.earlier) (R := (· < ·)),
      records.numbered right.sequence]
    exact List.pairwise_lt_range
  have symmetric : Std.Symm fun one two : Report τ =>
      (one.size ≤ two.size ↔ one.earlier ≤ two.earlier) ∧
        (two.size ≤ one.size ↔ two.earlier ≤ one.earlier) := ⟨fun _ _ => And.symm⟩
  have ordered := List.Pairwise.forall_of_forall (fun _ _ => by simp)
    ((sizes.and numbers).imp fun both =>
      (⟨iff_of_true both.1.le both.2.le, iff_of_false (not_le.mpr both.1) (not_le.mpr both.2)⟩ :
        (_ ↔ _) ∧ (_ ↔ _)))
  exact (ordered (List.mem_filter.mpr ⟨leftIn, decide_eq_true same⟩)
    (List.mem_filter.mpr ⟨rightIn, decide_eq_true rfl⟩)).1

/-- Among the reports of a run, the latest ones of a part count as much as the latest ones of
all exactly when the part has a report at least as late as each. -/
theorem Records.sum_latest_eq_iff {past : List (Observation τ)} {nextSequence : Nat}
    {logs : List (EpisodeLog τ)} {reports kept : List (Report τ)}
    (records : Records past nextSequence logs reports) (part : kept.Sublist reports) :
    ((latest Report.sequence kept).map Report.size).sum =
        ((latest Report.sequence reports).map Report.size).sum ↔
      ∀ report ∈ reports, ∃ found ∈ kept,
        found.sequence = report.sequence ∧ report.earlier ≤ found.earlier := by
  have keys : ∀ report ∈ reports,
      report.sequence ∈ (reports.map Report.sequence).toFinset := fun report member =>
    List.mem_toFinset.mpr (List.mem_map.mpr ⟨report, member, rfl⟩)
  have grows : reports.Pairwise fun earlier later =>
      earlier.sequence = later.sequence → earlier.size ≤ later.size :=
    records.growing.imp fun both same => (both same).2.le
  have below : ∀ sequence, latestMeasure Report.sequence Report.size kept sequence ≤
      latestMeasure Report.sequence Report.size reports sequence := by
    intro sequence
    refine latestMeasure_le fun report member same => ?_
    rw [← same]
    exact le_latestMeasure grows (part.subset member)
  rw [sum_latest Report.sequence Report.size reports keys,
    sum_latest Report.sequence Report.size kept fun report member =>
      keys report (part.subset member),
    Finset.sum_eq_sum_iff_of_le fun sequence _ => below sequence]
  constructor
  · intro equal report member
    have positive : 0 < report.size := report.history.all_length_pos
    have latestKept := equal report.sequence (keys report member)
    have reached : report.size ≤
        latestMeasure Report.sequence Report.size kept report.sequence := by
      rw [latestKept]
      exact le_latestMeasure grows member
    have present : report.sequence ∈ kept.map Report.sequence := by
      by_contra absent
      rw [latestMeasure_of_notMem absent] at reached
      omega
    obtain ⟨found, foundIn, same, size⟩ := latestMeasure_mem Report.size present
    refine ⟨found, foundIn, same, ?_⟩
    rw [← records.size_le_iff member (part.subset foundIn) same.symm, size]
    exact reached
  · intro superseded sequence member
    refine le_antisymm (below sequence) ?_
    obtain ⟨report, reportIn, same, size⟩ :=
      latestMeasure_mem Report.size (List.mem_toFinset.mp member)
    obtain ⟨found, foundIn, sameEpisode, later⟩ := superseded report reportIn
    rw [← size, ← same, ← sameEpisode]
    refine le_trans ?_ (le_latestMeasure (grows.sublist part) foundIn)
    exact (records.size_le_iff reportIn (part.subset foundIn) sameEpisode.symm).mpr later

variable [LinearOrder τ] [Sub τ] (sha256Text : Text → String) (config : AggregatorConfig τ)

/-- The spooled events of a run are the documents of a part of its reports. -/
theorem exists_reports_of_spooled (appendOk : Nat → Bool) (nextSequence : Nat)
    (calls : List (AggregatorCall τ)) :
    ∃ kept : List (Report τ), kept.Sublist (Ledger.reports config nextSequence calls) ∧
      spooledEvents (Runtime.attempts sha256Text config appendOk nextSequence calls) =
        kept.map (Report.document sha256Text config) := by
  rw [← List.sublist_map_iff, ← events_eq,
    ← Runtime.map_event_attempts sha256Text config appendOk]
  exact List.filter_sublist.map Attempt.event

end DTLab
