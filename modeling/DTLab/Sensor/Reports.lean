import DTLab.Library.Latest
import DTLab.Sensor.Ledger

/-!
# Runs of the ledger

`Records` relates the observations recorded so far, the open logs and the reports made:
reports of one episode are numbered in order and grow, and the latest reports together with
what the open logs have not reported yet account for every observation once. Four moves keep
it (report, close, record, open), and every call of the aggregator is a sequence of moves.
-/

namespace DTLab

open Library (Dict latest latestMeasure latestMeasure_concat latestMeasure_of_notMem
  sum_latest_concat Machine.run)

variable {τ : Type}

/-- The number of observations that a report covers. -/
def Report.size (report : Report τ) : Nat := report.history.all.length

/-- The number of observations of a log that no report covers yet. -/
def EpisodeLog.pending (log : EpisodeLog τ) : Nat := log.history.all.length - log.covered

/-- The reports on one episode, in order. -/
def reportsOn (sequence : Nat) (reports : List (Report τ)) : List (Report τ) :=
  reports.filter fun report => decide (report.sequence = sequence)

/-- What holds of the observations recorded so far, the next sequence number, the open logs
and the reports. -/
structure Records (past : List (Observation τ)) (nextSequence : Nat) (logs : List (EpisodeLog τ))
    (reports : List (Report τ)) : Prop where
  distinct : (logs.map EpisodeLog.sequence).Nodup
  logs_below : ∀ log ∈ logs, log.sequence < nextSequence
  reports_below : ∀ report ∈ reports, report.sequence < nextSequence
  numbered : ∀ sequence, (reportsOn sequence reports).map Report.earlier =
    List.range (reportsOn sequence reports).length
  counted : ∀ log ∈ logs, log.reports = (reportsOn log.sequence reports).length
  covered : ∀ log ∈ logs,
    log.covered = latestMeasure Report.sequence Report.size reports log.sequence
  extended : ∀ log ∈ logs, ∀ report ∈ reports, report.sequence = log.sequence →
    report.history.all <+: log.history.all ∧ report.size ≤ log.covered
  growing : reports.Pairwise fun earlier later => earlier.sequence = later.sequence →
    earlier.history.all <+: later.history.all ∧ earlier.size < later.size
  logs_drawn : ∀ log ∈ logs, ∀ observation ∈ log.history.all, observation ∈ past
  reports_drawn : ∀ report ∈ reports, ∀ observation ∈ report.history.all, observation ∈ past
  total : ((latest Report.sequence reports).map Report.size).sum +
    (logs.map EpisodeLog.pending).sum = past.length

namespace Records

variable {past : List (Observation τ)} {nextSequence : Nat} {log : EpisodeLog τ}
  {logs others : List (EpisodeLog τ)} {reports : List (Report τ)}

/-- Nothing is recorded at the start. -/
theorem start (nextSequence : Nat) :
    Records ([] : List (Observation τ)) nextSequence [] [] where
  distinct := List.nodup_nil
  logs_below _ member := by cases member
  reports_below _ member := by cases member
  numbered _ := rfl
  counted _ member := by cases member
  covered _ member := by cases member
  extended _ member := by cases member
  growing := List.Pairwise.nil
  logs_drawn _ member := by cases member
  reports_drawn _ member := by cases member
  total := rfl

/-- The order of the open logs does not matter. -/
theorem perm (records : Records past nextSequence logs reports) (same : logs.Perm others) :
    Records past nextSequence others reports where
  distinct := (same.map _).nodup_iff.mp records.distinct
  logs_below log member := records.logs_below log (same.mem_iff.mpr member)
  reports_below := records.reports_below
  numbered := records.numbered
  counted log member := records.counted log (same.mem_iff.mpr member)
  covered log member := records.covered log (same.mem_iff.mpr member)
  extended log member := records.extended log (same.mem_iff.mpr member)
  growing := records.growing
  logs_drawn log member := records.logs_drawn log (same.mem_iff.mpr member)
  reports_drawn := records.reports_drawn
  total := by rw [← (same.map EpisodeLog.pending).sum_eq]; exact records.total

/-- A log whose observations were all reported can be closed. -/
theorem close (records : Records past nextSequence (log :: others) reports)
    (clean : log.unreported = false) : Records past nextSequence others reports where
  distinct := (List.nodup_cons.mp records.distinct).2
  logs_below other member := records.logs_below other (List.mem_cons_of_mem _ member)
  reports_below := records.reports_below
  numbered := records.numbered
  counted other member := records.counted other (List.mem_cons_of_mem _ member)
  covered other member := records.covered other (List.mem_cons_of_mem _ member)
  extended other member := records.extended other (List.mem_cons_of_mem _ member)
  growing := records.growing
  logs_drawn other member := records.logs_drawn other (List.mem_cons_of_mem _ member)
  reports_drawn := records.reports_drawn
  total := by
    have whole : log.pending = 0 := by
      simp only [EpisodeLog.unreported, decide_eq_false_iff_not, not_lt] at clean
      simp only [EpisodeLog.pending]
      omega
    have total := records.total
    simp only [List.map_cons, List.sum_cons, whole, Nat.zero_add] at total
    exact total

/-- The reports on an episode after one more report. -/
theorem reportsOn_concat (sequence : Nat) (reports : List (Report τ)) (report : Report τ) :
    reportsOn sequence (reports ++ [report]) =
      reportsOn sequence reports ++ if report.sequence = sequence then [report] else [] := by
  by_cases same : report.sequence = sequence <;> simp [reportsOn, List.filter_append, same]

/-- A log with unreported observations can be reported. -/
theorem report (records : Records past nextSequence (log :: others) reports)
    (fresh : log.unreported = true) :
    Records past nextSequence (log.reported :: others) (reports ++ [log.report]) := by
  have here : log ∈ log :: others := List.mem_cons_self
  have unlike : ∀ other ∈ others, other.sequence ≠ log.sequence := fun other member same =>
    (List.nodup_cons.mp records.distinct).1 (List.mem_map.mpr ⟨other, member, same⟩)
  have uncovered : log.covered < log.history.all.length := of_decide_eq_true fresh
  refine
    { distinct := records.distinct
      logs_below := fun other member => ?_
      reports_below := fun report member => ?_
      numbered := fun sequence => ?_
      counted := fun other member => ?_
      covered := fun other member => ?_
      extended := fun other member report made same => ?_
      growing := ?_
      logs_drawn := fun other member => ?_
      reports_drawn := fun report member => ?_
      total := ?_ }
  · rcases List.mem_cons.mp member with rfl | old
    · exact records.logs_below log here
    · exact records.logs_below other (List.mem_cons_of_mem _ old)
  · rcases List.mem_append.mp member with old | new
    · exact records.reports_below report old
    · rw [List.mem_singleton.mp new]
      exact records.logs_below log here
  · rw [reportsOn_concat]
    by_cases same : log.report.sequence = sequence
    · subst same
      rw [if_pos rfl, List.map_append, records.numbered, List.length_append,
        List.length_singleton, List.range_succ]
      exact congrArg _ (congrArg (fun n => [n]) (records.counted log here))
    · rw [if_neg same, List.append_nil]
      exact records.numbered sequence
  · rw [reportsOn_concat, List.length_append, EpisodeLog.sequence_report]
    rcases List.mem_cons.mp member with rfl | old
    · rw [EpisodeLog.sequence_reported, if_pos rfl]
      exact congrArg (· + 1) (records.counted log here)
    · rw [if_neg (unlike other old).symm]
      exact records.counted other (List.mem_cons_of_mem _ old)
  · rw [latestMeasure_concat, EpisodeLog.sequence_report]
    rcases List.mem_cons.mp member with rfl | old
    · rw [EpisodeLog.sequence_reported, if_pos rfl]
      rfl
    · rw [if_neg (unlike other old).symm]
      exact records.covered other (List.mem_cons_of_mem _ old)
  · rcases List.mem_append.mp made with old | new
    · rcases List.mem_cons.mp member with rfl | before
      · exact ⟨(records.extended log here report old same).1,
          ((records.extended log here report old same).1).length_le⟩
      · exact records.extended other (List.mem_cons_of_mem _ before) report old same
    · rw [List.mem_singleton.mp new] at same ⊢
      rcases List.mem_cons.mp member with rfl | before
      · exact ⟨List.prefix_rfl, le_rfl⟩
      · exact absurd same.symm (unlike other before)
  · rw [List.pairwise_append]
    refine ⟨records.growing, List.pairwise_singleton _ _, fun earlier old later new same => ?_⟩
    rw [List.mem_singleton.mp new] at same ⊢
    obtain ⟨start, short⟩ := records.extended log here earlier old same
    exact ⟨start, lt_of_le_of_lt short uncovered⟩
  · rcases List.mem_cons.mp member with rfl | old
    · exact records.logs_drawn log here
    · exact records.logs_drawn other (List.mem_cons_of_mem _ old)
  · rcases List.mem_append.mp member with old | new
    · exact records.reports_drawn report old
    · rw [List.mem_singleton.mp new]
      exact records.logs_drawn log here
  · have before := records.total
    have sums := sum_latest_concat Report.sequence Report.size reports log.report
    have covered := records.covered log here
    have size : log.report.size = log.history.all.length := rfl
    rw [EpisodeLog.sequence_report, ← covered, size] at sums
    simp only [List.map_cons, List.sum_cons, EpisodeLog.pending, EpisodeLog.reported,
      Nat.sub_self] at before ⊢
    omega

/-- An observation can be recorded in an open log. -/
theorem record (records : Records past nextSequence (log :: others) reports)
    (observation : Observation τ) :
    Records (past ++ [observation]) nextSequence (log.record observation :: others) reports := by
  have here : log ∈ log :: others := List.mem_cons_self
  have bound := log.covered_le
  refine
    { distinct := records.distinct
      logs_below := fun other member => ?_
      reports_below := records.reports_below
      numbered := records.numbered
      counted := fun other member => ?_
      covered := fun other member => ?_
      extended := fun other member report made same => ?_
      growing := records.growing
      logs_drawn := fun other member seen drawn => ?_
      reports_drawn := fun report member seen drawn =>
        List.mem_append_left _ (records.reports_drawn report member seen drawn)
      total := ?_ }
  · rcases List.mem_cons.mp member with rfl | old
    · exact records.logs_below log here
    · exact records.logs_below other (List.mem_cons_of_mem _ old)
  · rcases List.mem_cons.mp member with rfl | old
    · exact records.counted log here
    · exact records.counted other (List.mem_cons_of_mem _ old)
  · rcases List.mem_cons.mp member with rfl | old
    · exact records.covered log here
    · exact records.covered other (List.mem_cons_of_mem _ old)
  · rcases List.mem_cons.mp member with rfl | old
    · obtain ⟨start, short⟩ := records.extended log here report made same
      exact ⟨start.trans (List.prefix_append _ _), short⟩
    · exact records.extended other (List.mem_cons_of_mem _ old) report made same
  · rcases List.mem_cons.mp member with rfl | old
    · rw [EpisodeLog.history_record, History.all_record] at drawn
      rcases List.mem_append.mp drawn with before | last
      · exact List.mem_append_left _ (records.logs_drawn log here seen before)
      · exact List.mem_append_right _ last
    · exact List.mem_append_left _
        (records.logs_drawn other (List.mem_cons_of_mem _ old) seen drawn)
  · have before := records.total
    simp only [List.map_cons, List.sum_cons, EpisodeLog.pending, EpisodeLog.record,
      History.all_record, List.length_append, List.length_singleton] at before ⊢
    omega

/-- An observation can open a log with the next sequence number. -/
theorem openNew (records : Records past nextSequence logs reports)
    (observation : Observation τ) :
    Records (past ++ [observation]) (nextSequence + 1)
      (.opened nextSequence observation :: logs) reports := by
  have unused : nextSequence ∉ reports.map Report.sequence := by
    intro used
    obtain ⟨report, member, same⟩ := List.mem_map.mp used
    exact absurd (records.reports_below report member) (same ▸ lt_irrefl _)
  have unreported : reportsOn nextSequence reports = [] := by
    rw [reportsOn, List.filter_eq_nil_iff]
    intro report member same
    exact unused (List.mem_map.mpr ⟨report, member, of_decide_eq_true same⟩)
  refine
    { distinct := ?_
      logs_below := fun other member => ?_
      reports_below := fun report member =>
        Nat.lt_succ_of_lt (records.reports_below report member)
      numbered := records.numbered
      counted := fun other member => ?_
      covered := fun other member => ?_
      extended := fun other member report made same => ?_
      growing := records.growing
      logs_drawn := fun other member seen drawn => ?_
      reports_drawn := fun report member seen drawn =>
        List.mem_append_left _ (records.reports_drawn report member seen drawn)
      total := ?_ }
  · rw [List.map_cons, List.nodup_cons]
    refine ⟨fun used => ?_, records.distinct⟩
    obtain ⟨other, member, same⟩ := List.mem_map.mp used
    exact absurd (records.logs_below other member) (same ▸ lt_irrefl _)
  · rcases List.mem_cons.mp member with rfl | old
    · exact Nat.lt_succ_self _
    · exact Nat.lt_succ_of_lt (records.logs_below other old)
  · rcases List.mem_cons.mp member with rfl | old
    · exact (congrArg List.length unreported).symm
    · exact records.counted other old
  · rcases List.mem_cons.mp member with rfl | old
    · exact (latestMeasure_of_notMem unused).symm
    · exact records.covered other old
  · rcases List.mem_cons.mp member with rfl | old
    · exact absurd (List.mem_map.mpr ⟨report, made, same⟩) unused
    · exact records.extended other old report made same
  · rcases List.mem_cons.mp member with rfl | old
    · exact List.mem_append_right _ drawn
    · exact List.mem_append_left _ (records.logs_drawn other old seen drawn)
  · have before := records.total
    have pending : (EpisodeLog.opened nextSequence observation).pending = 1 := rfl
    simp only [List.map_cons, List.sum_cons, pending, List.length_append,
      List.length_singleton]
    omega

/-- Reporting the unreported among selected logs and closing the selected. -/
theorem flush {κ : Type} (entries : List (κ × EpisodeLog τ))
    (selected : κ × EpisodeLog τ → Bool) (kept : List (EpisodeLog τ))
    (records : Records past nextSequence (entries.map Prod.snd ++ kept) reports) :
    Records past nextSequence
      ((entries.filter fun entry => !selected entry).map Prod.snd ++ kept)
      (reports ++ (entries.filter fun entry => selected entry && entry.2.unreported).map
        fun entry => entry.2.report) := by
  induction entries generalizing kept reports with
  | nil => simpa using records
  | cons entry rest ih =>
    rw [List.map_cons, List.cons_append] at records
    by_cases chosen : selected entry = true
    · by_cases fresh : entry.2.unreported = true
      · have next := ih kept ((records.report fresh).close entry.2.unreported_reported)
        simpa [chosen, fresh, List.append_assoc] using next
      · have next := ih kept (records.close (eq_false_of_ne_true fresh))
        simpa [chosen, fresh] using next
    · have moved := ih (entry.2 :: kept) (records.perm List.perm_middle.symm)
      simpa [chosen] using moved.perm List.perm_middle

end Records

/-! ## Runs -/

namespace Ledger

/-- A ledger keeps its records through a flush. -/
theorem records_flush {past : List (Observation τ)} {ledger : Ledger τ}
    {reports : List (Report τ)}
    (records : Records past ledger.nextSequence ledger.logs.values reports)
    (selected : EpisodeKey × EpisodeLog τ → Bool) :
    Records past (ledger.flush selected).1.nextSequence (ledger.flush selected).1.logs.values
      (reports ++ (ledger.flush selected).2) := by
  have flushed := Records.flush ledger.logs.entries selected []
    (by simpa [Dict.values] using records)
  simpa [Ledger.flush, Dict.values, Dict.filter] using flushed

/-- A ledger keeps its records through an observation, whether or not it is reported. -/
theorem records_recorded {past : List (Observation τ)} {ledger : Ledger τ}
    {reports : List (Report τ)}
    (records : Records past ledger.nextSequence ledger.logs.values reports)
    (observation : Observation τ) :
    Records (past ++ [observation]) (ledger.recorded observation).2
        (ledger.logs.set observation.episodeKey (ledger.recorded observation).1).values reports ∧
      Records (past ++ [observation]) (ledger.recorded observation).2
        (ledger.logs.set observation.episodeKey (ledger.recorded observation).1.reported).values
        (reports ++ [(ledger.recorded observation).1.report]) := by
  unfold recorded
  cases held : ledger.logs.get? observation.episodeKey with
  | some log =>
    obtain ⟨others, values, replaced⟩ := Dict.values_set_present held
    have next := (records.perm values).record observation
    exact ⟨next.perm (replaced _).symm,
      (next.report (log.unreported_record observation)).perm (replaced _).symm⟩
  | none =>
    have next := records.openNew observation
    exact ⟨next.perm (Dict.values_set_absent _ held).symm,
      (next.report (EpisodeLog.unreported_opened _ observation)).perm
        (Dict.values_set_absent _ held).symm⟩

variable [LinearOrder τ] [Sub τ]

/-- A ledger keeps its records through every call. -/
theorem records_step {config : AggregatorConfig τ} {calls : List (AggregatorCall τ)}
    {ledger : Ledger τ} {reports : List (Report τ)}
    (records : Records (observations calls) ledger.nextSequence ledger.logs.values reports)
    (call : AggregatorCall τ) :
    Records (observations (calls ++ [call])) (ledger.step config call).1.nextSequence
      (ledger.step config call).1.logs.values (reports ++ (ledger.step config call).2) := by
  cases call with
  | observe observation =>
    have seen : observations (calls ++ [.observe observation]) =
        observations calls ++ [observation] := by
      simp [observations]
    have flushed : Records _ _ _ _ := records_flush records fun entry => !decide
      (observation.observedEpoch - entry.2.history.last.observedEpoch < config.quietWindow)
    obtain ⟨quiet, due⟩ := records_recorded flushed observation
    rw [seen]
    simp only [step, observe]
    split_ifs
    · rw [← List.append_assoc]
      exact due
    · exact quiet
  | flushExpired nowEpoch =>
    have seen : observations (calls ++ [.flushExpired nowEpoch]) = observations calls := by
      simp [observations]
    rw [seen]
    exact records_flush records _
  | flushSource sourceIp sourcePort =>
    have seen : observations (calls ++ [.flushSource sourceIp sourcePort]) =
        observations calls := by
      simp [observations]
    rw [seen]
    exact records_flush records _
  | flushAll =>
    have seen : observations (calls ++ [.flushAll]) = observations calls := by
      simp [observations]
    rw [seen]
    exact records_flush records _

/-- Every run keeps its records. -/
theorem records_run (config : AggregatorConfig τ) (nextSequence : Nat)
    (calls : List (AggregatorCall τ)) :
    Records (observations calls)
      (Machine.run (step config) (start nextSequence) calls).1.nextSequence
      (Machine.run (step config) (start nextSequence) calls).1.logs.values
      (reports config nextSequence calls) :=
  @Library.Machine.run_induction _ _ _ (step config) (start nextSequence)
    (fun past ledger made =>
      Records (observations past) ledger.nextSequence ledger.logs.values made)
    (Records.start nextSequence) (fun _ _ _ call records => records_step records call) calls

/-- After a final `flush_all` the latest reports cover every observation once. -/
theorem total_flushAll (config : AggregatorConfig τ) (nextSequence : Nat)
    (calls : List (AggregatorCall τ)) :
    ((latest Report.sequence (reports config nextSequence (calls ++ [.flushAll]))).map
      Report.size).sum = (observations calls).length := by
  have records := records_run config nextSequence (calls ++ [.flushAll])
  have closed : (Machine.run (step config) (start nextSequence)
    (calls ++ [.flushAll])).1.logs.values
      = [] := by
    rw [Library.Machine.run_concat]
    simp [step, flush, Dict.values, Dict.filter]
  have seen : observations (calls ++ [.flushAll]) = observations calls := by simp [observations]
  have total := records.total
  rw [closed, seen] at total
  simpa using total

end Ledger

end DTLab
