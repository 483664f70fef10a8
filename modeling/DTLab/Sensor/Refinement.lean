import DTLab.Sensor.Accounting

/-!
# The aggregator refines its ledger

The episode of a log is the fold of `updateEpisode` over its observations, so the aggregator
of a ledger is a function of the ledger. Every step of the aggregator is the step of the
ledger under this function, and the events it returns are the documents of the reports.
-/

namespace DTLab

open Library (Text Dict Machine.run Machine.run_map)

variable {τ : Type} [LinearOrder τ] [Sub τ]

/-- The episode with a history, before any revision. -/
def History.episode (sha256Text : Text → String) (config : AggregatorConfig τ) (sequence : Nat)
    (history : History τ) : Episode τ :=
  history.all.foldl (fun episode observation => (updateEpisode config episode observation).1)
    (newEpisode sha256Text config sequence history.first)

/-- The episode of a log. -/
def EpisodeLog.episode (sha256Text : Text → String) (config : AggregatorConfig τ)
    (log : EpisodeLog τ) : Episode τ :=
  { log.history.episode sha256Text config log.sequence with
    revision := log.reports
    lastEmitEpoch := log.reportedEpoch
    dirty := log.unreported }

@[simp] theorem EpisodeLog.dirty_episode (sha256Text : Text → String)
    (config : AggregatorConfig τ) (log : EpisodeLog τ) :
    (log.episode sha256Text config).dirty = log.unreported := rfl

@[simp] theorem EpisodeLog.lastEmitEpoch_episode (sha256Text : Text → String)
    (config : AggregatorConfig τ) (log : EpisodeLog τ) :
    (log.episode sha256Text config).lastEmitEpoch = log.reportedEpoch := rfl

/-- The document of a report. -/
def Report.document (sha256Text : Text → String) (config : AggregatorConfig τ)
    (report : Report τ) : HostOtEvent :=
  { report.history.episode sha256Text config report.sequence with
    revision := report.earlier }.document config

/-- The aggregator of a ledger. -/
def Ledger.aggregator (sha256Text : Text → String) (config : AggregatorConfig τ)
    (ledger : Ledger τ) : Aggregator τ where
  episodes := ledger.logs.mapValues (EpisodeLog.episode sha256Text config)
  nextSequence := ledger.nextSequence

section

variable (sha256Text : Text → String) (config : AggregatorConfig τ)

/-! ## The episode of a history -/

/-- The episode of a longer history is the update of the episode of the shorter one. -/
theorem History.episode_record (sequence : Nat) (history : History τ)
    (observation : Observation τ) :
    (history.record observation).episode sha256Text config sequence =
      (updateEpisode config (history.episode sha256Text config sequence) observation).1 := by
  simp [History.episode]

/-- The episode of a history accounts for its observations. -/
theorem History.accounts (sequence : Nat) (history : History τ) :
    Accounts config history.all (history.episode sha256Text config sequence) := by
  suffices accounts : ∀ past, Accounts config past (past.foldl
      (fun episode observation => (updateEpisode config episode observation).1)
      (newEpisode sha256Text config sequence history.first)) from accounts history.all
  intro past
  induction past using List.reverseRecOn with
  | nil => exact accounts_new sha256Text config sequence history.first
  | append_singleton past observation ih =>
    rw [List.foldl_append]
    exact ih.update observation

/-- What a list of updates leaves alone. -/
theorem foldl_updateEpisode_identity (past : List (Observation τ)) (episode : Episode τ) :
    let updated := past.foldl
      (fun episode observation => (updateEpisode config episode observation).1) episode
    updated.episodeId = episode.episodeId ∧ updated.episodeSequence = episode.episodeSequence ∧
      updated.firstObservedAt = episode.firstObservedAt ∧ updated.source = episode.source ∧
      updated.destination = episode.destination := by
  induction past generalizing episode with
  | nil => exact ⟨rfl, rfl, rfl, rfl, rfl⟩
  | cons observation past ih => exact ih (updateEpisode config episode observation).1

/-- The fields of an episode that its latest observation sets. -/
theorem History.episode_last (sequence : Nat) (history : History τ) :
    (history.episode sha256Text config sequence).lastObservedAt = history.last.observedAt ∧
      (history.episode sha256Text config sequence).lastEpoch = history.last.observedEpoch ∧
      (history.episode sha256Text config sequence).lastOutcomeState =
        history.last.outcomeState := by
  obtain ⟨before, last, split⟩ := List.eq_nil_or_concat history.all |>.resolve_left (by
    simp [History.all])
  have final : history.last = last := by
    have found := history.getLast?_all
    simpa [split] using found.symm
  rw [History.episode, split, List.concat_eq_append, List.foldl_append, final]
  exact ⟨rfl, rfl, rfl⟩

/-! ## Simulation -/

/-- The episode of a log with one more observation. -/
theorem EpisodeLog.episode_record (log : EpisodeLog τ) (observation : Observation τ) :
    (log.record observation).episode sha256Text config =
      (updateEpisode config (log.episode sha256Text config) observation).1 := by
  rw [EpisodeLog.episode, unreported_record, reportedEpoch_record]
  simp only [EpisodeLog.record, History.episode_record]
  rfl

/-- The episode of a log after its next report. -/
theorem EpisodeLog.episode_reported (log : EpisodeLog τ) :
    log.reported.episode sha256Text config =
      (render config (log.episode sha256Text config)).1 := by
  have lastEpoch := (log.history.episode_last sha256Text config log.sequence).2.1
  rw [EpisodeLog.episode, unreported_reported, reportedEpoch_reported, ← lastEpoch]
  rfl

/-- Rendering the episode of a log is reporting the log. -/
theorem render_episode (log : EpisodeLog τ) :
    render config (log.episode sha256Text config) =
      (log.reported.episode sha256Text config, log.report.document sha256Text config) := by
  rw [EpisodeLog.episode_reported]
  rfl

/-- A flush of the aggregator of a ledger is a flush of the ledger. -/
theorem flush_aggregator {selected : EpisodeKey × Episode τ → Bool}
    {chosen : EpisodeKey × EpisodeLog τ → Bool}
    (same : ∀ key log, selected (key, log.episode sha256Text config) = chosen (key, log))
    (ledger : Ledger τ) :
    Aggregator.flush config selected (ledger.aggregator sha256Text config) =
      ((ledger.flush chosen).1.aggregator sha256Text config,
        (ledger.flush chosen).2.map (Report.document sha256Text config)) := by
  simp only [Aggregator.flush, Ledger.aggregator, Ledger.flush, Dict.filter_mapValues, same,
    Prod.mk.injEq, true_and]
  simp only [Dict.mapValues, List.filter_map, List.map_map, Function.comp_def, same,
    render_episode, EpisodeLog.dirty_episode]

/-- `flush_expired` follows the ledger. -/
theorem flushExpired_aggregator (nowEpoch : τ) (ledger : Ledger τ) :
    Aggregator.flushExpired config nowEpoch (ledger.aggregator sha256Text config) =
      ((ledger.flushExpired config nowEpoch).1.aggregator sha256Text config,
        (ledger.flushExpired config nowEpoch).2.map (Report.document sha256Text config)) := by
  refine flush_aggregator sha256Text config (fun key log => ?_) ledger
  have lastEpoch := (log.history.episode_last sha256Text config log.sequence).2.1
  simp only [Aggregator.expired, EpisodeLog.episode, lastEpoch]

/-- The updated episode of an observation is the episode of its recorded log, and it escalates
when the log does. -/
theorem updateEpisode_openEpisode (ledger : Ledger τ) (observation : Observation τ) :
    let opened :=
      Aggregator.openEpisode sha256Text config (ledger.aggregator sha256Text config) observation
    updateEpisode config opened.1 observation =
        ((ledger.recorded observation).1.episode sha256Text config,
          Ledger.escalates config (ledger.recorded observation).1) ∧
      opened.2 = (ledger.recorded observation).2 := by
  simp only [Aggregator.openEpisode, Ledger.recorded, Ledger.aggregator, Dict.get?_mapValues]
  cases ledger.logs.get? observation.episodeKey with
  | some log =>
    have accounts := log.history.accounts sha256Text config log.sequence
    refine ⟨Prod.ext ?_ ?_, rfl⟩
    · exact (log.episode_record sha256Text config observation).symm
    · simp only [Option.map_some, Ledger.escalates, EpisodeLog.record, History.all_record,
        List.dropLast_concat]
      exact accounts.escalated observation
  | none =>
    refine ⟨Prod.ext rfl ?_, rfl⟩
    exact (accounts_new sha256Text config ledger.nextSequence observation).escalated observation

/-- One call of the aggregator of a ledger is the same call of the ledger. -/
theorem step_aggregator (ledger : Ledger τ) (call : AggregatorCall τ) :
    Aggregator.step sha256Text config (ledger.aggregator sha256Text config) call =
      ((ledger.step config call).1.aggregator sha256Text config,
        (ledger.step config call).2.map (Report.document sha256Text config)) := by
  cases call with
  | observe observation =>
    obtain ⟨updated, next⟩ := updateEpisode_openEpisode sha256Text config
      (ledger.flushExpired config observation.observedEpoch).1 observation
    simp only [Aggregator.step, Aggregator.observe, Ledger.step, Ledger.observe]
    rw [flushExpired_aggregator]
    simp only [updated, next, render_episode, EpisodeLog.lastEmitEpoch_episode]
    split_ifs
    · simp [Ledger.aggregator, Dict.set_mapValues]
    · simp [Ledger.aggregator, Dict.set_mapValues]
  | flushExpired nowEpoch => exact flushExpired_aggregator sha256Text config nowEpoch ledger
  | flushSource sourceIp sourcePort =>
    exact flush_aggregator sha256Text config (fun _ _ => rfl) ledger
  | flushAll => exact flush_aggregator sha256Text config (fun _ _ => rfl) ledger

/-- The events of a run are the documents of the reports of the ledger's run. -/
theorem events_eq (nextSequence : Nat) (calls : List (AggregatorCall τ)) :
    Aggregator.events sha256Text config nextSequence calls =
      (Ledger.reports config nextSequence calls).map (Report.document sha256Text config) := by
  have runs := Machine.run_map (Ledger.aggregator sha256Text config)
    (Report.document sha256Text config)
    (step_aggregator sha256Text config) (Ledger.start nextSequence) calls
  exact congrArg Prod.snd runs

end

end DTLab
