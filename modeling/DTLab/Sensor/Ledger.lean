import DTLab.Library.Tally
import DTLab.Sensor.Aggregator

/-!
# What an aggregator reports

The purpose of the aggregator, without its counters: an open episode is the list of the
observations it received, and an emitted event is a report on that list. The ledger opens,
extends, reports and closes such lists; everything a document says is a function of its
report. `Sensor.Refinement` connects the two.
-/

namespace DTLab

open Library (Text Dict AmongFirst TallyRules Machine.run)

/-- The observations of one episode in order: at least one. -/
structure History (τ : Type) where
  first : Observation τ
  later : List (Observation τ)
  deriving DecidableEq

namespace History

variable {τ : Type}

/-- The history of an episode that a first observation opens. -/
def opened (observation : Observation τ) : History τ := ⟨observation, []⟩

/-- A history with one more observation. -/
def record (history : History τ) (observation : Observation τ) : History τ :=
  { history with later := history.later ++ [observation] }

/-- All observations in order. -/
def all (history : History τ) : List (Observation τ) := history.first :: history.later

/-- The latest observation. -/
def last (history : History τ) : Observation τ := history.later.getLastD history.first

/-- A new history has one observation. -/
@[simp] theorem all_opened (observation : Observation τ) :
    (opened observation).all = [observation] := rfl

/-- An observation is added at the end. -/
@[simp] theorem all_record (history : History τ) (observation : Observation τ) :
    (history.record observation).all = history.all ++ [observation] := rfl

/-- The first observation stays. -/
@[simp] theorem first_record (history : History τ) (observation : Observation τ) :
    (history.record observation).first = history.first := rfl

/-- The one observation is the last one. -/
@[simp] theorem last_opened (observation : Observation τ) :
    (opened observation).last = observation := rfl

/-- The added observation is the last one. -/
@[simp] theorem last_record (history : History τ) (observation : Observation τ) :
    (history.record observation).last = observation := by
  simp [last, record]

/-- The list of a history ends with its last observation. -/
theorem getLast?_all (history : History τ) : history.all.getLast? = some history.last := by
  obtain ⟨first, later⟩ := history
  simp [all, last, List.getLast?_cons]

/-- The last observation is one of the history. -/
theorem last_mem (history : History τ) : history.last ∈ history.all :=
  List.mem_of_getLast? history.getLast?_all

/-- A history is never empty. -/
theorem all_length_pos (history : History τ) : 0 < history.all.length := Nat.succ_pos _

end History

/-! ## What a document says about a list of observations -/

/-- The operations of observations. -/
def operations {τ : Type} (past : List (Observation τ)) : List Operation :=
  past.map Observation.operation

/-- How the buckets of a document are made. -/
def writeRules (maxOperationBuckets : Int) : TallyRules Operation WriteKey WriteBucket where
  bound := maxOperationBuckets
  key := Operation.writeKey
  bucket := Operation.bucket

/-- Whether the bucket of a key is kept: fewer than the maximal number of different writes
came before the first one with this key. -/
def Kept {τ : Type} (maxOperationBuckets : Int) (past : List (Observation τ)) (key : WriteKey) :
    Prop :=
  AmongFirst maxOperationBuckets key ((operations past).map Operation.writeKey)

/-- The kept keys are found by counting. -/
instance {τ : Type} (maxOperationBuckets : Int) (past : List (Observation τ)) (key : WriteKey) :
    Decidable (Kept maxOperationBuckets past key) :=
  inferInstanceAs (Decidable (AmongFirst _ _ _))

/-- How often an outcome state occurs. -/
def outcomeCount {τ : Type} (past : List (Observation τ)) (state : OutcomeState) : Nat :=
  past.countP fun observation => decide (observation.outcomeState = state)

/-- The time of the last shutdown write to a register. -/
def shutdownTime {τ : Type} (past : List (Observation τ)) (register : Int) : Option τ :=
  (past.filter fun observation => observation.operation.isShutdownWrite &&
    decide (observation.operation.address = register)).getLast?.map Observation.observedEpoch

/-- Whether the last shutdown writes to the three registers lie within the window. -/
def correlated {τ : Type} [LinearOrder τ] [Sub τ] (window : τ) (past : List (Observation τ)) :
    Bool :=
  withinWindow window (shutdownTime past)

/-! ## The ledger of open episodes -/

/-- An open episode: its observations, how many reports were made of it, and how many of its
observations the latest report covered. -/
structure EpisodeLog (τ : Type) where
  sequence : Nat
  history : History τ
  reports : Nat
  covered : Nat
  covered_le : covered ≤ history.all.length

/-- A report on an episode: how many came before it, and the observations so far. -/
structure Report (τ : Type) where
  sequence : Nat
  earlier : Nat
  history : History τ
  deriving DecidableEq

namespace EpisodeLog

variable {τ : Type}

/-- The log of a new episode. -/
def opened (sequence : Nat) (observation : Observation τ) : EpisodeLog τ where
  sequence := sequence
  history := .opened observation
  reports := 0
  covered := 0
  covered_le := Nat.zero_le _

/-- A log with one more observation. -/
def record (log : EpisodeLog τ) (observation : Observation τ) : EpisodeLog τ :=
  { log with
    history := log.history.record observation
    covered_le := by
      have before := log.covered_le
      simp only [History.all_record, List.length_append]
      omega }

/-- The next report on a log. -/
def report (log : EpisodeLog τ) : Report τ := ⟨log.sequence, log.reports, log.history⟩

/-- A log after its next report. -/
def reported (log : EpisodeLog τ) : EpisodeLog τ :=
  { log with
    reports := log.reports + 1
    covered := log.history.all.length
    covered_le := le_rfl }

/-- Whether some observation of a log was not reported yet. -/
def unreported (log : EpisodeLog τ) : Bool := decide (log.covered < log.history.all.length)

/-- The time of the latest observation that was reported. -/
def reportedEpoch (log : EpisodeLog τ) : Option τ :=
  (log.history.all.take log.covered).getLast?.map Observation.observedEpoch

/-- A report keeps the sequence. -/
@[simp] theorem sequence_report (log : EpisodeLog τ) : log.report.sequence = log.sequence := rfl

/-- Reporting keeps the sequence. -/
@[simp] theorem sequence_reported (log : EpisodeLog τ) : log.reported.sequence = log.sequence :=
  rfl

/-- Recording keeps the sequence. -/
@[simp] theorem sequence_record (log : EpisodeLog τ) (observation : Observation τ) :
    (log.record observation).sequence = log.sequence := rfl

/-- Recording extends the history. -/
@[simp] theorem history_record (log : EpisodeLog τ) (observation : Observation τ) :
    (log.record observation).history = log.history.record observation := rfl

/-- A new episode is not reported. -/
@[simp] theorem unreported_opened (sequence : Nat) (observation : Observation τ) :
    (opened sequence observation).unreported = true := rfl

/-- A recorded observation is not reported. -/
@[simp] theorem unreported_record (log : EpisodeLog τ) (observation : Observation τ) :
    (log.record observation).unreported = true := by
  have before := log.covered_le
  simp only [unreported, record, History.all_record, List.length_append, List.length_singleton,
    decide_eq_true_eq]
  omega

/-- Behind a report nothing is unreported. -/
@[simp] theorem unreported_reported (log : EpisodeLog τ) :
    log.reported.unreported = false := by
  simp [unreported, reported]

/-- A new episode has no report. -/
@[simp] theorem reportedEpoch_opened (sequence : Nat) (observation : Observation τ) :
    (opened sequence observation).reportedEpoch = none := rfl

/-- Recording keeps the time of the last report. -/
@[simp] theorem reportedEpoch_record (log : EpisodeLog τ) (observation : Observation τ) :
    (log.record observation).reportedEpoch = log.reportedEpoch := by
  simp only [reportedEpoch, record, History.all_record]
  rw [List.take_append_of_le_length log.covered_le]

/-- A report is at the time of the last observation. -/
@[simp] theorem reportedEpoch_reported (log : EpisodeLog τ) :
    log.reported.reportedEpoch = some log.history.last.observedEpoch := by
  simp [reportedEpoch, reported, History.getLast?_all]

end EpisodeLog

/-- The open episodes and the next sequence number. -/
structure Ledger (τ : Type) where
  logs : Dict EpisodeKey (EpisodeLog τ)
  nextSequence : Nat

namespace Ledger

variable {τ : Type}

/-- A ledger without episodes. -/
def start (nextSequence : Nat) : Ledger τ := ⟨.empty, nextSequence⟩

/-- Report the unreported episodes among the selected ones and close the selected. -/
def flush (selected : EpisodeKey × EpisodeLog τ → Bool) (ledger : Ledger τ) :
    Ledger τ × List (Report τ) :=
  ({ ledger with logs := ledger.logs.filter fun entry => !selected entry },
    (ledger.logs.entries.filter fun entry => selected entry && entry.2.unreported).map
      fun entry => entry.2.report)

/-- The log of the episode of an observation once it is recorded, whether it was open, and the
next sequence number. -/
def recorded (ledger : Ledger τ) (observation : Observation τ) : EpisodeLog τ × Nat :=
  match ledger.logs.get? observation.episodeKey with
  | some log => (log.record observation, ledger.nextSequence)
  | none => (.opened ledger.nextSequence observation, ledger.nextSequence + 1)

variable [LinearOrder τ] [Sub τ]

/-- Whether the latest observation of a log completes the shutdown sequence. -/
def escalates (config : AggregatorConfig τ) (log : EpisodeLog τ) : Bool :=
  correlated config.shutdownWindow log.history.all &&
    !correlated config.shutdownWindow log.history.all.dropLast

/-- Close the episodes that were quiet for the window. -/
def flushExpired (config : AggregatorConfig τ) (nowEpoch : τ) (ledger : Ledger τ) :
    Ledger τ × List (Report τ) :=
  flush (fun entry =>
    !decide (nowEpoch - entry.2.history.last.observedEpoch < config.quietWindow)) ledger

/-- Record an observation, and report its episode when that is due. -/
def observe (config : AggregatorConfig τ) (observation : Observation τ) (ledger : Ledger τ) :
    Ledger τ × List (Report τ) :=
  let flushed := flushExpired config observation.observedEpoch ledger
  let recorded := flushed.1.recorded observation
  if Aggregator.due config observation.observedEpoch recorded.1.reportedEpoch ||
      escalates config recorded.1 then
    (⟨flushed.1.logs.set observation.episodeKey recorded.1.reported, recorded.2⟩,
      flushed.2 ++ [recorded.1.report])
  else (⟨flushed.1.logs.set observation.episodeKey recorded.1, recorded.2⟩, flushed.2)

/-- One call of the aggregator on the ledger. -/
def step (config : AggregatorConfig τ) (ledger : Ledger τ) :
    AggregatorCall τ → Ledger τ × List (Report τ)
  | .observe observation => observe config observation ledger
  | .flushExpired nowEpoch => flushExpired config nowEpoch ledger
  | .flushSource sourceIp sourcePort =>
    flush (fun entry =>
      decide (entry.1.sourceIp = sourceIp ∧ entry.1.sourcePort = sourcePort)) ledger
  | .flushAll => flush (fun _ => true) ledger

/-- The reports that a list of calls leads to, in order. -/
def reports (config : AggregatorConfig τ) (nextSequence : Nat) (calls : List (AggregatorCall τ)) :
    List (Report τ) :=
  (Machine.run (step config) (start nextSequence) calls).2

end Ledger

end DTLab
