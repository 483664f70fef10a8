import DTLab.Sensor.Refinement
import DTLab.Sensor.Reports

/-!
# What the document of a report says

Each part of a document as a function of the observations it reports on: the buckets are those
of the kept operations, the counters count, the verdict is the correlation of the whole
history, and the truth is that of the latest outcome.
-/

namespace DTLab

open Library (Text Dict AmongFirst Tally)

variable {τ : Type}

/-! ## Kept operations -/

/-- Whether an operation is the first of its write key, and the key is kept. -/
def KeptOperation (maxOperationBuckets : Int) (past : List (Observation τ))
    (operation : Operation) : Prop :=
  Kept maxOperationBuckets past operation.writeKey ∧
    (operations past).find? (fun other => decide (other.writeKey = operation.writeKey)) =
      some operation

/-- The kept operations are found by counting keys. -/
instance (maxOperationBuckets : Int) (past : List (Observation τ)) (operation : Operation) :
    Decidable (KeptOperation maxOperationBuckets past operation) :=
  inferInstanceAs (Decidable (_ ∧ _))

/-- How many operations have a write key. -/
def keyCount (past : List (Observation τ)) (key : WriteKey) : Nat :=
  (operations past).countP fun operation => decide (operation.writeKey = key)

/-- A kept operation is one of the operations. -/
theorem KeptOperation.mem {maxOperationBuckets : Int} {past : List (Observation τ)}
    {operation : Operation} (kept : KeptOperation maxOperationBuckets past operation) :
    operation ∈ operations past :=
  List.mem_of_find?_eq_some kept.2

/-- The bucket of a key is that of its kept operation. -/
theorem expected_eq_some {maxOperationBuckets : Int} {past : List (Observation τ)}
    {key : WriteKey} {bucket : WriteBucket} :
    Tally.expected (writeRules maxOperationBuckets) (operations past) key = some bucket ↔
      ∃ operation, KeptOperation maxOperationBuckets past operation ∧
        operation.writeKey = key ∧ bucket = operation.bucket (keyCount past key) := by
  constructor
  · intro found
    obtain ⟨among, operation, first, shown⟩ := Tally.find?_of_expected found
    have same : operation.writeKey = key := by
      have holds := List.find?_some first
      exact of_decide_eq_true holds
    subst same
    exact ⟨operation, ⟨among, first⟩, rfl, shown⟩
  · rintro ⟨operation, ⟨among, first⟩, rfl, rfl⟩
    have among' : AmongFirst (writeRules maxOperationBuckets).bound operation.writeKey
        ((operations past).map (writeRules maxOperationBuckets).key) := among
    rw [Tally.expected, if_pos among', Option.map_eq_some_iff]
    exact ⟨operation, first, rfl⟩

/-- An operation that was kept is kept in a longer history. -/
theorem KeptOperation.extend {maxOperationBuckets : Int} {past later : List (Observation τ)}
    {operation : Operation} (kept : KeptOperation maxOperationBuckets past operation)
    (longer : past <+: later) : KeptOperation maxOperationBuckets later operation := by
  obtain ⟨more, rfl⟩ := longer
  obtain ⟨among, first⟩ := kept
  refine ⟨?_, ?_⟩
  · rw [Kept, operations, List.map_append, List.map_append]
    exact (AmongFirst.append_of_mem among.1 _).mpr among
  · rw [operations, List.map_append, List.find?_append]
    exact Option.or_eq_some_iff.mpr (Or.inl first)

/-- The count of a key does not fall when the history grows. -/
theorem keyCount_le {past later : List (Observation τ)} (longer : past <+: later)
    (key : WriteKey) : keyCount past key ≤ keyCount later key := by
  obtain ⟨more, rfl⟩ := longer
  simp [keyCount, operations, List.countP_append]

variable [LinearOrder τ] [Sub τ] (sha256Text : Text → String) (config : AggregatorConfig τ)

/-! ## The parts of a document -/

namespace Report

/-- The `modbus` part of a document. -/
def modbus (report : Report τ) : ModbusEvidence where
  operation := "write"
  functionCodes := sortedCodes
    (report.history.episode sha256Text config report.sequence).functionCodes
  writes := sortWrites (report.history.episode sha256Text config report.sequence).writes.values
  requestCount := (report.history.episode sha256Text config report.sequence).requestCount
  droppedOperationBuckets :=
    (report.history.episode sha256Text config report.sequence).droppedOperationBuckets

/-- The `outcome` part of a document. -/
def outcome (report : Report τ) : Outcome where
  states := outcomeStates report.history.all
  lastState := report.history.last.outcomeState

variable (report : Report τ)

/-- A report has evidence of writes. -/
@[simp] theorem document_modbus :
    (report.document sha256Text config).modbus = some (report.modbus sha256Text config) := rfl

/-- A report is of writes. -/
@[simp] theorem document_eventType :
    (report.document sha256Text config).eventType = .modbusWrite := rfl

/-- Revisions count the reports. -/
@[simp] theorem document_revision :
    (report.document sha256Text config).revision = report.earlier + 1 := rfl

/-- The outcome is that of all observations. -/
@[simp] theorem document_outcome :
    (report.document sha256Text config).outcome = some report.outcome := by
  have states := (report.history.accounts sha256Text config report.sequence).outcomeStates
  have last := (report.history.episode_last sha256Text config report.sequence).2.2
  simp only [document, Episode.document, outcome, states, last]

/-- The detection is that of the correlated writes. -/
@[simp] theorem document_detection :
    (report.document sha256Text config).detection =
      some (renderDetection (correlated config.shutdownWindow report.history.all)) := by
  have shutdown := (report.history.accounts sha256Text config report.sequence).shutdown
  simp only [document, Episode.document, shutdown]

/-- The truth is that of the last observation. -/
@[simp] theorem document_truth :
    (report.document sha256Text config).evidence.truth =
      report.history.last.outcomeState.truth := by
  have last := (report.history.episode_last sha256Text config report.sequence).2.2
  simp only [document, Episode.document, last]

/-- The last time is that of the last observation. -/
@[simp] theorem document_lastObservedAt :
    (report.document sha256Text config).lastObservedAt = report.history.last.observedAt :=
  (report.history.episode_last sha256Text config report.sequence).1

/-- What a document takes from the first observation of the episode. -/
theorem document_identity :
    (report.document sha256Text config).episodeId =
        episodeId sha256Text config.sensorId config.bootId report.sequence ∧
      (report.document sha256Text config).episodeSequence = report.sequence ∧
      (report.document sha256Text config).firstObservedAt = report.history.first.observedAt ∧
      (report.document sha256Text config).source = report.history.first.source ∧
      (report.document sha256Text config).destination =
        some report.history.first.destination := by
  obtain ⟨id, sequence, first, source, destination⟩ :=
    foldl_updateEpisode_identity config report.history.all
      (newEpisode sha256Text config report.sequence report.history.first)
  exact ⟨id, sequence, first, source, congrArg some destination⟩

/-- The sequence is that of the episode. -/
@[simp] theorem document_episodeSequence :
    (report.document sha256Text config).episodeSequence = report.sequence :=
  (report.document_identity sha256Text config).2.1

/-- The first time is that of the first observation. -/
@[simp] theorem document_firstObservedAt :
    (report.document sha256Text config).firstObservedAt = report.history.first.observedAt :=
  (report.document_identity sha256Text config).2.2.1

/-- The requests are counted by observations. -/
@[simp] theorem modbus_requestCount :
    (report.modbus sha256Text config).requestCount = report.size :=
  (report.history.accounts sha256Text config report.sequence).requestCount

/-- The function codes of a document are those of all observations. -/
theorem mem_functionCodes (code : FunctionCode) :
    code ∈ (report.modbus sha256Text config).functionCodes ↔
      ∃ operation ∈ operations report.history.all, operation.functionCode = code := by
  have codes := (report.history.accounts sha256Text config report.sequence).functionCodes
  simp [modbus, codes]

/-- The buckets of a document are those of the kept operations, with their counts. -/
theorem mem_writes (bucket : WriteBucket) :
    bucket ∈ (report.modbus sha256Text config).writes ↔
      ∃ operation, KeptOperation config.maxOperationBuckets report.history.all operation ∧
        bucket = operation.bucket (keyCount report.history.all operation.writeKey) := by
  have tally := (report.history.accounts sha256Text config report.sequence).tally
  simp only [modbus, (sortWrites_perm _).mem_iff, Dict.values, List.mem_map, Prod.exists,
    exists_eq_right]
  constructor
  · rintro ⟨key, entry⟩
    have found := (tally.get?_eq key).symm.trans (Dict.get?_eq_some.mpr entry)
    obtain ⟨operation, kept, rfl, shown⟩ := expected_eq_some.mp found
    exact ⟨operation, kept, shown⟩
  · rintro ⟨operation, kept, rfl⟩
    have found := expected_eq_some.mpr ⟨operation, kept, rfl, rfl⟩
    exact ⟨operation.writeKey, Dict.get?_eq_some.mp ((tally.get?_eq _).trans found)⟩

end Report

end DTLab
