import DTLab.Receiver.Semantics
import DTLab.Sensor.Document
import Mathlib.Data.List.Forall2

/-!
# Agreement of sensor and receiver

The receiver recomputes three things that the sensor states in a document: the set of function
codes, the shutdown verdict and the declared truth. For each of them, every event of every run
of an aggregator agrees exactly under a condition on the observations of its episode, and a
run of requests shows that the condition can fail.
-/

namespace DTLab

open Library (Text)

/-! ## A sample plant -/

/-- A stand-in for the hash of a text: the text itself. -/
def sampleHash (text : Text) : String := String.ofList text

/-- The observation settings of the sample plant. -/
def sampleSettings : ObservationConfig where
  destinationIp := "172.16.10.10"
  destinationAssetId := "asset:plc"
  localIps := ["127.0.0.1", "172.16.10.10"]
  authorizedHmiIps := ["172.16.10.20"]
  securityTestIps := ["172.16.10.30"]

/-- The aggregator of the sample plant, for a number of buckets, with times in seconds. -/
def sampleConfig (maxOperationBuckets : Int) : AggregatorConfig Int where
  sensorId := "sensor:plc"
  sensorVersion := "1.0.0"
  bootId := "boot-test"
  emitInterval := 5
  quietWindow := 30
  shutdownWindow := 2
  maxOperationBuckets := maxOperationBuckets

/-- A decoded request that writes one register. -/
def writeRegister (register value : Int) : Request :=
  { functionCode := .int 6, address := .int register, value := some (.int value) }

/-- A decoded request that writes one coil. -/
def writeCoil (coil : Int) (value : Bool) : Request :=
  { functionCode := .int 5, address := .int coil, value := some (.bool value) }

/-- The call that observes a request of the PLC itself at a time, for its outcome. -/
def sampleCall (request : Request) (outcome : String) (epoch : Int) :
    List (AggregatorCall Int) :=
  ((makeObservation sampleHash sampleSettings request ⟨"172.16.10.10", some 41000⟩
    ⟨"0.0.0.0", some 502⟩ outcome "2026-09-01T10:00:00.000000Z" epoch).map .observe).toList

variable {τ : Type}

/-! ## Conditions on the observations of an episode -/

/-- Every observed function code occurs among the kept operations. -/
def CodesKept (maxOperationBuckets : Int) (past : List (Observation τ)) : Prop :=
  ∀ operation ∈ operations past, ∃ kept,
    KeptOperation maxOperationBuckets past kept ∧ kept.functionCode = operation.functionCode

/-- The latest outcome is unknown only when every outcome is. -/
def OutcomesSettled (history : History τ) : Prop :=
  history.last.outcomeState = .unknown →
    ∀ observation ∈ history.all, observation.outcomeState = .unknown

/-- A kept operation with complete values sets a register to zero. -/
def Zeroed (maxOperationBuckets : Int) (past : List (Observation τ)) (register : Int) : Prop :=
  ∃ operation, KeptOperation maxOperationBuckets past operation ∧
    (register, 0) ∈ (operation.bucket 0).registerValues

section

variable [LinearOrder τ] [Sub τ]

/-- The three registers were set to zero, but their last single-register zero writes are
missing or too far apart. -/
def Late (config : AggregatorConfig τ) (past : List (Observation τ)) : Prop :=
  (∀ register ∈ shutdownRegisters, Zeroed config.maxOperationBuckets past register) ∧
    correlated config.shutdownWindow past = false

/-- The last single-register zero writes lie within the window, but for one of the registers
no complete zero write was kept. -/
def Lost (config : AggregatorConfig τ) (past : List (Observation τ)) : Prop :=
  correlated config.shutdownWindow past = true ∧
    ∃ register ∈ shutdownRegisters, ¬Zeroed config.maxOperationBuckets past register

end

/-! ## Function codes -/

/-- The function codes of an event are those of its buckets, as the receiver checks. -/
def CodesAgree (event : HostOtEvent) : Prop :=
  ∀ modbus ∈ event.modbus,
    modbus.functionCodes.toFinset = (modbus.writes.map WriteBucket.functionCode).toFinset ∧
      functionCodeErrors modbus = []

instance : DecidablePred CodesAgree := fun event =>
  inferInstanceAs (Decidable (∀ modbus ∈ event.modbus, _))

/-- The receiver reports no error exactly when the two sets are equal. -/
theorem functionCodeErrors_eq_nil (modbus : ModbusEvidence) :
    functionCodeErrors modbus = [] ↔
      modbus.functionCodes.toFinset = (modbus.writes.map WriteBucket.functionCode).toFinset := by
  unfold functionCodeErrors
  split_ifs with differ
  · simpa using differ
  · simpa using differ

section

variable [LinearOrder τ] [Sub τ] (sha256Text : Text → String) (config : AggregatorConfig τ)

/-- The codes of a document agree exactly when every observed code was kept. -/
theorem codesAgree_document (report : Report τ) :
    CodesAgree (report.document sha256Text config) ↔
      CodesKept config.maxOperationBuckets report.history.all := by
  have sets : (report.modbus sha256Text config).functionCodes.toFinset =
        ((report.modbus sha256Text config).writes.map WriteBucket.functionCode).toFinset ↔
      CodesKept config.maxOperationBuckets report.history.all := by
    rw [Finset.ext_iff]
    simp only [List.mem_toFinset, List.mem_map, report.mem_functionCodes sha256Text config,
      report.mem_writes sha256Text config]
    constructor
    · intro same operation member
      obtain ⟨_, ⟨kept, held, rfl⟩, code⟩ := (same operation.functionCode).mp
        ⟨operation, member, rfl⟩
      exact ⟨kept, held, code⟩
    · intro codes code
      constructor
      · rintro ⟨operation, member, rfl⟩
        obtain ⟨kept, held, same⟩ := codes operation member
        exact ⟨_, ⟨kept, held, rfl⟩, same⟩
      · rintro ⟨_, ⟨kept, held, rfl⟩, rfl⟩
        exact ⟨kept, held.mem, rfl⟩
  simp only [CodesAgree, Report.document_modbus, Option.mem_some_iff, forall_eq',
    functionCodeErrors_eq_nil, and_self, sets]

/-- Each event of a run reports function codes the receiver accepts exactly when every code
observed in its episode so far occurs among the kept operations. -/
theorem codesAgree_iff_codesKept (nextSequence : Nat) (calls : List (AggregatorCall τ)) :
    List.Forall₂ (fun report event =>
        CodesAgree event ↔ CodesKept config.maxOperationBuckets report.history.all)
      (Ledger.reports config nextSequence calls)
      (Aggregator.events sha256Text config nextSequence calls) := by
  rw [events_eq, List.forall₂_map_right_iff, List.forall₂_same]
  exact fun report _ => codesAgree_document sha256Text config report

/-- A register write and a coil write under a bound of one bucket: both function codes are
reported, one of them with a bucket. -/
theorem codes_differ_beyond_bound :
    ¬∀ event ∈ Aggregator.events sampleHash (sampleConfig 1) 0
        (sampleCall (writeRegister 3 1) "processed" 100 ++
          sampleCall (writeCoil 7 true) "processed" 101 ++ [.flushAll]), CodesAgree event := by
  decide

/-! ## Declared truth -/

/-- The three truth checks of the receiver pass. -/
def TruthAgrees (event : HostOtEvent) : Prop :=
  ∀ outcome ∈ event.outcome,
    (event.evidence.truth = .requestObserved →
        outcome.states.processed = 0 ∧ outcome.states.rejected = 0) ∧
      (event.evidence.truth = .serverProcessed → 0 < outcome.states.processed) ∧
      (event.evidence.truth = .serverRejected → 0 < outcome.states.rejected) ∧
      truthErrors event outcome = []

instance : DecidablePred TruthAgrees := fun event =>
  inferInstanceAs (Decidable (∀ outcome ∈ event.outcome, _))

omit [LinearOrder τ] [Sub τ] in
/-- An outcome state is counted exactly when it occurs. -/
theorem outcomeCount_pos {past : List (Observation τ)} {state : OutcomeState} :
    0 < outcomeCount past state ↔ ∃ observation ∈ past, observation.outcomeState = state := by
  simp [outcomeCount, List.countP_pos_iff]

omit [LinearOrder τ] [Sub τ] in
/-- No outcome is processed or rejected exactly when all are unknown. -/
theorem all_unknown_iff (past : List (Observation τ)) :
    outcomeCount past .processed = 0 ∧ outcomeCount past .rejected = 0 ↔
      ∀ observation ∈ past, observation.outcomeState = .unknown := by
  simp only [outcomeCount, List.countP_eq_zero, decide_eq_true_eq]
  constructor
  · rintro ⟨processed, rejected⟩ observation member
    cases state : observation.outcomeState with
    | processed => exact absurd state (processed observation member)
    | rejected => exact absurd state (rejected observation member)
    | unknown => rfl
  · intro unknown
    constructor <;> intro observation member <;> simp [unknown observation member]

/-- The truth of a document passes exactly when an unknown latest outcome follows only unknown
ones. -/
theorem truthAgrees_document (report : Report τ) :
    TruthAgrees (report.document sha256Text config) ↔ OutcomesSettled report.history := by
  have last := report.history.last_mem
  simp only [TruthAgrees, Report.document_outcome, Report.document_truth, Option.mem_some_iff,
    forall_eq', truthErrors, OutcomesSettled, Report.outcome, outcomeStates]
  cases state : report.history.last.outcomeState with
  | processed =>
    have counted : 0 < outcomeCount report.history.all .processed :=
      outcomeCount_pos.mpr ⟨_, last, state⟩
    simp [OutcomeState.truth, counted, counted.ne']
  | rejected =>
    have counted : 0 < outcomeCount report.history.all .rejected :=
      outcomeCount_pos.mpr ⟨_, last, state⟩
    simp [OutcomeState.truth, counted, counted.ne']
  | unknown =>
    rw [← all_unknown_iff]
    by_cases none : outcomeCount report.history.all .processed = 0 ∧
        outcomeCount report.history.all .rejected = 0
    · simp [OutcomeState.truth, none]
    · simp [OutcomeState.truth, none]

/-- Each event of a run passes the receiver's truth checks exactly when its episode has no
processed or rejected outcome before a latest outcome that is unknown. -/
theorem truthAgrees_iff_outcomesSettled (nextSequence : Nat)
    (calls : List (AggregatorCall τ)) :
    List.Forall₂ (fun report event => TruthAgrees event ↔ OutcomesSettled report.history)
      (Ledger.reports config nextSequence calls)
      (Aggregator.events sha256Text config nextSequence calls) := by
  rw [events_eq, List.forall₂_map_right_iff, List.forall₂_same]
  exact fun report _ => truthAgrees_document sha256Text config report

omit [LinearOrder τ] [Sub τ] in
/-- A processed write before one with an unknown outcome is reported as only observed. -/
theorem truth_differs_after_unknown :
    ¬∀ event ∈ Aggregator.events sampleHash (sampleConfig 64) 0
        (sampleCall (writeRegister 3 1) "processed" 100 ++
          sampleCall (writeRegister 3 1) "unknown" 101 ++ [.flushAll]), TruthAgrees event := by
  decide

/-! ## Shutdown verdict -/

/-- The sensor's verdict in a detection. -/
def Detection.IsShutdown (detection : Detection) : Prop :=
  detection.classification = .processShutdownSequence ∧ detection.severity = .critical ∧
    detection.priority = .p1

/-- The receiver's verdict on an event is the sensor's, and the receiver reports no detection
error. -/
def VerdictAgrees (event : HostOtEvent) : Prop :=
  ∀ detection, event.detection = some detection →
    (isShutdownSequence event = true ↔ detection.IsShutdown) ∧
      ∀ parseTime, ∀ error ∈ semanticErrors parseTime event, error.field ∉ detectionFields

omit [LinearOrder τ] [Sub τ] in
/-- The receiver's verdict on a detection that the sensor rendered. -/
theorem detectionErrors_render (event : HostOtEvent) (shutdown : Bool) :
    detectionErrors event (renderDetection shutdown) = [] ↔
      isShutdownSequence event = shutdown := by
  cases received : isShutdownSequence event <;> cases shutdown <;>
    simp [detectionErrors, received, renderDetection, expectedError,
      DetectionClassification.text, Severity.text, Priority.text]

omit [LinearOrder τ] [Sub τ] in
/-- A rendered detection states the verdict it was rendered for. -/
theorem isShutdown_render (shutdown : Bool) :
    (renderDetection shutdown).IsShutdown ↔ shutdown = true := by
  cases shutdown <;> simp [renderDetection, Detection.IsShutdown]

/-- The receiver's verdict on a document is that every register was zeroed. -/
theorem isShutdownSequence_document (report : Report τ) :
    isShutdownSequence (report.document sha256Text config) = true ↔
      ∀ register ∈ shutdownRegisters,
        Zeroed config.maxOperationBuckets report.history.all register := by
  have entries : ∀ register, (register, 0) ∈ registerValues (report.document sha256Text config) ↔
      Zeroed config.maxOperationBuckets report.history.all register := by
    intro register
    simp only [registerValues, Report.document_modbus, List.mem_flatMap,
      report.mem_writes sha256Text config, Zeroed]
    constructor
    · rintro ⟨_, ⟨operation, kept, rfl⟩, inside⟩
      exact ⟨operation, kept, inside⟩
    · rintro ⟨operation, kept, inside⟩
      exact ⟨_, ⟨operation, kept, rfl⟩, inside⟩
  simp only [isShutdownSequence, decide_eq_true_eq, entries]

/-- The verdicts on a document agree exactly when its history is neither late nor lost. -/
theorem verdictAgrees_document (report : Report τ) :
    VerdictAgrees (report.document sha256Text config) ↔
      ¬Late config report.history.all ∧ ¬Lost config report.history.all := by
  have received := isShutdownSequence_document sha256Text config report
  have verdicts : (isShutdownSequence (report.document sha256Text config) =
        correlated config.shutdownWindow report.history.all) ↔
      ¬Late config report.history.all ∧ ¬Lost config report.history.all := by
    rw [Bool.eq_iff_iff, received]
    cases seen : correlated config.shutdownWindow report.history.all <;>
      simp [Late, Lost, seen]
  rw [← verdicts, Bool.eq_iff_iff]
  simp only [VerdictAgrees, Report.document_detection, Option.some.injEq, forall_eq',
    isShutdown_render]
  refine and_iff_left_of_imp fun same parseTime error member named => ?_
  have none := (detectionErrors_render (report.document sha256Text config) _).mpr
    (Bool.eq_iff_iff.mpr same)
  have inside := (semanticErrors_detection (report.document_eventType sha256Text config)
    (report.document_modbus sha256Text config) (report.document_outcome sha256Text config)
    (report.document_detection sha256Text config) named).mp member
  rw [none] at inside
  cases inside

/-- On each event of a run the receiver and the sensor agree about the shutdown sequence exactly
when the history of its episode is neither late nor lost. -/
theorem verdictAgrees_iff_neither (nextSequence : Nat) (calls : List (AggregatorCall τ)) :
    List.Forall₂ (fun report event =>
        VerdictAgrees event ↔
          ¬Late config report.history.all ∧ ¬Lost config report.history.all)
      (Ledger.reports config nextSequence calls)
      (Aggregator.events sha256Text config nextSequence calls) := by
  rw [events_eq, List.forall₂_map_right_iff, List.forall₂_same]
  exact fun report _ => verdictAgrees_document sha256Text config report

end

/-- An event that the receiver takes for a shutdown and the sensor for an ordinary write. -/
def ReceiverAlone (event : HostOtEvent) : Prop :=
  isShutdownSequence event = true ∧
    event.detection.map Detection.classification = some .modbusWrite

instance : DecidablePred ReceiverAlone := fun _ => inferInstanceAs (Decidable (_ ∧ _))

/-- Zero writes to the three registers outside the window: the receiver alone reports a
shutdown. -/
theorem verdicts_differ_outside_window :
    ¬∀ event ∈ Aggregator.events sampleHash (sampleConfig 64) 0
        (sampleCall (writeRegister 3 0) "processed" 100 ++
          sampleCall (writeRegister 4 0) "processed" 103 ++
          sampleCall (writeRegister 16 0) "processed" 104 ++ [.flushAll]),
      VerdictAgrees event := by
  intro agree
  have found : ∃ event ∈ Aggregator.events sampleHash (sampleConfig 64) 0
      (sampleCall (writeRegister 3 0) "processed" 100 ++
        sampleCall (writeRegister 4 0) "processed" 103 ++
        sampleCall (writeRegister 16 0) "processed" 104 ++ [.flushAll]),
      ReceiverAlone event := by
    decide
  obtain ⟨event, member, shutdown, ordinary⟩ := found
  obtain ⟨detection, present, classification⟩ := Option.map_eq_some_iff.mp ordinary
  have stated := ((agree event member detection present).1.mp shutdown).1
  rw [classification] at stated
  cases stated

end DTLab
