import DTLab.Library.Dict
import DTLab.Sensor.Observation
import Mathlib.Data.Prod.Lex

/-!
# Episodes of the aggregator

One open episode of `core.EpisodeAggregator`: how an observation updates it
(`_update_episode`, `_update_shutdown_correlation`) and how it is rendered as a document
(`_render`). A document is its value at the moment it is returned, which is when the runtime
serialises it. Clock readings are of any ordered type with a subtraction.
-/

namespace DTLab

open Library (Json Text Dict)

/-- The settings of an `EpisodeAggregator`. -/
structure AggregatorConfig (τ : Type) where
  sensorId : String
  sensorVersion : String
  bootId : String
  emitInterval : τ
  quietWindow : τ
  shutdownWindow : τ
  maxOperationBuckets : Int

/-- `_write_key`. -/
structure WriteKey where
  functionCode : FunctionCode
  address : Int
  quantity : Int
  valuesSha256 : String
  deriving DecidableEq

/-- The key as a tuple in Python's order of tuples. -/
def WriteKey.tuple (key : WriteKey) : FunctionCode ×ₗ Int ×ₗ Int ×ₗ String :=
  toLex (key.functionCode, toLex (key.address, toLex (key.quantity, key.valuesSha256)))

/-- `_write_key` of an operation. -/
def Operation.writeKey (operation : Operation) : WriteKey where
  functionCode := operation.functionCode
  address := operation.address
  quantity := operation.quantity
  valuesSha256 := operation.valuesSha256

/-- The sort key of a bucket in a document. -/
def WriteBucket.writeKey (bucket : WriteBucket) : WriteKey where
  functionCode := bucket.functionCode
  address := bucket.address
  quantity := bucket.quantity
  valuesSha256 := bucket.valuesSha256

/-- A bucket for an operation, with a count. -/
def Operation.bucket (operation : Operation) (count : Nat) : WriteBucket where
  functionCode := operation.functionCode
  address := operation.address
  quantity := operation.quantity
  values := operation.values
  valuesSha256 := operation.valuesSha256
  valuesTruncated := operation.valuesTruncated
  count := count

/-- A bucket has the key of its operation. -/
@[simp] theorem Operation.writeKey_bucket (operation : Operation) (count : Nat) :
    (operation.bucket count).writeKey = operation.writeKey := rfl

/-- A bucket has the count it is built with. -/
@[simp] theorem Operation.count_bucket (operation : Operation) (count : Nat) :
    (operation.bucket count).count = count := rfl

/-- The registers of the shutdown sequence. -/
def shutdownRegisters : Finset Int := {3, 4, 16}

/-- The state of one open episode. -/
structure Episode (τ : Type) where
  episodeId : String
  episodeSequence : Nat
  revision : Nat
  firstObservedAt : String
  lastObservedAt : String
  lastEpoch : τ
  lastEmitEpoch : Option τ
  source : Source
  destination : Destination
  functionCodes : Finset FunctionCode
  writes : Dict WriteKey WriteBucket
  requestCount : Nat
  droppedOperationBuckets : Nat
  outcomeStates : OutcomeStates
  lastOutcomeState : OutcomeState
  shutdownSeen : Dict Int τ
  shutdown : Bool
  dirty : Bool

/-- The id of an episode: the hash of sensor, boot and sequence. -/
def episodeId (sha256Text : Text → String) (sensorId bootId : String) (sequence : Nat) :
    String :=
  "episode:dtlab-host-ot:" ++
    sha256Text (sensorId ++ "|" ++ bootId ++ "|" ++ toString sequence).toList

/-- `_new_episode`, for the sequence number that was allocated. -/
def newEpisode {τ : Type} (sha256Text : Text → String) (config : AggregatorConfig τ)
    (sequence : Nat) (observation : Observation τ) : Episode τ where
  episodeId := episodeId sha256Text config.sensorId config.bootId sequence
  episodeSequence := sequence
  revision := 0
  firstObservedAt := observation.observedAt
  lastObservedAt := observation.observedAt
  lastEpoch := observation.observedEpoch
  lastEmitEpoch := none
  source := observation.source
  destination := observation.destination
  functionCodes := ∅
  writes := .empty
  requestCount := 0
  droppedOperationBuckets := 0
  outcomeStates := ⟨0, 0, 0⟩
  lastOutcomeState := .unknown
  shutdownSeen := .empty
  shutdown := false
  dirty := false

/-- `outcome_states[outcome_state] += 1`. -/
def OutcomeStates.increment (states : OutcomeStates) : OutcomeState → OutcomeStates
  | .processed => { states with processed := states.processed + 1 }
  | .rejected => { states with rejected := states.rejected + 1 }
  | .unknown => { states with unknown := states.unknown + 1 }

/-- Count an operation in its bucket, in a new one while there is room, or as dropped: the
buckets and the number of dropped operations afterwards. -/
def countOperation (maxOperationBuckets : Int) (writes : Dict WriteKey WriteBucket)
    (dropped : Nat) (operation : Operation) : Dict WriteKey WriteBucket × Nat :=
  match writes.get? operation.writeKey with
  | some bucket =>
    (writes.set operation.writeKey { bucket with count := bucket.count + 1 }, dropped)
  | none =>
    if maxOperationBuckets ≤ writes.size then (writes, dropped + 1)
    else (writes.set operation.writeKey (operation.bucket 1), dropped)

variable {τ : Type} [LinearOrder τ] [Sub τ]

/-- Whether the times of the three registers are all known and
`max(timestamps) - min(timestamps) <= window`. -/
def withinWindow (window : τ) (time : Int → Option τ) : Bool :=
  match time 3, time 4, time 16 with
  | some first, some second, some third =>
    decide (max (max first second) third - min (min first second) third ≤ window)
  | _, _, _ => false

/-- Whether an operation is the single-register write of zero that the correlation counts. -/
def Operation.isShutdownWrite (operation : Operation) : Bool :=
  decide (operation.functionCode = .writeSingleRegister ∧ operation.quantity = 1) &&
    decide (operation.values = [0]) && decide (operation.address ∈ shutdownRegisters)

/-- The two fields of an episode that the correlation updates, and what it returns. -/
structure ShutdownCorrelation (τ : Type) where
  shutdownSeen : Dict Int τ
  shutdown : Bool
  escalated : Bool

/-- `_update_shutdown_correlation`. -/
def updateShutdownCorrelation (window : τ) (shutdownSeen : Dict Int τ) (shutdown : Bool)
    (operation : Operation) (nowEpoch : τ) : ShutdownCorrelation τ :=
  if operation.isShutdownWrite then
    let shutdownSeen := shutdownSeen.set operation.address nowEpoch
    if shutdownSeen.keys.toFinset = shutdownRegisters then
      let matched := withinWindow window shutdownSeen.get?
      ⟨shutdownSeen, matched, matched && !shutdown⟩
    else ⟨shutdownSeen, shutdown, false⟩
  else ⟨shutdownSeen, shutdown, false⟩

/-- `_update_episode`: the episode, and whether it now escalates. -/
def updateEpisode (config : AggregatorConfig τ) (episode : Episode τ)
    (observation : Observation τ) : Episode τ × Bool :=
  let operation := observation.operation
  let counted := countOperation config.maxOperationBuckets episode.writes
    episode.droppedOperationBuckets operation
  let correlation := updateShutdownCorrelation config.shutdownWindow episode.shutdownSeen
    episode.shutdown operation observation.observedEpoch
  ({ episode with
      lastObservedAt := observation.observedAt
      lastEpoch := observation.observedEpoch
      requestCount := episode.requestCount + 1
      functionCodes := insert operation.functionCode episode.functionCodes
      outcomeStates := episode.outcomeStates.increment observation.outcomeState
      lastOutcomeState := observation.outcomeState
      writes := counted.1
      droppedOperationBuckets := counted.2
      shutdownSeen := correlation.shutdownSeen
      shutdown := correlation.shutdown
      dirty := true },
    correlation.escalated)

/-! ## Rendering -/

/-- `truth`: what the last outcome says. -/
def OutcomeState.truth : OutcomeState → EvidenceTruth
  | .processed => .serverProcessed
  | .rejected => .serverRejected
  | .unknown => .requestObserved

/-- The detection part of a document. -/
def renderDetection (shutdown : Bool) : Detection where
  ruleId := if shutdown then shutdownRuleId else genericRuleId
  classification := if shutdown then .processShutdownSequence else .modbusWrite
  severity := if shutdown then .critical else .high
  priority := if shutdown then .p1 else .p2
  policyDecision := "alert"
  reason :=
    if shutdown then "FC06 3=0, 4=0 e 16=0 osservati nella finestra di correlazione."
    else "Scrittura Modbus/TCP osservata dal sensore endpoint PLC."

/-- `sorted(function_codes)`: the codes of a set in ascending order. -/
def sortedCodes (codes : Finset FunctionCode) : List FunctionCode :=
  [.writeSingleCoil, .writeSingleRegister, .writeMultipleCoils, .writeMultipleRegisters,
    .maskWriteRegister, .readWriteMultipleRegisters].filter fun code => decide (code ∈ codes)

/-- The codes of a set are all listed. -/
@[simp] theorem mem_sortedCodes (codes : Finset FunctionCode) (code : FunctionCode) :
    code ∈ sortedCodes codes ↔ code ∈ codes := by
  cases code <;> simp [sortedCodes]

/-- No code is listed twice. -/
theorem sortedCodes_nodup (codes : Finset FunctionCode) : (sortedCodes codes).Nodup :=
  List.Nodup.filter _ (by decide)

/-- `writes.sort(key=...)`. -/
def sortWrites (writes : List WriteBucket) : List WriteBucket :=
  writes.insertionSort fun left right => left.writeKey.tuple ≤ right.writeKey.tuple

/-- Sorting keeps the buckets. -/
theorem sortWrites_perm (writes : List WriteBucket) : (sortWrites writes).Perm writes :=
  List.perm_insertionSort _ _

/-- The document of the next revision of an episode. -/
def Episode.document (config : AggregatorConfig τ) (episode : Episode τ) : HostOtEvent where
  schemaVersion := eventSchemaVersion
  eventType := .modbusWrite
  eventId := episode.episodeId
  episodeId := episode.episodeId
  revision := episode.revision + 1
  episodeSequence := episode.episodeSequence
  bootId := config.bootId
  firstObservedAt := episode.firstObservedAt
  lastObservedAt := episode.lastObservedAt
  timestampBasis := "endpoint_utc"
  sensor := { id := config.sensorId, version := config.sensorVersion, captureKind := "server_hook" }
  source := episode.source
  destination := some episode.destination
  modbus := some {
    operation := "write"
    functionCodes := sortedCodes episode.functionCodes
    writes := sortWrites episode.writes.values
    requestCount := episode.requestCount
    droppedOperationBuckets := episode.droppedOperationBuckets }
  outcome := some { states := episode.outcomeStates, lastState := episode.lastOutcomeState }
  detection := some (renderDetection episode.shutdown)
  evidence := {
    truth := episode.lastOutcomeState.truth
    sourceId := sourceId
    sourceRecordId := episode.episodeId
    notes := [
      "Evidenza prodotta dal sensore endpoint PLC, non da Cisco Cyber Vision.",
      "L'indirizzo IP non identifica il processo o l'intento dell'operatore."] }
  process := none

/-- `_render`: the episode after the revision, and its document. -/
def render (config : AggregatorConfig τ) (episode : Episode τ) : Episode τ × HostOtEvent :=
  ({ episode with
      revision := episode.revision + 1, lastEmitEpoch := some episode.lastEpoch, dirty := false },
    episode.document config)

end DTLab
