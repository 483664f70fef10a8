import DTLab.Library.JsonLoads
import Mathlib.Data.Finset.Sort
import Mathlib.Order.Lattice

/-!
# The host OT event document

The document that the endpoint sensor emits and the site receiver validates: one value of
`HostOtEvent` for each document of schema `dtlab-host-ot-event-v1`, with the enumerations of
the schema as types. The ranges and lengths of the schema are no part of the type; the
receiver checks them. `HostOtEvent.toJson` is the document as JSON.
-/

namespace DTLab

open Library (Json)

/-- `WRITE_FUNCTION_CODES`. -/
inductive FunctionCode where
  | writeSingleCoil
  | writeSingleRegister
  | writeMultipleCoils
  | writeMultipleRegisters
  | maskWriteRegister
  | readWriteMultipleRegisters
  deriving DecidableEq

namespace FunctionCode

/-- The Modbus number of a function code. -/
def number : FunctionCode → Int
  | writeSingleCoil => 5
  | writeSingleRegister => 6
  | writeMultipleCoils => 15
  | writeMultipleRegisters => 16
  | maskWriteRegister => 22
  | readWriteMultipleRegisters => 23

/-- The write function code of a number. -/
def ofNumber (n : Int) : Option FunctionCode :=
  if n = 5 then some writeSingleCoil
  else if n = 6 then some writeSingleRegister
  else if n = 15 then some writeMultipleCoils
  else if n = 16 then some writeMultipleRegisters
  else if n = 22 then some maskWriteRegister
  else if n = 23 then some readWriteMultipleRegisters
  else none

/-- Function codes differ in their numbers. -/
theorem number_injective : Function.Injective number := by
  intro left right same
  cases left <;> cases right <;> first | rfl | exact absurd same (by decide)

/-- Function codes are ordered by their numbers. -/
instance : LinearOrder FunctionCode := LinearOrder.lift' number number_injective

end FunctionCode

/-- `source.classification`. -/
inductive SourceClassification where
  | plcSelf
  | authorizedHmi
  | securityTest
  | unknown
  deriving DecidableEq

/-- `outcome.last_state`. -/
inductive OutcomeState where
  | processed
  | rejected
  | unknown
  deriving DecidableEq

/-- `evidence.truth`. -/
inductive EvidenceTruth where
  | requestObserved
  | serverProcessed
  | serverRejected
  | heartbeat
  deriving DecidableEq

/-- `event_type`. -/
inductive EventType where
  | modbusWrite
  | heartbeat
  deriving DecidableEq

/-- `detection.classification`. -/
inductive DetectionClassification where
  | modbusWrite
  | processShutdownSequence
  deriving DecidableEq

/-- `detection.severity`. -/
inductive Severity where
  | high
  | critical
  deriving DecidableEq

/-- `detection.priority`. -/
inductive Priority where
  | p1
  | p2
  deriving DecidableEq

/-- `sensor`. -/
structure SensorIdentity where
  id : String
  version : String
  captureKind : String
  deriving DecidableEq

/-- `source`. -/
structure Source where
  ip : String
  port : Option Int
  classification : SourceClassification
  deriving DecidableEq

/-- `destination`. -/
structure Destination where
  assetId : String
  ip : String
  port : Int
  unitId : Int
  deriving DecidableEq

/-- One element of `modbus.writes`. -/
structure WriteBucket where
  functionCode : FunctionCode
  address : Int
  quantity : Int
  values : List Int
  valuesSha256 : String
  valuesTruncated : Bool
  count : Nat
  deriving DecidableEq

/-- `modbus`. -/
structure ModbusEvidence where
  operation : String
  functionCodes : List FunctionCode
  writes : List WriteBucket
  requestCount : Nat
  droppedOperationBuckets : Nat
  deriving DecidableEq

/-- `outcome.states`. -/
structure OutcomeStates where
  processed : Nat
  rejected : Nat
  unknown : Nat
  deriving DecidableEq

/-- `outcome`. -/
structure Outcome where
  states : OutcomeStates
  lastState : OutcomeState
  deriving DecidableEq

/-- `detection`. -/
structure Detection where
  ruleId : String
  classification : DetectionClassification
  severity : Severity
  priority : Priority
  policyDecision : String
  reason : String
  deriving DecidableEq

/-- `evidence`. -/
structure Evidence where
  truth : EvidenceTruth
  sourceId : String
  sourceRecordId : String
  notes : List String
  deriving DecidableEq

/-- `process`: what a process-level source would know. -/
structure ProcessIdentity where
  pid : Option Int
  executable : Option String
  script : Option String
  deriving DecidableEq

/-- A document of the schema, for either event type. -/
structure HostOtEvent where
  schemaVersion : String
  eventType : EventType
  eventId : String
  episodeId : String
  revision : Nat
  episodeSequence : Nat
  bootId : String
  firstObservedAt : String
  lastObservedAt : String
  timestampBasis : String
  sensor : SensorIdentity
  source : Source
  destination : Option Destination
  modbus : Option ModbusEvidence
  outcome : Option Outcome
  detection : Option Detection
  evidence : Evidence
  process : Option ProcessIdentity
  deriving DecidableEq

/-! ## The document as JSON -/

/-- The name of a source classification. -/
def SourceClassification.text : SourceClassification → String
  | plcSelf => "plc_self"
  | authorizedHmi => "authorized_hmi"
  | securityTest => "security_test"
  | unknown => "unknown"

/-- The name of an outcome state. -/
def OutcomeState.text : OutcomeState → String
  | processed => "processed"
  | rejected => "rejected"
  | unknown => "unknown"

/-- The name of an evidence truth. -/
def EvidenceTruth.text : EvidenceTruth → String
  | requestObserved => "endpoint_request_observed"
  | serverProcessed => "endpoint_server_processed"
  | serverRejected => "endpoint_server_rejected"
  | heartbeat => "endpoint_heartbeat"

/-- The name of an event type. -/
def EventType.text : EventType → String
  | modbusWrite => "modbus_write"
  | heartbeat => "heartbeat"

/-- The name of a detection classification. -/
def DetectionClassification.text : DetectionClassification → String
  | modbusWrite => "modbus_write"
  | processShutdownSequence => "process_shutdown_sequence"

/-- The name of a severity. -/
def Severity.text : Severity → String
  | high => "high"
  | critical => "critical"

/-- The name of a priority. -/
def Priority.text : Priority → String
  | p1 => "p1"
  | p2 => "p2"

/-- An optional value, `null` when it is absent. -/
def nullable {α : Type} (render : α → Json) : Option α → Json
  | none => .null
  | some value => render value

/-- The absent value is `null`. -/
@[simp] theorem nullable_none {α : Type} (render : α → Json) : nullable render none = .null := rfl

/-- A present value is rendered. -/
@[simp] theorem nullable_some {α : Type} (render : α → Json) (value : α) :
    nullable render (some value) = render value := rfl

/-- The identity of a sensor as JSON. -/
def SensorIdentity.toJson (sensor : SensorIdentity) : Json :=
  .obj [("capture_kind", .str sensor.captureKind), ("id", .str sensor.id),
    ("version", .str sensor.version)]

/-- The source of the writes as JSON. -/
def Source.toJson (source : Source) : Json :=
  .obj [("classification", .str source.classification.text), ("ip", .str source.ip),
    ("port", nullable .int source.port)]

/-- The destination of the writes as JSON. -/
def Destination.toJson (destination : Destination) : Json :=
  .obj [("asset_id", .str destination.assetId), ("ip", .str destination.ip),
    ("port", .int destination.port), ("unit_id", .int destination.unitId)]

/-- A bucket of writes as JSON. -/
def WriteBucket.toJson (bucket : WriteBucket) : Json :=
  .obj [("address", .int bucket.address), ("count", .int bucket.count),
    ("function_code", .int bucket.functionCode.number), ("quantity", .int bucket.quantity),
    ("values", .arr (bucket.values.map .int)), ("values_sha256", .str bucket.valuesSha256),
    ("values_truncated", .bool bucket.valuesTruncated)]

/-- The evidence of the protocol as JSON. -/
def ModbusEvidence.toJson (modbus : ModbusEvidence) : Json :=
  .obj [("dropped_operation_buckets", .int modbus.droppedOperationBuckets),
    ("function_codes", .arr (modbus.functionCodes.map fun code => .int code.number)),
    ("operation", .str modbus.operation), ("request_count", .int modbus.requestCount),
    ("writes", .arr (modbus.writes.map WriteBucket.toJson))]

/-- The outcome counts as JSON. -/
def OutcomeStates.toJson (states : OutcomeStates) : Json :=
  .obj [("processed", .int states.processed), ("rejected", .int states.rejected),
    ("unknown", .int states.unknown)]

/-- The outcome as JSON. -/
def Outcome.toJson (outcome : Outcome) : Json :=
  .obj [("last_state", .str outcome.lastState.text), ("states", outcome.states.toJson)]

/-- The detection as JSON. -/
def Detection.toJson (detection : Detection) : Json :=
  .obj [("classification", .str detection.classification.text),
    ("policy_decision", .str detection.policyDecision),
    ("priority", .str detection.priority.text), ("reason", .str detection.reason),
    ("rule_id", .str detection.ruleId), ("severity", .str detection.severity.text)]

/-- The evidence as JSON. -/
def Evidence.toJson (evidence : Evidence) : Json :=
  .obj [("notes", .arr (evidence.notes.map .str)), ("source_id", .str evidence.sourceId),
    ("source_record_id", .str evidence.sourceRecordId), ("truth", .str evidence.truth.text)]

/-- The identity of the process as JSON. -/
def ProcessIdentity.toJson (process : ProcessIdentity) : Json :=
  .obj [("executable", nullable .str process.executable), ("pid", nullable .int process.pid),
    ("script", nullable .str process.script)]

/-- The document of an event. -/
def HostOtEvent.toJson (event : HostOtEvent) : Json :=
  .obj [("boot_id", .str event.bootId),
    ("destination", nullable Destination.toJson event.destination),
    ("detection", nullable Detection.toJson event.detection),
    ("episode_id", .str event.episodeId), ("episode_sequence", .int event.episodeSequence),
    ("event_id", .str event.eventId), ("event_type", .str event.eventType.text),
    ("evidence", event.evidence.toJson), ("first_observed_at", .str event.firstObservedAt),
    ("last_observed_at", .str event.lastObservedAt),
    ("modbus", nullable ModbusEvidence.toJson event.modbus),
    ("outcome", nullable Outcome.toJson event.outcome),
    ("process", nullable ProcessIdentity.toJson event.process),
    ("revision", .int event.revision), ("schema_version", .str event.schemaVersion),
    ("sensor", event.sensor.toJson), ("source", event.source.toJson),
    ("timestamp_basis", .str event.timestampBasis)]

end DTLab
