import DTLab.Receiver.Document
import Mathlib.Algebra.BigOperators.Ring.Finset

/-!
# Typed events and documents

The receiver reads documents of any shape. On the document of a typed event its checks are those
of the typed model: the same registers, the same verdict, the same errors in the same order, and
the schema accepts exactly the shaped events.
-/

namespace DTLab

open Library (Json FloatLiteral SchemaDialect)

variable (platform : ReceiverPlatform)

/-! ## Members of an event's document -/

/-- The member at no path is the document. -/
@[simp] theorem memberAt_nil (document : Json) : memberAt [] document = some document := rfl

/-- The member at a path is one of the member at its first key. -/
@[simp] theorem memberAt_cons (key : String) (path : List String) (document : Json) :
    memberAt (key :: path) document = (document.get key).bind (memberAt path) := rfl

/-- A member of an optional part. -/
theorem get_nullable {α : Type} (render : α → Json) (key : String) (value : Option α) :
    (nullable render value).get key = value.bind fun present => (render present).get key := by
  cases value <;> rfl

/-- The members of the source of an event's document. -/
theorem source_toJson (event : HostOtEvent) :
    textAt ["source", "ip"] event.toJson = event.source.ip ∧
      textAt ["source", "classification"] event.toJson = event.source.classification.text ∧
      memberAt ["source", "port"] event.toJson =
        some (nullable Json.int (event.source.port.map fun port => (port : Int))) := by
  simp [textAt, HostOtEvent.toJson, Source.toJson, Json.get_obj, List.lookup_cons]

/-- The members of the destination of an event's document. -/
theorem destination_toJson {event : HostOtEvent} {destination : Destination}
    (hasDestination : event.destination = some destination) :
    textAt ["destination", "ip"] event.toJson = destination.ip ∧
      memberAt ["destination", "unit_id"] event.toJson = some (.int destination.unitId) := by
  simp [textAt, HostOtEvent.toJson, Destination.toJson, nullable, hasDestination, Json.get_obj,
    List.lookup_cons]

/-- The function codes of an event's document. -/
theorem functionCodes_toJson {event : HostOtEvent} {modbus : ModbusEvidence}
    (hasModbus : event.modbus = some modbus) :
    itemsAt ["modbus", "function_codes"] event.toJson =
      modbus.functionCodes.map fun code => .int code.number := by
  simp [itemsAt, HostOtEvent.toJson, ModbusEvidence.toJson, nullable, hasModbus, Json.get_obj,
    List.lookup_cons]

/-- The truth of an event's document. -/
theorem truth_toJson (event : HostOtEvent) :
    textAt ["evidence", "truth"] event.toJson = event.evidence.truth.text := by
  simp [textAt, HostOtEvent.toJson, Evidence.toJson, Json.get_obj, List.lookup_cons]

/-- A number that is written as an integer. -/
theorem wholeNumber_int (n : Int) : wholeNumber platform (some (.int n)) = n := by
  have number : (some (Json.int n)).bind (Json.number platform.dialect) = some (n : ℚ) := rfl
  rw [wholeNumber, number, Option.getD_some]
  exact Rat.floor_intCast n

/-! ## Registers -/

/-- The registers of a bucket's document. -/
theorem bucketRegisters_toJson (bucket : WriteBucket) :
    bucketRegisters bucket.toJson = bucket.registerValues := by
  have address : bucket.toJson.get "address" = some (.int bucket.address) := by
    simp [WriteBucket.toJson, Json.get_obj]
  have values : bucket.toJson.get "values" = some (.arr (bucket.values.map .int)) := by
    simp [WriteBucket.toJson, Json.get_obj, List.lookup_cons]
  have truncated : bucket.toJson.get "values_truncated" = some (.bool bucket.valuesTruncated) := by
    simp [WriteBucket.toJson, Json.get_obj, List.lookup_cons]
  rw [bucketRegisters, WriteBucket.registerValues, address, values, truncated]
  simp only [isTrue, instanceInt, Json.items_arr, List.zipIdx_map, List.filterMap_map]
  congr 1
  rw [← List.filterMap_eq_map]
  rfl

/-- The writes of an event's document. -/
theorem writes_toJson (event : HostOtEvent) : itemsAt ["modbus", "writes"] event.toJson =
    ((event.modbus.map ModbusEvidence.writes).getD []).map WriteBucket.toJson := by
  have member : event.toJson.get "modbus" = some (nullable ModbusEvidence.toJson event.modbus) := by
    simp [HostOtEvent.toJson, Json.get_obj, List.lookup_cons]
  rw [itemsAt, memberAt_cons, member, Option.bind_some, memberAt_cons, get_nullable]
  cases event.modbus with
  | none => rfl
  | some modbus => simp [ModbusEvidence.toJson, Json.get_obj, List.lookup_cons]

/-- The registers of the document of an event. -/
theorem documentRegisters_toJson (event : HostOtEvent) :
    documentRegisters event.toJson = registerValues event := by
  rw [documentRegisters, writes_toJson, registerValues, List.flatMap_map]
  have same : (fun bucket : WriteBucket => bucketRegisters bucket.toJson) =
      WriteBucket.registerValues := funext bucketRegisters_toJson
  rw [same]
  cases event.modbus <;> rfl

/-- The verdict on the document of an event. -/
theorem isShutdownDocument_toJson (event : HostOtEvent) :
    isShutdownDocument event.toJson = isShutdownSequence event := by
  rw [isShutdownDocument, isShutdownSequence, documentRegisters_toJson, decide_eq_decide]
  simp only [List.contains_iff_mem]

/-! ## Errors -/

/-- The ids of the document of an event. -/
theorem documentIdentityErrors_toJson (event : HostOtEvent) :
    documentIdentityErrors event.toJson = identityErrors event := by
  simp [documentIdentityErrors, identityErrors, textAt, HostOtEvent.toJson, Evidence.toJson,
    Json.get_obj, List.lookup_cons]

/-- The two times of the document of an event. -/
theorem documentTimes_toJson (event : HostOtEvent) :
    textAt ["first_observed_at"] event.toJson = event.firstObservedAt ∧
      textAt ["last_observed_at"] event.toJson = event.lastObservedAt := by
  constructor <;> simp [textAt, HostOtEvent.toJson, Json.get_obj, List.lookup_cons]

/-- The order of the times of the document of an event. -/
theorem documentTimeErrors_toJson (event : HostOtEvent) :
    documentTimeErrors platform event.toJson = timeErrors platform.parseTime event := by
  obtain ⟨first, last⟩ := documentTimes_toJson event
  rw [documentTimeErrors, first, last]
  rfl

/-- A time of the document of an event overflows exactly when it does in the event. -/
theorem documentTimesOverflow_toJson (event : HostOtEvent) :
    DocumentTimesOverflow platform event.toJson ↔ TimesOverflow platform.parseTime event := by
  obtain ⟨first, last⟩ := documentTimes_toJson event
  rw [DocumentTimesOverflow, first, last, TimesOverflow]

/-- The numbers of integers, as a set. -/
theorem numberSet_int (values : List Int) : numberSet platform (values.map .int) =
    values.toFinset.image (Int.cast : ℤ → ℚ) := by
  have numbers : (values.map Json.int).filterMap (Json.number platform.dialect) =
      values.map (Int.cast : ℤ → ℚ) := by
    rw [List.filterMap_map, ← List.filterMap_eq_map]
    rfl
  rw [numberSet, numbers]
  ext number
  simp

/-- The numbers of function codes are as many as the codes. -/
theorem numberSet_codes (left right : List FunctionCode) :
    numberSet platform (left.map fun code => .int code.number) =
        numberSet platform (right.map fun code => .int code.number) ↔
      left.toFinset = right.toFinset := by
  have each (codes : List FunctionCode) :
      numberSet platform (codes.map fun code => .int code.number) =
        codes.toFinset.image fun code => (code.number : ℚ) := by
    have split : (codes.map fun code => Json.int code.number) =
        (codes.map FunctionCode.number).map .int := (List.map_map).symm
    rw [split, numberSet_int]
    ext number
    simp
  have injective : Function.Injective fun code : FunctionCode => (code.number : ℚ) :=
    fun _ _ same => FunctionCode.number_injective (Int.cast_injective same)
  rw [each, each, (Finset.image_injective injective).eq_iff]

/-- The counters of an event with the parts of a write. -/
theorem documentCountErrors_toJson {event : HostOtEvent} {modbus : ModbusEvidence}
    {outcome : Outcome} (hasModbus : event.modbus = some modbus)
    (hasOutcome : event.outcome = some outcome) :
    documentCountErrors platform event.toJson =
      functionCodeErrors modbus ++ requestCountErrors modbus ++ outcomeErrors modbus outcome := by
  have member : event.toJson.get "modbus" = some modbus.toJson := by
    simp [HostOtEvent.toJson, Json.get_obj, List.lookup_cons, hasModbus]
  have outcomes : event.toJson.get "outcome" = some outcome.toJson := by
    simp [HostOtEvent.toJson, Json.get_obj, List.lookup_cons, hasOutcome]
  have writes := writes_toJson event
  rw [hasModbus, Option.map_some, Option.getD_some] at writes
  have requests : wholeNumber platform (memberAt ["modbus", "request_count"] event.toJson) =
      modbus.requestCount := by
    rw [← wholeNumber_int platform modbus.requestCount]
    simp [member, ModbusEvidence.toJson, Json.get_obj, List.lookup_cons]
  have dropped : wholeNumber platform
      (memberAt ["modbus", "dropped_operation_buckets"] event.toJson) =
        modbus.droppedOperationBuckets := by
    rw [← wholeNumber_int platform modbus.droppedOperationBuckets]
    simp [member, ModbusEvidence.toJson, Json.get_obj]
  have counted : ((modbus.writes.map WriteBucket.toJson).map fun bucket =>
      wholeNumber platform (bucket.get "count")).sum =
        ((modbus.writes.map WriteBucket.count).sum : ℕ) := by
    have each : (fun bucket : Json => wholeNumber platform (bucket.get "count")) ∘
        WriteBucket.toJson = fun bucket => (bucket.count : ℤ) := by
      funext bucket
      rw [← wholeNumber_int platform bucket.count]
      simp [WriteBucket.toJson, Json.get_obj, List.lookup_cons]
    rw [List.map_map, each, Nat.cast_list_sum, List.map_map]
    rfl
  have codes := functionCodes_toJson hasModbus
  have observed : (modbus.writes.map WriteBucket.toJson).filterMap
      (fun bucket => bucket.get "function_code") =
        (modbus.writes.map WriteBucket.functionCode).map fun code => .int code.number := by
    rw [List.filterMap_map, List.map_map, ← List.filterMap_eq_map]
    rfl
  have states : (["processed", "rejected", "unknown"].map fun state =>
      wholeNumber platform (memberAt ["outcome", "states", state] event.toJson)).sum =
        (outcome.states.processed + outcome.states.rejected + outcome.states.unknown : ℕ) := by
    have each (n : Nat) : wholeNumber platform (some (.int n)) = n := wholeNumber_int platform n
    simp [outcomes, Outcome.toJson, OutcomeStates.toJson, Json.get_obj, List.lookup_cons, each]
    omega
  simp only [documentCountErrors, writes, requests, dropped, counted, codes, observed, states,
    ne_eq, numberSet_codes, functionCodeErrors, requestCountErrors, outcomeErrors]
  norm_cast

/-- The detection of the document of an event. -/
theorem documentDetectionErrors_toJson {event : HostOtEvent} {detection : Detection}
    (hasDetection : event.detection = some detection) :
    documentDetectionErrors event.toJson = detectionErrors event detection := by
  have member : event.toJson.get "detection" = some detection.toJson := by
    simp [HostOtEvent.toJson, Json.get_obj, List.lookup_cons, hasDetection]
  simp [documentDetectionErrors, detectionErrors, isShutdownDocument_toJson, textAt, member,
    Detection.toJson, Json.get_obj, List.lookup_cons]

/-- The declared truth of the document of an event. -/
theorem documentTruthErrors_toJson {event : HostOtEvent} {outcome : Outcome}
    (hasOutcome : event.outcome = some outcome) :
    documentTruthErrors platform event.toJson = truthErrors event outcome := by
  have outcomes : event.toJson.get "outcome" = some outcome.toJson := by
    simp [HostOtEvent.toJson, Json.get_obj, List.lookup_cons, hasOutcome]
  have truth := truth_toJson event
  have each (n : Nat) : wholeNumber platform (some (.int n)) = n := wholeNumber_int platform n
  cases declared : event.evidence.truth <;>
    simp [documentTruthErrors, truthErrors, truth, declared, EvidenceTruth.text, outcomes,
      Outcome.toJson, OutcomeStates.toJson, Json.get_obj, List.lookup_cons, each]

/-- An event has the parts of a write as a document exactly where it has them. -/
theorem hasWriteParts_toJson (event : HostOtEvent) : hasWriteParts event.toJson =
    (event.modbus.isSome && event.outcome.isSome && event.detection.isSome) := by
  cases modbus : event.modbus <;> cases outcome : event.outcome <;>
    cases detection : event.detection <;>
    simp [hasWriteParts, HostOtEvent.toJson, Json.get_obj, List.lookup_cons, modbus, outcome,
      detection, ModbusEvidence.toJson, Outcome.toJson, Detection.toJson, Json.isObject]

/-- The receiver finds the same errors in the document of an event as in the event. -/
theorem documentSemanticErrors_toJson (event : HostOtEvent) :
    documentSemanticErrors platform event.toJson = semanticErrors platform.parseTime event := by
  have type : textAt ["event_type"] event.toJson = event.eventType.text := by
    simp [textAt, HostOtEvent.toJson, Json.get_obj, List.lookup_cons]
  rw [documentSemanticErrors, semanticErrors, documentIdentityErrors_toJson,
    documentTimeErrors_toJson, type, hasWriteParts_toJson]
  congr 1
  cases kind : event.eventType with
  | heartbeat => simp [EventType.text]
  | modbusWrite =>
    cases modbus : event.modbus with
    | none => simp
    | some writes =>
      cases outcome : event.outcome with
      | none => simp
      | some states =>
        cases detection : event.detection with
        | none => simp
        | some verdict =>
          simp [EventType.text, documentCountErrors_toJson platform modbus outcome,
            documentDetectionErrors_toJson detection, documentTruthErrors_toJson platform outcome]

/-! ## Validation -/

/-- The receiver validates the document of an event exactly when it is shaped, small enough to be
sent, with times inside the calendar, without errors of meaning and without credential material. -/
theorem validated_toJson_iff (event : HostOtEvent) : Validated platform event.toJson ↔
    event.toJson.IntegersBelow (10 ^ maxIntegerDigits) ∧
      event.documentBytes ≤ maxHostOtEventBytes ∧ event.Shaped platform.dialect ∧
      ¬ TimesOverflow platform.parseTime event ∧
      semanticErrors platform.parseTime event = [] ∧ Clear event.toJson := by
  constructor
  · intro valid
    have inside := mt (documentTimesOverflow_toJson platform event).mpr valid.inside
    exact ⟨valid.serialisable, valid.within, (accepts_event platform.dialect event).mp valid.schema,
      inside, (documentSemanticErrors_toJson platform event) ▸ valid.meaningful, valid.clear⟩
  · rintro ⟨serialisable, within, shaped, inside, meaningful, clear⟩
    exact ⟨rfl, serialisable, within, (accepts_event platform.dialect event).mpr shaped,
      mt (documentTimesOverflow_toJson platform event).mp inside,
      (documentSemanticErrors_toJson platform event).trans meaningful, clear⟩

/-! ## Credential material -/

instance (text : String) : Decidable (ClearText text) := inferInstanceAs (Decidable (_ ∧ _))

/-- The texts of an event that are not names of the contract, in the order of its document. -/
def HostOtEvent.texts (event : HostOtEvent) : List String :=
  [event.bootId] ++
    event.destination.toList.flatMap (fun destination => [destination.assetId, destination.ip]) ++
    event.detection.toList.flatMap (fun detection =>
      [detection.policyDecision, detection.reason, detection.ruleId]) ++
    [event.episodeId, event.eventId] ++ event.evidence.notes ++
    [event.evidence.sourceId, event.evidence.sourceRecordId, event.firstObservedAt,
      event.lastObservedAt] ++
    event.modbus.toList.flatMap (fun modbus =>
      modbus.operation :: modbus.writes.map WriteBucket.valuesSha256) ++
    event.process.toList.flatMap (fun process =>
      process.executable.toList ++ process.script.toList) ++
    [event.schemaVersion, event.sensor.captureKind, event.sensor.id, event.sensor.version,
      event.source.ip, event.timestampBasis]

/-- The keys of the parts of an event. -/
def eventKeys : List String :=
  ["boot_id", "destination", "detection", "episode_id", "episode_sequence", "event_id",
    "event_type", "evidence", "first_observed_at", "last_observed_at", "modbus", "outcome",
    "process", "revision", "schema_version", "sensor", "source", "timestamp_basis",
    "capture_kind", "id", "version", "classification", "ip", "port", "asset_id", "unit_id",
    "address", "count", "function_code", "quantity", "values", "values_sha256",
    "values_truncated", "dropped_operation_buckets", "function_codes", "operation",
    "request_count", "writes", "processed", "rejected", "unknown", "last_state", "states",
    "policy_decision", "priority", "reason", "rule_id", "severity", "notes", "source_id",
    "source_record_id", "truth", "executable", "pid", "script"]

/-- No key of an event has a forbidden name. -/
theorem eventKeys_allowed : ∀ key ∈ eventKeys, forbiddenKey.search key.toList = false := by
  -- the keys as lists of characters, whose comparisons the kernel keeps
  simp only [eventKeys, List.forall_mem_cons, List.not_mem_nil, false_imp_iff, implies_true,
    and_true, String.reduceToList]
  decide

/-- The names of the enumerations of an event. -/
def eventNames : List String :=
  ["plc_self", "authorized_hmi", "security_test", "unknown", "processed", "rejected",
    "endpoint_request_observed", "endpoint_server_processed", "endpoint_server_rejected",
    "endpoint_heartbeat", "modbus_write", "heartbeat", "process_shutdown_sequence", "high",
    "critical", "p1", "p2"]

/-- No name of an enumeration is credential material. -/
theorem eventNames_clear : ∀ name ∈ eventNames, ClearText name := by
  decide

/-- An object whose keys are those of events is clear where its members are. -/
theorem clear_obj {fields : List (String × Json)}
    (keys : ((fields.map Prod.fst).all fun key => decide (key ∈ eventKeys)) = true) :
    Clear (.obj fields) ↔ ∀ field ∈ fields, Clear field.2 := by
  rw [Clear, clearMembers_iff]
  apply forall₂_congr
  intro field member
  apply and_iff_right
  have known := List.all_eq_true.mp keys field.1 (List.mem_map_of_mem member)
  exact eventKeys_allowed field.1 (of_decide_eq_true known)

/-- A text is clear as a document. -/
@[simp] theorem clear_str (text : String) : Clear (.str text) ↔ ClearText text := Iff.rfl

/-- Integers are clear. -/
@[simp] theorem clear_int (number : Int) : Clear (.int number) := trivial

/-- Truth values are clear. -/
@[simp] theorem clear_bool (value : Bool) : Clear (.bool value) := trivial

/-- A list is clear where its items are. -/
@[simp] theorem clear_map {α : Type} (render : α → Json) (values : List α) :
    Clear (.arr (values.map render)) ↔ ∀ value ∈ values, Clear (render value) := by
  rw [Clear, clearItems_iff, List.forall_mem_map]

/-- An optional part is clear where it is. -/
@[simp] theorem clear_nullable {α : Type} (render : α → Json) (value : Option α) :
    Clear (nullable render value) ↔ ∀ present ∈ value, Clear (render present) := by
  cases value <;> simp [Clear]

/-- The names of an event are clear. -/
theorem clear_names (event : HostOtEvent) : ClearText event.eventType.text ∧
    ClearText event.source.classification.text ∧ ClearText event.evidence.truth.text := by
  refine ⟨eventNames_clear _ ?_, eventNames_clear _ ?_, eventNames_clear _ ?_⟩
  · cases event.eventType <;> decide
  · cases event.source.classification <;> decide
  · cases event.evidence.truth <;> decide

/-- A bucket is clear exactly when the hash of its values is. -/
theorem clear_bucket (bucket : WriteBucket) :
    Clear bucket.toJson ↔ ClearText bucket.valuesSha256 := by
  rw [WriteBucket.toJson, clear_obj (by simp only [List.map_cons, List.map_nil]; decide)]
  simp

/-- Outcomes are clear. -/
theorem clear_outcome (outcome : Outcome) : Clear outcome.toJson := by
  have state : ClearText outcome.lastState.text := by
    apply eventNames_clear
    cases outcome.lastState <;> decide
  have states : Clear outcome.states.toJson := by
    rw [OutcomeStates.toJson, clear_obj (by simp only [List.map_cons, List.map_nil]; decide)]
    simp
  rw [Outcome.toJson, clear_obj (by simp only [List.map_cons, List.map_nil]; decide)]
  simp [state, states]

/-- A detection is clear exactly when its three texts are. -/
theorem clear_detection (detection : Detection) : Clear detection.toJson ↔
    ClearText detection.policyDecision ∧ ClearText detection.reason ∧
      ClearText detection.ruleId := by
  have names : ClearText detection.classification.text ∧ ClearText detection.severity.text ∧
      ClearText detection.priority.text := by
    refine ⟨eventNames_clear _ ?_, eventNames_clear _ ?_, eventNames_clear _ ?_⟩
    · cases detection.classification <;> decide
    · cases detection.severity <;> decide
    · cases detection.priority <;> decide
  rw [Detection.toJson, clear_obj (by simp only [List.map_cons, List.map_nil]; decide)]
  simp [names]

/-- An event is free of credential material exactly when its own texts are: no key and no name of
the contract is taken for a credential. -/
theorem clear_toJson_iff (event : HostOtEvent) :
    Clear event.toJson ↔ ∀ text ∈ event.texts, ClearText text := by
  obtain ⟨type, classification, truth⟩ := clear_names event
  have sensor : Clear event.sensor.toJson ↔ ClearText event.sensor.captureKind ∧
      ClearText event.sensor.id ∧ ClearText event.sensor.version := by
    rw [SensorIdentity.toJson, clear_obj (by simp only [List.map_cons, List.map_nil]; decide)]
    simp
  have source : Clear event.source.toJson ↔ ClearText event.source.ip := by
    rw [Source.toJson, clear_obj (by simp only [List.map_cons, List.map_nil]; decide)]
    simp [classification]
  have evidence : Clear event.evidence.toJson ↔
      (∀ note ∈ event.evidence.notes, ClearText note) ∧ ClearText event.evidence.sourceId ∧
        ClearText event.evidence.sourceRecordId := by
    rw [Evidence.toJson, clear_obj (by simp only [List.map_cons, List.map_nil]; decide)]
    simp [truth]
  have destination (destination : Destination) : Clear destination.toJson ↔
      ClearText destination.assetId ∧ ClearText destination.ip := by
    rw [Destination.toJson, clear_obj (by simp only [List.map_cons, List.map_nil]; decide)]
    simp
  have modbus (modbus : ModbusEvidence) : Clear modbus.toJson ↔
      ClearText modbus.operation ∧ ∀ bucket ∈ modbus.writes, ClearText bucket.valuesSha256 := by
    rw [ModbusEvidence.toJson, clear_obj (by simp only [List.map_cons, List.map_nil]; decide)]
    simp [clear_bucket]
  have process (process : ProcessIdentity) : Clear process.toJson ↔
      (∀ path ∈ process.executable, ClearText path) ∧
        ∀ path ∈ process.script, ClearText path := by
    rw [ProcessIdentity.toJson, clear_obj (by simp only [List.map_cons, List.map_nil]; decide)]
    simp
  rw [HostOtEvent.toJson, clear_obj (by simp only [List.map_cons, List.map_nil]; decide)]
  simp only [List.forall_mem_cons, clear_str, clear_int, clear_nullable, sensor, source, evidence,
    destination, modbus, clear_outcome, clear_detection, process, type, HostOtEvent.texts,
    List.forall_mem_append, List.forall_mem_flatMap, Option.mem_toList, List.forall_mem_map,
    Option.mem_def, List.not_mem_nil, false_imp_iff, implies_true, imp_and, forall_and, and_true,
    true_and, and_assoc]

end DTLab
