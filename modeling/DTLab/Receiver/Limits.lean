import DTLab.Library.JsonSize
import DTLab.Receiver.Semantics
import DTLab.Receiver.Shape

/-!
# Size of an event document

What `validate_host_ot_event` checks before the semantics: a document that can be written as
text, within the limit on its bytes and within the schema. Python writes no integer of more than
4300 digits. A shaped event that is compact, as those of the sensor are, keeps the limit.
-/

namespace DTLab

open Library (Json Text SchemaDialect textCost integerText)
open Library.Json (bound boundItems boundMembers IntegersBelow ItemsBelow MembersBelow
  bytes_dumps_le
  length_integerText_le boundItems_le boundMembers_le itemsBelow_iff)

/-- `MAX_HOST_OT_EVENT_BYTES`. -/
def maxHostOtEventBytes : Nat := 512 * 1024

/-- The digits that Python writes of an integer at most. -/
def maxIntegerDigits : Nat := 4300

/-- The bytes of the canonical document with its newline. -/
def HostOtEvent.documentBytes (event : HostOtEvent) : Nat :=
  textCost Char.utf8Size (event.toJson.dumps false ++ ['\n'])

/-- A number that Python can write. -/
def Writable (number : Nat) : Prop := number < 10 ^ maxIntegerDigits

/-- An event whose shape and times the receiver accepts; `other` reads the timestamps that the
sensor does not write. -/
structure ShapeAccepted (dialect : SchemaDialect) (other : Text → ParsedTime)
    (event : HostOtEvent) : Prop where
  serialisable : event.toJson.IntegersBelow (10 ^ maxIntegerDigits)
  within : event.documentBytes ≤ maxHostOtEventBytes
  schema : hostOtEventSchema.accepts dialect event.toJson = true
  converted : ¬ TimesOverflow (parseTime other) event
  ordered : timeErrors (parseTime other) event = []

/-- An event as small as those of the sensor. -/
structure HostOtEvent.Compact (event : HostOtEvent) : Prop where
  writes : ∀ modbus ∈ event.modbus, modbus.writes.length ≤ 64 ∧
    ∀ bucket ∈ modbus.writes, bucket.values.length ≤ 32
  functionCodes : ∀ modbus ∈ event.modbus, modbus.functionCodes.length ≤ 6
  reason : ∀ detection ∈ event.detection, detection.reason.length ≤ 256
  notes : event.evidence.notes.length ≤ 2 ∧ ∀ note ∈ event.evidence.notes, note.length ≤ 256
  times : event.firstObservedAt.length ≤ 64 ∧ event.lastObservedAt.length ≤ 64
  addresses : event.source.ip.length ≤ 64 ∧
    ∀ destination ∈ event.destination, destination.ip.length ≤ 64
  process : event.process = none

/-! ## Bounds of the parts -/

/-- The bytes of a string literal, from its characters. -/
abbrev bytesOf (text : String) : Nat := 6 * text.length

/-- An object whose keys have at most 25 characters. -/
theorem bound_obj_le (fields : List (String × Json))
    (keys : ((fields.map Prod.fst).all fun key => decide (bytesOf key ≤ 150)) = true) :
    bound bytesOf (.obj fields) ≤ (fields.map fun field => bound bytesOf field.2 + 154).sum + 2 :=
  Nat.add_le_add_right (boundMembers_le keys) 2

/-- The digits of a number that Python can write. -/
theorem length_writable {number : Nat} (small : Writable number) :
    (integerText number).length ≤ maxIntegerDigits :=
  length_integerText_le (by decide) (Int.natCast_nonneg number) small

/-- The digits of a 16-bit number. -/
theorem length_word {number : Int} (range : 0 ≤ number ∧ number ≤ 65535) :
    (integerText number).length ≤ 5 :=
  length_integerText_le (by decide) range.1 (by omega)

/-- The digits of a function code. -/
theorem length_functionCode (code : FunctionCode) : (integerText code.number).length ≤ 2 := by
  cases code <;> decide

/-- A digest has its characters, and perhaps a newline. -/
theorem length_digest {text : String} (digest : digestPattern text = true) : text.length ≤ 65 := by
  rw [digestPattern, endsLine, Bool.or_eq_true, Bool.and_eq_true] at digest
  rw [← String.length_toList]
  rcases digest with whole | ⟨-, front⟩
  · have exactly := of_decide_eq_true (Bool.and_eq_true _ _ |>.mp whole).1
    omega
  · have exactly := of_decide_eq_true (Bool.and_eq_true _ _ |>.mp front).1
    rw [List.length_dropLast] at exactly
    omega

/-- A bucket of few values. -/
theorem bound_write_le {bucket : WriteBucket} (shaped : bucket.Shaped)
    (few : bucket.values.length ≤ 32) (small : Writable bucket.count) :
    bound bytesOf bucket.toJson ≤ 6000 := by
  obtain ⟨address, quantity, -, values, digest, -⟩ := shaped
  have addressDigits := length_word address
  have countDigits := length_writable small
  have codeDigits := length_functionCode bucket.functionCode
  have quantityDigits : (integerText bucket.quantity).length ≤ 5 := length_word (by omega)
  have digestLength := length_digest digest
  have items : boundItems bytesOf (bucket.values.map .int) ≤ bucket.values.length * (5 + 1) := by
    have each : ∀ item ∈ bucket.values.map Json.int, bound bytesOf item ≤ 5 := by
      intro item member
      obtain ⟨value, inside, rfl⟩ := List.mem_map.mp member
      exact length_word (values value inside)
    simpa using boundItems_le each
  rw [WriteBucket.toJson]
  refine (bound_obj_le _ (by simp only [List.map_cons, List.map_nil]; decide)).trans ?_
  simp only [List.map_cons, List.map_nil, List.sum_cons, List.sum_nil, bound, bytesOf]
  unfold maxIntegerDigits at countDigits
  omega

/-- The `modbus` part of a compact event. -/
theorem bound_modbus_le {modbus : ModbusEvidence} (shaped : modbus.Shaped)
    (few : modbus.writes.length ≤ 64 ∧ ∀ bucket ∈ modbus.writes, bucket.values.length ≤ 32)
    (codes : modbus.functionCodes.length ≤ 6)
    (counts : ∀ bucket ∈ modbus.writes, Writable bucket.count)
    (requests : Writable modbus.requestCount) (dropped : Writable modbus.droppedOperationBuckets) :
    bound bytesOf modbus.toJson ≤ 400000 := by
  have droppedDigits := length_writable dropped
  have requestDigits := length_writable requests
  have numbers : boundItems bytesOf (modbus.functionCodes.map fun code => .int code.number) ≤
      modbus.functionCodes.length * (2 + 1) := by
    have each : ∀ item ∈ modbus.functionCodes.map fun code => Json.int code.number,
        bound bytesOf item ≤ 2 := by
      intro item member
      obtain ⟨code, -, rfl⟩ := List.mem_map.mp member
      exact length_functionCode code
    simpa using boundItems_le each
  have buckets : boundItems bytesOf (modbus.writes.map WriteBucket.toJson) ≤
      modbus.writes.length * (6000 + 1) := by
    have each : ∀ item ∈ modbus.writes.map WriteBucket.toJson, bound bytesOf item ≤ 6000 := by
      intro item member
      obtain ⟨bucket, inside, rfl⟩ := List.mem_map.mp member
      exact bound_write_le (shaped.2.2.1.2.2 bucket inside) (few.2 bucket inside)
        (counts bucket inside)
    simpa using boundItems_le each
  have operation : modbus.operation.length = 5 := by
    rw [shaped.1]
    rfl
  have most := few.1
  rw [ModbusEvidence.toJson]
  refine (bound_obj_le _ (by simp only [List.map_cons, List.map_nil]; decide)).trans ?_
  simp only [List.map_cons, List.map_nil, List.sum_cons, List.sum_nil, bound, bytesOf]
  unfold maxIntegerDigits at droppedDigits requestDigits
  omega

/-- The counters of an outcome. -/
theorem bound_states_le {states : OutcomeStates} (processed : Writable states.processed)
    (rejected : Writable states.rejected) (unknown : Writable states.unknown) :
    bound bytesOf states.toJson ≤ 13500 := by
  have first := length_writable processed
  have second := length_writable rejected
  have third := length_writable unknown
  rw [OutcomeStates.toJson]
  refine (bound_obj_le _ (by simp only [List.map_cons, List.map_nil]; decide)).trans ?_
  simp only [List.map_cons, List.map_nil, List.sum_cons, List.sum_nil, bound]
  unfold maxIntegerDigits at first second third
  omega

/-- The `outcome` part of an event. -/
theorem bound_outcome_le {outcome : Outcome} (processed : Writable outcome.states.processed)
    (rejected : Writable outcome.states.rejected) (unknown : Writable outcome.states.unknown) :
    bound bytesOf outcome.toJson ≤ 14000 := by
  have states := bound_states_le processed rejected unknown
  have state : outcome.lastState.text.length ≤ 9 := by
    cases outcome.lastState <;> decide
  rw [Outcome.toJson]
  refine (bound_obj_le _ (by simp only [List.map_cons, List.map_nil]; decide)).trans ?_
  simp only [List.map_cons, List.map_nil, List.sum_cons, List.sum_nil, bound, bytesOf]
  omega

/-- The `detection` part of a compact event. -/
theorem bound_detection_le {detection : Detection} (shaped : detection.Shaped)
    (brief : detection.reason.length ≤ 256) : bound bytesOf detection.toJson ≤ 6000 := by
  have rule := shaped.1.1.2
  have decision : detection.policyDecision.length = 5 := by
    rw [shaped.2.1]
    rfl
  have classification : detection.classification.text.length ≤ 25 := by
    cases detection.classification <;> decide
  have severity : detection.severity.text.length ≤ 8 := by
    cases detection.severity <;> decide
  have priority : detection.priority.text.length ≤ 2 := by
    cases detection.priority <;> decide
  rw [Detection.toJson]
  refine (bound_obj_le _ (by simp only [List.map_cons, List.map_nil]; decide)).trans ?_
  simp only [List.map_cons, List.map_nil, List.sum_cons, List.sum_nil, bound, bytesOf]
  omega

/-- The `evidence` part of a compact event. -/
theorem bound_evidence_le {evidence : Evidence} (shaped : evidence.Shaped)
    (few : evidence.notes.length ≤ 2 ∧ ∀ note ∈ evidence.notes, note.length ≤ 256) :
    bound bytesOf evidence.toJson ≤ 8000 := by
  have record := shaped.2.1.1.2
  have source : evidence.sourceId.length ≤ 32 := by
    rw [shaped.1]
    decide
  have truth : evidence.truth.text.length ≤ 25 := by
    cases evidence.truth <;> decide
  have notes : boundItems bytesOf (evidence.notes.map .str) ≤
      evidence.notes.length * (1538 + 1) := by
    have each : ∀ item ∈ evidence.notes.map Json.str, bound bytesOf item ≤ 1538 := by
      intro item member
      obtain ⟨note, inside, rfl⟩ := List.mem_map.mp member
      have short := few.2 note inside
      simp only [bound, bytesOf]
      omega
    simpa using boundItems_le each
  have two := few.1
  rw [Evidence.toJson]
  refine (bound_obj_le _ (by simp only [List.map_cons, List.map_nil]; decide)).trans ?_
  simp only [List.map_cons, List.map_nil, List.sum_cons, List.sum_nil, bound, bytesOf]
  omega

/-- The `sensor` part of an event. -/
theorem bound_sensor_le {sensor : SensorIdentity} (shaped : sensor.Shaped) :
    bound bytesOf sensor.toJson ≤ 3000 := by
  have id := shaped.1.1.2
  have version := shaped.2.1.2
  have kind : sensor.captureKind.length ≤ 15 := by
    have each : ∀ kind ∈ ["server_hook", "packet_capture", "process_wrapper"],
        kind.length ≤ 15 := by decide
    exact each _ shaped.2.2
  rw [SensorIdentity.toJson]
  refine (bound_obj_le _ (by simp only [List.map_cons, List.map_nil]; decide)).trans ?_
  simp only [List.map_cons, List.map_nil, List.sum_cons, List.sum_nil, bound, bytesOf]
  omega

/-- The `source` part of a compact event. -/
theorem bound_source_le {dialect : SchemaDialect} {source : Source}
    (shaped : source.Shaped dialect) (address : source.ip.length ≤ 64) :
    bound bytesOf source.toJson ≤ 1000 := by
  have classification : source.classification.text.length ≤ 14 := by
    cases source.classification <;> decide
  have port : bound bytesOf (nullable .int source.port) ≤ 5 := by
    cases given : source.port with
    | none => decide
    | some port =>
      have range := shaped.2 port given
      exact length_word (by omega)
  rw [Source.toJson]
  refine (bound_obj_le _ (by simp only [List.map_cons, List.map_nil]; decide)).trans ?_
  simp only [List.map_cons, List.map_nil, List.sum_cons, List.sum_nil, bound, bytesOf] at port ⊢
  omega

/-- The `destination` part of a compact event. -/
theorem bound_destination_le {dialect : SchemaDialect} {destination : Destination}
    (shaped : destination.Shaped dialect) (address : destination.ip.length ≤ 64) :
    bound bytesOf destination.toJson ≤ 8000 := by
  obtain ⟨asset, -, port, unit⟩ := shaped
  have assetLength := asset.2
  have portDigits : (integerText destination.port).length ≤ 5 := length_word (by omega)
  have unitDigits : (integerText destination.unitId).length ≤ 5 := length_word (by omega)
  rw [Destination.toJson]
  refine (bound_obj_le _ (by simp only [List.map_cons, List.map_nil]; decide)).trans ?_
  simp only [List.map_cons, List.map_nil, List.sum_cons, List.sum_nil, bound, bytesOf]
  omega

/-! ## Numbers and bytes of an event -/

/-- A 16-bit number can be written. -/
theorem writable_word {number : Int} (range : 0 ≤ number ∧ number ≤ 65535) :
    number.natAbs < 10 ^ maxIntegerDigits := by
  have power : 10 ^ 5 ≤ 10 ^ maxIntegerDigits :=
    Nat.pow_le_pow_right (by decide) (by decide)
  omega

/-- The numbers of a write. -/
theorem integersBelow_write {bucket : WriteBucket} (shaped : bucket.Shaped) :
    bucket.toJson.IntegersBelow (10 ^ maxIntegerDigits) ↔ Writable bucket.count := by
  obtain ⟨address, quantity, -, values, -, -⟩ := shaped
  have code : bucket.functionCode.number.natAbs < 10 ^ maxIntegerDigits :=
    writable_word (by cases bucket.functionCode <;> decide)
  have quantityBelow : bucket.quantity.natAbs < 10 ^ maxIntegerDigits := writable_word (by omega)
  have items : ItemsBelow (10 ^ maxIntegerDigits) (bucket.values.map .int) := by
    rw [itemsBelow_iff]
    intro item member
    obtain ⟨value, inside, rfl⟩ := List.mem_map.mp member
    exact writable_word (values value inside)
  simp [WriteBucket.toJson, IntegersBelow, MembersBelow, writable_word address, code,
    quantityBelow, items, Writable]

/-- The numbers of the `modbus` part. -/
theorem integersBelow_modbus {modbus : ModbusEvidence} (shaped : modbus.Shaped) :
    modbus.toJson.IntegersBelow (10 ^ maxIntegerDigits) ↔
      Writable modbus.droppedOperationBuckets ∧ Writable modbus.requestCount ∧
        ∀ bucket ∈ modbus.writes, Writable bucket.count := by
  have codes : ItemsBelow (10 ^ maxIntegerDigits)
      (modbus.functionCodes.map fun code => .int code.number) := by
    rw [itemsBelow_iff]
    intro item member
    obtain ⟨code, -, rfl⟩ := List.mem_map.mp member
    exact writable_word (by cases code <;> decide)
  have writes : ItemsBelow (10 ^ maxIntegerDigits) (modbus.writes.map WriteBucket.toJson) ↔
      ∀ bucket ∈ modbus.writes, Writable bucket.count := by
    rw [itemsBelow_iff, List.forall_mem_map]
    exact forall₂_congr fun bucket member =>
      integersBelow_write (shaped.2.2.1.2.2 bucket member)
  simp [ModbusEvidence.toJson, IntegersBelow, MembersBelow, codes, writes, Writable]

/-- The numbers of a shaped event with the parts of a write. -/
theorem integersBelow_event {dialect : SchemaDialect} {event : HostOtEvent}
    {modbus : ModbusEvidence} {outcome : Outcome} (shaped : event.Shaped dialect)
    (hasModbus : event.modbus = some modbus) (hasOutcome : event.outcome = some outcome)
    (process : event.process = none) :
    event.toJson.IntegersBelow (10 ^ maxIntegerDigits) ↔
      Writable event.episodeSequence ∧ Writable event.revision ∧
        (Writable modbus.droppedOperationBuckets ∧ Writable modbus.requestCount ∧
          ∀ bucket ∈ modbus.writes, Writable bucket.count) ∧
        Writable outcome.states.processed ∧ Writable outcome.states.rejected ∧
        Writable outcome.states.unknown := by
  have destination : (nullable Destination.toJson event.destination).IntegersBelow
      (10 ^ maxIntegerDigits) := by
    cases given : event.destination with
    | none => simp [nullable, IntegersBelow]
    | some destination =>
      obtain ⟨-, -, port, unit⟩ := shaped.destination destination given
      have portBelow : destination.port.natAbs < 10 ^ maxIntegerDigits :=
        writable_word (by omega)
      have unitBelow : destination.unitId.natAbs < 10 ^ maxIntegerDigits :=
        writable_word (by omega)
      simp [nullable, Destination.toJson, IntegersBelow, MembersBelow, portBelow, unitBelow]
  have detection : (nullable Detection.toJson event.detection).IntegersBelow
      (10 ^ maxIntegerDigits) := by
    cases event.detection <;> simp [nullable, Detection.toJson, IntegersBelow, MembersBelow]
  have port : (nullable Json.int event.source.port).IntegersBelow (10 ^ maxIntegerDigits) := by
    cases given : event.source.port with
    | none => simp [nullable, IntegersBelow]
    | some port =>
      have range := shaped.source.2 port given
      exact writable_word (by omega)
  have notes : ItemsBelow (10 ^ maxIntegerDigits) (event.evidence.notes.map .str) := by
    rw [itemsBelow_iff, List.forall_mem_map]
    simp [IntegersBelow]
  have writes := integersBelow_modbus (shaped.modbus modbus hasModbus)
  simp only [HostOtEvent.toJson, hasModbus, hasOutcome, process, IntegersBelow, MembersBelow,
    destination, detection, Evidence.toJson, notes, SensorIdentity.toJson, Source.toJson, port,
    Outcome.toJson, OutcomeStates.toJson, nullable_some, nullable_none, writes, true_and, and_true,
    Int.natAbs_natCast]
  constructor
  · rintro ⟨sequence, counts, outcomes, revision⟩
    exact ⟨sequence, revision, counts, outcomes⟩
  · rintro ⟨sequence, revision, counts, outcomes⟩
    exact ⟨sequence, counts, outcomes, revision⟩

/-- A compact shaped event whose numbers can be written keeps the limit on its bytes. -/
theorem documentBytes_le {dialect : SchemaDialect} {event : HostOtEvent}
    {modbus : ModbusEvidence} {outcome : Outcome} {destination : Destination}
    {detection : Detection} (shaped : event.Shaped dialect) (compact : event.Compact)
    (hasModbus : event.modbus = some modbus) (hasOutcome : event.outcome = some outcome)
    (hasDestination : event.destination = some destination)
    (hasDetection : event.detection = some detection)
    (numbers : event.toJson.IntegersBelow (10 ^ maxIntegerDigits)) :
    event.documentBytes ≤ maxHostOtEventBytes := by
  obtain ⟨sequence, revision, ⟨dropped, requests, counts⟩, processed, rejected, unknown⟩ :=
    (integersBelow_event shaped hasModbus hasOutcome compact.process).mp numbers
  have modbusBound := bound_modbus_le (shaped.modbus modbus hasModbus)
    (compact.writes modbus hasModbus) (compact.functionCodes modbus hasModbus) counts requests
    dropped
  have outcomeBound := bound_outcome_le processed rejected unknown
  have destinationBound := bound_destination_le (shaped.destination destination hasDestination)
    (compact.addresses.2 destination hasDestination)
  have detectionBound := bound_detection_le (shaped.detection detection hasDetection)
    (compact.reason detection hasDetection)
  have evidenceBound := bound_evidence_le shaped.evidence compact.notes
  have sensorBound := bound_sensor_le shaped.sensor
  have sourceBound := bound_source_le shaped.source compact.addresses.1
  have sequenceDigits := length_writable sequence
  have revisionDigits := length_writable revision
  have eventId := shaped.eventId.1.2
  have episodeId := shaped.episodeId.1.2
  have bootId := shaped.bootId.1.2
  have times := compact.times
  have version : event.schemaVersion.length ≤ 32 := by
    rw [shaped.schemaVersion]
    decide
  have basis : event.timestampBasis.length ≤ 32 := by
    rw [shaped.timestampBasis]
    decide
  have type : event.eventType.text.length ≤ 12 := by
    cases event.eventType <;> decide
  have whole : bound bytesOf event.toJson ≤ 500000 := by
    rw [HostOtEvent.toJson]
    refine (bound_obj_le _ (by simp only [List.map_cons, List.map_nil]; decide)).trans ?_
    simp only [List.map_cons, List.map_nil, List.sum_cons, List.sum_nil, hasModbus, hasOutcome,
      hasDestination, hasDetection, compact.process, nullable]
    have text (value : String) : bound bytesOf (.str value) = 6 * value.length + 2 := rfl
    have number (value : Nat) : bound bytesOf (.int value) = (integerText value).length := rfl
    have null : bound bytesOf .null = 4 := rfl
    rw [text, text, text, text, text, text, text, text, number, number, null]
    unfold maxIntegerDigits at sequenceDigits revisionDigits
    omega
  have bytes := bytes_dumps_le event.toJson
  have newline : textCost Char.utf8Size ['\n'] = 1 := rfl
  rw [HostOtEvent.documentBytes, Library.textCost_append, newline, maxHostOtEventBytes]
  exact (Nat.add_le_add_right (bytes.trans whole) 1).trans (by decide)

end DTLab
