import DTLab.Receiver.Schema

/-!
# Well-shaped events

What each definition of the schema says of the value it is about: ranges, lengths, patterns and
presence. The schema accepts the document of an event exactly when the event is well shaped.
-/

namespace DTLab

open Library (Json Schema SchemaDialect JsonKind SchemaConstant)
open Library.Schema (accepts_object accepts_integerIn accepts_oneOf_two accepts_ifThenElse
  accepts_uniqueItems_ints)

variable (dialect : SchemaDialect)

/-! ## Parts -/

/-- A text whose length is within bounds. -/
def LengthIn (low high : Nat) (text : String) : Prop := low ≤ text.length ∧ text.length ≤ high

/-- Lengths are compared by computing them. -/
instance (low high : Nat) (text : String) : Decidable (LengthIn low high text) :=
  inferInstanceAs (Decidable (_ ∧ _))

/-- An identifier. -/
def IsIdentifier (text : String) : Prop := LengthIn 1 256 text ∧ identifierPattern text = true

/-- The parts of an identifier are decidable. -/
instance : DecidablePred IsIdentifier := fun _ => inferInstanceAs (Decidable (_ ∧ _))

/-- An IPv4 or an IPv6 address. -/
def IsAddress (text : String) : Prop := dialect.format "ipv4" text ≠ dialect.format "ipv6" text

/-- An address is checked by the dialect's formats. -/
instance (text : String) : Decidable (IsAddress dialect text) :=
  inferInstanceAs (Decidable (_ ≠ _))

/-- A sensor whose id is an identifier and whose texts are within their bounds. -/
def SensorIdentity.Shaped (sensor : SensorIdentity) : Prop :=
  IsIdentifier sensor.id ∧ LengthIn 1 64 sensor.version ∧
    sensor.captureKind ∈ ["server_hook", "packet_capture", "process_wrapper"]

/-- A source with an address and a port in its range. -/
def Source.Shaped (source : Source) : Prop :=
  IsAddress dialect source.ip ∧ ∀ port ∈ source.port, 1 ≤ port ∧ port ≤ 65535

/-- A destination whose texts are within their bounds. -/
def Destination.Shaped (destination : Destination) : Prop :=
  LengthIn 1 1024 destination.assetId ∧ IsAddress dialect destination.ip ∧
    destination.port = 502 ∧ 0 ≤ destination.unitId ∧ destination.unitId ≤ 255

/-- A bucket whose numbers are within the bounds of the schema. -/
def WriteBucket.Shaped (bucket : WriteBucket) : Prop :=
  (0 ≤ bucket.address ∧ bucket.address ≤ 65535) ∧
    (1 ≤ bucket.quantity ∧ bucket.quantity ≤ 1968) ∧
    bucket.values.length ≤ 123 ∧ (∀ value ∈ bucket.values, 0 ≤ value ∧ value ≤ 65535) ∧
    digestPattern bucket.valuesSha256 = true ∧ 1 ≤ bucket.count

/-- Evidence of writes whose lists and counts are within the bounds of the schema. -/
def ModbusEvidence.Shaped (modbus : ModbusEvidence) : Prop :=
  modbus.operation = "write" ∧ (1 ≤ modbus.functionCodes.length ∧ modbus.functionCodes.Nodup) ∧
    (1 ≤ modbus.writes.length ∧ modbus.writes.length ≤ 256 ∧
      ∀ bucket ∈ modbus.writes, bucket.Shaped) ∧ 1 ≤ modbus.requestCount

/-- A detection whose rule is an identifier and whose texts are within their bounds. -/
def Detection.Shaped (detection : Detection) : Prop :=
  IsIdentifier detection.ruleId ∧ detection.policyDecision = "alert" ∧
    LengthIn 1 2048 detection.reason

/-- Evidence with a known source, a record and a bounded list of limitations. -/
def Evidence.Shaped (evidence : Evidence) : Prop :=
  evidence.sourceId = "src:dtlab-host-ot:plc-desktop" ∧ IsIdentifier evidence.sourceRecordId ∧
    evidence.notes.length ≤ 32 ∧ ∀ note ∈ evidence.notes, LengthIn 1 2048 note

/-- A process whose numbers and texts are within the bounds of the schema. -/
def ProcessIdentity.Shaped (process : ProcessIdentity) : Prop :=
  (∀ pid ∈ process.pid, 1 ≤ pid) ∧ (∀ path ∈ process.executable, LengthIn 1 512 path) ∧
    ∀ path ∈ process.script, LengthIn 1 512 path

/-! ## The definitions of the schema on values -/

/-- A choice accepts its texts. -/
theorem accepts_choice (texts : List String) (text : String) :
    (choiceSchema texts).accepts dialect (.str text) = true ↔ text ∈ texts := by
  simp [choiceSchema, JsonKind.accepts, SchemaConstant.accepts, List.any_map, Function.comp_def]

/-- A constant text accepts itself alone. -/
theorem accepts_const (text actual : String) :
    (constSchema text).accepts dialect (.str actual) = true ↔ actual = text := by
  simp only [constSchema, Schema.accepts_enum, List.any_cons, List.any_nil,
    SchemaConstant.accepts, Bool.or_false, beq_iff_eq]
  exact eq_comm

/-- A bounded text is accepted by its length. -/
theorem accepts_text (low high : Nat) (text : String) :
    (textSchema low high).accepts dialect (.str text) = true ↔ LengthIn low high text := by
  simp [textSchema, JsonKind.accepts, LengthIn]

/-- The pattern of an identifier is that of the schema. -/
theorem accepts_identifier (text : String) :
    identifierSchema.accepts dialect (.str text) = true ↔ IsIdentifier text := by
  simp [identifierSchema, JsonKind.accepts, IsIdentifier, LengthIn, and_assoc]

/-- A time is accepted by the format checker. -/
theorem accepts_dateTime (text : String) :
    dateTimeSchema.accepts dialect (.str text) = true ↔ dialect.format "date-time" text = true := by
  simp [dateTimeSchema, JsonKind.accepts]

/-- An address is accepted by one of two formats. -/
theorem accepts_ipAddress (text : String) :
    ipAddressSchema.accepts dialect (.str text) = true ↔ IsAddress dialect text := by
  simp [ipAddressSchema, accepts_oneOf_two, JsonKind.accepts, IsAddress]

/-- The schema of a sensor accepts the shaped ones. -/
theorem accepts_sensor (sensor : SensorIdentity) :
    sensorSchema.accepts dialect sensor.toJson = true ↔ sensor.Shaped := by
  simp [sensorSchema, SensorIdentity.toJson, accepts_object, List.lookup_cons, accepts_identifier,
    accepts_text, accepts_choice, SensorIdentity.Shaped]

/-- The schema of a source accepts the shaped ones. -/
theorem accepts_source (source : Source) :
    sourceSchema.accepts dialect source.toJson = true ↔ source.Shaped dialect := by
  cases port : source.port <;> cases classification : source.classification <;>
    simp [sourceSchema, Source.toJson, accepts_object, List.lookup_cons, accepts_ipAddress,
      accepts_choice, Source.Shaped, port, nullable, JsonKind.accepts, classification,
      SourceClassification.text]

/-- The schema of a destination accepts the shaped ones. -/
theorem accepts_destination (destination : Destination) :
    destinationSchema.accepts dialect destination.toJson = true ↔ destination.Shaped dialect := by
  simp [destinationSchema, Destination.toJson, accepts_object, List.lookup_cons, accepts_ipAddress,
    accepts_text, accepts_integerIn, Destination.Shaped]

/-- Every function code that is written is in the schema. -/
theorem accepts_functionCode (code : FunctionCode) :
    functionCodeSchema.accepts dialect (.int code.number) = true := by
  cases code <;> simp [functionCodeSchema, FunctionCode.number, JsonKind.accepts]

/-- Codes are unique in the document as they are in the list. -/
theorem accepts_uniqueCodes (codes : List FunctionCode) :
    Schema.uniqueItems.accepts dialect (.arr (codes.map fun code => .int code.number)) = true ↔
      codes.Nodup := by
  have numbers : (codes.map fun code => Json.int code.number) =
      (codes.map FunctionCode.number).map .int := (List.map_map).symm
  rw [numbers, accepts_uniqueItems_ints, decide_eq_true_eq,
    List.nodup_map_iff FunctionCode.number_injective]

/-- The schema of a bucket accepts the shaped ones. -/
theorem accepts_write (bucket : WriteBucket) :
    writeSchema.accepts dialect bucket.toJson = true ↔ bucket.Shaped := by
  simp [writeSchema, WriteBucket.toJson, accepts_object, List.lookup_cons, accepts_functionCode,
    accepts_integerIn, JsonKind.accepts, WriteBucket.Shaped, and_assoc]

/-- The schema of writes accepts the shaped ones. -/
theorem accepts_modbus (modbus : ModbusEvidence) :
    modbusSchema.accepts dialect modbus.toJson = true ↔ modbus.Shaped := by
  simp [modbusSchema, ModbusEvidence.toJson, accepts_object, List.lookup_cons, accepts_functionCode,
    accepts_uniqueCodes, accepts_const, accepts_write, JsonKind.accepts, ModbusEvidence.Shaped,
    and_assoc]

/-- Every outcome is accepted. -/
theorem accepts_outcome (outcome : Outcome) :
    outcomeSchema.accepts dialect outcome.toJson = true := by
  cases state : outcome.lastState <;>
    simp [outcomeSchema, outcomeStatesSchema, Outcome.toJson, OutcomeStates.toJson, accepts_object,
      List.lookup_cons, accepts_choice, JsonKind.accepts, state, OutcomeState.text]

/-- The schema of a detection accepts the shaped ones. -/
theorem accepts_detection (detection : Detection) :
    detectionSchema.accepts dialect detection.toJson = true ↔ detection.Shaped := by
  cases classification : detection.classification <;> cases severity : detection.severity <;>
    cases priority : detection.priority <;>
    simp [detectionSchema, Detection.toJson, accepts_object, List.lookup_cons, accepts_identifier,
      accepts_choice, accepts_const, accepts_text, Detection.Shaped, classification, severity,
      priority, DetectionClassification.text, Severity.text, Priority.text]

/-- The schema of evidence accepts the shaped one. -/
theorem accepts_evidence (evidence : Evidence) :
    evidenceSchema.accepts dialect evidence.toJson = true ↔ evidence.Shaped := by
  cases truth : evidence.truth <;>
    simp [evidenceSchema, Evidence.toJson, accepts_object, List.lookup_cons, accepts_identifier,
      accepts_choice, accepts_const, accepts_text, JsonKind.accepts, Evidence.Shaped, truth,
      EvidenceTruth.text]

/-- The schema of a process accepts the shaped ones. -/
theorem accepts_process (process : ProcessIdentity) :
    processSchema.accepts dialect process.toJson = true ↔ process.Shaped := by
  cases pid : process.pid <;> cases executable : process.executable <;>
    cases script : process.script <;>
    simp [processSchema, ProcessIdentity.toJson, accepts_object, List.lookup_cons, JsonKind.accepts,
      ProcessIdentity.Shaped, LengthIn, pid, executable, script, nullable]

/-! ## Events -/

/-- A value or `null` under a schema of objects. -/
theorem accepts_orNull {α : Type} {schema : Schema} {render : α → Json} {shape : α → Prop}
    (null : schema.accepts dialect .null = false)
    (object : ∀ value, JsonKind.null.accepts dialect (render value) = false)
    (shaped : ∀ value, schema.accepts dialect (render value) = true ↔ shape value)
    (value : Option α) :
    (orNull schema).accepts dialect (nullable render value) = true ↔
      ∀ present ∈ value, shape present := by
  cases value with
  | none => simp [orNull, nullable, accepts_oneOf_two, null, JsonKind.accepts]
  | some present => simp [orNull, nullable, accepts_oneOf_two, object, shaped]

/-- Which parts an event of its type has, and which truths. -/
def HostOtEvent.TypeShaped (event : HostOtEvent) : Prop :=
  match event.eventType with
  | .modbusWrite => event.destination.isSome = true ∧ event.modbus.isSome = true ∧
      event.outcome.isSome = true ∧ event.detection.isSome = true ∧
      event.evidence.truth ≠ .heartbeat
  | .heartbeat => event.destination = none ∧ event.modbus = none ∧ event.outcome = none ∧
      event.detection = none ∧ event.evidence.truth = .heartbeat

/-- An event within the ranges, lengths and patterns of the schema. -/
structure HostOtEvent.Shaped (event : HostOtEvent) : Prop where
  schemaVersion : event.schemaVersion = "dtlab-host-ot-event-v1"
  eventId : IsIdentifier event.eventId
  episodeId : IsIdentifier event.episodeId
  revision : 1 ≤ event.revision
  bootId : IsIdentifier event.bootId
  firstObservedAt : dialect.format "date-time" event.firstObservedAt = true
  lastObservedAt : dialect.format "date-time" event.lastObservedAt = true
  timestampBasis : event.timestampBasis = "endpoint_utc"
  sensor : event.sensor.Shaped
  source : event.source.Shaped dialect
  destination : ∀ destination ∈ event.destination, destination.Shaped dialect
  modbus : ∀ modbus ∈ event.modbus, modbus.Shaped
  detection : ∀ detection ∈ event.detection, detection.Shaped
  evidence : event.evidence.Shaped
  process : ∀ process ∈ event.process, process.Shaped
  byType : event.TypeShaped

/-- The members of an event under their schemas. -/
theorem accepts_members (event : HostOtEvent) :
    eventMembersSchema.accepts dialect event.toJson = true ↔
      event.schemaVersion = "dtlab-host-ot-event-v1" ∧ IsIdentifier event.eventId ∧
        IsIdentifier event.episodeId ∧ 1 ≤ event.revision ∧ IsIdentifier event.bootId ∧
        dialect.format "date-time" event.firstObservedAt = true ∧
        dialect.format "date-time" event.lastObservedAt = true ∧
        event.timestampBasis = "endpoint_utc" ∧ event.sensor.Shaped ∧
        event.source.Shaped dialect ∧
        (∀ destination ∈ event.destination, destination.Shaped dialect) ∧
        (∀ modbus ∈ event.modbus, modbus.Shaped) ∧
        (∀ detection ∈ event.detection, detection.Shaped) ∧ event.evidence.Shaped ∧
        ∀ process ∈ event.process, process.Shaped := by
  have destination : (orNull destinationSchema).accepts dialect
      (nullable Destination.toJson event.destination) = true ↔
        ∀ present ∈ event.destination, present.Shaped dialect :=
    accepts_orNull dialect rfl (fun _ => rfl) (accepts_destination dialect) _
  have modbus : (orNull modbusSchema).accepts dialect
      (nullable ModbusEvidence.toJson event.modbus) = true ↔
        ∀ present ∈ event.modbus, present.Shaped :=
    accepts_orNull dialect rfl (fun _ => rfl) (accepts_modbus dialect) _
  have outcome : (orNull outcomeSchema).accepts dialect
      (nullable Outcome.toJson event.outcome) = true ↔ ∀ present ∈ event.outcome, True :=
    accepts_orNull dialect rfl (fun _ => rfl)
      (fun value => iff_true_intro (accepts_outcome dialect value)) _
  have detection : (orNull detectionSchema).accepts dialect
      (nullable Detection.toJson event.detection) = true ↔
        ∀ present ∈ event.detection, present.Shaped :=
    accepts_orNull dialect rfl (fun _ => rfl) (accepts_detection dialect) _
  have process : (orNull processSchema).accepts dialect
      (nullable ProcessIdentity.toJson event.process) = true ↔
        ∀ present ∈ event.process, present.Shaped :=
    accepts_orNull dialect rfl (fun _ => rfl) (accepts_process dialect) _
  have eventType : (choiceSchema ["modbus_write", "heartbeat"]).accepts dialect
      (.str event.eventType.text) = true := by
    rw [accepts_choice]
    cases event.eventType <;> decide
  simp [eventMembersSchema, HostOtEvent.toJson, accepts_object, List.lookup_cons, accepts_const,
    accepts_identifier, accepts_dateTime, accepts_sensor, accepts_source, accepts_evidence,
    JsonKind.accepts, destination, modbus, outcome, detection, process, eventType]

/-- A schema that takes no `null` calls for a value; one that is shaped is enough. -/
theorem accepts_nullable {α : Type} {schema : Schema} {render : α → Json} {shape : α → Prop}
    (null : schema.accepts dialect .null = false)
    (shaped : ∀ value, schema.accepts dialect (render value) = true ↔ shape value)
    {value : Option α} (all : ∀ present ∈ value, shape present) :
    schema.accepts dialect (nullable render value) = true ↔ value.isSome = true := by
  cases value with
  | none => simp [nullable, null]
  | some present => simpa [nullable] using (shaped present).mpr (all present rfl)

/-- The type of `null` calls for no value. -/
theorem accepts_null {α : Type} {render : α → Json}
    (object : ∀ value, JsonKind.null.accepts dialect (render value) = false) (value : Option α) :
    JsonKind.null.accepts dialect (nullable render value) = true ↔ value = none := by
  cases value with
  | none => simp [nullable, JsonKind.accepts]
  | some present => simp [nullable, object]

/-- Evidence with one of some truths. -/
theorem accepts_evidenceWithTruth (truths : List String) (evidence : Evidence) :
    (evidenceWithTruth truths).accepts dialect evidence.toJson = true ↔
      evidence.Shaped ∧ evidence.truth.text ∈ truths := by
  have truth : (Schema.enum (truths.map .string)).accepts dialect
    (.str evidence.truth.text) = true ↔
      evidence.truth.text ∈ truths := by
    simp [SchemaConstant.accepts, List.any_map, Function.comp_def]
  have found : (Schema.properties [("truth", .enum (truths.map .string))]).accepts dialect
      evidence.toJson = (Schema.enum (truths.map .string)).accepts dialect
        (.str evidence.truth.text) := by
    simp [Evidence.toJson, List.lookup_cons]
  rw [evidenceWithTruth, Schema.accepts_allOf, Schema.acceptsAll_cons, Schema.acceptsAll_cons,
    Schema.acceptsAll_nil, Bool.and_true, Bool.and_eq_true, accepts_evidence, found, truth]

/-- What the event type calls for, where the parts are shaped. -/
theorem accepts_eventType (event : HostOtEvent) (evidence : event.evidence.Shaped)
    (destination : ∀ destination ∈ event.destination, destination.Shaped dialect)
    (modbus : ∀ modbus ∈ event.modbus, modbus.Shaped)
    (detection : ∀ detection ∈ event.detection, detection.Shaped) :
    eventTypeSchema.accepts dialect event.toJson = true ↔ event.TypeShaped := by
  have condition : (Schema.allOf [.properties [("event_type", constSchema "modbus_write")],
      .required ["event_type"]]).accepts dialect event.toJson = true ↔
        event.eventType = .modbusWrite := by
    cases type : event.eventType <;>
      simp [HostOtEvent.toJson, List.lookup_cons, accepts_const, EventType.text, type]
  rw [eventTypeSchema, accepts_ifThenElse]
  cases type : event.eventType with
  | modbusWrite =>
    rw [if_pos (condition.mpr type)]
    have destinations : destinationSchema.accepts dialect
        (nullable Destination.toJson event.destination) = true ↔ _ :=
      accepts_nullable dialect rfl (accepts_destination dialect) destination
    have modbuses : modbusSchema.accepts dialect (nullable ModbusEvidence.toJson event.modbus) =
        true ↔ _ :=
      accepts_nullable dialect rfl (accepts_modbus dialect) modbus
    have outcomes : outcomeSchema.accepts dialect (nullable Outcome.toJson event.outcome) =
        true ↔ _ :=
      accepts_nullable dialect rfl (fun value => iff_true_intro (accepts_outcome dialect value))
        fun _ _ => trivial
    have detections : detectionSchema.accepts dialect (nullable Detection.toJson event.detection) =
        true ↔ _ :=
      accepts_nullable dialect rfl (accepts_detection dialect) detection
    have truth : event.evidence.truth.text ∈ ["endpoint_request_observed",
        "endpoint_server_processed", "endpoint_server_rejected"] ↔
          event.evidence.truth ≠ .heartbeat := by
      cases event.evidence.truth <;> decide
    simp [HostOtEvent.toJson, List.lookup_cons, destinations, modbuses, outcomes, detections,
      accepts_evidenceWithTruth, truth, evidence, HostOtEvent.TypeShaped, type]
  | heartbeat =>
    rw [if_neg (condition.not.mpr (by simp [type]))]
    have truth : event.evidence.truth.text ∈ ["endpoint_heartbeat"] ↔
        event.evidence.truth = .heartbeat := by
      cases event.evidence.truth <;> decide
    have destinations : JsonKind.null.accepts dialect
        (nullable Destination.toJson event.destination) = true ↔ _ :=
      accepts_null dialect (fun _ => rfl) event.destination
    have modbuses : JsonKind.null.accepts dialect (nullable ModbusEvidence.toJson event.modbus) =
        true ↔ _ :=
      accepts_null dialect (fun _ => rfl) event.modbus
    have outcomes : JsonKind.null.accepts dialect (nullable Outcome.toJson event.outcome) =
        true ↔ _ :=
      accepts_null dialect (fun _ => rfl) event.outcome
    have detections : JsonKind.null.accepts dialect
        (nullable Detection.toJson event.detection) = true ↔ _ :=
      accepts_null dialect (fun _ => rfl) event.detection
    simp [HostOtEvent.toJson, List.lookup_cons, destinations, modbuses, outcomes, detections,
      accepts_evidenceWithTruth, truth, evidence, HostOtEvent.TypeShaped, type]

/-- The schema accepts the document of an event exactly when the event is well shaped. -/
theorem accepts_event (event : HostOtEvent) :
    hostOtEventSchema.accepts dialect event.toJson = true ↔ event.Shaped dialect := by
  rw [hostOtEventSchema, Schema.accepts_allOf, Schema.acceptsAll_cons, Schema.acceptsAll_cons,
    Schema.acceptsAll_nil, Bool.and_true, Bool.and_eq_true, accepts_members]
  constructor
  · rintro ⟨⟨version, eventId, episodeId, revision, bootId, first, last, basis, sensor, source,
      destination, modbus, detection, evidence, process⟩, byType⟩
    have type := (accepts_eventType dialect event evidence destination modbus detection).mp byType
    exact ⟨version, eventId, episodeId, revision, bootId, first, last, basis, sensor, source,
      destination, modbus, detection, evidence, process, type⟩
  · intro shaped
    have type := (accepts_eventType dialect event shaped.evidence shaped.destination shaped.modbus
      shaped.detection).mpr shaped.byType
    exact ⟨⟨shaped.schemaVersion, shaped.eventId, shaped.episodeId, shaped.revision,
      shaped.bootId, shaped.firstObservedAt, shaped.lastObservedAt, shaped.timestampBasis,
      shaped.sensor, shaped.source, shaped.destination, shaped.modbus, shaped.detection,
      shaped.evidence, shaped.process⟩, type⟩

end DTLab
