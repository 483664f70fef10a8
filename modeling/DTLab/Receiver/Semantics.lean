import DTLab.Sensor.Episode

/-!
# What the receiver checks beyond the schema

`host_ot_events._semantic_errors` and the functions it calls, on documents that passed the
schema. An error keeps the field it names apart from its text. The parser of timestamps is a
parameter; `parseTime` is the receiver's on the texts that the sensor writes.
-/

namespace DTLab

open Library (Text readIsoText readIsoText_isoText isoText_chars)

/-- One error of the receiver: the field it names, and what is wrong with it. -/
structure FieldError where
  field : String
  problem : String
  deriving DecidableEq

/-- The text of an error. -/
def FieldError.text (error : FieldError) : String := error.field ++ ": " ++ error.problem

/-- What `datetime.fromisoformat` and `astimezone(UTC)` make of a text. -/
inductive ParsedTime where
  /-- `ValueError`: the text is no time. -/
  | invalid
  /-- A time without a zone. -/
  | naive
  /-- `OverflowError`: the time lies outside of the years 1 to 9999 in UTC. -/
  | outside
  /-- An instant, in microseconds. -/
  | instant (microseconds : Int)
  deriving DecidableEq

/-- The instant of a parsed time, if it has one. -/
def ParsedTime.instant? : ParsedTime → Option Int
  | .instant microseconds => some microseconds
  | _ => none

/-- The error that `_parse_time` reports for a label. -/
def ParsedTime.errors (label : String) : ParsedTime → List FieldError
  | .naive => [⟨label, "timestamp senza fuso orario"⟩]
  | _ => []

/-- `replace("Z", "+00:00")`. -/
def zuluOffset (text : Text) : Text :=
  text.flatMap fun c => if c = 'Z' then ['+', '0', '0', ':', '0', '0'] else [c]

/-- `fromisoformat` behind the replacement, on the texts of a time to the microsecond at offset
zero; `other` reads all other texts. -/
def parseTime (other : Text → ParsedTime) (value : String) : ParsedTime :=
  match readIsoText (zuluOffset value.toList) with
  | some (time, ['+', '0', '0', ':', '0', '0']) =>
    if time.Valid then .instant time.instant else .invalid
  | _ => other (zuluOffset value.toList)

/-- The receiver reads the sensor's text of a time as the time. -/
theorem parseTime_utcNowText (other : Text → ParsedTime) (now : WallClock) :
    parseTime other (utcNowText now) = .instant now.time.instant := by
  have plain : ∀ c ∈ now.time.isoText, c ≠ 'Z' := by
    rintro c member rfl
    exact absurd (isoText_chars now.time 'Z' member) (by decide)
  have same : zuluOffset now.time.isoText = now.time.isoText := by
    have single : zuluOffset now.time.isoText = now.time.isoText.flatMap fun c => [c] :=
      List.flatMap_congr fun c member => if_neg (plain c member)
    rw [single, List.flatMap_singleton']
  have text : zuluOffset (utcNowText now).toList =
      now.time.isoText ++ ['+', '0', '0', ':', '0', '0'] := by
    rw [utcNowText, String.toList_ofList, zuluOffset, List.flatMap_append]
    exact congrArg (· ++ ['+', '0', '0', ':', '0', '0']) same
  rw [parseTime, text, readIsoText_isoText now.valid]
  exact if_pos now.valid

/-- The registers that a bucket with complete values sets, with the values. -/
def WriteBucket.registerValues (bucket : WriteBucket) : List (Int × Int) :=
  if bucket.valuesTruncated then []
  else bucket.values.zipIdx.map fun (value, offset) => (bucket.address + offset, value)

/-- `_register_values`, as the list of registers with a value they were set to. -/
def registerValues (event : HostOtEvent) : List (Int × Int) :=
  match event.modbus with
  | none => []
  | some modbus => modbus.writes.flatMap WriteBucket.registerValues

/-- `is_shutdown_sequence`. -/
def isShutdownSequence (event : HostOtEvent) : Bool :=
  decide (∀ register ∈ shutdownRegisters, (register, 0) ∈ registerValues event)

/-! ## The errors, group by group -/

/-- The ids that must agree. -/
def identityErrors (event : HostOtEvent) : List FieldError :=
  (if event.episodeId ≠ event.eventId then
    [⟨"episode_id", "deve coincidere con event_id"⟩] else []) ++
  if event.evidence.sourceRecordId ≠ event.eventId then
    [⟨"evidence.source_record_id", "deve coincidere con event_id"⟩] else []

/-- `_parse_time` raises `OverflowError` for one of the two times. -/
def TimesOverflow (parseTime : String → ParsedTime) (event : HostOtEvent) : Prop :=
  parseTime event.firstObservedAt = .outside ∨ parseTime event.lastObservedAt = .outside

/-- The order of the two times, where neither is outside of the calendar. -/
def timeErrors (parseTime : String → ParsedTime) (event : HostOtEvent) : List FieldError :=
  (parseTime event.firstObservedAt).errors "first_observed_at" ++
  (parseTime event.lastObservedAt).errors "last_observed_at" ++
  match (parseTime event.firstObservedAt).instant?, (parseTime event.lastObservedAt).instant? with
  | some first, some last =>
    if last < first then [⟨"last_observed_at", "precedente a first_observed_at"⟩] else []
  | _, _ => []

/-- The function codes against those of the buckets, as sets. -/
def functionCodeErrors (modbus : ModbusEvidence) : List FieldError :=
  if modbus.functionCodes.toFinset ≠ (modbus.writes.map WriteBucket.functionCode).toFinset then
    [⟨"modbus.function_codes", "incoerente con i bucket writes"⟩] else []

/-- The number of requests against the counts of the buckets. -/
def requestCountErrors (modbus : ModbusEvidence) : List FieldError :=
  if (modbus.writes.map WriteBucket.count).sum + modbus.droppedOperationBuckets ≠
      modbus.requestCount then
    [⟨"modbus.request_count",
      "deve uguagliare count bucket + dropped_operation_buckets"⟩] else []

/-- The number of outcomes against the number of requests. -/
def outcomeErrors (modbus : ModbusEvidence) (outcome : Outcome) : List FieldError :=
  if outcome.states.processed + outcome.states.rejected + outcome.states.unknown ≠
      modbus.requestCount then
    [⟨"outcome.states", "il totale deve uguagliare request_count"⟩] else []

/-- One field of the detection against the value the registers call for. -/
def expectedError (field expected actual : String) : List FieldError :=
  if actual ≠ expected then
    [⟨"detection." ++ field, "atteso '" ++ expected ++ "' dai valori osservati"⟩] else []

/-- The detection against the verdict of the registers. -/
def detectionErrors (event : HostOtEvent) (detection : Detection) : List FieldError :=
  let shutdown := isShutdownSequence event
  expectedError "classification"
      (if shutdown then "process_shutdown_sequence" else "modbus_write")
      detection.classification.text ++
  expectedError "severity" (if shutdown then "critical" else "high") detection.severity.text ++
  expectedError "priority" (if shutdown then "p1" else "p2") detection.priority.text

/-- The declared truth against the outcome counters. -/
def truthErrors (event : HostOtEvent) (outcome : Outcome) : List FieldError :=
  (if event.evidence.truth = .requestObserved ∧
      (outcome.states.processed ≠ 0 ∨ outcome.states.rejected ≠ 0) then
    [⟨"evidence.truth", "request_observed non può dichiarare esiti processed/rejected"⟩]
    else []) ++
  (if event.evidence.truth = .serverProcessed ∧ outcome.states.processed = 0 then
    [⟨"evidence.truth", "nessuna richiesta processed presente"⟩] else []) ++
  if event.evidence.truth = .serverRejected ∧ outcome.states.rejected = 0 then
    [⟨"evidence.truth", "nessuna richiesta rejected presente"⟩] else []

/-- `_semantic_errors`. -/
def semanticErrors (parseTime : String → ParsedTime) (event : HostOtEvent) : List FieldError :=
  identityErrors event ++ timeErrors parseTime event ++
  match event.eventType, event.modbus, event.outcome, event.detection with
  | .modbusWrite, some modbus, some outcome, some detection =>
    functionCodeErrors modbus ++ requestCountErrors modbus ++ outcomeErrors modbus outcome ++
      detectionErrors event detection ++ truthErrors event outcome
  | _, _, _, _ => []

/-! ## Every error names the field it checks -/

/-- The identity is reported at its own fields. -/
theorem identityErrors_field {event : HostOtEvent} {error : FieldError}
    (member : error ∈ identityErrors event) :
    error.field = "episode_id" ∨ error.field = "evidence.source_record_id" := by
  simp only [identityErrors, List.mem_append] at member
  rcases member with episode | record
  · split_ifs at episode <;> simp at episode
    exact Or.inl (congrArg FieldError.field episode)
  · split_ifs at record <;> simp at record
    exact Or.inr (congrArg FieldError.field record)

/-- The times are reported at their fields. -/
theorem timeErrors_field {parseTime : String → ParsedTime} {event : HostOtEvent}
    {error : FieldError} (member : error ∈ timeErrors parseTime event) :
    error.field = "first_observed_at" ∨ error.field = "last_observed_at" := by
  have parsed : ∀ (label : String) (time : ParsedTime), error ∈ time.errors label →
      error.field = label := by
    intro label time inside
    cases time <;> simp [ParsedTime.errors] at inside
    rw [inside]
  simp only [timeErrors, List.mem_append] at member
  rcases member with (first | last) | order
  · exact Or.inl (parsed _ _ first)
  · exact Or.inr (parsed _ _ last)
  · split at order
    · split_ifs at order
      · rw [List.mem_singleton.mp order]
        exact Or.inr rfl
      · cases order
    · cases order

/-- The function codes are reported at their field. -/
theorem functionCodeErrors_field {modbus : ModbusEvidence} {error : FieldError}
    (member : error ∈ functionCodeErrors modbus) : error.field = "modbus.function_codes" := by
  unfold functionCodeErrors at member
  split_ifs at member <;> simp at member
  rw [member]

/-- So is the count of the requests. -/
theorem requestCountErrors_field {modbus : ModbusEvidence} {error : FieldError}
    (member : error ∈ requestCountErrors modbus) : error.field = "modbus.request_count" := by
  unfold requestCountErrors at member
  split_ifs at member <;> simp at member
  rw [member]

/-- So are the states of the outcome. -/
theorem outcomeErrors_field {modbus : ModbusEvidence} {outcome : Outcome} {error : FieldError}
    (member : error ∈ outcomeErrors modbus outcome) : error.field = "outcome.states" := by
  unfold outcomeErrors at member
  split_ifs at member <;> simp at member
  rw [member]

/-- The fields of the detection that the receiver recomputes. -/
def detectionFields : List String :=
  ["detection.classification", "detection.severity", "detection.priority"]

/-- The detection is reported at its own fields. -/
theorem detectionErrors_field {event : HostOtEvent} {detection : Detection} {error : FieldError}
    (member : error ∈ detectionErrors event detection) : error.field ∈ detectionFields := by
  have named : ∀ field expected actual, error ∈ expectedError field expected actual →
      error.field = "detection." ++ field := by
    intro field expected actual inside
    unfold expectedError at inside
    split_ifs at inside <;> simp at inside
    rw [inside]
  simp only [detectionErrors, List.mem_append] at member
  rcases member with (classification | severity) | priority
  · rw [named _ _ _ classification]
    decide
  · rw [named _ _ _ severity]
    decide
  · rw [named _ _ _ priority]
    decide

/-- The truth is reported at its field. -/
theorem truthErrors_field {event : HostOtEvent} {outcome : Outcome} {error : FieldError}
    (member : error ∈ truthErrors event outcome) : error.field = "evidence.truth" := by
  simp only [truthErrors, List.mem_append] at member
  rcases member with (observed | processed) | rejected
  · split_ifs at observed <;> simp at observed
    rw [observed]
  · split_ifs at processed <;> simp at processed
    rw [processed]
  · split_ifs at rejected <;> simp at rejected
    rw [rejected]

/-- The errors of the receiver that name the detection are those of its group. -/
theorem semanticErrors_detection {parseTime : String → ParsedTime} {event : HostOtEvent}
    {modbus : ModbusEvidence} {outcome : Outcome} {detection : Detection}
    (write : event.eventType = .modbusWrite) (hasModbus : event.modbus = some modbus)
    (hasOutcome : event.outcome = some outcome) (hasDetection : event.detection = some detection)
    {error : FieldError} (named : error.field ∈ detectionFields) :
    error ∈ semanticErrors parseTime event ↔ error ∈ detectionErrors event detection := by
  simp only [semanticErrors, write, hasModbus, hasOutcome, hasDetection, List.mem_append]
  constructor
  · intro member
    -- Every other group names a field outside the detection.
    rcases member with (identity | time) | (((codes | requests) | outcomes) | inside) | truth
    · rcases identityErrors_field identity with field | field <;>
        exact absurd (field ▸ named) (by decide)
    · rcases timeErrors_field time with field | field <;>
        exact absurd (field ▸ named) (by decide)
    · exact absurd (functionCodeErrors_field codes ▸ named) (by decide)
    · exact absurd (requestCountErrors_field requests ▸ named) (by decide)
    · exact absurd (outcomeErrors_field outcomes ▸ named) (by decide)
    · exact inside
    · exact absurd (truthErrors_field truth ▸ named) (by decide)
  · exact fun inside => Or.inr (Or.inl (Or.inr inside))

end DTLab
