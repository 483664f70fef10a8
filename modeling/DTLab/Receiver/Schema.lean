import DTLab.Contract.Event
import DTLab.Library.Calendar
import DTLab.Library.JsonSchema

/-!
# The schema of host OT events

The schema `dtlab-host-ot-event-v1` as data, definition by definition, and for each definition
what it says of the value it is about. The receiver accepts the shape of a document exactly when
the event is well shaped.
-/

namespace DTLab

open Library (Json Text Schema SchemaDialect JsonKind SchemaConstant)
open Library.Schema (accepts_object accepts_integerIn accepts_oneOf_two)

/-! ## Patterns -/

/-- The texts that end where `$` matches: at the end, or in front of a last newline. -/
def endsLine (body : Text → Bool) (text : String) : Bool :=
  body text.toList || (text.toList.getLast? == some '\n' && body text.toList.dropLast)

/-- A character of `[A-Za-z0-9._:-]`. -/
def isIdentifierChar (c : Char) : Bool :=
  c.isAlphanum || c == '.' || c == '_' || c == ':' || c == '-'

/-- `[A-Za-z0-9][A-Za-z0-9._:-]*`. -/
def isIdentifierBody : Text → Bool
  | [] => false
  | c :: rest => c.isAlphanum && rest.all isIdentifierChar

/-- `^[A-Za-z0-9][A-Za-z0-9._:-]*$`. -/
def identifierPattern : String → Bool := endsLine isIdentifierBody

/-- `[0-9a-f]{64}`. -/
def isDigestBody (text : Text) : Bool :=
  decide (text.length = 64) &&
    text.all fun c => c.isDigit || decide ('a'.toNat ≤ c.toNat ∧ c.toNat ≤ 'f'.toNat)

/-- Decimal digits are hexadecimal ones. -/
theorem isDigestBody_digits (number : Nat) : isDigestBody (Library.digits 64 number) = true := by
  rw [isDigestBody, Library.length_digits, Bool.and_eq_true, List.all_eq_true]
  refine ⟨rfl, ?_⟩
  intro c member
  rw [Library.digits_isDigit 64 number c member]
  rfl

/-- `^[0-9a-f]{64}$`. -/
def digestPattern : String → Bool := endsLine isDigestBody

/-! ## Definitions of the schema -/

/-- A text whose length is within bounds. -/
def textSchema (low high : Nat) : Schema :=
  .allOf [.type [.string], .minLength low, .maxLength high]

/-- One of some texts. -/
def choiceSchema (texts : List String) : Schema :=
  .allOf [.type [.string], .enum (texts.map .string)]

/-- `const`. -/
def constSchema (text : String) : Schema := .enum [.string text]

/-- A value of a schema, or `null`. -/
def orNull (schema : Schema) : Schema := .oneOf [schema, .type [.null]]

/-- `$defs.identifier`. -/
def identifierSchema : Schema :=
  .allOf [.type [.string], .minLength 1, .maxLength 256, .pattern identifierPattern]

/-- `$defs.dateTime`. -/
def dateTimeSchema : Schema := .allOf [.type [.string], .format "date-time"]

/-- `$defs.ipAddress`. -/
def ipAddressSchema : Schema :=
  .oneOf [.allOf [.type [.string], .format "ipv4"], .allOf [.type [.string], .format "ipv6"]]

/-- `$defs.sensor`. -/
def sensorSchema : Schema :=
  .object ["id", "version", "capture_kind"]
    [("id", identifierSchema), ("version", textSchema 1 64),
      ("capture_kind", choiceSchema ["server_hook", "packet_capture", "process_wrapper"])]

/-- `$defs.source`. -/
def sourceSchema : Schema :=
  .object ["ip", "port", "classification"]
    [("ip", ipAddressSchema),
      ("port", .allOf [.type [.integer, .null], .minimum 1, .maximum 65535]),
      ("classification", choiceSchema ["plc_self", "authorized_hmi", "security_test", "unknown"])]

/-- `$defs.destination`. -/
def destinationSchema : Schema :=
  .object ["asset_id", "ip", "port", "unit_id"]
    [("asset_id", textSchema 1 1024), ("ip", ipAddressSchema), ("port", .enum [.integer 502]),
      ("unit_id", .integerIn 0 255)]

/-- The codes of `function_code` and `function_codes`. -/
def functionCodeSchema : Schema :=
  .allOf [.type [.integer],
    .enum [.integer 5, .integer 6, .integer 15, .integer 16, .integer 22, .integer 23]]

/-- `$defs.write`. -/
def writeSchema : Schema :=
  .object ["function_code", "address", "quantity", "values", "values_sha256", "values_truncated",
      "count"]
    [("function_code", functionCodeSchema), ("address", .integerIn 0 65535),
      ("quantity", .integerIn 1 1968),
      ("values", .allOf [.type [.array], .maxItems 123, .items (.integerIn 0 65535)]),
      ("values_sha256", .allOf [.type [.string], .pattern digestPattern]),
      ("values_truncated", .type [.boolean]),
      ("count", .allOf [.type [.integer], .minimum 1])]

/-- `$defs.modbus`. -/
def modbusSchema : Schema :=
  .object ["operation", "function_codes", "writes", "request_count", "dropped_operation_buckets"]
    [("operation", constSchema "write"),
      ("function_codes", .allOf [.type [.array], .minItems 1, .uniqueItems,
        .items functionCodeSchema]),
      ("writes", .allOf [.type [.array], .minItems 1, .maxItems 256, .items writeSchema]),
      ("request_count", .allOf [.type [.integer], .minimum 1]),
      ("dropped_operation_buckets", .allOf [.type [.integer], .minimum 0])]

/-- The counts of the outcomes in `$defs.outcome`. -/
def outcomeStatesSchema : Schema :=
  .object ["processed", "rejected", "unknown"]
    [("processed", .allOf [.type [.integer], .minimum 0]),
      ("rejected", .allOf [.type [.integer], .minimum 0]),
      ("unknown", .allOf [.type [.integer], .minimum 0])]

/-- `$defs.outcome`. -/
def outcomeSchema : Schema :=
  .object ["states", "last_state"]
    [("states", outcomeStatesSchema),
      ("last_state", choiceSchema ["processed", "rejected", "unknown"])]

/-- `$defs.detection`. -/
def detectionSchema : Schema :=
  .object ["rule_id", "classification", "severity", "priority", "policy_decision", "reason"]
    [("rule_id", identifierSchema),
      ("classification", choiceSchema ["modbus_write", "process_shutdown_sequence"]),
      ("severity", choiceSchema ["high", "critical"]), ("priority", choiceSchema ["p2", "p1"]),
      ("policy_decision", constSchema "alert"), ("reason", textSchema 1 2048)]

/-- `$defs.evidence`. -/
def evidenceSchema : Schema :=
  .object ["truth", "source_id", "source_record_id", "notes"]
    [("truth", choiceSchema ["endpoint_request_observed", "endpoint_server_processed",
        "endpoint_server_rejected", "endpoint_heartbeat"]),
      ("source_id", constSchema "src:dtlab-host-ot:plc-desktop"),
      ("source_record_id", identifierSchema),
      ("notes", .allOf [.type [.array], .maxItems 32, .items (textSchema 1 2048)])]

/-- `$defs.process`. -/
def processSchema : Schema :=
  .object ["pid", "executable", "script"]
    [("pid", .allOf [.type [.integer, .null], .minimum 1]),
      ("executable", .allOf [.type [.string, .null], .minLength 1, .maxLength 512]),
      ("script", .allOf [.type [.string, .null], .minLength 1, .maxLength 512])]

/-- The evidence of one event type. -/
def evidenceWithTruth (truths : List String) : Schema :=
  .allOf [evidenceSchema, .properties [("truth", .enum (truths.map .string))]]

/-- What the event type calls for. -/
def eventTypeSchema : Schema :=
  .ifThenElse
    (.allOf [.properties [("event_type", constSchema "modbus_write")], .required ["event_type"]])
    (.properties [("destination", destinationSchema), ("modbus", modbusSchema),
      ("outcome", outcomeSchema), ("detection", detectionSchema),
      ("evidence", evidenceWithTruth ["endpoint_request_observed", "endpoint_server_processed",
        "endpoint_server_rejected"])])
    (.properties [("destination", .type [.null]), ("modbus", .type [.null]),
      ("outcome", .type [.null]), ("detection", .type [.null]),
      ("evidence", evidenceWithTruth ["endpoint_heartbeat"])])

/-- The members of an event. -/
def eventMembersSchema : Schema :=
  .object ["schema_version", "event_type", "event_id", "episode_id", "revision",
      "episode_sequence", "boot_id", "first_observed_at", "last_observed_at", "timestamp_basis",
      "sensor", "source", "destination", "modbus", "outcome", "detection", "evidence", "process"]
    [("schema_version", constSchema "dtlab-host-ot-event-v1"),
      ("event_type", choiceSchema ["modbus_write", "heartbeat"]),
      ("event_id", identifierSchema), ("episode_id", identifierSchema),
      ("revision", .allOf [.type [.integer], .minimum 1]),
      ("episode_sequence", .allOf [.type [.integer], .minimum 0]),
      ("boot_id", identifierSchema), ("first_observed_at", dateTimeSchema),
      ("last_observed_at", dateTimeSchema), ("timestamp_basis", constSchema "endpoint_utc"),
      ("sensor", sensorSchema), ("source", sourceSchema),
      ("destination", orNull destinationSchema), ("modbus", orNull modbusSchema),
      ("outcome", orNull outcomeSchema), ("detection", orNull detectionSchema),
      ("evidence", evidenceSchema), ("process", orNull processSchema)]

/-- `dtlab-host-ot-event-v1`. -/
def hostOtEventSchema : Schema := .allOf [eventMembersSchema, eventTypeSchema]

end DTLab
