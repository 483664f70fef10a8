import DTLab.Contract.Secrets
import DTLab.Receiver.Limits
import DTLab.Tickets.Policy

/-!
# Event documents at the receiver

`validate_host_ot_event` and `signal_from_host_ot_event` on documents as they are read, whatever
their shape. A number may be a float without a fraction, as the schema lets it be; the arithmetic
of floats, the validator of schemas and the reader of timestamps are parameters.
-/

namespace DTLab

open Library (Text Json SchemaDialect FloatLiteral)

/-- What the receiver takes from its surroundings. -/
structure ReceiverPlatform where
  store : StorePlatform
  /-- A SHA-256 is written with 64 hexadecimal digits. -/
  sha256_hex : ∀ text, isDigestBody (store.sha256Text text).toList = true
  dialect : SchemaDialect
  /-- The errors of `iter_errors` for the event schema, as their texts. -/
  schemaErrors : Json → List String
  /-- The validator has no error exactly for the documents that the schema accepts. -/
  schemaErrors_eq_nil : ∀ document,
    schemaErrors document = [] ↔ hostOtEventSchema.accepts dialect document = true
  /-- `datetime.fromisoformat` behind `replace("Z", "+00:00")`. -/
  parseTime : String → ParsedTime
  /-- A float plus an integer. -/
  floatPlus : FloatLiteral → Nat → FloatLiteral
  /-- Why `json.dumps` cannot write a document. -/
  unwritable : Json → String

variable (platform : ReceiverPlatform)

/-! ## Reading a document -/

/-- The member at a path of keys. -/
def memberAt (path : List String) (document : Json) : Option Json :=
  path.foldlM (fun value key => value.get key) document

/-- The text at a path of keys, where there is one. -/
def textAt (path : List String) (document : Json) : String :=
  (Json.text? (memberAt path document)).getD ""

/-- The items at a path of keys. -/
def itemsAt (path : List String) (document : Json) : List Json :=
  Json.items (memberAt path document)

/-- A member that is `True`. -/
def isTrue (value : Option Json) : Bool :=
  match value with
  | some (.bool answer) => answer
  | _ => false

/-- A value of the type `int`. -/
def instanceInt : Option Json → Option Int
  | some (.int n) => some n
  | some (.bool answer) => some answer.toInt
  | _ => none

/-- `int(value or 0)` of a number. -/
def wholeNumber (value : Option Json) : Int :=
  ((value.bind (Json.number platform.dialect)).getD 0).floor

/-- The numbers of a list, as a set. -/
def numberSet (values : List Json) : Finset ℚ :=
  (values.filterMap (Json.number platform.dialect)).toFinset

/-! ## Validation -/

/-- The registers that a bucket of the document sets, with the values. -/
def bucketRegisters (bucket : Json) : List (Int × Int) :=
  if isTrue (bucket.get "values_truncated") then []
  else
    match instanceInt (bucket.get "address") with
    | none => []
    | some address => (Json.items (bucket.get "values")).zipIdx.filterMap fun entry =>
      (instanceInt (some entry.1)).map fun value => (address + entry.2, value)

/-- `_register_values`, as the list of registers with a value they were set to. -/
def documentRegisters (document : Json) : List (Int × Int) :=
  (itemsAt ["modbus", "writes"] document).flatMap bucketRegisters

/-- `is_shutdown_sequence`. -/
def isShutdownDocument (document : Json) : Bool :=
  decide (∀ register ∈ shutdownRegisters, (documentRegisters document).contains (register, 0))

/-- The ids that must agree. -/
def documentIdentityErrors (document : Json) : List FieldError :=
  (if textAt ["episode_id"] document ≠ textAt ["event_id"] document then
    [⟨"episode_id", "deve coincidere con event_id"⟩] else []) ++
  if textAt ["evidence", "source_record_id"] document ≠ textAt ["event_id"] document then
    [⟨"evidence.source_record_id", "deve coincidere con event_id"⟩] else []

/-- The order of the two times, where neither is outside of the calendar. -/
def documentTimeErrors (document : Json) : List FieldError :=
  let first := platform.parseTime (textAt ["first_observed_at"] document)
  let last := platform.parseTime (textAt ["last_observed_at"] document)
  first.errors "first_observed_at" ++ last.errors "last_observed_at" ++
  match first.instant?, last.instant? with
  | some first, some last =>
    if last < first then [⟨"last_observed_at", "precedente a first_observed_at"⟩] else []
  | _, _ => []

/-- What the counters of a write must agree with. -/
def documentCountErrors (document : Json) : List FieldError :=
  let writes := itemsAt ["modbus", "writes"] document
  let requests := wholeNumber platform (memberAt ["modbus", "request_count"] document)
  let counted := (writes.map fun bucket => wholeNumber platform (bucket.get "count")).sum
  let dropped := wholeNumber platform (memberAt ["modbus", "dropped_operation_buckets"] document)
  let outcomes := (["processed", "rejected", "unknown"].map fun state =>
    wholeNumber platform (memberAt ["outcome", "states", state] document)).sum
  (if numberSet platform (itemsAt ["modbus", "function_codes"] document) ≠
      numberSet platform (writes.filterMap fun bucket => bucket.get "function_code") then
    [⟨"modbus.function_codes", "incoerente con i bucket writes"⟩] else []) ++
  (if counted + dropped ≠ requests then
    [⟨"modbus.request_count",
      "deve uguagliare count bucket + dropped_operation_buckets"⟩] else []) ++
  if outcomes ≠ requests then
    [⟨"outcome.states", "il totale deve uguagliare request_count"⟩] else []

/-- The detection against the verdict of the registers. -/
def documentDetectionErrors (document : Json) : List FieldError :=
  let shutdown := isShutdownDocument document
  expectedError "classification"
      (if shutdown then "process_shutdown_sequence" else "modbus_write")
      (textAt ["detection", "classification"] document) ++
  expectedError "severity" (if shutdown then "critical" else "high")
    (textAt ["detection", "severity"] document) ++
  expectedError "priority" (if shutdown then "p1" else "p2")
    (textAt ["detection", "priority"] document)

/-- The declared truth against the outcome counters. -/
def documentTruthErrors (document : Json) : List FieldError :=
  let truth := textAt ["evidence", "truth"] document
  let processed := wholeNumber platform (memberAt ["outcome", "states", "processed"] document)
  let rejected := wholeNumber platform (memberAt ["outcome", "states", "rejected"] document)
  (if truth = "endpoint_request_observed" ∧ (processed ≠ 0 ∨ rejected ≠ 0) then
    [⟨"evidence.truth", "request_observed non può dichiarare esiti processed/rejected"⟩]
    else []) ++
  (if truth = "endpoint_server_processed" ∧ processed = 0 then
    [⟨"evidence.truth", "nessuna richiesta processed presente"⟩] else []) ++
  if truth = "endpoint_server_rejected" ∧ rejected = 0 then
    [⟨"evidence.truth", "nessuna richiesta rejected presente"⟩] else []

/-- An event with the parts of a write. -/
def hasWriteParts (document : Json) : Bool :=
  ["modbus", "outcome", "detection"].all fun key =>
    ((document.get key).map Json.isObject).getD false

/-- `_semantic_errors`. -/
def documentSemanticErrors (document : Json) : List FieldError :=
  documentIdentityErrors document ++ documentTimeErrors platform document ++
  if textAt ["event_type"] document ≠ "heartbeat" ∧ hasWriteParts document then
    documentCountErrors platform document ++ documentDetectionErrors document ++
      documentTruthErrors platform document
  else []

/-- The canonical text of a document, with its newline. -/
def canonicalDocument (document : Json) : Text := document.dumps false ++ ['\n']

/-- The error of a document beyond the limit on its bytes. -/
def sizeErrors (document : Json) : List String :=
  let bytes := Library.textCost Char.utf8Size (canonicalDocument document)
  if maxHostOtEventBytes < bytes then
    ["$: documento oltre " ++ toString maxHostOtEventBytes ++ " byte (" ++ toString bytes ++ ")"]
  else []

/-- The errors in the contents of a document that can be written. -/
def contentErrors (document : Json) : List String :=
  let shape := sizeErrors document ++ platform.schemaErrors document
  shape ++
    (if shape = [] then (documentSemanticErrors platform document).map FieldError.text else []) ++
    findSecretLeaks "$" document

/-- The errors that `validate_host_ot_event` collects. -/
def hostOtEventErrors (document : Json) : List String :=
  if document.isObject = false then ["$: è richiesto un oggetto JSON"]
  else if document.IntegersBelow (10 ^ maxIntegerDigits) then contentErrors platform document
  else ["$: documento non serializzabile (" ++ platform.unwritable document ++ ")"]

/-- `_parse_time` raises `OverflowError` for one of the two times. -/
def DocumentTimesOverflow (document : Json) : Prop :=
  platform.parseTime (textAt ["first_observed_at"] document) = .outside ∨
    platform.parseTime (textAt ["last_observed_at"] document) = .outside

instance (document : Json) : Decidable (DocumentTimesOverflow platform document) :=
  inferInstanceAs (Decidable (_ ∨ _))

/-- What the receiver raises. -/
inductive ReceiverFault where
  /-- `HostOtEventValidationError`. -/
  | event (errors : List String)
  /-- `HostOtIngressError`. -/
  | ingress (message : String)
  /-- Any other `ValueError`. -/
  | value (message : String)
  /-- `OverflowError`. -/
  | overflow
  | store (fault : TicketError)
  deriving DecidableEq

/-- `validate_host_ot_event`. The times are read behind the checks of size and schema, and where one
of them overflows no other error is reported. -/
def validateHostOtEvent (document : Json) : Except ReceiverFault Unit :=
  if document.isObject = true ∧ document.IntegersBelow (10 ^ maxIntegerDigits) ∧
      sizeErrors document ++ platform.schemaErrors document = [] ∧
      DocumentTimesOverflow platform document then .error .overflow
  else if hostOtEventErrors platform document ≠ [] then
    .error (.event (hostOtEventErrors platform document).eraseDups)
  else .ok ()

/-- A document that `validate_host_ot_event` returns. -/
structure Validated (document : Json) : Prop where
  isObject : document.isObject = true
  serialisable : document.IntegersBelow (10 ^ maxIntegerDigits)
  within : Library.textCost Char.utf8Size (canonicalDocument document) ≤ maxHostOtEventBytes
  schema : hostOtEventSchema.accepts platform.dialect document = true
  inside : ¬ DocumentTimesOverflow platform document
  meaningful : documentSemanticErrors platform document = []
  clear : Clear document

variable {platform} in
/-- A document has no error of size or schema exactly when both checks accept it. -/
theorem shapeErrors_eq_nil {document : Json} :
    sizeErrors document ++ platform.schemaErrors document = [] ↔
      Library.textCost Char.utf8Size (canonicalDocument document) ≤ maxHostOtEventBytes ∧
        hostOtEventSchema.accepts platform.dialect document = true := by
  rw [List.append_eq_nil_iff, platform.schemaErrors_eq_nil]
  simp [sizeErrors]

variable {platform} in
/-- A document is returned exactly when every check accepts it. -/
theorem validateHostOtEvent_eq_ok {document : Json} :
    validateHostOtEvent platform document = .ok () ↔ Validated platform document := by
  constructor
  · intro returned
    unfold validateHostOtEvent at returned
    split_ifs at returned with overflows none
    have none := not_not.mp none
    unfold hostOtEventErrors at none
    split_ifs at none with other serialisable
    obtain ⟨shapes, clear⟩ := List.append_eq_nil_iff.mp none
    obtain ⟨shape, semantic⟩ := List.append_eq_nil_iff.mp shapes
    rw [if_pos shape] at semantic
    have isObject := eq_true_of_ne_false other
    obtain ⟨within, schema⟩ := shapeErrors_eq_nil.mp shape
    exact ⟨isObject, serialisable, within, schema,
      fun outside => overflows ⟨isObject, serialisable, shape, outside⟩,
      List.map_eq_nil_iff.mp semantic, (findSecretLeaks_eq_nil "$" document).mp clear⟩
  · intro valid
    have shape : sizeErrors document ++ platform.schemaErrors document = [] :=
      shapeErrors_eq_nil.mpr ⟨valid.within, valid.schema⟩
    have none : hostOtEventErrors platform document = [] := by
      simp [hostOtEventErrors, valid.isObject, valid.serialisable, contentErrors, shape,
        valid.meaningful, (findSecretLeaks_eq_nil "$" document).mpr valid.clear]
    rw [validateHostOtEvent, if_neg fun overflows => valid.inside overflows.2.2.2,
      if_neg (not_not.mpr none)]

/-! ## The signal of an event -/

/-- `_fingerprint`. -/
def hostOtFingerprint (document : Json) : String :=
  platform.store.sha256Text ((Json.obj [("signal_type", .str hostOtSignalType),
    ("source_id", .str hostOtSourceId),
    ("source_record_id", .str (textAt ["episode_id"] document))]).dumps false)

/-- `_source_path_label`. -/
def sourcePathLabel (document : Json) : String :=
  let classification := textAt ["source", "classification"] document
  if classification = "plc_self" ∨
      textAt ["source", "ip"] document = textAt ["destination", "ip"] document then "PLC→PLC"
  else if classification = "security_test" then "Kali/test di sicurezza→PLC"
  else if classification = "authorized_hmi" then "HMI autorizzata→PLC"
  else "sorgente sconosciuta→PLC"

/-- A number plus an offset. -/
def shifted (offset : Nat) : Json → Json
  | .int n => .int (n + offset)
  | .float literal => .float (platform.floatPlus literal offset)
  | other => other

/-- `str` of a member. -/
def strOf (value : Option Json) : String := platform.store.str (value.getD .null)

/-- The registers of a bucket, as the description names them. -/
def registerPairs (bucket : Json) : List String :=
  let address := bucket.get "address"
  if isTrue (bucket.get "values_truncated") then
    [strOf platform address ++ "=<valori troncati>"]
  else ((Json.items (bucket.get "values")).take 8).zipIdx.map fun entry =>
    strOf platform (address.map (shifted platform entry.2)) ++ "=" ++ platform.store.str entry.1

/-- `_description`. -/
def eventDescription (document : Json) (shutdown : Bool) : String :=
  let pairs := (itemsAt ["modbus", "writes"] document).flatMap (registerPairs platform)
  let named := if 16 < pairs.length then pairs.take 16 ++ ["…"] else pairs
  let port := memberAt ["source", "port"] document
  let ip := textAt ["source", "ip"] document
  let endpoint := if Json.isNull port then ip else ip ++ ":" ++ strOf platform port
  let codes := (itemsAt ["modbus", "function_codes"] document).map platform.store.str
  "Rilevata " ++ (if shutdown then "sequenza di arresto" else "scrittura Modbus") ++ " " ++
    sourcePathLabel document ++ " da " ++ endpoint ++ " verso " ++
    textAt ["destination", "ip"] document ++ ":502, Unit ID " ++
    strOf platform (memberAt ["destination", "unit_id"] document) ++ ", FC " ++
    ",".intercalate codes ++ ", registri " ++ ", ".intercalate named ++ ". Stato evidenza: " ++
    textAt ["evidence", "truth"] document ++ "."

/-- The title of the signal. -/
def eventTitle (document : Json) (shutdown : Bool) : String :=
  if shutdown then "Sequenza Modbus di arresto " ++ sourcePathLabel document ++ " rilevata"
  else "Scrittura Modbus " ++ sourcePathLabel document ++ " rilevata"

/-- `_NON_CISCO_NOTE`. -/
def nonCiscoNote : String := "Rilevazione host-side DTLab; non restituita da Cisco Cyber Vision."

/-- The literal of a completeness. -/
def completenessLiteral (full : Bool) : FloatLiteral :=
  if full then ⟨['1', '.', '0'], by decide⟩ else ⟨['0', '.', '8'], by decide⟩

/-- The evidence of the signal. -/
def eventEvidence (document : Json) : List (String × Json) :=
  let notes := (itemsAt ["evidence", "notes"] document).map platform.store.str
  let truth := textAt ["evidence", "truth"] document
  let observed := textAt ["last_observed_at"] document
  [("completeness", .float (completenessLiteral
      (truth == "endpoint_server_processed" || truth == "endpoint_server_rejected"))),
    ("fetched_at", .str observed),
    ("notes", .arr ((if nonCiscoNote ∈ notes then notes else notes ++ [nonCiscoNote]).map .str)),
    ("observed_at", .str observed), ("source_id", .str hostOtSourceId),
    ("source_record_id", .str (textAt ["episode_id"] document)), ("truth", .str "observed")]

/-- The SHA-256 of the canonical document. -/
def documentSha256 (document : Json) : String :=
  platform.store.sha256Text (canonicalDocument document)

/-- The payload of the signal. -/
def eventPayload (document : Json) : List (String × Json) :=
  [("event", document), ("source_attribution", .str "dtlab_host_sensor_not_cisco"),
    ("source_scope", .str hostOtSourceScope)]

/-- The signal of a write. -/
def hostOtSignal (document : Json) : SignalInput :=
  let shutdown := isShutdownDocument document
  { fingerprint := hostOtFingerprint platform document
    signalType := hostOtSignalType
    snapshotSha256 := documentSha256 platform document
    evidence := eventEvidence platform document
    severity := if shutdown then "critical" else "high"
    title := eventTitle document shutdown
    description := eventDescription platform document shutdown
    occurredAt := some (textAt ["first_observed_at"] document)
    observedAt := textAt ["last_observed_at"] document
    assetIds := [textAt ["destination", "asset_id"] document]
    recommendedAction := some ("Confermare autorizzazione, stato del processo e rollback con il " ++
      "referente OT; non eseguire remediation automatica.")
    payload := eventPayload document }

/-- `signal_from_host_ot_event`: the digest, and the signal of a write. -/
def signalFromHostOtEvent (document : Json) (documentSha256 : Option String) :
    Except ReceiverFault (String × Option SignalInput) := do
  validateHostOtEvent platform document
  let digest := DTLab.documentSha256 platform document
  let expected := documentSha256.map fun text => platform.store.lower (strip text)
  if ∃ text ∈ expected, isDigestBody text.toList = false then
    .error (.event ["document_sha256: SHA-256 non valido"])
  else if ∃ text ∈ expected, text ≠ digest then
    .error (.event ["document_sha256: non corrisponde al documento canonico"])
  else if textAt ["event_type"] document = "heartbeat" then .ok (digest, none)
  else .ok (digest, some (hostOtSignal platform document))

end DTLab
