import DTLab.Contract.Event
import DTLab.Library.Calendar

/-!
# Observations of Modbus writes

`core.make_observation` and what it calls: a decoded request becomes a normalised write, the
peer is classified, and both form the observation that the aggregator consumes. A request is
the record of the public attributes the extractor reads; an attribute that is missing or
`None` is `none`. The SHA-256 of a text is a parameter, as is the type of clock readings.
-/

namespace DTLab

open Library (Json Text DateTime)

/-- `GENERIC_RULE_ID`. -/
def genericRuleId : String := "DTLAB-MODBUS-WRITE-OBSERVED"
/-- `SHUTDOWN_RULE_ID`. -/
def shutdownRuleId : String := "DTLAB-MODBUS-SHUTDOWN-SEQUENCE"
/-- `SOURCE_ID`. -/
def sourceId : String := "src:dtlab-host-ot:plc-desktop"
/-- `EVENT_SCHEMA_VERSION`. -/
def eventSchemaVersion : String := "dtlab-host-ot-event-v1"
/-- `DEFAULT_MAX_OPERATION_BUCKETS`. -/
def defaultMaxOperationBuckets : Int := 64
/-- `DEFAULT_MAX_VALUES`. -/
def defaultMaxValues : Int := 32

/-- A reading of the wall clock in UTC, which begins in 1970. -/
structure WallClock where
  time : DateTime
  valid : time.Valid
  since : 1970 ≤ time.year

/-- `utc_now_text`, for a reading of the wall clock. -/
def utcNowText (now : WallClock) : String := String.ofList (now.time.isoText ++ ['Z'])

/-- `canonical_json`: deterministic ASCII JSON. -/
def canonicalJson (value : Json) : Text := value.dumps true

/-- A value that Pymodbus puts in a request attribute. -/
inductive Scalar where
  | none
  | bool (value : Bool)
  | int (value : Int)
  deriving DecidableEq

/-- A request attribute that may hold one value or a list of values. -/
inductive Attribute where
  | scalar (value : Scalar)
  | list (values : List Scalar)
  deriving DecidableEq

/-- The public attributes of a decoded request that the extractor reads. -/
structure Request where
  functionCode : Scalar := .none
  unitId : Scalar := .none
  address : Scalar := .none
  writeAddress : Scalar := .none
  values : Attribute := .scalar .none
  writeRegisters : Attribute := .scalar .none
  /-- `value`, when the request has that attribute. -/
  value : Option Scalar := Option.none
  count : Scalar := .none
  writeCount : Scalar := .none
  deriving DecidableEq

/-- `_integer`: `int(value)`, or nothing where Python raises. -/
def Scalar.integer : Scalar → Option Int
  | .none => Option.none
  | .bool value => some (if value then 1 else 0)
  | .int value => some value

/-- A scalar as JSON. -/
def Scalar.toJson : Scalar → Json
  | .none => .null
  | .bool value => .bool value
  | .int value => .int value

/-- `values[:maximum]`: a negative bound drops values from the end. -/
def sliceTo (maximum : Int) (values : List Int) : List Int :=
  if 0 ≤ maximum then values.take maximum.toNat
  else values.take (values.length - (-maximum).toNat)

/-- The list that `isinstance(values, (list, tuple))` makes of raw values; `None` is empty. -/
def Attribute.asList : Attribute → List Scalar
  | .scalar .none => []
  | .scalar value => [value]
  | .list values => values

/-- `_bounded_values`: the integers among the values, at most `maximum` of them, and whether
some were left out. -/
def boundedValues (values : Attribute) (maximum : Int) : List Int × Bool :=
  if values = .scalar .none then ([], false)
  else
    let normalized := values.asList.filterMap Scalar.integer
    (sliceTo maximum normalized, decide (maximum < normalized.length))

/-- One normalised write. `extract_modbus_write` clamps the quantity to at least one. -/
structure Operation where
  functionCode : FunctionCode
  unitId : Int
  address : Int
  quantity : Int
  values : List Int
  valuesSha256 : String
  valuesTruncated : Bool
  /-- `max(1, quantity)`. -/
  one_le_quantity : 1 ≤ quantity
  deriving DecidableEq

/-- The attribute that holds the values of a write of a function code. -/
def Request.rawValues (request : Request) (functionCode : FunctionCode) : Attribute :=
  if functionCode = .readWriteMultipleRegisters then
    if request.writeRegisters = .scalar .none then request.values else request.writeRegisters
  else if request.values = .scalar .none then
    match request.value with
    | some value => .list [value]
    | none => .scalar .none
  else request.values

/-- The address attribute of a write of a function code. -/
def Request.rawAddress (request : Request) (functionCode : FunctionCode) : Scalar :=
  if functionCode = .readWriteMultipleRegisters then request.writeAddress else request.address

/-- The quantity attribute of a write of a function code. -/
def Request.rawQuantity (request : Request) (functionCode : FunctionCode) : Option Int :=
  if functionCode = .readWriteMultipleRegisters then
    request.writeCount.integer <|> request.count.integer
  else request.count.integer

/-- `extract_modbus_write`: one normalised write, or nothing for other function codes. -/
def extractModbusWrite (sha256Text : Text → String) (request : Request) (maxValues : Int) :
    Option Operation := do
  let functionCode ← request.functionCode.integer.bind FunctionCode.ofNumber
  let rawValues := request.rawValues functionCode
  let (values, valuesTruncated) := boundedValues rawValues maxValues
  let quantity := (request.rawQuantity functionCode).getD (max 1 values.length)
  some {
    functionCode
    unitId := request.unitId.integer.getD 0
    address := (request.rawAddress functionCode).integer.getD 0
    quantity := max 1 quantity
    values
    valuesSha256 := sha256Text (canonicalJson (.arr (rawValues.asList.map Scalar.toJson)))
    valuesTruncated
    one_le_quantity := le_max_left 1 quantity }

/-- The configuration that `make_observation` reads. -/
structure ObservationConfig where
  destinationIp : String
  destinationAssetId : String
  localIps : List String
  authorizedHmiIps : List String := []
  securityTestIps : List String := []
  maxValuesPerWrite : Int := defaultMaxValues
  deriving DecidableEq

/-- `classify_source`. -/
def classifySource (sourceIp destinationIp : String) (config : ObservationConfig) :
    SourceClassification :=
  if sourceIp ≠ "" ∧ (sourceIp = destinationIp ∨ sourceIp ∈ config.localIps) then .plcSelf
  else if sourceIp ∈ config.authorizedHmiIps then .authorizedHmi
  else if sourceIp ∈ config.securityTestIps then .securityTest
  else .unknown

/-- The outcome state that `make_observation` records for a text. -/
def OutcomeState.ofText (text : String) : OutcomeState :=
  if text = "processed" then .processed
  else if text = "rejected" then .rejected
  else .unknown

/-- One end of a connection, as `_endpoint` reports it. -/
structure Endpoint where
  ip : String
  port : Option Int
  deriving DecidableEq

/-- The observation consumed by the aggregator. -/
structure Observation (τ : Type) where
  observedAt : String
  observedEpoch : τ
  source : Source
  destination : Destination
  operation : Operation
  outcomeState : OutcomeState
  deriving DecidableEq

/-- `make_observation`, for given readings of the two clocks. -/
def makeObservation {τ : Type} (sha256Text : Text → String) (config : ObservationConfig)
    (request : Request) (source destination : Endpoint) (outcomeState : String)
    (observedAt : String) (observedEpoch : τ) : Option (Observation τ) := do
  let operation ← extractModbusWrite sha256Text request config.maxValuesPerWrite
  let destinationIp :=
    if config.destinationIp = "" then destination.ip else config.destinationIp
  some {
    observedAt
    observedEpoch
    source :=
      { ip := source.ip, port := source.port
        classification := classifySource source.ip destinationIp config }
    destination :=
      { assetId := config.destinationAssetId, ip := destinationIp, port := 502
        unitId := operation.unitId }
    operation
    outcomeState := OutcomeState.ofText outcomeState }

end DTLab
