import DTLab.Adapters.Slug
import DTLab.Library.Dict
import DTLab.Library.JsonFields

/-!
# Normalisation of Cyber Vision collections

`normalize_cybervision_collection`, of which the identifiers, the sources named as evidence and the
references between records are kept. The reader of each collection comes first, then the records it
makes.
-/

namespace DTLab.CyberVision

open Library (Json Dict)

/-- What the normalisation raises. -/
inductive NormalizationError where
  /-- `CyberVisionNormalizationError`. -/
  | refused (message : String)
  /-- `TypeError` of a loop over a value that is not iterable. -/
  | notIterable
  deriving DecidableEq

/-- `ID_PREFIX`. -/
def idPrefix : String := "cybervision:dtlab-01"

/-- `DEFAULT_SOURCE_ID`. -/
def defaultSourceId : String := "src:cisco-cyber-vision:dtlab-01"

/-- `DEFAULT_SOURCE_ID` of the source beside it. -/
def newUiSourceId : String := "src:cisco-cyber-vision-new-ui:dtlab-01"

/-! ## Reading records -/

/-- `record.get(key)`. -/
def member (record : Json) (key : String) : Json := (record.get key).getD .null

/-- The value at the end of a path of keys. -/
def walk : List String → Json → Option Json
  | [], value => some value
  | key :: path, value => (value.get key).bind (walk path)

/-- Is a value neither null nor a blank text? -/
def usable : Json → Bool
  | .null => false
  | .str text => decide (strip text ≠ "")
  | _ => true

/-- `_dig`, the paths split at their dots. -/
def dig (record : Json) (paths : List (List String)) : Option Json :=
  paths.findSome? fun path => (walk path record).filter usable

/-- A text that is given and not empty. -/
def nonempty (text : Option String) : Option String := text.filter fun text => decide (text ≠ "")

/-- The keys under which an answer can hold its items. -/
def itemKeys : List String := ["events", "items", "content", "results", "recentEvents", "data"]

mutual

/-- `_raw_items`. -/
def rawItems : Json → List Json
  | .arr values => values.filter Json.isObject
  | .obj fields => (itemKeys.findSome? fun key => ((nestedItems fields).lookup key).join).getD []
  | _ => []

/-- The items that each member of a dictionary offers: a list offers its own, a dictionary what is
found in it, if anything is. -/
def nestedItems : List (String × Json) → List (String × Option (List Json))
  | [] => []
  | (key, nested) :: fields =>
    let found := rawItems nested
    (key, match nested with
      | .arr _ => some found
      | .obj _ => if found.isEmpty then none else some found
      | _ => none) :: nestedItems fields

end

/-- The dictionaries among what a loop over `value or []` meets: the letters of a text and the keys
of a dictionary are none. -/
def wrappers : Json → List Json
  | .arr values => values.filter Json.isObject
  | _ => []

variable (platform : AdapterPlatform)

/-- Can a loop run over `value or []`? -/
def iterable : Json → Bool
  | .bool value => !value
  | .int number => decide (number = 0)
  | .float literal => platform.isZero literal
  | _ => true

/-- `_source_id`. -/
def sourceId (record : Json) (keys : List (List String)) : Option String :=
  match dig record keys with
  | none => none
  | some value =>
    if value.isObject then (dig value [["id"], ["deviceId"], ["componentId"]]).map platform.str
    else some (platform.str value)

/-- The id of a record, or its index. -/
def sourceIdOr (record : Json) (keys : List (List String)) (index : Nat) : String :=
  (nonempty (sourceId platform record keys)).getD (toString index)

/-! ## Devices and components -/

/-- `_asset_id`. -/
def assetId (deviceId : String) : String := "asset:" ++ idPrefix ++ ":" ++ slug platform deviceId

/-- `_risk_id`. -/
def riskId (deviceId : String) : String := "risk:" ++ idPrefix ++ ":" ++ slug platform deviceId

/-- `_flow_id`. -/
def flowId (flowId : String) : String := "flow:" ++ idPrefix ++ ":" ++ slug platform flowId

variable (data : Json)

/-- The devices that have an id, with it. -/
def devices : List (String × Json) :=
  (rawItems (member data "devices")).filterMap fun device =>
    (nonempty (sourceId platform device [["id"], ["deviceId"], ["uuid"]])).map fun id =>
      (id, device)

/-- `device_to_asset`. -/
def deviceToAsset : Dict String String :=
  Dict.ofPairs ((devices platform data).map fun entry => (entry.1, assetId platform entry.1))

/-- `raw_devices_by_id`. -/
def rawDevicesById : Dict String Json := Dict.ofPairs (devices platform data)

/-- The asset of a device that a component names. -/
def componentAsset (component : Json) : Option (String × String) :=
  match nonempty (sourceId platform component [["id"], ["componentId"]]),
    nonempty (sourceId platform component [["device", "id"], ["deviceId"]]) with
  | some componentId, some deviceId =>
    ((deviceToAsset platform data).get? deviceId).map fun asset => (componentId, asset)
  | _, _ => none

/-- `component_to_asset`. -/
def componentToAsset : Dict String String :=
  Dict.ofPairs ((rawItems (member data "components")).filterMap (componentAsset platform data))

/-- The asset of a side of an activity or a flow. -/
def endpoint (record : Json) (side : String) : Option String :=
  let payload := (dig record [[side]]).getD .null
  (componentToAsset platform data).get?
    ((sourceId platform payload [["id"], ["componentId"]]).getD "")

/-- The assets of a list that gains those found, none twice. -/
def appendNew (listed : List String) (found : List (Option String)) : List String :=
  found.foldl (fun listed asset =>
    match asset with
    | some asset => if asset ∈ listed then listed else listed ++ [asset]
    | none => listed) listed

/-- The fields that can name a device. -/
def deviceFields : List (List String) :=
  [["deviceId"], ["sourceDeviceId"], ["destinationDeviceId"], ["srcDeviceId"], ["dstDeviceId"],
    ["device", "id"], ["sourceDevice", "id"], ["destinationDevice", "id"]]

/-- The name of an item of the list `devices` of a record. -/
def listedDevice (device : Json) : Option String :=
  if device.isObject then sourceId platform device [["id"], ["deviceId"]]
  else some (platform.str device)

/-- `_asset_refs`. -/
def assetRefs (record : Json) : List String :=
  let named := deviceFields.map fun field => nonempty (sourceId platform record [field])
  let listed := (Json.items (dig record [["devices"]])).map (listedDevice platform)
  appendNew [] ((named ++ listed).map fun device => device.bind (deviceToAsset platform data).get?)

/-! ## What is read of each collection -/

/-- `_number` of the score of a device lies between 0 and 100. -/
def scored (deviceId : String) : Bool :=
  let device := ((rawDevicesById platform data).get? deviceId).getD .null
  match dig device [["riskScore"], ["risk_score"], ["globalScore"]] with
  | none => false
  | some value =>
    if value.isObject then
      (dig value [["value"], ["score"], ["globalScore"]]).any platform.percent
    else platform.percent value

/-- `raw_activity_to_assets`, before it is made a dictionary. -/
def activityEntries : List (String × List String) :=
  (rawItems (member data "activities")).mapIdx fun index activity =>
    (sourceIdOr platform activity [["id"], ["activityId"]] index,
      appendNew [] ([endpoint platform data activity "left",
        endpoint platform data activity "right"] ++ (assetRefs platform data activity).map some))

/-- The paths to the device of a side of a flow. -/
def sourceDevice : List (List String) :=
  [["sourceDeviceId"], ["srcDeviceId"], ["source", "deviceId"], ["source", "device", "id"]]

/-- The paths to the device of the other side of a flow. -/
def destinationDevice : List (List String) :=
  [["destinationDeviceId"], ["dstDeviceId"], ["destination", "deviceId"],
    ["destination", "device", "id"]]

/-- The asset of a side of a flow. -/
def flowSide (flow : Json) (side : String) (device : List (List String)) : Option String :=
  (nonempty (endpoint platform data flow side)).or
    ((deviceToAsset platform data).get? ((sourceId platform flow device).getD ""))

/-- The flows: their ids, and the assets of their sides. -/
def flowEntries : List (String × Option String × Option String) :=
  (rawItems (member data "flows")).mapIdx fun index flow =>
    (sourceIdOr platform flow [["id"], ["flowId"]] index,
      flowSide platform data flow "left" sourceDevice,
      flowSide platform data flow "right" destinationDevice)

/-- The events with an instant: their ids and their assets. -/
def eventEntries : List (String × List String) :=
  (rawItems (member data "event_severities")).zipIdx.filterMap fun (event, index) =>
    let occurred := (dig event [["date"], ["timestamp"], ["occurredAt"], ["lastOccurrence"]]).bind
      platform.utcText
    if (nonempty occurred).isSome then
      some (sourceIdOr platform event [["id"], ["eventId"], ["uuid"]] index,
        assetRefs platform data event)
    else none

/-- The vulnerabilities associated with devices: a device, its asset and a vulnerability. -/
def associations : List (String × String × String) :=
  (wrappers (member data "device_vulnerabilities")).flatMap fun wrapper =>
    let device := platform.str (member wrapper "device_id")
    match nonempty ((deviceToAsset platform data).get? device) with
    | none => []
    | some asset =>
      (rawItems (member wrapper "items")).filterMap fun item =>
        (nonempty (sourceId platform item [["id"], ["vulnerabilityId"], ["cveId"], ["cve"]])).map
          fun vulnerability => (device, asset, vulnerability)

/-- The associations whose asset and vulnerability were not met before. -/
def firstAssociations : List (String × String) → List (String × String × String) →
    List (String × String × String)
  | _, [] => []
  | seen, (device, asset, vulnerability) :: rest =>
    if (asset, vulnerability) ∈ seen then firstAssociations seen rest
    else (device, asset, vulnerability) :: firstAssociations ((asset, vulnerability) :: seen) rest

/-- The ids of records, or their indices, of a collection without references. -/
def recordNames (collection : String) (keys : List (List String)) : List String :=
  (rawItems (member data collection)).mapIdx fun index item => sourceIdOr platform item keys index

/-- The ids of the baselines. -/
def baselineNames : List String := recordNames platform data "baselines" [["id"], ["baselineId"]]

/-- The ids of the sensors. -/
def sensorNames : List String :=
  recordNames platform data "sensors" [["id"], ["sensorId"], ["uuid"]]

/-- The ids of the reports. -/
def reportNames : List String :=
  recordNames platform data "reports_metadata" [["id"], ["metadataId"]]

/-- The id of a baseline in the snapshot. -/
def baselineId (name : String) : String := "baseline:" ++ idPrefix ++ ":" ++ slug platform name

/-- `raw_baseline_to_id`. -/
def rawBaselineToId : Dict String String :=
  Dict.ofPairs ((baselineNames platform data).map fun name => (name, baselineId platform name))

/-- `raw_flow_to_id`. -/
def rawFlowToId : Dict String String :=
  Dict.ofPairs ((flowEntries platform data).map fun entry => (entry.1, flowId platform entry.1))

/-- A difference from a baseline. -/
structure Difference where
  /-- The baseline as the answer names it. -/
  rawBaseline : String
  /-- The id of the difference, or its index. -/
  name : String
  /-- The baseline in the snapshot. -/
  baseline : String
  /-- The flow in the snapshot. -/
  flow : Option String
  /-- The assets in the snapshot. -/
  assets : List String

/-- The assets of a difference: those it names, that of its target, and those of the activity that
is its target. -/
def differenceAssets (difference : Json) : List String :=
  let target := (sourceId platform difference [["targetId"]]).getD ""
  let targetAsset := ((componentToAsset platform data).get? target).or
    ((deviceToAsset platform data).get? target)
  let activityAssets := ((Dict.ofPairs (activityEntries platform data)).get? target).getD []
  appendNew (assetRefs platform data difference) (targetAsset :: activityAssets.map some)

/-- The differences from known baselines. -/
def differences : List Difference :=
  (wrappers (member data "baseline_differences")).flatMap fun wrapper =>
    let rawBaseline := platform.str (member wrapper "baseline_id")
    match nonempty ((rawBaselineToId platform data).get? rawBaseline) with
    | none => []
    | some baseline =>
      (rawItems (member wrapper "items")).mapIdx fun index difference =>
        { rawBaseline := rawBaseline
          name := sourceIdOr platform difference [["id"], ["differenceId"]] index
          baseline := baseline
          flow := (rawFlowToId platform data).get?
            ((sourceId platform difference [["flowId"], ["flow", "id"]]).getD "")
          assets := differenceAssets platform data difference }

/-! ## The records -/

/-- `_evidence`. -/
def evidence (source recordName : String) : Json :=
  .obj [("source_id", .str source), ("source_record_id", .str recordName)]

/-- A record: its id, its evidence and its references. -/
def record (source id recordName : String) (references : List (String × Json)) : Json :=
  .obj (("id", .str id) :: ("evidence", evidence source recordName) :: references)

/-- A reference, if there is one. -/
def reference : Option String → Json
  | some id => .str id
  | none => .null

/-- A list of references. -/
def references (ids : List String) : Json := .arr (ids.map .str)

/-- The normalised collections. -/
structure NormalizedCollection where
  /-- The source, and those beside it. -/
  sources : List Json
  assets : List Json
  riskScores : List Json
  activities : List Json
  flows : List Json
  events : List Json
  vulnerabilities : List Json
  baselines : List Json
  baselineDifferences : List Json
  sensors : List Json
  reports : List Json

/-- The collections under their names. -/
def NormalizedCollection.members (collection : NormalizedCollection) :
    List (String × List Json) :=
  [("sources", collection.sources), ("assets", collection.assets),
    ("risk_scores", collection.riskScores), ("activities", collection.activities),
    ("flows", collection.flows), ("events", collection.events),
    ("vulnerabilities", collection.vulnerabilities), ("baselines", collection.baselines),
    ("baseline_differences", collection.baselineDifferences), ("sensors", collection.sensors),
    ("reports", collection.reports)]

/-- The collections as a snapshot lists them. -/
def NormalizedCollection.snapshot (collection : NormalizedCollection) : Json :=
  .obj (collection.members.map fun (name, records) => (name, .arr records))

/-- The records that an accepted answer is normalised to. -/
def normalized (source : String) : NormalizedCollection where
  sources := [record source source "classic:version" [],
    record newUiSourceId newUiSourceId "new-ui:assets" []]
  assets := (devices platform data).map fun (id, _) =>
    record source (assetId platform id) ("device:" ++ id) [("network_ids", references [])]
  riskScores := (deviceToAsset platform data).entries.filterMap fun (id, asset) =>
    if scored platform data id then
      some (record source (riskId platform id) ("device:" ++ id) [("asset_id", .str asset)])
    else none
  activities := (activityEntries platform data).map fun (id, assets) =>
    record source ("activity:" ++ idPrefix ++ ":" ++ slug platform id) ("activity:" ++ id)
      [("asset_ids", references assets)]
  flows := (flowEntries platform data).map fun (id, left, right) =>
    record source (flowId platform id) ("flow:" ++ id)
      [("left_asset_id", reference left), ("right_asset_id", reference right)]
  events := (eventEntries platform data).map fun (id, assets) =>
    record source ("event:" ++ idPrefix ++ ":" ++ slug platform id) ("dashboard-event:" ++ id)
      [("asset_ids", references assets)]
  vulnerabilities := (firstAssociations [] (associations platform data)).map
    fun (device, asset, vulnerability) =>
      record source ("vulnerability:" ++ idPrefix ++ ":" ++
        (slug platform device ++ ":" ++ slug platform vulnerability))
        ("device:" ++ device ++ ":vulnerability:" ++ vulnerability) [("asset_id", .str asset)]
  baselines := (baselineNames platform data).map fun id =>
    record source (baselineId platform id) ("baseline:" ++ id) []
  baselineDifferences := (differences platform data).map fun difference =>
    record source ("baseline-difference:" ++ idPrefix ++ ":" ++
      (slug platform difference.rawBaseline ++ ":" ++ slug platform difference.name))
      ("baseline:" ++ difference.rawBaseline ++ ":difference:" ++ difference.name)
      [("baseline_id", .str difference.baseline), ("flow_id", reference difference.flow),
        ("asset_ids", references difference.assets)]
  sensors := (sensorNames platform data).map fun id =>
    record source ("sensor:" ++ idPrefix ++ ":" ++ slug platform id) ("sensor:" ++ id) []
  reports := (reportNames platform data).map fun id =>
    record source ("report:" ++ idPrefix ++ ":" ++ slug platform id) ("report-metadata:" ++ id) []

/-- The members that the loops of the normalisation run over. -/
def loopedMembers : List String :=
  ["device_risk_scores", "device_vulnerabilities", "baseline_differences", "sensor_details",
    "sensor_stats"]

/-- `normalize_cybervision_collection`. -/
def normalizeCollection (source : String) (raw : Json) :
    Except NormalizationError NormalizedCollection :=
  let data := member raw "data"
  if !data.isObject then .error (.refused "La raccolta non contiene data.")
  else if (nonempty (platform.utcText (member raw "collected_at"))).isNone then
    .error (.refused "collected_at assente o non valido.")
  else if !(member raw "capabilities").isObject then
    .error (.refused "capabilities assente o non valido.")
  else if loopedMembers.all fun key => iterable platform (member data key) then
    .ok (normalized platform data source)
  else .error .notIterable

/-- An accepted answer is normalised to the records read of its data. -/
theorem normalizeCollection_ok {platform : AdapterPlatform} {source : String} {raw : Json}
    {collection : NormalizedCollection}
    (accepted : normalizeCollection platform source raw = .ok collection) :
    collection = normalized platform (member raw "data") source := by
  unfold normalizeCollection at accepted
  dsimp only at accepted
  split at accepted
  · cases accepted
  split at accepted
  · cases accepted
  split at accepted
  · cases accepted
  split at accepted
  · exact (Except.ok.inj accepted).symm
  · cases accepted

end DTLab.CyberVision
