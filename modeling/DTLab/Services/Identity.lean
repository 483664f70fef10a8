import DTLab.Library.Champions
import Mathlib.Data.List.Infix

/-!
# Identity proposals between virtual machines and assets

`resolve_vm_asset_identities` pairs the virtual machines of ESXi with the assets of Cyber Vision by
what they share, keeps the sole best machine of each asset, and of those the sole best asset of each
machine. Confidences are counted in hundredths. What `str.lower` does is a parameter, and so is the
order in which a set is met.
-/

namespace DTLab.Identity

open Library (SetOrder champions)

/-- A network interface of a virtual machine. -/
structure Interface where
  /-- `ip_addresses`. -/
  ipAddresses : List String
  /-- `mac_address`. -/
  macAddress : Option String
  deriving DecidableEq

/-- A virtual machine. -/
structure VirtualMachine where
  /-- `id`. -/
  id : String
  /-- `name`. -/
  name : String
  /-- `interfaces`. -/
  interfaces : List Interface
  /-- `kpi_scope` of the operational context. -/
  kpiScope : Option String
  /-- Is `official_target` of the operational context true? -/
  officialTarget : Bool
  deriving DecidableEq

/-- An asset. -/
structure Asset where
  /-- `id`. -/
  id : String
  /-- `name`. -/
  name : Option String
  /-- `ip_addresses`. -/
  ipAddresses : List String
  /-- `mac_addresses`. -/
  macAddresses : List String
  deriving DecidableEq

/-- How a pair was found. -/
inductive Method where
  | ipMacMatch
  | macMatch
  | ipMatch
  | nameMatch
  | operatorConfirmed
  deriving DecidableEq

/-- The text of a method. -/
def Method.text : Method → String
  | .ipMacMatch => "ip_mac_match"
  | .macMatch => "mac_match"
  | .ipMatch => "ip_match"
  | .nameMatch => "name_match"
  | .operatorConfirmed => "operator_confirmed"

/-- The confidence of a method, in hundredths. -/
def Method.confidence : Method → Nat
  | .ipMacMatch => 99
  | .macMatch => 97
  | .ipMatch => 88
  | .nameMatch => 65
  | .operatorConfirmed => 100

/-- The methods that rest on an address. -/
def addressMethods : List Method := [.ipMacMatch, .ipMatch, .macMatch]

variable (lower : String → String)

/-- The prefix that `_normalized_name` removes. -/
def namePrefix : List Char := "[Relatech] ".toList

/-- `value.removeprefix("[Relatech] ")`. -/
def removePrefix (value : String) : String :=
  if namePrefix.isPrefixOf value.toList then String.ofList (value.toList.drop namePrefix.length)
  else value

/-- The characters that a normalised name keeps. -/
def nameChar (c : Char) : Bool := c.isLower || c.isDigit

/-- `_normalized_name`. -/
def normalizedName (value : String) : List Char :=
  (lower (removePrefix value)).toList.filter nameChar

/-- `_vm_addresses(vm, "ip")`, each address once. -/
def vmIps (vm : VirtualMachine) : List String :=
  (vm.interfaces.flatMap fun interface => interface.ipAddresses.map lower).dedup

/-- `_vm_addresses(vm, "mac")`, each address once. -/
def vmMacs (vm : VirtualMachine) : List String :=
  (vm.interfaces.filterMap fun interface =>
    (interface.macAddress.filter fun mac => decide (mac ≠ "")).map lower).dedup

/-- The lower-cased addresses of an asset. -/
def assetIps (asset : Asset) : List String := asset.ipAddresses.map lower

/-- The lower-cased hardware addresses of an asset. -/
def assetMacs (asset : Asset) : List String := asset.macAddresses.map lower

/-- `_normalized_name` of an asset's name. -/
def assetName (asset : Asset) : List Char := normalizedName lower (asset.name.getD "")

/-- `eligible_vms`. -/
def eligibleVms (vms : List VirtualMachine) : List VirtualMachine :=
  vms.filter fun vm => decide (vm.kpiScope ≠ some "excluded_legacy")

/-- How often the items of a list name an address. -/
def occurrences {α : Type} (addresses : α → List String) (items : List α) (address : String) :
    Nat :=
  (items.flatMap addresses).count address

variable (vms : List VirtualMachine) (assets : List Asset)

/-- `unique_macs`. -/
def uniqueMacs (vm : VirtualMachine) (asset : Asset) : List String :=
  (assetMacs lower asset).filter fun address => decide (address ∈ vmMacs lower vm ∧
    occurrences (vmMacs lower) (eligibleVms vms) address = 1 ∧
    occurrences (assetMacs lower) assets address = 1)

/-- `unique_ips`. -/
def uniqueIps (vm : VirtualMachine) (asset : Asset) : List String :=
  (assetIps lower asset).filter fun address => decide (address ∈ vmIps lower vm ∧
    occurrences (vmIps lower) (eligibleVms vms) address = 1 ∧
    occurrences (assetIps lower) assets address = 1)

/-- `name_match`. -/
def nameMatch (vm : VirtualMachine) (asset : Asset) : Bool :=
  decide (assetName lower asset ≠ [] ∧
    (assetName lower asset <:+: normalizedName lower vm.name ∨
      normalizedName lower vm.name <:+: assetName lower asset))

/-- How a virtual machine and an asset match, if they do. -/
def pairMethod (vm : VirtualMachine) (asset : Asset) : Option Method :=
  let macs := !(uniqueMacs lower vms assets vm asset).isEmpty
  let ips := !(uniqueIps lower vms assets vm asset).isEmpty
  if macs && ips then some .ipMacMatch
  else if macs then some .macMatch
  else if ips then some .ipMatch
  else if nameMatch lower vm asset then some .nameMatch
  else none

/-- A pair that matches. -/
structure Candidate where
  /-- The virtual machine. -/
  vm : VirtualMachine
  /-- The asset. -/
  asset : Asset
  /-- How they match. -/
  method : Method
  deriving DecidableEq

/-- The confidence of a pair. -/
def Candidate.confidence (candidate : Candidate) : Nat := candidate.method.confidence

/-- The id of the virtual machine of a pair. -/
def Candidate.vmId (candidate : Candidate) : String := candidate.vm.id

/-- The id of the asset of a pair. -/
def Candidate.assetId (candidate : Candidate) : String := candidate.asset.id

/-- `candidates`. -/
def candidates : List Candidate :=
  assets.flatMap fun asset => (eligibleVms vms).filterMap fun vm =>
    (pairMethod lower vms assets vm asset).map fun method => ⟨vm, asset, method⟩

variable (order : SetOrder String)

/-- The values of `best_by_asset`. -/
def bestByAsset : List Candidate :=
  champions order Candidate.assetId Candidate.confidence (candidates lower vms assets)

/-- The values of `best_by_vm`. -/
def bestByVm : List Candidate :=
  champions order Candidate.vmId Candidate.confidence (bestByAsset lower vms assets order)

/-- The order of the ids of two pairs. -/
def idsBefore (first second : Candidate) : Bool :=
  decide (first.vmId < second.vmId ∨
    first.vmId = second.vmId ∧ first.assetId ≤ second.assetId)

/-- The evidence of a link. -/
structure Evidence where
  /-- `source_id`. -/
  sourceId : String
  /-- `source_record_id`. -/
  sourceRecordId : String
  /-- `truth`. -/
  truth : String
  /-- `observed_at`. -/
  observedAt : String
  /-- `fetched_at`. -/
  fetchedAt : String
  /-- `completeness`, in hundredths. -/
  completeness : Nat
  /-- `notes`. -/
  notes : List String
  deriving DecidableEq

/-- `_evidence`. -/
def evidence (sourceId sourceRecordId truth fetchedAt : String) (notes : List String) :
    Evidence where
  sourceId := sourceId
  sourceRecordId := sourceRecordId
  truth := truth
  observedAt := fetchedAt
  fetchedAt := fetchedAt
  completeness := 100
  notes := notes

/-- A link of the answer. -/
structure Link where
  /-- `id`. -/
  id : String
  /-- `evidence`. -/
  evidence : Evidence
  /-- `virtual_machine_id`. -/
  virtualMachineId : String
  /-- `asset_id`. -/
  assetId : String
  /-- `method`. -/
  method : Method
  /-- `confidence`, in hundredths. -/
  confidence : Nat
  /-- `status`. -/
  status : String
  deriving DecidableEq

/-- What the caller gives besides the lists. -/
structure Request where
  /-- `fetched_at`. -/
  fetchedAt : String
  /-- `collector_source_id`. -/
  collectorSourceId : String
  /-- `operator_source_id`. -/
  operatorSourceId : Option String
  /-- `operator_confirmed_vm_ipv4`. -/
  operatorConfirmedVmIpv4 : List (String × String)

variable (request : Request)

/-- `expected_ip`: of the names that are normalised alike the last one counts. -/
def expectedIp (vm : VirtualMachine) : Option String :=
  (request.operatorConfirmedVmIpv4.reverse.find? fun entry =>
    decide (normalizedName lower entry.1 = normalizedName lower vm.name)).map fun entry =>
      lower entry.2

/-- A text that is given and not empty. -/
def given (text : Option String) : Option String := text.filter fun text => decide (text ≠ "")

/-- The operator's source and the address expected, where a pair is `operator_confirmed`. -/
def confirmation (candidate : Candidate) : Option (String × String) :=
  match given request.operatorSourceId, given (expectedIp lower request candidate.vm) with
  | some source, some address =>
    if address ∈ assetIps lower candidate.asset ∧ candidate.method ∈ addressMethods then
      some (source, address)
    else none
  | _, _ => none

/-- The notes of a proposed link. -/
def proposedNotes (vm : VirtualMachine) : List String :=
  "Collegamento bipartito uno-a-uno derivato; la coppia non è ancora confermata da un operatore." ::
    if vm.officialTarget then
      ["PLC-Desktop è il target PLC ufficiale; l'ID asset Cisco resta proposto."]
    else []

/-- The link of a pair. -/
def link (candidate : Candidate) : Link :=
  let identity := "identity:" ++ candidate.vm.id ++ ":" ++ candidate.asset.id
  match confirmation lower request candidate with
  | some (source, address) =>
    { id := identity
      evidence := evidence source
        ("operator-confirmation:vm-ip:" ++ String.ofList (normalizedName lower candidate.vm.name))
        "real" request.fetchedAt
        ["Corrispondenza VM↔asset confermata dal responsabile DTLab sulla base dell'indirizzo OT "
            ++ address ++ ".",
          "Il riscontro live uno-a-uno usa anche il metodo " ++ candidate.method.text ++ "."]
      virtualMachineId := candidate.vm.id
      assetId := candidate.asset.id
      method := .operatorConfirmed
      confidence := Method.operatorConfirmed.confidence
      status := "confirmed" }
  | none =>
    { id := identity
      evidence := evidence request.collectorSourceId
        ("identity-resolution:" ++ candidate.method.text) "observed" request.fetchedAt
        (proposedNotes candidate.vm)
      virtualMachineId := candidate.vm.id
      assetId := candidate.asset.id
      method := candidate.method
      confidence := candidate.confidence
      status := "proposed" }

/-- The pairs that are linked, in the order of the answer. -/
def linkedPairs : List Candidate := (bestByVm lower vms assets order).mergeSort idsBefore

/-- `resolve_vm_asset_identities`. -/
def resolveVmAssetIdentities : List Link :=
  (linkedPairs lower vms assets order).map (link lower request)

end DTLab.Identity
