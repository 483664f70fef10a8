import DTLab.Services.Identity
import Mathlib.Data.List.Nodup
import Mathlib.Data.String.Basic

/-!
# One link for a machine, one link for an asset

A pair is linked exactly if it is above every other pair of its asset, and above every other pair of
its machine that is above every other pair of its own asset. So the links are one-to-one and neither
the order of the lists nor that of the sets in between matters.
-/

namespace DTLab.Identity

open Library (SetOrder champions mem_champions champions_perm nodup_champions nodup_keys_champions)

variable {lower : String → String} {vms : List VirtualMachine} {assets : List Asset}
  {order : SetOrder String} {request : Request}

/-! ## Candidates -/

/-- The candidates are the pairs that match. -/
theorem mem_candidates {candidate : Candidate} :
    candidate ∈ candidates lower vms assets ↔ candidate.asset ∈ assets ∧
      candidate.vm ∈ eligibleVms vms ∧
      pairMethod lower vms assets candidate.vm candidate.asset = some candidate.method := by
  rw [candidates, List.mem_flatMap]
  constructor
  · intro ⟨asset, known, found⟩
    obtain ⟨vm, eligible, paired⟩ := List.mem_filterMap.mp found
    obtain ⟨method, matched, made⟩ := Option.map_eq_some_iff.mp paired
    rw [← made]
    exact ⟨known, eligible, matched⟩
  · intro ⟨known, eligible, matched⟩
    refine ⟨candidate.asset, known, List.mem_filterMap.mpr ⟨candidate.vm, eligible, ?_⟩⟩
    rw [matched]
    rfl

/-- Lists whose ids are distinct. -/
structure UniqueIds (vms : List VirtualMachine) (assets : List Asset) : Prop where
  /-- No two machines have one id. -/
  machines : (vms.map VirtualMachine.id).Nodup
  /-- No two assets have one id. -/
  assets : (assets.map Asset.id).Nodup

/-- No pair is a candidate twice. -/
theorem UniqueIds.nodup_candidates (unique : UniqueIds vms assets) :
    (candidates lower vms assets).Nodup := by
  have machines : (eligibleVms vms).Nodup :=
    (List.Nodup.of_map VirtualMachine.id unique.machines).filter _
  have known : assets.Nodup := List.Nodup.of_map Asset.id unique.assets
  have ofMade : ∀ {vm : VirtualMachine} {asset : Asset} {made : Candidate},
      (pairMethod lower vms assets vm asset).map (fun method => (⟨vm, asset, method⟩ : Candidate)) =
        some made → made.vm = vm ∧ made.asset = asset := by
    intro vm asset made equal
    obtain ⟨method, _, rfl⟩ := Option.map_eq_some_iff.mp equal
    exact ⟨rfl, rfl⟩
  rw [candidates, List.nodup_flatMap]
  constructor
  · intro asset _
    apply machines.filterMap
    intro first second made isFirst isSecond
    rw [← (ofMade isFirst).1, ← (ofMade isSecond).1]
  · apply known.imp
    intro first second different made isFirst isSecond
    obtain ⟨_, _, one⟩ := List.mem_filterMap.mp isFirst
    obtain ⟨_, _, other⟩ := List.mem_filterMap.mp isSecond
    exact different ((ofMade one).2.symm.trans (ofMade other).2)

/-- How often an address is named does not depend on the order of the items. -/
theorem occurrences_perm {α : Type} (addresses : α → List String) {items others : List α}
    (perm : items.Perm others) (address : String) :
    occurrences addresses items address = occurrences addresses others address :=
  (perm.flatMap_right addresses).count_eq address

/-- How two items match does not depend on the order of the lists. -/
theorem pairMethod_perm {others : List VirtualMachine} {otherAssets : List Asset}
    (machines : vms.Perm others) (known : assets.Perm otherAssets) :
    pairMethod lower vms assets = pairMethod lower others otherAssets := by
  have eligible : (eligibleVms vms).Perm (eligibleVms others) := machines.filter _
  funext vm asset
  rw [pairMethod, pairMethod, uniqueMacs, uniqueMacs, uniqueIps, uniqueIps]
  simp only [occurrences_perm _ eligible, occurrences_perm _ known]

/-- The order of the lists makes no other candidates. -/
theorem UniqueIds.candidates_perm (unique : UniqueIds vms assets) {others : List VirtualMachine}
    {otherAssets : List Asset} (machines : vms.Perm others) (known : assets.Perm otherAssets) :
    (candidates lower vms assets).Perm (candidates lower others otherAssets) := by
  have eligible : (eligibleVms vms).Perm (eligibleVms others) := machines.filter _
  have still : UniqueIds others otherAssets :=
    ⟨(machines.map _).nodup_iff.mp unique.machines, (known.map _).nodup_iff.mp unique.assets⟩
  rw [List.perm_ext_iff_of_nodup unique.nodup_candidates still.nodup_candidates]
  intro candidate
  rw [mem_candidates, mem_candidates, known.mem_iff, eligible.mem_iff,
    pairMethod_perm machines known]

/-! ## The pairs that are linked -/

/-- A pair above every other pair of its asset. -/
def SoleBest (lower : String → String) (vms : List VirtualMachine) (assets : List Asset)
    (candidate : Candidate) : Prop :=
  candidate ∈ candidates lower vms assets ∧ ∀ other ∈ candidates lower vms assets,
    other.assetId = candidate.assetId → other ≠ candidate →
      other.confidence < candidate.confidence

/-- The pairs kept for the assets are those. -/
theorem UniqueIds.mem_bestByAsset (unique : UniqueIds vms assets) {candidate : Candidate} :
    candidate ∈ bestByAsset lower vms assets order ↔ SoleBest lower vms assets candidate :=
  mem_champions unique.nodup_candidates

/-- No pair is kept for an asset twice. -/
theorem UniqueIds.nodup_bestByAsset (unique : UniqueIds vms assets) :
    (bestByAsset lower vms assets order).Nodup :=
  nodup_champions unique.nodup_candidates

/-- A linked pair is above the other pairs of its asset, and above those of its machine that are
above the other pairs of theirs. -/
theorem UniqueIds.mem_linkedPairs (unique : UniqueIds vms assets) {candidate : Candidate} :
    candidate ∈ linkedPairs lower vms assets order ↔ SoleBest lower vms assets candidate ∧
      ∀ other, SoleBest lower vms assets other → other.vmId = candidate.vmId →
        other ≠ candidate → other.confidence < candidate.confidence := by
  rw [linkedPairs, List.mem_mergeSort, bestByVm, mem_champions unique.nodup_bestByAsset,
    unique.mem_bestByAsset]
  simp only [unique.mem_bestByAsset]

/-- No machine is in two linked pairs. -/
theorem UniqueIds.nodup_vmIds (unique : UniqueIds vms assets) :
    ((linkedPairs lower vms assets order).map Candidate.vmId).Nodup := by
  have kept : ((bestByVm lower vms assets order).map Candidate.vmId).Nodup :=
    nodup_keys_champions unique.nodup_bestByAsset
  exact (((List.mergeSort_perm _ _).map _).nodup_iff).mpr kept

/-- No asset is in two linked pairs. -/
theorem UniqueIds.nodup_assetIds (unique : UniqueIds vms assets) :
    ((linkedPairs lower vms assets order).map Candidate.assetId).Nodup := by
  have keys : ((bestByAsset lower vms assets order).map Candidate.assetId).Nodup :=
    nodup_keys_champions unique.nodup_candidates
  apply List.Nodup.map_on
  · intro first isFirst second isSecond same
    have one := (unique.mem_linkedPairs.mp isFirst).1
    have other := (unique.mem_linkedPairs.mp isSecond).1
    exact List.inj_on_of_nodup_map keys (unique.mem_bestByAsset.mpr one)
      (unique.mem_bestByAsset.mpr other) same
  · exact List.Nodup.of_map Candidate.vmId unique.nodup_vmIds

/-- The order of the ids is transitive. -/
theorem idsBefore_trans (first second third : Candidate) (before : idsBefore first second = true)
    (after : idsBefore second third = true) : idsBefore first third = true := by
  rw [idsBefore, decide_eq_true_eq] at before after ⊢
  rcases before with below | ⟨same, upTo⟩
  · rcases after with further | ⟨equal, _⟩
    · exact Or.inl (below.trans further)
    · exact Or.inl (equal ▸ below)
  · rcases after with further | ⟨equal, beyond⟩
    · exact Or.inl (same ▸ further)
    · exact Or.inr ⟨same.trans equal, upTo.trans beyond⟩

/-- Two pairs are in one order of their ids or the other. -/
theorem idsBefore_total (first second : Candidate) :
    (idsBefore first second || idsBefore second first) = true := by
  rw [Bool.or_eq_true, idsBefore, idsBefore, decide_eq_true_eq, decide_eq_true_eq]
  rcases lt_trichotomy first.vmId second.vmId with below | same | above
  · exact Or.inl (Or.inl below)
  · rcases le_total first.assetId second.assetId with upTo | downTo
    · exact Or.inl (Or.inr ⟨same, upTo⟩)
    · exact Or.inr (Or.inr ⟨same.symm, downTo⟩)
  · exact Or.inr (Or.inl above)

/-- Pairs in both orders have one machine. -/
theorem vmId_eq_of_idsBefore {first second : Candidate} (before : idsBefore first second = true)
    (after : idsBefore second first = true) : first.vmId = second.vmId := by
  rw [idsBefore, decide_eq_true_eq] at before after
  rcases before with below | ⟨same, _⟩
  · rcases after with above | ⟨same, _⟩
    · exact absurd above (lt_asymm below)
    · exact same.symm
  · exact same

/-- The order of the lists and of the sets does not change the linked pairs. -/
theorem UniqueIds.linkedPairs_perm (unique : UniqueIds vms assets) {other : SetOrder String}
    {others : List VirtualMachine} {otherAssets : List Asset} (machines : vms.Perm others)
    (known : assets.Perm otherAssets) :
    linkedPairs lower vms assets order = linkedPairs lower others otherAssets other := by
  have perm : (linkedPairs lower vms assets order).Perm
      (linkedPairs lower others otherAssets other) := by
    have kept : (bestByAsset lower vms assets order).Perm
        (bestByAsset lower others otherAssets other) :=
      champions_perm unique.nodup_candidates (unique.candidates_perm machines known)
    have best : (bestByVm lower vms assets order).Perm (bestByVm lower others otherAssets other) :=
      champions_perm unique.nodup_bestByAsset kept
    exact ((List.mergeSort_perm _ _).trans best).trans (List.mergeSort_perm _ _).symm
  have sorted : ∀ pairs : List Candidate, (pairs.mergeSort idsBefore).Pairwise
      fun first second => idsBefore first second = true :=
    List.pairwise_mergeSort idsBefore_trans idsBefore_total
  refine List.Perm.eq_of_pairwise (fun first second isFirst isSecond before after => ?_)
    (sorted (bestByVm lower vms assets order)) (sorted (bestByVm lower others otherAssets other))
    perm
  exact List.inj_on_of_nodup_map unique.nodup_vmIds isFirst (perm.mem_iff.mpr isSecond)
    (vmId_eq_of_idsBefore before after)

/-! ## Links -/

/-- A link names its pair. -/
@[simp] theorem link_virtualMachineId (candidate : Candidate) :
    (link lower request candidate).virtualMachineId = candidate.vmId := by
  rw [link]
  cases confirmation lower request candidate with
  | none => rfl
  | some confirmed => rfl

/-- A link names its pair. -/
@[simp] theorem link_assetId (candidate : Candidate) :
    (link lower request candidate).assetId = candidate.assetId := by
  rw [link]
  cases confirmation lower request candidate with
  | none => rfl
  | some confirmed => rfl

/-- No pair matches by the operator's word alone. -/
theorem pairMethod_ne (vm : VirtualMachine) (asset : Asset) :
    pairMethod lower vms assets vm asset ≠ some .operatorConfirmed := by
  rw [pairMethod]
  repeat' split
  all_goals nofun

/-- What the operator confirms has the address expected, and matches by an address. -/
theorem confirmation_eq_some {candidate : Candidate} {source address : String}
    (confirmed : confirmation lower request candidate = some (source, address)) :
    expectedIp lower request candidate.vm = some address ∧
      address ∈ assetIps lower candidate.asset ∧ candidate.method ∈ addressMethods := by
  rw [confirmation] at confirmed
  split at confirmed
  · rename_i source' address' _ expected
    by_cases both : address' ∈ assetIps lower candidate.asset ∧ candidate.method ∈ addressMethods
    · rw [if_pos both] at confirmed
      have same : address' = address := (Prod.mk.inj (Option.some.inj confirmed)).2
      rw [same] at both expected
      exact ⟨(Option.filter_eq_some_iff.mp expected).1, both⟩
    · rw [if_neg both] at confirmed
      cases confirmed
  · cases confirmed

/-- A confirmed link is one that the operator confirms. -/
theorem confirmation_of_link {candidate : Candidate}
    (matched : candidate ∈ candidates lower vms assets)
    (confirmed : (link lower request candidate).method = .operatorConfirmed) :
    ∃ source address, confirmation lower request candidate = some (source, address) := by
  rw [link] at confirmed
  cases found : confirmation lower request candidate with
  | none =>
    rw [found] at confirmed
    have method : candidate.method = .operatorConfirmed := confirmed
    have paired := (mem_candidates.mp matched).2.2
    rw [method] at paired
    exact absurd paired (pairMethod_ne candidate.vm candidate.asset)
  | some pair => exact ⟨pair.1, pair.2, rfl⟩

/-- Two pairs of an asset share its highest confidence. -/
def Tied (lower : String → String) (vms : List VirtualMachine) (assets : List Asset)
    (asset : Asset) : Prop :=
  ∃ first ∈ candidates lower vms assets, ∃ second ∈ candidates lower vms assets,
    first ≠ second ∧ first.assetId = asset.id ∧ second.assetId = asset.id ∧
      first.confidence = second.confidence ∧
      ∀ other ∈ candidates lower vms assets, other.assetId = asset.id →
        other.confidence ≤ first.confidence

/-- No pair of a tied asset is above the others. -/
theorem Tied.not_soleBest {asset : Asset} (tied : Tied lower vms assets asset)
    {candidate : Candidate} (same : candidate.assetId = asset.id) :
    ¬ SoleBest lower vms assets candidate := by
  intro best
  obtain ⟨first, isFirst, second, isSecond, different, ofFirst, ofSecond, equal, highest⟩ := tied
  by_cases here : first = candidate
  · have below := best.2 second isSecond (ofSecond.trans same.symm) fun there =>
      different (here.trans there.symm)
    rw [here] at equal
    omega
  · have below := best.2 first isFirst (ofFirst.trans same.symm) here
    have above := highest candidate best.1 same
    omega

/-- The links are one-to-one and independent of the order of the machines, of the assets and of the
sets in between. An asset with two best pairs is not linked, and a confirmed link has the address
that the operator expects and matches by an address. -/
theorem resolveVmAssetIdentities_one_to_one (lower : String → String) (vms : List VirtualMachine)
    (assets : List Asset) (order : SetOrder String) (request : Request)
    (unique : UniqueIds vms assets) :
    let links := resolveVmAssetIdentities lower vms assets order request
    (links.map Link.virtualMachineId).Nodup ∧ (links.map Link.assetId).Nodup ∧
      (∀ others otherAssets other, vms.Perm others → assets.Perm otherAssets →
        resolveVmAssetIdentities lower others otherAssets other request = links) ∧
      (∀ asset ∈ assets, Tied lower vms assets asset → ∀ link ∈ links, link.assetId ≠ asset.id) ∧
      ∀ link ∈ links, link.method = .operatorConfirmed →
        ∃ vm ∈ vms, ∃ asset ∈ assets, ∃ address,
          link.virtualMachineId = vm.id ∧ link.assetId = asset.id ∧
            expectedIp lower request vm = some address ∧ address ∈ assetIps lower asset ∧
            ∃ method ∈ addressMethods, pairMethod lower vms assets vm asset = some method := by
  intro links
  have made : ∀ made ∈ links, ∃ pair ∈ linkedPairs lower vms assets order,
      link lower request pair = made := fun made => List.mem_map.mp
  have machineIds : links.map Link.virtualMachineId =
      (linkedPairs lower vms assets order).map Candidate.vmId := by
    show ((linkedPairs lower vms assets order).map (link lower request)).map _ = _
    rw [List.map_map]
    exact List.map_congr_left fun pair _ => link_virtualMachineId pair
  have assetIds : links.map Link.assetId =
      (linkedPairs lower vms assets order).map Candidate.assetId := by
    show ((linkedPairs lower vms assets order).map (link lower request)).map _ = _
    rw [List.map_map]
    exact List.map_congr_left fun pair _ => link_assetId pair
  rw [machineIds, assetIds]
  refine ⟨unique.nodup_vmIds, unique.nodup_assetIds, ?_, ?_, ?_⟩
  · intro others otherAssets other machines known
    have same : linkedPairs lower vms assets order =
        linkedPairs lower others otherAssets other := unique.linkedPairs_perm machines known
    show (linkedPairs lower others otherAssets other).map _ = _
    rw [← same]
    rfl
  · intro asset _ tied link member same
    obtain ⟨pair, linked, rfl⟩ := made link member
    rw [link_assetId] at same
    exact tied.not_soleBest same (unique.mem_linkedPairs.mp linked).1
  · intro link member confirmed
    obtain ⟨pair, linked, rfl⟩ := made link member
    have matched := (unique.mem_linkedPairs.mp linked).1.1
    obtain ⟨source, address, confirmation⟩ := confirmation_of_link matched confirmed
    have facts := confirmation_eq_some confirmation
    have parts := mem_candidates.mp matched
    exact ⟨pair.vm, List.mem_of_mem_filter parts.2.1, pair.asset, parts.1, address,
      link_virtualMachineId pair, link_assetId pair, facts.1, facts.2.1, pair.method, facts.2.2,
      parts.2.2⟩

/-- ASCII texts lowered. -/
def lowerAscii (text : String) : String := String.ofList (text.toList.map Char.toLower)

/-- A machine with a hardware address. -/
def machine (id name mac : String) : VirtualMachine where
  id := id
  name := name
  interfaces := [⟨[], some mac⟩]
  kpiScope := none
  officialTarget := false

/-- A pump and a valve. -/
def pumpAndValve : List VirtualMachine :=
  [machine "vm:1" "Pump" "00:01", machine "vm:2" "Valve" "00:02"]

/-- An asset with the addresses of both, and an asset with the name of the pump. -/
def bridgeAndPump : List Asset :=
  [⟨"asset:1", none, [], ["00:01", "00:02"]⟩, ⟨"asset:2", some "Pump", [], []⟩]

/-- A request without an operator. -/
def plainRequest : Request where
  fetchedAt := "2026-08-03T13:00:00Z"
  collectorSourceId := "src:collector:1"
  operatorSourceId := none
  operatorConfirmedVmIpv4 := []

/-- Their ids are distinct. -/
theorem uniqueIds_pump : UniqueIds pumpAndValve bridgeAndPump := ⟨by decide, by decide⟩

/-- The pump and the valve are linked alike in either order. -/
theorem resolveVmAssetIdentities_pump :
    resolveVmAssetIdentities lowerAscii pumpAndValve.reverse bridgeAndPump.reverse .dedup
        plainRequest =
      resolveVmAssetIdentities lowerAscii pumpAndValve bridgeAndPump .dedup plainRequest :=
  (resolveVmAssetIdentities_one_to_one lowerAscii pumpAndValve bridgeAndPump .dedup plainRequest
    uniqueIds_pump).2.2.1 _ _ _ (List.reverse_perm _).symm (List.reverse_perm _).symm

/-! ## Evidence -/

/-- A machine and an asset have an address that no other machine or asset has, and that the asset
lists once. -/
def SharedOnce (vms : List VirtualMachine) (assets : List Asset)
    (vmAddresses : VirtualMachine → List String) (assetAddresses : Asset → List String)
    (vm : VirtualMachine) (asset : Asset) : Prop :=
  ∃ address, address ∈ vmAddresses vm ∧ address ∈ assetAddresses asset ∧
    occurrences vmAddresses (eligibleVms vms) address = 1 ∧
    occurrences assetAddresses assets address = 1

/-- Of two names that are not empty one contains the other. -/
def NamesContained (lower : String → String) (vm : VirtualMachine) (asset : Asset) : Prop :=
  assetName lower asset ≠ [] ∧ normalizedName lower vm.name ≠ [] ∧
    (assetName lower asset <:+: normalizedName lower vm.name ∨
      normalizedName lower vm.name <:+: assetName lower asset)

/-- The evidence that a machine is an asset. -/
def Grounded (lower : String → String) (vms : List VirtualMachine) (assets : List Asset)
    (vm : VirtualMachine) (asset : Asset) : Prop :=
  SharedOnce vms assets (vmMacs lower) (assetMacs lower) vm asset ∨
    SharedOnce vms assets (vmIps lower) (assetIps lower) vm asset ∨ NamesContained lower vm asset

/-- There are unique hardware addresses where one is shared once. -/
theorem uniqueMacs_isEmpty {vm : VirtualMachine} {asset : Asset} :
    (uniqueMacs lower vms assets vm asset).isEmpty = false ↔
      SharedOnce vms assets (vmMacs lower) (assetMacs lower) vm asset := by
  rw [List.isEmpty_eq_false_iff_exists_mem, SharedOnce]
  apply exists_congr
  intro address
  rw [uniqueMacs, List.mem_filter, decide_eq_true_eq]
  tauto

/-- There are unique addresses where one is shared once. -/
theorem uniqueIps_isEmpty {vm : VirtualMachine} {asset : Asset} :
    (uniqueIps lower vms assets vm asset).isEmpty = false ↔
      SharedOnce vms assets (vmIps lower) (assetIps lower) vm asset := by
  rw [List.isEmpty_eq_false_iff_exists_mem, SharedOnce]
  apply exists_congr
  intro address
  rw [uniqueIps, List.mem_filter, decide_eq_true_eq]
  tauto

/-- A pair matches by a unique address or by its names. -/
theorem pairMethod_isSome {vm : VirtualMachine} {asset : Asset} :
    (pairMethod lower vms assets vm asset).isSome = true ↔
      SharedOnce vms assets (vmMacs lower) (assetMacs lower) vm asset ∨
        SharedOnce vms assets (vmIps lower) (assetIps lower) vm asset ∨
        nameMatch lower vm asset = true := by
  rw [← uniqueMacs_isEmpty, ← uniqueIps_isEmpty, pairMethod]
  cases (uniqueMacs lower vms assets vm asset).isEmpty <;>
    cases (uniqueIps lower vms assets vm asset).isEmpty <;>
    cases nameMatch lower vm asset <;> decide

/-- A pair with evidence matches. -/
theorem Grounded.matched {vm : VirtualMachine} {asset : Asset}
    (grounded : Grounded lower vms assets vm asset) :
    ∃ method, pairMethod lower vms assets vm asset = some method := by
  rw [← Option.isSome_iff_exists, pairMethod_isSome]
  rcases grounded with macs | ips | names
  · exact Or.inl macs
  · exact Or.inr (Or.inl ips)
  · exact Or.inr (Or.inr (decide_eq_true ⟨names.1, names.2.2⟩))

/-- A pair that matches has evidence, if the name of its machine is not empty once normalised. -/
theorem grounded_of_named {vm : VirtualMachine} {asset : Asset} {method : Method}
    (matched : pairMethod lower vms assets vm asset = some method)
    (named : normalizedName lower vm.name ≠ []) : Grounded lower vms assets vm asset := by
  have found : (pairMethod lower vms assets vm asset).isSome = true :=
    Option.isSome_iff_exists.mpr ⟨method, matched⟩
  rcases pairMethod_isSome.mp found with macs | ips | names
  · exact Or.inl macs
  · exact Or.inr (Or.inl ips)
  · have contained := of_decide_eq_true names
    exact Or.inr (Or.inr ⟨contained.1, named, contained.2⟩)

/-- A linked pair whose machine has a name has evidence. It is above every other pair of its asset,
and above every other pair of its machine that is itself above the other pairs of its asset. All
pairs with evidence are among these. -/
theorem resolveVmAssetIdentities_best (lower : String → String) (vms : List VirtualMachine)
    (assets : List Asset) (order : SetOrder String) (request : Request)
    (unique : UniqueIds vms assets) :
    (∀ link ∈ resolveVmAssetIdentities lower vms assets order request,
      ∃ pair ∈ candidates lower vms assets,
        link.virtualMachineId = pair.vmId ∧ link.assetId = pair.assetId ∧
          (normalizedName lower pair.vm.name ≠ [] →
            Grounded lower vms assets pair.vm pair.asset) ∧
          (∀ other ∈ candidates lower vms assets, other.assetId = pair.assetId → other ≠ pair →
            other.confidence < pair.confidence) ∧
          ∀ other ∈ candidates lower vms assets, other.vmId = pair.vmId → other ≠ pair →
            (∀ rival ∈ candidates lower vms assets, rival.assetId = other.assetId →
              rival ≠ other → rival.confidence < other.confidence) →
            other.confidence < pair.confidence) ∧
      ∀ vm ∈ eligibleVms vms, ∀ asset ∈ assets, Grounded lower vms assets vm asset →
        ∃ method, ⟨vm, asset, method⟩ ∈ candidates lower vms assets := by
  constructor
  · intro made member
    obtain ⟨pair, linked, rfl⟩ := List.mem_map.mp member
    have facts := unique.mem_linkedPairs.mp linked
    refine ⟨pair, facts.1.1, link_virtualMachineId pair, link_assetId pair,
      grounded_of_named (mem_candidates.mp facts.1.1).2.2, facts.1.2, ?_⟩
    intro other matched same different best
    exact facts.2 other ⟨matched, best⟩ same different
  · intro vm eligible asset known grounded
    obtain ⟨method, matched⟩ := grounded.matched
    exact ⟨method, mem_candidates.mpr ⟨known, eligible, matched⟩⟩

/-- The links of the pump and the valve rest on evidence. -/
theorem resolveVmAssetIdentities_best_pump : UniqueIds pumpAndValve bridgeAndPump ∧
    ∀ link ∈ resolveVmAssetIdentities lowerAscii pumpAndValve bridgeAndPump .dedup plainRequest,
      ∃ pair ∈ candidates lowerAscii pumpAndValve bridgeAndPump,
        link.virtualMachineId = pair.vmId ∧ link.assetId = pair.assetId := by
  refine ⟨uniqueIds_pump, fun link member => ?_⟩
  obtain ⟨pair, matched, machine, asset, _⟩ :=
    (resolveVmAssetIdentities_best lowerAscii pumpAndValve bridgeAndPump .dedup plainRequest
      uniqueIds_pump).1 link member
  exact ⟨pair, matched, machine, asset⟩

instance (candidate : Candidate) : Decidable (SoleBest lower vms assets candidate) :=
  inferInstanceAs (Decidable (_ ∧ _))

/-- The pump is linked to the asset of its name, although its hardware address, which no other
machine has, is one of the other asset's alone: that asset has the valve's address too, and is
linked to neither. -/
theorem second_best_linked :
    UniqueIds pumpAndValve bridgeAndPump ∧
      (∃ link ∈ resolveVmAssetIdentities lowerAscii pumpAndValve bridgeAndPump .dedup plainRequest,
        link.virtualMachineId = "vm:1" ∧ link.assetId = "asset:2" ∧
          link.confidence = Method.nameMatch.confidence) ∧
      ∃ vm ∈ eligibleVms pumpAndValve, ∃ asset ∈ bridgeAndPump,
        vm.id = "vm:1" ∧ asset.id = "asset:1" ∧
          Grounded lowerAscii pumpAndValve bridgeAndPump vm asset ∧
          pairMethod lowerAscii pumpAndValve bridgeAndPump vm asset = some .macMatch ∧
          Method.nameMatch.confidence < Method.macMatch.confidence := by
  let pump := machine "vm:1" "Pump" "00:01"
  let bridge : Asset := ⟨"asset:1", none, [], ["00:01", "00:02"]⟩
  let named : Asset := ⟨"asset:2", some "Pump", [], []⟩
  have linked : (⟨pump, named, .nameMatch⟩ : Candidate) ∈
      linkedPairs lowerAscii pumpAndValve bridgeAndPump .dedup := by
    have others : ∀ other ∈ candidates lowerAscii pumpAndValve bridgeAndPump,
        SoleBest lowerAscii pumpAndValve bridgeAndPump other → other.vmId = "vm:1" →
          other ≠ ⟨pump, named, .nameMatch⟩ → other.confidence < 65 := by decide
    apply uniqueIds_pump.mem_linkedPairs.mpr
    exact ⟨by decide, fun other best => others other best.1 best⟩
  refine ⟨uniqueIds_pump, ⟨link lowerAscii plainRequest ⟨pump, named, .nameMatch⟩,
    List.mem_map_of_mem linked, by decide, by decide, by decide⟩, ?_⟩
  refine ⟨pump, by decide, bridge, by decide, rfl, rfl, Or.inl ?_, by decide, by decide⟩
  exact ⟨"00:01", by decide, by decide, by decide, by decide⟩

end DTLab.Identity
