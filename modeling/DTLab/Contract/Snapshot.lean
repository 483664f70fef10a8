import DTLab.Library.JsonFields
import Mathlib.Data.List.Nodup

/-!
# The contract of snapshots

`_unique_ids` and `_cross_reference_errors`: the ids of the records of each collection, and the
references between them. A check returns the texts of its errors; a snapshot without errors is one
whose ids are distinct and whose references name records.
-/

namespace DTLab

open Library (Json)

/-- `ENTITY_COLLECTIONS`. -/
def entityCollections : List String :=
  ["sources", "virtual_machines", "networks", "assets", "identity_links", "risk_scores",
    "activities", "flows", "events", "vulnerabilities", "baselines", "baseline_differences",
    "sensors", "reports", "findings"]

/-- The path of an item of a list. -/
def itemPath (path : String) (index : Nat) : String := path ++ "[" ++ toString index ++ "]"

/-- The records of a collection. -/
def recordsOf (snapshot : Json) (collection : String) : List Json :=
  Json.items (snapshot.get collection)

/-- The id of a record. -/
def entityId (record : Json) : Option String := Json.text? (record.get "id")

/-- The ids of a collection. -/
def collectionIds (snapshot : Json) (collection : String) : List String :=
  (recordsOf snapshot collection).filterMap entityId

/-! ## Distinct ids -/

/-- The errors of the records from some index on, whose predecessors have some ids. -/
def duplicateErrors (collection : String) : Nat → List String → List Json → List String
  | _, _, [] => []
  | index, seen, record :: records =>
    match entityId record with
    | none => duplicateErrors collection (index + 1) seen records
    | some id =>
      (if id ∈ seen then
        [itemPath collection index ++ ".id: ID duplicato '" ++ id ++ "'"]
      else []) ++ duplicateErrors collection (index + 1) (id :: seen) records

/-- The errors of `_unique_ids`. -/
def uniqueIdErrors (snapshot : Json) : List String :=
  entityCollections.flatMap fun collection =>
    duplicateErrors collection 0 [] (recordsOf snapshot collection)

/-- Records have no errors when their ids are distinct and new. -/
theorem duplicateErrors_eq_nil (collection : String) (index : Nat) (seen : List String)
    (records : List Json) : duplicateErrors collection index seen records = [] ↔
      (records.filterMap entityId).Nodup ∧ ∀ id ∈ records.filterMap entityId, id ∉ seen := by
  induction records generalizing index seen with
  | nil => simp [duplicateErrors]
  | cons record records ih =>
    rw [duplicateErrors]
    cases found : entityId record with
    | none =>
      rw [List.filterMap_cons_none found]
      exact ih (index + 1) seen
    | some id =>
      rw [List.filterMap_cons_some found, List.nodup_cons, List.forall_mem_cons]
      show (if id ∈ seen then _ else _) ++ _ = [] ↔ _
      rw [List.append_eq_nil_iff, ih]
      constructor
      · rintro ⟨fresh, distinct, others⟩
        have new : id ∉ seen := by
          intro listed
          rw [if_pos listed] at fresh
          cases fresh
        have apart : id ∉ records.filterMap entityId :=
          fun member => others id member (List.mem_cons_self ..)
        exact ⟨⟨apart, distinct⟩, new, fun other member listed =>
          others other member (List.mem_cons_of_mem id listed)⟩
      · rintro ⟨⟨apart, distinct⟩, new, others⟩
        refine ⟨if_neg new, distinct, ?_⟩
        intro other member listed
        rcases List.mem_cons.mp listed with rfl | old
        · exact apart member
        · exact others other member old

/-- There are no errors when the ids of every collection are distinct. -/
theorem uniqueIdErrors_eq_nil (snapshot : Json) : uniqueIdErrors snapshot = [] ↔
    ∀ collection ∈ entityCollections, (collectionIds snapshot collection).Nodup := by
  rw [uniqueIdErrors, List.flatMap_eq_nil_iff]
  apply forall₂_congr
  intro collection _
  rw [duplicateErrors_eq_nil]
  constructor
  · intro both
    exact both.1
  · intro distinct
    exact ⟨distinct, fun _ _ listed => absurd listed List.not_mem_nil⟩

/-! ## Evidence -/

mutual

/-- `_evidences`: the dictionaries under the key `evidence`, with their paths. -/
def evidences (path : String) : Json → List (String × Json)
  | .obj fields => evidencesFields path fields
  | .arr values => evidencesItems path 0 values
  | _ => []

/-- The evidences of members. -/
def evidencesFields (path : String) : List (String × Json) → List (String × Json)
  | [] => []
  | (key, nested) :: fields =>
    (if key = "evidence" ∧ nested.isObject then [(path ++ "." ++ key, nested)] else []) ++
      evidences (path ++ "." ++ key) nested ++ evidencesFields path fields

/-- The evidences of items from some index on. -/
def evidencesItems (path : String) (index : Nat) : List Json → List (String × Json)
  | [] => []
  | nested :: values =>
    evidences (itemPath path index) nested ++ evidencesItems path (index + 1) values

end

/-! ## References -/

/-- `_missing_reference`. -/
def missingReference (path : String) (reference : Option Json) (known : List String)
    (nullable : Bool) : List String :=
  if Json.isNull reference && nullable then []
  else
    match Json.text? reference with
    | some id => if id ∈ known then [] else [path ++ ": riferimento sconosciuto '" ++ id ++ "'"]
    | none => []

/-- The errors of a field of a record. -/
def fieldErrors (field : String) (known : List String) (nullable : Bool) (path : String)
    (record : Json) : List String :=
  missingReference (path ++ "." ++ field) (record.get field) known nullable

/-- The errors of the items of a list, each checked at its path. -/
def itemErrors (check : String → Json → List String) (path : String) (values : List Json) :
    List String :=
  values.zipIdx.flatMap fun (value, index) => check (itemPath path index) value

/-- The errors of a field of a record that lists references. -/
def listErrors (field : String) (known : List String) (path : String) (record : Json) :
    List String :=
  itemErrors (fun path value => missingReference path (some value) known false)
    (path ++ "." ++ field) (Json.items (record.get field))

/-- The errors of the records of a collection. -/
def collectionErrors (snapshot : Json) (collection : String)
    (check : String → Json → List String) : List String :=
  itemErrors check collection (recordsOf snapshot collection)

/-- `_cross_reference_errors`. -/
def crossReferenceErrors (snapshot : Json) : List String :=
  let sourceIds := collectionIds snapshot "sources"
  let networkIds := collectionIds snapshot "networks"
  let vmIds := collectionIds snapshot "virtual_machines"
  let assetIds := collectionIds snapshot "assets"
  let flowIds := collectionIds snapshot "flows"
  let baselineIds := collectionIds snapshot "baselines"
  ((evidences "$" snapshot).flatMap fun (path, evidence) =>
      fieldErrors "source_id" sourceIds false path evidence) ++
    collectionErrors snapshot "virtual_machines" (fun path vm =>
      itemErrors (fieldErrors "network_id" networkIds true) (path ++ ".interfaces")
        (Json.items (vm.get "interfaces"))) ++
    collectionErrors snapshot "assets" (listErrors "network_ids" networkIds) ++
    collectionErrors snapshot "identity_links" (fun path link =>
      fieldErrors "virtual_machine_id" vmIds false path link ++
        fieldErrors "asset_id" assetIds false path link) ++
    collectionErrors snapshot "risk_scores" (fieldErrors "asset_id" assetIds false) ++
    collectionErrors snapshot "activities" (listErrors "asset_ids" assetIds) ++
    collectionErrors snapshot "flows" (fun path flow =>
      fieldErrors "left_asset_id" assetIds true path flow ++
        fieldErrors "right_asset_id" assetIds true path flow) ++
    collectionErrors snapshot "events" (listErrors "asset_ids" assetIds) ++
    collectionErrors snapshot "vulnerabilities" (fieldErrors "asset_id" assetIds false) ++
    collectionErrors snapshot "baseline_differences" (fun path difference =>
      fieldErrors "baseline_id" baselineIds false path difference ++
        fieldErrors "flow_id" flowIds true path difference ++
        listErrors "asset_ids" assetIds path difference)

/-- A field of a record names something known, if it names something. -/
def Names (field : String) (known : List String) (record : Json) : Prop :=
  ∀ id, record.get field = some (.str id) → id ∈ known

/-- A field of a record lists what is known only. -/
def NamesAll (field : String) (known : List String) (record : Json) : Prop :=
  ∀ id, .str id ∈ Json.items (record.get field) → id ∈ known

/-- A reference has no error when it names nothing, or what is known. -/
theorem missingReference_eq_nil {path : String} {reference : Option Json} {known : List String}
    {nullable : Bool} : missingReference path reference known nullable = [] ↔
      ∀ id, reference = some (.str id) → id ∈ known := by
  rw [missingReference]
  cases found : Json.text? reference with
  | none =>
    have absent : ∀ id, reference ≠ some (.str id) := by
      rintro id rfl
      cases found
    refine iff_of_true ?_ fun id named => absurd named (absent id)
    split <;> rfl
  | some id =>
    obtain rfl := Json.text?_eq_some.mp found
    have present : Json.isNull (some (.str id)) = false := rfl
    rw [present, Bool.false_and, if_neg Bool.false_ne_true]
    show (if id ∈ known then _ else _) = [] ↔ _
    by_cases listed : id ∈ known
    · rw [if_pos listed]
      refine iff_of_true rfl ?_
      rintro other same
      cases same
      exact listed
    · rw [if_neg listed]
      exact iff_of_false (List.cons_ne_nil _ _) fun named => listed (named id rfl)

/-- A field has no error when it names what is known. -/
theorem fieldErrors_eq_nil (field : String) (known : List String) (nullable : Bool)
    (path : String) (record : Json) : fieldErrors field known nullable path record = [] ↔
      Names field known record :=
  missingReference_eq_nil

/-- A list has no errors when none of its items has. -/
theorem itemErrors_eq_nil {check : String → Json → List String} {holds : Json → Prop}
    (exact_ : ∀ path value, check path value = [] ↔ holds value) (path : String)
    (values : List Json) : itemErrors check path values = [] ↔ ∀ value ∈ values, holds value := by
  rw [itemErrors, List.flatMap_eq_nil_iff]
  constructor
  · intro none value member
    obtain ⟨index, found⟩ := List.mem_iff_getElem?.mp member
    have listed : (value, index) ∈ values.zipIdx := List.mem_zipIdx_iff_getElem?.mpr found
    exact (exact_ _ value).mp (none _ listed)
  · rintro all ⟨value, index⟩ listed
    have member : value ∈ values := List.mem_of_getElem? (List.mem_zipIdx_iff_getElem?.mp listed)
    exact (exact_ _ value).mpr (all value member)

/-- A list has no error when it names only what is known. -/
theorem listErrors_eq_nil (field : String) (known : List String) (path : String) (record : Json) :
    listErrors field known path record = [] ↔ NamesAll field known record := by
  have each : ∀ path value, missingReference path (some value) known false = [] ↔
      ∀ id, value = .str id → id ∈ known := by
    intro path value
    rw [missingReference_eq_nil]
    simp only [Option.some.injEq]
  rw [listErrors, itemErrors_eq_nil each]
  constructor
  · intro all id member
    exact all _ member id rfl
  · rintro all value member id rfl
    exact all id member

/-- Every reference of a snapshot names a record. -/
structure CrossReferenced (snapshot : Json) : Prop where
  evidence : ∀ entry ∈ evidences "$" snapshot,
    Names "source_id" (collectionIds snapshot "sources") entry.2
  interfaces : ∀ vm ∈ recordsOf snapshot "virtual_machines",
    ∀ interface ∈ Json.items (vm.get "interfaces"),
      Names "network_id" (collectionIds snapshot "networks") interface
  assets : ∀ asset ∈ recordsOf snapshot "assets",
    NamesAll "network_ids" (collectionIds snapshot "networks") asset
  links : ∀ link ∈ recordsOf snapshot "identity_links",
    Names "virtual_machine_id" (collectionIds snapshot "virtual_machines") link ∧
      Names "asset_id" (collectionIds snapshot "assets") link
  scores : ∀ score ∈ recordsOf snapshot "risk_scores",
    Names "asset_id" (collectionIds snapshot "assets") score
  activities : ∀ activity ∈ recordsOf snapshot "activities",
    NamesAll "asset_ids" (collectionIds snapshot "assets") activity
  flows : ∀ flow ∈ recordsOf snapshot "flows",
    Names "left_asset_id" (collectionIds snapshot "assets") flow ∧
      Names "right_asset_id" (collectionIds snapshot "assets") flow
  events : ∀ event ∈ recordsOf snapshot "events",
    NamesAll "asset_ids" (collectionIds snapshot "assets") event
  vulnerabilities : ∀ vulnerability ∈ recordsOf snapshot "vulnerabilities",
    Names "asset_id" (collectionIds snapshot "assets") vulnerability
  differences : ∀ difference ∈ recordsOf snapshot "baseline_differences",
    (Names "baseline_id" (collectionIds snapshot "baselines") difference ∧
      Names "flow_id" (collectionIds snapshot "flows") difference) ∧
      NamesAll "asset_ids" (collectionIds snapshot "assets") difference

/-- A collection has no errors when none of its records has. -/
theorem collectionErrors_eq_nil {snapshot : Json} {collection : String}
    {check : String → Json → List String} {holds : Json → Prop}
    (exact_ : ∀ path value, check path value = [] ↔ holds value) :
    collectionErrors snapshot collection check = [] ↔
      ∀ record ∈ recordsOf snapshot collection, holds record :=
  itemErrors_eq_nil exact_ collection (recordsOf snapshot collection)

/-- Two checks of a record find nothing when neither does. -/
theorem append_eq_nil {first second : String → Json → List String} {left right : Json → Prop}
    (isLeft : ∀ path value, first path value = [] ↔ left value)
    (isRight : ∀ path value, second path value = [] ↔ right value) (path : String) (value : Json) :
    first path value ++ second path value = [] ↔ left value ∧ right value := by
  rw [List.append_eq_nil_iff, isLeft, isRight]

/-- There are no errors when every reference names a record. -/
theorem crossReferenceErrors_eq_nil (snapshot : Json) :
    crossReferenceErrors snapshot = [] ↔ CrossReferenced snapshot := by
  have evidence : ((evidences "$" snapshot).flatMap fun (path, evidence) =>
      fieldErrors "source_id" (collectionIds snapshot "sources") false path evidence) = [] ↔
        ∀ entry ∈ evidences "$" snapshot,
          Names "source_id" (collectionIds snapshot "sources") entry.2 := by
    rw [List.flatMap_eq_nil_iff]
    exact forall₂_congr fun entry _ => fieldErrors_eq_nil _ _ _ _ _
  have network := fieldErrors_eq_nil "network_id" (collectionIds snapshot "networks") true
  have interfaces : ∀ path (vm : Json), itemErrors (fieldErrors "network_id"
      (collectionIds snapshot "networks") true) (path ++ ".interfaces")
        (Json.items (vm.get "interfaces")) = [] ↔
      ∀ interface ∈ Json.items (vm.get "interfaces"),
        Names "network_id" (collectionIds snapshot "networks") interface :=
    fun _ _ => itemErrors_eq_nil network _ _
  have named := fun field => fieldErrors_eq_nil field (collectionIds snapshot "assets")
  have listed := listErrors_eq_nil "asset_ids" (collectionIds snapshot "assets")
  have links := append_eq_nil (fieldErrors_eq_nil "virtual_machine_id"
    (collectionIds snapshot "virtual_machines") false) (named "asset_id" false)
  have flows := append_eq_nil (named "left_asset_id" true) (named "right_asset_id" true)
  have differences := append_eq_nil (append_eq_nil
    (fieldErrors_eq_nil "baseline_id" (collectionIds snapshot "baselines") false)
    (fieldErrors_eq_nil "flow_id" (collectionIds snapshot "flows") true)) listed
  rw [crossReferenceErrors]
  simp only [List.append_eq_nil_iff]
  rw [evidence, collectionErrors_eq_nil interfaces, collectionErrors_eq_nil links,
    collectionErrors_eq_nil (listErrors_eq_nil _ _), collectionErrors_eq_nil (named _ _),
    collectionErrors_eq_nil listed, collectionErrors_eq_nil flows, collectionErrors_eq_nil listed,
    collectionErrors_eq_nil (named _ _), collectionErrors_eq_nil differences]
  constructor
  · rintro ⟨⟨⟨⟨⟨⟨⟨⟨⟨a, b⟩, c⟩, d⟩, e⟩, f⟩, g⟩, h⟩, i⟩, j⟩
    exact ⟨a, b, c, d, e, f, g, h, i, j⟩
  · intro all
    exact ⟨⟨⟨⟨⟨⟨⟨⟨⟨all.evidence, all.interfaces⟩, all.assets⟩, all.links⟩, all.scores⟩,
      all.activities⟩, all.flows⟩, all.events⟩, all.vulnerabilities⟩, all.differences⟩

end DTLab
