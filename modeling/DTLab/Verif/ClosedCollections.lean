import DTLab.Adapters.CyberVision
import DTLab.Contract.Snapshot

/-!
# Normalised collections are closed

References of normalised records are looked up among the assets, flows and baselines that the same
run made, so they always name a record. Identifiers are slugs, and slugs are distinct exactly when
the adapter tells the upstream identifiers apart.
-/

namespace DTLab.CyberVision

open Library (Json Dict)

/-! ## Evidence of records -/

/-- A value in which no evidence is found. -/
def Flat (value : Json) : Prop := value.isObject = false ∧ ∀ path, evidences path value = []

/-- A text holds no evidence. -/
theorem flat_str (text : String) : Flat (.str text) := ⟨rfl, fun _ => rfl⟩

/-- A reference holds no evidence. -/
theorem flat_reference (id : Option String) : Flat (reference id) := by
  cases id with
  | none => exact ⟨rfl, fun _ => rfl⟩
  | some id => exact flat_str id

/-- A list of references holds no evidence. -/
theorem flat_references (ids : List String) : Flat (references ids) := by
  refine ⟨rfl, fun path => ?_⟩
  show evidencesItems path 0 (ids.map .str) = []
  generalize 0 = index
  induction ids generalizing index with
  | nil => rfl
  | cons id ids ih =>
    show [] ++ evidencesItems path (index + 1) (ids.map .str) = []
    exact ih (index + 1)

/-- No evidence is found in members whose values are flat. -/
theorem evidencesFields_flat {fields : List (String × Json)} (path : String)
    (flat : ∀ field ∈ fields, Flat field.2) : evidencesFields path fields = [] := by
  induction fields with
  | nil => rfl
  | cons field fields ih =>
    obtain ⟨key, value⟩ := field
    have first : Flat value := flat (key, value) List.mem_cons_self
    have rest := ih fun field member => flat field (List.mem_cons_of_mem _ member)
    rw [evidencesFields, rest, first.2, if_neg]
    · rfl
    · rw [first.1]
      exact fun both => Bool.false_ne_true both.2

/-- The evidence of a record whose references are flat is the one it is given. -/
theorem evidences_record {source id name : String} {references : List (String × Json)}
    (flat : ∀ field ∈ references, Flat field.2) (path : String) :
    evidences path (record source id name references) =
      [(path ++ "." ++ "evidence", evidence source name)] := by
  have inner : evidences (path ++ "." ++ "evidence") (evidence source name) = [] :=
    evidencesFields_flat _ fun field member => by
      rcases List.mem_cons.mp member with rfl | member
      · exact flat_str source
      · rw [List.mem_singleton.mp member]
        exact flat_str name
  show evidencesFields path _ = _
  rw [evidencesFields, evidencesFields, evidencesFields_flat path flat, inner,
    if_neg (fun both => absurd both.1 (by decide)), if_pos ⟨rfl, rfl⟩]
  rfl

/-- The evidence in a list is that of its items. -/
theorem mem_evidencesItems {values : List Json} {path : String} {index : Nat}
    {entry : String × Json} (member : entry ∈ evidencesItems path index values) :
    ∃ value ∈ values, ∃ place, entry ∈ evidences place value := by
  induction values generalizing index with
  | nil => exact absurd member List.not_mem_nil
  | cons value values ih =>
    rw [evidencesItems] at member
    rcases List.mem_append.mp member with here | later
    · exact ⟨value, List.mem_cons_self, _, here⟩
    · obtain ⟨other, listed, found⟩ := ih later
      exact ⟨other, List.mem_cons_of_mem value listed, found⟩

/-- The evidence in members that are lists is that of their items. -/
theorem mem_evidencesFields {lists : List (String × List Json)} {path : String}
    {entry : String × Json}
    (member : entry ∈ evidencesFields path
      (lists.map fun (name, records) => (name, .arr records))) :
    ∃ list ∈ lists, ∃ value ∈ list.2, ∃ place, entry ∈ evidences place value := by
  induction lists with
  | nil => exact absurd member List.not_mem_nil
  | cons list lists ih =>
    obtain ⟨name, records⟩ := list
    rw [List.map_cons, evidencesFields, if_neg (fun both => Bool.false_ne_true both.2),
      List.nil_append] at member
    rcases List.mem_append.mp member with here | later
    · exact ⟨_, List.mem_cons_self, mem_evidencesItems here⟩
    · obtain ⟨other, listed, found⟩ := ih later
      exact ⟨other, List.mem_cons_of_mem _ listed, found⟩

/-! ## Records of a normalised collection -/

/-- The records of a snapshot of collections. -/
theorem recordsOf_snapshot (collection : NormalizedCollection) (name : String) :
    recordsOf collection.snapshot name = (collection.members.lookup name).getD [] := by
  have each : ∀ lists : List (String × List Json),
      Json.items ((lists.map fun (name, records) => (name, Json.arr records)).lookup name) =
        (lists.lookup name).getD [] := by
    intro lists
    induction lists with
    | nil => rfl
    | cons list lists ih =>
      rw [List.map_cons, List.lookup_cons, List.lookup_cons]
      split
      · rfl
      · exact ih
  exact each collection.members

/-- The ids of records that are made of the items of a list. -/
theorem filterMap_record {α : Type} (source : String) (id name : α → String)
    (references : α → List (String × Json)) (items : List α) :
    (items.map fun item => record source (id item) (name item) (references item)).filterMap
      entityId = items.map id := by
  rw [List.filterMap_map]
  have each : (entityId ∘ fun item => record source (id item) (name item) (references item)) =
      some ∘ id := rfl
  rw [each]
  exact congrFun List.filterMap_eq_map items

variable {platform : AdapterPlatform} {data : Json} {source : String}

/-- A record of a source whose references are flat. -/
def Made (source : String) (value : Json) : Prop :=
  ∃ id name references, value = record source id name references ∧
    ∀ field ∈ references, Flat field.2

/-- Every record is made with the evidence of one of the two sources. -/
theorem made_of_normalized {list : String × List Json}
    (listed : list ∈ (normalized platform data source).members) {value : Json}
    (member : value ∈ list.2) : ∃ named ∈ [source, newUiSourceId], Made named value := by
  have own : ∀ id name references, (∀ field ∈ references, Flat field.2) →
      ∃ named ∈ [source, newUiSourceId], Made named (record source id name references) :=
    fun id name references flat =>
      ⟨source, List.mem_cons_self, id, name, references, rfl, flat⟩
  simp only [NormalizedCollection.members, List.mem_cons, List.not_mem_nil, or_false] at listed
  rcases listed with rfl | rfl | rfl | rfl | rfl | rfl | rfl | rfl | rfl | rfl | rfl
  case inl =>
    rcases List.mem_cons.mp member with rfl | member
    · exact own _ _ _ (by simp)
    · rw [List.mem_singleton.mp member]
      exact ⟨newUiSourceId, by simp, _, _, _, rfl, by simp⟩
  case inr.inr.inl =>
    obtain ⟨entry, _, made⟩ := List.mem_filterMap.mp member
    dsimp only at made
    split at made
    · rw [← Option.some.inj made]
      exact own _ _ _ (by simp [flat_str])
    · cases made
  all_goals
    obtain ⟨entry, _, rfl⟩ := List.mem_map.mp member
    exact own _ _ _ (by simp [flat_str, flat_reference, flat_references])

/-- The ids of the sources. -/
theorem sources_ids : collectionIds (normalized platform data source).snapshot "sources" =
    [source, newUiSourceId] := by
  rw [collectionIds, recordsOf_snapshot]
  rfl

/-- The evidence of a normalised collection names its sources. -/
theorem evidence_named : ∀ entry ∈ evidences "$" (normalized platform data source).snapshot,
    Names "source_id" (collectionIds (normalized platform data source).snapshot "sources")
      entry.2 := by
  intro entry member
  obtain ⟨list, listed, value, inside, place, found⟩ := mem_evidencesFields member
  obtain ⟨named, known, id, name, references, rfl, flat⟩ := made_of_normalized listed inside
  rw [evidences_record flat, List.mem_singleton] at found
  rw [sources_ids, found]
  intro id same
  have text : (Json.str named) = .str id := Option.some.inj same
  rw [← Json.str.inj text]
  exact known

/-! ## Assets -/

/-- The ids of the assets. -/
theorem assets_ids : collectionIds (normalized platform data source).snapshot "assets" =
    (devices platform data).map fun entry => assetId platform entry.1 := by
  rw [collectionIds, recordsOf_snapshot]
  exact filterMap_record source _ _ _ _

/-- Is an id that of an asset? -/
def IsAsset (platform : AdapterPlatform) (data : Json) (asset : String) : Prop :=
  asset ∈ (devices platform data).map fun entry => assetId platform entry.1

/-- What a device is mapped to is the asset of its id. -/
theorem asset_of_device {device asset : String}
    (found : (deviceToAsset platform data).get? device = some asset) :
    asset = assetId platform device ∧ device ∈ (devices platform data).map Prod.fst := by
  have pair := Dict.mem_ofPairs (Dict.get?_eq_some.mp found)
  obtain ⟨entry, listed, same⟩ := List.mem_map.mp pair
  cases same
  exact ⟨rfl, List.mem_map.mpr ⟨entry, listed, rfl⟩⟩

/-- What a device is mapped to is an asset. -/
theorem isAsset_of_device {device asset : String}
    (found : (deviceToAsset platform data).get? device = some asset) :
    IsAsset platform data asset := by
  obtain ⟨rfl, listed⟩ := asset_of_device found
  obtain ⟨entry, member, rfl⟩ := List.mem_map.mp listed
  exact List.mem_map.mpr ⟨entry, member, rfl⟩

/-- What a component is mapped to is an asset. -/
theorem isAsset_of_component {component asset : String}
    (found : (componentToAsset platform data).get? component = some asset) :
    IsAsset platform data asset := by
  have pair := Dict.mem_ofPairs (Dict.get?_eq_some.mp found)
  obtain ⟨item, _, made⟩ := List.mem_filterMap.mp pair
  unfold componentAsset at made
  split at made
  · obtain ⟨other, mapped, same⟩ := Option.map_eq_some_iff.mp made
    cases same
    exact isAsset_of_device mapped
  · cases made

/-- A list gains only what was found. -/
theorem mem_appendNew {listed : List String} {found : List (Option String)} {asset : String}
    (member : asset ∈ appendNew listed found) : asset ∈ listed ∨ some asset ∈ found := by
  induction found generalizing listed with
  | nil => exact Or.inl member
  | cons first found ih =>
    rcases ih member with here | later
    · dsimp only at here
      split at here
      · split at here
        · exact Or.inl here
        · rcases List.mem_append.mp here with old | new
          · exact Or.inl old
          · rw [List.mem_singleton.mp new]
            exact Or.inr List.mem_cons_self
      · exact Or.inl here
    · exact Or.inr (List.mem_cons_of_mem first later)

/-- The devices that a record names are mapped to assets. -/
theorem isAsset_of_refs {record : Json} {asset : String}
    (member : asset ∈ assetRefs platform data record) : IsAsset platform data asset := by
  rcases mem_appendNew member with none | found
  · exact absurd none List.not_mem_nil
  · obtain ⟨device, _, bound⟩ := List.mem_map.mp found
    obtain ⟨id, _, mapped⟩ := Option.bind_eq_some_iff.mp bound
    exact isAsset_of_device mapped

/-- Activities list assets. -/
theorem isAsset_of_activity {entry : String × List String}
    (listed : entry ∈ activityEntries platform data) {asset : String} (member : asset ∈ entry.2) :
    IsAsset platform data asset := by
  obtain ⟨index, bound, rfl⟩ := List.mem_mapIdx.mp listed
  rcases mem_appendNew member with none | found
  · exact absurd none List.not_mem_nil
  · rcases List.mem_append.mp found with side | named
    · rcases List.mem_cons.mp side with left | side
      · exact isAsset_of_component left.symm
      · exact isAsset_of_component (List.mem_singleton.mp side).symm
    · obtain ⟨other, inside, same⟩ := List.mem_map.mp named
      cases same
      exact isAsset_of_refs inside

/-- The sides of a flow name assets. -/
theorem isAsset_of_flowSide {flow : Json} {side : String} {device : List (List String)}
    {asset : String} (found : flowSide platform data flow side device = some asset) :
    IsAsset platform data asset := by
  rcases Option.or_eq_some_iff.mp found with component | ⟨_, mapped⟩
  · exact isAsset_of_component (Option.filter_eq_some_iff.mp component).1
  · exact isAsset_of_device mapped

/-- Events list assets. -/
theorem isAsset_of_event {entry : String × List String}
    (listed : entry ∈ eventEntries platform data) {asset : String} (member : asset ∈ entry.2) :
    IsAsset platform data asset := by
  obtain ⟨item, _, made⟩ := List.mem_filterMap.mp listed
  dsimp only at made
  split at made
  · cases made
    exact isAsset_of_refs member
  · cases made

/-- Differences list assets. -/
theorem isAsset_of_difference {difference : Json} {asset : String}
    (member : asset ∈ differenceAssets platform data difference) :
    IsAsset platform data asset := by
  rcases mem_appendNew member with named | found
  · exact isAsset_of_refs named
  · rcases List.mem_cons.mp found with target | activity
    · rcases Option.or_eq_some_iff.mp target.symm with component | ⟨_, mapped⟩
      · exact isAsset_of_component component
      · exact isAsset_of_device mapped
    · obtain ⟨other, inside, same⟩ := List.mem_map.mp activity
      cases same
      cases read : (Dict.ofPairs (activityEntries platform data)).get?
          ((sourceId platform difference [["targetId"]]).getD "") with
      | none =>
        rw [read] at inside
        exact absurd inside List.not_mem_nil
      | some assets =>
        rw [read] at inside
        exact isAsset_of_activity (Dict.mem_ofPairs (Dict.get?_eq_some.mp read)) inside

/-! ## References -/

/-- The ids of the flows. -/
theorem flows_ids : collectionIds (normalized platform data source).snapshot "flows" =
    (flowEntries platform data).map fun entry => flowId platform entry.1 := by
  rw [collectionIds, recordsOf_snapshot]
  exact filterMap_record source _ _ _ _

/-- The ids of the baselines. -/
theorem baselines_ids : collectionIds (normalized platform data source).snapshot "baselines" =
    (baselineNames platform data).map (baselineId platform) := by
  rw [collectionIds, recordsOf_snapshot]
  exact filterMap_record source _ _ _ _

/-- A field of a record that names an asset, if any, names a known one. -/
theorem names_reference {field : String} {record : Json} {known : List String}
    (id : Option String) (held : record.get field = some (reference id))
    (listed : ∀ asset, id = some asset → asset ∈ known) : Names field known record := by
  intro asset found
  rw [held] at found
  cases id with
  | none => cases found
  | some other =>
    have same : Json.str other = .str asset := Option.some.inj found
    exact listed asset (congrArg some (Json.str.inj same))

/-- A field of a record that lists assets lists known ones. -/
theorem namesAll_references {field : String} {record : Json} {ids known : List String}
    (held : record.get field = some (references ids)) (listed : ∀ asset ∈ ids, asset ∈ known) :
    NamesAll field known record := by
  intro asset found
  rw [held] at found
  obtain ⟨other, inside, same⟩ := List.mem_map.mp found
  rw [← Json.str.inj same]
  exact listed other inside

/-- The association of a vulnerability names an asset. -/
theorem isAsset_of_association {entry : String × String × String}
    (listed : entry ∈ associations platform data) :
    entry.2.1 = assetId platform entry.1 ∧ IsAsset platform data entry.2.1 := by
  obtain ⟨wrapper, _, made⟩ := List.mem_flatMap.mp listed
  dsimp only at made
  split at made
  · exact absurd made List.not_mem_nil
  · rename_i asset found
    have mapped := (Option.filter_eq_some_iff.mp found).1
    obtain ⟨item, _, named⟩ := List.mem_filterMap.mp made
    obtain ⟨vulnerability, _, rfl⟩ := Option.map_eq_some_iff.mp named
    exact ⟨(asset_of_device mapped).1, isAsset_of_device mapped⟩

/-- The associations that are kept are among those read. -/
theorem mem_firstAssociations {seen : List (String × String)}
    {entries : List (String × String × String)} {entry : String × String × String}
    (member : entry ∈ firstAssociations seen entries) : entry ∈ entries := by
  induction entries generalizing seen with
  | nil => exact absurd member List.not_mem_nil
  | cons first rest ih =>
    rw [firstAssociations] at member
    split at member
    · exact List.mem_cons_of_mem first (ih member)
    · rcases List.mem_cons.mp member with rfl | later
      · exact List.mem_cons_self
      · exact List.mem_cons_of_mem first (ih later)

/-- A difference names a baseline of the answer. -/
theorem baseline_of_difference {difference : Difference}
    (listed : difference ∈ differences platform data) :
    difference.baseline ∈ (baselineNames platform data).map (baselineId platform) := by
  obtain ⟨wrapper, _, made⟩ := List.mem_flatMap.mp listed
  dsimp only at made
  split at made
  · exact absurd made List.not_mem_nil
  · rename_i baseline found
    have mapped := (Option.filter_eq_some_iff.mp found).1
    obtain ⟨index, bound, rfl⟩ := List.mem_mapIdx.mp made
    have pair := Dict.mem_ofPairs (Dict.get?_eq_some.mp mapped)
    obtain ⟨name, known, same⟩ := List.mem_map.mp pair
    cases same
    exact List.mem_map.mpr ⟨_, known, rfl⟩

/-- The flow of a difference, if any, is one of the answer. -/
theorem flow_of_difference {difference : Difference}
    (listed : difference ∈ differences platform data) {flow : String}
    (named : difference.flow = some flow) :
    flow ∈ (flowEntries platform data).map fun entry => flowId platform entry.1 := by
  obtain ⟨wrapper, _, made⟩ := List.mem_flatMap.mp listed
  dsimp only at made
  split at made
  · exact absurd made List.not_mem_nil
  · obtain ⟨index, bound, rfl⟩ := List.mem_mapIdx.mp made
    have pair := Dict.mem_ofPairs (Dict.get?_eq_some.mp named)
    obtain ⟨entry, known, same⟩ := List.mem_map.mp pair
    exact List.mem_map.mpr ⟨entry, known, (Prod.mk.inj same).2⟩

/-- The assets of a difference are those of the answer. -/
theorem assets_of_difference {difference : Difference}
    (listed : difference ∈ differences platform data) {asset : String}
    (member : asset ∈ difference.assets) : IsAsset platform data asset := by
  obtain ⟨wrapper, _, made⟩ := List.mem_flatMap.mp listed
  dsimp only at made
  split at made
  · exact absurd made List.not_mem_nil
  · obtain ⟨index, bound, rfl⟩ := List.mem_mapIdx.mp made
    exact isAsset_of_difference member

/-- Every reference of a normalised collection names a record of it. -/
theorem crossReferenced (platform : AdapterPlatform) (data : Json) (source : String) :
    CrossReferenced (normalized platform data source).snapshot where
  evidence := evidence_named
  interfaces := by
    rw [recordsOf_snapshot]
    exact fun vm member => absurd member List.not_mem_nil
  assets := by
    rw [recordsOf_snapshot]
    intro asset member
    obtain ⟨entry, _, rfl⟩ := List.mem_map.mp member
    exact namesAll_references rfl fun _ none => absurd none List.not_mem_nil
  links := by
    rw [recordsOf_snapshot]
    exact fun link member => absurd member List.not_mem_nil
  scores := by
    rw [recordsOf_snapshot, assets_ids]
    intro score member
    obtain ⟨entry, listed, made⟩ := List.mem_filterMap.mp member
    dsimp only at made
    split at made
    · cases made
      refine names_reference (some entry.2) rfl ?_
      rintro asset ⟨rfl⟩
      exact isAsset_of_device (Dict.get?_eq_some.mpr listed)
    · cases made
  activities := by
    rw [recordsOf_snapshot, assets_ids]
    intro activity member
    obtain ⟨entry, listed, rfl⟩ := List.mem_map.mp member
    exact namesAll_references rfl fun asset inside => isAsset_of_activity listed inside
  flows := by
    rw [recordsOf_snapshot, assets_ids]
    intro flow member
    obtain ⟨entry, listed, rfl⟩ := List.mem_map.mp member
    obtain ⟨index, bound, rfl⟩ := List.mem_mapIdx.mp listed
    exact ⟨names_reference _ rfl fun asset found => isAsset_of_flowSide found,
      names_reference _ rfl fun asset found => isAsset_of_flowSide found⟩
  events := by
    rw [recordsOf_snapshot, assets_ids]
    intro event member
    obtain ⟨entry, listed, rfl⟩ := List.mem_map.mp member
    exact namesAll_references rfl fun asset inside => isAsset_of_event listed inside
  vulnerabilities := by
    rw [recordsOf_snapshot, assets_ids]
    intro vulnerability member
    obtain ⟨entry, listed, rfl⟩ := List.mem_map.mp member
    refine names_reference (some entry.2.1) rfl ?_
    rintro asset ⟨rfl⟩
    exact (isAsset_of_association (mem_firstAssociations listed)).2
  differences := by
    rw [recordsOf_snapshot, assets_ids, flows_ids, baselines_ids]
    intro record member
    obtain ⟨difference, listed, rfl⟩ := List.mem_map.mp member
    refine ⟨⟨names_reference (some difference.baseline) rfl ?_,
      names_reference _ rfl fun flow named => flow_of_difference listed named⟩,
      namesAll_references rfl fun asset inside => assets_of_difference listed inside⟩
    rintro baseline ⟨rfl⟩
    exact baseline_of_difference listed

/-! ## Identifiers -/

/-- The ids of records that are made of some items of a list. -/
theorem filterMap_record_if {α : Type} (keep : α → Bool) (source : String) (id name : α → String)
    (references : α → List (String × Json)) (items : List α) :
    (items.filterMap fun item =>
      if keep item then some
        (record source (id item) (name item) (references item)) else none).filterMap
        entityId = (items.filter keep).map id := by
  induction items with
  | nil => rfl
  | cons item items ih =>
    rw [List.filterMap_cons, List.filter_cons]
    by_cases kept : keep item = true
    · rw [if_pos kept, if_pos kept, List.map_cons, ← ih]
      rfl
    · rw [if_neg kept, if_neg kept]
      exact ih

/-- Ids that start alike are distinct when the adapter tells their names apart. -/
theorem nodup_slugs (start : String) (names : List String) :
    (names.map fun name => start ++ slug platform name).Nodup ↔
      names.Pairwise (Apart platform) := by
  rw [List.Nodup, List.pairwise_map]
  have each : ∀ left right : String, start ++ slug platform left ≠ start ++ slug platform right ↔
      Apart platform left right := by
    intro left right
    rw [apart_iff, Ne, String.append_right_inj]
  simp only [each]

/-- Ids of entries that start alike are distinct when the adapter tells their names apart. -/
theorem nodup_entries {β : Type} (start : String) (entries : List (String × β)) :
    (entries.map fun entry => start ++ slug platform entry.1).Nodup ↔
      (entries.map Prod.fst).Pairwise (Apart platform) := by
  rw [← nodup_slugs start, List.map_map]
  rfl

/-- The adapter tells the identifiers of an answer apart. -/
structure ToldApart (platform : AdapterPlatform) (data : Json) (source : String) : Prop where
  sources : source ≠ newUiSourceId
  devices : ((devices platform data).map Prod.fst).Pairwise (Apart platform)
  activities : ((activityEntries platform data).map Prod.fst).Pairwise (Apart platform)
  flows : ((flowEntries platform data).map Prod.fst).Pairwise (Apart platform)
  events : ((eventEntries platform data).map Prod.fst).Pairwise (Apart platform)
  baselines : (baselineNames platform data).Pairwise (Apart platform)
  sensors : (sensorNames platform data).Pairwise (Apart platform)
  reports : (reportNames platform data).Pairwise (Apart platform)
  /-- Vulnerabilities of a device may be repeated, but not confused. -/
  vulnerabilities : ∀ first ∈ associations platform data, ∀ second ∈ associations platform data,
    Apart platform first.1 second.1 ∨ Apart platform first.2.2 second.2.2 ∨
      first.2.2 = second.2.2
  differences : (differences platform data).Pairwise fun first second =>
    Apart platform first.rawBaseline second.rawBaseline ∨ Apart platform first.name second.name

/-- Telling apart does not depend on the order. -/
instance : Std.Symm (Apart platform) where
  symm left right apart := by
    rw [apart_iff] at apart ⊢
    exact apart.symm

/-- Devices that are told apart have distinct scores. -/
theorem nodup_scores
    (apart : ((devices platform data).map Prod.fst).Pairwise (Apart platform)) :
    (((deviceToAsset platform data).entries.filter fun entry =>
      scored platform data entry.1).map fun entry => riskId platform entry.1).Nodup := by
  have known : ∀ entry ∈ (deviceToAsset platform data).entries,
      entry.1 ∈ (devices platform data).map Prod.fst ∧ entry.2 = assetId platform entry.1 := by
    intro entry listed
    have mapped := asset_of_device (Dict.get?_eq_some.mpr listed)
    exact ⟨mapped.2, mapped.1⟩
  have entries := List.Nodup.of_map Prod.fst (deviceToAsset platform data).distinct
  apply List.Nodup.map_on _ (entries.filter _)
  intro first firstKept second secondKept same
  have firstListed := known first (List.mem_of_mem_filter firstKept)
  have secondListed := known second (List.mem_of_mem_filter secondKept)
  have slugs : slug platform first.1 = slug platform second.1 := by
    rw [riskId, riskId, String.append_right_inj] at same
    exact same
  by_cases names : first.1 = second.1
  · apply Prod.ext names
    rw [firstListed.2, secondListed.2, names]
  · have told := apart.forall firstListed.1 secondListed.1 names
    exact absurd slugs (apart_iff.mp told)

/-- Every association read is kept, or one of its asset and vulnerability was met before. -/
theorem exists_firstAssociation {seen : List (String × String)}
    {entries : List (String × String × String)} {entry : String × String × String}
    (member : entry ∈ entries) (fresh : entry.2 ∉ seen) :
    ∃ kept ∈ firstAssociations seen entries, kept.2 = entry.2 := by
  induction entries generalizing seen with
  | nil => exact absurd member List.not_mem_nil
  | cons first rest ih =>
    rw [firstAssociations]
    rcases List.mem_cons.mp member with rfl | later
    · rw [if_neg fresh]
      exact ⟨entry, List.mem_cons_self, rfl⟩
    · split
      · exact ih later fresh
      · by_cases same : first.2 = entry.2
        · exact ⟨first, List.mem_cons_self, same⟩
        · have new : entry.2 ∉ first.2 :: seen := by
            intro listed
            rcases List.mem_cons.mp listed with equal | old
            · exact same equal.symm
            · exact fresh old
          obtain ⟨kept, listed, equal⟩ := ih later new
          exact ⟨kept, List.mem_cons_of_mem first listed, equal⟩

/-- No asset and vulnerability are kept twice. -/
theorem pairwise_firstAssociations (seen : List (String × String))
    (entries : List (String × String × String)) :
    (firstAssociations seen entries).Pairwise (fun first second => first.2 ≠ second.2) ∧
      ∀ kept ∈ firstAssociations seen entries, kept.2 ∉ seen := by
  induction entries generalizing seen with
  | nil => exact ⟨List.Pairwise.nil, fun _ none => absurd none List.not_mem_nil⟩
  | cons first rest ih =>
    rw [firstAssociations]
    split
    · exact ih seen
    · rename_i fresh
      have later := ih (first.2 :: seen)
      constructor
      · apply List.pairwise_cons.mpr ⟨_, later.1⟩
        intro kept listed same
        exact later.2 kept listed (same ▸ List.mem_cons_self)
      · intro kept listed
        rcases List.mem_cons.mp listed with rfl | inside
        · exact fresh
        · exact fun old => later.2 kept inside (List.mem_cons_of_mem _ old)

/-- Assets are equal when the slugs of their devices are. -/
theorem assetId_inj {left right : String} :
    assetId platform left = assetId platform right ↔ slug platform left = slug platform right := by
  rw [assetId, assetId, String.append_right_inj]

/-- Ids of pairs are equal when the adapter tells neither part apart. -/
theorem pairId_inj {start left right left' right' : String} :
    start ++ (slug platform left ++ ":" ++ slug platform right) =
      start ++ (slug platform left' ++ ":" ++ slug platform right') ↔
      ¬ Apart platform left left' ∧ ¬ Apart platform right right' := by
  rw [String.append_right_inj, joined_inj, apart_iff, apart_iff, not_not, not_not]

/-- The ids of the vulnerabilities are distinct exactly when no two of a device are confused. -/
theorem nodup_vulnerabilities (start : String) :
    ((firstAssociations [] (associations platform data)).map fun entry =>
      start ++ (slug platform entry.1 ++ ":" ++ slug platform entry.2.2)).Nodup ↔
      ∀ first ∈ associations platform data, ∀ second ∈ associations platform data,
        Apart platform first.1 second.1 ∨ Apart platform first.2.2 second.2.2 ∨
          first.2.2 = second.2.2 := by
  constructor
  · intro distinct first firstListed second secondListed
    by_cases devices : Apart platform first.1 second.1
    · exact Or.inl devices
    by_cases names : Apart platform first.2.2 second.2.2
    · exact Or.inr (Or.inl names)
    obtain ⟨left, leftKept, leftSame⟩ := exists_firstAssociation firstListed List.not_mem_nil
    obtain ⟨right, rightKept, rightSame⟩ := exists_firstAssociation secondListed List.not_mem_nil
    have deviceOf : ∀ kept ∈ firstAssociations [] (associations platform data),
        ∀ entry ∈ associations platform data, kept.2 = entry.2 →
          slug platform kept.1 = slug platform entry.1 := by
      intro kept inside entry listed same
      have asset := (isAsset_of_association (mem_firstAssociations inside)).1
      rw [same, (isAsset_of_association listed).1] at asset
      exact (assetId_inj.mp asset).symm
    have alike : slug platform left.1 = slug platform right.1 := by
      rw [deviceOf left leftKept first firstListed leftSame,
        deviceOf right rightKept second secondListed rightSame]
      rw [apart_iff, not_not] at devices
      exact devices
    have same : left = right := by
      apply List.inj_on_of_nodup_map distinct leftKept rightKept
      apply pairId_inj.mpr
      rw [leftSame, rightSame]
      exact ⟨fun apart => apart_iff.mp apart alike, names⟩
    rw [← leftSame, ← rightSame, same]
    exact Or.inr (Or.inr rfl)
  · intro apart
    rw [List.Nodup, List.pairwise_map]
    apply List.Pairwise.imp_of_mem _ (pairwise_firstAssociations [] _).1
    intro left right leftKept rightKept other same
    have leftListed := mem_firstAssociations leftKept
    have rightListed := mem_firstAssociations rightKept
    have confused := pairId_inj.mp same
    rcases apart left leftListed right rightListed with devices | names | equal
    · exact confused.1 devices
    · exact confused.2 names
    · have slugs : slug platform left.1 = slug platform right.1 := by
        have devices := confused.1
        rw [apart_iff, not_not] at devices
        exact devices
      apply other
      apply Prod.ext _ equal
      rw [(isAsset_of_association leftListed).1, (isAsset_of_association rightListed).1]
      exact assetId_inj.mpr slugs

/-- The ids of the differences are distinct exactly when no two of a baseline are confused. -/
theorem nodup_differences (start : String) :
    ((differences platform data).map fun difference => start ++
      (slug platform difference.rawBaseline ++ ":" ++ slug platform difference.name)).Nodup ↔
      (differences platform data).Pairwise fun first second =>
        Apart platform first.rawBaseline second.rawBaseline ∨
          Apart platform first.name second.name := by
  rw [List.Nodup, List.pairwise_map]
  have each : ∀ left right : Difference,
      (start ++ (slug platform left.rawBaseline ++ ":" ++ slug platform left.name) ≠
        start ++ (slug platform right.rawBaseline ++ ":" ++ slug platform right.name)) ↔
      (Apart platform left.rawBaseline right.rawBaseline ∨
        Apart platform left.name right.name) := by
    intro left right
    rw [Ne, pairId_inj, ← not_or, not_not]
  simp only [each]

/-- A collection that is made of the items of a list has distinct ids when theirs are. -/
theorem nodup_collection {α : Type} {collection : String} {items : List α} {id name : α → String}
    {references : α → List (String × Json)} {apart : Prop} (told : (items.map id).Nodup ↔ apart)
    (made : ((normalized platform data source).members.lookup collection).getD [] =
      items.map fun item => record source (id item) (name item) (references item)) :
    (collectionIds (normalized platform data source).snapshot collection).Nodup ↔ apart := by
  rw [collectionIds, recordsOf_snapshot, made, filterMap_record]
  exact told

/-- The ids of the scores. -/
theorem scores_ids : collectionIds (normalized platform data source).snapshot "risk_scores" =
    ((deviceToAsset platform data).entries.filter fun entry =>
      scored platform data entry.1).map fun entry => riskId platform entry.1 := by
  rw [collectionIds, recordsOf_snapshot]
  exact filterMap_record_if _ source _ _ _ _

/-- The ids of a normalised collection are distinct exactly when the adapter tells the identifiers
of the answer apart. -/
theorem uniqueIds_iff (platform : AdapterPlatform) (data : Json) (source : String) :
    uniqueIdErrors (normalized platform data source).snapshot = [] ↔
      ToldApart platform data source := by
  have sources : (collectionIds (normalized platform data source).snapshot "sources").Nodup ↔
      source ≠ newUiSourceId := by
    rw [sources_ids, List.nodup_cons, List.mem_singleton]
    exact and_iff_left (List.nodup_singleton _)
  have assets : (collectionIds (normalized platform data source).snapshot
      "assets").Nodup ↔ _ := nodup_collection (nodup_entries ("asset:" ++ idPrefix ++ ":") _) rfl
  have activities : (collectionIds (normalized platform data source).snapshot
      "activities").Nodup ↔ _ :=
        nodup_collection (nodup_entries ("activity:" ++ idPrefix ++ ":") _) rfl
  have flows : (collectionIds (normalized platform data source).snapshot
      "flows").Nodup ↔ _ := nodup_collection (nodup_entries ("flow:" ++ idPrefix ++ ":") _) rfl
  have events : (collectionIds (normalized platform data source).snapshot
      "events").Nodup ↔ _ := nodup_collection (nodup_entries ("event:" ++ idPrefix ++ ":") _) rfl
  have vulnerabilities : (collectionIds (normalized platform data source).snapshot
      "vulnerabilities").Nodup ↔ _ :=
        nodup_collection (nodup_vulnerabilities ("vulnerability:" ++ idPrefix ++ ":")) rfl
  have baselines : (collectionIds (normalized platform data source).snapshot
      "baselines").Nodup ↔ _ :=
        nodup_collection (nodup_slugs ("baseline:" ++ idPrefix ++ ":") _) rfl
  have compared : (collectionIds (normalized platform data source).snapshot
      "baseline_differences").Nodup ↔ _ :=
        nodup_collection (nodup_differences ("baseline-difference:" ++ idPrefix ++ ":")) rfl
  have sensors : (collectionIds (normalized platform data source).snapshot
      "sensors").Nodup ↔ _ := nodup_collection (nodup_slugs ("sensor:" ++ idPrefix ++ ":") _) rfl
  have reports : (collectionIds (normalized platform data source).snapshot
      "reports").Nodup ↔ _ := nodup_collection (nodup_slugs ("report:" ++ idPrefix ++ ":") _) rfl
  rw [uniqueIdErrors_eq_nil]
  constructor
  · intro distinct
    exact {
      sources := sources.mp (distinct _ (by simp [entityCollections]))
      devices := assets.mp (distinct _ (by simp [entityCollections]))
      activities := activities.mp (distinct _ (by simp [entityCollections]))
      flows := flows.mp (distinct _ (by simp [entityCollections]))
      events := events.mp (distinct _ (by simp [entityCollections]))
      baselines := baselines.mp (distinct _ (by simp [entityCollections]))
      sensors := sensors.mp (distinct _ (by simp [entityCollections]))
      reports := reports.mp (distinct _ (by simp [entityCollections]))
      vulnerabilities := vulnerabilities.mp (distinct _ (by simp [entityCollections]))
      differences := compared.mp (distinct _ (by simp [entityCollections])) }
  · intro apart collection listed
    have absent : ∀ name, (normalized platform data source).members.lookup name = none →
        (collectionIds (normalized platform data source).snapshot name).Nodup := by
      intro name missing
      rw [collectionIds, recordsOf_snapshot, missing]
      exact List.nodup_nil
    simp only [entityCollections, List.mem_cons, List.not_mem_nil, or_false] at listed
    rcases listed with rfl | rfl | rfl | rfl | rfl | rfl | rfl | rfl | rfl | rfl | rfl | rfl |
      rfl | rfl | rfl
    · exact sources.mpr apart.sources
    · exact absent _ rfl
    · exact absent _ rfl
    · exact assets.mpr apart.devices
    · exact absent _ rfl
    · rw [scores_ids]
      exact nodup_scores apart.devices
    · exact activities.mpr apart.activities
    · exact flows.mpr apart.flows
    · exact events.mpr apart.events
    · exact vulnerabilities.mpr apart.vulnerabilities
    · exact baselines.mpr apart.baselines
    · exact compared.mpr apart.differences
    · exact sensors.mpr apart.sensors
    · exact reports.mpr apart.reports
    · exact absent _ rfl

/-! ## Accepted answers -/

/-- A platform that answers the texts of the answers below. -/
def plainPlatform : AdapterPlatform :=
  { asciiPlatform fun _ => String.ofList (List.replicate 64 '0') with
    digest := fun _ => by rw [asciiPlatform, String.toList_ofList]; decide
    utcText := fun value => Json.text? (some value)
    percent := fun _ => false
    isZero := fun _ => false }

/-- An answer whose devices have some ids. -/
def deviceAnswer (ids : List String) : Json :=
  .obj [("collected_at", .str "2026-07-01T08:00:00Z"), ("capabilities", .obj []),
    ("data", .obj [("devices", .arr (ids.map fun id => .obj [("id", .str id)]))])]

/-- Such an answer is accepted. -/
theorem deviceAnswer_accepted (ids : List String) :
    normalizeCollection plainPlatform defaultSourceId (deviceAnswer ids) =
      .ok (normalized plainPlatform (member (deviceAnswer ids) "data") defaultSourceId) := by
  rfl

/-- Only its devices can be confused. -/
theorem toldApart_deviceAnswer {ids : List String}
    (apart : ((devices plainPlatform (member (deviceAnswer ids) "data")).map Prod.fst).Pairwise
      (Apart plainPlatform)) :
    ToldApart plainPlatform (member (deviceAnswer ids) "data") defaultSourceId where
  sources := by decide
  devices := apart
  activities := List.Pairwise.nil
  flows := List.Pairwise.nil
  events := List.Pairwise.nil
  baselines := List.Pairwise.nil
  sensors := List.Pairwise.nil
  reports := List.Pairwise.nil
  vulnerabilities := fun _ none => absurd none List.not_mem_nil
  differences := List.Pairwise.nil

/-- An accepted answer is normalised without errors of the contract exactly when the adapter tells
its identifiers apart: only they can be at fault, no reference is. -/
theorem normalized_closed_iff {collection : NormalizedCollection} {raw : Json}
    (accepted : normalizeCollection platform source raw = .ok collection) :
    uniqueIdErrors collection.snapshot = [] ∧ crossReferenceErrors collection.snapshot = [] ↔
      ToldApart platform (member raw "data") source := by
  rw [normalizeCollection_ok accepted]
  have references := (crossReferenceErrors_eq_nil _).mpr
    (crossReferenced platform (member raw "data") source)
  rw [uniqueIds_iff]
  exact and_iff_left references

/-- A controller and a panel are normalised without errors. -/
theorem normalized_closed_two :
    uniqueIdErrors (normalized plainPlatform (member (deviceAnswer ["PLC", "HMI"]) "data")
      defaultSourceId).snapshot = [] ∧
    crossReferenceErrors (normalized plainPlatform (member (deviceAnswer ["PLC", "HMI"]) "data")
      defaultSourceId).snapshot = [] := by
  apply (normalized_closed_iff (deviceAnswer_accepted ["PLC", "HMI"])).mpr
  apply toldApart_deviceAnswer
  have ids : (devices plainPlatform (member (deviceAnswer ["PLC", "HMI"]) "data")).map Prod.fst =
      ["PLC", "HMI"] := by decide
  rw [ids, List.pairwise_pair, apart_iff]
  decide

/-- Two controllers whose ids differ in case only get one id. -/
theorem normalized_closed_case :
    normalizeCollection plainPlatform defaultSourceId (deviceAnswer ["PLC", "plc"]) =
      .ok (normalized plainPlatform (member (deviceAnswer ["PLC", "plc"]) "data")
        defaultSourceId) ∧
    uniqueIdErrors (normalized plainPlatform (member (deviceAnswer ["PLC", "plc"]) "data")
      defaultSourceId).snapshot ≠ [] := by
  refine ⟨deviceAnswer_accepted _, fun none => ?_⟩
  have apart := ((uniqueIds_iff _ _ _).mp none).devices
  have ids : (devices plainPlatform (member (deviceAnswer ["PLC", "plc"]) "data")).map Prod.fst =
      ["PLC", "plc"] := by decide
  rw [ids, List.pairwise_pair, apart_iff] at apart
  exact apart (by decide)

end DTLab.CyberVision
