import DTLab.Library.Attempt
import DTLab.Remote.References

/-!
# What a call prepares

The manifest of a prepared snapshot names its object, and the names of both are those of contents:
the local store decoded the manifest.
-/

namespace DTLab

open Library (Json Text Dict)
open Library.Json (loads loads_line loads_wellFormed loads_fixed)
open Library.Attempt (bind_eq_ok foldlM_keeps exists_of_mem_mapM)

/-- A decoded manifest was read, and the name of its object is that of a content. -/
theorem decodeManifest_eq_ok {platform : SnapshotPlatform} {label : String} {content : Text}
    {fields : ManifestFields} (decoded : decodeManifest platform label content = .ok fields) :
    loads platform.rounding content = some (.obj fields) ∧
      ∃ name, getField "object_name" fields = .str name ∧ isObjectName name = true := by
  rw [decodeManifest] at decoded
  split at decoded
  · cases decoded
  rename_i manifest read
  rw [bind_eq_ok] at decoded
  obtain ⟨present, _, decoded⟩ := decoded
  cases manifest with
  | obj members =>
    simp only at decoded
    split_ifs at decoded with complete origin form coherent
    rw [← Except.ok.inj decoded]
    refine ⟨read, ?_⟩
    cases named : getField "object_name" members with
    | str name =>
      rw [named, platform.str_text] at form
      exact ⟨name, rfl, form⟩
    | _ =>
      rw [named] at coherent
      cases coherent
  | _ =>
    simp only at decoded
    split_ifs at decoded

/-- An archive that loads has a decoded manifest. -/
theorem decoded_of_loadArchive {platform : SnapshotPlatform} {store : SnapshotFiles}
    {name : String} {stored : StoredSnapshot}
    (loaded : store.loadArchive platform name = .ok stored) :
    ∃ content, decodeManifest platform name content = .ok stored.manifest := by
  rw [SnapshotFiles.loadArchive] at loaded
  split_ifs at loaded
  rw [bind_eq_ok] at loaded
  obtain ⟨fields, read, loaded⟩ := loaded
  have decoded : ∃ content, decodeManifest platform name content = .ok fields := by
    rw [SnapshotFiles.readArchivedManifest] at read
    split at read
    · cases read
    · split_ifs at read
      exact ⟨_, read⟩
  suffices kept : stored.manifest = fields by rwa [kept]
  rw [SnapshotFiles.loadManifest] at loaded
  split at loaded
  · cases loaded
  split_ifs at loaded
  split at loaded
  · cases loaded
  split_ifs at loaded
  rw [bind_eq_ok] at loaded
  obtain ⟨snapshotId, _, loaded⟩ := loaded
  split_ifs at loaded
  rw [← Except.ok.inj loaded]

/-- A prepared snapshot whose manifest names its object. -/
structure PreparedSnapshot.Sound (platform : RemotePlatform) (prepared : PreparedSnapshot) :
    Prop where
  object : isObjectName (prepared.objectName platform) = true
  archive : isObjectName prepared.archiveName = true
  named : namedObject platform prepared.manifestContent = some (prepared.objectName platform)

variable {platform : RemotePlatform} {store : SnapshotFiles}

theorem prepareStored_sound {stored : StoredSnapshot} {prepared : PreparedSnapshot}
    (made : prepareStored platform store stored = .ok prepared) : prepared.Sound platform := by
  simp only [prepareStored] at made
  split at made
  · cases made
  · cases made
  rename_i verified loaded
  split_ifs at made with incoherent
  have same : manifestText verified.manifest = manifestText stored.manifest :=
    not_not.mp (not_or.mp incoherent).1
  obtain ⟨content, decoded⟩ := decoded_of_loadArchive loaded
  obtain ⟨read, name, member, form⟩ := decodeManifest_eq_ok decoded
  have back : loads platform.rounding (manifestText stored.manifest) =
      some (.obj verified.manifest) := by
    rw [← same]
    exact loads_line false (loads_wellFormed read) (loads_fixed platform.rounding_rounding read)
  have objectName : platform.str (getField "object_name" verified.manifest) = name := by
    rw [member, platform.str_text]
  rw [← Except.ok.inj made]
  constructor
  · rw [PreparedSnapshot.objectName, objectName]
    exact form
  · exact isObjectName_objectNameOf (platform.sha256_isDigest _)
  · rw [namedObject, back, PreparedSnapshot.objectName, objectName]
    simp only [member]

/-- The digest of a prepared snapshot is that of its manifest. -/
theorem prepareStored_digest {stored : StoredSnapshot} {prepared : PreparedSnapshot}
    (made : prepareStored platform store stored = .ok prepared) :
    platform.sha256Text prepared.manifestContent = prepared.manifestDigest := by
  simp only [prepareStored] at made
  split at made
  · cases made
  · cases made
  split_ifs at made
  rw [← Except.ok.inj made]

/-- Snapshots that were prepared under one digest have one manifest. -/
theorem prepareStored_content {stored other : StoredSnapshot} {first second : PreparedSnapshot}
    (made : prepareStored platform store stored = .ok first)
    (also : prepareStored platform store other = .ok second)
    (same : first.manifestDigest = second.manifestDigest) :
    first.manifestContent = second.manifestContent := by
  have loaded : ∀ (stored : StoredSnapshot) (prepared : PreparedSnapshot),
      prepareStored platform store stored = .ok prepared → ∃ verified,
        store.loadArchive platform.toSnapshotPlatform (objectNameOf prepared.manifestDigest) =
          .ok verified ∧ prepared.manifestContent = manifestText verified.manifest := by
    intro stored prepared made
    simp only [prepareStored] at made
    split at made
    · cases made
    · cases made
    rename_i verified loaded
    split_ifs at made with incoherent
    rw [← Except.ok.inj made]
    exact ⟨verified, loaded, (not_not.mp (not_or.mp incoherent).1).symm⟩
  obtain ⟨verified, load, content⟩ := loaded stored first made
  obtain ⟨others, load', content'⟩ := loaded other second also
  rw [same, load'] at load
  rw [content, content', Except.ok.inj load]

/-- The archives of a batch were prepared. -/
theorem orderedArchives_prepared {archives : List StoredSnapshot} {current : PreparedSnapshot}
    {ordered : List PreparedSnapshot}
    (made : orderedArchives platform store archives current = .ok ordered) :
    ∀ prepared ∈ ordered, ∃ stored, prepareStored platform store stored = .ok prepared := by
  rw [orderedArchives, bind_eq_ok] at made
  obtain ⟨unique, collected, made⟩ := made
  rw [bind_eq_ok] at made
  obtain ⟨keyed, mapped, made⟩ := made
  have each : ∀ entry ∈ unique.entries,
      ∃ stored, prepareStored platform store stored = .ok entry.2 := by
    apply foldlM_keeps (motive := fun unique : Dict String PreparedSnapshot =>
      ∀ entry ∈ unique.entries, ∃ stored, prepareStored platform store stored = .ok entry.2)
      ?_ ?_ collected
    swap
    · intro entry member
      cases member
    intro known stored next _ each added
    rw [bind_eq_ok] at added
    obtain ⟨prepared, made, added⟩ := added
    split_ifs at added
    · rw [← Except.ok.inj added]
      exact each
    · rw [← Except.ok.inj added]
      intro entry member
      rcases Dict.mem_set.mp member with new | old
      · rw [new]
        exact ⟨stored, made⟩
      · exact each entry old.1
  intro prepared member
  rw [← Except.ok.inj made] at member
  obtain ⟨pair, inside, same⟩ := List.mem_map.mp member
  rw [List.mem_mergeSort] at inside
  obtain ⟨source, stored, computed⟩ := exists_of_mem_mapM mapped inside
  rw [bind_eq_ok] at computed
  obtain ⟨key, _, computed⟩ := computed
  obtain ⟨entry, listed, value⟩ := List.mem_map.mp stored
  rw [← same, ← Except.ok.inj computed, ← value]
  exact each entry listed

/-- What `publish_stored` prepares. -/
theorem prepareOne_prepared {stored : StoredSnapshot} {commitCurrent : Bool}
    {archives : List PreparedSnapshot} {current : Option PreparedSnapshot}
    (made : prepareOne platform store stored commitCurrent = .ok (archives, current)) :
    ∀ prepared ∈ archives ++ current.toList,
      ∃ stored, prepareStored platform store stored = .ok prepared := by
  rw [prepareOne, bind_eq_ok] at made
  obtain ⟨prepared, stored_eq, made⟩ := made
  have alone : archives ++ current.toList = [prepared] := by
    split_ifs at made
    · rw [bind_eq_ok] at made
      obtain ⟨_, _, made⟩ := made
      obtain ⟨rfl, rfl⟩ := Prod.mk.inj (Except.ok.inj made)
      rfl
    · obtain ⟨rfl, rfl⟩ := Prod.mk.inj (Except.ok.inj made)
      rfl
  rw [alone, List.forall_mem_singleton]
  exact ⟨stored, stored_eq⟩

/-- Every snapshot of a call was prepared. -/
theorem RemoteRequest.prepare_prepared {request : RemoteRequest} {archives : List PreparedSnapshot}
    {current : Option PreparedSnapshot}
    (made : request.prepare platform store = .ok (archives, current)) :
    ∀ prepared ∈ archives ++ current.toList,
      ∃ stored, prepareStored platform store stored = .ok prepared := by
  cases request with
  | batch others final =>
    rw [RemoteRequest.prepare, bind_eq_ok] at made
    obtain ⟨_, _, made⟩ := made
    rw [bind_eq_ok] at made
    obtain ⟨prepared, stored, made⟩ := made
    rw [bind_eq_ok] at made
    obtain ⟨ordered, sorted, made⟩ := made
    obtain ⟨rfl, rfl⟩ := Prod.mk.inj (Except.ok.inj made)
    intro snapshot member
    rcases List.mem_append.mp member with archive | last
    · exact orderedArchives_prepared sorted snapshot archive
    · rw [List.mem_singleton.mp last]
      exact ⟨final, stored⟩
  | publish manifest =>
    rw [RemoteRequest.prepare, bind_eq_ok] at made
    obtain ⟨stored, _, made⟩ := made
    exact prepareOne_prepared made
  | one stored commitCurrent => exact prepareOne_prepared made

/-- The manifest of every snapshot that a call prepares names its object. -/
theorem RemoteRequest.prepare_sound {request : RemoteRequest} {archives : List PreparedSnapshot}
    {current : Option PreparedSnapshot}
    (made : request.prepare platform store = .ok (archives, current)) :
    ∀ prepared ∈ archives ++ current.toList, prepared.Sound platform := by
  intro prepared member
  obtain ⟨stored, prepares⟩ := prepare_prepared made prepared member
  exact prepareStored_sound prepares

end DTLab
