import DTLab.Library.Attempt
import DTLab.Library.JsonNewlines
import DTLab.Library.Ranking
import DTLab.Remote.Placement

/-!
# What retention reads of the store

An inventory is faithful: its paths are those of the files in the store, and its records are those
of the manifests in them. What it keeps is said of the manifests.
-/

namespace DTLab

open Library (Json Text Dict Program)
open Library (universalNewlines)
open Library.Json (loads loads_of_universalNewlines)
open Library.Attempt (exists_of_mem_mapM exists_mem_of_mapM map_of_mapM)
open Library.Program (Ensures Reads reads_lift reads_returned)

variable {platform : RemotePlatform} {config : PublishConfig}

/-! ## Names of contents -/

/-- The name of an object is its stem with `.json` behind it. -/
theorem objectNameOf_stem {name : String} (form : isObjectName name = true) :
    objectNameOf (stem name) = name := by
  rw [isObjectName, Bool.and_eq_true, isDigestBody, Bool.and_eq_true, decide_eq_true_eq,
    decide_eq_true_eq] at form
  obtain ⟨⟨digits, _⟩, suffix⟩ := form
  have parts : name.toList = name.toList.take 64 ++ ".json".toList := by
    rw [← suffix, List.take_append_drop]
  have ends : ".json".toList.isSuffixOf name.toList = true := by
    rw [List.isSuffixOf_iff_suffix]
    exact ⟨name.toList.take 64, parts.symm⟩
  have length : name.length = 69 := by
    rw [← String.length_toList, parts, List.length_append, digits]
    rfl
  have stem_eq : stem name = String.ofList (name.toList.take 64) := by
    rw [stem, if_pos ends, length]
  apply String.toList_inj.mp
  rw [objectNameOf, String.toList_append, stem_eq, String.toList_ofList]
  exact parts.symm

/-- The stem of the name of an object is its digest. -/
theorem stem_objectNameOf (digest : String) : stem (objectNameOf digest) = digest := by
  have parts : (objectNameOf digest).toList = digest.toList ++ ".json".toList :=
    String.toList_append
  have ends : ".json".toList.isSuffixOf (objectNameOf digest).toList = true := by
    rw [List.isSuffixOf_iff_suffix]
    exact ⟨digest.toList, parts.symm⟩
  have length : (objectNameOf digest).length - 5 = digest.toList.length := by
    rw [← String.length_toList, parts, List.length_append]
    exact Nat.add_sub_cancel _ _
  rw [stem, if_pos ends, length, parts, List.take_left, String.ofList_toList]

/-- Names of objects with one stem are one. -/
theorem stem_inj {name other : String} (form : isObjectName name = true)
    (otherForm : isObjectName other = true) (same : stem name = stem other) : name = other := by
  rw [← objectNameOf_stem form, ← objectNameOf_stem otherForm, same]

/-! ## Records -/

/-- What a manifest is to retention, which reads it in text mode. -/
def manifestRecord (platform : RemotePlatform) (content : Text) : Option RemoteManifest :=
  (decodeRemoteManifest platform (universalNewlines content)
    (platform.sha256Text content)).toOption

/-- A remote manifest is decoded under its digest alone, and names an object. -/
theorem decodeRemoteManifest_eq_ok {content : Text} {digest : String} {record : RemoteManifest}
    (decoded : decodeRemoteManifest platform (universalNewlines content) digest = .ok record) :
    record.digest = digest ∧ platform.sha256Text (universalNewlines content) = digest ∧
      namedObject platform content = some record.objectName := by
  have hashed : platform.sha256Text (universalNewlines content) = digest := by
    by_contra differs
    rw [decodeRemoteManifest, if_pos differs] at decoded
    cases decoded
  rw [decodeRemoteManifest, if_neg (not_not.mpr hashed)] at decoded
  split_ifs at decoded
  split at decoded
  · rename_i fields read
    have raw : loads platform.rounding content = some (.obj fields) :=
      loads_of_universalNewlines read
    split_ifs at decoded
    split at decoded
    · rename_i sha256 objectName byteLength snapshotId _ named _ _
      split_ifs at decoded
      split at decoded
      · cases decoded
      · cases decoded
      · cases decoded
      · rw [← Except.ok.inj decoded]
        refine ⟨rfl, hashed, ?_⟩
        rw [namedObject, raw]
        simp only [named]
    · cases decoded
  · cases decoded

/-- The record of a manifest has its digest and its object. -/
theorem manifestRecord_eq_some {content : Text} {record : RemoteManifest}
    (found : manifestRecord platform content = some record) :
    record.digest = platform.sha256Text content ∧
      namedObject platform content = some record.objectName := by
  rw [manifestRecord] at found
  cases decoded : decodeRemoteManifest platform (universalNewlines content)
      (platform.sha256Text content) with
  | error fault =>
    rw [decoded] at found
    cases found
  | ok other =>
    rw [decoded] at found
    rw [← Option.some.inj found]
    have facts := decodeRemoteManifest_eq_ok decoded
    exact ⟨facts.1, facts.2.2⟩

/-- A file is the manifest of a record. -/
def Describes (platform : RemotePlatform) (files : RemoteFiles) (path : RemotePath)
    (record : RemoteManifest) : Prop :=
  ∃ content, files.content path = some content ∧ manifestRecord platform content = some record

/-- A file is the manifest of one record. -/
theorem Describes.unique {files : RemoteFiles} {path : RemotePath} {first second : RemoteManifest}
    (describes : Describes platform files path first)
    (also : Describes platform files path second) : first = second := by
  obtain ⟨content, found, record⟩ := describes
  obtain ⟨content', found', record'⟩ := also
  rw [found] at found'
  rw [← Option.some.inj found', record] at record'
  exact Option.some.inj record'

/-- An inventory says what is in the store. -/
structure RetentionInventory.Faithful (platform : RemotePlatform) (files : RemoteFiles)
    (inventory : RetentionInventory) : Prop where
  archivePaths : ∀ path, path ∈ inventory.archivePaths ↔
    path.directory = .manifests ∧ (files.content path).isSome
  archiveNames : ∀ path ∈ inventory.archivePaths, isObjectName path.name = true
  distinct : inventory.archivePaths.Nodup
  archives : ∀ path ∈ inventory.archivePaths, ∃ record ∈ inventory.archives,
    Describes platform files path record
  ofArchives : ∀ record ∈ inventory.archives, ∃ path ∈ inventory.archivePaths,
    Describes platform files path record
  digests : inventory.archives.map RemoteManifest.digest =
    inventory.archivePaths.map fun path => stem path.name
  named : ∀ path ∈ inventory.archivePaths, ∀ content, files.content path = some content →
    platform.sha256Text content = stem path.name
  pointerPaths : ∀ path, path ∈ inventory.pointerPaths ↔
    (∃ pointer, path = pointerPath pointer) ∧ (files.content path).isSome
  pointers : ∀ path ∈ inventory.pointerPaths, ∃ record ∈ inventory.pointers,
    Describes platform files path record
  ofPointers : ∀ record ∈ inventory.pointers, ∃ path ∈ inventory.pointerPaths,
    Describes platform files path record
  objectPaths : ∀ path, path ∈ inventory.objectPaths ↔
    path.directory = .objects ∧ (files.content path).isSome

/-! ## Reading an inventory -/

/-- Every name is listed once. -/
theorem Lists.nodup {files : RemoteFiles} {directory : RemoteDirectory}
    {entries : List (String × Bool)} (lists : Lists files directory entries) :
    (entries.map Prod.fst).Nodup := by
  obtain ⟨found, _, same⟩ := lists
  rw [same, List.map_map]
  exact found.distinct

/-- The sorted paths of a listing. -/
theorem mem_sortedPaths {directory : RemoteDirectory} {entries : List (String × Bool)}
    {path : RemotePath} :
    path ∈ sortedPaths directory entries ↔
      path.directory = directory ∧ path.name ∈ entries.map Prod.fst := by
  simp only [sortedPaths, List.mem_map, List.mem_mergeSort]
  constructor
  · rintro ⟨name, member, rfl⟩
    exact ⟨rfl, member⟩
  · rintro ⟨same, member⟩
    refine ⟨path.name, member, ?_⟩
    rw [← same]

/-- The sorted paths of a directory are those of its files. -/
theorem Lists.mem_sortedPaths {files : RemoteFiles} {directory : RemoteDirectory}
    {entries : List (String × Bool)} (lists : Lists files directory entries) (path : RemotePath) :
    path ∈ sortedPaths directory entries ↔
      path.directory = directory ∧ (files.content path).isSome := by
  rw [DTLab.mem_sortedPaths]
  apply and_congr_right
  intro same
  rw [lists.mem, ← same]

/-- No path of a listing comes twice. -/
theorem Lists.nodup_sortedPaths {files : RemoteFiles} {directory : RemoteDirectory}
    {entries : List (String × Bool)} (lists : Lists files directory entries) :
    (sortedPaths directory entries).Nodup := by
  apply List.Nodup.map
  · intro first second same
    exact congrArg RemotePath.name same
  · exact (List.mergeSort_perm _ _).nodup_iff.mpr lists.nodup

/-- Entries that were checked have the names of contents. -/
theorem checkEntries_names {label : String} {entries : List (String × Bool)}
    (checked : checkEntries label entries = .ok ()) :
    ∀ name ∈ entries.map Prod.fst, isObjectName name = true := by
  rw [checkEntries] at checked
  split_ifs at checked with links names
  intro name member
  obtain ⟨entry, listed, rfl⟩ := List.mem_map.mp member
  by_contra other
  apply names
  rw [List.any_eq_true]
  exact ⟨entry, listed, by simpa using other⟩

/-- What was listed of the directories of pointers. -/
def ListsPointers (files : RemoteFiles) (known : List (SnapshotPointer × List (String × Bool))) :
    Prop :=
  ∀ entry ∈ known, Lists files (.pointer entry.1) entry.2

/-- The directories of the pointers are listed. -/
theorem reads_pointerEntries (files : RemoteFiles) :
    (Program.accumulate (fun known pointer => do
      let entries ← remoteEntries config (.pointer pointer)
      Program.lift (checkPointerEntries pointer entries)
      Program.returned (known ++ [(pointer, entries)])) [] remotePointers).Reads platform.host files
      fun known => known.map Prod.fst = remotePointers ∧ ListsPointers files known := by
  let holds (known : List (SnapshotPointer × List (String × Bool)))
      (rest : List SnapshotPointer) : Prop :=
    known.map Prod.fst ++ rest = remotePointers ∧ ListsPointers files known
  have start : holds [] remotePointers := ⟨rfl, nofun⟩
  apply (Program.reads_accumulate holds ?_ start).weaken
  · rintro known ⟨all, lists⟩
    rw [List.append_nil] at all
    exact ⟨all, lists⟩
  · rintro known pointer rest ⟨all, lists⟩
    apply Reads.bind (reads_remoteEntries (.pointer pointer) files)
    intro entries listed
    apply Reads.bind (reads_lift fun _ _ => trivial)
    intro _ _
    apply reads_returned
    refine ⟨?_, ?_⟩
    · rw [← all, List.map_append, List.append_assoc]
      rfl
    · intro entry member
      rcases List.mem_append.mp member with old | new
      · exact lists entry old
      · rw [List.mem_singleton.mp new]
        exact listed

/-- The paths of the pointers that have a manifest. -/
theorem mem_pointerPaths {files : RemoteFiles}
    {known : List (SnapshotPointer × List (String × Bool))}
    (all : known.map Prod.fst = remotePointers) (lists : ListsPointers files known)
    (path : RemotePath) :
    path ∈ (known.filter fun entry => (entry.2.lookup "manifest.json").isSome).map
        (fun entry => pointerPath entry.1) ↔
      (∃ pointer, path = pointerPath pointer) ∧ (files.content path).isSome := by
  have present : ∀ entry ∈ known, (entry.2.lookup "manifest.json").isSome = true ↔
      (files.content (pointerPath entry.1)).isSome = true := by
    intro entry member
    rw [pointerPath, ← (lists entry member).mem, List.lookup_isSome_iff, List.mem_map]
    constructor
    · rintro ⟨found, inside, same⟩
      exact ⟨found, inside, (eq_of_beq same).symm⟩
    · rintro ⟨found, inside, same⟩
      exact ⟨found, inside, beq_of_eq same.symm⟩
  constructor
  · intro member
    obtain ⟨entry, kept, rfl⟩ := List.mem_map.mp member
    obtain ⟨inside, has⟩ := List.mem_filter.mp kept
    exact ⟨⟨entry.1, rfl⟩, (present entry inside).mp has⟩
  · rintro ⟨⟨pointer, rfl⟩, has⟩
    have listed : pointer ∈ known.map Prod.fst := by
      rw [all]
      cases pointer <;> decide
    obtain ⟨entry, inside, rfl⟩ := List.mem_map.mp listed
    exact List.mem_map.mpr
      ⟨entry, List.mem_filter.mpr ⟨inside, (present entry inside).mpr has⟩, rfl⟩

section Manifests

variable {files : RemoteFiles} {paths : List RemotePath} {hashes : List (RemotePath × String)}
  {contents : List (RemotePath × Text)} {path : RemotePath} {record : RemoteManifest}

/-- The record of an archive is that of its content, whose digest is its name. -/
theorem readArchive_eq_ok (hashed : readAll files platform.sha256Text paths = some hashes)
    (read : readAll files universalNewlines paths = some contents) (member : path ∈ paths)
    (decoded : readArchive platform hashes contents path = .ok record) :
    ∃ content, files.content path = some content ∧
      platform.sha256Text content = stem path.name ∧
      manifestRecord platform content = some record ∧ record.digest = stem path.name := by
  obtain ⟨content, found, digest⟩ := lookup_readAll hashed member
  obtain ⟨content', found', text⟩ := lookup_readAll read member
  have same : content' = content := Option.some.inj (found'.symm.trans found)
  rw [readArchive, text, same, digest] at decoded
  split_ifs at decoded with differs
  have named : platform.sha256Text content = stem path.name :=
    Option.some.inj (not_not.mp differs)
  have described : manifestRecord platform content = some record := by
    rw [manifestRecord, named]
    exact congrArg Except.toOption decoded
  exact ⟨content, found, named, described, (decodeRemoteManifest_eq_ok decoded).1⟩

/-- The record of a pointer is that of its content. -/
theorem readPointer_eq_ok (hashed : readAll files platform.sha256Text paths = some hashes)
    (read : readAll files universalNewlines paths = some contents) (member : path ∈ paths)
    (decoded : readPointer platform hashes contents path = .ok record) :
    Describes platform files path record := by
  obtain ⟨content, found, digest⟩ := lookup_readAll hashed member
  obtain ⟨content', found', text⟩ := lookup_readAll read member
  have same : content' = content := Option.some.inj (found'.symm.trans found)
  rw [readPointer, text, digest, same] at decoded
  exact ⟨content, found, congrArg Except.toOption decoded⟩

end Manifests

/-- What was read of the store makes up a faithful inventory. -/
theorem reads_readInventory (files : RemoteFiles) :
    (readInventory platform config).Reads platform.host files fun inventory =>
      inventory.Faithful platform files := by
  apply Reads.bind (reads_remoteEntries .manifests files)
  intro manifestEntries manifests
  apply Reads.bind (reads_remoteEntries .objects files)
  intro objectEntries objects
  apply Reads.bind (reads_lift fun _ checked => checkEntries_names checked)
  intro _ archiveNames
  apply Reads.bind (reads_lift fun _ _ => trivial)
  intro _ _
  apply Reads.bind (reads_pointerEntries files)
  intro pointerEntries listed
  obtain ⟨all, lists⟩ := listed
  apply Reads.bind (reads_remoteHashesRequired _ files)
  intro hashes hashed
  apply Reads.bind (reads_remoteContentsRequired _ files)
  intro contents read
  apply Reads.bind (reads_lift fun archives decoded => decoded)
  intro archives archived
  apply Reads.bind (reads_lift fun pointers decoded => decoded)
  intro pointers pointed
  apply Reads.bind (reads_remoteHashesRequired _ files)
  intro objectHashes _
  apply Reads.bind (reads_lift fun _ _ => trivial)
  intro _ _
  apply Reads.bind (reads_lift fun _ _ => trivial)
  intro _ _
  apply reads_returned
  have archive : ∀ path ∈ sortedPaths .manifests manifestEntries, ∀ record,
      readArchive platform hashes contents path = .ok record →
        Describes platform files path record := by
    intro path member record decoded
    obtain ⟨content, found, _, described, _⟩ :=
      readArchive_eq_ok hashed read (List.mem_append_left _ member) decoded
    exact ⟨content, found, described⟩
  have pointer : ∀ path ∈ (pointerEntries.filter fun entry =>
        (entry.2.lookup "manifest.json").isSome).map (fun entry => pointerPath entry.1),
      ∀ record, readPointer platform hashes contents path = .ok record →
        Describes platform files path record :=
    fun path member record decoded =>
      readPointer_eq_ok hashed read (List.mem_append_right _ member) decoded
  constructor
  case archivePaths => exact manifests.mem_sortedPaths
  case archiveNames =>
    intro path member
    exact archiveNames path.name (mem_sortedPaths.mp member).2
  case distinct => exact manifests.nodup_sortedPaths
  case archives =>
    intro path member
    obtain ⟨record, inside, decoded⟩ := exists_mem_of_mapM archived member
    exact ⟨record, inside, archive path member record decoded⟩
  case ofArchives =>
    intro record inside
    obtain ⟨path, member, decoded⟩ := exists_of_mem_mapM archived inside
    exact ⟨path, member, archive path member record decoded⟩
  case digests =>
    apply map_of_mapM ?_ archived
    intro path member record decoded
    obtain ⟨_, _, _, _, digest⟩ :=
      readArchive_eq_ok hashed read (List.mem_append_left _ member) decoded
    exact digest
  case named =>
    intro path member content found
    obtain ⟨record, _, decoded⟩ := exists_mem_of_mapM archived member
    obtain ⟨content', found', sha256, _⟩ :=
      readArchive_eq_ok hashed read (List.mem_append_left _ member) decoded
    rw [Option.some.inj (found.symm.trans found')]
    exact sha256
  case pointerPaths => exact mem_pointerPaths all lists
  case pointers =>
    intro path member
    obtain ⟨record, inside, decoded⟩ := exists_mem_of_mapM pointed member
    exact ⟨record, inside, pointer path member record decoded⟩
  case ofPointers =>
    intro record inside
    obtain ⟨path, member, decoded⟩ := exists_of_mem_mapM pointed inside
    exact ⟨path, member, pointer path member record decoded⟩
  case objectPaths => exact objects.mem_sortedPaths

/-! ## What is kept -/

/-- The manifest under a pointer has a digest. -/
def PointedAt (platform : RemotePlatform) (files : RemoteFiles) (digest : String) : Prop :=
  ∃ pointer content, files.content (pointerPath pointer) = some content ∧
    platform.sha256Text content = digest

/-- The records of archives, whose contents are given by their names. -/
def Archived (platform : RemotePlatform) (stock : String → Option Text) : Set RemoteManifest :=
  {record | ∃ name content, stock name = some content ∧
    manifestRecord platform content = some record}

/-- Few records are above one. -/
def MostRecent (count : Nat) (records : Set RemoteManifest) (record : RemoteManifest) : Prop :=
  {other | other ∈ records ∧ record.key < other.key}.encard < count

namespace RetentionInventory.Faithful

variable {inventory : RetentionInventory} {files : RemoteFiles}
  (faithful : inventory.Faithful platform files) (retention : Nat)

include faithful

/-- The archives are those of the store. -/
theorem mem_archives (record : RemoteManifest) :
    record ∈ inventory.archives ↔ record ∈ Archived platform files.archives := by
  constructor
  · intro member
    obtain ⟨path, listed, content, found, described⟩ := faithful.ofArchives record member
    have directory := ((faithful.archivePaths path).mp listed).1
    refine ⟨path.name, content, ?_, described⟩
    rw [RemoteFiles.archives, ← directory]
    exact found
  · rintro ⟨name, content, found, described⟩
    have listed : (⟨.manifests, name⟩ : RemotePath) ∈ inventory.archivePaths :=
      (faithful.archivePaths _).mpr ⟨rfl, Option.isSome_of_mem found⟩
    obtain ⟨other, member, describes⟩ := faithful.archives _ listed
    rw [describes.unique ⟨content, found, described⟩] at member
    exact member

/-- The record of an archive has its name. -/
theorem digest_eq {path : RemotePath} {record : RemoteManifest}
    (listed : path ∈ inventory.archivePaths) (describes : Describes platform files path record) :
    record.digest = stem path.name := by
  obtain ⟨content, found, described⟩ := describes
  rw [(manifestRecord_eq_some described).1]
  exact faithful.named path listed content found

/-- No two archives have one digest. -/
theorem digests_nodup : (inventory.archives.map RemoteManifest.digest).Nodup := by
  rw [faithful.digests]
  apply List.Nodup.map_on ?_ faithful.distinct
  intro first listed second also same
  have names : first.name = second.name :=
    stem_inj (faithful.archiveNames first listed) (faithful.archiveNames second also) same
  have directory := ((faithful.archivePaths first).mp listed).1
  have directory' := ((faithful.archivePaths second).mp also).1
  cases first
  cases second
  simp_all

/-- The recent archives are the most recent of all. -/
theorem mem_recent (record : RemoteManifest) :
    record ∈ inventory.recent retention ↔ record ∈ inventory.archives ∧
      MostRecent retention (Archived platform files.archives) record := by
  have keys : (inventory.archives.map RemoteManifest.key).Nodup := by
    apply List.Nodup.of_map (fun key : Int ×ₗ String => (ofLex key).2)
    rw [List.map_map]
    exact faithful.digests_nodup
  have records : {other | other ∈ Archived platform files.archives ∧ record.key < other.key} =
      {other | other ∈ inventory.archives ∧ record.key < other.key} := by
    ext other
    exact and_congr_left fun _ => (faithful.mem_archives other).symm
  rw [recent, Library.Ranking.mem_take_mergeSort RemoteManifest.key keys, MostRecent, records,
    Library.Ranking.encard_above RemoteManifest.key keys.of_map, Nat.cast_lt]

/-- The digests of the pointers are those of their manifests. -/
theorem mem_pointers (digest : String) :
    digest ∈ inventory.pointers.map RemoteManifest.digest ↔ PointedAt platform files digest := by
  constructor
  · intro member
    obtain ⟨record, inside, same⟩ := List.mem_map.mp member
    obtain ⟨path, listed, content, found, described⟩ := faithful.ofPointers record inside
    obtain ⟨⟨pointer, path_eq⟩, _⟩ := (faithful.pointerPaths path).mp listed
    refine ⟨pointer, content, path_eq ▸ found, ?_⟩
    rw [← same, (manifestRecord_eq_some described).1]
  · rintro ⟨pointer, content, found, same⟩
    have listed : pointerPath pointer ∈ inventory.pointerPaths :=
      (faithful.pointerPaths _).mpr ⟨⟨pointer, rfl⟩, Option.isSome_of_mem found⟩
    obtain ⟨record, inside, content', found', described⟩ := faithful.pointers _ listed
    refine List.mem_map.mpr ⟨record, inside, ?_⟩
    rw [(manifestRecord_eq_some described).1, ← same, Option.some.inj (found.symm.trans found')]

/-- An archive is kept exactly where a pointer has its digest, or few archives are above it. -/
theorem mem_keptDigests {record : RemoteManifest} (member : record ∈ inventory.archives) :
    record.digest ∈ inventory.keptDigests retention ↔ PointedAt platform files record.digest ∨
      MostRecent retention (Archived platform files.archives) record := by
  have recent : record.digest ∈ (inventory.recent retention).map RemoteManifest.digest ↔
      MostRecent retention (Archived platform files.archives) record := by
    constructor
    · intro inside
      obtain ⟨other, kept, same⟩ := List.mem_map.mp inside
      obtain ⟨listed, few⟩ := (faithful.mem_recent retention other).mp kept
      rwa [List.inj_on_of_nodup_map faithful.digests_nodup listed member same] at few
    · intro few
      exact List.mem_map_of_mem ((faithful.mem_recent retention record).mpr ⟨member, few⟩)
  rw [keptDigests, List.mem_append, recent, faithful.mem_pointers, or_comm]

/-- An archive is removed exactly where its digest is not kept. -/
theorem mem_manifestDeletions {path : RemotePath} (listed : path ∈ inventory.archivePaths)
    {record : RemoteManifest} (describes : Describes platform files path record) :
    path ∈ inventory.manifestDeletions retention ↔
      record.digest ∉ inventory.keptDigests retention := by
  rw [manifestDeletions, List.mem_filter, decide_eq_true_eq, faithful.digest_eq listed describes]
  exact and_iff_right listed

/-- The objects that are kept are those that a manifest names that is not removed. -/
theorem mem_keptObjects (name : String) :
    name ∈ inventory.keptObjects retention ↔ ∃ path content, IsManifest path ∧
      path ∉ inventory.manifestDeletions retention ∧ files.content path = some content ∧
      namedObject platform content = some name := by
  constructor
  · intro kept
    rcases List.mem_append.mp kept with archive | pointer
    · obtain ⟨record, inside, same⟩ := List.mem_map.mp archive
      obtain ⟨member, digest⟩ := List.mem_filter.mp inside
      obtain ⟨path, listed, describes⟩ := faithful.ofArchives record member
      obtain ⟨content, found, described⟩ := id describes
      refine ⟨path, content, Or.inl ⟨((faithful.archivePaths path).mp listed).1,
        faithful.archiveNames path listed⟩, ?_, found, ?_⟩
      · rw [faithful.mem_manifestDeletions retention listed describes, not_not]
        exact of_decide_eq_true digest
      · rw [← same]
        exact (manifestRecord_eq_some described).2
    · obtain ⟨record, inside, same⟩ := List.mem_map.mp pointer
      obtain ⟨path, listed, content, found, described⟩ := faithful.ofPointers record inside
      obtain ⟨⟨pointer, path_eq⟩, _⟩ := (faithful.pointerPaths path).mp listed
      refine ⟨path, content, Or.inr ⟨pointer, path_eq⟩, ?_, found, ?_⟩
      · intro removed
        have directory := ((faithful.archivePaths path).mp (List.mem_of_mem_filter removed)).1
        rw [path_eq] at directory
        cases directory
      · rw [← same]
        exact (manifestRecord_eq_some described).2
  · rintro ⟨path, content, isManifest, kept, found, named⟩
    rcases isManifest with ⟨directory, _⟩ | ⟨pointer, path_eq⟩
    · have listed : path ∈ inventory.archivePaths :=
        (faithful.archivePaths path).mpr ⟨directory, Option.isSome_of_mem found⟩
      obtain ⟨record, member, describes⟩ := faithful.archives path listed
      rw [faithful.mem_manifestDeletions retention listed describes, not_not] at kept
      obtain ⟨content', found', described⟩ := describes
      have objectName := (manifestRecord_eq_some described).2
      rw [← Option.some.inj (found.symm.trans found'), named] at objectName
      rw [Option.some.inj objectName]
      apply List.mem_append_left
      exact List.mem_map_of_mem (List.mem_filter.mpr ⟨member, decide_eq_true kept⟩)
    · have listed : path ∈ inventory.pointerPaths :=
        (faithful.pointerPaths path).mpr ⟨⟨pointer, path_eq⟩, Option.isSome_of_mem found⟩
      obtain ⟨record, member, content', found', described⟩ := faithful.pointers path listed
      have objectName := (manifestRecord_eq_some described).2
      rw [← Option.some.inj (found.symm.trans found'), named] at objectName
      rw [Option.some.inj objectName]
      apply List.mem_append_right
      exact List.mem_map_of_mem member

end RetentionInventory.Faithful

end DTLab
