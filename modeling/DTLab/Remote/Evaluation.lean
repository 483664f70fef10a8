import DTLab.Remote.Tidy
import DTLab.Remote.Uploads

/-!
# What the publisher reads where every command is carried out

On a tidy store whose directories exist nothing that the publisher reads is refused: it finds what
is there, and retention gets its inventory.
-/

namespace DTLab

open Library (Json Text Dict Program universalNewlines)
open Library.Attempt (exists_mapM exists_of_mem_mapM foldlM_keeps foldlM_each)
open Library.Program (Reads Attains attains_returned attains_lift attains_forEach
  attains_accumulate)

variable {platform : RemotePlatform} {config : PublishConfig} {files later : RemoteFiles}

/-- A program returns a value where every command is carried out. -/
abbrev Succeeds {α : Type} (platform : RemotePlatform) (program : RemoteProgram α)
    (files : RemoteFiles) (value : α) (later : RemoteFiles) : Prop :=
  program.Attains platform.host .success files value later

/-! ## Single commands -/

/-- A command that is carried out answers. -/
theorem succeeds_issue {command : RemoteCommand} {answer : command.Answer}
    (done : command.exec platform.sha256Text files = some (answer, later)) :
    Succeeds platform (Program.issue command) files (.answered answer) later := by
  have reply : platform.host .success command files = (.answered answer, later) := by
    simp only [RemotePlatform.host, RemoteFiles.respond, done]
  show (Except.ok (platform.host .success command files).1,
    (platform.host .success command files).2) = _
  rw [reply]

/-- A question that is carried out returns its answer. -/
theorem succeeds_ask {command : RemoteCommand} {answer : command.Answer}
    (done : command.exec platform.sha256Text files = some (answer, later)) :
    Succeeds platform (command.ask config) files answer later :=
  Attains.bind (succeeds_issue done) (attains_returned answer)

/-- So does a probe. -/
theorem succeeds_probe {command : RemoteCommand} {answer : command.Answer}
    (done : command.exec platform.sha256Text files = some (answer, later)) :
    Succeeds platform (command.probe config) files (some answer) later :=
  Attains.bind (succeeds_issue done) (attains_returned (some answer))

/-- A command that is carried out returns. -/
theorem succeeds_perform {command : RemoteCommand} {answer : command.Answer}
    (done : command.exec platform.sha256Text files = some (answer, later)) :
    Succeeds platform command.perform files () later :=
  Attains.bind (succeeds_issue done) (attains_returned ())

/-! ## Reading -/

/-- A directory that exists is listed. -/
theorem succeeds_remoteEntries (laid : files.Laid) (directory : RemoteDirectory) :
    ∃ entries, Succeeds platform (remoteEntries config directory) files entries files ∧
      Lists files directory entries := by
  obtain ⟨found, read⟩ := Option.isSome_iff_exists.mp (laid directory)
  have done : (RemoteCommand.list directory).exec platform.sha256Text files =
      some (found.entries.map fun entry => (entry.1, entry.2.isLink), files) := by
    rw [RemoteCommand.exec, read]
    rfl
  exact ⟨_, succeeds_ask done, found, read, rfl⟩

/-- The check whether a file exists finds what is there. -/
theorem succeeds_remoteFileExists (path : RemotePath) :
    Succeeds platform (remoteFileExists config path) files (files.content path).isSome files := by
  rw [RemoteFiles.content, Option.isSome_map]
  have done : (RemoteCommand.testFile path).exec platform.sha256Text files =
      some ((files.entry path).isSome, files) := rfl
  exact Attains.bind (succeeds_probe done) (attains_returned _)

/-- What is read of files that exist. -/
theorem exists_readAll {α : Type} (read : Text → α) {paths : List RemotePath}
    (present : ∀ path ∈ paths, (files.content path).isSome) :
    ∃ lines, readAll files read paths = some lines := by
  induction paths with
  | nil => exact ⟨[], rfl⟩
  | cons path paths ih =>
    obtain ⟨lines, rest⟩ := ih fun other member => present other (List.mem_cons_of_mem path member)
    obtain ⟨content, found⟩ := Option.isSome_iff_exists.mp (present path List.mem_cons_self)
    refine ⟨(path, read content) :: lines, ?_⟩
    rw [readAll] at rest ⊢
    rw [List.mapM_cons, found, rest]
    rfl

/-- The hash of a file that is there is the digest of its content. -/
theorem succeeds_remoteSha256Required {path : RemotePath} {content : Text}
    (found : files.content path = some content) :
    Succeeds platform (remoteSha256Required config path) files (platform.sha256Text content)
      files := by
  have done : (RemoteCommand.hashes [path]).exec platform.sha256Text files =
      some ([(path, platform.sha256Text content)], files) := by
    rw [RemoteCommand.exec, readAll_singleton, found]
    rfl
  exact Attains.bind (succeeds_ask done) (attains_returned _)

/-- A loop over slices reads files that exist. -/
theorem succeeds_batches {α : Type} (read : Text → α)
    (body : List (RemotePath × α) → List RemotePath → RemoteProgram (List (RemotePath × α)))
    (round : ∀ observed batch lines, readAll files read batch = some lines →
      Succeeds platform (body observed batch) files (observed ++ lines) files)
    {paths : List RemotePath} (present : ∀ path ∈ paths, (files.content path).isSome) :
    ∃ lines, Succeeds platform (Program.accumulate body [] (chunks remoteReadBatch paths)) files
      lines files := by
  let holds (_ : List (RemotePath × α)) (batches : List (List RemotePath)) : Prop :=
    ∀ batch ∈ batches, ∀ path ∈ batch, (files.content path).isSome
  have start : holds [] (chunks remoteReadBatch paths) := by
    intro batch member path inside
    apply present
    rw [← flatten_chunks remoteReadBatch paths]
    exact List.mem_flatten_of_mem member inside
  have each : ∀ observed batch batches, holds observed (batch :: batches) → ∃ next,
      Succeeds platform (body observed batch) files next files ∧ holds next batches := by
    intro observed batch batches every
    obtain ⟨lines, all⟩ := exists_readAll read (every batch List.mem_cons_self)
    refine ⟨observed ++ lines, round observed batch lines all, ?_⟩
    exact fun other member => every other (List.mem_cons_of_mem batch member)
  obtain ⟨lines, attained, _⟩ := attains_accumulate holds each start
  exact ⟨lines, attained⟩

section Files

variable {paths : List RemotePath} (distinct : paths.Nodup)
  (present : ∀ path ∈ paths, (files.content path).isSome)

include distinct present

/-- The hashes of files that are there are read in their order. -/
theorem succeeds_remoteHashesRequired :
    ∃ lines, Succeeds platform (remoteHashesRequired config paths) files lines files ∧
      readAll files platform.sha256Text paths = some lines := by
  have attained : ∃ lines, Succeeds platform (remoteHashesRequired config paths) files lines
      files := by
    rw [remoteHashesRequired, if_pos distinct]
    apply succeeds_batches platform.sha256Text _ ?_ present
    intro observed batch lines all
    have done : (RemoteCommand.hashes batch).exec platform.sha256Text files =
        some (lines, files) := by
      rw [RemoteCommand.exec, all]
      rfl
    exact Attains.bind (succeeds_ask done) (attains_returned _)
  obtain ⟨lines, attained⟩ := attained
  exact ⟨lines, attained, (reads_remoteHashesRequired paths files).attained attained⟩

/-- The contents of files that are there are read in their order, with their newlines translated.
-/
theorem succeeds_remoteContentsRequired :
    ∃ records, Succeeds platform (remoteContentsRequired config paths) files records files ∧
      readAll files universalNewlines paths = some records := by
  have attained : ∃ records, Succeeds platform (remoteContentsRequired config paths) files records
      files := by
    rw [remoteContentsRequired, if_pos distinct]
    apply succeeds_batches universalNewlines _ ?_ present
    intro observed batch records all
    have done : (RemoteCommand.contents batch).exec platform.sha256Text files =
        some (records, files) := by
      rw [RemoteCommand.exec, all]
      rfl
    exact Attains.bind (succeeds_ask done) (attains_returned _)
  obtain ⟨records, attained⟩ := attained
  exact ⟨records, attained, (reads_remoteContentsRequired paths files).attained attained⟩

end Files

/-! ## Retention -/

/-- Entries of regular files with the names of contents pass. -/
theorem checkEntries_of_plain {label : String} {entries : List (String × Bool)}
    (plain : ∀ listed ∈ entries, listed.2 = false)
    (formed : ∀ listed ∈ entries, isObjectName listed.1 = true) :
    checkEntries label entries = .ok () := by
  have links : ¬ entries.any Prod.snd = true := by
    intro some_
    obtain ⟨listed, member, link⟩ := List.any_eq_true.mp some_
    rw [plain listed member] at link
    cases link
  have names : ¬ (entries.any fun entry => ¬ isObjectName entry.1) = true := by
    intro some_
    obtain ⟨listed, member, other⟩ := List.any_eq_true.mp some_
    exact of_decide_eq_true other (formed listed member)
  rw [checkEntries, if_neg links, if_neg names]

/-- Entries of a directory of a clean store are no links. -/
theorem Clean.plain (clean : Clean platform files) {directory : RemoteDirectory}
    (immutable : directory.Immutable) {entries : List (String × Bool)}
    (lists : Lists files directory entries) : ∀ listed ∈ entries, listed.2 = false := by
  rintro ⟨name, link⟩ member
  obtain ⟨entry, found, rfl⟩ := (lists.entry name link).mp member
  have outside : (⟨directory, name⟩ : RemotePath).directory ≠ .root := immutable.ne_root
  exact clean.regular outside found

/-- The directory of immutable files of a clean store passes. -/
theorem Clean.checkEntries (clean : Clean platform files) {directory : RemoteDirectory}
    (immutable : directory.Immutable) {entries : List (String × Bool)}
    (lists : Lists files directory entries) (label : String) :
    checkEntries label entries = .ok () := by
  apply checkEntries_of_plain (clean.plain immutable lists)
  intro listed member
  let path : RemotePath := ⟨directory, listed.1⟩
  have inside : path.directory.Immutable := immutable
  exact clean.named inside ((lists.mem listed.1).mp (List.mem_map_of_mem member))

/-- The directory of a pointer of a tidy store passes. -/
theorem Tidy.checkPointerEntries (tidy : Tidy platform files) {pointer : SnapshotPointer}
    {entries : List (String × Bool)} (lists : Lists files (.pointer pointer) entries) :
    checkPointerEntries pointer entries = .ok () := by
  apply checkPointerEntries_eq_ok.mpr
  constructor
  · rintro ⟨name, link⟩ member
    obtain ⟨entry, found, rfl⟩ := (lists.entry name link).mp member
    have present : (files.content ⟨.pointer pointer, name⟩).isSome := by
      rw [RemoteFiles.content, found]
      rfl
    have outside : RemoteDirectory.pointer pointer ≠ .root := by simp
    rw [tidy.clean.pointers present, tidy.clean.regular outside found]
  · rintro rfl
    exact (lists.mem "manifest.json").mpr tidy.current

/-- The directories of the pointers are listed. -/
theorem succeeds_pointerEntries (tidy : Tidy platform files) (laid : files.Laid) :
    ∃ known, Succeeds platform (Program.accumulate (fun known pointer => do
        let entries ← remoteEntries config (.pointer pointer)
        Program.lift (checkPointerEntries pointer entries)
        Program.returned (known ++ [(pointer, entries)])) [] remotePointers) files known files ∧
      known.map Prod.fst = remotePointers ∧ ListsPointers files known := by
  let holds (_ : List (SnapshotPointer × List (String × Bool))) (_ : List SnapshotPointer) : Prop :=
    True
  have start : holds [] remotePointers := trivial
  let body (known : List (SnapshotPointer × List (String × Bool))) (pointer : SnapshotPointer) :
      RemoteProgram (List (SnapshotPointer × List (String × Bool))) := do
    let entries ← remoteEntries config (.pointer pointer)
    Program.lift (checkPointerEntries pointer entries)
    Program.returned (known ++ [(pointer, entries)])
  have each : ∀ known pointer rest, holds known (pointer :: rest) → ∃ next,
      Succeeds platform (body known pointer) files next files ∧ holds next rest := by
    intro known pointer rest _
    obtain ⟨entries, listed, lists⟩ := succeeds_remoteEntries laid (.pointer pointer)
    refine ⟨known ++ [(pointer, entries)], ?_, trivial⟩
    apply Attains.bind listed
    apply Attains.bind (attains_lift (tidy.checkPointerEntries lists))
    exact attains_returned _
  obtain ⟨known, attained, _⟩ := attains_accumulate holds each start
  exact ⟨known, attained, (reads_pointerEntries files).attained attained⟩

/-- The paths of the pointers are listed once. -/
theorem nodup_pointerPaths {known : List (SnapshotPointer × List (String × Bool))}
    (all : known.map Prod.fst = remotePointers) :
    ((known.filter fun entry => (entry.2.lookup "manifest.json").isSome).map
      fun entry => pointerPath entry.1).Nodup := by
  have once : (known.map Prod.fst).Nodup := by
    rw [all]
    decide
  have kept : ((known.filter fun entry => (entry.2.lookup "manifest.json").isSome).map
      Prod.fst).Nodup := once.sublist (List.filter_sublist.map Prod.fst)
  have paths := List.Nodup.map (f := pointerPath) (fun first second same => by
    cases first <;> cases second <;> first | rfl | cases same) kept
  rw [List.map_map] at paths
  exact paths

/-- The paths of the manifests that retention reads are listed once. -/
theorem nodup_manifestPaths {manifestEntries : List (String × Bool)}
    (manifests : Lists files .manifests manifestEntries)
    {known : List (SnapshotPointer × List (String × Bool))}
    (all : known.map Prod.fst = remotePointers) (lists : ListsPointers files known) :
    (sortedPaths .manifests manifestEntries ++
      (known.filter fun entry => (entry.2.lookup "manifest.json").isSome).map
        fun entry => pointerPath entry.1).Nodup := by
  apply List.Nodup.append manifests.nodup_sortedPaths (nodup_pointerPaths all)
  intro path archive pointer
  obtain ⟨⟨which, rfl⟩, _⟩ := (mem_pointerPaths all lists path).mp pointer
  cases ((manifests.mem_sortedPaths _).mp archive).1

/-- A manifest with a record is decoded under its digest. -/
theorem decodeRemoteManifest_of_record {content : Text} {record : RemoteManifest}
    (described : manifestRecord platform content = some record) :
    decodeRemoteManifest platform (universalNewlines content) (platform.sha256Text content) =
      .ok record := by
  rw [manifestRecord] at described
  cases decoded : decodeRemoteManifest platform (universalNewlines content)
      (platform.sha256Text content) with
  | error fault =>
    rw [decoded] at described
    cases described
  | ok other =>
    rw [decoded] at described
    rw [← Option.some.inj described]

section Readings

variable {paths : List RemotePath} {hashes : List (RemotePath × String)}
  {contents : List (RemotePath × Text)} {path : RemotePath}

/-- A manifest that is read is decoded. -/
theorem Clean.decodes (clean : Clean platform files)
    (hashed : readAll files platform.sha256Text paths = some hashes)
    (read : readAll files universalNewlines paths = some contents) (member : path ∈ paths)
    (isManifest : IsManifest path) :
    ∃ content record, files.content path = some content ∧
      hashes.lookup path = some (platform.sha256Text content) ∧
      contents.lookup path = some (universalNewlines content) ∧
      decodeRemoteManifest platform (universalNewlines content) (platform.sha256Text content) =
        .ok record := by
  obtain ⟨content, found, digest⟩ := lookup_readAll hashed member
  obtain ⟨other, also, text⟩ := lookup_readAll read member
  obtain ⟨record, described⟩ := Option.isSome_iff_exists.mp (clean.decoded isManifest found)
  rw [Option.some.inj (also.symm.trans found)] at text
  exact ⟨content, record, found, digest, text, decodeRemoteManifest_of_record described⟩

/-- An archived manifest is read under the digest in its name. -/
theorem Clean.readsArchive (clean : Clean platform files)
    (hashed : readAll files platform.sha256Text paths = some hashes)
    (read : readAll files universalNewlines paths = some contents) (member : path ∈ paths)
    (isManifest : IsManifest path) (archived : path.directory = .manifests) :
    ∃ record, readArchive platform hashes contents path = .ok record := by
  obtain ⟨content, record, found, digest, text, described⟩ :=
    clean.decodes hashed read member isManifest
  have named := clean.hashed (Or.inr archived) found
  rw [named] at digest described
  refine ⟨record, ?_⟩
  rw [readArchive, if_neg (not_not.mpr digest), text]
  exact described

/-- The manifest of a pointer is read. -/
theorem Clean.readsPointer (clean : Clean platform files)
    (hashed : readAll files platform.sha256Text paths = some hashes)
    (read : readAll files universalNewlines paths = some contents) (member : path ∈ paths)
    (isManifest : IsManifest path) :
    ∃ record, readPointer platform hashes contents path = .ok record := by
  obtain ⟨content, record, found, digest, text, described⟩ :=
    clean.decodes hashed read member isManifest
  refine ⟨record, ?_⟩
  rw [readPointer, digest, text]
  exact described

/-- The objects that are listed have the digests in their names. -/
theorem Clean.objectDigests (clean : Clean platform files) {entries : List (String × Bool)}
    (objects : Lists files .objects entries)
    (hashed : readAll files platform.sha256Text (sortedPaths .objects entries) = some hashes) :
    (hashes.all fun line => line.2 = stem line.1.name) = true := by
  apply List.all_eq_true.mpr
  intro line member
  obtain ⟨listed, found⟩ := (mem_readAll hashed).mp member
  obtain ⟨content, present, digest⟩ := Option.map_eq_some_iff.mp found
  have directory := ((objects.mem_sortedPaths line.1).mp listed).1
  apply decide_eq_true
  rw [← digest]
  exact clean.hashed (Or.inl directory) present

/-- The objects of the manifests are listed. -/
theorem Referenced.anchored (referenced : Referenced platform files)
    {entries : List (String × Bool)} (objects : Lists files .objects entries)
    {records : List RemoteManifest}
    (described : ∀ record ∈ records, ∃ path, IsManifest path ∧
      Describes platform files path record) :
    (records.all fun record =>
      ⟨.objects, record.objectName⟩ ∈ sortedPaths .objects entries) = true := by
  apply List.all_eq_true.mpr
  intro record member
  obtain ⟨path, isManifest, content, found, decoded⟩ := described record member
  have named := (manifestRecord_eq_some decoded).2
  apply decide_eq_true
  exact (objects.mem_sortedPaths _).mpr
    ⟨rfl, (referenced path isManifest content found record.objectName named).2⟩

end Readings

/-- The inventory of a tidy store is read. -/
theorem succeeds_readInventory (tidy : Tidy platform files) (laid : files.Laid)
    (referenced : Referenced platform files) :
    ∃ inventory, Succeeds platform (readInventory platform config) files inventory files ∧
      inventory.Faithful platform files := by
  suffices attained : ∃ inventory,
      Succeeds platform (readInventory platform config) files inventory files by
    obtain ⟨inventory, attained⟩ := attained
    exact ⟨inventory, attained, (reads_readInventory files).attained attained⟩
  obtain ⟨manifestEntries, manifestsListed, manifests⟩ :=
    succeeds_remoteEntries laid .manifests
  obtain ⟨objectEntries, objectsListed, objects⟩ :=
    succeeds_remoteEntries laid .objects
  obtain ⟨pointerEntries, pointersListed, all, lists⟩ := succeeds_pointerEntries tidy laid
  let archivePaths := sortedPaths .manifests manifestEntries
  let pointerPaths := (pointerEntries.filter fun entry =>
    (entry.2.lookup "manifest.json").isSome).map fun entry => pointerPath entry.1
  let objectPaths := sortedPaths .objects objectEntries
  have archivePresent := fun path => (manifests.mem_sortedPaths path).mp
  have pointerPresent := fun path => (mem_pointerPaths all lists path).mp
  have distinct : (archivePaths ++ pointerPaths).Nodup := nodup_manifestPaths manifests all lists
  have present : ∀ path ∈ archivePaths ++ pointerPaths, (files.content path).isSome := by
    intro path member
    rcases List.mem_append.mp member with archive | pointer
    · exact (archivePresent path archive).2
    · exact (pointerPresent path pointer).2
  obtain ⟨hashes, hashesRead, hashed⟩ := succeeds_remoteHashesRequired distinct present
  obtain ⟨contents, contentsRead, read⟩ := succeeds_remoteContentsRequired distinct present
  have archiveManifest : ∀ path ∈ archivePaths, IsManifest path := by
    intro path member
    obtain ⟨directory, isSome⟩ := archivePresent path member
    exact Or.inl ⟨directory, tidy.clean.named (Or.inr directory) isSome⟩
  have pointerManifest : ∀ path ∈ pointerPaths, IsManifest path :=
    fun path member => Or.inr (pointerPresent path member).1
  obtain ⟨archives, archivesRead⟩ : ∃ archives,
      archivePaths.mapM (readArchive platform hashes contents) = .ok archives :=
    exists_mapM fun path member => tidy.clean.readsArchive hashed read
      (List.mem_append_left _ member) (archiveManifest path member) (archivePresent path member).1
  obtain ⟨pointers, pointersRead⟩ : ∃ pointers,
      pointerPaths.mapM (readPointer platform hashes contents) = .ok pointers :=
    exists_mapM fun path member => tidy.clean.readsPointer hashed read
      (List.mem_append_right _ member) (pointerManifest path member)
  obtain ⟨objectHashes, objectHashesRead, objectsHashed⟩ :=
    succeeds_remoteHashesRequired objects.nodup_sortedPaths
      fun path member => ((objects.mem_sortedPaths path).mp member).2
  have objectDigests := tidy.clean.objectDigests objects objectsHashed
  have described : ∀ record ∈ archives ++ pointers, ∃ path, IsManifest path ∧
      Describes platform files path record := by
    intro record member
    rcases List.mem_append.mp member with archive | pointer
    · obtain ⟨path, inside, returned⟩ := exists_of_mem_mapM archivesRead archive
      obtain ⟨content, found, _, decoded, _⟩ :=
        readArchive_eq_ok hashed read (List.mem_append_left _ inside) returned
      exact ⟨path, archiveManifest path inside, content, found, decoded⟩
    · obtain ⟨path, inside, returned⟩ := exists_of_mem_mapM pointersRead pointer
      exact ⟨path, pointerManifest path inside,
        readPointer_eq_ok hashed read (List.mem_append_right _ inside) returned⟩
  have anchored := referenced.anchored objects described
  refine ⟨⟨archivePaths, pointerPaths, pointerEntries, hashes, archives, pointers, objectPaths⟩, ?_⟩
  apply Attains.bind manifestsListed
  apply Attains.bind objectsListed
  apply Attains.bind (attains_lift (tidy.clean.checkEntries (Or.inr rfl) manifests _))
  apply Attains.bind (attains_lift (tidy.clean.checkEntries (Or.inl rfl) objects _))
  apply Attains.bind pointersListed
  apply Attains.bind hashesRead
  apply Attains.bind contentsRead
  apply Attains.bind (attains_lift archivesRead)
  apply Attains.bind (attains_lift pointersRead)
  apply Attains.bind objectHashesRead
  apply Attains.bind (attains_lift (if_pos objectDigests))
  apply Attains.bind (attains_lift (if_pos anchored))
  exact attains_returned _

/-! ## Presence -/

/-- Every name is that of its digest. -/
def NamedByDigests (known : Dict String String) : Prop :=
  ∀ name digest, known.get? name = some digest → name = objectNameOf digest

/-- Nothing is known under a wrong name. -/
theorem namedByDigests_empty : NamedByDigests .empty := by
  intro name digest found
  cases found

/-- One more object under its own digest keeps the names. -/
theorem NamedByDigests.set {known : Dict String String} (named : NamedByDigests known)
    (digest : String) : NamedByDigests (known.set (objectNameOf digest) digest) := by
  intro name other found
  rw [Dict.get?_set] at found
  split_ifs at found with same
  · rw [← Option.some.inj found]
    exact same
  · exact named name other found

/-- The files that are expected are named by their digests, and those of every snapshot are among
them. -/
theorem expectedFiles_named {snapshots : List PreparedSnapshot}
    {objects archives : Dict String String}
    (expected : expectedFiles platform snapshots = .ok (objects, archives)) :
    (NamedByDigests objects ∧ NamedByDigests archives) ∧ ∀ prepared ∈ snapshots,
      prepared.objectName platform ∈ objects.keys ∧ prepared.archiveName ∈ archives.keys := by
  rw [expectedFiles] at expected
  constructor
  · apply foldlM_keeps (motive := fun known : Dict String String × Dict String String =>
      NamedByDigests known.1 ∧ NamedByDigests known.2) ?_ ?_ expected
    · intro known prepared next _ named added
      simp only at added
      split_ifs at added with names
      rw [← Except.ok.inj added]
      have name : prepared.objectName platform =
          objectNameOf (prepared.objectDigest platform) := by
        by_contra differs
        exact names (Or.inr (Or.inl differs))
      rw [name]
      exact ⟨named.1.set _, named.2.set _⟩
    · exact ⟨namedByDigests_empty, namedByDigests_empty⟩
  · apply foldlM_each (fun prepared (known : Dict String String × Dict String String) =>
      prepared.objectName platform ∈ known.1.keys ∧
        PreparedSnapshot.archiveName prepared ∈ known.2.keys) ?_ ?_ expected
    · intro known prepared next added
      simp only at added
      split_ifs at added
      rw [← Except.ok.inj added]
      exact ⟨Dict.mem_keys_set.mpr (Or.inl rfl), Dict.mem_keys_set.mpr (Or.inl rfl)⟩
    · intro known prepared next added other present
      simp only at added
      split_ifs at added
      rw [← Except.ok.inj added]
      exact ⟨Dict.mem_keys_set.mpr (Or.inr present.1), Dict.mem_keys_set.mpr (Or.inr present.2)⟩

/-- The files that are needed and present pass where no entry is a link. -/
theorem relevantFiles_of_plain {expected : Dict String String} {entries : List (String × Bool)}
    (plain : ∀ listed ∈ entries, listed.2 = false) (message : String) :
    relevantFiles expected entries message =
      .ok (expected.keys.filter fun name => (entries.lookup name).isSome) := by
  have links : ¬ ((expected.keys.filter fun name => (entries.lookup name).isSome).any
      fun name => entries.lookup name = some true) = true := by
    intro some_
    obtain ⟨name, _, link⟩ := List.any_eq_true.mp some_
    obtain ⟨before, behind, split, _⟩ := List.lookup_eq_some_iff.mp (of_decide_eq_true link)
    have listed : (name, true) ∈ entries := by
      rw [split]
      exact List.mem_append_right before List.mem_cons_self
    cases plain _ listed
  rw [relevantFiles, if_neg links]

/-- The digests of the files that are needed and present are those that are expected. -/
theorem Clean.checkFiles (clean : Clean platform files) {directory : RemoteDirectory}
    (immutable : directory.Immutable) {expected : Dict String String}
    (named : NamedByDigests expected) {observed : List (RemotePath × String)}
    {names : List String}
    (read : ∀ name ∈ names, ∃ content, files.content ⟨directory, name⟩ = some content ∧
      observed.lookup ⟨directory, name⟩ = some (platform.sha256Text content))
    (needed : ∀ name ∈ names, name ∈ expected.keys) (message : String) :
    checkFiles directory expected observed names message = .ok () := by
  have every : (names.all fun name =>
      observed.lookup ⟨directory, name⟩ = expected.get? name) = true := by
    apply List.all_eq_true.mpr
    intro name member
    obtain ⟨content, found, line⟩ := read name member
    cases known : expected.get? name with
    | none => exact absurd (needed name member) (Dict.get?_eq_none.mp known)
    | some digest =>
      apply decide_eq_true
      have hashed : platform.sha256Text content = stem name := clean.hashed immutable found
      rw [line, hashed]
      show some (stem name) = some digest
      rw [named name digest known, stem_objectNameOf]
  rw [DTLab.checkFiles, if_pos every]

/-- What is said to be present of snapshots covers what is there. -/
def RemoteSnapshotPresence.Covers (platform : RemotePlatform) (files : RemoteFiles)
    (snapshots : List PreparedSnapshot) (presence : RemoteSnapshotPresence) : Prop :=
  ∀ prepared ∈ snapshots,
    (files.Has (prepared.objectName platform) →
      prepared.objectName platform ∈ presence.objects) ∧
    ((files.archives prepared.archiveName).isSome → prepared.archiveName ∈ presence.archives)

/-- The presence of snapshots in a clean store is verified. -/
theorem succeeds_verifiedSnapshotPresence (clean : Clean platform files) (laid : files.Laid)
    {snapshots : List PreparedSnapshot} {objects archives : Dict String String}
    (expected : expectedFiles platform snapshots = .ok (objects, archives)) :
    ∃ presence, Succeeds platform (verifiedSnapshotPresence platform config snapshots) files
      presence files ∧ presence.Covers platform files snapshots := by
  obtain ⟨objectEntries, objectsListed, objectLists⟩ := succeeds_remoteEntries laid .objects
  obtain ⟨manifestEntries, manifestsListed, manifestLists⟩ :=
    succeeds_remoteEntries laid .manifests
  obtain ⟨⟨objectsNamed, archivesNamed⟩, needed⟩ := expectedFiles_named expected
  let objectNames := objects.keys.filter fun name => (objectEntries.lookup name).isSome
  let archiveNames := archives.keys.filter fun name => (manifestEntries.lookup name).isSome
  have objectsPass : relevantFiles objects objectEntries
      "Oggetto remoto rilevante non regolare." = .ok objectNames :=
    relevantFiles_of_plain (clean.plain (Or.inl rfl) objectLists) _
  have archivesPass : relevantFiles archives manifestEntries
      "Manifest remoto rilevante non regolare." = .ok archiveNames :=
    relevantFiles_of_plain (clean.plain (Or.inr rfl) manifestLists) _
  have objectMember : ∀ name, name ∈ objectNames ↔
      name ∈ objects.keys ∧ (files.content ⟨.objects, name⟩).isSome := by
    intro name
    rw [relevantFiles_eq_ok objectsPass, objectLists.mem]
  have archiveMember : ∀ name, name ∈ archiveNames ↔
      name ∈ archives.keys ∧ (files.content ⟨.manifests, name⟩).isSome := by
    intro name
    rw [relevantFiles_eq_ok archivesPass, manifestLists.mem]
  have once : ∀ (known : Dict String String) (keep : String → Bool) (directory : RemoteDirectory),
      ((known.keys.filter keep).map (RemotePath.mk directory)).Nodup := by
    intro known keep directory
    apply List.Nodup.map
    · intro first second same
      exact congrArg RemotePath.name same
    · exact known.distinct.filter keep
  have distinct : (objectNames.map (RemotePath.mk .objects) ++
      archiveNames.map (RemotePath.mk .manifests)).Nodup := by
    apply List.Nodup.append (once _ _ _) (once _ _ _)
    intro path object archive
    obtain ⟨name, _, rfl⟩ := List.mem_map.mp object
    obtain ⟨other, _, same⟩ := List.mem_map.mp archive
    cases congrArg RemotePath.directory same
  have present : ∀ path ∈ objectNames.map (RemotePath.mk .objects) ++
      archiveNames.map (RemotePath.mk .manifests), (files.content path).isSome := by
    intro path member
    rcases List.mem_append.mp member with object | archive
    · obtain ⟨name, inside, rfl⟩ := List.mem_map.mp object
      exact ((objectMember name).mp inside).2
    · obtain ⟨name, inside, rfl⟩ := List.mem_map.mp archive
      exact ((archiveMember name).mp inside).2
  obtain ⟨observed, observedRead, read⟩ := succeeds_remoteHashesRequired distinct present
  have objectsChecked := clean.checkFiles (Or.inl rfl) objectsNamed
    (fun name inside => lookup_readAll read
      (List.mem_append_left _ (List.mem_map_of_mem inside)))
    (fun name inside => ((objectMember name).mp inside).1)
    "Oggetto remoto esistente con hash non valido."
  have archivesChecked := clean.checkFiles (Or.inr rfl) archivesNamed
    (fun name inside => lookup_readAll read
      (List.mem_append_right _ (List.mem_map_of_mem inside)))
    (fun name inside => ((archiveMember name).mp inside).1)
    "Manifest remoto immutabile con hash non valido."
  refine ⟨⟨objectNames, archiveNames⟩, ?_, ?_⟩
  · apply Attains.bind objectsListed
    apply Attains.bind manifestsListed
    apply Attains.bind (attains_lift expected)
    apply Attains.bind (attains_lift objectsPass)
    apply Attains.bind (attains_lift archivesPass)
    apply Attains.bind observedRead
    apply Attains.bind (attains_lift objectsChecked)
    apply Attains.bind (attains_lift archivesChecked)
    exact attains_returned _
  · intro prepared member
    obtain ⟨objectKey, archiveKey⟩ := needed prepared member
    exact ⟨fun has => (objectMember _).mpr ⟨objectKey, has⟩,
      fun isSome => (archiveMember _).mpr ⟨archiveKey, isSome⟩⟩

end DTLab
