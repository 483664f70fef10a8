import DTLab.Remote.Evaluation

/-!
# Publications complete

Where every command is carried out, what the publisher uploads lands in place, and what retention
removes is removed: a publication of sound snapshots to a clean store returns.
-/

namespace DTLab

open Library (Json Text Dict Program)
open Library.Attempt (exists_foldlM)
open Library.Program (Reads Attains reads_lift reads_returned attains_returned attains_lift
  attains_forEach
  attains_accumulate_keeps ensures_invariant)

variable {platform : RemotePlatform} {config : PublishConfig} {files later : RemoteFiles}

/-- A program that returns leaves every directory. -/
theorem Attains.laid {α : Type} {program : RemoteProgram α} {value : α}
    (succeeds : Succeeds platform program files value later) (laid : files.Laid) : later.Laid :=
  (ensures_invariant (fun outcome command state (laid : RemoteFiles.Laid state) =>
    laid.respond platform.sha256Text outcome command) program laid).attained succeeds

/-! ## Uploads -/

/-- A content lands at a path, and no other entry is new. -/
structure Lands (path : RemotePath) (content : Text) (before later : RemoteFiles) : Prop where
  entry : later.entry path = some ⟨false, content⟩
  others : ∀ other, other ≠ path → ∀ entry, later.entry other = some entry →
    before.entry other = some entry

theorem Lands.content {path : RemotePath} {content : Text} {before : RemoteFiles}
    (lands : Lands path content before later) : later.content path = some content := by
  rw [RemoteFiles.content, lands.entry]
  rfl

/-- A store in which a content lands that fits stays clean. -/
theorem Lands.clean {path : RemotePath} {content : Text} {before : RemoteFiles}
    (lands : Lands path content before later) (clean : Clean platform before)
    (fits : Fits platform path content) : Clean platform later := by
  intro other entry outside found
  by_cases same : other = path
  · rw [same, lands.entry] at found
    rw [same, ← Option.some.inj found]
    exact ⟨rfl, fits⟩
  · exact clean other entry outside (lands.others other same entry found)

/-- A temporary file is put in place. -/
theorem succeeds_moveInto {temporary destination : RemotePath} {entry : RemoteEntry}
    (laid : files.Laid) (found : files.entry temporary = some entry) :
    ∃ moved, Succeeds platform (do
        chownPath config temporary
        (RemoteCommand.chmod temporary).ask config
        (RemoteCommand.move temporary destination).ask config) files () moved ∧
      (files.erase temporary).put destination entry = some moved := by
  have owned : Succeeds platform (chownPath config temporary) files () files := by
    rw [chownPath]
    split_ifs
    · apply succeeds_ask
      rw [RemoteCommand.exec, found]
      rfl
    · exact attains_returned ()
  have permitted : Succeeds platform ((RemoteCommand.chmod temporary).ask config) files ()
      files := by
    apply succeeds_ask
    rw [RemoteCommand.exec, found]
    rfl
  have erased : (files.erase temporary).Laid := by
    have kept := laid.respond platform.sha256Text .success (.removeForce temporary)
    exact kept
  obtain ⟨moved, put⟩ := erased.put destination entry
  refine ⟨moved, ?_, put⟩
  apply Attains.bind owned
  apply Attains.bind permitted
  apply succeeds_ask
  rw [RemoteCommand.exec, found, Option.bind_eq_bind, Option.bind_some, put]
  rfl

/-- A temporary file is removed. -/
theorem succeeds_discard (temporary : RemotePath) :
    Succeeds platform (discard config temporary) files () (files.erase temporary) := by
  have done : (RemoteCommand.removeForce temporary).exec platform.sha256Text files =
      some ((), files.erase temporary) := rfl
  exact Attains.bind (succeeds_probe done) (attains_returned ())

/-- A content that was written next to its destination and moved has landed. -/
theorem lands_of_moved {temporary destination : RemotePath} {content : Text}
    {staged moved : RemoteFiles} (different : temporary ≠ destination)
    (put : files.put temporary ⟨false, content⟩ = some staged)
    (placed : (staged.erase temporary).put destination ⟨false, content⟩ = some moved) :
    Lands destination content files (moved.erase temporary) := by
  constructor
  · rw [RemoteFiles.entry_erase, if_neg different.symm, RemoteFiles.entry_put placed, if_pos rfl]
  · intro other elsewhere entry found
    rw [RemoteFiles.entry_erase] at found
    split_ifs at found with hidden
    rw [RemoteFiles.entry_put placed, if_neg elsewhere, RemoteFiles.entry_erase, if_neg hidden,
      RemoteFiles.entry_put put, if_neg hidden] at found
    exact found

/-- A file with the digest that is expected is committed. -/
theorem succeeds_commitFile {content : Text} {destination : RemotePath} {expected : String}
    (laid : files.Laid) (plain : destination.Visible)
    (hashed : platform.sha256Text content = expected) :
    ∃ later, Succeeds platform (commitFile platform config (some content) destination expected)
      files () later ∧ Lands destination content files later := by
  let temporary := temporaryPath platform destination
  obtain ⟨staged, put⟩ := laid.put temporary ⟨false, content⟩
  have uploaded : Succeeds platform ((RemoteCommand.upload (some content) temporary).ask config)
      files () staged := by
    apply succeeds_ask
    rw [RemoteCommand.exec, Option.bind_eq_bind, Option.bind_some, put]
    rfl
  have entry : staged.entry temporary = some ⟨false, content⟩ := by
    rw [RemoteFiles.entry_put put, if_pos rfl]
  have found : staged.content temporary = some content := by
    rw [RemoteFiles.content, entry]
    rfl
  obtain ⟨moved, moves, placed⟩ := succeeds_moveInto (Attains.laid uploaded laid) entry
  refine ⟨moved.erase temporary, ?_, lands_of_moved (temporaryPath_ne plain destination) put placed⟩
  apply Attains.andFinally ?_ (succeeds_discard temporary)
  apply Attains.bind uploaded
  apply Attains.bind (succeeds_remoteSha256Required found)
  apply Attains.bind (attains_lift (if_pos (decide_eq_true hashed)))
  exact moves

/-- A content with the digest that is expected is committed. -/
theorem succeeds_commitBytes {content : Text} {destination : RemotePath} {expected : String}
    (laid : files.Laid) (plain : destination.Visible)
    (hashed : platform.sha256Text content = expected) :
    ∃ later, Succeeds platform (commitBytes platform config content destination expected)
      files () later ∧ Lands destination content files later := by
  obtain ⟨later, committed, lands⟩ := succeeds_commitFile laid plain hashed
  refine ⟨later, ?_, lands⟩
  have created : RemoteCommand.createTemporary.exec platform.sha256Text files =
      some ((), files) := rfl
  have written : RemoteCommand.writeTemporary.exec platform.sha256Text files =
      some ((), files) := rfl
  have unlinked : RemoteCommand.unlinkTemporary.exec platform.sha256Text later =
      some ((), later) := rfl
  apply Attains.bind (succeeds_perform created)
  apply Attains.andFinally ?_ (succeeds_perform unlinked)
  exact Attains.bind (succeeds_perform written) committed

/-- The manifest of `current` lands under `previous`. -/
theorem succeeds_keepPrevious {content : Text} (laid : files.Laid)
    (current : files.content (pointerPath .current) = some content) :
    ∃ later, Succeeds platform (keepPrevious platform config) files () later ∧
      Lands (pointerPath .previous) content files later := by
  let temporary := previousTemporary platform
  obtain ⟨staged, put⟩ := laid.put temporary ⟨false, content⟩
  have copied : Succeeds platform
      ((RemoteCommand.copy (pointerPath .current) temporary).ask config) files () staged := by
    apply succeeds_ask
    rw [RemoteCommand.exec, current, Option.bind_eq_bind, Option.bind_some, put]
    rfl
  have entry : staged.entry temporary = some ⟨false, content⟩ := by
    rw [RemoteFiles.entry_put put, if_pos rfl]
  obtain ⟨moved, moves, placed⟩ := succeeds_moveInto (Attains.laid copied laid) entry
  have different : temporary ≠ pointerPath .previous :=
    previousTemporary_ne (visible_pointerPath .previous) platform
  refine ⟨moved.erase temporary, ?_, lands_of_moved different put placed⟩
  apply Attains.andFinally ?_ (succeeds_discard temporary)
  exact Attains.bind copied moves

/-! ## Snapshots -/

/-- A prepared snapshot whose files are ready for the remote store: its object and its manifest have
their digests, and retention decodes the manifest. -/
structure PreparedSnapshot.Publishable (platform : RemotePlatform) (store : SnapshotFiles)
    (prepared : PreparedSnapshot) : Prop where
  sound : prepared.Sound platform
  named : prepared.objectName platform = objectNameOf (prepared.objectDigest platform)
  object : ∃ content, store.objects.get? (prepared.objectName platform) = some content ∧
    platform.sha256Text content = prepared.objectDigest platform
  digest : platform.sha256Text prepared.manifestContent = prepared.manifestDigest
  decoded : (manifestRecord platform prepared.manifestContent).isSome
  fresh : ∃ fresh, prepared.isFresh = .ok fresh

namespace PreparedSnapshot.Publishable

variable {store : SnapshotFiles} {prepared : PreparedSnapshot}
  (publishable : prepared.Publishable platform store)

include publishable

/-- The manifest of a snapshot fits where its archive lies. -/
theorem fits_archive :
    Fits platform ⟨.manifests, prepared.archiveName⟩ prepared.manifestContent := by
  refine ⟨fun _ => ⟨publishable.sound.archive, ?_⟩, nofun, fun _ => publishable.decoded⟩
  show _ = stem (objectNameOf prepared.manifestDigest)
  rw [stem_objectNameOf, publishable.digest]

/-- The manifest of a snapshot fits under a pointer. -/
theorem fits_pointer (pointer : SnapshotPointer) :
    Fits platform (pointerPath pointer) prepared.manifestContent := by
  refine ⟨?_, fun _ _ => rfl, fun _ => publishable.decoded⟩
  rintro (other | other) <;> cases other

/-- The files of a snapshot land in a clean store. -/
theorem succeeds_ensureImmutableLocked (presence : RemoteSnapshotPresence) (laid : files.Laid)
    (clean : Clean platform files) :
    ∃ result later, Succeeds platform
        (ensureImmutableLocked platform config store prepared presence) files result later ∧
      Clean platform later := by
  obtain ⟨content, held, hashed⟩ := publishable.object
  have object : ∃ later, Succeeds platform
      (if decide (prepared.objectName platform ∈ presence.objects) = true then .returned ()
        else commitFile platform config (store.objects.get? (prepared.objectName platform))
          ⟨.objects, prepared.objectName platform⟩ (prepared.objectDigest platform))
      files () later ∧ Clean platform later := by
    split_ifs
    · exact ⟨files, attains_returned (), clean⟩
    · rw [held]
      have plain : RemotePath.Visible ⟨.objects, prepared.objectName platform⟩ :=
        visible_of_isObjectName publishable.sound.object
      obtain ⟨later, committed, lands⟩ := succeeds_commitFile laid plain hashed
      refine ⟨later, committed, lands.clean clean ⟨fun _ => ?_, fun _ same => (by cases same), ?_⟩⟩
      · refine ⟨publishable.sound.object, ?_⟩
        show _ = stem (prepared.objectName platform)
        rw [publishable.named, stem_objectNameOf, hashed]
      · exact fun isManifest => absurd rfl isManifest.not_objects
  obtain ⟨stored, committed, storedClean⟩ := object
  have archive : ∃ later, Succeeds platform
      (if decide (prepared.archiveName ∈ presence.archives) = true then .returned ()
        else commitBytes platform config prepared.manifestContent
          ⟨.manifests, prepared.archiveName⟩ prepared.manifestDigest)
      stored () later ∧ Clean platform later := by
    split_ifs
    · exact ⟨stored, attains_returned (), storedClean⟩
    · have plain : RemotePath.Visible ⟨.manifests, prepared.archiveName⟩ :=
        visible_of_isObjectName publishable.sound.archive
      obtain ⟨later, committed, lands⟩ :=
        succeeds_commitBytes (Attains.laid committed laid) plain publishable.digest
      exact ⟨later, committed, lands.clean storedClean publishable.fits_archive⟩
  obtain ⟨later, archived, laterClean⟩ := archive
  exact ⟨_, later, Attains.bind committed (Attains.bind archived (attains_returned _)), laterClean⟩

/-- The manifest of a snapshot lands under a pointer. -/
theorem succeeds_commitPointer (pointer : SnapshotPointer) (laid : files.Laid)
    (clean : Clean platform files) :
    ∃ later, Succeeds platform (commitBytes platform config prepared.manifestContent
        (pointerPath pointer) prepared.manifestDigest) files () later ∧
      Clean platform later ∧
        later.content (pointerPath pointer) = some prepared.manifestContent := by
  obtain ⟨later, committed, lands⟩ :=
    succeeds_commitBytes laid (visible_pointerPath pointer) publishable.digest
  exact ⟨later, committed, lands.clean clean (publishable.fits_pointer pointer), lands.content⟩

/-- The pointers are switched in a clean store. -/
theorem succeeds_switchPointers (laid : files.Laid) (clean : Clean platform files) :
    ∃ later, Succeeds platform (switchPointers platform config prepared) files 1 later ∧
      Tidy platform later := by
  obtain ⟨fresh, known⟩ := publishable.fresh
  have lastKnownGood : ∃ later, Succeeds platform (keepLastKnownGood platform config prepared)
      files () later ∧ Clean platform later := by
    have decided : ∃ later, Succeeds platform
        (if fresh = true ∨ ¬ (files.content (pointerPath .lastKnownGood)).isSome = true then
          commitBytes platform config prepared.manifestContent (pointerPath .lastKnownGood)
            prepared.manifestDigest
        else .returned ()) files () later ∧ Clean platform later := by
      split_ifs
      · obtain ⟨later, committed, laterClean, _⟩ :=
          publishable.succeeds_commitPointer .lastKnownGood laid clean
        exact ⟨later, committed, laterClean⟩
      · exact ⟨files, attains_returned (), clean⟩
    obtain ⟨later, done, laterClean⟩ := decided
    refine ⟨later, ?_, laterClean⟩
    apply Attains.bind (succeeds_remoteFileExists _)
    exact Attains.bind (attains_lift known) done
  obtain ⟨kept, keeps, keptClean⟩ := lastKnownGood
  obtain ⟨switched, committed, switchedClean, current⟩ :=
    publishable.succeeds_commitPointer .current (Attains.laid keeps laid) keptClean
  refine ⟨switched, ?_, switchedClean, Option.isSome_of_mem current⟩
  apply Attains.bind keeps
  apply Attains.bind (Attains.handle committed)
  have verified : Succeeds platform (verifyCurrent config prepared) switched () switched := by
    apply Attains.bind (succeeds_remoteSha256Required current)
    exact attains_lift (if_pos (decide_eq_true publishable.digest))
  exact Attains.bind verified (attains_returned 1)

/-- The snapshot becomes current in a clean store. -/
theorem succeeds_commitCurrentLocked (laid : files.Laid) (clean : Clean platform files) :
    ∃ updated later, Succeeds platform (commitCurrentLocked platform config prepared) files updated
      later ∧ Tidy platform later := by
  have exists_ : Succeeds platform (remoteFileExists config (pointerPath .current)) files
      (files.content (pointerPath .current)).isSome files := succeeds_remoteFileExists _
  cases found : files.content (pointerPath .current) with
  | none =>
    rw [found] at exists_
    obtain ⟨later, switched, tidy⟩ := publishable.succeeds_switchPointers laid clean
    exact ⟨1, later, Attains.bind exists_ switched, tidy⟩
  | some content =>
    rw [found] at exists_
    have present : (files.content (pointerPath .current)).isSome := Option.isSome_of_mem found
    have digest : Succeeds platform (remoteSha256Required config (pointerPath .current)) files
      (platform.sha256Text content) files := succeeds_remoteSha256Required found
    by_cases same : platform.sha256Text content = prepared.manifestDigest
    · refine ⟨0, files, Attains.bind exists_ (Attains.bind digest ?_), clean, present⟩
      rw [if_pos same]
      exact attains_returned 0
    · obtain ⟨kept, keeps, lands⟩ := succeeds_keepPrevious laid found
      have outside : (pointerPath .current).directory ≠ .root := nofun
      have fits : Fits platform (pointerPath .previous) content := by
        refine ⟨?_, fun _ _ => rfl, fun _ => ?_⟩
        · rintro (other | other) <;> cases other
        · exact (clean.fits outside found).decoded (Or.inr ⟨.current, rfl⟩)
      obtain ⟨later, switched, tidy⟩ := publishable.succeeds_switchPointers
        (Attains.laid keeps laid) (lands.clean clean fits)
      refine ⟨1, later, Attains.bind exists_ (Attains.bind digest ?_), tidy⟩
      rw [if_neg same]
      exact Attains.bind keeps switched

end PreparedSnapshot.Publishable

/-- The files of snapshots land in a clean store. -/
theorem succeeds_uploads {store : SnapshotFiles} {archives : List PreparedSnapshot}
    (publishable : ∀ prepared ∈ archives, prepared.Publishable platform store)
    (presence : RemoteSnapshotPresence) (laid : files.Laid) (clean : Clean platform files) :
    ∃ result later, Succeeds platform (ensureArchives platform config store archives presence)
      files result later ∧ Clean platform later := by
  have every : ∃ result later, Succeeds platform
      (ensureArchives platform config store archives presence) files result later ∧
        later.Laid ∧ Clean platform later := by
    apply attains_accumulate_keeps ?_ ⟨laid, clean⟩
    intro known prepared member before holds
    obtain ⟨result, later, uploaded, laterClean⟩ :=
      (publishable prepared member).succeeds_ensureImmutableLocked known.1 holds.1 holds.2
    exact ⟨_, later, Attains.bind uploaded (attains_returned _), Attains.laid uploaded holds.1,
      laterClean⟩
  obtain ⟨result, later, uploaded, _, laterClean⟩ := every
  exact ⟨result, later, uploaded, laterClean⟩

/-! ## Retention -/

/-- Paths are gone, and every other entry and directory is as before. -/
structure Gone (paths : List RemotePath) (before later : RemoteFiles) : Prop where
  entry : ∀ other, later.entry other = if other ∈ paths then none else before.entry other
  directory : ∀ directory, (∀ path ∈ paths, path.directory ≠ directory) →
    later.directory directory = before.directory directory

/-- A file of immutable content is removed. -/
theorem succeeds_removeExactVerified {path : RemotePath} (clean : Clean platform files)
    (immutable : path.directory.Immutable) (present : (files.content path).isSome) :
    ∃ later, Succeeds platform (removeExactVerified config path (stem path.name)) files () later ∧
      Gone [path] files later := by
  obtain ⟨content, found⟩ := Option.isSome_iff_exists.mp present
  obtain ⟨entry, inside, _⟩ := Option.map_eq_some_iff.mp found
  have plain : (RemoteCommand.testLink path).exec platform.sha256Text files =
      some (false, files) := by
    rw [RemoteCommand.exec, inside, Option.any_some, clean.regular immutable.ne_root inside]
  have removed : (RemoteCommand.remove path).exec platform.sha256Text files =
      some ((), files.erase path) := by
    rw [RemoteCommand.exec, inside]
    rfl
  refine ⟨files.erase path, ?_, ?_, ?_⟩
  · apply Attains.bind (succeeds_probe plain)
    apply Attains.bind (succeeds_remoteSha256Required found)
    apply Attains.bind (attains_lift (if_pos (decide_eq_true (clean.hashed immutable found))))
    exact succeeds_ask removed
  · intro other
    rw [RemoteFiles.entry_erase]
    simp only [List.mem_singleton]
  · intro directory others
    have different := (others path List.mem_cons_self).symm
    rw [RemoteFiles.erase]
    split
    · rfl
    · rw [RemoteFiles.directory_withDirectory, Function.update_of_ne different]

/-- Files of immutable contents are removed, each once. -/
theorem succeeds_removals {paths : List RemotePath} (distinct : paths.Nodup)
    (clean : Clean platform files) (immutable : ∀ path ∈ paths, path.directory.Immutable)
    (present : ∀ path ∈ paths, (files.content path).isSome) :
    ∃ later, Succeeds platform
      (Program.forEach (fun path => removeExactVerified config path (stem path.name)) paths)
        files () later ∧ Gone paths files later := by
  induction paths generalizing files with
  | nil => exact ⟨files, attains_returned (), fun _ => rfl, fun _ _ => rfl⟩
  | cons path paths ih =>
    obtain ⟨absent, distinct⟩ := List.nodup_cons.mp distinct
    obtain ⟨middle, first, gone⟩ := succeeds_removeExactVerified clean
      (immutable path List.mem_cons_self) (present path List.mem_cons_self)
    have stays : ∀ other ∈ paths, (middle.content other).isSome := by
      intro other member
      have different : other ≠ path := fun same => absent (same ▸ member)
      rw [RemoteFiles.content, gone.entry, if_neg fun same =>
        different (List.mem_singleton.mp same)]
      exact present other (List.mem_cons_of_mem path member)
    have reduced : Reduced files middle := by
      intro other entry found
      rw [gone.entry] at found
      split_ifs at found
      exact found
    obtain ⟨later, rest, also⟩ := ih distinct (clean.reduced reduced)
      (fun other member => immutable other (List.mem_cons_of_mem path member)) stays
    refine ⟨later, Attains.bind first rest, ?_, ?_⟩
    · intro other
      rw [also.entry, gone.entry]
      by_cases same : other = path <;> by_cases later : other ∈ paths <;> simp [same, later]
    · intro directory others
      rw [also.directory directory fun other member =>
        others other (List.mem_cons_of_mem path member),
        gone.directory directory fun other member => ?_]
      rw [List.mem_singleton.mp member]
      exact others path List.mem_cons_self

/-- What an inventory repeats of the store: the entries of the pointers, and the digests of the
manifests. -/
structure RetentionInventory.Repeats (platform : RemotePlatform) (files : RemoteFiles)
    (inventory : RetentionInventory) : Prop where
  pointerEntries : ListsPointers files inventory.pointerEntries
  manifestHashes : readAll files platform.sha256Text
    (inventory.archivePaths ++ inventory.pointerPaths) = some inventory.manifestHashes
  distinct : (inventory.archivePaths ++ inventory.pointerPaths).Nodup
  objects : inventory.objectPaths.Nodup

/-- An inventory that was read repeats the store. -/
theorem reads_readInventory_repeats (files : RemoteFiles) :
    (readInventory platform config).Reads platform.host files fun inventory =>
      inventory.Repeats platform files := by
  apply Reads.bind (reads_remoteEntries .manifests files)
  intro manifestEntries manifests
  apply Reads.bind (reads_remoteEntries .objects files)
  intro objectEntries objects
  apply Reads.bind (reads_lift fun _ _ => trivial)
  intro _ _
  apply Reads.bind (reads_lift fun _ _ => trivial)
  intro _ _
  apply Reads.bind (reads_pointerEntries files)
  intro pointerEntries listed
  obtain ⟨all, lists⟩ := listed
  apply Reads.bind (reads_remoteHashesRequired _ files)
  intro hashes hashed
  apply Reads.bind (reads_remoteContentsRequired _ files)
  intro contents read
  apply Reads.bind (reads_lift fun _ _ => trivial)
  intro archives _
  apply Reads.bind (reads_lift fun _ _ => trivial)
  intro pointers _
  apply Reads.bind (reads_remoteHashesRequired _ files)
  intro objectHashes _
  apply Reads.bind (reads_lift fun _ _ => trivial)
  intro _ _
  apply Reads.bind (reads_lift fun _ _ => trivial)
  intro _ _
  apply reads_returned
  exact ⟨lists, hashed, nodup_manifestPaths manifests all lists, objects.nodup_sortedPaths⟩

/-- Listings of one directory that is unchanged are the same. -/
theorem Lists.unique {before : RemoteFiles} {directory : RemoteDirectory}
    {entries others : List (String × Bool)} (lists : Lists before directory entries)
    (also : Lists later directory others)
    (same : later.directory directory = before.directory directory) : others = entries := by
  obtain ⟨found, read, entries_eq⟩ := lists
  obtain ⟨found', read', others_eq⟩ := also
  rw [same, read] at read'
  rw [entries_eq, others_eq, Option.some.inj read']

/-- The contents that are not gone are those of before. -/
theorem Gone.content {paths : List RemotePath} {before : RemoteFiles}
    (gone : Gone paths before later) (other : RemotePath) :
    later.content other = if other ∈ paths then none else before.content other := by
  rw [RemoteFiles.content, gone.entry]
  split_ifs <;> rfl

section Retention

variable {inventory : RetentionInventory} {retention : Nat} {middle : RemoteFiles}

/-- An archive that is kept is listed behind the removal of the others. -/
theorem mem_keptArchivePaths (faithful : inventory.Faithful platform files)
    (gone : Gone (inventory.manifestDeletions retention) files middle) (name : String) :
    ⟨.manifests, name⟩ ∈ inventory.keptArchivePaths retention ↔
      (middle.content ⟨.manifests, name⟩).isSome := by
  rw [RetentionInventory.keptArchivePaths, List.mem_filter, faithful.archivePaths, gone.content,
    decide_eq_true_eq]
  by_cases removed : (⟨.manifests, name⟩ : RemotePath) ∈ inventory.manifestDeletions retention
  · rw [if_pos removed]
    exact iff_of_false (fun holds => holds.2 removed) nofun
  · rw [if_neg removed]
    exact ⟨fun holds => holds.1.2, fun present => ⟨⟨rfl, present⟩, removed⟩⟩

/-- The archives that are kept are those that are listed behind the removal of the others. -/
theorem listed_perm_kept (faithful : inventory.Faithful platform files)
    (clean : Clean platform middle)
    (gone : Gone (inventory.manifestDeletions retention) files middle)
    {entries : List (String × Bool)} (lists : Lists middle .manifests entries) :
    entries.Perm ((inventory.keptArchivePaths retention).map fun path => (path.name, false)) := by
  have kept : ∀ path ∈ inventory.keptArchivePaths retention, path.directory = .manifests :=
    fun path member => ((faithful.archivePaths path).mp (List.mem_of_mem_filter member)).1
  have once : ((inventory.keptArchivePaths retention).map fun path =>
      (path.name, false)).Nodup := by
    apply List.Nodup.map_on ?_ (faithful.distinct.filter _)
    intro first listed second also same
    have directory := (kept first listed).trans (kept second also).symm
    have name := (Prod.mk.inj same).1
    cases first
    cases second
    simp_all
  apply (List.perm_ext_iff_of_nodup (List.Nodup.of_map Prod.fst lists.nodup) once).mpr
  rintro ⟨name, link⟩
  rw [List.mem_map]
  constructor
  · intro listed
    have present := (lists.mem name).mp (List.mem_map_of_mem listed)
    have plain : link = false := clean.plain (Or.inr rfl) lists (name, link) listed
    rw [plain]
    exact ⟨⟨.manifests, name⟩, (mem_keptArchivePaths faithful gone name).mpr present, rfl⟩
  · rintro ⟨path, member, same⟩
    obtain ⟨rfl, rfl⟩ := Prod.mk.inj same
    have directory := kept path member
    have path_eq : (⟨.manifests, path.name⟩ : RemotePath) = path := by rw [← directory]
    have present : (middle.content ⟨.manifests, path.name⟩).isSome :=
      (mem_keptArchivePaths faithful gone path.name).mp (by rw [path_eq]; exact member)
    obtain ⟨⟨_, other⟩, listed, rfl⟩ := List.mem_map.mp ((lists.mem path.name).mpr present)
    have plain : other = false := clean.plain (Or.inr rfl) lists _ listed
    rw [← plain]
    exact listed

/-- The store is found unchanged behind the removal of manifests. -/
theorem succeeds_verifyUnchanged (faithful : inventory.Faithful platform files)
    (repeats : inventory.Repeats platform files) (clean : Clean platform middle)
    (laid : middle.Laid)
    (gone : Gone (inventory.manifestDeletions config.remoteRetention) files middle) :
    Succeeds platform (verifyUnchanged config inventory) middle () middle := by
  let kept := inventory.keptArchivePaths config.remoteRetention
  obtain ⟨entries, listed, lists⟩ := succeeds_remoteEntries laid .manifests
  have permuted := List.isPerm_iff.mpr (listed_perm_kept faithful clean gone lists)
  have outside : ∀ pointer, ∀ path ∈ inventory.manifestDeletions config.remoteRetention,
      path.directory ≠ .pointer pointer := by
    intro pointer path member
    rw [((faithful.archivePaths path).mp (List.mem_of_mem_filter member)).1]
    exact nofun
  have pointers : ∀ known ∈ inventory.pointerEntries, Succeeds platform (do
      let entries ← remoteEntries config (.pointer known.1)
      Program.lift (require (entries.isPerm known.2)
        (refused "Pointer remoto cambiato durante la retention."))) middle () middle := by
    intro known member
    obtain ⟨found, read, also⟩ := succeeds_remoteEntries laid (.pointer known.1)
    have same := (repeats.pointerEntries known member).unique also
      (gone.directory _ (outside known.1))
    have perm : found.isPerm known.2 = true := by
      rw [same]
      exact List.isPerm_iff.mpr (List.Perm.refl _)
    exact Attains.bind read (attains_lift (if_pos perm))
  have distinct : (kept ++ inventory.pointerPaths).Nodup :=
    repeats.distinct.sublist (List.filter_sublist.append (List.Sublist.refl _))
  have stays : ∀ path ∈ kept ++ inventory.pointerPaths,
      path ∈ inventory.archivePaths ++ inventory.pointerPaths ∧
        path ∉ inventory.manifestDeletions config.remoteRetention := by
    intro path member
    rcases List.mem_append.mp member with archive | pointer
    · obtain ⟨inside, unremoved⟩ := List.mem_filter.mp archive
      exact ⟨List.mem_append_left _ inside, of_decide_eq_true unremoved⟩
    · refine ⟨List.mem_append_right _ pointer, fun removed => ?_⟩
      obtain ⟨⟨which, rfl⟩, _⟩ := (faithful.pointerPaths path).mp pointer
      exact outside which _ removed rfl
  have same : ∀ path ∈ kept ++ inventory.pointerPaths,
      middle.content path = files.content path := by
    intro path member
    rw [gone.content, if_neg (stays path member).2]
  have present : ∀ path ∈ kept ++ inventory.pointerPaths, (middle.content path).isSome := by
    intro path member
    obtain ⟨content, found, _⟩ := lookup_readAll repeats.manifestHashes (stays path member).1
    rw [same path member, found]
    rfl
  obtain ⟨hashes, hashesRead, hashed⟩ := succeeds_remoteHashesRequired distinct present
  have unchanged : ((kept ++ inventory.pointerPaths).all fun path =>
      hashes.lookup path = inventory.manifestHashes.lookup path) = true := by
    apply List.all_eq_true.mpr
    intro path member
    obtain ⟨content, found, line⟩ := lookup_readAll hashed member
    obtain ⟨content', found', line'⟩ := lookup_readAll repeats.manifestHashes (stays path member).1
    rw [same path member, found'] at found
    apply decide_eq_true
    rw [line, line', Option.some.inj found]
  apply Attains.bind listed
  apply Attains.bind (attains_lift (if_pos permuted))
  apply Attains.bind (attains_forEach pointers)
  apply Attains.bind hashesRead
  exact attains_lift (if_pos unchanged)

/-- What retention does not keep is removed. -/
theorem succeeds_applyRetention (faithful : inventory.Faithful platform files)
    (repeats : inventory.Repeats platform files) (clean : Clean platform files)
    (laid : files.Laid) :
    ∃ removed later, Succeeds platform (applyRetention config inventory) files removed later := by
  have archives : ∀ path ∈ inventory.manifestDeletions config.remoteRetention,
      path.directory = .manifests ∧ (files.content path).isSome :=
    fun path member => (faithful.archivePaths path).mp (List.mem_of_mem_filter member)
  have objects : ∀ path ∈ inventory.objectDeletions config.remoteRetention,
      path.directory = .objects ∧ (files.content path).isSome :=
    fun path member => (faithful.objectPaths path).mp (List.mem_of_mem_filter member)
  have manifestsRemoved : ∃ middle, Succeeds platform
      (Program.forEach (fun path => removeExactVerified config path (stem path.name))
        (inventory.manifestDeletions config.remoteRetention)) files () middle ∧
      Gone (inventory.manifestDeletions config.remoteRetention) files middle :=
    succeeds_removals (faithful.distinct.filter _) clean
      (fun path member => Or.inr (archives path member).1) fun path member =>
        (archives path member).2
  obtain ⟨middle, removed, gone⟩ := manifestsRemoved
  have middleLaid := Attains.laid removed laid
  have middleClean : Clean platform middle := by
    apply clean.reduced
    intro path entry found
    rw [gone.entry] at found
    split_ifs at found
    exact found
  have verified : Succeeds platform (if inventory.objectDeletions config.remoteRetention = []
      then .returned () else verifyUnchanged config inventory) middle () middle := by
    split_ifs
    · exact attains_returned ()
    · exact succeeds_verifyUnchanged faithful repeats middleClean middleLaid gone
  have stays : ∀ path ∈ inventory.objectDeletions config.remoteRetention,
      (middle.content path).isSome := by
    intro path member
    obtain ⟨directory, present⟩ := objects path member
    rw [gone.content, if_neg fun removed => ?_]
    · exact present
    · rw [(archives path removed).1] at directory
      cases directory
  have objectsRemoved : ∃ later, Succeeds platform
      (Program.forEach (fun path => removeExactVerified config path (stem path.name))
        (inventory.objectDeletions config.remoteRetention)) middle () later ∧
      Gone (inventory.objectDeletions config.remoteRetention) middle later :=
    succeeds_removals (repeats.objects.filter _) middleClean
      (fun path member => Or.inl (objects path member).1) stays
  obtain ⟨later, alsoRemoved, _⟩ := objectsRemoved
  exact ⟨_, later, Attains.bind removed (Attains.bind verified
    (Attains.bind alsoRemoved (attains_returned _)))⟩

/-- Retention of a tidy store completes. -/
theorem succeeds_retention (tidy : Tidy platform files) (laid : files.Laid)
    (referenced : Referenced platform files) :
    ∃ removed later, Succeeds platform (pruneCommitted platform config) files removed later := by
  have found : ∃ inventory, Succeeds platform (readInventory platform config) files inventory
      files ∧ inventory.Faithful platform files := succeeds_readInventory tidy laid referenced
  obtain ⟨inventory, read, faithful⟩ := found
  have repeats := (reads_readInventory_repeats files).attained read
  have applied : ∃ removed later, Succeeds platform (applyRetention config inventory) files
      removed later := succeeds_applyRetention faithful repeats tidy.clean laid
  obtain ⟨removed, later, applied⟩ := applied
  exact ⟨removed, later, Attains.handle (Attains.bind read applied)⟩

end Retention

/-! ## The whole publication -/

/-- The lock of a store whose directories exist is taken. -/
theorem succeeds_acquireLock (enabled : config.enabled = true) (laid : files.Laid)
    (free : files.locked = false) :
    Succeeds platform (acquireLock config) files () { files with locked := true } := by
  have layout : Succeeds platform (ensureRemoteLayout config) files () files := by
    rw [ensureRemoteLayout]
    split_ifs
    · have made : ∀ directories, Succeeds platform
          ((RemoteCommand.makeDirectories directories).ask config) files () files := by
        intro directories
        apply succeeds_ask
        rw [RemoteCommand.exec, laid.withDirectories]
      apply Attains.bind (made _)
      apply succeeds_ask
      exact if_pos fun directory _ => laid directory
    · apply attains_forEach
      intro directory _
      have there : (RemoteCommand.testDirectory directory).exec platform.sha256Text files =
          some (true, files) := by
        rw [RemoteCommand.exec, laid directory]
      exact Attains.bind (succeeds_probe there) (attains_returned ())
  have taken : RemoteCommand.makeLock.exec platform.sha256Text files =
      some ((), { files with locked := true }) := if_pos ⟨free, laid .root⟩
  apply Attains.bind (attains_lift (if_pos enabled))
  apply Attains.bind layout
  exact Attains.bind (succeeds_probe taken) (attains_returned ())

/-- The lock of a store that is locked is released. -/
theorem succeeds_releaseLock {α : Type} (summary : α) (locked : files.locked = true) :
    Succeeds platform (releaseLock config (.ok summary)) files summary
      { files with locked := false } := by
  have removed : RemoteCommand.removeLock.exec platform.sha256Text files =
      some ((), { files with locked := false }) := if_pos locked
  exact Attains.bind (Attains.attempt (succeeds_probe removed)) (attains_returned summary)

/-- The files of snapshots that are ready are expected without an error. -/
theorem expectedFiles_of_publishable {store : SnapshotFiles} {snapshots : List PreparedSnapshot}
    (publishable : ∀ prepared ∈ snapshots, prepared.Publishable platform store) :
    ∃ expected, expectedFiles platform snapshots = .ok expected := by
  rw [expectedFiles]
  have round : ∀ known : Dict String String × Dict String String, ∀ prepared ∈ snapshots,
      NamedByDigests known.1 → ∃ next : Dict String String × Dict String String,
        (if ¬ isObjectName (prepared.objectName platform) = true ∨
            prepared.objectName platform ≠ objectNameOf (prepared.objectDigest platform) ∨
            ¬ isObjectName prepared.archiveName = true then
          .error (refused "Snapshot locale con nomi contenuto non validi.")
        else if (known.1.get? (prepared.objectName platform)).getD
            (prepared.objectDigest platform) ≠ prepared.objectDigest platform then
          .error (refused "Snapshot locali con oggetto remoto ambiguo.")
        else .ok (known.1.set (prepared.objectName platform) (prepared.objectDigest platform),
          known.2.set prepared.archiveName prepared.manifestDigest)) =
            (.ok next : Except RemoteFault _) ∧ NamedByDigests next.1 := by
    intro known prepared member named
    have ready := publishable prepared member
    have names : ¬ (¬ isObjectName (prepared.objectName platform) = true ∨
        prepared.objectName platform ≠ objectNameOf (prepared.objectDigest platform) ∨
        ¬ isObjectName prepared.archiveName = true) := by
      rintro (object | differs | archive)
      · exact object ready.sound.object
      · exact differs ready.named
      · exact archive ready.sound.archive
    have unambiguous : ¬ (known.1.get? (prepared.objectName platform)).getD
        (prepared.objectDigest platform) ≠ prepared.objectDigest platform := by
      rw [not_not]
      cases found : known.1.get? (prepared.objectName platform) with
      | none => rfl
      | some digest =>
        have same := named _ digest found
        rw [ready.named] at same
        rw [Option.getD_some, ← stem_objectNameOf digest, ← same, stem_objectNameOf]
    rw [if_neg names, if_neg unambiguous]
    refine ⟨_, rfl, ?_⟩
    rw [ready.named]
    exact named.set _
  have start : NamedByDigests (Dict.empty, (Dict.empty : Dict String String)).1 :=
    namedByDigests_empty
  obtain ⟨expected, returned, _⟩ := exists_foldlM round start
  exact ⟨expected, returned⟩

end DTLab
