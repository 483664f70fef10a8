import DTLab.Verif.Aftermath
import DTLab.Verif.Backlog
import DTLab.Verif.Totality

/-!
# Publication reaches a steady state

A batch that was published is published again: nothing is uploaded, switched or removed exactly
where retention keeps every archive of the batch. An archive that retention removes behind its
upload is uploaded and removed by every publication of the batch.
-/

namespace DTLab

open Library (Json Text Dict Program)
open Library.Program (Ensures Ends Attains ensures_bind ensures_lift ensures_trivial
  ensures_accumulate attains_returned attains_lift attains_forEach attains_accumulate_same)

variable {platform : RemotePlatform} {config : PublishConfig} {files : RemoteFiles}

/-! ## Retention with nothing to remove -/

/-- Few records are above one among fewer records. -/
theorem MostRecent.mono {count : Nat} {fewer records : Set RemoteManifest}
    {record : RemoteManifest} (recent : MostRecent count records record)
    (subset : fewer ⊆ records) : MostRecent count fewer record := by
  apply lt_of_le_of_lt ?_ recent
  apply Set.encard_le_encard
  exact fun other above => ⟨subset above.1, above.2⟩

/-- The archives that retention left are among those in stock. -/
theorem Retained.archived {retention : Nat} {stock : String → Option Text}
    (retained : Retained platform retention stock files) :
    Archived platform files.archives ⊆ Archived platform stock := by
  rintro record ⟨name, content, found, described⟩
  exact ⟨name, content, ((retained.archives name content).mp found).1, described⟩

namespace RetentionInventory.Faithful

variable {inventory : RetentionInventory} {retention : Nat} {stock : String → Option Text}
  (faithful : inventory.Faithful platform files)
  (retained : Retained platform retention stock files)

include faithful retained

/-- Retention keeps the archives that it left. -/
theorem no_manifestDeletions : inventory.manifestDeletions retention = [] := by
  apply List.eq_nil_iff_forall_not_mem.mpr
  intro path removed
  have listed := List.mem_of_mem_filter removed
  obtain ⟨record, member, describes⟩ := faithful.archives path listed
  have unkept := (faithful.mem_manifestDeletions retention listed describes).mp removed
  apply unkept
  obtain ⟨content, found, described⟩ := describes
  have directory := ((faithful.archivePaths path).mp listed).1
  have archived : files.archives path.name = some content := by
    rw [RemoteFiles.archives, ← directory]
    exact found
  obtain ⟨_, other, also, kept⟩ := (retained.archives path.name content).mp archived
  rw [described] at also
  rw [← Option.some.inj also] at kept
  apply (faithful.mem_keptDigests retention member).mpr
  exact kept.imp_right fun recent => recent.mono retained.archived

/-- Retention keeps the objects that it left. -/
theorem no_objectDeletions : inventory.objectDeletions retention = [] := by
  apply List.eq_nil_iff_forall_not_mem.mpr
  intro path removed
  obtain ⟨directory, present⟩ := (faithful.objectPaths path).mp (List.mem_of_mem_filter removed)
  have unkept := of_decide_eq_true (List.mem_filter.mp removed).2
  apply unkept
  have has : files.Has path.name := by
    rw [RemoteFiles.Has, ← directory]
    exact present
  obtain ⟨manifest, content, isManifest, found, named⟩ := (retained.objects path.name).mp has
  apply (faithful.mem_keptObjects retention path.name).mpr
  refine ⟨manifest, content, isManifest, ?_, found, named⟩
  rw [faithful.no_manifestDeletions retained]
  exact List.not_mem_nil

end RetentionInventory.Faithful

/-- Retention of a store that it left removes nothing. -/
theorem succeeds_pruneCommitted (tidy : Tidy platform files) (laid : files.Laid)
    (referenced : Referenced platform files) {stock : String → Option Text}
    (retained : Retained platform config.remoteRetention stock files) :
    Succeeds platform (pruneCommitted platform config) files (0, 0) files := by
  obtain ⟨inventory, read, faithful⟩ := succeeds_readInventory tidy laid referenced
  apply Attains.handle
  apply Attains.bind read
  have manifests := faithful.no_manifestDeletions retained
  have objects := faithful.no_objectDeletions retained
  rw [applyRetention]
  simp only [manifests, objects, if_true, List.length_nil]
  exact attains_returned (0, 0)

/-! ## Uploads of what is present -/

section Present

variable {presence : RemoteSnapshotPresence}

/-- A snapshot whose files are present is not uploaded. -/
theorem succeeds_ensureImmutableLocked (store : SnapshotFiles) {prepared : PreparedSnapshot}
    (object : prepared.objectName platform ∈ presence.objects)
    (archive : prepared.archiveName ∈ presence.archives) :
    Succeeds platform (ensureImmutableLocked platform config store prepared presence) files
      (presence, false, false) files := by
  rw [ensureImmutableLocked]
  simp only [decide_eq_true object, decide_eq_true archive, if_true, Bool.not_true]
  exact attains_returned _

/-- Snapshots whose files are present are not uploaded. -/
theorem succeeds_ensureArchives (store : SnapshotFiles) {archives : List PreparedSnapshot}
    (present : ∀ prepared ∈ archives, prepared.objectName platform ∈ presence.objects ∧
      prepared.archiveName ∈ presence.archives) :
    Succeeds platform (ensureArchives platform config store archives presence) files
      (presence, 0, 0) files := by
  apply attains_accumulate_same
  intro prepared member
  obtain ⟨object, archive⟩ := present prepared member
  exact Attains.bind (succeeds_ensureImmutableLocked store object archive) (attains_returned _)

end Present

/-- The snapshot that is current is not committed again. -/
theorem succeeds_commitCurrentLocked {prepared : PreparedSnapshot}
    (current : (files.pointers .current).map platform.sha256Text = some prepared.manifestDigest) :
    Succeeds platform (commitCurrentLocked platform config prepared) files 0 files := by
  obtain ⟨content, found, digest⟩ := Option.map_eq_some_iff.mp current
  have there : files.content (pointerPath .current) = some content := found
  apply Attains.bind (succeeds_remoteFileExists (pointerPath .current))
  rw [if_pos (Option.isSome_of_mem there)]
  apply Attains.bind (succeeds_remoteSha256Required there)
  rw [if_pos digest]
  exact attains_returned 0

/-! ## The publication again -/

/-- A publication that uploads, switches and removes nothing. -/
structure RemotePublishSummary.Idle (summary : RemotePublishSummary) : Prop where
  archives : summary.archivesPublished = 0
  objects : summary.objectsUploaded = 0
  currentArchive : summary.currentArchivePublished = 0
  current : summary.currentUpdated = 0
  manifestsDeleted : summary.manifestsDeleted = 0
  objectsDeleted : summary.objectsDeleted = 0

/-- A store to which a batch was published, and in which everything of it is present. -/
structure Supplied (platform : RemotePlatform) (config : PublishConfig) (files : RemoteFiles)
    (snapshots : List PreparedSnapshot) (prepared : PreparedSnapshot) : Prop where
  laid : files.Laid
  tidy : Tidy platform files
  referenced : Referenced platform files
  retained : ∃ stock, Retained platform config.remoteRetention stock files
  expected : ∃ expected, expectedFiles platform snapshots = .ok expected
  current : (files.pointers .current).map platform.sha256Text = some prepared.manifestDigest
  present : ∀ snapshot ∈ snapshots, files.Has (snapshot.objectName platform) ∧
    (files.archives snapshot.archiveName).isSome

/-- A batch whose files are present is published without a change. -/
theorem succeeds_publishLocked (store : SnapshotFiles) {archives : List PreparedSnapshot}
    {prepared : PreparedSnapshot}
    (supplied : Supplied platform config files (archives ++ [prepared]) prepared) :
    ∃ summary, Succeeds platform (publishLocked platform config store archives (some prepared))
      files summary files ∧ summary.Idle := by
  obtain ⟨⟨objects, names⟩, expected⟩ := supplied.expected
  obtain ⟨stock, retained⟩ := supplied.retained
  obtain ⟨presence, verified, covers⟩ :=
    succeeds_verifiedSnapshotPresence supplied.tidy.clean supplied.laid expected
  have listed : ∀ snapshot ∈ archives ++ [prepared],
      snapshot.objectName platform ∈ presence.objects ∧
        snapshot.archiveName ∈ presence.archives := by
    intro snapshot member
    obtain ⟨object, archive⟩ := supplied.present snapshot member
    exact ⟨(covers snapshot member).1 object, (covers snapshot member).2 archive⟩
  obtain ⟨object, archive⟩ := listed prepared (List.mem_append_right _ List.mem_cons_self)
  refine ⟨⟨archives.length, 0, archives.length - 0, 0 + false.toNat, false.toNat, (!false).toNat, 0,
    0, 0⟩, ?_, rfl, rfl, rfl, rfl, rfl, rfl⟩
  apply Attains.bind verified
  apply Attains.bind (succeeds_ensureArchives store fun snapshot member =>
    listed snapshot (List.mem_append_left _ member))
  apply Attains.bind (succeeds_ensureImmutableLocked store object archive)
  apply Attains.bind (succeeds_commitCurrentLocked supplied.current)
  apply Attains.bind (succeeds_pruneCommitted supplied.tidy supplied.laid supplied.referenced
    retained)
  exact attains_returned _

/-- What is supplied is so whether the store is locked or not. -/
theorem Supplied.congr {before later : RemoteFiles} {snapshots : List PreparedSnapshot}
    {prepared : PreparedSnapshot} (supplied : Supplied platform config before snapshots prepared)
    (same : later.directory = before.directory) :
    Supplied platform config later snapshots prepared := by
  have contents := content_of_directory same
  constructor
  · intro directory
    rw [same]
    exact supplied.laid directory
  · exact supplied.tidy.congr same
  · exact supplied.referenced.congr contents
  · obtain ⟨stock, retained⟩ := supplied.retained
    exact ⟨stock, retained.congr contents⟩
  · exact supplied.expected
  · rw [RemoteFiles.pointers, contents]
    exact supplied.current
  · simp only [RemoteFiles.Has, RemoteFiles.archives, contents]
    exact supplied.present

/-- A batch whose files are present is published without a change, and the lock is free again. -/
theorem succeeds_publishPrepared (store : SnapshotFiles) {archives : List PreparedSnapshot}
    {prepared : PreparedSnapshot} (enabled : config.enabled = true) (free : files.locked = false)
    (supplied : Supplied platform config files (archives ++ [prepared]) prepared) :
    ∃ summary, Succeeds platform (publishPrepared platform config store archives (some prepared))
      files summary files ∧ summary.Idle := by
  let locked : RemoteFiles := { files with locked := true }
  have inside : Supplied platform config locked (archives ++ [prepared]) prepared :=
    supplied.congr rfl
  obtain ⟨summary, published, idle⟩ := succeeds_publishLocked store inside
  have released : Succeeds platform (releaseLock config (.ok summary)) locked summary files := by
    have again : Succeeds platform (releaseLock config (.ok summary)) locked summary
        { locked with locked := false } := succeeds_releaseLock summary rfl
    have unlocked : { locked with locked := false } = files := by rw [← free]
    rw [unlocked] at again
    exact again
  refine ⟨summary, ?_, idle⟩
  apply Attains.bind (succeeds_acquireLock enabled supplied.laid free)
  exact Attains.bind published.attempt released

/-! ## Archives that were removed -/

/-- An archive that is not published was present. -/
theorem ensures_ensureImmutableLocked_present (store : SnapshotFiles) (prepared : PreparedSnapshot)
    (presence : RemoteSnapshotPresence) (files : RemoteFiles) :
    (ensureImmutableLocked platform config store prepared presence).Ensures platform.host
      (fun _ => True)
      (Ends (fun result _ => result.2.1 = false → prepared.archiveName ∈ presence.archives ∧
        result.1.archives = presence.archives) fun _ _ => True) files := by
  refine Ensures.bind (ensures_trivial _ files) ?_ fun _ _ _ => trivial
  intro _ stored _
  refine Ensures.bind (ensures_trivial _ stored) ?_ fun _ _ _ => trivial
  intro _ later _ unpublished
  have present : prepared.archiveName ∈ presence.archives := by
    by_contra missing
    simp [missing] at unpublished
  exact ⟨present, if_pos (decide_eq_true present)⟩

/-- Archives that are not published were present. -/
theorem ensures_ensureArchives_present (store : SnapshotFiles) (archives : List PreparedSnapshot)
    (presence : RemoteSnapshotPresence) (files : RemoteFiles) :
    (ensureArchives platform config store archives presence).Ensures platform.host (fun _ => True)
      (Ends (fun result _ => result.2.1 = 0 →
        ∀ prepared ∈ archives, prepared.archiveName ∈ presence.archives) fun _ _ =>
          True) files := by
  let holds (known : RemoteSnapshotPresence × Nat × Nat) (rest : List PreparedSnapshot)
      (_ : RemoteFiles) : Prop :=
    ∃ done, done ++ rest = archives ∧ (known.2.1 = 0 →
      known.1.archives = presence.archives ∧
        ∀ prepared ∈ done, prepared.archiveName ∈ presence.archives)
  have start : holds (presence, 0, 0) archives files :=
    ⟨[], rfl, fun _ => ⟨rfl, fun _ member => (by cases member)⟩⟩
  apply ensures_accumulate holds ?_ ?_ start
  · rintro ⟨known, published, uploaded⟩ prepared rest later ⟨done, all, silent⟩
    refine Ensures.bind (ensures_ensureImmutableLocked_present store prepared known later) ?_
      fun _ _ _ => trivial
    rintro ⟨next, archiveAdded, objectAdded⟩ behind kept
    refine ⟨done ++ [prepared], (List.append_cons done prepared rest).symm.trans all, ?_⟩
    intro none
    have nothing : published = 0 ∧ archiveAdded.toNat = 0 := Nat.add_eq_zero_iff.mp none
    obtain ⟨same, present⟩ := silent nothing.1
    have unpublished : archiveAdded = false := by
      cases archiveAdded with
      | false => rfl
      | true => cases nothing.2
    obtain ⟨there, also⟩ := kept unpublished
    dsimp only at same there also
    refine ⟨also.trans same, fun other member => ?_⟩
    rcases List.mem_append.mp member with old | new
    · exact present other old
    · rw [List.mem_singleton.mp new, ← same]
      exact there
  · rintro known later ⟨done, all, silent⟩ none
    rw [List.append_nil] at all
    rw [← all]
    exact (silent none).2

/-- A publication under the lock that publishes no archive found all of them. -/
theorem ensures_publishLocked_present (store : SnapshotFiles) (archives : List PreparedSnapshot)
    (prepared : PreparedSnapshot) (files : RemoteFiles) :
    (publishLocked platform config store archives (some prepared)).Ensures platform.host
      (fun _ => True)
      (Ends (fun summary _ => summary.archivesPublished = 0 →
        ∀ snapshot ∈ archives, (files.archives snapshot.archiveName).isSome) fun _ _ => True)
      files := by
  apply Ensures.afterReading (reads_verifiedSnapshotPresence (archives ++ [prepared]) files)
    trivial fun _ => trivial
  intro presence reflects
  refine Ensures.bind (ensures_ensureArchives_present store archives presence files) ?_
    fun _ _ _ => trivial
  rintro ⟨present, published, uploaded⟩ stored found
  dsimp only
  refine Ensures.bind (ensures_trivial _ stored) ?_ fun _ _ _ => trivial
  rintro ⟨_, archiveAdded, objectAdded⟩ added _
  dsimp only
  refine Ensures.bind (ensures_trivial _ added) ?_ fun _ _ _ => trivial
  intro updated committed _
  refine Ensures.bind (ensures_trivial _ committed) ?_ fun _ _ _ => trivial
  rintro ⟨manifestsDeleted, objectsDeleted⟩ later _ none snapshot member
  exact (reflects.archives snapshot (List.mem_append_left _ member)).mp
    (found none snapshot member)

/-- A publication that publishes no archive found all of them. -/
theorem ensures_publishPrepared_present (store : SnapshotFiles) (archives : List PreparedSnapshot)
    (prepared : PreparedSnapshot) (files : RemoteFiles) :
    (publishPrepared platform config store archives (some prepared)).Ensures platform.host
      (fun _ => True)
      (Ends (fun summary _ => summary.archivesPublished = 0 →
        ∀ snapshot ∈ archives, (files.archives snapshot.archiveName).isSome) fun _ _ => True)
      files := by
  have quiet : Quiet (fun command => ∀ path, command.Spares path) (acquireLock config) :=
    quiet_acquireLock (fun _ harmless => harmless.inert.spares) (fun _ _ => trivial)
      fun _ => trivial
  have acquired : (acquireLock config).Ensures platform.host (fun _ => True)
      (fun _ later => later.content = files.content) files := by
    have kept := quiet.ensures platform.host (fun later => later.content = files.content) ?_ rfl
    · exact kept.mono (fun _ _ => trivial) fun _ _ holds => holds.2
    · intro command spares outcome before same
      rw [← same]
      funext path
      exact (spares path).respond platform.sha256Text outcome before
  refine Ensures.bind acquired ?_ fun _ _ _ => trivial
  intro _ locked same
  apply ensures_bind.mpr
  apply Program.ensures_attempt.mpr
  apply (ensures_publishLocked_present store archives prepared locked).weaken
  intro result done found
  apply (ensures_releaseLock_free result done).weaken
  intro ended later ends
  cases ended with
  | error fault => trivial
  | ok summary =>
    intro none snapshot member
    rw [ends.1] at found
    have present := found none snapshot member
    rw [RemoteFiles.archives, show locked.content = files.content from same] at present
    exact present

/-! ## Runs -/

/-- A remote store in which every manifest names an object that is there, every archive has the
digest of its name, and no manifest but its own has the digest of a snapshot. -/
structure WellFormedFor (platform : RemotePlatform) (snapshots : List PreparedSnapshot)
    (files : RemoteFiles) : Prop where
  referenced : Referenced platform files
  hashed : ∀ name content, isObjectName name = true → files.archives name = some content →
    platform.sha256Text content = stem name
  own : ∀ snapshot ∈ snapshots, ∀ path, IsManifest path → ∀ content,
    files.content path = some content → platform.sha256Text content = snapshot.manifestDigest →
      content = snapshot.manifestContent

/-- Retention keeps the archive of a snapshot behind the publication of a batch: few of the archives
of the store and the batch are more recent, or a pointer behind the switch has its digest. -/
def StaysArchived (platform : RemotePlatform) (config : PublishConfig) (files : RemoteFiles)
    (archives : List PreparedSnapshot) (prepared snapshot : PreparedSnapshot) : Prop :=
  ∃ record, manifestRecord platform snapshot.manifestContent = some record ∧
    (MostRecent config.remoteRetention
        (Archived platform (stocked files (archives ++ [prepared]))) record ∨
      ∃ pointer content, pointersBehind platform prepared files.pointers pointer = some content ∧
        platform.sha256Text content = record.digest)

/-- A request is carried out without a change: it succeeds, uploads, switches and removes nothing,
and leaves every remote file as it was. -/
def RemoteRequest.Settled (platform : RemotePlatform) (config : PublishConfig)
    (store : SnapshotFiles) (request : RemoteRequest) (files : RemoteFiles) : Prop :=
  ∃ summary, (request.program platform store config).follow platform.host .success files =
    (.ok summary, files) ∧ summary.Idle

/-- In stock under the name of a snapshot is its manifest. -/
theorem stocked_archiveName {snapshots : List PreparedSnapshot} {snapshot : PreparedSnapshot}
    {before : RemoteFiles} (form : isObjectName snapshot.archiveName = true)
    (member : snapshot ∈ snapshots)
    (named : ∀ other ∈ snapshots, other.archiveName = snapshot.archiveName →
      other.manifestContent = snapshot.manifestContent)
    (wellFormed : WellFormedFor platform snapshots before) :
    stocked before snapshots snapshot.archiveName = some snapshot.manifestContent := by
  rw [stocked, if_pos form]
  cases found : before.archives snapshot.archiveName with
  | some content =>
    have digest := wellFormed.hashed _ content form found
    rw [PreparedSnapshot.archiveName, stem_objectNameOf] at digest
    have isManifest : IsManifest ⟨.manifests, snapshot.archiveName⟩ := Or.inl ⟨rfl, form⟩
    rw [wellFormed.own snapshot member _ isManifest content found digest]
    rfl
  | none =>
    rw [Option.none_or]
    have first : (snapshots.find? fun other =>
        decide (other.archiveName = snapshot.archiveName)).isSome := by
      apply List.find?_isSome.mpr
      exact ⟨snapshot, member, decide_eq_true rfl⟩
    obtain ⟨other, chosen⟩ := Option.isSome_iff_exists.mp first
    have same := List.find?_some chosen
    rw [chosen, Option.map_some,
      named other (List.mem_of_find?_eq_some chosen) (of_decide_eq_true same)]

/-- The archives of a batch that are left are those that stay. -/
theorem archives_iff_staysArchived {archives : List PreparedSnapshot}
    {prepared snapshot : PreparedSnapshot} {before later : RemoteFiles}
    (stock : stocked before (archives ++ [prepared]) snapshot.archiveName =
      some snapshot.manifestContent)
    (retained : Retained platform config.remoteRetention
      (stocked before (archives ++ [prepared])) later)
    (pointers : later.pointers = pointersBehind platform prepared before.pointers) :
    (later.archives snapshot.archiveName).isSome ↔
      StaysArchived platform config before archives prepared snapshot := by
  have pointed : ∀ digest, PointedAt platform later digest ↔ ∃ pointer content,
      pointersBehind platform prepared before.pointers pointer = some content ∧
        platform.sha256Text content = digest := by
    intro digest
    rw [← pointers]
    exact Iff.rfl
  have kept := retained.archives snapshot.archiveName snapshot.manifestContent
  simp only [pointed] at kept
  constructor
  · intro present
    obtain ⟨content, found⟩ := Option.isSome_iff_exists.mp present
    have stocks := ((retained.archives _ content).mp found).1
    rw [stock] at stocks
    rw [← Option.some.inj stocks] at found
    obtain ⟨_, record, described, keeps⟩ := kept.mp found
    exact ⟨record, described, keeps.symm⟩
  · rintro ⟨record, described, keeps⟩
    exact Option.isSome_of_mem (kept.mpr ⟨stock, record, described, keeps.symm⟩)

/-- Behind a publication the manifest of the snapshot is under `current`. -/
theorem pointersBehind_current {snapshots : List PreparedSnapshot} {prepared : PreparedSnapshot}
    {before : RemoteFiles} (member : prepared ∈ snapshots)
    (wellFormed : WellFormedFor platform snapshots before) :
    pointersBehind platform prepared before.pointers .current = some prepared.manifestContent := by
  rw [pointersBehind]
  split_ifs with unchanged
  · obtain ⟨content, found, digest⟩ := Option.map_eq_some_iff.mp unchanged
    have isManifest : IsManifest (pointerPath .current) := Or.inr ⟨.current, rfl⟩
    rw [found, wellFormed.own prepared member _ isManifest content found digest]
  · rfl

/-- Where every archive of a batch stays behind its publication, everything of it is present. -/
theorem supplied_of_stays {archives : List PreparedSnapshot} {prepared : PreparedSnapshot}
    {before later : RemoteFiles}
    (sound : ∀ snapshot ∈ archives ++ [prepared], snapshot.Sound platform)
    (stock : ∀ snapshot ∈ archives ++ [prepared],
      stocked before (archives ++ [prepared]) snapshot.archiveName = some snapshot.manifestContent)
    (digest : platform.sha256Text prepared.manifestContent = prepared.manifestDigest)
    (wellFormed : WellFormedFor platform (archives ++ [prepared]) before)
    (referenced : Referenced platform later) (laid : later.Laid)
    (aftermath : Aftermath platform before later (archives ++ [prepared]) prepared)
    (retained : Retained platform config.remoteRetention
      (stocked before (archives ++ [prepared])) later)
    (stays : ∀ snapshot ∈ archives,
      StaysArchived platform config before archives prepared snapshot) :
    Supplied platform config later (archives ++ [prepared]) prepared := by
  have final : prepared ∈ archives ++ [prepared] := List.mem_append_right _ List.mem_cons_self
  have behind := pointersBehind_current final wellFormed
  have current : later.pointers .current = some prepared.manifestContent := by
    rw [aftermath.pointers, behind]
  have isPointer : IsManifest (pointerPath .current) := Or.inr ⟨.current, rfl⟩
  obtain ⟨record, described⟩ := Option.isSome_iff_exists.mp
    (aftermath.tidy.clean.decoded isPointer current)
  have pinned : StaysArchived platform config before archives prepared prepared :=
    ⟨record, described, Or.inr ⟨.current, prepared.manifestContent, behind,
      (manifestRecord_eq_some described).1.symm⟩⟩
  have kept : ∀ snapshot ∈ archives ++ [prepared],
      StaysArchived platform config before archives prepared snapshot := by
    intro snapshot member
    rcases List.mem_append.mp member with inside | last
    · exact stays snapshot inside
    · rw [List.mem_singleton.mp last]
      exact pinned
  refine ⟨laid, aftermath.tidy, referenced, ⟨_, retained⟩, aftermath.expected, ?_, ?_⟩
  · rw [current, Option.map_some, digest]
  intro snapshot member
  have archived : (later.archives snapshot.archiveName).isSome :=
    (archives_iff_staysArchived (stock snapshot member) retained aftermath.pointers).mpr
      (kept snapshot member)
  refine ⟨?_, archived⟩
  obtain ⟨content, found⟩ := Option.isSome_iff_exists.mp archived
  have stocks := ((retained.archives _ content).mp found).1
  rw [stock snapshot member] at stocks
  rw [← Option.some.inj stocks] at found
  have isManifest : IsManifest ⟨.manifests, snapshot.archiveName⟩ :=
    Or.inl ⟨rfl, (sound snapshot member).archive⟩
  exact (referenced _ isManifest _ found _ (sound snapshot member).named).2

/-- A call that makes a snapshot current is its publication. -/
theorem program_of_prepares {store : SnapshotFiles} {request : RemoteRequest}
    {archives : List PreparedSnapshot} {current : Option PreparedSnapshot}
    (prepares : request.prepare platform store = .ok (archives, current)) :
    request.program platform store config =
      publishPrepared platform config store archives current := by
  rw [RemoteRequest.program, prepares]
  rfl

/-- In stock behind a call are the manifests of its snapshots. -/
theorem stocked_of_prepares {store : SnapshotFiles} {request : RemoteRequest}
    {archives : List PreparedSnapshot} {prepared : PreparedSnapshot}
    (prepares : request.prepare platform store = .ok (archives, some prepared))
    (wellFormed : WellFormedFor platform (archives ++ [prepared]) files) :
    ∀ snapshot ∈ archives ++ [prepared], stocked files (archives ++ [prepared])
      snapshot.archiveName = some snapshot.manifestContent := by
  have sound := RemoteRequest.prepare_sound prepares
  have made := RemoteRequest.prepare_prepared prepares
  rw [Option.toList_some] at sound made
  have named : ∀ first ∈ archives ++ [prepared], ∀ second ∈ archives ++ [prepared],
      second.archiveName = first.archiveName → second.manifestContent = first.manifestContent := by
    intro first member second also same
    obtain ⟨stored, firstMade⟩ := made first member
    obtain ⟨other, secondMade⟩ := made second also
    apply prepareStored_content secondMade firstMade
    rw [← stem_objectNameOf second.manifestDigest, ← stem_objectNameOf first.manifestDigest]
    exact congrArg stem same
  exact fun snapshot member =>
    stocked_archiveName (sound snapshot member).archive member (named snapshot member) wellFormed

/-- What a call leaves is left unchanged by the same call only where every archive of the batch
stays. -/
theorem stays_of_settled {store : SnapshotFiles} {request : RemoteRequest}
    {outcomes left : List RemoteOutcome} {later : RemoteFiles} {archives : List PreparedSnapshot}
    {prepared : PreparedSnapshot} {summary : RemotePublishSummary}
    (prepares : request.prepare platform store = .ok (archives, some prepared))
    (wellFormed : WellFormedFor platform (archives ++ [prepared]) files)
    (ran : (publishPrepared platform config store archives (some prepared)).run platform.host
      outcomes files = (some (.ok summary), left, later))
    (settled : request.Settled platform config store later) :
    ∀ snapshot ∈ archives, StaysArchived platform config files archives prepared snapshot := by
  have sound := RemoteRequest.prepare_sound prepares
  rw [Option.toList_some] at sound
  have completes := Ensures.ends ran (ensures_publishPrepared store sound wellFormed.referenced)
  have retained := completes.2 prepared summary rfl rfl
  obtain ⟨aftermath, _⟩ :=
    Ensures.ends ran (ensures_publishPrepared_aftermath store archives prepared files)
  rw [RemoteRequest.Settled, program_of_prepares prepares] at settled
  obtain ⟨again, attains, idle⟩ := settled
  intro snapshot member
  have present := (ensures_publishPrepared_present store archives prepared later).attained
    attains idle.archives snapshot member
  have stock := stocked_of_prepares prepares wellFormed snapshot
    (List.mem_append_left _ member)
  exact (archives_iff_staysArchived stock retained aftermath.pointers).mp present

/-- What a completed publication leaves is left unchanged by the same publication exactly where
every archive of the batch stays. -/
theorem publication_settles_iff (platform : RemotePlatform) (config : PublishConfig)
    (store : SnapshotFiles) (request : RemoteRequest) (outcomes left : List RemoteOutcome)
    (files later : RemoteFiles) (archives : List PreparedSnapshot) (prepared : PreparedSnapshot)
    (summary : RemotePublishSummary)
    (prepares : request.prepare platform store = .ok (archives, some prepared))
    (wellFormed : WellFormedFor platform (archives ++ [prepared]) files)
    (ran : (request.program platform store config).run platform.host outcomes files =
      (some (.ok summary), left, later)) :
    request.Settled platform config store later ↔ ∀ snapshot ∈ archives,
      StaysArchived platform config files archives prepared snapshot := by
  have program : request.program platform store config =
      publishPrepared platform config store archives (some prepared) :=
    program_of_prepares prepares
  rw [program] at ran
  constructor
  · exact stays_of_settled prepares wellFormed ran
  · intro stays
    have sound := RemoteRequest.prepare_sound prepares
    have made := RemoteRequest.prepare_prepared prepares
    rw [Option.toList_some] at sound made
    have completes := Ensures.ends ran (ensures_publishPrepared store sound wellFormed.referenced)
    have retained := completes.2 prepared summary rfl rfl
    obtain ⟨aftermath, enabled, laid, free⟩ :=
      Ensures.ends ran (ensures_publishPrepared_aftermath store archives prepared files)
    obtain ⟨stored, finalMade⟩ := made prepared (List.mem_append_right _ List.mem_cons_self)
    rw [RemoteRequest.Settled, program]
    exact succeeds_publishPrepared store enabled free (supplied_of_stays sound
      (stocked_of_prepares prepares wellFormed) (prepareStored_digest finalMade) wellFormed
      completes.1 laid aftermath retained stays)

/-! ## A backlog of four days -/

/-- What a manifest of the store of the first day says. -/
theorem firstDayFiles_manifest {path : RemotePath} (isManifest : IsManifest path) {content : Text}
    (found : firstDayFiles.content path = some content) :
    path = ⟨.manifests, (shiftPublication 0).prepared.archiveName⟩ ∧
      content = (shiftPublication 0).prepared.manifestContent := by
  obtain ⟨entry, held, rfl⟩ := Option.map_eq_some_iff.mp found
  rcases firstDayFiles_entry held with ⟨rfl, _⟩ | ⟨rfl, rfl⟩
  · rcases isManifest with ⟨directory, _⟩ | ⟨pointer, same⟩
    · cases directory
    · cases same
  · exact ⟨rfl, rfl⟩

/-- The days are prepared soundly. -/
theorem shift_sound (day : Fin 4) : (shiftPublication day).prepared.Sound shiftHost :=
  prepareStored_sound (shiftPublication day).prepares

/-- The archive of the first day names its object, which the store holds. -/
theorem referenced_firstDayFiles : Referenced shiftHost firstDayFiles := by
  intro path isManifest content found
  obtain ⟨rfl, rfl⟩ := firstDayFiles_manifest isManifest found
  intro name named
  rw [(shift_sound 0).named] at named
  rw [← Option.some.inj named]
  refine ⟨(shift_sound 0).object, ?_⟩
  have held : firstDayFiles.content ⟨.objects, (shiftManifest 0).objectName⟩ =
      some (shiftRequest 0).content := by
    show ((Dict.empty.set _ _ : Dict String RemoteEntry).get? _).map _ = _
    rw [Dict.get?_set, if_pos rfl]
    rfl
  exact Option.isSome_of_mem held

/-- The store of the first day is ready for a publication. -/
theorem ready_firstDayFiles : firstDayFiles.Ready shiftHost := by
  refine ⟨?_, rfl, ?_, referenced_firstDayFiles⟩
  · intro directory
    cases directory <;> rfl
  intro path entry _ found
  rcases firstDayFiles_entry found with ⟨rfl, rfl⟩ | ⟨rfl, rfl⟩
  · have digest : shiftHost.sha256Text (shiftRequest 0).content =
        stem (shiftManifest 0).objectName := (stem_objectNameOf (shiftRequest 0).digest).symm
    refine ⟨rfl, fun _ => ⟨(shift_sound 0).object, digest⟩, ?_, ?_⟩
    · intro pointer same
      cases same
    · rintro (⟨same, _⟩ | ⟨pointer, same⟩) <;> cases same
  · have digest : shiftHost.sha256Text (shiftPublication 0).prepared.manifestContent =
        stem (shiftPublication 0).prepared.archiveName := (stem_objectNameOf _).symm
    refine ⟨rfl, fun _ => ⟨(shift_sound 0).archive, digest⟩, ?_, ?_⟩
    · intro pointer same
      cases same
    · exact fun _ => Option.isSome_of_mem (shift_record 0)

/-- Days are told apart by the digests of their manifests. -/
theorem shift_digest_injective {first second : Fin 4}
    (same : (shiftPublication first).prepared.manifestDigest =
      (shiftPublication second).prepared.manifestDigest) : first = second := by
  apply shiftDigest_injective 'a'
  have digests : shiftHost.sha256Text (manifestText (shiftManifest first).fields) =
    shiftHost.sha256Text (manifestText (shiftManifest second).fields) := same
  rw [shiftManifest_digest, shiftManifest_digest] at digests
  exact congrArg objectNameOf digests

/-- The store of the first day is well formed for every backlog. -/
theorem wellFormed_firstDayFiles (days : List (Fin 4)) : WellFormedFor shiftHost
    (shiftPrepared days ++ [(shiftPublication 3).prepared]) firstDayFiles := by
  refine ⟨referenced_firstDayFiles, ?_, ?_⟩
  · intro name content form found
    have isManifest : IsManifest ⟨.manifests, name⟩ := Or.inl ⟨rfl, form⟩
    obtain ⟨same, rfl⟩ := firstDayFiles_manifest isManifest found
    have named : name = (shiftPublication 0).prepared.archiveName :=
      congrArg RemotePath.name same
    rw [named]
    exact (stem_objectNameOf _).symm
  · intro snapshot member path isManifest content found digest
    obtain ⟨day, rfl⟩ := exists_of_mem_shiftPrepared member
    rw [(firstDayFiles_manifest isManifest found).2] at digest ⊢
    have own : (shiftPublication 0).prepared.manifestDigest =
        shiftHost.sha256Text (shiftPublication 0).prepared.manifestContent := rfl
    rw [shift_digest_injective (own.trans digest)]

/-- A backlog is published completely. -/
theorem shift_completes {files : RemoteFiles} (ready : files.Ready shiftHost)
    {days : List (Fin 4)} (sorted : days.Pairwise (· < ·)) (before : ∀ day ∈ days, day < 3) :
    ∃ count summary later, ((shiftBacklog days).program shiftHost shiftFiles dashboardConfig).run
      shiftHost.host (List.replicate count .success) files = (some (.ok summary), [], later) := by
  have requested : (shiftBacklog days).Ready shiftHost shiftFiles := by
    refine ⟨⟨fun _ _ _ => rfl, fun _ _ _ => rfl, fun _ _ _ => rfl⟩, _, _,
      shift_prepares sorted before, ?_⟩
    intro snapshot member
    obtain ⟨day, rfl⟩ := exists_of_mem_shiftPrepared member
    exact ⟨Option.isSome_of_mem (shift_record day), false, rfl⟩
  have completing : ∃ summary later, Succeeds shiftHost
      ((shiftBacklog days).program shiftHost shiftFiles dashboardConfig) files summary later ∧
        later.Ready shiftHost := succeeds_request rfl ready requested
  obtain ⟨summary, later, attains, _⟩ := completing
  obtain ⟨count, ran⟩ := attains.run
  exact ⟨count, summary, later, ran⟩

/-- An archive in stock behind a backlog is that of a day. -/
theorem exists_of_stocked {days : List (Fin 4)} {name : String} {content : Text}
    (held : stocked firstDayFiles (shiftPrepared days ++ [(shiftPublication 3).prepared]) name =
      some content) : ∃ day, content = (shiftPublication day).prepared.manifestContent := by
  rw [stocked] at held
  split_ifs at held with form
  rcases Option.or_eq_some_iff.mp held with found | ⟨_, requested⟩
  · have isManifest : IsManifest ⟨.manifests, name⟩ := Or.inl ⟨rfl, form⟩
    exact ⟨0, (firstDayFiles_manifest isManifest found).2⟩
  · obtain ⟨snapshot, first, rfl⟩ := Option.map_eq_some_iff.mp requested
    obtain ⟨day, rfl⟩ := exists_of_mem_shiftPrepared (List.mem_of_find?_eq_some first)
    exact ⟨day, rfl⟩

/-- Few days are behind the second and the third one. -/
theorem shift_stays {day : Fin 4} (late : 0 < day) : StaysArchived shiftHost dashboardConfig
    firstDayFiles (shiftPrepared [1, 2]) (shiftPublication 3).prepared
      (shiftPublication day).prepared := by
  refine ⟨shiftRecord day, shift_record day, Or.inl ?_⟩
  have below : {other | other ∈ Archived shiftHost (stocked firstDayFiles
      (shiftPrepared [1, 2] ++ [(shiftPublication 3).prepared])) ∧
        (shiftRecord day).key < other.key} ⊆ shiftRecord '' {other | 1 < other} := by
    rintro record ⟨⟨name, content, held, described⟩, above⟩
    obtain ⟨other, rfl⟩ := exists_of_stocked held
    rw [shift_record] at described
    obtain rfl := Option.some.inj described
    refine ⟨other, ?_, rfl⟩
    have differs : day ≠ other := fun same => lt_irrefl _ (same ▸ above)
    have times : (86400 : Int) * (day.val + 1) ≤ 86400 * (other.val + 1) :=
      Prod.Lex.monotone_fst _ _ above.le
    have values : day.val ≠ other.val := fun same => differs (Fin.ext same)
    have positive : 0 < day.val := late
    show 1 < other.val
    omega
  have two : (shiftRecord '' {other | 1 < other}).encard = 2 := by
    rw [shiftRecord_injective.encard_image]
    have days : ({other : Fin 4 | 1 < other} : Set (Fin 4)) =
        ((Finset.univ.filter fun other : Fin 4 => 1 < other : Finset (Fin 4)) : Set (Fin 4)) := by
      ext other
      simp
    rw [days, Set.encard_coe_eq_coe_finsetCard]
    rfl
  apply (Set.encard_le_encard below).trans_lt
  rw [two]
  exact Nat.ofNat_lt_cast.mpr (by decide)

/-- The days behind the first one are published. -/
theorem mem_shiftPrepared {day : Fin 4} (late : 0 < day) :
    (shiftPublication day).prepared ∈ shiftPrepared [1, 2] ++ [(shiftPublication 3).prepared] := by
  have listed : day ∈ ([1, 2, 3] : List (Fin 4)) := by
    revert day
    decide
  exact List.mem_map_of_mem (f := LocalPublication.prepared)
    (List.mem_map_of_mem (f := shiftPublication) listed)

/-- Two days are published to a store that holds the first one, which retention removes: the same
batch settles. -/
theorem publication_settles_shift : ∃ count summary later,
    ((shiftBacklog [1, 2]).program shiftHost shiftFiles dashboardConfig).run shiftHost.host
      (List.replicate count .success) firstDayFiles = (some (.ok summary), [], later) ∧
    (shiftBacklog [1, 2]).Settled shiftHost dashboardConfig shiftFiles later := by
  have prepares := @shift_prepares [1, 2] (by decide) (by decide)
  obtain ⟨count, summary, later, ran⟩ :=
    @shift_completes _ ready_firstDayFiles [1, 2] (by decide) (by decide)
  have holds := publication_settles_iff shiftHost dashboardConfig shiftFiles (shiftBacklog [1, 2])
    _ [] firstDayFiles later _ _ summary prepares (wellFormed_firstDayFiles [1, 2]) ran
  refine ⟨count, summary, later, ran, holds.mpr fun snapshot member => ?_⟩
  obtain ⟨publication, inside, rfl⟩ := List.mem_map.mp member
  obtain ⟨day, listed, rfl⟩ := List.mem_map.mp inside
  have late : ∀ day ∈ ([1, 2] : List (Fin 4)), 0 < day := by decide
  exact shift_stays (late day listed)

/-! ## A backlog beyond retention -/

theorem mem_shiftBatch (day : Fin 4) : (shiftPublication day).prepared ∈ shiftBatch := by
  have listed : day ∈ ([0, 1, 2, 3] : List (Fin 4)) := by
    revert day
    decide
  exact List.mem_map_of_mem (f := LocalPublication.prepared)
    (List.mem_map_of_mem (f := shiftPublication) listed)

theorem shift_wellFormed : WellFormedFor shiftHost shiftBatch dashboardFiles :=
  ⟨fun _ _ _ found => (by cases found), fun _ _ _ found => (by cases found),
    fun _ _ _ _ _ found => (by cases found)⟩

/-- A day leaves a store without pointers behind three later days in stock. -/
theorem shift_leaves {files : RemoteFiles} {archives : List PreparedSnapshot}
    (unpointed : ∀ pointer, files.pointers pointer = none)
    (stock : ∀ day : Fin 4, 0 < day → ∃ name,
      stocked files (archives ++ [(shiftPublication 3).prepared]) name =
        some (shiftPublication day).prepared.manifestContent) :
    ¬ StaysArchived shiftHost dashboardConfig files archives (shiftPublication 3).prepared
      (shiftPublication 0).prepared := by
  rintro ⟨record, described, kept⟩
  rw [shift_record] at described
  obtain rfl := Option.some.inj described
  rcases kept with recent | ⟨pointer, content, pointed, digest⟩
  · have above : shiftRecord '' {day | 0 < day} ⊆ {other | other ∈ Archived shiftHost
        (stocked files (archives ++ [(shiftPublication 3).prepared])) ∧
          (shiftRecord 0).key < other.key} := by
      rintro _ ⟨day, behind, rfl⟩
      obtain ⟨name, held⟩ := stock day behind
      refine ⟨⟨name, _, held, shift_record day⟩, ?_⟩
      apply Prod.Lex.toLex_lt_toLex.mpr
      left
      have later : 0 < day.val := behind
      show (86400 : Int) * (0 + 1) < 86400 * (day.val + 1)
      omega
    have three : (shiftRecord '' {day | 0 < day}).encard = 3 := by
      rw [shiftRecord_injective.encard_image]
      have days : ({day : Fin 4 | 0 < day} : Set (Fin 4)) =
          ((Finset.univ.filter fun day : Fin 4 => 0 < day : Finset (Fin 4)) : Set (Fin 4)) := by
        ext day
        simp
      rw [days, Set.encard_coe_eq_coe_finsetCard]
      rfl
    have few := (Set.encard_le_encard above).trans_lt recent
    rw [three] at few
    exact lt_irrefl _ few
  · have switched : pointersBehind shiftHost (shiftPublication 3).prepared files.pointers =
        switchedPointers (shiftPublication 3).prepared files.pointers := by
      apply if_neg
      rw [unpointed]
      intro same
      cases same
    have manifest : content = (shiftPublication 3).prepared.manifestContent := by
      rw [switched] at pointed
      cases pointer with
      | current => exact (Option.some.inj pointed).symm
      | previous =>
        rw [switchedPointers, unpointed, unpointed] at pointed
        cases pointed
      | lastKnownGood =>
        have held : (files.pointers .lastKnownGood).or
            (some (shiftPublication 3).prepared.manifestContent) = some content := pointed
        rw [unpointed] at held
        exact (Option.some.inj held).symm
    rw [manifest] at digest
    have same : (3 : Fin 4) = 0 := shift_digest_injective digest
    cases same

/-- Retention removes the archive of the first day, and the same batch publishes it again. -/
theorem publication_unsettled_shift : ∃ count summary later,
    (shiftRequests.program shiftHost shiftFiles dashboardConfig).run shiftHost.host
      (List.replicate count .success) dashboardFiles = (some (.ok summary), [], later) ∧
    WellFormedFor shiftHost shiftBatch dashboardFiles ∧
    ¬ shiftRequests.Settled shiftHost dashboardConfig shiftFiles later := by
  have ready : dashboardFiles.Ready shiftHost :=
    ⟨fun _ => rfl, rfl, fun _ _ _ found => (by cases found), fun _ _ _ found => (by cases found)⟩
  have prepares := @shift_prepares [0, 1, 2] (by decide) (by decide)
  obtain ⟨count, summary, later, ran⟩ :=
    @shift_completes _ ready [0, 1, 2] (by decide) (by decide)
  refine ⟨count, summary, later, ran, shift_wellFormed, ?_⟩
  intro settled
  rw [program_of_prepares prepares] at ran
  have stays := stays_of_settled prepares shift_wellFormed ran settled
  apply @shift_leaves dashboardFiles shiftArchives (fun _ => rfl) ?_ (stays _ List.mem_cons_self)
  intro day _
  exact ⟨_, stocked_of_prepares prepares shift_wellFormed _ (mem_shiftBatch day)⟩

end DTLab
