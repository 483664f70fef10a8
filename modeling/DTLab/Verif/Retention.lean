import DTLab.Remote.Inventory
import DTLab.Remote.Uploads
import DTLab.Verif.CommitReports

/-!
# What a publication leaves

No manifest of the remote store names a missing object before any command of a publication, nor
behind it. What is in stock behind the uploads is cut down to the archives that a pointer references
and the most recent ones, and to the objects that they and the pointers name.
-/

namespace DTLab

open Library (Json Text Dict Program)
open Library.Program (Ensures Uses Reads Ends OnlyRaises ensures_bind ensures_handle
  ensures_attempt ensures_lift reads_lift reads_forEach)

variable {platform : RemotePlatform} {config : PublishConfig}

/-! ## Removals -/

/-- Of the archives in stock, a store has those that a pointer references and the most recent
ones, and the objects that they and the pointers name. -/
structure Retained (platform : RemotePlatform) (retention : Nat) (stock : String → Option Text)
    (files : RemoteFiles) : Prop where
  archives : ∀ name content, files.archives name = some content ↔
    stock name = some content ∧ ∃ record, manifestRecord platform content = some record ∧
      (PointedAt platform files record.digest ∨
        MostRecent retention (Archived platform stock) record)
  objects : ∀ name, files.Has name ↔ ∃ path content, IsManifest path ∧
    files.content path = some content ∧ namedObject platform content = some name

/-- What retention leaves of a store, whose archives have the names of contents. -/
structure Pruned (platform : RemotePlatform) (config : PublishConfig)
    (before later : RemoteFiles) : Prop where
  referenced : Referenced platform later
  retained : Retained platform config.remoteRetention before.archives later
  named : ∀ name, (before.archives name).isSome → isObjectName name = true

namespace RetentionInventory.Faithful

variable {inventory : RetentionInventory} {files later : RemoteFiles}
  (faithful : inventory.Faithful platform files) (retention : Nat)

include faithful

/-- No manifest is among the objects that are removed. -/
theorem not_mem_objectDeletions {path : RemotePath} (other : path.directory ≠ .objects) :
    path ∉ inventory.objectDeletions retention :=
  fun removed => other ((faithful.objectPaths path).mp (List.mem_of_mem_filter removed)).1

/-- No object is among the manifests that are removed. -/
theorem not_mem_manifestDeletions {path : RemotePath} (other : path.directory ≠ .manifests) :
    path ∉ inventory.manifestDeletions retention :=
  fun removed => other ((faithful.archivePaths path).mp (List.mem_of_mem_filter removed)).1

/-- References are kept behind the removal of some of the manifests. -/
theorem referenced_manifests (referenced : Referenced platform files) {gone : List RemotePath}
    (some_ : gone ⊆ inventory.manifestDeletions retention) (removed : Removed gone files later) :
    Referenced platform later := by
  apply referenced.removed_manifests removed
  intro path member objects
  have directory :=
    ((faithful.archivePaths path).mp (List.mem_of_mem_filter (some_ member))).1
  rw [directory] at objects
  cases objects

/-- References are kept behind the removal of some of the objects as well. -/
theorem referenced_objects {middle : RemoteFiles} (referenced : Referenced platform middle)
    (manifests : Removed (inventory.manifestDeletions retention) files middle)
    {gone : List RemotePath} (some_ : gone ⊆ inventory.objectDeletions retention)
    (removed : Removed gone middle later) : Referenced platform later := by
  apply referenced.removed removed
  intro path isManifest content found name named member
  have unkept := of_decide_eq_true (List.mem_filter.mp (some_ member)).2
  apply unkept
  rw [removed path] at found
  split_ifs at found
  rw [manifests path] at found
  split_ifs at found with deleted
  exact (faithful.mem_keptObjects retention name).mpr
    ⟨path, content, isManifest, deleted, found, named⟩

/-- What is left where everything is removed that is not kept. -/
theorem retained (referenced : Referenced platform files)
    (removed : Removed (inventory.manifestDeletions retention ++
      inventory.objectDeletions retention) files later) :
    Retained platform retention files.archives later := by
  have manifest : ∀ path : RemotePath, path.directory ≠ .objects → later.content path =
      if path ∈ inventory.manifestDeletions retention then none else files.content path := by
    intro path other
    rw [removed path]
    simp only [List.mem_append, faithful.not_mem_objectDeletions retention other, or_false]
  have pointed : ∀ digest, PointedAt platform later digest ↔ PointedAt platform files digest := by
    intro digest
    have same : ∀ pointer, later.content (pointerPath pointer) =
        files.content (pointerPath pointer) := by
      intro pointer
      have notObject : RemoteDirectory.pointer pointer ≠ .objects := by simp
      have notArchive : RemoteDirectory.pointer pointer ≠ .manifests := by simp
      rw [manifest _ notObject, if_neg (faithful.not_mem_manifestDeletions retention notArchive)]
    simp only [PointedAt, same]
  constructor
  · intro name content
    have notObject : (⟨.manifests, name⟩ : RemotePath).directory ≠ .objects := by simp
    rw [RemoteFiles.archives, manifest _ notObject]
    by_cases found : files.content ⟨.manifests, name⟩ = some content
    · have listed : (⟨.manifests, name⟩ : RemotePath) ∈ inventory.archivePaths :=
        (faithful.archivePaths _).mpr ⟨rfl, Option.isSome_of_mem found⟩
      obtain ⟨record, member, describes⟩ := faithful.archives _ listed
      have decided := faithful.mem_manifestDeletions retention listed describes
      rw [faithful.mem_keptDigests retention member] at decided
      obtain ⟨content', found', described⟩ := describes
      rw [← Option.some.inj (found.symm.trans found')] at described
      by_cases deleted : ⟨.manifests, name⟩ ∈ inventory.manifestDeletions retention
      · rw [if_pos deleted]
        refine iff_of_false (by simp) ?_
        rintro ⟨_, other, also, kept⟩
        rw [described] at also
        rw [← Option.some.inj also, pointed] at kept
        exact decided.mp deleted kept
      · rw [if_neg deleted]
        refine iff_of_true found ⟨found, record, described, ?_⟩
        rw [pointed]
        exact not_not.mp fun unkept => deleted (decided.mpr unkept)
    · refine iff_of_false ?_ fun holds => found holds.1
      intro kept
      split_ifs at kept
      exact found kept
  · intro name
    constructor
    · intro has
      by_cases gone : ⟨.objects, name⟩ ∈ inventory.manifestDeletions retention ++
          inventory.objectDeletions retention
      · rw [RemoteFiles.Has, removed _, if_pos gone] at has
        cases has
      rw [RemoteFiles.Has, removed _, if_neg gone] at has
      have listed : (⟨.objects, name⟩ : RemotePath) ∈ inventory.objectPaths :=
        (faithful.objectPaths _).mpr ⟨rfl, has⟩
      have kept : name ∈ inventory.keptObjects retention := by
        by_contra unkept
        apply gone
        apply List.mem_append_right
        exact List.mem_filter.mpr ⟨listed, decide_eq_true unkept⟩
      obtain ⟨path, content, isManifest, undeleted, found, named⟩ :=
        (faithful.mem_keptObjects retention name).mp kept
      refine ⟨path, content, isManifest, ?_, named⟩
      rw [manifest path isManifest.not_objects, if_neg undeleted]
      exact found
    · rintro ⟨path, content, isManifest, found, named⟩
      rw [manifest path isManifest.not_objects] at found
      split_ifs at found with deleted
      have present := referenced path isManifest content found name named
      have kept : name ∈ inventory.keptObjects retention :=
        (faithful.mem_keptObjects retention name).mpr
          ⟨path, content, isManifest, deleted, found, named⟩
      have notArchive : (⟨.objects, name⟩ : RemotePath).directory ≠ .manifests := by simp
      have stays : (⟨.objects, name⟩ : RemotePath) ∉ inventory.manifestDeletions retention ++
          inventory.objectDeletions retention := by
        intro member
        rcases List.mem_append.mp member with archive | object
        · exact faithful.not_mem_manifestDeletions retention notArchive archive
        · exact of_decide_eq_true (List.mem_filter.mp object).2 kept
      rw [RemoteFiles.Has, removed _, if_neg stays]
      exact present.2

end RetentionInventory.Faithful

/-- A removal of paths any of which may be gone keeps references. -/
theorem ensures_removed {paths : List RemotePath} {files : RemoteFiles}
    (keeps : ∀ gone later, gone ⊆ paths → Removed gone files later → Referenced platform later) :
    (Program.forEach (fun path => removeExactVerified config path (stem path.name)) paths).Ensures
      platform.host (Referenced platform)
      (Ends (fun _ later => Referenced platform later ∧ Removed paths files later)
        fun _ => Referenced platform) files := by
  apply (ensures_removals (fun path => stem path.name) paths files).mono
  · rintro later ⟨gone, among, removed⟩
    exact keeps gone later among removed
  · intro result later ends
    cases result with
    | ok _ => exact ⟨keeps paths later (List.Subset.refl paths) ends, ends⟩
    | error fault =>
      obtain ⟨gone, among, removed⟩ := ends
      exact keeps gone later among removed

/-- Manifests are removed, and behind them the objects that none of those left names. -/
theorem ensures_applyRetention {inventory : RetentionInventory} {files : RemoteFiles}
    (faithful : inventory.Faithful platform files) (referenced : Referenced platform files) :
    (applyRetention config inventory).Ensures platform.host (Referenced platform)
      (Ends (fun _ => Pruned platform config files) fun _ => Referenced platform) files := by
  let retention := config.remoteRetention
  have manifests : ∀ gone later, gone ⊆ inventory.manifestDeletions retention →
      Removed gone files later → Referenced platform later :=
    fun gone later among removed => faithful.referenced_manifests retention referenced among removed
  apply Ensures.bind (ensures_removed manifests)
  · intro _ middle ends
    obtain ⟨kept, removed⟩ := ends
    have objects : ∀ gone later, gone ⊆ inventory.objectDeletions retention →
        Removed gone middle later → Referenced platform later :=
      fun gone later among objects =>
        faithful.referenced_objects retention kept removed among objects
    have verified : Program.Reads platform.host
        (if inventory.objectDeletions retention = [] then .returned ()
          else verifyUnchanged config inventory) middle fun _ => True := by
      split_ifs
      · exact Program.reads_returned trivial
      · exact Quiet.reads
          (quiet_verifyUnchanged (fun _ harmless => harmless.inert) inventory) middle
    apply Ensures.afterReading verified kept fun _ => kept
    intro _ _
    apply Ensures.bind (ensures_removed objects)
    · intro _ later ends
      obtain ⟨kept, also⟩ := ends
      refine ⟨kept, faithful.retained retention referenced (removed.trans also), ?_⟩
      intro name present
      exact faithful.archiveNames ⟨.manifests, name⟩ ((faithful.archivePaths _).mpr ⟨rfl, present⟩)
    · exact fun _ _ kept => kept
  · exact fun _ _ kept => kept

/-- Retention prunes the store. -/
theorem ensures_pruneCommitted_pruned {files : RemoteFiles}
    (referenced : Referenced platform files) :
    (pruneCommitted platform config).Ensures platform.host (Referenced platform)
      (Ends (fun _ => Pruned platform config files) fun _ => Referenced platform) files := by
  have pruned : (pruneRemoteLocked platform config).Ensures platform.host (Referenced platform)
      (Ends (fun _ => Pruned platform config files) fun _ => Referenced platform) files := by
    apply Ensures.afterReading (reads_readInventory files) referenced fun _ => referenced
    intro inventory faithful
    exact ensures_applyRetention faithful referenced
  apply ensures_handle.mpr
  apply pruned.weaken
  intro result later ends
  cases result with
  | ok _ => exact ends
  | error fault => cases fault <;> exact ends

/-! ## The whole publication -/

/-- What a publication with a snapshot that becomes current ensures under the lock. -/
theorem ensures_publishLocked_retained (store : SnapshotFiles) {archives : List PreparedSnapshot}
    {prepared : PreparedSnapshot}
    (sound : ∀ snapshot ∈ archives ++ [prepared], snapshot.Sound platform) {files : RemoteFiles}
    (referenced : Referenced platform files) :
    (publishLocked platform config store archives (some prepared)).Ensures platform.host
      (Referenced platform)
      (Ends (fun _ later => Referenced platform later ∧
          Retained platform config.remoteRetention (stocked files (archives ++ [prepared])) later)
        fun _ => Referenced platform) files := by
  have members : ∀ snapshot ∈ archives, snapshot ∈ archives ++ [prepared] :=
    fun snapshot member => List.mem_append_left _ member
  have final : prepared ∈ archives ++ [prepared] := List.mem_append_right _ List.mem_cons_self
  apply Ensures.afterReading (reads_verifiedSnapshotPresence (archives ++ [prepared]) files)
    referenced fun _ => referenced
  intro presence reflects
  have stocking : Stocking platform files [] (archives ++ [prepared]) presence files := by
    refine ⟨referenced, fun name form => ?_, reflects⟩
    simp [stocked, form]
  refine Ensures.bind (ensures_ensureArchives sound members stocking) ?_ fun _ _ kept => kept
  rintro ⟨present, published, uploaded⟩ stored stocking
  dsimp only
  refine Ensures.bind (ensures_ensureImmutableLocked sound final stocking) ?_ fun _ _ kept => kept
  rintro ⟨_, archiveAdded, objectAdded⟩ added ⟨stocking, has⟩
  dsimp only
  have anchored := (sound prepared final).anchored has
  refine Ensures.bind (advances_commitCurrentLocked stocking.referenced anchored) ?_
    fun _ _ kept => kept
  intro updated committed advanced
  refine Ensures.bind (ensures_pruneCommitted_pruned advanced.referenced) ?_ fun _ _ kept => kept
  intro _ later pruned
  refine ⟨pruned.referenced, ?_⟩
  have stock : committed.archives = stocked files (archives ++ [prepared]) := by
    funext name
    by_cases form : isObjectName name = true
    · rw [advanced.archives name form, stocking.archives name form]
    · rw [stocked, if_neg form, ← Option.not_isSome_iff_eq_none]
      exact fun present => form (pruned.named name present)
  rw [← stock]
  exact pruned.retained

/-- What a publication without a snapshot that becomes current ensures under the lock. -/
theorem ensures_publishLocked_referenced (store : SnapshotFiles) {archives : List PreparedSnapshot}
    (sound : ∀ snapshot ∈ archives, snapshot.Sound platform) {files : RemoteFiles}
    (referenced : Referenced platform files) :
    (publishLocked platform config store archives none).Ensures platform.host (Referenced platform)
      (fun _ => Referenced platform) files := by
  apply Ensures.afterReading (reads_verifiedSnapshotPresence (archives ++ []) files) referenced
    fun _ => referenced
  intro presence reflects
  rw [List.append_nil] at reflects
  have stocking : Stocking platform files [] archives presence files := by
    refine ⟨referenced, fun name form => ?_, reflects⟩
    simp [stocked, form]
  refine Ensures.bind (ensures_ensureArchives sound (fun _ member => member) stocking) ?_
    fun _ _ kept => kept
  rintro ⟨present, published, uploaded⟩ stored stocking
  exact stocking.referenced

/-- What is said of the contents of a store holds where they are the same. -/
theorem Referenced.congr {before later : RemoteFiles} (referenced : Referenced platform before)
    (same : later.content = before.content) : Referenced platform later :=
  referenced.alike fun path _ => congrFun same path

theorem Retained.congr {retention : Nat} {stock : String → Option Text}
    {before later : RemoteFiles} (retained : Retained platform retention stock before)
    (same : later.content = before.content) : Retained platform retention stock later := by
  constructor
  · intro name content
    have kept := retained.archives name content
    simp only [RemoteFiles.archives, PointedAt, same] at kept ⊢
    exact kept
  · intro name
    have kept := retained.objects name
    simp only [RemoteFiles.Has, same] at kept ⊢
    exact kept

/-- The release of the lock leaves every content, and returns what was published. -/
theorem ensures_releaseLock_contents {α : Type} (published : Except RemoteFault α)
    (files : RemoteFiles) :
    (releaseLock config published).Ensures platform.host
      (fun later => later.content = files.content)
      (fun result later => later.content = files.content ∧
        ∀ summary, result = .ok summary → published = .ok summary) files := by
  have quiet : Quiet (RemoteCommand.removeLock = ·) (RemoteCommand.removeLock.probe config) :=
    quiet_probe rfl
  have removed : (RemoteCommand.removeLock.probe config).Ensures platform.host
      (fun later => later.content = files.content)
      (fun _ later => later.content = files.content) files := by
    have kept := quiet.ensures platform.host (fun later => later.content = files.content) ?_ rfl
    · exact kept.weaken fun _ _ holds => holds.2
    · rintro command rfl outcome before same
      rw [← same]
      funext path
      have spares : RemoteCommand.removeLock.Spares path := trivial
      exact spares.respond _ outcome before
  cases published with
  | error fault =>
    cases fault with
    | publish message committed =>
      apply ensures_bind.mpr
      apply ensures_attempt.mpr
      exact removed.weaken fun _ _ same => ⟨same, nofun⟩
    | storage => exact ⟨rfl, nofun⟩
    | lookup => exact ⟨rfl, nofun⟩
    | limits => exact ⟨rfl, nofun⟩
  | ok summary =>
    apply ensures_bind.mpr
    apply ensures_attempt.mpr
    apply removed.weaken
    intro result later same
    rcases result with fault | (_ | answer)
    · exact ⟨same, nofun⟩
    · exact ⟨same, nofun⟩
    · refine ⟨same, fun other returned => ?_⟩
      rw [Except.ok.inj returned]

/-- What a publication ensures: references are kept, and where it completes with a snapshot that
becomes current, what retention leaves. -/
def Completes (platform : RemotePlatform) (config : PublishConfig) (files : RemoteFiles)
    (archives : List PreparedSnapshot) (current : Option PreparedSnapshot)
    (result : Except RemoteFault RemotePublishSummary) (later : RemoteFiles) : Prop :=
  Referenced platform later ∧
    ∀ prepared summary, current = some prepared → result = .ok summary →
      Retained platform config.remoteRetention (stocked files (archives ++ [prepared])) later

/-- The archives in stock are the same in stores that look alike. -/
theorem stocked_alike {before later : RemoteFiles} (alike : Alike before later)
    (requested : List PreparedSnapshot) : stocked later requested = stocked before requested := by
  funext name
  rw [stocked, stocked]
  split_ifs with form
  · have same : later.archives name = before.archives name :=
      alike _ (visible_of_isObjectName form)
    rw [same]
  · rfl

/-- A publication under the lock. -/
theorem ensures_publishLocked_completes (store : SnapshotFiles) {archives : List PreparedSnapshot}
    {current : Option PreparedSnapshot}
    (sound : ∀ snapshot ∈ archives ++ current.toList, snapshot.Sound platform)
    {files : RemoteFiles} (referenced : Referenced platform files) :
    (publishLocked platform config store archives current).Ensures platform.host
      (Referenced platform) (Completes platform config files archives current) files := by
  cases current with
  | none =>
    rw [Option.toList_none, List.append_nil] at sound
    apply (ensures_publishLocked_referenced store sound referenced).weaken
    exact fun _ _ kept => ⟨kept, nofun⟩
  | some prepared =>
    apply (ensures_publishLocked_retained store sound referenced).weaken
    intro result later ends
    cases result with
    | error fault => exact ⟨ends, nofun⟩
    | ok summary =>
      refine ⟨ends.1, fun other _ same _ => ?_⟩
      rw [← Option.some.inj same]
      exact ends.2

/-- A publication with its lock. -/
theorem ensures_publishPrepared (store : SnapshotFiles) {archives : List PreparedSnapshot}
    {current : Option PreparedSnapshot}
    (sound : ∀ snapshot ∈ archives ++ current.toList, snapshot.Sound platform)
    {files : RemoteFiles} (referenced : Referenced platform files) :
    (publishPrepared platform config store archives current).Ensures platform.host
      (Referenced platform) (Completes platform config files archives current) files := by
  have quiet : Quiet RemoteCommand.Hidden (acquireLock config) :=
    quiet_acquireLock (fun _ harmless => harmless.inert.hidden) (fun _ _ _ => trivial) fun _ _ =>
      trivial
  have acquired : (acquireLock config).Ensures platform.host (Referenced platform)
      (fun _ => Alike files) files :=
    (quiet.alike files).mono (fun _ alike => referenced.alike alike) fun _ _ alike => alike
  apply Ensures.bind acquired
  · intro _ locked alike
    apply ensures_bind.mpr
    apply ensures_attempt.mpr
    apply (ensures_publishLocked_completes store sound (referenced.alike alike)).weaken
    intro result done completes
    apply (ensures_releaseLock_contents result done).mono
    · exact fun later same => completes.1.congr same
    · intro ended later released
      refine ⟨completes.1.congr released.1, fun prepared summary current_eq returned => ?_⟩
      have retained := completes.2 prepared summary current_eq (released.2 summary returned)
      rw [stocked_alike alike] at retained
      exact retained.congr released.1
  · exact fun fault later alike => ⟨referenced.alike alike, nofun⟩

/-! ## Every run -/

theorem referenced_dashboardFiles : Referenced dashboard dashboardFiles := by
  intro path isManifest content found
  cases found

end DTLab
