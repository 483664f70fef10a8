import DTLab.Verif.Aftermath
import DTLab.Verif.Backlog
import DTLab.Remote.Completion

/-!
# Every publication of ready snapshots comes to its end

On a clean store that nobody else has locked, a publication whose commands are all carried out
returns: no check of its own stands in its way, and the lock is free behind it.
-/

namespace DTLab

open Library (Json Text Dict Program)
open Library.Attempt (bind_eq_ok)
open Library.Program (Uses Attains OnlyRaises uses_lift uses_attempt uses_accumulate
  attains_returned attains_lift)

variable {platform : RemotePlatform} {config : PublishConfig} {files : RemoteFiles}

/-! ## The lock -/

/-- A command other than those of the lock. -/
@[simp] def RemoteCommand.LeavesLock (command : RemoteCommand) : Prop :=
  command ≠ .makeLock ∧ command ≠ .removeLock

/-- Whatever happens to such a command, the lock stays. -/
theorem RemoteCommand.LeavesLock.respond {command : RemoteCommand} (leaves : command.LeavesLock)
    (sha256Text : Text → String) (outcome : RemoteOutcome) (files : RemoteFiles) :
    (files.respond sha256Text outcome command).2.locked = files.locked := by
  rcases files.respond_files sha256Text outcome command with same | ⟨answer, done⟩
  · rw [same]
  by_cases inert : command.Inert
  · rw [inert.exec done]
  have stored : ∀ {before behind : RemoteFiles} {path : RemotePath} {entry : RemoteEntry},
      before.put path entry = some behind → behind.locked = before.locked := by
    intro before behind path entry put
    obtain ⟨entries, _, same⟩ := Option.map_eq_some_iff.mp put
    rw [← same]
    rfl
  have erased : ∀ path, (files.erase path).locked = files.locked := by
    intro path
    rw [RemoteFiles.erase]
    split <;> rfl
  revert answer done
  generalize (files.respond sha256Text outcome command).2 = later
  intro answer done
  cases command with
  | makeLock => exact absurd rfl leaves.1
  | removeLock => exact absurd rfl leaves.2
  | makeDirectories directories =>
    rw [← (Prod.mk.inj (Option.some.inj done)).2]
    rfl
  | upload source target =>
    obtain ⟨content, _, rest⟩ := Option.bind_eq_some_iff.mp done
    obtain ⟨behind, put, same⟩ := Option.bind_eq_some_iff.mp rest
    rw [← (Prod.mk.inj (Option.some.inj same)).2, stored put]
  | copy source target =>
    obtain ⟨content, _, rest⟩ := Option.bind_eq_some_iff.mp done
    obtain ⟨behind, put, same⟩ := Option.bind_eq_some_iff.mp rest
    rw [← (Prod.mk.inj (Option.some.inj same)).2, stored put]
  | move source target =>
    obtain ⟨entry, _, rest⟩ := Option.bind_eq_some_iff.mp done
    obtain ⟨behind, put, same⟩ := Option.bind_eq_some_iff.mp rest
    rw [← (Prod.mk.inj (Option.some.inj same)).2, stored put, erased]
  | remove target =>
    obtain ⟨_, _, same⟩ := Option.map_eq_some_iff.mp done
    rw [← (Prod.mk.inj same).2, erased]
  | removeForce target =>
    rw [← (Prod.mk.inj (Option.some.inj done)).2, erased]
  | _ => exact absurd trivial inert

/-- A program that leaves the lock to others. -/
abbrev Lockless {α : Type} (program : RemoteProgram α) : Prop :=
  program.Uses RemoteCommand.LeavesLock (OnlyRaises fun _ => True)

instance : Failures fun _ => True where
  refused _ := trivial
  limits := trivial

/-- The commands that change nothing leave the lock. -/
theorem reading_leavesLock (command : RemoteCommand) (harmless : command.Harmless) :
    command.LeavesLock := by
  constructor
  · rintro rfl
    exact harmless
  · rintro rfl
    exact harmless

/-- Whatever a program raises, it leaves the lock. -/
theorem Lockless.of_uses {α : Type} {program : RemoteProgram α}
    {after : Except RemoteFault α → Prop} (uses : program.Uses RemoteCommand.LeavesLock after) :
    Lockless program := by
  apply uses.weaken
  intro result _
  cases result <;> exact trivial

/-- A program and its handler leave the lock. -/
theorem Lockless.handle {α : Type} {program : RemoteProgram α}
    {handler : RemoteFault → RemoteProgram α} (leaves : Lockless program)
    (handles : ∀ fault, Lockless (handler fault)) : Lockless (program.handle handler) := by
  have attempted : Lockless (program.attempt : RemoteProgram (Except RemoteFault α)) :=
    uses_attempt.mpr (leaves.weaken fun _ _ => trivial)
  apply attempted.bind
  intro result
  cases result with
  | ok value => exact trivial
  | error fault => exact handles fault

/-- A local step leaves the lock. -/
theorem lockless_perform {command : RemoteCommand} (leaves : command.LeavesLock) :
    Lockless command.perform := Lockless.of_uses (quiet_perform leaves)

/-- An upload leaves the lock. -/
theorem lockless_commitFile (source : Option Text) (destination : RemotePath) (expected : String) :
    Lockless (commitFile platform config source destination expected) :=
  quiet_commitFile reading_leavesLock (by simp) (by simp) (by simp) expected

/-- So does one by way of a temporary file. -/
theorem lockless_commitBytes (content : Text) (destination : RemotePath) (expected : String) :
    Lockless (commitBytes platform config content destination expected) := by
  have created : Lockless RemoteCommand.createTemporary.perform :=
    lockless_perform (by simp)
  have written : Lockless RemoteCommand.writeTemporary.perform := lockless_perform (by simp)
  have unlinked : Lockless RemoteCommand.unlinkTemporary.perform :=
    lockless_perform (by simp)
  apply created.bind
  intro _
  apply Uses.andFinally
  · apply written.bind
    exact fun _ => lockless_commitFile _ destination expected
  · exact unlinked

/-- The upload of a snapshot leaves the lock. -/
theorem lockless_ensureImmutableLocked (store : SnapshotFiles) (prepared : PreparedSnapshot)
    (presence : RemoteSnapshotPresence) :
    Lockless (ensureImmutableLocked platform config store prepared presence) := by
  apply Uses.bind
  · split_ifs
    · exact trivial
    · exact lockless_commitFile _ _ _
  intro _
  apply Uses.bind
  · split_ifs
    · exact trivial
    · exact lockless_commitBytes _ _ _
  exact fun _ => trivial

/-- The switch of the pointers leaves the lock. -/
theorem lockless_switchPointers (prepared : PreparedSnapshot) :
    Lockless (switchPointers platform config prepared) := by
  have kept : Lockless (keepLastKnownGood platform config prepared) := by
    apply Uses.bind (quiet_remoteFileExists reading_leavesLock _)
    intro present
    apply Uses.bind (uses_lift.mpr (by cases prepared.isFresh <;> exact trivial))
    intro fresh
    split_ifs
    · exact lockless_commitBytes _ _ _
    · exact trivial
  have switched : Lockless (switchCurrent platform config prepared) := by
    apply (lockless_commitBytes _ _ _).handle
    intro fault
    cases fault <;> exact trivial
  have verified : Lockless (verifyCurrent config prepared) := by
    apply Uses.bind (quiet_remoteSha256Required reading_leavesLock _)
    intro digest
    apply uses_lift.mpr
    rw [require]
    split_ifs <;> exact trivial
  apply kept.bind
  intro _
  apply switched.bind
  intro _
  apply verified.bind
  exact fun _ => trivial

/-- The commit of a snapshot leaves the lock. -/
theorem lockless_commitCurrentLocked (prepared : PreparedSnapshot) :
    Lockless (commitCurrentLocked platform config prepared) := by
  apply Uses.bind (quiet_remoteFileExists reading_leavesLock _)
  intro present
  split_ifs
  · apply Uses.bind (quiet_remoteSha256Required reading_leavesLock _)
    intro digest
    split_ifs
    · exact trivial
    · have kept : Lockless (keepPrevious platform config) :=
        quiet_keepPrevious reading_leavesLock (by simp) (by simp) (by simp)
      exact kept.bind fun _ => lockless_switchPointers prepared
  · exact lockless_switchPointers prepared

/-- What is done under the lock leaves the lock. -/
theorem lockless_publishLocked (store : SnapshotFiles) (archives : List PreparedSnapshot)
    (current : Option PreparedSnapshot) :
    Lockless (publishLocked platform config store archives current) := by
  apply Uses.bind (quiet_verifiedSnapshotPresence reading_leavesLock _)
  intro presence
  apply Uses.bind
  · apply uses_accumulate
    intro known prepared _
    exact Uses.bind (lockless_ensureImmutableLocked store prepared _) fun _ => trivial
  intro uploaded
  cases current with
  | none => exact trivial
  | some prepared =>
    apply Uses.bind (lockless_ensureImmutableLocked store prepared _)
    intro _
    apply Uses.bind (lockless_commitCurrentLocked prepared)
    intro _
    have pruned : Lockless (pruneCommitted platform config) := by
      apply Lockless.handle
      · exact quiet_pruneRemoteLocked reading_leavesLock (by simp) fun _ _ => (by simp)
      · intro fault
        cases fault <;> exact trivial
    apply pruned.bind
    exact fun _ => trivial

/-! ## The publication -/

/-- A member that equals a text is that text. -/
theorem eq_of_isText {text : String} {value : Json} (same : isText text value = true) :
    value = .str text := by
  cases value with
  | str other => exact congrArg Json.str (beq_iff_eq.mp same)
  | _ => cases same

/-- A decoded manifest names its object by the digest of the object. -/
theorem decodeManifest_names {platform : SnapshotPlatform} {label : String} {content : Text}
    {fields : ManifestFields} (decoded : decodeManifest platform label content = .ok fields) :
    platform.str (getField "object_name" fields) =
      objectNameOf (platform.str (getField "sha256" fields)) := by
  rw [decodeManifest] at decoded
  split at decoded
  · cases decoded
  rename_i manifest read
  rw [bind_eq_ok] at decoded
  obtain ⟨present, _, decoded⟩ := decoded
  cases manifest with
  | obj members =>
    simp only at decoded
    split_ifs at decoded with complete origin form coherent
    rw [← Except.ok.inj decoded]
    rw [eq_of_isText coherent, platform.str_text]
  | _ =>
    simp only at decoded
    split_ifs at decoded

/-- An archive that loads names its object by its digest, and the object is there. -/
theorem object_of_loadArchive {platform : SnapshotPlatform} {store : SnapshotFiles} {name : String}
    {stored : StoredSnapshot} (loaded : store.loadArchive platform name = .ok stored) :
    platform.str (getField "object_name" stored.manifest) =
        objectNameOf (platform.str (getField "sha256" stored.manifest)) ∧
      ∃ content, store.objects.get? (platform.str (getField "object_name" stored.manifest)) =
          some content ∧
        platform.sha256Text content = platform.str (getField "sha256" stored.manifest) := by
  obtain ⟨text, decoded⟩ := decoded_of_loadArchive loaded
  have named := decodeManifest_names decoded
  rw [SnapshotFiles.loadArchive] at loaded
  split_ifs at loaded
  rw [bind_eq_ok] at loaded
  obtain ⟨fields, _, loaded⟩ := loaded
  rw [SnapshotFiles.loadManifest] at loaded
  split at loaded
  · cases loaded
  rename_i content found
  split_ifs at loaded with sized hashed
  split at loaded
  · cases loaded
  split_ifs at loaded
  rw [bind_eq_ok] at loaded
  obtain ⟨snapshotId, _, loaded⟩ := loaded
  split_ifs at loaded
  rw [← Except.ok.inj loaded] at named ⊢
  refine ⟨named, content, found, ?_⟩
  rw [eq_of_isText hashed, platform.str_text]

/-- The object of a snapshot that was prepared is there, under its digest. -/
theorem prepareStored_object {store : SnapshotFiles} {stored : StoredSnapshot}
    {prepared : PreparedSnapshot} (made : prepareStored platform store stored = .ok prepared) :
    prepared.objectName platform = objectNameOf (prepared.objectDigest platform) ∧
      ∃ content, store.objects.get? (prepared.objectName platform) = some content ∧
        platform.sha256Text content = prepared.objectDigest platform := by
  simp only [prepareStored] at made
  split at made
  · cases made
  · cases made
  rename_i verified loaded
  split_ifs at made
  rw [← Except.ok.inj made]
  exact object_of_loadArchive loaded

/-- A publication under the lock of snapshots that are ready completes on a clean store, and
leaves it clean. -/
theorem succeeds_underLock {store : SnapshotFiles} {archives : List PreparedSnapshot}
    {current : Option PreparedSnapshot} (laid : files.Laid) (clean : Clean platform files)
    (referenced : Referenced platform files)
    (publishable : ∀ snapshot ∈ archives ++ current.toList,
      snapshot.Publishable platform store) :
    ∃ summary later, Succeeds platform
      (publishLocked platform config store archives current) files summary later ∧
        Clean platform later := by
  have sound : ∀ snapshot ∈ archives ++ current.toList, snapshot.Sound platform :=
    fun snapshot member => (publishable snapshot member).sound
  have known : ∃ expected, expectedFiles platform (archives ++ current.toList) = .ok expected :=
    expectedFiles_of_publishable publishable
  obtain ⟨⟨objects, manifests⟩, expected⟩ := known
  have checked : ∃ presence, Succeeds platform (verifiedSnapshotPresence platform config
      (archives ++ current.toList)) files presence files ∧
        presence.Covers platform files (archives ++ current.toList) :=
    succeeds_verifiedSnapshotPresence clean laid expected
  obtain ⟨presence, verified, _⟩ := checked
  have reflects := (reads_verifiedSnapshotPresence _ files).attained verified
  have start : Stocking platform files [] (archives ++ current.toList) presence files := by
    refine ⟨referenced, fun name form => ?_, reflects⟩
    simp [stocked, form]
  have ready : ∀ snapshot ∈ archives, snapshot.Publishable platform store :=
    fun snapshot member => publishable snapshot (List.mem_append_left _ member)
  have uploading : ∃ result later, Succeeds platform
      (ensureArchives platform config store archives presence) files result later ∧
        Clean platform later := succeeds_uploads ready presence laid clean
  obtain ⟨⟨present, published, uploaded⟩, stored, uploads, storedClean⟩ := uploading
  have stocking := (ensures_ensureArchives sound
    (fun snapshot member => List.mem_append_left _ member) start).attained uploads
  have storedLaid := Attains.laid uploads laid
  cases current with
  | none =>
    exact ⟨_, stored, Attains.bind verified (Attains.bind uploads (attains_returned _)),
      storedClean⟩
  | some prepared =>
    have final : prepared ∈ archives ++ [prepared] :=
      List.mem_append_right _ List.mem_cons_self
    have last := publishable prepared final
    have adding : ∃ result later, Succeeds platform
        (ensureImmutableLocked platform config store prepared present) stored result later ∧
          Clean platform later :=
      last.succeeds_ensureImmutableLocked present storedLaid storedClean
    obtain ⟨⟨_, archiveAdded, objectAdded⟩, added, adds, addedClean⟩ := adding
    have addedLaid := Attains.laid adds storedLaid
    obtain ⟨stocks, has⟩ := (ensures_ensureImmutableLocked sound final stocking).attained adds
    have committing : ∃ updated later, Succeeds platform
        (commitCurrentLocked platform config prepared) added updated later ∧
          Tidy platform later := last.succeeds_commitCurrentLocked addedLaid addedClean
    obtain ⟨updated, committed, commits, tidy⟩ := committing
    have advanced := (advances_commitCurrentLocked stocks.referenced
      (last.sound.anchored has)).attained commits
    have retaining : ∃ removed later, Succeeds platform (pruneCommitted platform config) committed
        removed later :=
      succeeds_retention tidy (Attains.laid commits addedLaid) advanced.referenced
    obtain ⟨⟨manifestsDeleted, objectsDeleted⟩, later, prunes⟩ := retaining
    have kept : Tidy platform later ∧ later.pointers = committed.pointers :=
      (ensures_pruneCommitted_tidy committed).attained prunes
    exact ⟨_, later, Attains.bind verified (Attains.bind uploads (Attains.bind adds
      (Attains.bind commits (Attains.bind prunes (attains_returned _))))), kept.1.clean⟩

/-- A store to which publications complete: its directories exist, it is not locked, its files are
in place and can be decoded as they are read, and every manifest names an object that is there. -/
structure RemoteFiles.Ready (platform : RemotePlatform) (files : RemoteFiles) : Prop where
  laid : files.Laid
  free : files.locked = false
  clean : Clean platform files
  referenced : Referenced platform files

/-- A publication of snapshots that are ready completes on a store that is ready, and leaves it
so. -/
theorem succeeds_publication {store : SnapshotFiles} {archives : List PreparedSnapshot}
    {current : Option PreparedSnapshot} (enabled : config.enabled = true)
    (ready : files.Ready platform)
    (publishable : ∀ snapshot ∈ archives ++ current.toList,
      snapshot.Publishable platform store) :
    ∃ summary later, Succeeds platform
      (publishPrepared platform config store archives current) files summary later ∧
        later.Ready platform := by
  let locked : RemoteFiles := { files with locked := true }
  have publishing : ∃ summary later, Succeeds platform
      (publishLocked platform config store archives current) locked summary later ∧
        Clean platform later := by
    have laid : locked.Laid := ready.laid
    have clean : Clean platform locked := ready.clean
    exact succeeds_underLock laid clean ready.referenced publishable
  obtain ⟨summary, published, publishes, clean⟩ := publishing
  have leaves : Lockless (publishLocked platform config store archives current) :=
    lockless_publishLocked store archives current
  have taken : locked.locked = true := rfl
  have kept := leaves.ensures platform.host (fun later => later.locked = true)
    (fun command leaves outcome before held =>
      (leaves.respond platform.sha256Text outcome before).trans held) taken
  have held : published.locked = true := (kept.attained publishes).2
  have attains : Succeeds platform (publishPrepared platform config store archives current) files
      summary { published with locked := false } := by
    apply Attains.bind (succeeds_acquireLock enabled ready.laid ready.free)
    apply Attains.bind publishes.attempt
    exact succeeds_releaseLock summary held
  have sound : ∀ snapshot ∈ archives ++ current.toList, snapshot.Sound platform :=
    fun snapshot member => (publishable snapshot member).sound
  have completes := (ensures_publishPrepared store sound ready.referenced).attained attains
  exact ⟨summary, _, attains, Attains.laid attains ready.laid, rfl, clean, completes.1⟩

/-- Retention decodes the manifest of a prepared snapshot, and the state of its synchronisation is
there. -/
structure PreparedSnapshot.Readable (platform : RemotePlatform) (prepared : PreparedSnapshot) :
    Prop where
  decoded : (manifestRecord platform prepared.manifestContent).isSome
  fresh : ∃ fresh, prepared.isFresh = .ok fresh

/-- A snapshot that was prepared is ready where it is readable. -/
theorem publishable_of_prepareStored {store : SnapshotFiles} {stored : StoredSnapshot}
    {prepared : PreparedSnapshot} (made : prepareStored platform store stored = .ok prepared)
    (readable : prepared.Readable platform) : prepared.Publishable platform store := by
  obtain ⟨named, object⟩ := prepareStored_object made
  exact ⟨prepareStored_sound made, named, object, prepareStored_digest made, readable.decoded,
    readable.fresh⟩

/-- No file of the local store is beyond the limits of the interpreter. -/
structure SnapshotFiles.Within (platform : RemotePlatform) (store : SnapshotFiles) : Prop where
  objects : ∀ name content, store.objects.get? name = some content →
    platform.exceedsLimits content = false
  manifests : ∀ name content, store.manifests.get? name = some content →
    platform.exceedsLimits content = false
  pointers : ∀ pointer content, store.pointers pointer = some content →
    platform.exceedsLimits content = false

/-- A call that prepares snapshots that are readable, from a store that Python can read. -/
structure RemoteRequest.Ready (platform : RemotePlatform) (store : SnapshotFiles)
    (request : RemoteRequest) : Prop where
  within : store.Within platform
  prepares : ∃ archives current, request.prepare platform store = .ok (archives, current) ∧
    ∀ snapshot ∈ archives ++ current.toList, snapshot.Readable platform

/-- A call that is ready completes on a store that is ready, and leaves it so. -/
theorem succeeds_request {store : SnapshotFiles} {request : RemoteRequest}
    (enabled : config.enabled = true) (ready : files.Ready platform)
    (requested : request.Ready platform store) :
    ∃ summary later, Succeeds platform (request.program platform store config) files summary
      later ∧ later.Ready platform := by
  obtain ⟨archives, current, prepares, readable⟩ := requested.prepares
  have publishable : ∀ snapshot ∈ archives ++ current.toList,
      snapshot.Publishable platform store := by
    intro snapshot member
    obtain ⟨stored, made⟩ := RemoteRequest.prepare_prepared prepares snapshot member
    exact publishable_of_prepareStored made (readable snapshot member)
  have publishing : ∃ summary later, Succeeds platform
      (publishPrepared platform config store archives current) files summary later ∧
        later.Ready platform := succeeds_publication enabled ready publishable
  obtain ⟨summary, later, publishes, kept⟩ := publishing
  exact ⟨summary, later, Attains.bind (attains_lift prepares) publishes, kept⟩

/-- Calls, one after the other, each with the local store of its time. -/
def publishAll (platform : RemotePlatform) (config : PublishConfig) :
    List (SnapshotFiles × RemoteRequest) → RemoteProgram (List RemotePublishSummary)
  | [] => .returned []
  | (store, request) :: calls => do
    let summary ← request.program platform store config
    let summaries ← publishAll platform config calls
    .returned (summary :: summaries)

/-- Calls that are ready complete, however many there are, on a store that is ready where every
command is carried out, and leave it ready. -/
theorem publications_complete (platform : RemotePlatform) (config : PublishConfig)
    (calls : List (SnapshotFiles × RemoteRequest)) (files : RemoteFiles)
    (enabled : config.enabled = true) (ready : files.Ready platform)
    (requested : ∀ call ∈ calls, call.2.Ready platform call.1) :
    ∃ count summaries later, (publishAll platform config calls).run platform.host
      (List.replicate count .success) files = (some (.ok summaries), [], later) ∧
        summaries.length = calls.length ∧ later.Ready platform := by
  have attained : ∃ summaries later, Succeeds platform (publishAll platform config calls) files
      summaries later ∧ summaries.length = calls.length ∧ later.Ready platform := by
    induction calls generalizing files with
    | nil => exact ⟨[], files, attains_returned [], rfl, ready⟩
    | cons call calls ih =>
      obtain ⟨store, request⟩ := call
      have first : ∃ summary later, Succeeds platform (request.program platform store config) files
          summary later ∧ later.Ready platform :=
        succeeds_request enabled ready (requested (store, request) List.mem_cons_self)
      obtain ⟨summary, middle, succeeds, kept⟩ := first
      obtain ⟨summaries, later, rest, counted, left⟩ := ih middle kept
        fun other member => requested other (List.mem_cons_of_mem _ member)
      refine ⟨summary :: summaries, later, ?_, congrArg Nat.succ counted, left⟩
      exact Attains.bind succeeds (Attains.bind rest (attains_returned _))
  obtain ⟨summaries, later, attains, counted, left⟩ := attained
  obtain ⟨count, ran⟩ := attains.run
  exact ⟨count, summaries, later, ran, counted, left⟩

/-- The dashboard is ready. -/
theorem ready_dashboardFiles : dashboardFiles.Ready dashboard :=
  ⟨fun _ => rfl, rfl, fun _ _ _ found => (by cases found), referenced_dashboardFiles⟩

/-- The stale snapshot is published twice to the dashboard. -/
theorem publications_complete_dashboard : ∃ count summaries later,
    (publishAll dashboard dashboardConfig
        (List.replicate 2 (officeFiles, .publish staleManifest.fields))).run dashboard.host
      (List.replicate count .success) dashboardFiles = (some (.ok summaries), [], later) ∧
        summaries.length = 2 ∧ later.Ready dashboard := by
  have readable : stalePrepared.Readable dashboard := by
    have made : staleRequest.manifest = .ok staleManifest := rfl
    have sound : staleManifest.Sound dashboard.toSnapshotPlatform :=
      (PublishRequest.manifest_eq_ok made).1
    have identified : staleManifest.snapshotId = .str "turno" := rfl
    have parses : dashboard.parseTime staleManifest.publishedAt = .instant 0 := rfl
    exact ⟨Option.isSome_of_mem (sound.record rfl identified (by decide) parses), false, rfl⟩
  apply publications_complete dashboard dashboardConfig _ dashboardFiles rfl ready_dashboardFiles
  intro call member
  rw [List.eq_of_mem_replicate member]
  have within : officeFiles.Within dashboard :=
    ⟨fun _ _ _ => rfl, fun _ _ _ => rfl, fun _ _ _ => rfl⟩
  refine ⟨within, [], some stalePrepared, prepare_office, ?_⟩
  intro snapshot only
  rw [List.mem_singleton.mp only]
  exact readable

end DTLab
