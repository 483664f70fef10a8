import DTLab.Remote.Commands
import Mathlib.Data.Prod.Lex
import Mathlib.Data.String.Basic

/-!
# The remote publisher

`RemoteSnapshotPublisher`: immutable objects and archived manifests are uploaded first, the
pointers are switched behind them, and what no pointer and no recent manifest needs is removed at
the end. Every function issues its commands in the order of the source.
-/

namespace DTLab

open Library (Json Text Dict Program)
open Library.Json (loads dumps)
open Library.Program (lift)
open RemoteCommand (ask probe perform)

/-- What the publisher takes from its surroundings, beyond what the snapshot store takes. -/
structure RemotePlatform extends SnapshotPlatform where
  /-- `fromisoformat` behind the replacement of `Z`, and `astimezone(UTC)`. -/
  parseTime : String → ParsedTime
  /-- `json.loads` gives up on a text: it is nested too deeply for the stack, or has an integer of
  more digits than `int` takes. -/
  exceedsLimits : Text → Bool
  /-- The random part of the temporary name for a destination. -/
  token : RemotePath → String
  /-- A float that was read is written as it is read again. -/
  rounding_rounding : ∀ literal, rounding (rounding literal) = rounding literal

/-- The names of the remote pointers, in the order in which retention reads them. -/
def remotePointers : List SnapshotPointer := [.current, .previous, .lastKnownGood]

/-- The manifest of a remote pointer. -/
def pointerPath (pointer : SnapshotPointer) : RemotePath := ⟨.pointer pointer, "manifest.json"⟩

/-- `_PreparedSnapshot`. -/
structure PreparedSnapshot where
  snapshot : Json
  manifest : ManifestFields
  manifestContent : Text
  manifestDigest : String

/-- `_RemoteManifest`. -/
structure RemoteManifest where
  digest : String
  objectName : String
  publishedAt : Int
  deriving DecidableEq

/-- The order of manifests: by time and digest. -/
def RemoteManifest.key (manifest : RemoteManifest) : Int ×ₗ String :=
  toLex (manifest.publishedAt, manifest.digest)

/-- `_RemoteSnapshotPresence`. -/
structure RemoteSnapshotPresence where
  objects : List String
  archives : List String

/-- `RemotePublishSummary`. -/
structure RemotePublishSummary where
  archivesRequested : Nat
  archivesPublished : Nat
  archivesAlreadyPresent : Nat
  objectsUploaded : Nat
  currentArchivePublished : Nat
  currentArchiveAlreadyPresent : Nat
  currentUpdated : Nat
  manifestsDeleted : Nat
  objectsDeleted : Nat

/-! ## Names -/

/-- `name.removesuffix(".json")`. -/
def stem (name : String) : String :=
  if ".json".toList.isSuffixOf name.toList then String.ofList (name.toList.take (name.length - 5))
  else name

/-- Slices of a list, `size` items each. -/
def chunks {α : Type} (size : Nat) : List α → List (List α)
  | [] => []
  | item :: items => (item :: items.take (size - 1)) :: chunks size (items.drop (size - 1))
termination_by items => items.length
decreasing_by rw [List.length_drop, List.length_cons]; omega

/-- `_REMOTE_READ_BATCH`. -/
def remoteReadBatch : Nat := 96

/-- A check that raises where it fails. -/
def require (condition : Bool) (fault : RemoteFault) : Except RemoteFault Unit :=
  if condition then .ok () else .error fault

section Publisher

variable (platform : RemotePlatform) (config : PublishConfig)

/-! ## Reading -/

/-- `_remote_file_exists`. -/
def remoteFileExists (path : RemotePath) : RemoteProgram Bool := do
  match ← (RemoteCommand.testFile path).probe config with
  | some present => .returned present
  | none => .raised (refused "Verifica presenza file remoto non riuscita.")

/-- `_remote_sha256_required`. -/
def remoteSha256Required (path : RemotePath) : RemoteProgram String := do
  match ← (RemoteCommand.hashes [path]).ask config with
  | [(_, digest)] => .returned digest
  | _ => .raised (refused "Risposta hash remota non valida.")

/-- `_remote_hashes_required`. -/
def remoteHashesRequired (paths : List RemotePath) : RemoteProgram (List (RemotePath × String)) :=
  if paths.Nodup then
    Program.accumulate (fun observed batch => do
      let lines ← (RemoteCommand.hashes batch).ask config
      .returned (observed ++ lines)) [] (chunks remoteReadBatch paths)
  else .raised (refused "Elenco file remoto ambiguo.")

/-- `_remote_contents_required`. -/
def remoteContentsRequired (paths : List RemotePath) :
    RemoteProgram (List (RemotePath × Text)) :=
  if paths.Nodup then
    Program.accumulate (fun observed batch => do
      let records ← (RemoteCommand.contents batch).ask config
      .returned (observed ++ records)) [] (chunks remoteReadBatch paths)
  else .raised (refused "Elenco file remoto ambiguo.")

/-- `_remote_entries`. -/
def remoteEntries (directory : RemoteDirectory) : RemoteProgram (List (String × Bool)) :=
  (RemoteCommand.list directory).ask config

/-- The name of the object of a prepared snapshot. -/
def PreparedSnapshot.objectName (prepared : PreparedSnapshot) : String :=
  platform.str (getField "object_name" prepared.manifest)

/-- The digest of the object of a prepared snapshot. -/
def PreparedSnapshot.objectDigest (prepared : PreparedSnapshot) : String :=
  platform.str (getField "sha256" prepared.manifest)

/-- The name of the archive of a prepared snapshot. -/
def PreparedSnapshot.archiveName (prepared : PreparedSnapshot) : String :=
  objectNameOf prepared.manifestDigest

/-- The objects and the archives that prepared snapshots need, with their digests. -/
def expectedFiles (snapshots : List PreparedSnapshot) :
    Except RemoteFault (Dict String String × Dict String String) :=
  snapshots.foldlM (fun (objects, archives) prepared =>
    let objectName := prepared.objectName platform
    let objectDigest := prepared.objectDigest platform
    if ¬ isObjectName objectName ∨ objectName ≠ objectNameOf objectDigest ∨
        ¬ isObjectName prepared.archiveName then
      .error (refused "Snapshot locale con nomi contenuto non validi.")
    else if (objects.get? objectName).getD objectDigest ≠ objectDigest then
      .error (refused "Snapshot locali con oggetto remoto ambiguo.")
    else .ok (objects.set objectName objectDigest,
      archives.set prepared.archiveName prepared.manifestDigest))
    (.empty, .empty)

/-- The files that are needed and present, which must be regular ones. -/
def relevantFiles (expected : Dict String String) (entries : List (String × Bool))
    (message : String) : Except RemoteFault (List String) :=
  let relevant := expected.keys.filter fun name => (entries.lookup name).isSome
  if relevant.any fun name => entries.lookup name = some true then .error (refused message)
  else .ok relevant

/-- Every file that is needed and present has the digest that is expected. -/
def checkFiles (directory : RemoteDirectory) (expected : Dict String String)
    (observed : List (RemotePath × String)) (names : List String) (message : String) :
    Except RemoteFault Unit :=
  if names.all fun name => observed.lookup ⟨directory, name⟩ = expected.get? name then .ok ()
  else .error (refused message)

/-- `_verified_snapshot_presence`. -/
def verifiedSnapshotPresence (snapshots : List PreparedSnapshot) :
    RemoteProgram RemoteSnapshotPresence := do
  let objectEntries ← remoteEntries config .objects
  let manifestEntries ← remoteEntries config .manifests
  let (expectedObjects, expectedArchives) ← lift (expectedFiles platform snapshots)
  let objects ← lift (relevantFiles expectedObjects objectEntries
    "Oggetto remoto rilevante non regolare.")
  let archives ← lift (relevantFiles expectedArchives manifestEntries
    "Manifest remoto rilevante non regolare.")
  let observed ← remoteHashesRequired config
    (objects.map (RemotePath.mk .objects) ++ archives.map (RemotePath.mk .manifests))
  lift (checkFiles .objects expectedObjects observed objects
    "Oggetto remoto esistente con hash non valido.")
  lift (checkFiles .manifests expectedArchives observed archives
    "Manifest remoto immutabile con hash non valido.")
  .returned ⟨objects, archives⟩

/-- `_decode_remote_manifest`. It refuses a manifest with a `RemotePublishError`, but what a text
beyond the limits of the interpreter raises it does not catch. The manifest has no escape of a lone
surrogate. -/
def decodeRemoteManifest (content : Text) (digest : String) : Except RemoteFault RemoteManifest :=
  if platform.sha256Text content ≠ digest then
    .error (refused "Hash manifest remoto non valido.")
  else if platform.exceedsLimits content then .error .limits
  else
    match loads platform.rounding content with
    | some (.obj fields) =>
      if ¬ (∀ key ∈ manifestKeys, key ∈ fields.map Prod.fst) ∨
          ¬ isText "dtlab_collector" (getField "trusted_origin" fields) then
        .error (refused "JSON manifest remoto non valido.")
      else
        match getField "sha256" fields, getField "object_name" fields,
            getField "byte_length" fields, getField "snapshot_id" fields with
        | .str sha256, .str objectName, .int byteLength, .str snapshotId =>
          if ¬ isDigestBody sha256.toList ∨ objectName ≠ objectNameOf sha256 ∨ byteLength < 0 ∨
              snapshotId = "" then
            .error (refused "JSON manifest remoto non valido.")
          else
            match platform.parseTime (platform.str (getField "published_at" fields)) with
            | .invalid => .error (refused "Timestamp manifest remoto non valido.")
            | .naive => .error (refused "Timestamp manifest remoto privo di fuso orario.")
            | .outside => .error .limits
            | .instant publishedAt => .ok ⟨digest, objectName, publishedAt⟩
        | _, _, _, _ => .error (refused "JSON manifest remoto non valido.")
    | _ => .error (refused "JSON manifest remoto non valido.")

/-! ## Writing -/

/-- `_chown`. -/
def chownPath (path : RemotePath) : RemoteProgram Unit :=
  if config.manageOwnership then (RemoteCommand.chown path).ask config else .returned ()

/-- `_remove_exact_verified`. -/
def removeExactVerified (path : RemotePath) (expected : String) : RemoteProgram Unit := do
  match ← (RemoteCommand.testLink path).probe config with
  | none => .raised (refused "Verifica symlink remota non riuscita.")
  | some true => .raised (refused "Rimozione remota rifiutata per symlink.")
  | some false =>
    let digest ← remoteSha256Required config path
    lift (require (digest = expected) (refused "File remoto cambiato durante la retention."))
    (RemoteCommand.remove path).ask config

/-- The temporary path next to a destination. -/
def temporaryPath (destination : RemotePath) : RemotePath :=
  ⟨destination.directory, "." ++ destination.name ++ "." ++ platform.token destination ++ ".tmp"⟩

/-- `rm -f` of a temporary file, which may fail. -/
def discard (temporary : RemotePath) : RemoteProgram Unit := do
  let _ ← (RemoteCommand.removeForce temporary).probe config
  .returned ()

/-- `_commit_file`. -/
def commitFile (source : Option Text) (destination : RemotePath) (expected : String) :
    RemoteProgram Unit :=
  let temporary := temporaryPath platform destination
  Program.andFinally (do
    (RemoteCommand.upload source temporary).ask config
    let digest ← remoteSha256Required config temporary
    lift (require (digest = expected) (refused "Hash upload remoto non valido."))
    chownPath config temporary
    (RemoteCommand.chmod temporary).ask config
    (RemoteCommand.move temporary destination).ask config)
    (discard config temporary)

/-- `_commit_bytes`. -/
def commitBytes (content : Text) (destination : RemotePath) (expected : String) :
    RemoteProgram Unit := do
  RemoteCommand.createTemporary.perform
  Program.andFinally (do
    RemoteCommand.writeTemporary.perform
    commitFile platform config (some content) destination expected)
    RemoteCommand.unlinkTemporary.perform

/-- `_ensure_immutable_locked`: what is present behind it, and whether the archive and the object
were missing. -/
def ensureImmutableLocked (store : SnapshotFiles) (prepared : PreparedSnapshot)
    (presence : RemoteSnapshotPresence) : RemoteProgram (RemoteSnapshotPresence × Bool × Bool) := do
  let objectName := prepared.objectName platform
  let objectPresent := decide (objectName ∈ presence.objects)
  let archivePresent := decide (prepared.archiveName ∈ presence.archives)
  (if objectPresent then .returned ()
    else commitFile platform config (store.objects.get? objectName) ⟨.objects, objectName⟩
      (prepared.objectDigest platform))
  (if archivePresent then .returned ()
    else commitBytes platform config prepared.manifestContent ⟨.manifests, prepared.archiveName⟩
      prepared.manifestDigest)
  .returned (
    { objects := if objectPresent then presence.objects else presence.objects ++ [objectName]
      archives := if archivePresent then presence.archives
        else presence.archives ++ [prepared.archiveName] },
    !archivePresent, !objectPresent)

/-- The current manifest becomes the previous one. -/
def keepPrevious : RemoteProgram Unit :=
  let temporary : RemotePath :=
    ⟨.pointer .previous, ".manifest.previous." ++ platform.token (pointerPath .previous) ++ ".tmp"⟩
  Program.andFinally (do
    (RemoteCommand.copy (pointerPath .current) temporary).ask config
    chownPath config temporary
    (RemoteCommand.chmod temporary).ask config
    (RemoteCommand.move temporary (pointerPath .previous)).ask config)
    (discard config temporary)

/-- `prepared.stored.snapshot["sync"]["state"] == "fresh"`. -/
def PreparedSnapshot.isFresh (prepared : PreparedSnapshot) : Except RemoteFault Bool :=
  match (requireMember "sync" prepared.snapshot).bind (requireMember "state") with
  | .ok state => .ok (isText "fresh" state)
  | .error _ => .error .lookup

/-- The pointer `last_known_good` is switched where the snapshot is fresh or there was none. -/
def keepLastKnownGood (prepared : PreparedSnapshot) : RemoteProgram Unit := do
  let exists_ ← remoteFileExists config (pointerPath .lastKnownGood)
  let fresh ← lift prepared.isFresh
  if fresh ∨ ¬ exists_ then
    commitBytes platform config prepared.manifestContent (pointerPath .lastKnownGood)
      prepared.manifestDigest
  else .returned ()

/-- The pointer `current` is switched; whether this happened is unknown where it raises. -/
def switchCurrent (prepared : PreparedSnapshot) : RemoteProgram Unit :=
  Program.handle
    (commitBytes platform config prepared.manifestContent (pointerPath .current)
      prepared.manifestDigest)
    fun fault => match fault with
      | .publish _ _ =>
        .raised (.publish "Commit del manifest current non determinabile." none)
      | other => .raised other

/-- The pointer `current` is read behind its switch. -/
def verifyCurrent (prepared : PreparedSnapshot) : RemoteProgram Unit := do
  let digest ← remoteSha256Required config (pointerPath .current)
  lift (require (digest = prepared.manifestDigest)
    (.publish "Manifest current committato ma verifica finale non riuscita." (some true)))

/-- The pointers other than `current` are switched, and `current` behind them. -/
def switchPointers (prepared : PreparedSnapshot) : RemoteProgram Nat := do
  keepLastKnownGood platform config prepared
  switchCurrent platform config prepared
  verifyCurrent config prepared
  .returned 1

/-- `_commit_current_locked`. -/
def commitCurrentLocked (prepared : PreparedSnapshot) : RemoteProgram Nat := do
  if ← remoteFileExists config (pointerPath .current) then
    let digest ← remoteSha256Required config (pointerPath .current)
    if digest = prepared.manifestDigest then .returned 0
    else do
      keepPrevious platform config
      switchPointers platform config prepared
  else switchPointers platform config prepared

/-- `_ensure_remote_layout`. -/
def ensureRemoteLayout : RemoteProgram Unit :=
  let directories : List RemoteDirectory :=
    [.root, .objects, .manifests, .pointer .current, .pointer .previous, .pointer .lastKnownGood]
  if config.manageOwnership then do
    (RemoteCommand.makeDirectories directories).ask config
    (RemoteCommand.chownDirectories directories).ask config
  else
    Program.forEach (fun directory => do
      match ← (RemoteCommand.testDirectory directory).probe config with
      | some true => .returned ()
      | _ =>
        .raised (refused "Directory remota non predisposta per il publisher non-root.")) directories

/-! ## Retention -/

/-- The entries of a directory of immutable files are regular ones with names of contents. -/
def checkEntries (label : String) (entries : List (String × Bool)) : Except RemoteFault Unit :=
  if entries.any Prod.snd then
    .error (refused ("Retention rifiutata: " ++ label ++ " remoto non regolare."))
  else if entries.any fun entry => ¬ isObjectName entry.1 then
    .error (refused ("Retention rifiutata: nome " ++ label ++ " remoto non valido."))
  else .ok ()

/-- The entries of the directory of a pointer are its regular manifest; `current` has one. -/
def checkPointerEntries (pointer : SnapshotPointer) (entries : List (String × Bool)) :
    Except RemoteFault Unit :=
  if entries.any fun entry => entry.1 ≠ "manifest.json" ∨ entry.2 then
    .error (refused ("Retention rifiutata: pointer " ++ pointer.text ++ " non regolare."))
  else if (entries.lookup "manifest.json").isNone ∧ pointer = .current then
    .error (refused "Pointer current remoto assente dopo il commit.")
  else .ok ()

/-- What retention reads of the store. -/
structure RetentionInventory where
  archivePaths : List RemotePath
  pointerPaths : List RemotePath
  pointerEntries : List (SnapshotPointer × List (String × Bool))
  manifestHashes : List (RemotePath × String)
  archives : List RemoteManifest
  pointers : List RemoteManifest
  objectPaths : List RemotePath

/-- The sorted paths of the names in a directory. -/
def sortedPaths (directory : RemoteDirectory) (entries : List (String × Bool)) :
    List RemotePath :=
  ((entries.map Prod.fst).mergeSort fun a b => decide (a ≤ b)).map (RemotePath.mk directory)

/-- The manifest of an archive, whose digest is its name. -/
def readArchive (hashes : List (RemotePath × String)) (contents : List (RemotePath × Text))
    (path : RemotePath) : Except RemoteFault RemoteManifest :=
  if hashes.lookup path ≠ some (stem path.name) then
    .error (refused "Hash archivio manifest remoto non valido.")
  else decodeRemoteManifest platform ((contents.lookup path).getD []) (stem path.name)

/-- The manifest of a pointer. -/
def readPointer (hashes : List (RemotePath × String)) (contents : List (RemotePath × Text))
    (path : RemotePath) : Except RemoteFault RemoteManifest :=
  decodeRemoteManifest platform ((contents.lookup path).getD []) ((hashes.lookup path).getD "")

/-- The first part of `_prune_remote_locked`: the store is read and checked. -/
def readInventory : RemoteProgram RetentionInventory := do
  let manifestEntries ← remoteEntries config .manifests
  let objectEntries ← remoteEntries config .objects
  lift (checkEntries "manifest" manifestEntries)
  lift (checkEntries "oggetto" objectEntries)
  let pointerEntries ← Program.accumulate (fun known pointer => do
    let entries ← remoteEntries config (.pointer pointer)
    lift (checkPointerEntries pointer entries)
    .returned (known ++ [(pointer, entries)])) [] remotePointers
  let pointerPaths := (pointerEntries.filter fun entry =>
    (entry.2.lookup "manifest.json").isSome).map fun entry => pointerPath entry.1
  let archivePaths := sortedPaths .manifests manifestEntries
  let manifestPaths := archivePaths ++ pointerPaths
  let manifestHashes ← remoteHashesRequired config manifestPaths
  let manifestContents ← remoteContentsRequired config manifestPaths
  let archives ← lift (archivePaths.mapM (readArchive platform manifestHashes manifestContents))
  let pointers ← lift (pointerPaths.mapM (readPointer platform manifestHashes manifestContents))
  let objectPaths := sortedPaths .objects objectEntries
  let objectHashes ← remoteHashesRequired config objectPaths
  lift (require (objectHashes.all fun line => line.2 = stem line.1.name)
    (refused "Hash oggetto remoto non valido."))
  lift (require ((archives ++ pointers).all fun record =>
    ⟨.objects, record.objectName⟩ ∈ objectPaths)
    (refused "Manifest remoto riferisce un oggetto assente."))
  .returned ⟨archivePaths, pointerPaths, pointerEntries, manifestHashes, archives, pointers,
    objectPaths⟩

namespace RetentionInventory

variable (inventory : RetentionInventory) (retention : Nat)

/-- The most recent archives. -/
def recent : List RemoteManifest :=
  (inventory.archives.mergeSort fun a b => decide (b.key ≤ a.key)).take retention

/-- The digests of the manifests that are kept. -/
def keptDigests : List String :=
  (inventory.recent retention).map RemoteManifest.digest ++
    inventory.pointers.map RemoteManifest.digest

/-- The names of the objects that are kept. -/
def keptObjects : List String :=
  (inventory.archives.filter fun record => record.digest ∈ inventory.keptDigests retention).map
      RemoteManifest.objectName ++
    inventory.pointers.map RemoteManifest.objectName

/-- The archives that are removed. -/
def manifestDeletions : List RemotePath :=
  inventory.archivePaths.filter fun path => stem path.name ∉ inventory.keptDigests retention

/-- The objects that are removed. -/
def objectDeletions : List RemotePath :=
  inventory.objectPaths.filter fun path => path.name ∉ inventory.keptObjects retention

/-- The archives that are kept. -/
def keptArchivePaths : List RemotePath :=
  inventory.archivePaths.filter fun path => path ∉ inventory.manifestDeletions retention

end RetentionInventory

/-- The manifests are read again before the first object is removed. -/
def verifyUnchanged (inventory : RetentionInventory) : RemoteProgram Unit := do
  let kept := inventory.keptArchivePaths config.remoteRetention
  let manifestEntries ← remoteEntries config .manifests
  lift (require (manifestEntries.isPerm (kept.map fun path => (path.name, false)))
    (refused "Manifest remoti cambiati durante la retention."))
  Program.forEach (fun known => do
    let entries ← remoteEntries config (.pointer known.1)
    lift (require (entries.isPerm known.2)
      (refused "Pointer remoto cambiato durante la retention.")))
    inventory.pointerEntries
  let hashes ← remoteHashesRequired config (kept ++ inventory.pointerPaths)
  lift (require ((kept ++ inventory.pointerPaths).all fun path =>
    hashes.lookup path = inventory.manifestHashes.lookup path)
    (refused "Manifest remoto cambiato durante la retention."))

/-- The second part of `_prune_remote_locked`: manifests are removed, and objects behind them. -/
def applyRetention (inventory : RetentionInventory) : RemoteProgram (Nat × Nat) := do
  let manifestDeletions := inventory.manifestDeletions config.remoteRetention
  let objectDeletions := inventory.objectDeletions config.remoteRetention
  Program.forEach (fun path => removeExactVerified config path (stem path.name)) manifestDeletions
  (if objectDeletions = [] then .returned () else verifyUnchanged config inventory)
  Program.forEach (fun path => removeExactVerified config path (stem path.name)) objectDeletions
  .returned (manifestDeletions.length, objectDeletions.length)

/-- `_prune_remote_locked`. -/
def pruneRemoteLocked : RemoteProgram (Nat × Nat) := do
  let inventory ← readInventory platform config
  applyRetention config inventory

/-! ## Publication -/

/-- The prepared snapshots are uploaded, with what is present and what was added. -/
def ensureArchives (store : SnapshotFiles) (archives : List PreparedSnapshot)
    (presence : RemoteSnapshotPresence) : RemoteProgram (RemoteSnapshotPresence × Nat × Nat) :=
  Program.accumulate (fun (presence, published, uploaded) prepared => do
    let (later, archiveAdded, objectAdded) ←
      ensureImmutableLocked platform config store prepared presence
    .returned (later, published + archiveAdded.toNat, uploaded + objectAdded.toNat))
    (presence, 0, 0) archives

/-- Retention behind a switch: whatever fails, the snapshot is committed. -/
def pruneCommitted : RemoteProgram (Nat × Nat) :=
  Program.handle (pruneRemoteLocked platform config) fun fault => match fault with
    | .publish _ _ =>
      .raised (.publish "Snapshot committato ma retention remota non riuscita." (some true))
    | other => .raised other

/-- What `_publish_prepared` does under the lock. -/
def publishLocked (store : SnapshotFiles) (archives : List PreparedSnapshot)
    (current : Option PreparedSnapshot) : RemoteProgram RemotePublishSummary := do
  let presence ← verifiedSnapshotPresence platform config (archives ++ current.toList)
  let (present, published, uploaded) ← ensureArchives platform config store archives presence
  match current with
  | none =>
    .returned ⟨archives.length, published, archives.length - published, uploaded, 0, 0, 0, 0, 0⟩
  | some prepared =>
    let (_, archiveAdded, objectAdded) ←
      ensureImmutableLocked platform config store prepared present
    let currentUpdated ← commitCurrentLocked platform config prepared
    let (manifestsDeleted, objectsDeleted) ← pruneCommitted platform config
    .returned ⟨archives.length, published, archives.length - published,
      uploaded + objectAdded.toNat, archiveAdded.toNat, (!archiveAdded).toNat, currentUpdated,
      manifestsDeleted, objectsDeleted⟩

/-- The first part of `_publish_prepared`: the lock is taken. -/
def acquireLock : RemoteProgram Unit := do
  lift (require config.enabled (refused "Pubblicazione remota disabilitata."))
  ensureRemoteLayout config
  match ← RemoteCommand.makeLock.probe config with
  | some _ => .returned ()
  | none =>
    .raised (refused "Un'altra pubblicazione DTLab è già in corso o il lock è bloccato.")

/-- The error of a lock that was not removed. -/
def lockNotRemoved : RemoteFault :=
  .publish "Snapshot committato ma lock remoto non rimosso." (some true)

/-- The last part of `_publish_prepared`: the lock is removed, and the error of the publication
comes before that of the lock. -/
def releaseLock {α : Type} (published : Except RemoteFault α) : RemoteProgram α := do
  match published with
  | .error (.publish message committed) =>
    let _ ← (RemoteCommand.removeLock.probe config).attempt
    .raised (.publish message committed)
  | .error other => .raised other
  | .ok summary =>
    match ← (RemoteCommand.removeLock.probe config).attempt with
    | .ok (some _) => .returned summary
    | _ => .raised lockNotRemoved

/-- `_publish_prepared`. -/
def publishPrepared (store : SnapshotFiles) (archives : List PreparedSnapshot)
    (current : Option PreparedSnapshot) : RemoteProgram RemotePublishSummary := do
  acquireLock config
  let published ← (publishLocked platform config store archives current).attempt
  releaseLock config published

end Publisher

/-! ## Requests -/

section Requests

variable (platform : RemotePlatform) (store : SnapshotFiles)

/-- `_prepare_stored`. -/
def prepareStored (stored : StoredSnapshot) : Except RemoteFault PreparedSnapshot :=
  let content := manifestText stored.manifest
  let digest := platform.sha256Text content
  match store.loadArchive platform.toSnapshotPlatform (objectNameOf digest) with
  | .error (.store _) => .error (refused "Archivio snapshot locale non valido.")
  | .error _ => .error .lookup
  | .ok verified =>
    if manifestText verified.manifest ≠ manifestText stored.manifest ∨
        dumps false verified.snapshot ≠ dumps false stored.snapshot then
      .error (refused "Snapshot locale e archivio immutabile non coerenti.")
    else .ok ⟨verified.snapshot, verified.manifest, content, digest⟩

/-- `_publication_order_key`. -/
def publicationOrderKey (prepared : PreparedSnapshot) : Except RemoteFault (Int ×ₗ String) :=
  let value := getField "published_at" prepared.manifest
  match platform.parseTime (if isFalsy value then "" else platform.str value) with
  | .invalid => .error (refused "Timestamp manifest locale non valido.")
  | .naive => .error (refused "Timestamp manifest locale privo di fuso orario.")
  | .outside => .error .limits
  | .instant publishedAt => .ok (toLex (publishedAt, prepared.manifestDigest))

/-- The local snapshot that is current must be that of a manifest. -/
def requireCurrent (manifest : ManifestFields) : Except RemoteFault StoredSnapshot :=
  match store.load platform.toSnapshotPlatform .current with
  | .error (.store _) => .error (refused "Snapshot locale corrente non valido.")
  | .error _ => .error .lookup
  | .ok stored =>
    if manifestText stored.manifest ≠ manifestText manifest then
      .error (refused "Manifest locale non corrisponde al pointer current.")
    else .ok stored

/-- The archives of a batch: each once, without the current one, in the order of publication. -/
def orderedArchives (archives : List StoredSnapshot) (current : PreparedSnapshot) :
    Except RemoteFault (List PreparedSnapshot) := do
  let unique ← archives.foldlM (fun (unique : Dict String PreparedSnapshot) stored => do
    let prepared ← prepareStored platform store stored
    if prepared.manifestDigest = current.manifestDigest ∨
        (unique.get? prepared.manifestDigest).isSome then
      .ok unique
    else .ok (unique.set prepared.manifestDigest prepared)) .empty
  let keyed ← unique.values.mapM fun prepared => do
    let key ← publicationOrderKey platform prepared
    .ok (key, prepared)
  .ok ((keyed.mergeSort fun a b => decide (a.1 ≤ b.1)).map Prod.snd)

/-- The calls of the publisher. -/
inductive RemoteRequest where
  /-- `publish_batch`. -/
  | batch (archives : List StoredSnapshot) (current : StoredSnapshot)
  /-- `publish`. -/
  | publish (manifest : ManifestFields)
  /-- `publish_stored`. -/
  | one (stored : StoredSnapshot) (commitCurrent : Bool)

/-- `publish_stored`, up to its first command. -/
def prepareOne (stored : StoredSnapshot) (commitCurrent : Bool) :
    Except RemoteFault (List PreparedSnapshot × Option PreparedSnapshot) := do
  let prepared ← prepareStored platform store stored
  if commitCurrent then
    let _ ← requireCurrent platform store stored.manifest
    .ok ([], some prepared)
  else .ok ([prepared], none)

/-- A call up to its first command: the archives and the snapshot that becomes current. -/
def RemoteRequest.prepare :
    RemoteRequest → Except RemoteFault (List PreparedSnapshot × Option PreparedSnapshot)
  | batch archives current => do
    let _ ← requireCurrent platform store current.manifest
    let prepared ← prepareStored platform store current
    let ordered ← orderedArchives platform store archives prepared
    .ok (ordered, some prepared)
  | publish manifest => do
    let stored ← requireCurrent platform store manifest
    prepareOne platform store stored true
  | one stored commitCurrent => prepareOne platform store stored commitCurrent

/-- A call. -/
def RemoteRequest.program (config : PublishConfig) (request : RemoteRequest) :
    RemoteProgram RemotePublishSummary := do
  let (archives, current) ← lift (request.prepare platform store)
  publishPrepared platform config store archives current

end Requests

end DTLab
