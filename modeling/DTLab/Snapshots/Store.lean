import DTLab.Snapshots.Manifest
import Mathlib.Logic.Function.Basic

/-!
# The snapshot store

`AtomicSnapshotStore`: the files that it reads and writes, loading, and publication as a run that
does one file operation a step. Each file is replaced atomically; a run that is not continued is
an interrupted publication.
-/

namespace DTLab

open Library (Json Text Dict)
open Library.Json (loads loads_line dumps)

/-- `_POINTER_NAMES`. -/
inductive SnapshotPointer where
  | current
  | lastKnownGood
  | previous
  deriving DecidableEq

/-- The name of a pointer. -/
def SnapshotPointer.text : SnapshotPointer → String
  | current => "current"
  | lastKnownGood => "last_known_good"
  | previous => "previous"

/-- The files of a store: `objects`, `manifests`, and the manifest of each pointer. -/
structure SnapshotFiles where
  objects : Dict String Text
  manifests : Dict String Text
  pointers : SnapshotPointer → Option Text

/-- A store without files. -/
def SnapshotFiles.empty : SnapshotFiles := ⟨.empty, .empty, fun _ => none⟩

/-- `StoredSnapshot`, without its label. -/
structure StoredSnapshot where
  snapshot : Json
  manifest : ManifestFields

/-! ## Loading -/

/-- The bytes of a text. -/
def byteLength (content : Text) : Nat := (String.ofList content).utf8ByteSize

/-- A member of a manifest that is a number of bytes. -/
def isByteLength (length : Nat) : Json → Bool
  | .int n => decide (n = length)
  | _ => false

namespace SnapshotFiles

variable (platform : SnapshotPlatform) (files : SnapshotFiles)

/-- `_read_manifest`. -/
def readManifest (pointer : SnapshotPointer) : Except SnapshotFault ManifestFields :=
  match files.pointers pointer with
  | none => .error (.store ("Pointer '" ++ pointer.text ++ "' non disponibile"))
  | some content => decodeManifest platform pointer.text content

/-- `_load_manifest`. -/
def loadManifest (manifest : ManifestFields) (pointer : String) :
    Except SnapshotFault StoredSnapshot :=
  match files.objects.get? (platform.str (getField "object_name" manifest)) with
  | none => .error (.store ("Oggetto del pointer '" ++ pointer ++ "' non disponibile"))
  | some content =>
    if ¬ isByteLength (byteLength content) (getField "byte_length" manifest) then
      .error (.store ("Dimensione oggetto '" ++ pointer ++ "' non valida"))
    else if ¬ isText (platform.sha256Text content) (getField "sha256" manifest) then
      .error (.store ("Hash oggetto '" ++ pointer ++ "' non valido"))
    else
      match loads platform.rounding content with
      | none => .error (.store ("Snapshot '" ++ pointer ++ "' non valido"))
      | some snapshot =>
        if ¬ platform.valid snapshot then
          .error (.store ("Snapshot '" ++ pointer ++ "' non valido"))
        else do
          let snapshotId ← requireMember "snapshot_id" snapshot
          if snapshotId.dumps false ≠ (getField "snapshot_id" manifest).dumps false then
            .error (.store ("Snapshot ID del pointer '" ++ pointer ++ "' non coerente"))
          else .ok ⟨snapshot, manifest⟩

/-- `load`. -/
def load (pointer : SnapshotPointer) : Except SnapshotFault StoredSnapshot := do
  let manifest ← files.readManifest platform pointer
  files.loadManifest platform manifest pointer.text

/-- `_read_archived_manifest`. -/
def readArchivedManifest (name : String) : Except SnapshotFault ManifestFields :=
  match files.manifests.get? name with
  | none => .error (.store "Manifest archiviato non disponibile")
  | some content =>
    if objectNameOf (platform.sha256Text content) ≠ name then
      .error (.store "Hash manifest archiviato non valido")
    else decodeManifest platform name content

/-- `load_archive`. -/
def loadArchive (name : String) : Except SnapshotFault StoredSnapshot :=
  if isObjectName name then do
    let manifest ← files.readArchivedManifest platform name
    files.loadManifest platform manifest ("archive:" ++ name)
  else .error (.store "Nome manifest archiviato non valido")

/-- The loop of `load_best_available`. -/
def loadFirst (errors : List String) :
    List SnapshotPointer → Except SnapshotFault StoredSnapshot
  | [] => .error (.store ("Nessuno snapshot valido disponibile: " ++ "; ".intercalate errors))
  | pointer :: pointers =>
    match files.load platform pointer with
    | .ok stored => .ok stored
    | .error (.store message) => loadFirst (errors ++ [message]) pointers
    | .error fault => .error fault

/-- `load_best_available`. -/
def loadBestAvailable : Except SnapshotFault StoredSnapshot :=
  files.loadFirst platform [] [.current, .lastKnownGood, .previous]

/-- `_write_pointer`. -/
def writePointer (pointer : SnapshotPointer) (manifest : ManifestFields) : SnapshotFiles :=
  { files with pointers := Function.update files.pointers pointer (some (manifestText manifest)) }

end SnapshotFiles

/-! ## Publication -/

/-- The arguments of `publish`: a snapshot that reads back as it was written, and the time of the
publication, if it has a zone. -/
structure PublishRequest (platform : SnapshotPlatform) where
  snapshot : Json
  storable : Storable platform.rounding snapshot
  publishedAt : Option String

variable {platform : SnapshotPlatform}

namespace PublishRequest

variable (request : PublishRequest platform)

/-- `canonical_bytes`. -/
def content : Text := dumps false request.snapshot ++ ['\n']

/-- `snapshot_sha256`. -/
def digest : String := platform.sha256Text request.content

/-- A member of `sync`. -/
def sync (key : String) : Except SnapshotFault Json := do
  let sync ← requireMember "sync" request.snapshot
  requireMember key sync

/-- The manifest of a publication. -/
def manifest : Except SnapshotFault SnapshotManifest := do
  let contractVersion ← requireMember "schema_version" request.snapshot
  let snapshotId ← requireMember "snapshot_id" request.snapshot
  match request.publishedAt with
  | none => .error (.store "published_at deve includere il fuso orario")
  | some publishedAt => do
    let collectorVersion ← request.sync "collector_version"
    .ok {
      contractVersion := contractVersion
      snapshotId := snapshotId
      sha256 := request.digest
      byteLength := byteLength request.content
      publishedAt := publishedAt
      collectorVersion := collectorVersion }

/-- The checks in front of the first file operation. -/
def check (allowDemo : Bool) : Except SnapshotFault Unit :=
  if ¬ platform.valid request.snapshot then .error .contract
  else do
    let mode ← request.sync "publication_mode"
    if ¬ allowDemo ∧ ¬ isText "real_only" mode then
      .error (.store "Lo store operativo accetta solo publication_mode=real_only")
    else .ok ()

end PublishRequest

/-- A publication between two file operations. -/
inductive PublishRun where
  /-- The object is next. -/
  | storing
  /-- The archived manifest is next. -/
  | archiving
  /-- The pointer `previous` is next. -/
  | preceding (manifest : SnapshotManifest)
  /-- The pointer `current` is next. -/
  | switching (manifest : SnapshotManifest)
  /-- The pointer `last_known_good` is next. -/
  | keeping (manifest : SnapshotManifest)
  | returned (manifest : SnapshotManifest)
  | raised (fault : SnapshotFault)

/-- What a read that may miss returns: nothing in place of a `SnapshotStoreError`. -/
def suppressStore {α : Type} : Except SnapshotFault α → Except SnapshotFault (Option α)
  | .ok value => .ok (some value)
  | .error (.store _) => .ok none
  | .error fault => .error fault

/-- A file is written where it is missing, and else it must have the content. -/
def ensureFile (directory : Dict String Text) (name : String) (content : Text)
    (message : String) : Except SnapshotFault (Dict String Text) :=
  match directory.get? name with
  | some existing =>
    if existing = content then .ok directory else .error (.store message)
  | none => .ok (directory.set name content)

/-- The next file operation of a publication. -/
def PublishRun.step (allowDemo : Bool) (request : PublishRequest platform)
    (files : SnapshotFiles) : PublishRun → PublishRun × SnapshotFiles
  | .storing =>
    let stored := do
      request.check allowDemo
      ensureFile files.objects (objectNameOf request.digest) request.content
        "Collisione hash o oggetto esistente corrotto"
    match stored with
    | .error fault => (.raised fault, files)
    | .ok objects => (.archiving, { files with objects := objects })
  | .archiving =>
    let archived := do
      let manifest ← request.manifest
      let content := manifestText manifest.fields
      let manifests ← ensureFile files.manifests
        (objectNameOf (platform.sha256Text content)) content
        "Manifest immutabile esistente con contenuto diverso"
      Except.ok (manifest, manifests)
    match archived with
    | .error fault => (.raised fault, files)
    | .ok (manifest, manifests) => (.preceding manifest, { files with manifests := manifests })
  | .preceding manifest =>
    match suppressStore (files.readManifest platform .current) with
    | .error fault => (.raised fault, files)
    | .ok none => (.switching manifest, files)
    | .ok (some before) =>
      if isText manifest.sha256 (getField "sha256" before) then (.switching manifest, files)
      else (.switching manifest, files.writePointer .previous before)
  | .switching manifest => (.keeping manifest, files.writePointer .current manifest.fields)
  | .keeping manifest =>
    let found := do
      let kept ← suppressStore (files.load platform .lastKnownGood)
      let state ← request.sync "state"
      Except.ok (isText "fresh" state || kept.isNone)
    match found with
    | .error fault => (.raised fault, files)
    | .ok true => (.returned manifest, files.writePointer .lastKnownGood manifest.fields)
    | .ok false => (.returned manifest, files)
  | .returned manifest => (.returned manifest, files)
  | .raised fault => (.raised fault, files)

/-- `publish`: the file operations one after the other. -/
def SnapshotFiles.publish (allowDemo : Bool) (files : SnapshotFiles)
    (request : PublishRequest platform) : PublishRun × SnapshotFiles :=
  (fun state : PublishRun × SnapshotFiles => state.1.step allowDemo request state.2)^[5]
    (.storing, files)

end DTLab
