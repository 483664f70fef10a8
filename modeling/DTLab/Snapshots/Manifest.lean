import DTLab.Library.Dict
import DTLab.Receiver.Schema
import DTLab.Spool.Event

/-!
# Manifests of the snapshot store

`_decode_manifest` and the manifest that `publish` writes. A manifest that was written reads back
as its members. SHA-256, `str` of a JSON value, the floats that `json` writes and the snapshot
contract are parameters.
-/

namespace DTLab

open Library (Json Text FloatLiteral)
open Library.Json (loads loads_line dumps)

/-- What the snapshot store takes from its surroundings. -/
structure SnapshotPlatform where
  /-- The float that `json` writes for a literal that it reads. -/
  rounding : FloatLiteral → FloatLiteral
  /-- The hexadecimal SHA-256 of a text. -/
  sha256Text : Text → String
  /-- A digest has 64 hexadecimal digits. -/
  sha256_isDigest : ∀ text, isDigestBody (sha256Text text).toList = true
  /-- `str` of a JSON value. -/
  str : Json → String
  /-- `str` of a text is the text. -/
  str_text : ∀ text, str (.str text) = text
  /-- `validate_snapshot` accepts. -/
  valid : Json → Bool

/-- What the store raises. -/
inductive SnapshotFault where
  /-- `SnapshotStoreError`. -/
  | store (message : String)
  /-- `ContractValidationError`. -/
  | contract
  /-- `KeyError` or `TypeError`. -/
  | lookup
  deriving DecidableEq

/-- `value[key]`. -/
def requireMember (key : String) : Json → Except SnapshotFault Json
  | .obj fields =>
    match fields.lookup key with
    | some value => .ok value
    | none => .error .lookup
  | _ => .error .lookup

/-- `_OBJECT_NAME.fullmatch`, which is also `_MANIFEST_NAME.fullmatch`. -/
def isObjectName (name : String) : Bool :=
  isDigestBody (name.toList.take 64) && decide (name.toList.drop 64 = ".json".toList)

/-- The name of the object of a digest. -/
def objectNameOf (digest : String) : String := digest ++ ".json"

/-- The members that `_decode_manifest` requires, sorted. -/
def manifestKeys : List String :=
  ["byte_length", "collector_version", "contract_version", "manifest_version", "object_name",
    "published_at", "sha256", "snapshot_id", "trusted_origin"]

/-- `set(manifest)`, as the texts in it; other values than dictionaries may be iterable. -/
def iteratedTexts : Json → Except SnapshotFault (List String)
  | .obj fields => .ok (fields.map Prod.fst)
  | .arr items =>
    if items.any fun item => match item with
      | .arr _ => true
      | .obj _ => true
      | _ => false
    then .error .lookup
    else .ok (items.filterMap fun item => match item with
      | .str text => some text
      | _ => none)
  | .str text => .ok (text.toList.map fun c => String.ofList [c])
  | _ => .error .lookup

/-- The members of a manifest. -/
abbrev ManifestFields := List (String × Json)

/-- `_decode_manifest`, of a text without the escape of a lone surrogate. -/
def decodeManifest (platform : SnapshotPlatform) (label : String) (content : Text) :
    Except SnapshotFault ManifestFields :=
  match loads platform.rounding content with
  | none => .error (.store ("Manifest '" ++ label ++ "' non valido"))
  | some manifest => do
    let present ← iteratedTexts manifest
    let missing := manifestKeys.filter fun key => key ∉ present
    if missing ≠ [] then
      .error (.store ("Manifest '" ++ label ++ "' incompleto: " ++ ", ".intercalate missing))
    else
      match manifest with
      | .obj fields =>
        let name := getField "object_name" fields
        if ¬ isText "dtlab_collector" (getField "trusted_origin" fields) then
          .error (.store ("Manifest '" ++ label ++ "' non proviene dal collector"))
        else if ¬ isObjectName (platform.str name) then
          .error (.store ("Manifest '" ++ label ++ "' contiene un object_name non valido"))
        else if ¬ isText (objectNameOf (platform.str (getField "sha256" fields))) name then
          .error (.store ("Manifest '" ++ label ++ "' ha puntatore/hash incoerenti"))
        else .ok fields
      | _ => .error .lookup

/-- The manifest that `publish` writes. -/
structure SnapshotManifest where
  contractVersion : Json
  snapshotId : Json
  sha256 : String
  byteLength : Nat
  publishedAt : String
  collectorVersion : Json

namespace SnapshotManifest

/-- The name of the object of a manifest. -/
def objectName (manifest : SnapshotManifest) : String := objectNameOf manifest.sha256

/-- The members of a manifest, in the order of their names. -/
def fields (manifest : SnapshotManifest) : ManifestFields :=
  [("byte_length", .int manifest.byteLength), ("collector_version", manifest.collectorVersion),
    ("contract_version", manifest.contractVersion), ("manifest_version", .str "1.0"),
    ("object_name", .str manifest.objectName), ("published_at", .str manifest.publishedAt),
    ("sha256", .str manifest.sha256), ("snapshot_id", manifest.snapshotId),
    ("trusted_origin", .str "dtlab_collector")]

end SnapshotManifest

/-- `_manifest_bytes`. -/
def manifestText (fields : ManifestFields) : Text := dumps false (.obj fields) ++ ['\n']

/-- The name of an object has the form that the store requires. -/
theorem isObjectName_objectNameOf {digest : String} (isDigest : isDigestBody digest.toList = true) :
    isObjectName (objectNameOf digest) = true := by
  have parts := isDigest
  rw [isDigestBody, Bool.and_eq_true, decide_eq_true_eq] at parts
  have chars : (objectNameOf digest).toList = digest.toList ++ ".json".toList :=
    String.toList_append
  have front : (digest.toList ++ ".json".toList).take 64 = digest.toList := by
    rw [← parts.1, List.take_left']
    rfl
  have back : (digest.toList ++ ".json".toList).drop 64 = ".json".toList := by
    rw [← parts.1, List.drop_left']
    rfl
  rw [isObjectName, chars, front, back, isDigest]
  rfl

namespace SnapshotManifest

/-- A manifest whose values read back, and whose digest is one. -/
structure Sound (platform : SnapshotPlatform) (manifest : SnapshotManifest) : Prop where
  contractVersion : Storable platform.rounding manifest.contractVersion
  snapshotId : Storable platform.rounding manifest.snapshotId
  collectorVersion : Storable platform.rounding manifest.collectorVersion
  sha256 : isDigestBody manifest.sha256.toList = true

variable {platform : SnapshotPlatform} {manifest : SnapshotManifest}

/-- The members of a manifest read back. -/
theorem Sound.storable (sound : manifest.Sound platform) :
    Storable platform.rounding (.obj manifest.fields) := by
  have sorted : (Library.Json.keys manifest.fields).Pairwise (· < ·) := by
    show manifestKeys.Pairwise (· < ·)
    decide
  apply storable_obj sorted
  simp [fields, sound.contractVersion, sound.snapshotId, sound.collectorVersion]

/-- A manifest that was written is decoded to its members. -/
theorem Sound.decode (sound : manifest.Sound platform) (label : String) :
    decodeManifest platform label (manifestText manifest.fields) = .ok manifest.fields := by
  have read : loads platform.rounding (manifestText manifest.fields) =
    some (.obj manifest.fields) :=
    loads_line false sound.storable.1 sound.storable.2
  have complete : (manifestKeys.filter fun key => key ∉ manifest.fields.map Prod.fst) = [] := by
    show (manifestKeys.filter fun key => key ∉ manifestKeys) = []
    simp
  have origin : getField "trusted_origin" manifest.fields = .str "dtlab_collector" := rfl
  have name : getField "object_name" manifest.fields = .str manifest.objectName := rfl
  have digest : getField "sha256" manifest.fields = .str manifest.sha256 := rfl
  have form : isObjectName (objectNameOf manifest.sha256) = true :=
    isObjectName_objectNameOf sound.sha256
  simp only [decodeManifest, read, iteratedTexts, bind, Except.bind, complete]
  simp [origin, name, digest, platform.str_text, form, isText, objectName]

end SnapshotManifest

end DTLab
