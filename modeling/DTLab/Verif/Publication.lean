import DTLab.Library.Attempt
import DTLab.Snapshots.Store

/-!
# Publication is crash safe

Every manifest in the store, under a pointer or archived, names an object that loads, whatever
publications were interrupted between which file operations. The pointers are a function of the
completed publications.
-/

namespace DTLab

open Library (Json Text Dict)
open Library.Json (loads loads_line dumps WellFormed WellFormedMembers FixedBy FixedMembers)
open Library.Attempt (bind_eq_ok)

variable {platform : SnapshotPlatform} {allowDemo : Bool}

/-! ## Manifests and their objects -/

/-- A member of a document that reads back does so too. -/
theorem storable_lookup {fields : List (String × Json)} {key : String} {value : Json}
    (storable : Storable platform.rounding (.obj fields))
    (found : fields.lookup key = some value) : Storable platform.rounding value := by
  obtain ⟨⟨sorted, formed⟩, fixed⟩ := storable
  clear sorted
  induction fields with
  | nil => cases found
  | cons field fields ih =>
    obtain ⟨name, first⟩ := field
    rw [List.lookup_cons] at found
    cases same : key == name with
    | true =>
      rw [same] at found
      obtain rfl := Option.some.inj found
      exact ⟨formed.1, fixed.1⟩
    | false =>
      rw [same] at found
      exact ih found fixed.2 formed.2

/-- A member of a storable document is storable. -/
theorem storable_requireMember {document value : Json} {key : String}
    (storable : Storable platform.rounding document)
    (found : requireMember key document = .ok value) : Storable platform.rounding value := by
  cases document with
  | obj fields =>
    rw [requireMember] at found
    split at found
    · rename_i found'
      obtain rfl := Except.ok.inj found
      exact storable_lookup storable found'
    · cases found
  | _ => cases found

namespace PublishRequest

variable {request : PublishRequest platform} {manifest : SnapshotManifest}

/-- The manifest of a publication is that of its snapshot. -/
theorem manifest_eq_ok (made : request.manifest = .ok manifest) :
    manifest.Sound platform ∧ manifest.sha256 = request.digest ∧
      manifest.byteLength = byteLength request.content ∧
      requireMember "snapshot_id" request.snapshot = .ok manifest.snapshotId := by
  simp only [PublishRequest.manifest, bind_eq_ok] at made
  obtain ⟨contractVersion, hasVersion, snapshotId, hasId, made⟩ := made
  split at made
  · cases made
  · rename_i publishedAt
    rw [bind_eq_ok] at made
    obtain ⟨collectorVersion, hasCollector, made⟩ := made
    obtain rfl := Except.ok.inj made
    rw [sync, bind_eq_ok] at hasCollector
    obtain ⟨sync, hasSync, hasCollector⟩ := hasCollector
    have storableSync := storable_requireMember request.storable hasSync
    refine ⟨⟨?_, ?_, ?_, platform.sha256_isDigest request.content⟩, rfl, rfl, hasId⟩
    · exact storable_requireMember request.storable hasVersion
    · exact storable_requireMember request.storable hasId
    · exact storable_requireMember storableSync hasCollector

/-- The snapshot reads back from its content. -/
theorem loads_content : loads platform.rounding request.content = some request.snapshot :=
  loads_line false request.storable.1 request.storable.2

end PublishRequest

/-- The object that a manifest names is that of a valid snapshot, whose manifest it is. -/
def SnapshotFiles.Holds (platform : SnapshotPlatform) (files : SnapshotFiles)
    (manifest : SnapshotManifest) : Prop :=
  ∃ request : PublishRequest platform, platform.valid request.snapshot = true ∧
    request.manifest = .ok manifest ∧
    files.objects.get? manifest.objectName = some request.content

namespace SnapshotFiles

variable {files later : SnapshotFiles} {manifest : SnapshotManifest}

/-- A manifest that holds is sound. -/
theorem Holds.sound (holds : files.Holds platform manifest) : manifest.Sound platform := by
  obtain ⟨request, _, made, _⟩ := holds
  exact (PublishRequest.manifest_eq_ok made).1

/-- The manifest of a publication loads where its object is stored. -/
theorem loadManifest_of_object {request : PublishRequest platform}
    (valid : platform.valid request.snapshot = true) (made : request.manifest = .ok manifest)
    (object : files.objects.get? manifest.objectName = some request.content) (label : String) :
    files.loadManifest platform manifest.fields label =
      .ok ⟨request.snapshot, manifest.fields⟩ := by
  obtain ⟨_, digest, length, hasId⟩ := PublishRequest.manifest_eq_ok made
  have name : getField "object_name" manifest.fields = .str manifest.objectName := rfl
  have isLength : isByteLength (byteLength request.content)
      (getField "byte_length" manifest.fields) = true := decide_eq_true (congrArg Int.ofNat length)
  have isDigest : isText (platform.sha256Text request.content)
      (getField "sha256" manifest.fields) = true := beq_iff_eq.mpr digest
  have isId : getField "snapshot_id" manifest.fields = manifest.snapshotId := rfl
  simp [SnapshotFiles.loadManifest, name, platform.str_text, object, isLength, isDigest,
    PublishRequest.loads_content, valid, hasId, isId, bind, Except.bind]

/-- A manifest whose object is held loads. -/
theorem Holds.loadManifest (holds : files.Holds platform manifest) (label : String) :
    ∃ stored, files.loadManifest platform manifest.fields label = .ok stored := by
  obtain ⟨request, valid, made, object⟩ := holds
  exact ⟨_, loadManifest_of_object valid made object label⟩

/-- Objects that are still there are still held. -/
theorem Holds.mono (holds : files.Holds platform manifest)
    (grown : ∀ name content, files.objects.get? name = some content →
      later.objects.get? name = some content) : later.Holds platform manifest := by
  obtain ⟨request, valid, made, object⟩ := holds
  exact ⟨request, valid, made, grown _ _ object⟩

/-- A pointer to a manifest that reads back is read. -/
theorem readManifest_of_sound (sound : manifest.Sound platform) {pointer : SnapshotPointer}
    (found : files.pointers pointer = some (manifestText manifest.fields)) :
    files.readManifest platform pointer = .ok manifest.fields := by
  rw [SnapshotFiles.readManifest, found]
  exact sound.decode pointer.text

/-- An archived manifest that reads back is read. -/
theorem readArchivedManifest_of_sound (sound : manifest.Sound platform) {name : String}
    (found : files.manifests.get? name = some (manifestText manifest.fields))
    (named : objectNameOf (platform.sha256Text (manifestText manifest.fields)) = name) :
    files.readArchivedManifest platform name = .ok manifest.fields := by
  rw [SnapshotFiles.readArchivedManifest, found]
  exact (if_neg fun differs => differs named).trans (sound.decode name)

/-- A pointer loads what the manifest that is read of it loads. -/
theorem load_of_read {pointer : SnapshotPointer} {fields : ManifestFields}
    {stored : StoredSnapshot} (read : files.readManifest platform pointer = .ok fields)
    (loaded : files.loadManifest platform fields pointer.text = .ok stored) :
    files.load platform pointer = .ok stored := by
  rw [SnapshotFiles.load, read]
  exact loaded

/-- An archive loads what the manifest that is read of it loads. -/
theorem loadArchive_of_read {name : String} {fields : ManifestFields} {stored : StoredSnapshot}
    (form : isObjectName name = true)
    (read : files.readArchivedManifest platform name = .ok fields)
    (loaded : files.loadManifest platform fields ("archive:" ++ name) = .ok stored) :
    files.loadArchive platform name = .ok stored := by
  rw [SnapshotFiles.loadArchive, if_pos form, read]
  exact loaded

/-- Every manifest under a pointer or in the archive names an object that is held. -/
structure Sound (platform : SnapshotPlatform) (files : SnapshotFiles) : Prop where
  pointers : ∀ pointer content, files.pointers pointer = some content →
    ∃ manifest, content = manifestText manifest.fields ∧ files.Holds platform manifest
  manifests : ∀ name content, files.manifests.get? name = some content →
    name = objectNameOf (platform.sha256Text content) ∧
      ∃ manifest, content = manifestText manifest.fields ∧ files.Holds platform manifest

/-- The empty store is sound. -/
theorem sound_empty : SnapshotFiles.empty.Sound platform := by
  constructor
  · intro pointer content found
    cases found
  · intro name content found
    cases found

/-- What a pointer names is read. -/
theorem Sound.readManifest (sound : files.Sound platform) {pointer : SnapshotPointer}
    {content : Text} (found : files.pointers pointer = some content) :
    ∃ manifest, content = manifestText manifest.fields ∧ files.Holds platform manifest ∧
      files.readManifest platform pointer = .ok manifest.fields := by
  obtain ⟨manifest, rfl, holds⟩ := sound.pointers pointer content found
  exact ⟨manifest, rfl, holds, readManifest_of_sound holds.sound found⟩

/-- What a pointer names loads. -/
theorem Sound.load (sound : files.Sound platform) {pointer : SnapshotPointer}
    (present : files.pointers pointer ≠ none) :
    ∃ stored, files.load platform pointer = .ok stored := by
  obtain ⟨content, found⟩ := Option.ne_none_iff_exists'.mp present
  obtain ⟨manifest, _, holds, read⟩ := sound.readManifest found
  obtain ⟨stored, loaded⟩ := holds.loadManifest pointer.text
  exact ⟨stored, load_of_read read loaded⟩

/-- A pointer that is missing is not loaded. -/
theorem load_missing {pointer : SnapshotPointer} (missing : files.pointers pointer = none) :
    files.load platform pointer =
      .error (.store ("Pointer '" ++ pointer.text ++ "' non disponibile")) := by
  rw [SnapshotFiles.load, SnapshotFiles.readManifest, missing]
  rfl

/-- What is archived loads. -/
theorem Sound.loadArchive (sound : files.Sound platform) {name : String} {content : Text}
    (found : files.manifests.get? name = some content) :
    ∃ stored, files.loadArchive platform name = .ok stored := by
  obtain ⟨rfl, manifest, rfl, holds⟩ := sound.manifests name content found
  have form := isObjectName_objectNameOf (platform.sha256_isDigest (manifestText manifest.fields))
  obtain ⟨stored, loaded⟩ := holds.loadManifest
    ("archive:" ++ objectNameOf (platform.sha256Text (manifestText manifest.fields)))
  exact ⟨stored,
    loadArchive_of_read form (readArchivedManifest_of_sound holds.sound found rfl) loaded⟩

end SnapshotFiles

/-! ## File operations -/

/-- A file that is ensured is there, and every other file is as it was. -/
theorem ensureFile_eq_ok {directory later : Dict String Text} {name message : String}
    {content : Text} (ensured : ensureFile directory name content message = .ok later) :
    later.get? name = some content ∧
      ∀ other, other ≠ name → later.get? other = directory.get? other := by
  rw [ensureFile] at ensured
  split at ensured
  · rename_i existing found
    split_ifs at ensured with same
    obtain rfl := Except.ok.inj ensured
    exact ⟨same ▸ found, fun _ _ => rfl⟩
  · obtain rfl := Except.ok.inj ensured
    constructor
    · rw [Dict.get?_set, if_pos rfl]
    · intro other different
      rw [Dict.get?_set, if_neg different]

/-- No file is lost or replaced. -/
theorem ensureFile_grows {directory later : Dict String Text} {name message : String}
    {content : Text} (ensured : ensureFile directory name content message = .ok later)
    {other : String} {present : Text} (found : directory.get? other = some present) :
    later.get? other = some present := by
  by_cases same : other = name
  · subst same
    rw [ensureFile, found] at ensured
    simp only at ensured
    split_ifs at ensured
    obtain rfl := Except.ok.inj ensured
    exact found
  · rw [(ensureFile_eq_ok ensured).2 other same]
    exact found

/-- What a publication has done when it is interrupted at a point. -/
def PublishRun.Reached (request : PublishRequest platform) (files : SnapshotFiles) :
    PublishRun → Prop
  | .storing => True
  | .archiving => platform.valid request.snapshot = true ∧
    files.objects.get? (objectNameOf request.digest) = some request.content
  | .preceding manifest => request.manifest = .ok manifest ∧ files.Holds platform manifest
  | .switching manifest => request.manifest = .ok manifest ∧ files.Holds platform manifest
  | .keeping manifest => request.manifest = .ok manifest ∧ files.Holds platform manifest
  | .returned manifest => request.manifest = .ok manifest
  | .raised _ => True

namespace SnapshotFiles

variable {files later : SnapshotFiles} {manifest : SnapshotManifest}

/-- Writing a pointer leaves the objects. -/
theorem Holds.writePointer (holds : files.Holds platform manifest) (pointer : SnapshotPointer)
    (fields : ManifestFields) : (files.writePointer pointer fields).Holds platform manifest :=
  holds.mono fun _ _ found => found

/-- A pointer may be set to a manifest whose object is held. -/
theorem Sound.writePointer (sound : files.Sound platform) (holds : files.Holds platform manifest)
    (pointer : SnapshotPointer) : (files.writePointer pointer manifest.fields).Sound platform := by
  constructor
  · intro other content found
    rw [SnapshotFiles.writePointer] at found
    by_cases same : other = pointer
    · subst same
      simp only [Function.update_self, Option.some.injEq] at found
      exact ⟨manifest, found.symm, holds.writePointer _ _⟩
    · simp only [Function.update_of_ne same] at found
      obtain ⟨named, rfl, held⟩ := sound.pointers other content found
      exact ⟨named, rfl, held.writePointer _ _⟩
  · intro name content found
    obtain ⟨rfl, named, rfl, held⟩ := sound.manifests name content found
    exact ⟨rfl, named, rfl, held.writePointer _ _⟩

/-- More objects keep the store sound. -/
theorem Sound.objects (sound : files.Sound platform) {objects : Dict String Text}
    (grown : ∀ name content, files.objects.get? name = some content →
      objects.get? name = some content) :
    ({ files with objects := objects } : SnapshotFiles).Sound platform := by
  constructor
  · intro pointer content found
    obtain ⟨named, rfl, held⟩ := sound.pointers pointer content found
    exact ⟨named, rfl, held.mono grown⟩
  · intro name content found
    obtain ⟨rfl, named, rfl, held⟩ := sound.manifests name content found
    exact ⟨rfl, named, rfl, held.mono grown⟩

/-- A manifest whose object is held may be archived. -/
theorem Sound.manifests_ensured (sound : files.Sound platform)
    (holds : files.Holds platform manifest) {archive : Dict String Text} {message : String}
    (ensured : ensureFile files.manifests
      (objectNameOf (platform.sha256Text (manifestText manifest.fields)))
      (manifestText manifest.fields) message = .ok archive) :
    ({ files with manifests := archive } : SnapshotFiles).Sound platform := by
  obtain ⟨written, kept⟩ := ensureFile_eq_ok ensured
  constructor
  · intro pointer content found
    obtain ⟨named, rfl, held⟩ := sound.pointers pointer content found
    exact ⟨named, rfl, held.mono fun _ _ present => present⟩
  · intro name content found
    by_cases same : name = objectNameOf (platform.sha256Text (manifestText manifest.fields))
    · subst same
      simp only [written, Option.some.injEq] at found
      subst found
      exact ⟨rfl, manifest, rfl, holds.mono fun _ _ present => present⟩
    · simp only [kept name same] at found
      obtain ⟨rfl, named, rfl, held⟩ := sound.manifests name content found
      exact ⟨rfl, named, rfl, held.mono fun _ _ present => present⟩

end SnapshotFiles

/-- The checks of a publication that passed. -/
theorem PublishRequest.check_eq_ok {request : PublishRequest platform}
    (passed : request.check allowDemo = .ok ()) : platform.valid request.snapshot = true := by
  rw [PublishRequest.check] at passed
  split_ifs at passed with invalid
  exact not_not.mp (by simpa using invalid)

/-- One file operation keeps the store sound, and does what it is there for. -/
theorem PublishRun.step_sound (allowDemo : Bool) (run : PublishRun)
    {request : PublishRequest platform}
    {files : SnapshotFiles} (sound : files.Sound platform) (reached : run.Reached request files) :
    (run.step allowDemo request files).2.Sound platform ∧
      (run.step allowDemo request files).1.Reached request
        (run.step allowDemo request files).2 := by
  cases run with
  | storing =>
    rw [PublishRun.step]
    split
    · exact ⟨sound, trivial⟩
    · rename_i objects stored
      simp only [bind_eq_ok] at stored
      obtain ⟨_, passed, ensured⟩ := stored
      refine ⟨sound.objects fun name content => ensureFile_grows ensured, ?_⟩
      exact ⟨PublishRequest.check_eq_ok passed, (ensureFile_eq_ok ensured).1⟩
  | archiving =>
    rw [PublishRun.step]
    split
    · exact ⟨sound, trivial⟩
    · rename_i manifest archive archived
      simp only [bind_eq_ok] at archived
      obtain ⟨made, isMade, manifests, ensured, same⟩ := archived
      obtain ⟨rfl, rfl⟩ := Prod.mk.inj (Except.ok.inj same)
      have holds : files.Holds platform made := by
        refine ⟨request, reached.1, isMade, ?_⟩
        rw [SnapshotManifest.objectName, (PublishRequest.manifest_eq_ok isMade).2.1]
        exact reached.2
      exact ⟨sound.manifests_ensured holds ensured, isMade,
        holds.mono fun _ _ present => present⟩
  | preceding manifest =>
    obtain ⟨made, holds⟩ := reached
    rw [PublishRun.step]
    split
    · exact ⟨sound, trivial⟩
    · exact ⟨sound, made, holds⟩
    · rename_i before read
      split_ifs
      · exact ⟨sound, made, holds⟩
      · have named : ∃ earlier, before = SnapshotManifest.fields earlier ∧
            files.Holds platform earlier := by
          cases found : files.pointers .current with
          | none =>
            rw [SnapshotFiles.readManifest, found] at read
            cases read
          | some content =>
            obtain ⟨earlier, _, held, decoded⟩ := sound.readManifest found
            rw [decoded] at read
            exact ⟨earlier, (Option.some.inj (Except.ok.inj read)).symm, held⟩
        obtain ⟨earlier, rfl, held⟩ := named
        exact ⟨sound.writePointer held .previous, made, holds.writePointer _ _⟩
  | switching manifest =>
    obtain ⟨made, holds⟩ := reached
    exact ⟨sound.writePointer holds .current, made, holds.writePointer _ _⟩
  | keeping manifest =>
    obtain ⟨made, holds⟩ := reached
    rw [PublishRun.step]
    split
    · exact ⟨sound, trivial⟩
    · exact ⟨sound.writePointer holds .lastKnownGood, made⟩
    · exact ⟨sound, made⟩
  | returned manifest => exact ⟨sound, reached⟩
  | raised fault => exact ⟨sound, trivial⟩

/-- Writing one pointer leaves the others. -/
theorem SnapshotFiles.writePointer_ne {files : SnapshotFiles} {pointer other : SnapshotPointer}
    (fields : ManifestFields) (different : other ≠ pointer) :
    (files.writePointer pointer fields).pointers other = files.pointers other :=
  Function.update_of_ne different _ _

/-- A pointer that was written. -/
theorem SnapshotFiles.writePointer_self (files : SnapshotFiles) (pointer : SnapshotPointer)
    (fields : ManifestFields) :
    (files.writePointer pointer fields).pointers pointer = some (manifestText fields) :=
  Function.update_self _ _ _

/-- One file operation at most switches the current snapshot, to that of the publication. -/
theorem PublishRun.step_current (allowDemo : Bool) (run : PublishRun)
    (request : PublishRequest platform)
    (files : SnapshotFiles) :
    (run.step allowDemo request files).2.pointers .current = files.pointers .current ∨
      ∃ manifest, run = .switching manifest ∧
        (run.step allowDemo request files).2.pointers .current =
          some (manifestText manifest.fields) := by
  cases run with
  | storing =>
    left
    rw [PublishRun.step]
    split <;> rfl
  | archiving =>
    left
    rw [PublishRun.step]
    split <;> rfl
  | preceding manifest =>
    left
    rw [PublishRun.step]
    split
    · rfl
    · rfl
    · split_ifs
      · rfl
      · exact SnapshotFiles.writePointer_ne _ (by decide)
  | switching manifest =>
    right
    exact ⟨manifest, rfl, SnapshotFiles.writePointer_self _ _ _⟩
  | keeping manifest =>
    left
    rw [PublishRun.step]
    split
    · rfl
    · exact SnapshotFiles.writePointer_ne _ (by decide)
    · rfl
  | returned manifest => exact Or.inl rfl
  | raised fault => exact Or.inl rfl

/-! ## Publishers -/

/-- A store, and the publication that is under way in it. -/
structure Publisher (platform : SnapshotPlatform) where
  files : SnapshotFiles
  publication : Option (PublishRequest platform × PublishRun)

/-- What a publisher does next. -/
inductive PublisherAction (platform : SnapshotPlatform) where
  /-- A publication begins; one that is under way has been interrupted. -/
  | publish (request : PublishRequest platform)
  /-- The publication that is under way does its next file operation. -/
  | proceed

namespace Publisher

/-- The publisher behind an action. -/
def step (allowDemo : Bool) (publisher : Publisher platform) :
    PublisherAction platform → Publisher platform
  | .publish request => ⟨publisher.files, some (request, .storing)⟩
  | .proceed =>
    match publisher.publication with
    | none => publisher
    | some (request, run) =>
      ⟨(run.step allowDemo request publisher.files).2,
        some (request, (run.step allowDemo request publisher.files).1)⟩

/-- The publisher behind a list of actions. -/
def behind (allowDemo : Bool) (publisher : Publisher platform)
    (actions : List (PublisherAction platform)) : Publisher platform :=
  actions.foldl (step allowDemo) publisher

/-- The publisher of an empty store behind a list of actions. -/
def after (allowDemo : Bool) (actions : List (PublisherAction platform)) : Publisher platform :=
  behind allowDemo ⟨.empty, none⟩ actions

/-- The store is sound, and the publication has done what it reached. -/
structure Sound (publisher : Publisher platform) : Prop where
  files : publisher.files.Sound platform
  publication : ∀ request run, publisher.publication = some (request, run) →
    run.Reached request publisher.files

variable {publisher : Publisher platform}

/-- A step keeps a publisher sound. -/
theorem Sound.step (sound : publisher.Sound) (action : PublisherAction platform) :
    (publisher.step allowDemo action).Sound := by
  cases action with
  | publish request =>
    refine ⟨sound.files, fun other run same => ?_⟩
    obtain ⟨rfl, rfl⟩ := Prod.mk.inj (Option.some.inj same)
    trivial
  | proceed =>
    rw [Publisher.step]
    split
    · exact sound
    · rename_i request run underway
      obtain ⟨kept, reached⟩ := run.step_sound allowDemo sound.files
        (sound.publication request run underway)
      refine ⟨kept, fun other next same => ?_⟩
      obtain ⟨rfl, rfl⟩ := Prod.mk.inj (Option.some.inj same)
      exact reached

/-- So does a run. -/
theorem Sound.behind (sound : publisher.Sound) (actions : List (PublisherAction platform)) :
    (publisher.behind allowDemo actions).Sound := by
  induction actions generalizing publisher with
  | nil => exact sound
  | cons action actions ih => exact ih (sound.step action)

/-- A publisher that starts with an empty store is sound. -/
theorem sound_after (allowDemo : Bool) (actions : List (PublisherAction platform)) :
    (after allowDemo actions).Sound := by
  apply Sound.behind
  refine ⟨SnapshotFiles.sound_empty, fun request run underway => ?_⟩
  cases underway

/-- The current snapshot is never lost. -/
theorem current_step (action : PublisherAction platform)
    (present : publisher.files.pointers .current ≠ none) :
    (publisher.step allowDemo action).files.pointers .current ≠ none := by
  cases action with
  | publish request => exact present
  | proceed =>
    rw [Publisher.step]
    split
    · exact present
    · rename_i request run _
      rcases run.step_current allowDemo request publisher.files with
        same | ⟨manifest, _, switched⟩
      · rw [same]
        exact present
      · rw [switched]
        exact Option.some_ne_none _

/-- Nor does a run lose it. -/
theorem current_behind (allowDemo : Bool) (actions : List (PublisherAction platform))
    (present : publisher.files.pointers .current ≠ none) :
    (publisher.behind allowDemo actions).files.pointers .current ≠ none := by
  induction actions generalizing publisher with
  | nil => exact present
  | cons action actions ih => exact ih (current_step action present)

/-- While a publication goes on, the current snapshot is the one before it or its own. -/
theorem current_proceed {request : PublishRequest platform} {run : PublishRun}
    (sound : publisher.Sound)
    (underway : publisher.publication = some (request, run)) (operations : Nat) :
    (publisher.behind allowDemo (List.replicate operations .proceed)).files.pointers .current =
        publisher.files.pointers .current ∨
      ∃ manifest, request.manifest = .ok manifest ∧
        (publisher.behind allowDemo (List.replicate operations .proceed)).files.pointers .current =
          some (manifestText manifest.fields) := by
  induction operations generalizing publisher run with
  | zero => exact Or.inl rfl
  | succ operations ih =>
    have next : publisher.step allowDemo .proceed = ⟨(run.step allowDemo request publisher.files).2,
        some (request, (run.step allowDemo request publisher.files).1)⟩ := by
      rw [Publisher.step, underway]
    have rest := ih (sound.step .proceed) (congrArg Publisher.publication next)
    rcases rest with same | switched
    · rw [next] at same
      rcases run.step_current allowDemo request publisher.files with
        before | ⟨manifest, rfl, now⟩
      · left
        rw [List.replicate_succ]
        show (behind allowDemo (publisher.step allowDemo .proceed) _).files.pointers _ = _
        rw [next, same]
        exact before
      · right
        refine ⟨manifest, (sound.publication request _ underway).1, ?_⟩
        rw [List.replicate_succ]
        show (behind allowDemo (publisher.step allowDemo .proceed) _).files.pointers _ = _
        rw [next, same]
        exact now
    · exact Or.inr switched

end Publisher

/-- In every store that publications reach which are interrupted between any file operations: what
each pointer names loads, what is archived loads, a publication that is interrupted leaves the
current snapshot of before or its own, and from the first current snapshot on the best available
one loads. -/
theorem publication_crash_safe (platform : SnapshotPlatform) (allowDemo : Bool)
    (past : List (PublisherAction platform)) :
    (∀ pointer, (Publisher.after allowDemo past).files.pointers pointer ≠ none →
      ∃ stored, (Publisher.after allowDemo past).files.load platform pointer = .ok stored) ∧
    (∀ name content, (Publisher.after allowDemo past).files.manifests.get? name = some content →
      ∃ stored, (Publisher.after allowDemo past).files.loadArchive platform name = .ok stored) ∧
    (∀ request operations,
      (Publisher.after allowDemo
        (past ++ .publish request :: List.replicate operations .proceed)).files.pointers .current =
          (Publisher.after allowDemo past).files.pointers .current ∨
      ∃ manifest, request.manifest = .ok manifest ∧
        (Publisher.after allowDemo
          (past ++ .publish request :: List.replicate operations .proceed)).files.pointers
            .current = some (manifestText manifest.fields)) ∧
    ((Publisher.after allowDemo past).files.pointers .current ≠ none → ∀ future,
      ∃ stored, (Publisher.after allowDemo (past ++ future)).files.loadBestAvailable platform =
        .ok stored) := by
  have sound := Publisher.sound_after allowDemo past
  refine ⟨fun pointer => sound.files.load, fun name content => sound.files.loadArchive, ?_, ?_⟩
  · intro request operations
    rw [Publisher.after, Publisher.behind, List.foldl_append]
    exact Publisher.current_proceed (sound.step (.publish request)) rfl operations
  · intro present future
    have later := Publisher.current_behind allowDemo future present
    have soundLater := Publisher.sound_after allowDemo (past ++ future)
    have same : Publisher.after allowDemo (past ++ future) =
        (Publisher.after allowDemo past).behind allowDemo future := List.foldl_append
    rw [← same] at later
    obtain ⟨stored, loaded⟩ := soundLater.files.load later
    refine ⟨stored, ?_⟩
    rw [SnapshotFiles.loadBestAvailable, SnapshotFiles.loadFirst, loaded]

end DTLab
