import DTLab.Remote.Inventory
import DTLab.Verif.CommitReports

/-!
# A backlog of local publications

What the local store published and holds is prepared for the remote store: a batch that was
published in its order is prepared in this order, and retention decodes the manifest of each of it.
-/

namespace DTLab

open Library (Json Text Dict universalNewlines universalNewlines_eq)
open Library.Json (loads loads_line return_not_mem_dumps)

variable {platform : RemotePlatform} {store : SnapshotFiles}

/-- A manifest is written with newlines alone, so text mode leaves it. -/
theorem universalNewlines_manifestText (fields : ManifestFields) :
    universalNewlines (manifestText fields) = manifestText fields := by
  apply universalNewlines_eq
  rw [manifestText, List.mem_append, not_or]
  exact ⟨return_not_mem_dumps false (.obj fields), by decide⟩

/-- A manifest that was written, within the limits of the interpreter, is decoded by retention to
its record. -/
theorem SnapshotManifest.Sound.record {manifest : SnapshotManifest}
    (sound : manifest.Sound platform.toSnapshotPlatform) {snapshotId : String} {instant : Int}
    (within : platform.exceedsLimits (manifestText manifest.fields) = false)
    (identified : manifest.snapshotId = .str snapshotId) (nonempty : snapshotId ≠ "")
    (parses : platform.parseTime manifest.publishedAt = .instant instant) :
    manifestRecord platform (manifestText manifest.fields) =
      some ⟨platform.sha256Text (manifestText manifest.fields), manifest.objectName, instant⟩ := by
  have read : loads platform.rounding (manifestText manifest.fields) =
      some (.obj manifest.fields) := loads_line false sound.storable.1 sound.storable.2
  have complete : ∀ key ∈ manifestKeys, key ∈ manifest.fields.map Prod.fst :=
    fun _ member => member
  have origin : getField "trusted_origin" manifest.fields = .str "dtlab_collector" := rfl
  have name : getField "object_name" manifest.fields = .str manifest.objectName := rfl
  have digest : getField "sha256" manifest.fields = .str manifest.sha256 := rfl
  have length : getField "byte_length" manifest.fields = .int manifest.byteLength := rfl
  have own : getField "snapshot_id" manifest.fields = .str snapshotId := identified
  have published : getField "published_at" manifest.fields = .str manifest.publishedAt := rfl
  have coherent : ¬ (¬ isDigestBody manifest.sha256.toList = true ∨
      manifest.objectName ≠ objectNameOf manifest.sha256 ∨ (manifest.byteLength : Int) < 0 ∨
        snapshotId = "") := by
    rintro (form | name | length | empty)
    · exact form sound.sha256
    · exact name rfl
    · omega
    · exact nonempty empty
  have checked : ¬ (¬ (∀ key ∈ manifestKeys, key ∈ manifest.fields.map Prod.fst) ∨
      ¬ isText "dtlab_collector" (getField "trusted_origin" manifest.fields) = true) := by
    rintro (incomplete | foreign)
    · exact incomplete complete
    · rw [origin] at foreign
      exact foreign rfl
  rw [manifestRecord, universalNewlines_manifestText, decodeRemoteManifest,
    if_neg (not_not.mpr rfl), within, if_neg Bool.false_ne_true, read]
  simp only [if_neg checked, name, digest, length, own, published, platform.str_text, parses,
    if_neg coherent]
  rfl

/-- A publication whose object and archive the local store holds. -/
structure LocalPublication (platform : RemotePlatform) (store : SnapshotFiles) where
  request : PublishRequest platform.toSnapshotPlatform
  manifest : SnapshotManifest
  instant : Int
  valid : platform.valid request.snapshot = true
  made : request.manifest = .ok manifest
  object : store.objects.get? manifest.objectName = some request.content
  archive : store.manifests.get?
      (objectNameOf (platform.sha256Text (manifestText manifest.fields))) =
    some (manifestText manifest.fields)
  parses : platform.parseTime manifest.publishedAt = .instant instant

namespace LocalPublication

/-- A publication as the store loads it. -/
def stored (publication : LocalPublication platform store) : StoredSnapshot :=
  ⟨publication.request.snapshot, publication.manifest.fields⟩

/-- A publication as it is prepared. -/
def prepared (publication : LocalPublication platform store) : PreparedSnapshot :=
  ⟨publication.request.snapshot, publication.manifest.fields,
    manifestText publication.manifest.fields,
    platform.sha256Text (manifestText publication.manifest.fields)⟩

/-- Where a publication comes in a batch. -/
def key (publication : LocalPublication platform store) : Int ×ₗ String :=
  toLex (publication.instant, publication.prepared.manifestDigest)

variable (publication : LocalPublication platform store)

/-- The manifest of a publication is sound. -/
theorem sound : publication.manifest.Sound platform.toSnapshotPlatform :=
  (PublishRequest.manifest_eq_ok publication.made).1

/-- A publication is prepared. -/
theorem prepares : prepareStored platform store publication.stored = .ok publication.prepared := by
  have form : isObjectName
      (objectNameOf (platform.sha256Text (manifestText publication.manifest.fields))) = true :=
    isObjectName_objectNameOf (platform.sha256_isDigest _)
  have read := SnapshotFiles.readArchivedManifest_of_sound publication.sound publication.archive rfl
  have load := SnapshotFiles.loadManifest_of_object publication.valid publication.made
    publication.object
  exact prepareStored_of_archive (SnapshotFiles.loadArchive_of_read form read (load _))

/-- The key of a publication is read from its manifest. -/
theorem ordered : publicationOrderKey platform publication.prepared = .ok publication.key := by
  have published : getField "published_at" publication.manifest.fields =
      .str publication.manifest.publishedAt := rfl
  by_cases empty : publication.manifest.publishedAt = ""
  · have parses := publication.parses
    rw [empty] at parses
    simp [publicationOrderKey, prepared, published, isFalsy, empty, parses, key]
  · simp [publicationOrderKey, prepared, published, isFalsy, empty, platform.str_text,
      publication.parses, key]

/-- The publication under the pointer `current` is that of its manifest. -/
theorem current (pointed : store.pointers .current =
    some (manifestText publication.manifest.fields)) :
    requireCurrent platform store publication.stored.manifest = .ok publication.stored := by
  have read := SnapshotFiles.readManifest_of_sound publication.sound pointed
  have load := SnapshotFiles.load_of_read read (SnapshotFiles.loadManifest_of_object
    publication.valid publication.made publication.object _)
  rw [requireCurrent, load]
  exact if_neg fun differs => differs rfl

end LocalPublication

/-- Distinct publications are prepared in the order of their times. -/
theorem orderedArchives_of_distinct {publications : List (LocalPublication platform store)}
    {current : PreparedSnapshot}
    (distinct : (publications.map fun publication =>
      publication.prepared.manifestDigest).Nodup)
    (others : ∀ publication ∈ publications,
      publication.prepared.manifestDigest ≠ current.manifestDigest) :
    orderedArchives platform store (publications.map LocalPublication.stored) current =
      .ok ((publications.mergeSort fun earlier later =>
        decide (earlier.key ≤ later.key)).map LocalPublication.prepared) := by
  have collected : ∀ known : Dict String PreparedSnapshot,
      (∀ publication ∈ publications,
        known.get? publication.prepared.manifestDigest = none) →
      ∃ unique : Dict String PreparedSnapshot,
        (publications.map LocalPublication.stored).foldlM
          (fun (unique : Dict String PreparedSnapshot) stored => do
            let prepared ← prepareStored platform store stored
            if prepared.manifestDigest = current.manifestDigest ∨
                (unique.get? prepared.manifestDigest).isSome then
              .ok unique
            else .ok (unique.set prepared.manifestDigest prepared)) known =
            (.ok unique : Except RemoteFault _) ∧
          unique.values = known.values ++ publications.map LocalPublication.prepared := by
    induction publications with
    | nil => exact fun known _ => ⟨known, rfl, (List.append_nil _).symm⟩
    | cons publication publications ih =>
      intro known missing
      rw [List.map_cons, List.nodup_cons] at distinct
      have absent := missing publication List.mem_cons_self
      have fresh : ¬ (publication.prepared.manifestDigest = current.manifestDigest ∨
          (known.get? publication.prepared.manifestDigest).isSome = true) := by
        rintro (same | present)
        · exact others publication List.mem_cons_self same
        · rw [absent] at present
          cases present
      have behind : ∀ other ∈ publications,
          (known.set publication.prepared.manifestDigest publication.prepared).get?
            other.prepared.manifestDigest = none := by
        intro other member
        have differs : other.prepared.manifestDigest ≠ publication.prepared.manifestDigest := by
          intro same
          apply distinct.1
          rw [← same]
          exact List.mem_map_of_mem (f := fun publication : LocalPublication platform store =>
            publication.prepared.manifestDigest) member
        rw [Dict.get?_set, if_neg differs]
        exact missing other (List.mem_cons_of_mem _ member)
      obtain ⟨unique, folded, values⟩ := ih distinct.2
        (fun other member => others other (List.mem_cons_of_mem _ member)) _ behind
      refine ⟨unique, ?_, ?_⟩
      · rw [List.map_cons, List.foldlM_cons, publication.prepares]
        show (if _ then _ else _ : Except RemoteFault _) >>= _ = _
        rw [if_neg fresh]
        exact folded
      · rw [values, Dict.values_append_of_absent _ absent, List.map_cons, List.append_assoc]
        rfl
  obtain ⟨unique, folded, values⟩ := collected .empty fun _ _ => rfl
  have keyed : (publications.map LocalPublication.prepared).mapM (fun prepared => do
      let key ← publicationOrderKey platform prepared
      .ok (key, prepared)) = (.ok (publications.map fun publication =>
        (publication.key, publication.prepared)) : Except RemoteFault _) := by
    clear distinct others collected folded values
    induction publications with
    | nil => rfl
    | cons publication publications ih =>
      rw [List.map_cons, List.mapM_cons, publication.ordered]
      show ((publications.map LocalPublication.prepared).mapM _ >>= _ : Except RemoteFault _) = _
      rw [ih]
      rfl
  rw [orderedArchives, folded]
  show (unique.values.mapM _ >>= _ : Except RemoteFault _) = _
  rw [values]
  show ((publications.map LocalPublication.prepared).mapM _ >>= _ : Except RemoteFault _) = _
  rw [keyed]
  show Except.ok (((publications.map fun publication =>
    (publication.key, publication.prepared)).mergeSort _).map Prod.snd) = _
  rw [← List.map_mergeSort (r := fun earlier later => decide (earlier.key ≤ later.key))
    fun _ _ _ _ => rfl, List.map_map]
  rfl

/-- A batch of distinct publications, of which the last one is current, is prepared in the order of
their times. -/
theorem prepare_batch (publications : List (LocalPublication platform store))
    (final : LocalPublication platform store)
    (pointed : store.pointers .current = some (manifestText final.manifest.fields))
    (distinct : ((publications ++ [final]).map fun publication =>
      publication.prepared.manifestDigest).Nodup) :
    (RemoteRequest.batch (publications.map LocalPublication.stored) final.stored).prepare platform
      store = .ok ((publications.mergeSort fun earlier later =>
        decide (earlier.key ≤ later.key)).map LocalPublication.prepared, some final.prepared) := by
  rw [List.map_append, List.nodup_append] at distinct
  have others : ∀ publication ∈ publications,
      publication.prepared.manifestDigest ≠ final.prepared.manifestDigest := by
    intro publication member
    apply distinct.2.2 _ (List.mem_map_of_mem member)
    exact List.mem_singleton_self _
  have ordered := orderedArchives_of_distinct distinct.1 others
  have current := final.current pointed
  simp only [RemoteRequest.prepare, current, final.prepares, ordered, bind, Except.bind]

/-! ## A backlog of four days -/

/-- The text of a day. -/
def shiftText (before : String) (day : Fin 4) (behind : String) : String :=
  before ++ String.ofList [Nat.digitChar (day.val + 1)] ++ behind

/-- The digest of an object, or of a manifest, of a day. -/
def shiftDigest (kind day : Char) : String :=
  String.ofList (List.replicate 62 '0' ++
    [kind, if day.isDigit then day else '0'])

/-- It is one. -/
theorem shiftDigest_isDigest {kind : Char} (known : kind = 'a' ∨ kind = 'b') (day : Char) :
    isDigestBody (shiftDigest kind day).toList = true := by
  have last : (if day.isDigit then day else '0').isDigit = true := by
    split_ifs with digit
    · exact digit
    · decide
  rw [shiftDigest, String.toList_ofList, isDigestBody, Bool.and_eq_true, List.all_append]
  refine ⟨decide_eq_true rfl, ?_⟩
  rw [List.all_cons, List.all_cons, List.all_nil, last, Bool.true_or]
  rcases known with rfl | rfl <;> rfl

/-- The digest of a text: that of a manifest has the day of its publication, that of a snapshot the
day of its name. -/
@[irreducible] def shiftDigestOf (text : Text) : String :=
  match Library.Json.loads id text with
  | some (.obj fields) =>
    match getField "published_at" fields with
    | .str time => shiftDigest 'a' (time.toList.getD 9 '0')
    | _ =>
      match getField "snapshot_id" fields with
      | .str name => shiftDigest 'b' (name.toList.getLast?.getD '0')
      | _ => shiftDigest 'a' '0'
  | _ => shiftDigest 'a' '0'

/-- A host whose digests and clock tell the days apart. -/
def shiftHost : RemotePlatform where
  rounding := id
  sha256Text := shiftDigestOf
  sha256_isDigest := fun text => by
    unfold shiftDigestOf
    split
    · split
      · exact shiftDigest_isDigest (Or.inl rfl) _
      · split
        · exact shiftDigest_isDigest (Or.inr rfl) _
        · exact shiftDigest_isDigest (Or.inl rfl) _
    · exact shiftDigest_isDigest (Or.inl rfl) _
  str := plainStore.str
  str_text := plainStore.str_text
  valid := fun _ => true
  parseTime := fun text => .instant (86400 * ((text.toList.getD 9 '0').toNat - 48))
  exceedsLimits := fun _ => false
  token := fun _ => "0"
  rounding_rounding := fun _ => rfl

/-- The snapshot of a day. -/
def shiftSnapshot (day : Fin 4) : Json :=
  .obj [("schema_version", .str "2.0"), ("snapshot_id", .str (shiftText "turno-" day "")),
    ("sync", .obj [("collector_version", .str "1.0"), ("publication_mode", .str "real_only"),
      ("state", .str "stale")])]

/-- The snapshot can be stored. -/
theorem shiftSnapshot_storable (day : Fin 4) : Storable shiftHost.rounding (shiftSnapshot day) := by
  have sync : Storable shiftHost.rounding (.obj [("collector_version", .str "1.0"),
      ("publication_mode", .str "real_only"), ("state", .str "stale")]) := by
    apply storable_obj (by decide)
    simp
  refine storable_obj ?_ ?_
  · show ["schema_version", "snapshot_id", "sync"].Pairwise (· < ·)
    decide
  · simp [sync]

/-- The name of a day ends with its digit. -/
theorem shiftText_getLast (day : Fin 4) :
    (shiftText "turno-" day "").toList.getLast?.getD '0' = Nat.digitChar (day.val + 1) := by
  revert day
  decide

/-- Its publication. -/
def shiftRequest (day : Fin 4) : PublishRequest shiftHost.toSnapshotPlatform where
  snapshot := shiftSnapshot day
  storable := shiftSnapshot_storable day
  publishedAt := some (shiftText "2026-01-0" day "T00:00:00Z")

/-- Its manifest. -/
def shiftManifest (day : Fin 4) : SnapshotManifest where
  contractVersion := .str "2.0"
  snapshotId := .str (shiftText "turno-" day "")
  sha256 := (shiftRequest day).digest
  byteLength := byteLength (shiftRequest day).content
  publishedAt := shiftText "2026-01-0" day "T00:00:00Z"
  collectorVersion := .str "1.0"

/-- The request of a day has its manifest. -/
theorem shiftRequest_manifest (day : Fin 4) :
    (shiftRequest day).manifest = .ok (shiftManifest day) := rfl

/-- The digest of a manifest has the day of its publication. -/
theorem shiftDigestOf_manifest {manifest : SnapshotManifest}
    (sound : manifest.Sound shiftHost.toSnapshotPlatform) :
    shiftHost.sha256Text (manifestText manifest.fields) =
      shiftDigest 'a' (manifest.publishedAt.toList.getD 9 '0') := by
  have read : Library.Json.loads id (manifestText manifest.fields) = some (.obj manifest.fields) :=
    Library.Json.loads_line false sound.storable.1 sound.storable.2
  have published : getField "published_at" manifest.fields = .str manifest.publishedAt := rfl
  show shiftDigestOf _ = _
  rw [shiftDigestOf, read]
  simp only [published]

/-- The digest of the manifest of a day. -/
theorem shiftManifest_digest (day : Fin 4) :
    shiftHost.sha256Text (manifestText (shiftManifest day).fields) =
      shiftDigest 'a' (Nat.digitChar (day.val + 1)) := by
  have sound : (shiftManifest day).Sound shiftHost.toSnapshotPlatform :=
    (PublishRequest.manifest_eq_ok (shiftRequest_manifest day)).1
  have digits : ∀ day : Fin 4, (shiftText "2026-01-0" day "T00:00:00Z").toList.getD 9 '0' =
      Nat.digitChar (day.val + 1) := by decide
  rw [shiftDigestOf_manifest sound]
  exact congrArg (shiftDigest 'a') (digits day)

/-- The digest of the object of a day. -/
theorem shiftRequest_digest (day : Fin 4) :
    (shiftRequest day).digest = shiftDigest 'b' (Nat.digitChar (day.val + 1)) := by
  have read : Library.Json.loads id (shiftRequest day).content = some (shiftSnapshot day) :=
    (shiftRequest day).loads_content
  have made : (shiftRequest day).digest = shiftDigestOf (shiftRequest day).content := rfl
  rw [made, shiftDigestOf, read, shiftSnapshot]
  simp [getField, List.lookup_cons, shiftText_getLast]

/-- The names of digests of one kind tell their digits apart. -/
theorem shiftDigest_digit {kind first second : Char}
    (same : objectNameOf (shiftDigest kind first) = objectNameOf (shiftDigest kind second)) :
    (if first.isDigit then first else '0') = if second.isDigit then second else '0' := by
  have digests := congrArg stem same
  simp only [stem_objectNameOf, shiftDigest] at digests
  have chars := congrArg String.toList digests
  rw [String.toList_ofList, String.toList_ofList] at chars
  exact (List.cons.inj (List.cons.inj (List.append_cancel_left chars)).2).1

/-- The days have objects of their own. -/
theorem shiftDigest_injective (kind : Char) : Function.Injective fun day : Fin 4 =>
    objectNameOf (shiftDigest kind (Nat.digitChar (day.val + 1))) := by
  intro first second same
  have digits := shiftDigest_digit same
  clear same
  revert first second
  decide

/-- The local store behind the publications of all days. -/
def shiftFiles : SnapshotFiles where
  objects := ⟨(List.finRange 4).map fun day =>
    ((shiftManifest day).objectName, (shiftRequest day).content), by
      rw [List.map_map]
      apply (List.nodup_finRange 4).map
      intro first second same
      apply shiftDigest_injective 'b'
      have names : objectNameOf (shiftRequest first).digest =
        objectNameOf (shiftRequest second).digest := same
      rwa [shiftRequest_digest, shiftRequest_digest] at names⟩
  manifests := ⟨(List.finRange 4).map fun day =>
    (objectNameOf (shiftHost.sha256Text (manifestText (shiftManifest day).fields)),
      manifestText (shiftManifest day).fields), by
      rw [List.map_map]
      apply (List.nodup_finRange 4).map
      intro first second same
      apply shiftDigest_injective 'a'
      have names : objectNameOf (shiftHost.sha256Text (manifestText (shiftManifest first).fields)) =
        objectNameOf (shiftHost.sha256Text (manifestText (shiftManifest second).fields)) := same
      rwa [shiftManifest_digest, shiftManifest_digest] at names⟩
  pointers := fun _ => some (manifestText (shiftManifest 3).fields)

/-- The publication of a day, as the local store holds it. -/
def shiftPublication (day : Fin 4) : LocalPublication shiftHost shiftFiles where
  request := shiftRequest day
  manifest := shiftManifest day
  instant := 86400 * (day.val + 1)
  valid := rfl
  made := shiftRequest_manifest day
  object := Dict.get?_eq_some.mpr (List.mem_map_of_mem (List.mem_finRange day))
  archive := Dict.get?_eq_some.mpr (List.mem_map_of_mem (List.mem_finRange day))
  parses := by
    revert day
    decide

/-- The publications of days, prepared. -/
def shiftPrepared (days : List (Fin 4)) : List PreparedSnapshot :=
  (days.map shiftPublication).map LocalPublication.prepared

/-- The batch of days and of the last one, which is current. -/
def shiftBacklog (days : List (Fin 4)) : RemoteRequest :=
  .batch ((days.map shiftPublication).map LocalPublication.stored) (shiftPublication 3).stored

/-- The batch of all days: retention keeps fewer. -/
def shiftRequests : RemoteRequest := shiftBacklog [0, 1, 2]

/-- The publications of the days before the last one. -/
def shiftArchives : List PreparedSnapshot := shiftPrepared [0, 1, 2]

/-- The publications of all days. -/
def shiftBatch : List PreparedSnapshot := shiftArchives ++ [(shiftPublication 3).prepared]

/-- The manifest of the last day, published once more. -/
def repeatedManifest : SnapshotManifest :=
  { shiftManifest 3 with publishedAt := "2026-01-05T00:00:00Z" }

/-- A clock by which the object of the first day is the oldest. -/
def shiftAge (name : String) : Nat := if name = (shiftManifest 0).objectName then 0 else 1

/-- Days in their order are prepared in it. -/
theorem shift_prepares {days : List (Fin 4)} (sorted : days.Pairwise (· < ·))
    (before : ∀ day ∈ days, day < 3) : (shiftBacklog days).prepare shiftHost shiftFiles =
      .ok (shiftPrepared days, some (shiftPublication 3).prepared) := by
  have apart : (days ++ [3]).Nodup := by
    have single : ([3] : List (Fin 4)).Nodup := List.nodup_singleton 3
    apply List.nodup_append.mpr
    refine ⟨sorted.imp ne_of_lt, single, fun day member last same => ?_⟩
    rw [List.mem_singleton.mp same]
    exact ne_of_lt (before day member)
  have distinct : ((days.map shiftPublication ++ [shiftPublication 3]).map
      fun publication => publication.prepared.manifestDigest).Nodup := by
    have mapped : ((days ++ [3]).map fun day =>
        shiftHost.sha256Text (manifestText (shiftManifest day).fields)).Nodup := by
      apply apart.map
      intro first second same
      apply shiftDigest_injective 'a'
      simp only [shiftManifest_digest] at same
      exact congrArg objectNameOf same
    have days_eq : days.map shiftPublication ++ [shiftPublication 3] =
        (days ++ [3]).map shiftPublication := by
      rw [List.map_append]
      rfl
    rw [days_eq, List.map_map]
    exact mapped
  have ordered : (days.map shiftPublication).Pairwise fun earlier later =>
      decide (earlier.key ≤ later.key) = true := by
    rw [List.pairwise_map]
    apply sorted.imp
    intro earlier later before
    apply decide_eq_true
    apply le_of_lt
    apply Prod.Lex.toLex_lt_toLex.mpr
    left
    show (86400 : Int) * (earlier.val + 1) < 86400 * (later.val + 1)
    omega
  have prepared := prepare_batch (days.map shiftPublication) (shiftPublication 3) rfl distinct
  rwa [List.mergeSort_of_pairwise ordered] at prepared

/-- What is published of a backlog are days. -/
theorem exists_of_mem_shiftPrepared {days : List (Fin 4)} {snapshot : PreparedSnapshot}
    (member : snapshot ∈ shiftPrepared days ++ [(shiftPublication 3).prepared]) :
    ∃ day, snapshot = (shiftPublication day).prepared := by
  rcases List.mem_append.mp member with early | last
  · obtain ⟨publication, inside, rfl⟩ := List.mem_map.mp early
    obtain ⟨day, _, rfl⟩ := List.mem_map.mp inside
    exact ⟨day, rfl⟩
  · exact ⟨3, List.mem_singleton.mp last⟩

/-- The record of a day. -/
def shiftRecord (day : Fin 4) : RemoteManifest :=
  ⟨(shiftPublication day).prepared.manifestDigest, (shiftManifest day).objectName,
    86400 * (day.val + 1)⟩

/-- Its manifest is read as its record. -/
theorem shift_record (day : Fin 4) :
    manifestRecord shiftHost (shiftPublication day).prepared.manifestContent =
      some (shiftRecord day) := by
  have nonempty : shiftText "turno-" day "" ≠ "" := by
    revert day
    decide
  exact (shiftPublication day).sound.record rfl rfl nonempty (shiftPublication day).parses

/-- Days have records of their own. -/
theorem shiftRecord_injective : Function.Injective shiftRecord := by
  intro first second same
  have times := congrArg RemoteManifest.publishedAt same
  have instants : (86400 : Int) * (first.val + 1) = 86400 * (second.val + 1) := times
  exact Fin.ext (by omega)

/-- A remote store that holds the first day. -/
def firstDayFiles : RemoteFiles where
  directory := fun directory =>
    match directory with
    | .objects => some (Dict.empty.set (shiftManifest 0).objectName
        ⟨false, (shiftRequest 0).content⟩)
    | .manifests => some (Dict.empty.set (shiftPublication 0).prepared.archiveName
        ⟨false, (shiftPublication 0).prepared.manifestContent⟩)
    | _ => some .empty
  locked := false

/-- The entries of this store are the object and the archive of the first day. -/
theorem firstDayFiles_entry {path : RemotePath} {entry : RemoteEntry}
    (found : firstDayFiles.entry path = some entry) :
    (path = ⟨.objects, (shiftManifest 0).objectName⟩ ∧
        entry = ⟨false, (shiftRequest 0).content⟩) ∨
      path = ⟨.manifests, (shiftPublication 0).prepared.archiveName⟩ ∧
        entry = ⟨false, (shiftPublication 0).prepared.manifestContent⟩ := by
  have single : ∀ {name key : String} {value : RemoteEntry},
      (Dict.empty.set key value : Dict String RemoteEntry).get? name = some entry →
        name = key ∧ entry = value := by
    intro name key value held
    rw [Dict.get?_set] at held
    split_ifs at held with same
    · exact ⟨same, (Option.some.inj held).symm⟩
    · cases held
  obtain ⟨directory, name⟩ := path
  cases directory with
  | root => cases found
  | pointer which => cases found
  | objects =>
    obtain ⟨rfl, rfl⟩ := single found
    exact Or.inl ⟨rfl, rfl⟩
  | manifests =>
    obtain ⟨rfl, rfl⟩ := single found
    exact Or.inr ⟨rfl, rfl⟩

end DTLab
