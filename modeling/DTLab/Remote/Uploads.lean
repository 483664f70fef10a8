import DTLab.Remote.Placement
import DTLab.Remote.Prepared

/-!
# What a publication adds

Objects are uploaded before the archives that name them, and the archives before the pointers. So
references are kept throughout, and behind the uploads the archives are those of before and those
that were prepared.
-/

namespace DTLab

open Library (Json Text Dict Program)
open Library.Attempt (bind_eq_ok foldlM_keeps foldlM_each)
open Library.Program (Ensures Reads Ends ensures_handle ensures_accumulate reads_lift
  reads_returned)

variable {platform : RemotePlatform} {config : PublishConfig}

/-! ## Presence -/

/-- What is said to be present is there; of the archives that are asked for, all that are there
are said to be. -/
structure RemoteSnapshotPresence.Reflects (expected : List PreparedSnapshot) (files : RemoteFiles)
    (presence : RemoteSnapshotPresence) : Prop where
  objects : ∀ name ∈ presence.objects, isObjectName name = true ∧ files.Has name
  archives : ∀ prepared ∈ expected,
    prepared.archiveName ∈ presence.archives ↔ (files.archives prepared.archiveName).isSome

/-- The files that are expected: objects with the names of contents, and every archive. -/
theorem expectedFiles_eq_ok {snapshots : List PreparedSnapshot}
    {objects archives : Dict String String}
    (expected : expectedFiles platform snapshots = .ok (objects, archives)) :
    (∀ name ∈ objects.keys, isObjectName name = true) ∧
      ∀ prepared ∈ snapshots, prepared.archiveName ∈ archives.keys := by
  rw [expectedFiles] at expected
  constructor
  · apply foldlM_keeps (motive := fun known : Dict String String × Dict String String =>
      ∀ name ∈ known.1.keys, isObjectName name = true) ?_ ?_ expected
    · intro known prepared next _ formed added
      simp only at added
      split_ifs at added with names
      rw [← Except.ok.inj added]
      intro name member
      rcases Dict.mem_keys_set.mp member with same | old
      · rw [same]
        exact not_not.mp (not_or.mp names).1
      · exact formed name old
    · intro name member
      cases member
  · apply foldlM_each (fun prepared (known : Dict String String × Dict String String) =>
      PreparedSnapshot.archiveName prepared ∈ known.2.keys) ?_ ?_ expected
    · intro known prepared next added
      simp only at added
      split_ifs at added
      rw [← Except.ok.inj added]
      exact Dict.mem_keys_set.mpr (Or.inl rfl)
    · intro known prepared next added other present
      simp only at added
      split_ifs at added
      rw [← Except.ok.inj added]
      exact Dict.mem_keys_set.mpr (Or.inr present)

/-- The files that are needed and present. -/
theorem relevantFiles_eq_ok {expected : Dict String String} {entries : List (String × Bool)}
    {message : String} {names : List String}
    (relevant : relevantFiles expected entries message = .ok names) (name : String) :
    name ∈ names ↔ name ∈ expected.keys ∧ name ∈ entries.map Prod.fst := by
  simp only [relevantFiles] at relevant
  split_ifs at relevant
  rw [← Except.ok.inj relevant, List.mem_filter, List.lookup_isSome_iff, List.mem_map]
  apply and_congr_right
  intro _
  constructor
  · rintro ⟨entry, listed, same⟩
    exact ⟨entry, listed, (eq_of_beq same).symm⟩
  · rintro ⟨entry, listed, same⟩
    exact ⟨entry, listed, beq_of_eq same.symm⟩

/-- What the publication reads of the store before it uploads anything. -/
theorem reads_verifiedSnapshotPresence (snapshots : List PreparedSnapshot) (files : RemoteFiles) :
    (verifiedSnapshotPresence platform config snapshots).Reads platform.host files
      (RemoteSnapshotPresence.Reflects snapshots files) := by
  apply Reads.bind (reads_remoteEntries .objects files)
  intro objectEntries objectsListed
  apply Reads.bind (reads_remoteEntries .manifests files)
  intro manifestEntries manifestsListed
  apply Reads.bind (reads_lift fun _ expected => expectedFiles_eq_ok expected)
  intro expected needed
  apply Reads.bind (reads_lift fun _ relevant => relevantFiles_eq_ok relevant)
  intro objects present
  apply Reads.bind (reads_lift fun _ relevant => relevantFiles_eq_ok relevant)
  intro archives archived
  apply Reads.bind (reads_remoteHashesRequired _ files)
  intro observed _
  apply Reads.bind (reads_lift fun _ _ => trivial)
  intro _ _
  apply Reads.bind (reads_lift fun _ _ => trivial)
  intro _ _
  apply reads_returned
  constructor
  · intro name member
    obtain ⟨key, listed⟩ := (present name).mp member
    exact ⟨needed.1 name key, (objectsListed.mem name).mp listed⟩
  · intro prepared member
    rw [archived, and_iff_right (needed.2 prepared member), manifestsListed.mem]
    exact Iff.rfl

/-! ## Steps -/

/-- References are kept, every object is still there, and the archives are those of before. -/
structure Advanced (platform : RemotePlatform) (before later : RemoteFiles) : Prop where
  referenced : Referenced platform later
  grown : Grown before later
  archives : ∀ name, isObjectName name = true → later.archives name = before.archives name

/-- Nothing at all advances a store that keeps its references. -/
theorem Advanced.refl {files : RemoteFiles} (referenced : Referenced platform files) :
    Advanced platform files files :=
  ⟨referenced, Grown.refl files, fun _ _ => rfl⟩

/-- Two advances are one. -/
theorem Advanced.trans {first second third : RemoteFiles}
    (advanced : Advanced platform first second)
    (later : Advanced platform second third) : Advanced platform first third :=
  ⟨later.referenced, advanced.grown.trans later.grown, fun name form =>
    (later.archives name form).trans (advanced.archives name form)⟩

/-- A file outside the archives is placed. -/
theorem Advanced.of_placed {path : RemotePath} {content : Text} {before later : RemoteFiles}
    (referenced : Referenced platform before)
    (anchored : IsManifest path → Anchored platform before content)
    (other : path.directory ≠ .manifests) (placed : Placed path content before later) :
    Advanced platform before later := by
  refine ⟨referenced.placed anchored placed, placed.grown, fun name form => ?_⟩
  have different : (⟨.manifests, name⟩ : RemotePath) ≠ path :=
    fun same => other (congrArg RemotePath.directory same).symm
  rw [RemoteFiles.archives, placed _ (visible_of_isObjectName form), if_neg different]
  rfl

/-- A part of a publication that keeps references, and where it returns the archives. -/
def Advances {α : Type} (platform : RemotePlatform) (program : RemoteProgram α)
    (files : RemoteFiles) : Prop :=
  program.Ensures platform.host (Referenced platform)
    (Ends (fun _ => Advanced platform files) fun _ => Referenced platform) files

/-- Two parts advance one behind the other. -/
theorem Advances.bind {α β : Type} {program : RemoteProgram α} {next : α → RemoteProgram β}
    {files : RemoteFiles} (advances : Advances platform program files)
    (rest : ∀ value later, Advanced platform files later → Advances platform (next value) later) :
    Advances platform (program >>= next) files := by
  apply Ensures.bind advances
  · intro value later advanced
    apply (rest value later advanced).weaken
    intro result last ends
    cases result with
    | ok _ => exact advanced.trans ends
    | error fault => exact ends
  · exact fun _ _ referenced => referenced

/-- A value advances the files to themselves. -/
theorem advances_returned {α : Type} {value : α} {files : RemoteFiles}
    (referenced : Referenced platform files) :
    Advances platform (.returned value : RemoteProgram α) files :=
  Advanced.refl referenced

/-- A program that reads advances, and what it tells holds behind it. -/
theorem advances_reads {α β : Type} {program : RemoteProgram α} {next : α → RemoteProgram β}
    {files : RemoteFiles} {tells : α → Prop} (reads : program.Reads platform.host files tells)
    (referenced : Referenced platform files)
    (rest : ∀ value, tells value → Advances platform (next value) files) :
    Advances platform (program >>= next) files :=
  Ensures.afterReading reads referenced (fun _ => referenced) rest

/-- An upload keeps references where the object of a manifest is there. -/
theorem Uploads.references {program : RemoteProgram Unit} {path : RemotePath}
    {source : Option Text} {files : RemoteFiles}
    (uploads : Uploads platform program path source files)
    (referenced : Referenced platform files)
    (anchored : ∀ content, source = some content → IsManifest path →
      Anchored platform files content) :
    program.Ensures platform.host (Referenced platform)
      (Ends (fun _ later => Referenced platform later ∧ IsPlaced path source files later)
        fun _ => Referenced platform) files := by
  have placed : ∀ later, IsPlaced path source files later → Referenced platform later := by
    rintro later ⟨content, given, placed⟩
    exact referenced.placed (anchored content given) placed
  have may : ∀ later, MayPlace path source files later → Referenced platform later := by
    rintro later (alike | isPlaced)
    · exact referenced.alike alike
    · exact placed later isPlaced
  apply Ensures.mono uploads may
  intro result later ends
  cases result with
  | ok _ => exact ⟨placed later ends, ends⟩
  | error fault => exact may later ends

/-- An upload outside the archives. -/
theorem Uploads.advances {program : RemoteProgram Unit} {path : RemotePath}
    {source : Option Text} {files : RemoteFiles}
    (uploads : Uploads platform program path source files)
    (referenced : Referenced platform files)
    (anchored : ∀ content, source = some content → IsManifest path →
      Anchored platform files content)
    (other : path.directory ≠ .manifests) : Advances platform program files := by
  apply (uploads.references referenced anchored).weaken
  intro result later ends
  cases result with
  | error fault => exact ends
  | ok _ =>
    obtain ⟨_, content, given, placed⟩ := ends
    exact Advanced.of_placed referenced (anchored content given) other placed

/-! ## Objects and archives -/

/-- What a prepared manifest names is there. -/
theorem PreparedSnapshot.Sound.anchored {prepared : PreparedSnapshot}
    (sound : prepared.Sound platform) {files : RemoteFiles}
    (has : files.Has (prepared.objectName platform)) :
    Anchored platform files prepared.manifestContent := by
  intro name named
  rw [sound.named] at named
  rw [← Option.some.inj named]
  exact ⟨sound.object, has⟩

/-- The archives of a store with those that were asked for. -/
def stocked (files : RemoteFiles) (requested : List PreparedSnapshot) (name : String) :
    Option Text :=
  if isObjectName name then
    (files.archives name).or
      ((requested.find? fun prepared => decide (prepared.archiveName = name)).map
        PreparedSnapshot.manifestContent)
  else none

/-- Where the uploads of a publication have come to. -/
structure Stocking (platform : RemotePlatform) (initial : RemoteFiles)
    (done expected : List PreparedSnapshot) (presence : RemoteSnapshotPresence)
    (files : RemoteFiles) : Prop where
  referenced : Referenced platform files
  archives : ∀ name, isObjectName name = true → files.archives name = stocked initial done name
  reflects : presence.Reflects expected files

/-- The object of a prepared snapshot is uploaded where it is missing. -/
theorem ensures_object {store : SnapshotFiles} {prepared : PreparedSnapshot}
    (sound : prepared.Sound platform) {expected : List PreparedSnapshot}
    {presence : RemoteSnapshotPresence} {files : RemoteFiles}
    (referenced : Referenced platform files) (reflects : presence.Reflects expected files) :
    Program.Ensures platform.host (Referenced platform)
      (Ends (fun _ later => Advanced platform files later ∧
        later.Has (prepared.objectName platform)) fun _ => Referenced platform)
      (if decide (prepared.objectName platform ∈ presence.objects) = true then .returned ()
        else commitFile platform config (store.objects.get? (prepared.objectName platform))
          ⟨.objects, prepared.objectName platform⟩ (prepared.objectDigest platform))
      files := by
  split_ifs with present
  · exact ⟨Advanced.refl referenced, (reflects.objects _ (of_decide_eq_true present)).2⟩
  · have noManifest : ∀ content, store.objects.get? (prepared.objectName platform) = some content →
        IsManifest ⟨.objects, prepared.objectName platform⟩ → Anchored platform files content :=
      fun _ _ isManifest => absurd rfl isManifest.not_objects
    apply ((uploads_commitFile _ _ _ files).references referenced noManifest).weaken
    intro result later ends
    cases result with
    | error fault => exact ends
    | ok _ =>
      obtain ⟨_, content, given, placed⟩ := ends
      refine ⟨Advanced.of_placed referenced (noManifest content given) (by simp) placed, ?_⟩
      rw [RemoteFiles.Has, placed _ (visible_of_isObjectName sound.object), if_pos rfl]
      rfl

/-- The archive of a prepared snapshot is uploaded where it is missing. -/
theorem ensures_archive {prepared : PreparedSnapshot} (sound : prepared.Sound platform)
    {expected : List PreparedSnapshot} (member : prepared ∈ expected)
    {presence : RemoteSnapshotPresence} {files : RemoteFiles}
    (referenced : Referenced platform files) (reflects : presence.Reflects expected files)
    (has : files.Has (prepared.objectName platform)) :
    Program.Ensures platform.host (Referenced platform)
      (Ends (fun _ later => Referenced platform later ∧ Grown files later ∧
        ∀ name, isObjectName name = true → later.archives name = (files.archives name).or
          (if name = prepared.archiveName then some prepared.manifestContent else none))
        fun _ => Referenced platform)
      (if decide (prepared.archiveName ∈ presence.archives) = true then .returned ()
        else commitBytes platform config prepared.manifestContent
          ⟨.manifests, prepared.archiveName⟩ prepared.manifestDigest)
      files := by
  have there := reflects.archives prepared member
  split_ifs with present
  · refine ⟨referenced, Grown.refl files, fun name form => ?_⟩
    by_cases same : name = prepared.archiveName
    · obtain ⟨content, found⟩ := Option.isSome_iff_exists.mp (there.mp (of_decide_eq_true present))
      rw [same, found]
      rfl
    · rw [if_neg same, Option.or_none]
  · have anchored : ∀ content, some prepared.manifestContent = some content →
        IsManifest ⟨.manifests, prepared.archiveName⟩ → Anchored platform files content := by
      intro content given _
      rw [← Option.some.inj given]
      exact sound.anchored has
    apply ((uploads_commitBytes _ _ _ files).references referenced anchored).weaken
    intro result later ends
    cases result with
    | error fault => exact ends
    | ok _ =>
      obtain ⟨kept, content, given, placed⟩ := ends
      refine ⟨kept, placed.grown, fun name form => ?_⟩
      rw [RemoteFiles.archives, placed _ (visible_of_isObjectName form),
        ← Option.some.inj given]
      by_cases same : name = prepared.archiveName
      · have missing : files.archives prepared.archiveName = none := by
          rw [← Option.not_isSome_iff_eq_none, ← there]
          exact fun listed => present (decide_eq_true listed)
        rw [same, missing, if_pos rfl, if_pos rfl]
        rfl
      · have different : (⟨.manifests, name⟩ : RemotePath) ≠ ⟨.manifests, prepared.archiveName⟩ :=
          fun equal => same (congrArg RemotePath.name equal)
        rw [if_neg different, if_neg same, Option.or_none]
        rfl

/-- The archives with one more that was asked for. -/
theorem stocked_concat (files : RemoteFiles) (done : List PreparedSnapshot)
    (prepared : PreparedSnapshot) {name : String} (form : isObjectName name = true) :
    stocked files (done ++ [prepared]) name = (stocked files done name).or
      (if name = prepared.archiveName then some prepared.manifestContent else none) := by
  simp only [stocked, if_pos form, List.find?_append, Option.map_or, Option.or_assoc]
  congr 2
  by_cases same : name = prepared.archiveName
  · simp [same]
  · simp [same, Ne.symm same]

/-- One more snapshot is uploaded: its object, and its archive behind it. -/
theorem ensures_ensureImmutableLocked {store : SnapshotFiles} {initial : RemoteFiles}
    {done expected : List PreparedSnapshot} {prepared : PreparedSnapshot}
    (sound : ∀ prepared ∈ expected, prepared.Sound platform) (member : prepared ∈ expected)
    {presence : RemoteSnapshotPresence} {files : RemoteFiles}
    (stocking : Stocking platform initial done expected presence files) :
    (ensureImmutableLocked platform config store prepared presence).Ensures platform.host
      (Referenced platform)
      (Ends (fun result later =>
          Stocking platform initial (done ++ [prepared]) expected result.1 later ∧
            later.Has (prepared.objectName platform))
        fun _ => Referenced platform) files := by
  have own := sound prepared member
  apply Ensures.bind (ensures_object own stocking.referenced stocking.reflects)
  · intro _ stored holds
    obtain ⟨advanced, has⟩ := holds
    have reflects : presence.Reflects expected stored := by
      constructor
      · intro name listed
        obtain ⟨form, present⟩ := stocking.reflects.objects name listed
        exact ⟨form, advanced.grown name form present⟩
      · intro other listed
        rw [advanced.archives _ (sound other listed).archive]
        exact stocking.reflects.archives other listed
    apply Ensures.bind (ensures_archive own member advanced.referenced reflects has)
    · intro _ later ends
      obtain ⟨referenced, grown, archives⟩ := ends
      refine ⟨⟨referenced, ?_, ⟨?_, ?_⟩⟩, grown _ own.object has⟩
      · intro name form
        rw [archives name form, advanced.archives name form, stocking.archives name form,
          stocked_concat initial done prepared form]
      · intro name listed
        have known : name ∈ presence.objects ∨ name = prepared.objectName platform := by
          simp only at listed
          split_ifs at listed
          · exact Or.inl listed
          · simpa using listed
        rcases known with old | same
        · obtain ⟨form, present⟩ := reflects.objects name old
          exact ⟨form, grown name form present⟩
        · rw [same]
          exact ⟨own.object, grown _ own.object has⟩
      · intro other listed
        have before := reflects.archives other listed
        rw [archives _ (sound other listed).archive, Option.isSome_or, Bool.or_eq_true, ← before]
        by_cases present : prepared.archiveName ∈ presence.archives
        · simp only [decide_eq_true present, if_true]
          constructor
          · exact Or.inl
          · rintro (old | new)
            · exact old
            · split_ifs at new with same
              · rw [same]
                exact present
              · cases new
        · simp only [decide_eq_false present, Bool.false_eq_true, if_false, List.mem_append,
            List.mem_singleton]
          apply or_congr_right
          split_ifs with same <;> simp [same]
    · exact fun _ _ referenced => referenced
  · exact fun _ _ referenced => referenced

/-- The snapshots of a batch are uploaded one after the other. -/
theorem ensures_ensureArchives {store : SnapshotFiles} {initial : RemoteFiles}
    {archives expected : List PreparedSnapshot}
    (sound : ∀ prepared ∈ expected, prepared.Sound platform)
    (members : ∀ prepared ∈ archives, prepared ∈ expected) {presence : RemoteSnapshotPresence}
    {files : RemoteFiles} (stocking : Stocking platform initial [] expected presence files) :
    (ensureArchives platform config store archives presence).Ensures platform.host
      (Referenced platform)
      (Ends (fun result later => Stocking platform initial archives expected result.1 later)
        fun _ => Referenced platform) files := by
  let holds (known : RemoteSnapshotPresence × Nat × Nat) (rest : List PreparedSnapshot)
      (later : RemoteFiles) : Prop :=
    ∃ done, done ++ rest = archives ∧ Stocking platform initial done expected known.1 later
  have start : holds (presence, 0, 0) archives files := ⟨[], rfl, stocking⟩
  apply ensures_accumulate holds ?_ ?_ start
  · rintro ⟨known, published, uploaded⟩ prepared rest later ⟨done, all, stocking⟩
    have member : prepared ∈ expected := by
      apply members
      rw [← all]
      exact List.mem_append_right done List.mem_cons_self
    apply Ensures.bind (ensures_ensureImmutableLocked sound member stocking)
    · rintro result behind ⟨stocking, _⟩
      exact ⟨done ++ [prepared], (List.append_cons done prepared rest).symm.trans all, stocking⟩
    · exact fun _ _ referenced => referenced
  · rintro known later ⟨done, all, stocking⟩
    rw [List.append_nil] at all
    rw [← all]
    exact stocking

/-! ## Pointers -/

section Pointers

variable {prepared : PreparedSnapshot} {files : RemoteFiles}

/-- A prepared manifest is written to a pointer. -/
theorem advances_commitPointer (pointer : SnapshotPointer) (expected : String)
    (referenced : Referenced platform files)
    (anchored : Anchored platform files prepared.manifestContent) :
    Advances platform (commitBytes platform config prepared.manifestContent (pointerPath pointer)
      expected) files := by
  have other : (pointerPath pointer).directory ≠ .manifests := by
    intro same
    cases same
  apply (uploads_commitBytes _ _ _ files).advances referenced ?_ other
  intro content given _
  rw [← Option.some.inj given]
  exact anchored

/-- Keeping the last known good pointer advances the files. -/
theorem advances_keepLastKnownGood (referenced : Referenced platform files)
    (anchored : Anchored platform files prepared.manifestContent) :
    Advances platform (keepLastKnownGood platform config prepared) files := by
  apply advances_reads (reads_remoteFileExists (pointerPath .lastKnownGood) files) referenced
  intro present _
  apply advances_reads (reads_lift fun _ _ => trivial) referenced
  intro fresh _
  split_ifs
  · exact advances_commitPointer _ _ referenced anchored
  · exact advances_returned referenced

/-- The switch of the current pointer advances the files. -/
theorem advances_switchCurrent (referenced : Referenced platform files)
    (anchored : Anchored platform files prepared.manifestContent) :
    Advances platform (switchCurrent platform config prepared) files := by
  apply ensures_handle.mpr
  apply Ensures.weaken (advances_commitPointer .current prepared.manifestDigest referenced anchored)
  intro result later ends
  cases result with
  | ok _ => exact ends
  | error fault => cases fault <;> exact ends

/-- The pointers other than `previous` are switched. -/
theorem advances_switchPointers (referenced : Referenced platform files)
    (anchored : Anchored platform files prepared.manifestContent) :
    Advances platform (switchPointers platform config prepared) files := by
  apply Advances.bind (advances_keepLastKnownGood referenced anchored)
  intro _ kept advanced
  have anchored := anchored.grown advanced.grown
  apply Advances.bind (advances_switchCurrent advanced.referenced anchored)
  intro _ switched advanced
  have referenced := advanced.referenced
  have verified : Advances platform (verifyCurrent config prepared) switched := by
    apply advances_reads (reads_remoteSha256Required (pointerPath .current) switched) referenced
    intro digest _
    exact (reads_lift fun _ _ => trivial : Program.Reads platform.host _ switched fun _ =>
      True).ensures referenced |>.weaken fun result later ends => by
        cases result with
        | ok _ =>
          rw [ends.1]
          exact Advanced.refl referenced
        | error fault =>
          rw [show later = switched from ends]
          exact referenced
  apply Advances.bind verified
  intro _ later advanced
  exact advances_returned advanced.referenced

/-- The snapshot becomes current. -/
theorem advances_commitCurrentLocked (referenced : Referenced platform files)
    (anchored : Anchored platform files prepared.manifestContent) :
    Advances platform (commitCurrentLocked platform config prepared) files := by
  apply advances_reads (reads_remoteFileExists (pointerPath .current) files) referenced
  intro present _
  split_ifs
  · apply advances_reads (reads_remoteSha256Required (pointerPath .current) files) referenced
    intro digest _
    split_ifs
    · exact advances_returned referenced
    · have kept : Advances platform (keepPrevious platform config) files := by
        apply (uploads_keepPrevious files).advances referenced ?_ nofun
        intro content current _
        exact referenced (pointerPath .current) (Or.inr ⟨.current, rfl⟩) content current
      apply Advances.bind kept
      intro _ later advanced
      exact advances_switchPointers advanced.referenced (anchored.grown advanced.grown)
  · exact advances_switchPointers referenced anchored

end Pointers

end DTLab
