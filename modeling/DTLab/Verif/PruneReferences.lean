import DTLab.Snapshots.Prune
import DTLab.Verif.Backlog

/-!
# A cleanup keeps every reference

At each interruption point of a cleanup no object of a pointer is deleted, and no archive remains
whose object was. Behind the last step the objects are those of the pointers and the newest ones,
with all their archives and no others.
-/

namespace DTLab

open Library (Json Text Dict)

variable {μ : Type} [LinearOrder μ]

/-- Some pointer names an object. -/
def SnapshotFiles.Points (platform : SnapshotPlatform) (files : SnapshotFiles) (name : String) :
    Prop :=
  ∃ pointer manifest, files.readManifest platform pointer = .ok manifest ∧
    objectIn platform manifest = name

/-- Each pointer that is there is read and its object is there, and each archive is read. -/
structure SnapshotFiles.Uncorrupted (platform : SnapshotPlatform) (files : SnapshotFiles) :
    Prop where
  pointers : ∀ pointer content, files.pointers pointer = some content →
    ∃ manifest, files.readManifest platform pointer = .ok manifest ∧
      (files.objects.get? (objectIn platform manifest)).isSome
  archives : ∀ name ∈ listedNames files.manifests,
    ∃ manifest, files.readArchivedManifest platform name = .ok manifest

/-- A file that was in a store and is not in another one. -/
def PrunedFile.Gone (files later : SnapshotFiles) : PrunedFile → Prop
  | manifest name => (files.manifests.get? name).isSome ∧ later.manifests.get? name = none
  | object name => (files.objects.get? name).isSome ∧ later.objects.get? name = none

/-! ## Listings -/

/-- The names that are listed. -/
theorem mem_listedNames {directory : Dict String Text} {name : String} :
    name ∈ listedNames directory ↔
      isObjectName name = true ∧ (directory.get? name).isSome := by
  rw [listedNames, List.mem_filter, and_comm]
  apply and_congr_right
  intro _
  rw [Option.isSome_iff_ne_none, ne_eq, Dict.get?_eq_none, not_not]

/-- No name is listed twice. -/
theorem nodup_listedNames (directory : Dict String Text) : (listedNames directory).Nodup :=
  directory.distinct.filter _

/-- The names in the order of their age are those that are listed. -/
theorem mem_objectsByAge {modified : String → μ} {objects : Dict String Text} {name : String} :
    name ∈ objectsByAge modified objects ↔
      isObjectName name = true ∧ (objects.get? name).isSome := by
  rw [objectsByAge, List.mem_insertionSort, mem_listedNames]

/-- The first objects by age are as many as wanted, if there are, and none is older than one that
is not among them. -/
theorem objectsByAge_take (modified : String → μ) (objects : Dict String Text) (count : Nat) :
    ((objectsByAge modified objects).take count).Nodup ∧
      ((objectsByAge modified objects).take count).length =
        min count (listedNames objects).length ∧
      ∀ inside ∈ (objectsByAge modified objects).take count,
        ∀ outside ∈ listedNames objects,
          outside ∉ (objectsByAge modified objects).take count →
            modified outside ≤ modified inside := by
  have sorted : (objectsByAge modified objects).Pairwise
      fun first second => modified second ≤ modified first :=
    List.pairwise_insertionSort _ _
  have perm := List.perm_insertionSort (fun first second => modified second ≤ modified first)
    (listedNames objects)
  have distinct : (objectsByAge modified objects).Nodup :=
    perm.nodup_iff.mpr (nodup_listedNames objects)
  refine ⟨distinct.sublist (List.take_sublist _ _), ?_, ?_⟩
  · rw [List.length_take, objectsByAge, perm.length_eq]
  · intro inside first outside listed apart
    have member : outside ∈ objectsByAge modified objects := perm.mem_iff.mpr listed
    rw [← List.take_append_drop count (objectsByAge modified objects)] at member sorted
    rcases List.mem_append.mp member with early | late
    · exact absurd early apart
    · exact (List.pairwise_append.mp sorted).2.2 inside first outside late

/-! ## The survey -/

/-- The objects that a cleanup keeps. -/
def keptObjects (platform : SnapshotPlatform) (modified : String → μ) (retain : Int)
    (files : SnapshotFiles) : List String :=
  ([.current, .lastKnownGood, .previous].filterMap fun pointer =>
      (files.readManifest platform pointer).toOption.map (objectIn platform)) ++
    (objectsByAge modified files.objects).take retain.toNat

variable {platform : SnapshotPlatform} {modified : String → μ} {retain : Int}
  {files later : SnapshotFiles}

/-- What is kept is pointed at or among the newest. -/
theorem mem_keptObjects {name : String} :
    name ∈ keptObjects platform modified retain files ↔
      files.Points platform name ∨
        name ∈ (objectsByAge modified files.objects).take retain.toNat := by
  rw [keptObjects, List.mem_append]
  apply or_congr_left
  rw [List.mem_filterMap]
  constructor
  · rintro ⟨pointer, _, shown⟩
    cases read : files.readManifest platform pointer with
    | error fault =>
      rw [read] at shown
      cases shown
    | ok manifest =>
      rw [read] at shown
      exact ⟨pointer, manifest, read, Option.some.inj shown⟩
  · rintro ⟨pointer, manifest, read, rfl⟩
    refine ⟨pointer, by cases pointer <;> decide, ?_⟩
    rw [read]
    rfl

/-- The pointers of an uncorrupted store are read. -/
theorem SnapshotFiles.Uncorrupted.suppressStore_readManifest
    (uncorrupted : files.Uncorrupted platform) (pointer : SnapshotPointer) :
    suppressStore (files.readManifest platform pointer) =
      .ok (files.readManifest platform pointer).toOption := by
  cases found : files.pointers pointer with
  | none =>
    rw [SnapshotFiles.readManifest, found]
    rfl
  | some content =>
    obtain ⟨manifest, read, _⟩ := uncorrupted.pointers pointer content found
    rw [read]
    rfl

/-- The survey of an uncorrupted store. -/
theorem SnapshotFiles.Uncorrupted.survey (uncorrupted : files.Uncorrupted platform)
    (enough : 3 ≤ retain) :
    PruneRun.survey platform modified retain files =
      .archives (keptObjects platform modified retain files)
        (objectsByAge modified files.objects)
        ((listedNames files.manifests).insertionSort (· ≤ ·)) [] := by
  have pointed : files.protectedObjects platform =
      .ok ([.current, .lastKnownGood, .previous].filterMap fun pointer =>
        (files.readManifest platform pointer).toOption.map (objectIn platform)) := by
    simp only [SnapshotFiles.protectedObjects, List.mapM_cons, List.mapM_nil,
      uncorrupted.suppressStore_readManifest, bind, Except.bind, pure, Except.pure]
    rfl
  rw [PruneRun.survey, if_neg (not_lt.mpr enough), pointed]
  rfl

/-! ## The passes -/

/-- A directory without the files of some names, which were deleted where they were there. -/
structure Swept (before after : Dict String Text) (gone deleted : String → Prop) : Prop where
  absent : ∀ name, gone name → after.get? name = none
  kept : ∀ name, ¬ gone name → after.get? name = before.get? name
  deletions : ∀ name, deleted name ↔ (before.get? name).isSome ∧ after.get? name = none

namespace Swept

variable {before after : Dict String Text} {doomed deleted : String → Prop} {name : String}
  {names : List String}

/-- Nothing is deleted where nothing is gone. -/
theorem refl (directory : Dict String Text) {gone : String → Prop}
    (absent : ∀ name, gone name → directory.get? name = none) :
    Swept directory directory gone fun _ => False := by
  refine ⟨absent, fun _ _ => rfl, ?_⟩
  intro name
  constructor
  · exact False.elim
  · rintro ⟨present, none⟩
    rw [none] at present
    cases present

/-- The file of a doomed name is deleted. -/
theorem erase (swept : Swept before after (fun n => doomed n ∧ n ∉ name :: names) deleted)
    (isDoomed : doomed name) (fresh : name ∉ names) (present : (before.get? name).isSome) :
    Swept before (after.erase name) (fun n => doomed n ∧ n ∉ names)
      fun n => deleted n ∨ n = name := by
  constructor
  · rintro other ⟨isGone, apart⟩
    rw [Dict.get?_erase]
    by_cases same : other = name
    · rw [if_pos same]
    · rw [if_neg same]
      apply swept.absent other
      exact ⟨isGone, List.not_mem_cons_of_ne_of_not_mem same apart⟩
  · intro other remains
    have different : other ≠ name := by
      rintro rfl
      exact remains ⟨isDoomed, fresh⟩
    rw [Dict.get?_erase, if_neg different]
    apply swept.kept other
    rintro ⟨isGone, apart⟩
    exact remains ⟨isGone, fun member => apart (List.mem_cons_of_mem name member)⟩
  · intro other
    rw [Dict.get?_erase, swept.deletions]
    by_cases same : other = name
    · subst same
      simp [present]
    · simp [same]

/-- The file of a name that is not doomed stays. -/
theorem skip (swept : Swept before after (fun n => doomed n ∧ n ∉ name :: names) deleted)
    (spared : ¬ doomed name) : Swept before after (fun n => doomed n ∧ n ∉ names) deleted := by
  refine ⟨?_, ?_, swept.deletions⟩
  · rintro other ⟨isGone, apart⟩
    have different : other ≠ name := by
      rintro rfl
      exact spared isGone
    exact swept.absent other ⟨isGone, List.not_mem_cons_of_ne_of_not_mem different apart⟩
  · intro other remains
    apply swept.kept other
    rintro ⟨isGone, apart⟩
    exact remains ⟨isGone, fun member => apart (List.mem_cons_of_mem name member)⟩

/-- Names for names. -/
theorem congr {gone gone' deleted' : String → Prop} (swept : Swept before after gone deleted)
    (sameGone : ∀ name, gone' name ↔ gone name)
    (sameDeleted : ∀ name, deleted' name ↔ deleted name) :
    Swept before after gone' deleted' where
  absent name isGone := swept.absent name ((sameGone name).mp isGone)
  kept name remains := swept.kept name fun isGone => remains ((sameGone name).mpr isGone)
  deletions name := (sameDeleted name).trans (swept.deletions name)

end Swept

/-- The archive of a name is one that a cleanup deletes. -/
def Doomed (platform : SnapshotPlatform) (files : SnapshotFiles) (keep : List String)
    (name : String) : Prop :=
  isObjectName name = true ∧ ∃ manifest, files.readArchivedManifest platform name = .ok manifest ∧
    (objectIn platform manifest ∉ keep ∨ files.objects.get? (objectIn platform manifest) = none)

/-- What a cleanup has done when the archives and the objects of some names are still to come. -/
structure Trimmed (platform : SnapshotPlatform) (files later : SnapshotFiles)
    (keep archives objects : List String) (removed : List PrunedFile) : Prop where
  pointers : later.pointers = files.pointers
  manifests : Swept files.manifests later.manifests
    (fun name => Doomed platform files keep name ∧ name ∉ archives)
    fun name => .manifest name ∈ removed
  objects : Swept files.objects later.objects
    (fun name => (isObjectName name = true ∧ name ∉ keep) ∧ name ∉ objects)
    fun name => .object name ∈ removed

/-- What is done when a cleanup is interrupted at a point. -/
def PruneRun.Reached (platform : SnapshotPlatform) (modified : String → μ) (retain : Int)
    (files later : SnapshotFiles) : PruneRun → Prop
  | .surveying => later = files
  | .archives keep aged names removed => keep = keptObjects platform modified retain files ∧
    aged = objectsByAge modified files.objects ∧ names.Nodup ∧
    (∀ name ∈ names, name ∈ listedNames files.manifests) ∧
    Trimmed platform files later keep names aged removed
  | .objects keep names removed => keep = keptObjects platform modified retain files ∧
    names.Nodup ∧ (∀ name ∈ names, name ∈ listedNames files.objects) ∧
    Trimmed platform files later keep [] names removed
  | .returned removed => Trimmed platform files later
    (keptObjects platform modified retain files) [] [] removed
  | .raised _ => False

/-- Reading an archive reads one file. -/
theorem SnapshotFiles.readArchivedManifest_congr {name : String}
    (same : later.manifests.get? name = files.manifests.get? name) :
    later.readArchivedManifest platform name = files.readArchivedManifest platform name := by
  rw [SnapshotFiles.readArchivedManifest, SnapshotFiles.readArchivedManifest, same]

/-- As long as no object is behind, all objects are there. -/
theorem Trimmed.objects_same {keep archives : List String} {removed : List PrunedFile}
    (trimmed : Trimmed platform files later keep archives (objectsByAge modified files.objects)
      removed) (name : String) : later.objects.get? name = files.objects.get? name := by
  by_cases isGone : (isObjectName name = true ∧ name ∉ keep) ∧
      name ∉ objectsByAge modified files.objects
  · have absent : files.objects.get? name = none := by
      have unlisted := isGone.2
      rw [mem_objectsByAge, not_and, Option.not_isSome_iff_eq_none] at unlisted
      exact unlisted isGone.1.1
    rw [trimmed.objects.absent name isGone, absent]
  · exact trimmed.objects.kept name isGone

namespace PruneRun

/-- One step of a cleanup of an uncorrupted store. -/
theorem step_reached (uncorrupted : files.Uncorrupted platform) (enough : 3 ≤ retain)
    {run : PruneRun} (reached : run.Reached platform modified retain files later) :
    (run.step platform modified retain later).1.Reached platform modified retain files
      (run.step platform modified retain later).2 := by
  cases run with
  | surveying =>
    obtain rfl : later = files := reached
    have surveyed : survey platform modified retain later = _ := uncorrupted.survey enough
    rw [step, surveyed]
    refine ⟨rfl, rfl, ?_, fun name member => (List.mem_insertionSort _).mp member, rfl, ?_, ?_⟩
    · exact (List.perm_insertionSort _ _).nodup_iff.mpr (nodup_listedNames later.manifests)
    · apply (Swept.refl later.manifests _).congr (fun _ => Iff.rfl)
      · exact fun _ => List.mem_nil_iff _
      · rintro name ⟨⟨form, manifest, read, _⟩, unlisted⟩
        rw [List.mem_insertionSort, mem_listedNames, not_and,
          Option.not_isSome_iff_eq_none] at unlisted
        exact unlisted form
    · apply (Swept.refl later.objects _).congr (fun _ => Iff.rfl)
      · exact fun _ => List.mem_nil_iff _
      · rintro name ⟨⟨form, _⟩, unlisted⟩
        rw [mem_objectsByAge, not_and, Option.not_isSome_iff_eq_none] at unlisted
        exact unlisted form
  | archives keep aged names removed =>
    obtain ⟨rfl, rfl, distinct, listed, trimmed⟩ := reached
    cases names with
    | nil =>
      have sorted := List.perm_insertionSort
        (fun first second => modified second ≤ modified first) (listedNames files.objects)
      exact ⟨rfl, sorted.nodup_iff.mpr (nodup_listedNames files.objects),
        fun name member => sorted.mem_iff.mp member, trimmed⟩
    | cons name names =>
      obtain ⟨fresh, distinctRest⟩ := List.nodup_cons.mp distinct
      have listedRest : ∀ other ∈ names, other ∈ listedNames files.manifests :=
        fun other member => listed other (List.mem_cons_of_mem name member)
      have here := listed name List.mem_cons_self
      obtain ⟨form, present⟩ := mem_listedNames.mp here
      have same : later.manifests.get? name = files.manifests.get? name :=
        trimmed.manifests.kept name fun isGone => isGone.2 List.mem_cons_self
      obtain ⟨manifest, read⟩ := uncorrupted.archives name here
      have readLater := (SnapshotFiles.readArchivedManifest_congr same).trans read
      simp only [step, readLater]
      rw [trimmed.objects_same]
      split_ifs with unkept
      · refine ⟨rfl, rfl, distinctRest, listedRest, trimmed.pointers, ?_, ?_⟩
        · apply (trimmed.manifests.erase ⟨form, manifest, read, unkept⟩ fresh present).congr
            (fun _ => Iff.rfl)
          simp
        · apply trimmed.objects.congr (fun _ => Iff.rfl)
          simp
      · refine ⟨rfl, rfl, distinctRest, listedRest, trimmed.pointers, ?_, trimmed.objects⟩
        apply trimmed.manifests.skip
        rintro ⟨_, other, readOther, unkeptOther⟩
        rw [read] at readOther
        obtain rfl := Except.ok.inj readOther
        exact unkept unkeptOther
  | objects keep names removed =>
    obtain ⟨rfl, distinct, listed, trimmed⟩ := reached
    cases names with
    | nil => exact trimmed
    | cons name names =>
      obtain ⟨fresh, distinctRest⟩ := List.nodup_cons.mp distinct
      have listedRest : ∀ other ∈ names, other ∈ listedNames files.objects :=
        fun other member => listed other (List.mem_cons_of_mem name member)
      obtain ⟨form, present⟩ := mem_listedNames.mp (listed name List.mem_cons_self)
      rw [step]
      by_cases unkept : name ∉ keptObjects platform modified retain files
      · rw [if_pos unkept]
        refine ⟨rfl, distinctRest, listedRest, trimmed.pointers, ?_, ?_⟩
        · apply trimmed.manifests.congr (fun _ => Iff.rfl)
          simp
        · apply (trimmed.objects.erase ⟨form, unkept⟩ fresh present).congr (fun _ => Iff.rfl)
          simp
      · rw [if_neg unkept]
        refine ⟨rfl, distinctRest, listedRest, trimmed.pointers, trimmed.manifests, ?_⟩
        exact trimmed.objects.skip fun doomed => unkept doomed.2
  | returned removed => exact reached
  | raised fault => exact reached.elim

/-- Some number of steps from a state returns. -/
def Returns (platform : SnapshotPlatform) (modified : String → μ) (retain : Int) (run : PruneRun)
    (files : SnapshotFiles) : Prop :=
  ∃ count removed later,
    (fun state : PruneRun × SnapshotFiles => state.1.step platform modified retain state.2)^[count]
      (run, files) = (.returned removed, later)

/-- A state returns where the one behind its step does. -/
theorem Returns.of_step {run : PruneRun}
    (returns : Returns platform modified retain (run.step platform modified retain files).1
      (run.step platform modified retain files).2) :
    Returns platform modified retain run files := by
  obtain ⟨count, removed, later, reached⟩ := returns
  exact ⟨count + 1, removed, later,
    (Function.iterate_succ_apply _ count (run, files)).trans reached⟩

/-- The pass over the objects returns. -/
theorem returns_objects (platform : SnapshotPlatform) (modified : String → μ) (retain : Int)
    (keep names : List String) (removed : List PrunedFile) (files : SnapshotFiles) :
    Returns platform modified retain (.objects keep names removed) files := by
  induction names generalizing removed files with
  | nil => exact ⟨1, removed, files, rfl⟩
  | cons name names ih =>
    apply Returns.of_step
    rw [step]
    by_cases unkept : name ∉ keep
    · rw [if_pos unkept]
      exact ih _ _
    · rw [if_neg unkept]
      exact ih _ _

/-- The pass over the archives of an uncorrupted store returns. -/
theorem returns_archives (uncorrupted : files.Uncorrupted platform) (enough : 3 ≤ retain)
    {keep aged names : List String} {removed : List PrunedFile}
    (reached : (archives keep aged names removed).Reached platform modified retain files later) :
    Returns platform modified retain (.archives keep aged names removed) later := by
  induction names generalizing removed later with
  | nil => exact Returns.of_step (returns_objects platform modified retain keep aged removed later)
  | cons name names ih =>
    have next := step_reached uncorrupted enough reached
    apply Returns.of_step
    rw [step] at next ⊢
    cases read : later.readArchivedManifest platform name with
    | error fault =>
      rw [read] at next
      exact next.elim
    | ok manifest =>
      rw [read] at next
      simp only at next ⊢
      split_ifs at next ⊢
      · exact ih next
      · exact ih next

end PruneRun

/-! ## Interruption and completion -/

/-- A store behind some steps of a cleanup keeps what its manifests refer to. -/
structure SnapshotFiles.KeepsReferences (platform : SnapshotPlatform)
    (files later : SnapshotFiles) : Prop where
  pointers : later.pointers = files.pointers
  pointed : ∀ name, files.Points platform name →
    later.objects.get? name = files.objects.get? name
  archived : ∀ name manifest, isObjectName name = true →
    later.readArchivedManifest platform name = .ok manifest →
    later.objects.get? (objectIn platform manifest) =
      files.objects.get? (objectIn platform manifest)

/-- What a cleanup makes of the files: the objects that stay are those of the pointers and the
newest, the archives that stay are theirs, and what was removed is returned. -/
structure SnapshotFiles.PrunedTo (platform : SnapshotPlatform) (modified : String → μ)
    (retain : Int) (files later : SnapshotFiles) (removed : List PrunedFile) : Prop where
  objects : ∃ newest : List String, newest.Nodup ∧
    (∀ name ∈ newest, name ∈ listedNames files.objects) ∧
    newest.length = min retain.toNat (listedNames files.objects).length ∧
    (∀ inside ∈ newest, ∀ outside ∈ listedNames files.objects, outside ∉ newest →
      modified outside ≤ modified inside) ∧
    ∀ name, isObjectName name = true →
      (name ∈ newest ∨ files.Points platform name →
        later.objects.get? name = files.objects.get? name) ∧
      (¬ (name ∈ newest ∨ files.Points platform name) → later.objects.get? name = none)
  archives : ∀ name manifest, isObjectName name = true →
    files.readArchivedManifest platform name = .ok manifest →
    ((later.objects.get? (objectIn platform manifest)).isSome →
      later.manifests.get? name = files.manifests.get? name) ∧
    (later.objects.get? (objectIn platform manifest) = none → later.manifests.get? name = none)
  others : ∀ name, isObjectName name = false →
    later.objects.get? name = files.objects.get? name ∧
      later.manifests.get? name = files.manifests.get? name
  removed : ∀ file, file ∈ removed ↔ file.Gone files later

/-- The objects that manifests name have the form of objects. -/
theorem isObjectName_objectIn {label : String} {content : Text} {manifest : ManifestFields}
    (decoded : decodeManifest platform label content = .ok manifest) :
    isObjectName (objectIn platform manifest) = true := by
  rw [decodeManifest] at decoded
  split at decoded
  · cases decoded
  · rw [Library.Attempt.bind_eq_ok] at decoded
    obtain ⟨present, _, decoded⟩ := decoded
    simp only at decoded
    split_ifs at decoded
    split at decoded
    · split_ifs at decoded with origin form coherent
      obtain rfl := Except.ok.inj decoded
      exact form
    · cases decoded

namespace Trimmed

variable {removed : List PrunedFile} {names : List String}

/-- No reference dangles as long as every archive is still to come or is done before the
objects. -/
theorem keepsReferences
    (trimmed : Trimmed platform files later (keptObjects platform modified retain files) []
      names removed) : files.KeepsReferences platform later := by
  refine ⟨trimmed.pointers, ?_, ?_⟩
  · intro name points
    apply trimmed.objects.kept name
    rintro ⟨⟨_, unkept⟩, _⟩
    exact unkept (mem_keptObjects.mpr (Or.inl points))
  · intro name manifest form read
    by_cases doomed : Doomed platform files (keptObjects platform modified retain files) name
    · rw [SnapshotFiles.readArchivedManifest,
        trimmed.manifests.absent name ⟨doomed, List.not_mem_nil⟩] at read
      cases read
    · have same := trimmed.manifests.kept name fun isGone => doomed isGone.1
      rw [SnapshotFiles.readArchivedManifest_congr same] at read
      apply trimmed.objects.kept
      rintro ⟨⟨_, unkept⟩, _⟩
      exact doomed ⟨form, manifest, read, Or.inl unkept⟩

/-- Behind both passes the store is pruned. -/
theorem prunedTo
    (trimmed : Trimmed platform files later (keptObjects platform modified retain files) [] []
      removed) : files.PrunedTo platform modified retain later removed := by
  refine ⟨⟨(objectsByAge modified files.objects).take retain.toNat, ?_⟩, ?_, ?_, ?_⟩
  · have take : _ ∧ _ ∧ _ := objectsByAge_take modified files.objects retain.toNat
    refine ⟨take.1, ?_, take.2.1, take.2.2, ?_⟩
    · intro name member
      exact (List.mem_insertionSort _).mp (List.mem_of_mem_take member)
    · intro name form
      have kept : name ∈ keptObjects platform modified retain files ↔ _ :=
        mem_keptObjects.trans or_comm
      constructor
      · intro stays
        exact trimmed.objects.kept name fun isGone => isGone.1.2 (kept.mpr stays)
      · intro goes
        exact trimmed.objects.absent name
          ⟨⟨form, fun inside => goes (kept.mp inside)⟩, List.not_mem_nil⟩
  · intro name manifest form read
    have formObject : isObjectName (objectIn platform manifest) = true := by
      have decoded := read
      rw [SnapshotFiles.readArchivedManifest] at decoded
      split at decoded
      · cases decoded
      · split_ifs at decoded
        exact isObjectName_objectIn decoded
    constructor
    · intro present
      apply trimmed.manifests.kept name
      rintro ⟨⟨_, other, readOther, unkept⟩, _⟩
      rw [read] at readOther
      obtain rfl := Except.ok.inj readOther
      rcases unkept with outside | absent
      · rw [trimmed.objects.absent _ ⟨⟨formObject, outside⟩, List.not_mem_nil⟩] at present
        cases present
      · by_cases outside : objectIn platform manifest ∈ keptObjects platform modified retain files
        · rw [trimmed.objects.kept _ fun isGone => isGone.1.2 outside, absent] at present
          cases present
        · rw [trimmed.objects.absent _ ⟨⟨formObject, outside⟩, List.not_mem_nil⟩] at present
          cases present
    · intro gone
      apply trimmed.manifests.absent name
      refine ⟨⟨form, manifest, read, ?_⟩, List.not_mem_nil⟩
      by_cases inside : objectIn platform manifest ∈ keptObjects platform modified retain files
      · right
        rw [← gone]
        exact (trimmed.objects.kept _ fun isGone => isGone.1.2 inside).symm
      · exact Or.inl inside
  · intro name foreign
    constructor
    · apply trimmed.objects.kept name
      rintro ⟨⟨form, _⟩, _⟩
      rw [foreign] at form
      cases form
    · apply trimmed.manifests.kept name
      rintro ⟨⟨form, _⟩, _⟩
      rw [foreign] at form
      cases form
  · intro file
    cases file with
    | manifest name => exact trimmed.manifests.deletions name
    | object name => exact trimmed.objects.deletions name

end Trimmed

/-- At every point of a cleanup of an uncorrupted store the references are kept. -/
theorem PruneRun.Reached.keepsReferences {run : PruneRun}
    (reached : run.Reached platform modified retain files later) :
    files.KeepsReferences platform later := by
  cases run with
  | surveying =>
    obtain rfl : later = files := reached
    exact ⟨rfl, fun _ _ => rfl, fun _ _ _ _ => rfl⟩
  | archives keep aged names removed =>
    obtain ⟨rfl, rfl, _, _, trimmed⟩ := reached
    exact ⟨trimmed.pointers, fun name _ => trimmed.objects_same name,
      fun _ manifest _ _ => trimmed.objects_same (objectIn platform manifest)⟩
  | objects keep names removed =>
    obtain ⟨rfl, _, _, trimmed⟩ := reached
    exact trimmed.keepsReferences
  | returned removed => exact Trimmed.keepsReferences reached
  | raised fault => exact reached.elim

/-- Every state of a cleanup of an uncorrupted store is one of its points. -/
theorem SnapshotFiles.pruned_reached (uncorrupted : files.Uncorrupted platform)
    (enough : 3 ≤ retain) (count : Nat) :
    (files.pruned platform modified retain count).1.Reached platform modified retain files
      (files.pruned platform modified retain count).2 := by
  induction count with
  | zero => rfl
  | succ count ih =>
    rw [SnapshotFiles.pruned, Function.iterate_succ_apply']
    exact PruneRun.step_reached uncorrupted enough ih

/-- A cleanup of an uncorrupted store returns. -/
theorem SnapshotFiles.pruned_returns (uncorrupted : files.Uncorrupted platform)
    (enough : 3 ≤ retain) :
    ∃ count removed later,
      files.pruned platform modified retain count = (.returned removed, later) := by
  have first : (PruneRun.survey platform modified retain files).Reached platform modified retain
      files files := SnapshotFiles.pruned_reached uncorrupted enough 1
  rw [uncorrupted.survey enough] at first
  have returns : PruneRun.Returns platform modified retain .surveying files := by
    apply PruneRun.Returns.of_step
    rw [PruneRun.step, uncorrupted.survey enough]
    exact PruneRun.returns_archives uncorrupted enough first
  exact returns

/-- A store that publications build is uncorrupted. -/
theorem SnapshotFiles.Sound.uncorrupted (sound : files.Sound platform) :
    files.Uncorrupted platform := by
  constructor
  · intro pointer content found
    obtain ⟨manifest, _, ⟨request, _, _, object⟩, read⟩ := sound.readManifest found
    refine ⟨manifest.fields, read, ?_⟩
    have name : objectIn platform manifest.fields = manifest.objectName :=
      platform.str_text manifest.objectName
    rw [name, object]
    rfl
  · intro name member
    obtain ⟨_, present⟩ := mem_listedNames.mp member
    obtain ⟨content, found⟩ := Option.isSome_iff_exists.mp present
    obtain ⟨rfl, manifest, rfl, holds⟩ := sound.manifests name content found
    exact ⟨manifest.fields,
      SnapshotFiles.readArchivedManifest_of_sound holds.sound found rfl⟩

/-- A cleanup of an uncorrupted store keeps, at every interruption point, the objects of the
pointers and those of the archives that remain. It raises nothing and returns, and then the
objects are exactly those of the pointers and the newest ones, the archives exactly theirs. -/
theorem prune_keeps_references (platform : SnapshotPlatform) (modified : String → μ)
    (retain : Int) (files : SnapshotFiles) (enough : 3 ≤ retain)
    (uncorrupted : files.Uncorrupted platform) :
    (∀ count, files.KeepsReferences platform (files.pruned platform modified retain count).2 ∧
      ∀ fault, (files.pruned platform modified retain count).1 ≠ .raised fault) ∧
    (∃ count removed later,
      files.pruned platform modified retain count = (.returned removed, later)) ∧
    ∀ count removed later,
      files.pruned platform modified retain count = (.returned removed, later) →
      files.PrunedTo platform modified retain later removed := by
  refine ⟨?_, SnapshotFiles.pruned_returns uncorrupted enough, ?_⟩
  · intro count
    have reached : (files.pruned platform modified retain count).1.Reached platform modified retain
        files _ := SnapshotFiles.pruned_reached uncorrupted enough count
    refine ⟨reached.keepsReferences, ?_⟩
    intro fault raised
    rw [raised] at reached
    exact reached
  · intro count removed later returned
    have reached : (files.pruned platform modified retain count).1.Reached platform modified retain
        files _ := SnapshotFiles.pruned_reached uncorrupted enough count
    rw [returned] at reached
    exact Trimmed.prunedTo reached

/-- It is sound. -/
theorem repeatedManifest_sound : repeatedManifest.Sound shiftHost.toSnapshotPlatform := by
  have sound := (shiftPublication 3).sound
  exact ⟨sound.contractVersion, sound.snapshotId, sound.collectorVersion, sound.sha256⟩

/-- It names the object of the last day. -/
theorem repeatedManifest_objectName :
    repeatedManifest.objectName = (shiftManifest 3).objectName := by
  have digest : repeatedManifest.sha256 = (shiftManifest 3).sha256 := by
    unfold repeatedManifest
    rfl
  exact congrArg objectNameOf digest

/-- The name of its archive. -/
def repeatedName : String :=
  objectNameOf (shiftHost.sha256Text (manifestText repeatedManifest.fields))

/-- A store of four objects in which two archives share the object of the last day. -/
def sharedFiles : SnapshotFiles :=
  { shiftFiles with
    manifests := shiftFiles.manifests.set repeatedName (manifestText repeatedManifest.fields) }

/-- Its archive is none of those of the days. -/
theorem repeatedName_ne (day : Fin 4) : (shiftPublication day).prepared.archiveName ≠
    repeatedName := by
  intro same
  have names : objectNameOf (shiftHost.sha256Text (manifestText (shiftManifest day).fields)) =
    objectNameOf (shiftHost.sha256Text (manifestText repeatedManifest.fields)) := same
  rw [shiftManifest_digest, shiftDigestOf_manifest repeatedManifest_sound] at names
  have digits := shiftDigest_digit names
  clear same names
  revert day
  decide

/-- The archives of the days are read. -/
theorem sharedFiles_archive (day : Fin 4) :
    sharedFiles.readArchivedManifest shiftHost.toSnapshotPlatform
      (shiftPublication day).prepared.archiveName = .ok (shiftManifest day).fields := by
  have found : sharedFiles.manifests.get? (shiftPublication day).prepared.archiveName =
      some (manifestText (shiftManifest day).fields) := by
    rw [sharedFiles, Dict.get?_set, if_neg (repeatedName_ne day)]
    exact (shiftPublication day).archive
  exact SnapshotFiles.readArchivedManifest_of_sound (shiftPublication day).sound found rfl

/-- So is the further one. -/
theorem sharedFiles_repeated : sharedFiles.readArchivedManifest shiftHost.toSnapshotPlatform
    repeatedName = .ok repeatedManifest.fields := by
  have found : sharedFiles.manifests.get? repeatedName =
      some (manifestText repeatedManifest.fields) := by
    rw [sharedFiles, Dict.get?_set, if_pos rfl]
  exact SnapshotFiles.readArchivedManifest_of_sound repeatedManifest_sound found rfl

/-- Every pointer is at the last day. -/
theorem sharedFiles_pointer (pointer : SnapshotPointer) :
    sharedFiles.readManifest shiftHost.toSnapshotPlatform pointer = .ok (shiftManifest 3).fields :=
  SnapshotFiles.readManifest_of_sound (shiftPublication 3).sound rfl

/-- The object that the manifest of a day names. -/
theorem objectIn_day (day : Fin 4) :
    objectIn shiftHost.toSnapshotPlatform (shiftManifest day).fields =
      (shiftManifest day).objectName := shiftHost.str_text _

/-- The store is uncorrupted. -/
theorem sharedFiles_uncorrupted : sharedFiles.Uncorrupted shiftHost.toSnapshotPlatform := by
  constructor
  · intro pointer _ _
    refine ⟨_, sharedFiles_pointer pointer, ?_⟩
    rw [objectIn_day]
    exact Option.isSome_of_mem (shiftPublication 3).object
  · intro name listed
    obtain ⟨_, present⟩ := mem_listedNames.mp listed
    by_cases same : name = repeatedName
    · rw [same]
      exact ⟨_, sharedFiles_repeated⟩
    · rw [sharedFiles, Dict.get?_set, if_neg same] at present
      obtain ⟨content, found⟩ := Option.isSome_iff_exists.mp present
      obtain ⟨day, _, entry⟩ := List.mem_map.mp (Dict.get?_eq_some.mp found)
      obtain ⟨rfl, _⟩ := Prod.mk.inj entry
      exact ⟨_, sharedFiles_archive day⟩

/-- The objects of the days have names of their own. -/
theorem shiftManifest_objectName_injective :
    Function.Injective fun day : Fin 4 => (shiftManifest day).objectName := by
  intro first second same
  apply shiftDigest_injective 'b'
  have names : objectNameOf (shiftRequest first).digest =
    objectNameOf (shiftRequest second).digest := same
  rwa [shiftRequest_digest, shiftRequest_digest] at names

/-- Of four objects the oldest is not among the three newest ones. -/
theorem first_not_newest {newest : List String} (few : newest.length ≤ 3)
    (newer : ∀ inside ∈ newest, ∀ outside ∈ listedNames sharedFiles.objects, outside ∉ newest →
      shiftAge outside ≤ shiftAge inside) : (shiftManifest 0).objectName ∉ newest := by
  intro inside
  have all : ∀ day : Fin 4, (shiftManifest day).objectName ∈ newest := by
    intro day
    by_contra outside
    have listed : (shiftManifest day).objectName ∈ listedNames sharedFiles.objects :=
      mem_listedNames.mpr ⟨isObjectName_objectNameOf (shiftPublication day).sound.sha256,
        Option.isSome_of_mem (shiftPublication day).object⟩
    have older := newer _ inside _ listed outside
    rw [shiftAge, shiftAge, if_pos rfl] at older
    split_ifs at older with same
    · rw [same] at outside
      exact outside inside
    · omega
  have apart : ((List.finRange 4).map fun day => (shiftManifest day).objectName).Nodup :=
    (List.nodup_finRange 4).map shiftManifest_objectName_injective
  have inside : (List.finRange 4).map (fun day => (shiftManifest day).objectName) ⊆ newest := by
    intro name member
    obtain ⟨day, _, rfl⟩ := List.mem_map.mp member
    exact all day
  have four := (apart.subperm inside).length_le
  rw [List.length_map, List.length_finRange] at four
  omega

/-- The object of the first day goes with its archive, and the shared object stays with both of its
archives. -/
theorem prune_keeps_shared : ∃ count removed later,
    sharedFiles.pruned shiftHost.toSnapshotPlatform shiftAge 3 count = (.returned removed, later) ∧
    (∀ count, sharedFiles.KeepsReferences shiftHost.toSnapshotPlatform
      (sharedFiles.pruned shiftHost.toSnapshotPlatform shiftAge 3 count).2) ∧
    sharedFiles.PrunedTo shiftHost.toSnapshotPlatform shiftAge 3 later removed ∧
    later.objects.get? (shiftManifest 0).objectName = none ∧
    later.manifests.get? (shiftPublication 0).prepared.archiveName = none ∧
    (later.objects.get? (shiftManifest 3).objectName).isSome ∧
    (later.manifests.get? (shiftPublication 3).prepared.archiveName).isSome ∧
    (later.manifests.get? repeatedName).isSome := by
  have holds := prune_keeps_references shiftHost.toSnapshotPlatform shiftAge 3 sharedFiles le_rfl
    sharedFiles_uncorrupted
  obtain ⟨count, removed, later, finished⟩ := holds.2.1
  have pruned := holds.2.2 count removed later finished
  obtain ⟨newest, _, _, length, newer, ends⟩ := pruned.objects
  have few : newest.length ≤ 3 := length.trans_le (min_le_left _ _)
  have archived : ∀ day, isObjectName (shiftPublication day).prepared.archiveName = true :=
    fun day => isObjectName_objectNameOf (shiftHost.sha256_isDigest _)
  have gone : later.objects.get? (shiftManifest 0).objectName = none := by
    apply (ends _ (isObjectName_objectNameOf (shiftPublication 0).sound.sha256)).2
    rintro (inside | ⟨pointer, manifest, read, named⟩)
    · exact first_not_newest few newer inside
    · rw [sharedFiles_pointer] at read
      rw [← Except.ok.inj read, objectIn_day] at named
      cases shiftManifest_objectName_injective named
  have kept : (later.objects.get? (shiftManifest 3).objectName).isSome := by
    have pointed : sharedFiles.Points shiftHost.toSnapshotPlatform (shiftManifest 3).objectName :=
      ⟨.current, _, sharedFiles_pointer .current, objectIn_day 3⟩
    have form : isObjectName (shiftManifest 3).objectName = true :=
      isObjectName_objectNameOf (shiftPublication 3).sound.sha256
    rw [(ends _ form).1 (Or.inr pointed)]
    exact Option.isSome_of_mem (shiftPublication 3).object
  have first := pruned.archives _ _ (archived 0) (sharedFiles_archive 0)
  have last := pruned.archives _ _ (archived 3) (sharedFiles_archive 3)
  have repeats : isObjectName repeatedName = true :=
    isObjectName_objectNameOf (shiftHost.sha256_isDigest _)
  have again := pruned.archives _ _ repeats sharedFiles_repeated
  have shared : objectIn shiftHost.toSnapshotPlatform repeatedManifest.fields =
      repeatedManifest.objectName := shiftHost.str_text _
  rw [objectIn_day] at first last
  rw [shared, repeatedManifest_objectName] at again
  have both : (later.manifests.get? (shiftPublication 3).prepared.archiveName).isSome ∧
      (later.manifests.get? repeatedName).isSome := by
    rw [last.1 kept, again.1 kept, sharedFiles, Dict.get?_set, Dict.get?_set, if_pos rfl,
      if_neg (repeatedName_ne 3)]
    exact ⟨Option.isSome_of_mem (shiftPublication 3).archive, rfl⟩
  exact ⟨count, removed, later, finished, fun count => (holds.1 count).1, pruned, gone,
    first.2 gone, kept, both⟩

end DTLab
