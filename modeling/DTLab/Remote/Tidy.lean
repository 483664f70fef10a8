import DTLab.Library.Attains
import DTLab.Remote.Inventory

/-!
# Stores that retention accepts

A store is tidy where retention reads it without an error: its entries are regular files with the
names and the digests of their contents, and its manifests are decoded. What retention has read is
tidy, and stays so where entries are removed.
-/

namespace DTLab

open Library (Json Text Dict Program)
open Library.Attempt (exists_mem_of_mapM)
open Library.Program (Ensures Reads Uses OnlyRaises reads_lift reads_returned)

variable {platform : RemotePlatform} {config : PublishConfig}

/-- A directory whose files are named by the digests of their contents. -/
def RemoteDirectory.Immutable (directory : RemoteDirectory) : Prop :=
  directory = .objects ∨ directory = .manifests

/-- A content that may lie at a path: under its digest, and a manifest where one belongs. -/
structure Fits (platform : RemotePlatform) (path : RemotePath) (content : Text) : Prop where
  named : path.directory.Immutable →
    isObjectName path.name = true ∧ platform.sha256Text content = stem path.name
  pointer : ∀ pointer, path.directory = .pointer pointer → path.name = "manifest.json"
  decoded : IsManifest path → (manifestRecord platform content).isSome

/-- A store of regular files whose contents may lie where they do. -/
def Clean (platform : RemotePlatform) (files : RemoteFiles) : Prop :=
  ∀ path entry, path.directory ≠ .root → files.entry path = some entry →
    entry.isLink = false ∧ Fits platform path entry.content

/-- A store that retention reads without an error, references apart: `current` has a manifest. -/
structure Tidy (platform : RemotePlatform) (files : RemoteFiles) : Prop where
  clean : Clean platform files
  current : (files.content (pointerPath .current)).isSome

/-- A directory of immutable files is not the root. -/
theorem RemoteDirectory.Immutable.ne_root {directory : RemoteDirectory}
    (immutable : directory.Immutable) : directory ≠ .root := by
  rcases immutable with same | same <;> rw [same] <;> exact nofun

/-- A manifest is not in the root. -/
theorem IsManifest.ne_root {path : RemotePath} (isManifest : IsManifest path) :
    path.directory ≠ .root := by
  rcases isManifest with ⟨same, _⟩ | ⟨pointer, same⟩ <;> rw [same] <;> exact nofun

namespace Clean

variable {files : RemoteFiles} (clean : Clean platform files) {path : RemotePath}

include clean

/-- No entry is a link. -/
theorem regular {entry : RemoteEntry} (outside : path.directory ≠ .root)
    (found : files.entry path = some entry) : entry.isLink = false :=
  (clean path entry outside found).1

/-- What lies at a path fits. -/
theorem fits (outside : path.directory ≠ .root) {content : Text}
    (found : files.content path = some content) : Fits platform path content := by
  obtain ⟨entry, present, same⟩ := Option.map_eq_some_iff.mp found
  rw [← same]
  exact (clean path entry outside present).2

/-- What lies in an immutable directory has the name of an object. -/
theorem named (immutable : path.directory.Immutable) (present : (files.content path).isSome) :
    isObjectName path.name = true := by
  obtain ⟨content, found⟩ := Option.isSome_iff_exists.mp present
  exact ((clean.fits immutable.ne_root found).named immutable).1

/-- What lies there is named by its hash. -/
theorem hashed (immutable : path.directory.Immutable) {content : Text}
    (found : files.content path = some content) : platform.sha256Text content = stem path.name :=
  ((clean.fits immutable.ne_root found).named immutable).2

/-- Nothing but a manifest is in the directory of a pointer. -/
theorem pointers {pointer : SnapshotPointer} {name : String}
    (present : (files.content ⟨.pointer pointer, name⟩).isSome) : name = "manifest.json" := by
  obtain ⟨content, found⟩ := Option.isSome_iff_exists.mp present
  have outside : RemoteDirectory.pointer pointer ≠ .root := nofun
  exact (clean.fits outside found).pointer pointer rfl

/-- What lies at the path of a manifest is one. -/
theorem decoded (isManifest : IsManifest path) {content : Text}
    (found : files.content path = some content) : (manifestRecord platform content).isSome :=
  (clean.fits isManifest.ne_root found).decoded isManifest

end Clean

/-- Every directory exists. -/
def RemoteFiles.Laid (files : RemoteFiles) : Prop :=
  ∀ directory, (files.directory directory).isSome

/-- No entry is new. -/
def Reduced (before later : RemoteFiles) : Prop :=
  ∀ path entry, later.entry path = some entry → before.entry path = some entry

/-- A store has the entries of itself. -/
theorem Reduced.refl (files : RemoteFiles) : Reduced files files := fun _ _ found => found

/-- Two reductions are one. -/
theorem Reduced.trans {first second third : RemoteFiles} (reduced : Reduced first second)
    (later : Reduced second third) : Reduced first third :=
  fun path entry found => reduced path entry (later path entry found)

/-- A clean store stays so where entries are removed. -/
theorem Clean.reduced {before later : RemoteFiles} (clean : Clean platform before)
    (reduced : Reduced before later) : Clean platform later :=
  fun path entry outside found => clean path entry outside (reduced path entry found)

/-- A tidy store stays so where entries other than `current` are removed. -/
theorem Tidy.reduced {before later : RemoteFiles} (tidy : Tidy platform before)
    (reduced : Reduced before later) (current : (later.content (pointerPath .current)).isSome) :
    Tidy platform later :=
  ⟨tidy.clean.reduced reduced, current⟩

/-! ## Commands -/

/-- The directories behind the replacement of one. -/
theorem RemoteFiles.directory_withDirectory (files : RemoteFiles) (directory : RemoteDirectory)
    (entries : Dict String RemoteEntry) : (files.withDirectory directory entries).directory =
      Function.update files.directory directory (some entries) := rfl

/-- Where every directory exists, none is made. -/
theorem RemoteFiles.Laid.withDirectories {files : RemoteFiles} (laid : files.Laid)
    (directories : List RemoteDirectory) : files.withDirectories directories = files := by
  have same : (files.withDirectories directories).directory = files.directory := by
    funext directory
    obtain ⟨entries, found⟩ := Option.isSome_iff_exists.mp (laid directory)
    simp only [RemoteFiles.withDirectories, found]
  calc files.withDirectories directories
      = { files with directory := (files.withDirectories directories).directory } := rfl
    _ = files := by rw [same]

/-- The entry at a path behind one that was erased. -/
theorem RemoteFiles.entry_erase (files : RemoteFiles) (path other : RemotePath) :
    (files.erase path).entry other = if other = path then none else files.entry other := by
  obtain ⟨directory, name⟩ := path
  obtain ⟨otherDirectory, otherName⟩ := other
  rw [RemoteFiles.erase]
  by_cases same : otherDirectory = directory
  · subst same
    cases read : files.directory otherDirectory with
    | none => simp [RemoteFiles.entry, read]
    | some entries =>
      by_cases named : otherName = name <;>
        simp [RemoteFiles.entry, RemoteFiles.withDirectory, Function.update_self, named, read]
  · cases read : files.directory directory with
    | none => simp [same]
    | some entries => simp [RemoteFiles.entry, RemoteFiles.withDirectory, same]

/-- The entry at a path behind one that was put. -/
theorem RemoteFiles.entry_put {files later : RemoteFiles} {path : RemotePath} {new : RemoteEntry}
    (done : files.put path new = some later) (other : RemotePath) :
    later.entry other = if other = path then some new else files.entry other := by
  obtain ⟨entries, found, rfl⟩ := Option.map_eq_some_iff.mp done
  obtain ⟨directory, name⟩ := path
  obtain ⟨otherDirectory, otherName⟩ := other
  by_cases same : otherDirectory = directory
  · subst same
    have read : files.directory otherDirectory = some entries := found
    by_cases named : otherName = name <;>
      simp [RemoteFiles.entry, RemoteFiles.withDirectory, Function.update_self, named, read]
  · simp [RemoteFiles.entry, RemoteFiles.withDirectory, same]

/-- An entry is put where every directory exists. -/
theorem RemoteFiles.Laid.put {files : RemoteFiles} (laid : files.Laid) (path : RemotePath)
    (new : RemoteEntry) : ∃ later, files.put path new = some later := by
  obtain ⟨entries, found⟩ := Option.isSome_iff_exists.mp (laid path.directory)
  rw [RemoteFiles.put, found]
  exact ⟨_, rfl⟩

/-- A path that is erased leaves no new entry. -/
theorem reduced_erase (files : RemoteFiles) (path : RemotePath) :
    Reduced files (files.erase path) := by
  intro other entry found
  rw [files.entry_erase] at found
  split_ifs at found
  exact found

/-- The commands of retention and of the release of the lock. -/
def RemoteCommand.Reduces : RemoteCommand → Prop
  | .remove _ | .removeLock => True
  | command => command.Inert

/-- They leave no new entry. -/
theorem RemoteCommand.Reduces.respond {command : RemoteCommand} (reduces : command.Reduces)
    (sha256Text : Text → String) (outcome : RemoteOutcome) (files : RemoteFiles) :
    Reduced files (files.respond sha256Text outcome command).2 := by
  rcases files.respond_files sha256Text outcome command with same | ⟨answer, done⟩
  · rw [same]
    exact Reduced.refl files
  · by_cases inert : command.Inert
    · rw [inert.exec done]
      exact Reduced.refl files
    · cases command with
      | remove path =>
        obtain ⟨_, _, same⟩ := Option.map_eq_some_iff.mp done
        rw [← (Prod.mk.inj same).2]
        exact reduced_erase files path
      | removeLock =>
        simp only [RemoteCommand.exec, Option.ite_none_right_eq_some, Option.some.injEq,
          Prod.mk.injEq] at done
        rw [← done.2.2]
        exact Reduced.refl files
      | _ => exact absurd reduces inert

/-- Whatever happens to a command, no directory is removed. -/
theorem RemoteFiles.Laid.respond {files : RemoteFiles} (laid : files.Laid)
    (sha256Text : Text → String) (outcome : RemoteOutcome) (command : RemoteCommand) :
    (files.respond sha256Text outcome command).2.Laid := by
  have updated : ∀ (before : RemoteFiles) directory entries, before.Laid →
      (before.withDirectory directory entries).Laid := by
    intro before directory entries laid other
    rw [RemoteFiles.directory_withDirectory]
    by_cases same : other = directory
    · rw [same, Function.update_self]
      rfl
    · rw [Function.update_of_ne same]
      exact laid other
  have erased : ∀ (before : RemoteFiles) path, before.Laid → (before.erase path).Laid := by
    intro before path laid
    rw [RemoteFiles.erase]
    split
    · exact laid
    · exact updated before _ _ laid
  have put : ∀ (before : RemoteFiles) path new later, before.Laid →
      before.put path new = some later → later.Laid := by
    intro before path new later laid done
    obtain ⟨entries, _, same⟩ := Option.map_eq_some_iff.mp done
    rw [← same]
    exact updated before _ _ laid
  rcases files.respond_files sha256Text outcome command with same | ⟨answer, done⟩
  · rw [same]
    exact laid
  generalize (files.respond sha256Text outcome command).2 = later at done ⊢
  by_cases inert : command.Inert
  · rw [inert.exec done]
    exact laid
  cases command with
  | makeDirectories directories =>
    rw [← (Prod.mk.inj (Option.some.inj done)).2, laid.withDirectories]
    exact laid
  | makeLock | removeLock =>
    simp only [RemoteCommand.exec, Option.ite_none_right_eq_some, Option.some.injEq,
      Prod.mk.injEq] at done
    rw [← done.2.2]
    exact laid
  | upload source path | copy source path =>
    obtain ⟨content, _, rest⟩ := Option.bind_eq_some_iff.mp done
    obtain ⟨behind, placed, same⟩ := Option.bind_eq_some_iff.mp rest
    rw [← (Prod.mk.inj (Option.some.inj same)).2]
    exact put files path _ behind laid placed
  | move source path =>
    obtain ⟨entry, _, rest⟩ := Option.bind_eq_some_iff.mp done
    obtain ⟨behind, placed, same⟩ := Option.bind_eq_some_iff.mp rest
    rw [← (Prod.mk.inj (Option.some.inj same)).2]
    exact put _ path _ behind (erased files source laid) placed
  | remove path =>
    obtain ⟨_, _, same⟩ := Option.map_eq_some_iff.mp done
    rw [← (Prod.mk.inj same).2]
    exact erased files path laid
  | removeForce path =>
    rw [← (Prod.mk.inj (Option.some.inj done)).2]
    exact erased files path laid
  | _ => exact absurd trivial inert

/-! ## What is read -/

/-- What is listed are the entries of the directory. -/
theorem Lists.entry {files : RemoteFiles} {directory : RemoteDirectory}
    {entries : List (String × Bool)} (lists : Lists files directory entries) (name : String)
    (link : Bool) :
    (name, link) ∈ entries ↔
      ∃ entry, files.entry ⟨directory, name⟩ = some entry ∧ entry.isLink = link := by
  obtain ⟨found, read, same⟩ := lists
  rw [same, List.mem_map, RemoteFiles.entry, read]
  constructor
  · rintro ⟨⟨key, entry⟩, inside, equal⟩
    obtain ⟨rfl, linked⟩ := Prod.mk.inj equal
    exact ⟨entry, Dict.get?_eq_some.mpr inside, linked⟩
  · rintro ⟨entry, present, linked⟩
    refine ⟨(name, entry), Dict.get?_eq_some.mp present, ?_⟩
    rw [linked]

/-- Entries none of which is listed as a link. -/
theorem Lists.regular {files : RemoteFiles} {directory : RemoteDirectory}
    {entries : List (String × Bool)} (lists : Lists files directory entries)
    (plain : ∀ listed ∈ entries, listed.2 = false) {name : String} {entry : RemoteEntry}
    (found : files.entry ⟨directory, name⟩ = some entry) : entry.isLink = false :=
  plain (name, entry.isLink) ((lists.entry name entry.isLink).mpr ⟨entry, found, rfl⟩)

/-- Entries that were checked are no links. -/
theorem checkEntries_plain {label : String} {entries : List (String × Bool)}
    (checked : checkEntries label entries = .ok ()) : ∀ listed ∈ entries, listed.2 = false := by
  rw [checkEntries] at checked
  split_ifs at checked with links
  intro listed member
  by_contra link
  apply links
  exact List.any_eq_true.mpr ⟨listed, member, Bool.eq_true_of_not_eq_false link⟩

/-- The entries of a pointer that were checked: a manifest at most, and of `current` one. -/
theorem checkPointerEntries_eq_ok {pointer : SnapshotPointer} {entries : List (String × Bool)} :
    checkPointerEntries pointer entries = .ok () ↔
      (∀ listed ∈ entries, listed = ("manifest.json", false)) ∧
        (pointer = .current → "manifest.json" ∈ entries.map Prod.fst) := by
  have plain : ∀ listed : String × Bool, (listed.1 ≠ "manifest.json" ∨ listed.2 = true) ↔
      listed ≠ ("manifest.json", false) := by
    rintro ⟨name, link⟩
    cases link <;> simp
  have present : (entries.lookup "manifest.json").isNone = true ↔
      "manifest.json" ∉ entries.map Prod.fst := by
    rw [← Option.not_isSome, Bool.not_eq_true', ← Bool.not_eq_true, List.lookup_isSome_iff,
      List.mem_map]
    apply not_congr
    constructor
    · rintro ⟨listed, member, same⟩
      exact ⟨listed, member, (eq_of_beq same).symm⟩
    · rintro ⟨listed, member, same⟩
      exact ⟨listed, member, beq_of_eq same.symm⟩
  rw [checkPointerEntries]
  split_ifs with other missing
  · obtain ⟨listed, member, differs⟩ := List.any_eq_true.mp other
    refine iff_of_false (by simp) fun holds => ?_
    exact (plain listed).mp (of_decide_eq_true differs) (holds.1 listed member)
  · refine iff_of_false (by simp) fun holds => ?_
    exact present.mp missing.1 (holds.2 missing.2)
  · refine iff_of_true rfl ⟨fun listed member => ?_, fun isCurrent => ?_⟩
    · by_contra differs
      apply other
      exact List.any_eq_true.mpr ⟨listed, member, decide_eq_true ((plain listed).mpr differs)⟩
    · by_contra absent
      exact missing ⟨present.mpr absent, isCurrent⟩

/-- The lines that were read are those of the files. -/
theorem mem_readAll {α : Type} {files : RemoteFiles} {read : Text → α} {paths : List RemotePath}
    {lines : List (RemotePath × α)} (all : readAll files read paths = some lines)
    {line : RemotePath × α} :
    line ∈ lines ↔ line.1 ∈ paths ∧ (files.content line.1).map read = some line.2 := by
  induction paths generalizing lines with
  | nil =>
    rw [← Option.some.inj all]
    simp
  | cons first paths ih =>
    rw [readAll, List.mapM_cons] at all
    obtain ⟨head, found, rest⟩ := Option.bind_eq_some_iff.mp all
    obtain ⟨others, read_others, same⟩ := Option.bind_eq_some_iff.mp rest
    obtain ⟨content, present, head_eq⟩ := Option.map_eq_some_iff.mp found
    rw [← Option.some.inj same, List.mem_cons, List.mem_cons, ih read_others, ← head_eq]
    obtain ⟨path, value⟩ := line
    constructor
    · rintro (equal | ⟨member, read_eq⟩)
      · obtain ⟨rfl, rfl⟩ := Prod.mk.inj equal
        exact ⟨Or.inl rfl, by rw [present]; rfl⟩
      · exact ⟨Or.inr member, read_eq⟩
    · rintro ⟨equal | member, read_eq⟩
      · dsimp only at equal read_eq
        rw [equal, present] at read_eq
        left
        rw [equal, ← Option.some.inj read_eq]
      · exact Or.inr ⟨member, read_eq⟩

/-- The directories of the pointers were checked. -/
theorem reads_pointerEntries_checked (files : RemoteFiles) :
    (Program.accumulate (fun known pointer => do
      let entries ← remoteEntries config (.pointer pointer)
      Program.lift (checkPointerEntries pointer entries)
      Program.returned (known ++ [(pointer, entries)])) [] remotePointers).Reads platform.host files
      fun known => ∀ entry ∈ known, checkPointerEntries entry.1 entry.2 = .ok () := by
  let holds (known : List (SnapshotPointer × List (String × Bool)))
      (_ : List SnapshotPointer) : Prop :=
    ∀ entry ∈ known, checkPointerEntries entry.1 entry.2 = .ok ()
  have start : holds [] remotePointers := nofun
  apply Program.reads_accumulate holds ?_ start
  intro known pointer rest checked
  apply Reads.bind (reads_remoteEntries (.pointer pointer) files)
  intro entries _
  apply Reads.bind (reads_lift fun _ passed => passed)
  intro _ passed
  apply reads_returned
  intro entry member
  rcases List.mem_append.mp member with old | new
  · exact checked entry old
  · rw [List.mem_singleton.mp new]
    exact passed

/-- What was checked of a pointer holds of its directory. -/
theorem ListsPointers.checked {files : RemoteFiles}
    {known : List (SnapshotPointer × List (String × Bool))}
    (all : known.map Prod.fst = remotePointers) (lists : ListsPointers files known)
    (checked : ∀ entry ∈ known, checkPointerEntries entry.1 entry.2 = .ok ())
    (pointer : SnapshotPointer) :
    (∀ name entry, files.entry ⟨.pointer pointer, name⟩ = some entry →
      name = "manifest.json" ∧ entry.isLink = false) ∧
        (pointer = .current → (files.content (pointerPath pointer)).isSome) := by
  have listed : pointer ∈ known.map Prod.fst := by
    rw [all]
    cases pointer <;> decide
  obtain ⟨⟨_, entries⟩, inside, rfl⟩ := List.mem_map.mp listed
  obtain ⟨plain, present⟩ := checkPointerEntries_eq_ok.mp (checked _ inside)
  constructor
  · intro name entry found
    have member := ((lists _ inside).entry name entry.isLink).mpr ⟨entry, found, rfl⟩
    exact Prod.mk.inj (plain _ member)
  · intro isCurrent
    exact ((lists _ inside).mem "manifest.json").mp (present isCurrent)

/-- A store whose inventory was read is tidy. -/
theorem reads_readInventory_tidy (files : RemoteFiles) :
    (readInventory platform config).Reads platform.host files fun _ => Tidy platform files := by
  apply Reads.bind (reads_remoteEntries .manifests files)
  intro manifestEntries manifests
  apply Reads.bind (reads_remoteEntries .objects files)
  intro objectEntries objects
  apply Reads.bind (reads_lift fun _ checked =>
    And.intro (checkEntries_plain checked) (checkEntries_names checked))
  intro _ archiveForms
  apply Reads.bind (reads_lift fun _ checked =>
    And.intro (checkEntries_plain checked) (checkEntries_names checked))
  intro _ objectForms
  apply Reads.bind ((reads_pointerEntries files).and (reads_pointerEntries_checked files))
  intro pointerEntries listed
  obtain ⟨⟨all, lists⟩, checked⟩ := listed
  apply Reads.bind (reads_remoteHashesRequired _ files)
  intro hashes hashed
  apply Reads.bind (reads_remoteContentsRequired _ files)
  intro contents read
  apply Reads.bind (reads_lift fun archives decoded => decoded)
  intro archives archived
  apply Reads.bind (reads_lift fun pointers decoded => decoded)
  intro pointers pointed
  apply Reads.bind (reads_remoteHashesRequired _ files)
  intro objectHashes objectsHashed
  apply Reads.bind (reads_lift fun _ required => required)
  intro _ required
  apply Reads.bind (reads_lift fun _ _ => trivial)
  intro _ _
  apply reads_returned
  have archive : ∀ name content, files.content ⟨.manifests, name⟩ = some content →
      platform.sha256Text content = stem name ∧ (manifestRecord platform content).isSome := by
    intro name content found
    have member : (⟨.manifests, name⟩ : RemotePath) ∈ sortedPaths .manifests manifestEntries :=
      (manifests.mem_sortedPaths _).mpr ⟨rfl, Option.isSome_of_mem found⟩
    obtain ⟨record, _, decoded⟩ := exists_mem_of_mapM archived member
    obtain ⟨other, present, digest, described, _⟩ :=
      readArchive_eq_ok hashed read (List.mem_append_left _ member) decoded
    rw [Option.some.inj (found.symm.trans present)]
    exact ⟨digest, Option.isSome_of_mem described⟩
  have object : ∀ name content, files.content ⟨.objects, name⟩ = some content →
      platform.sha256Text content = stem name := by
    intro name content found
    have member : (⟨.objects, name⟩ : RemotePath) ∈ sortedPaths .objects objectEntries :=
      (objects.mem_sortedPaths _).mpr ⟨rfl, Option.isSome_of_mem found⟩
    have line : (⟨⟨.objects, name⟩, platform.sha256Text content⟩ : RemotePath × String) ∈
        objectHashes := (mem_readAll objectsHashed).mpr ⟨member, by rw [found]; rfl⟩
    rw [require] at required
    split_ifs at required with every
    exact of_decide_eq_true (List.all_eq_true.mp every _ line)
  refine ⟨?_, (lists.checked all checked .current).2 rfl⟩
  rintro ⟨directory, name⟩ entry outside inside
  have found : files.content ⟨directory, name⟩ = some entry.content := by
    rw [RemoteFiles.content, inside]
    rfl
  have isSome := Option.isSome_of_mem found
  cases directory with
  | root => exact absurd rfl outside
  | objects =>
    refine ⟨objects.regular objectForms.1 inside, ?_, fun _ same => (by cases same),
      fun isManifest => ?_⟩
    · exact fun _ => ⟨objectForms.2 name ((objects.mem name).mpr isSome),
        object name entry.content found⟩
    · exact absurd rfl isManifest.not_objects
  | manifests =>
    refine ⟨manifests.regular archiveForms.1 inside, ?_, fun _ same => (by cases same), fun _ => ?_⟩
    · exact fun _ => ⟨archiveForms.2 name ((manifests.mem name).mpr isSome),
        (archive name entry.content found).1⟩
    · exact (archive name entry.content found).2
  | pointer which =>
    obtain ⟨same, plain⟩ := (lists.checked all checked which).1 name entry inside
    refine ⟨plain, fun immutable => ?_, fun _ _ => same, fun isManifest => ?_⟩
    · rcases immutable with other | other <;> cases other
    · have path_eq : (⟨.pointer which, name⟩ : RemotePath) = pointerPath which := by
        rw [same]
        rfl
      have member := (mem_pointerPaths all lists ⟨.pointer which, name⟩).mpr
        ⟨⟨which, path_eq⟩, isSome⟩
      obtain ⟨record, _, decoded⟩ := exists_mem_of_mapM pointed member
      obtain ⟨other, present, described⟩ :=
        readPointer_eq_ok hashed read (List.mem_append_right _ member) decoded
      rw [Option.some.inj (found.symm.trans present)]
      exact Option.isSome_of_mem described

end DTLab
