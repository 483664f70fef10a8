import DTLab.Library.JsonLoads
import DTLab.Remote.Frames

/-!
# References in the remote store

A manifest of the remote store names an object. References are kept where a file is placed whose
object is there already, and where no manifest that is left names what is removed. Temporary files
are neither manifests nor objects: their names start with a dot.
-/

namespace DTLab

open Library (Json Text)
open Library.Json (loads)

/-! ## Names -/

/-- A path whose name starts without a dot. -/
def RemotePath.Visible (path : RemotePath) : Prop := path.name.toList.head? ≠ some '.'

/-- A path whose file is a manifest: of an archive or of a pointer. -/
def IsManifest (path : RemotePath) : Prop :=
  path.directory = .manifests ∧ isObjectName path.name = true ∨
    ∃ pointer, path = pointerPath pointer

/-- A file whose name is that of an object is visible. -/
theorem visible_of_isObjectName {directory : RemoteDirectory} {name : String}
    (form : isObjectName name = true) : RemotePath.Visible ⟨directory, name⟩ := by
  intro dotted
  rw [isObjectName, Bool.and_eq_true, isDigestBody, Bool.and_eq_true] at form
  cases chars : name.toList with
  | nil =>
    rw [chars] at dotted
    cases dotted
  | cons first rest =>
    rw [chars] at dotted form
    have dot : first = '.' := Option.some.inj dotted
    have digits := form.1.2
    rw [List.take_succ_cons, List.all_cons, Bool.and_eq_true, dot] at digits
    exact absurd digits.1 (by decide)

/-- Every pointer is visible. -/
theorem visible_pointerPath (pointer : SnapshotPointer) : (pointerPath pointer).Visible := by
  show "manifest.json".toList.head? ≠ some '.'
  decide

/-- A manifest is visible. -/
theorem IsManifest.visible {path : RemotePath} (isManifest : IsManifest path) : path.Visible := by
  rcases isManifest with ⟨_, form⟩ | ⟨pointer, same⟩
  · exact visible_of_isObjectName form
  · rw [same]
    exact visible_pointerPath pointer

/-- A manifest is in none of the directories of objects. -/
theorem IsManifest.not_objects {path : RemotePath} (isManifest : IsManifest path) :
    path.directory ≠ .objects := by
  intro objects
  rcases isManifest with ⟨manifests, _⟩ | ⟨pointer, same⟩
  · rw [objects] at manifests
    cases manifests
  · rw [same] at objects
    cases objects

/-- A name that is put behind a dot is hidden. -/
theorem not_visible_dot (directory : RemoteDirectory) (text : String) :
    ¬ RemotePath.Visible ⟨directory, "." ++ text⟩ := by
  apply not_not.mpr
  rw [String.toList_append]
  rfl

/-! ## References -/

section References

variable {platform : RemotePlatform}

/-- The object that the text of a manifest names. -/
def namedObject (platform : RemotePlatform) (content : Text) : Option String :=
  match loads platform.rounding content with
  | some (.obj fields) =>
    match getField "object_name" fields with
    | .str name => some name
    | _ => none
  | _ => none

/-- An object is in the store. -/
def RemoteFiles.Has (files : RemoteFiles) (name : String) : Prop :=
  (files.content ⟨.objects, name⟩).isSome

/-- The contents of the archives. -/
def RemoteFiles.archives (files : RemoteFiles) (name : String) : Option Text :=
  files.content ⟨.manifests, name⟩

/-- What the text of a manifest names is an object in the store. -/
def Anchored (platform : RemotePlatform) (files : RemoteFiles) (content : Text) : Prop :=
  ∀ name, namedObject platform content = some name → isObjectName name = true ∧ files.Has name

/-- Every manifest names an object in the store. -/
def Referenced (platform : RemotePlatform) (files : RemoteFiles) : Prop :=
  ∀ path, IsManifest path → ∀ content, files.content path = some content →
    Anchored platform files content

/-- Every object is still there. -/
def Grown (before later : RemoteFiles) : Prop :=
  ∀ name, isObjectName name = true → before.Has name → later.Has name

/-- Every object of a store is in it. -/
theorem Grown.refl (files : RemoteFiles) : Grown files files := fun _ _ present => present

/-- Objects stay over two changes. -/
theorem Grown.trans {first second third : RemoteFiles} (grown : Grown first second)
    (later : Grown second third) : Grown first third :=
  fun name form present => later name form (grown name form present)

/-- What a manifest names stays where the objects stay. -/
theorem Anchored.grown {before later : RemoteFiles} {content : Text}
    (anchored : Anchored platform before content) (grown : Grown before later) :
    Anchored platform later content := by
  intro name named
  have present := anchored name named
  exact ⟨present.1, grown name present.1 present.2⟩

/-- The visible files have the contents of before. -/
def Alike (before later : RemoteFiles) : Prop :=
  ∀ path : RemotePath, path.Visible → later.content path = before.content path

/-- A file has a content, and the other visible files those of before. -/
def Placed (path : RemotePath) (content : Text) (before later : RemoteFiles) : Prop :=
  ∀ other : RemotePath, other.Visible →
    later.content other = if other = path then some content else before.content other

/-- Some files are gone, and the others have the contents of before. -/
def Removed (paths : List RemotePath) (before later : RemoteFiles) : Prop :=
  ∀ other : RemotePath,
    later.content other = if other ∈ paths then none else before.content other

/-- A store is like itself. -/
theorem Alike.refl (files : RemoteFiles) : Alike files files := fun _ _ => rfl

/-- Likeness goes over two changes. -/
theorem Alike.trans {first second third : RemoteFiles} (alike : Alike first second)
    (later : Alike second third) : Alike first third :=
  fun path visible => (later path visible).trans (alike path visible)

/-- A file is placed in the store of before as in one like it. -/
theorem Alike.placed {path : RemotePath} {content : Text} {first second third : RemoteFiles}
    (alike : Alike first second) (placed : Placed path content second third) :
    Placed path content first third := by
  intro other visible
  rw [placed other visible, alike other visible]

/-- A file that is placed is so in every store like that behind it. -/
theorem Placed.alike {path : RemotePath} {content : Text} {first second third : RemoteFiles}
    (placed : Placed path content first second) (alike : Alike second third) :
    Placed path content first third :=
  fun other visible => (alike other visible).trans (placed other visible)

/-- Two removals are one of both. -/
theorem Removed.trans {paths others : List RemotePath} {first second third : RemoteFiles}
    (removed : Removed paths first second) (later : Removed others second third) :
    Removed (paths ++ others) first third := by
  intro other
  rw [later other, removed other]
  by_cases gone : other ∈ others <;> by_cases before : other ∈ paths <;> simp [gone, before]

/-- Stores that are alike have the same objects. -/
theorem Alike.grown {before later : RemoteFiles} (alike : Alike before later) :
    Grown before later := by
  intro name form present
  rw [RemoteFiles.Has, alike _ (visible_of_isObjectName form)]
  exact present

/-- A file that is placed leaves the objects there. -/
theorem Placed.grown {path : RemotePath} {content : Text} {before later : RemoteFiles}
    (placed : Placed path content before later) : Grown before later := by
  intro name form present
  rw [RemoteFiles.Has, placed _ (visible_of_isObjectName form)]
  split_ifs
  · rfl
  · exact present

/-- References are kept where the visible files are. -/
theorem Referenced.alike {before later : RemoteFiles} (referenced : Referenced platform before)
    (alike : Alike before later) : Referenced platform later := by
  intro path isManifest content found
  rw [alike path isManifest.visible] at found
  exact (referenced path isManifest content found).grown alike.grown

/-- References are kept where a manifest is placed whose object is there, or another file. -/
theorem Referenced.placed {path : RemotePath} {content : Text} {before later : RemoteFiles}
    (referenced : Referenced platform before)
    (anchored : IsManifest path → Anchored platform before content)
    (placed : Placed path content before later) : Referenced platform later := by
  intro other isManifest text found
  rw [placed other isManifest.visible] at found
  by_cases same : other = path
  · rw [if_pos same] at found
    rw [← Option.some.inj found]
    exact (anchored (same ▸ isManifest)).grown placed.grown
  · rw [if_neg same] at found
    exact (referenced other isManifest text found).grown placed.grown

/-- References are kept where no manifest that is left names what is removed. -/
theorem Referenced.removed {paths : List RemotePath} {before later : RemoteFiles}
    (referenced : Referenced platform before) (removed : Removed paths before later)
    (unnamed : ∀ path, IsManifest path → ∀ content, later.content path = some content →
      ∀ name, namedObject platform content = some name → (⟨.objects, name⟩ : RemotePath) ∉ paths) :
    Referenced platform later := by
  intro path isManifest content found name named
  have left : before.content path = some content := by
    rw [removed path] at found
    split_ifs at found
    exact found
  have present := referenced path isManifest content left name named
  refine ⟨present.1, ?_⟩
  rw [RemoteFiles.Has, removed _, if_neg (unnamed path isManifest content found name named)]
  exact present.2

/-- Archives and pointers may be removed. -/
theorem Referenced.removed_manifests {paths : List RemotePath} {before later : RemoteFiles}
    (referenced : Referenced platform before) (removed : Removed paths before later)
    (manifests : ∀ path ∈ paths, path.directory ≠ .objects) : Referenced platform later :=
  referenced.removed removed fun _ _ _ _ _ _ member => manifests _ member rfl

end References

/-! ## Commands -/

/-- A command that spares what is visible. -/
def RemoteCommand.Hidden (command : RemoteCommand) : Prop :=
  ∀ path : RemotePath, path.Visible → command.Spares path

/-- A command that spares every path spares what is visible. -/
theorem RemoteCommand.Inert.hidden {command : RemoteCommand} (inert : command.Inert) :
    command.Hidden :=
  fun path _ => inert.spares path

/-- Commands on a hidden file spare what is visible. -/
theorem hidden_of_spares {temporary : RemotePath} (hidden : ¬ temporary.Visible)
    {command : RemoteCommand} (spares : ∀ path, temporary ≠ path → command.Spares path) :
    command.Hidden := by
  intro path visible
  apply spares
  intro same
  exact hidden (same ▸ visible)

/-- Whatever happens to a hidden command, the visible files stay. -/
theorem RemoteCommand.Hidden.respond {command : RemoteCommand} (hidden : command.Hidden)
    (sha256Text : Text → String) (outcome : RemoteOutcome) (files : RemoteFiles) :
    Alike files (files.respond sha256Text outcome command).2 :=
  fun path visible => (hidden path visible).respond sha256Text outcome files

/-- A program of hidden commands leaves the visible files. -/
theorem Quiet.alike {platform : RemotePlatform} {α : Type} {program : RemoteProgram α}
    (quiet : Quiet RemoteCommand.Hidden program) (files : RemoteFiles) :
    program.Ensures (RemoteFiles.respond platform.sha256Text) (Alike files)
      (fun _ later => Alike files later) files := by
  have kept := quiet.ensures (RemoteFiles.respond platform.sha256Text) (Alike files) ?_
    (Alike.refl files)
  · exact kept.weaken fun _ _ holds => holds.2
  · intro command hidden outcome before alike
    exact alike.trans (hidden.respond _ outcome before)

end DTLab
