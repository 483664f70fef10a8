import DTLab.Remote.Publisher

/-!
# What the commands of the publisher leave alone

A command spares a path that it neither writes nor removes, and is inert where it changes nothing.
For each function of the publisher: which commands it issues, and what it raises.
-/

namespace DTLab

open Library (Json Text Dict Program)
open Library.Program (Uses OnlyRaises uses_bind uses_attempt uses_lift uses_forEach uses_accumulate)
open RemoteCommand (ask probe perform)

/-! ## Paths -/

namespace RemoteFiles

variable {files later : RemoteFiles}

/-- The content at a path behind an entry that was put. -/
theorem content_put {path : RemotePath} {new : RemoteEntry} (done : files.put path new = some later)
    (other : RemotePath) :
    later.content other = if other = path then some new.content else files.content other := by
  obtain ⟨entries, found, rfl⟩ := Option.map_eq_some_iff.mp done
  obtain ⟨directory, name⟩ := path
  obtain ⟨otherDirectory, otherName⟩ := other
  by_cases same : otherDirectory = directory
  · subst same
    have read : files.directory otherDirectory = some entries := found
    by_cases named : otherName = name <;>
      simp [content, entry, withDirectory, Function.update_self, named, read]
  · simp [content, entry, withDirectory, same]

/-- The content at a path behind one that was erased. -/
theorem content_erase (files : RemoteFiles) (path other : RemotePath) :
    (files.erase path).content other = if other = path then none else files.content other := by
  obtain ⟨directory, name⟩ := path
  obtain ⟨otherDirectory, otherName⟩ := other
  rw [erase]
  by_cases same : otherDirectory = directory
  · subst same
    cases read : files.directory otherDirectory with
    | none => simp [content, entry, read]
    | some entries =>
      by_cases named : otherName = name <;>
        simp [content, entry, withDirectory, Function.update_self, named, read]
  · cases read : files.directory directory with
    | none => simp [same]
    | some entries =>
      simp [content, entry, withDirectory, same]

/-- Directories that are made leave every content. -/
theorem content_withDirectories (files : RemoteFiles) (directories : List RemoteDirectory)
    (path : RemotePath) :
    (files.withDirectories directories).content path = files.content path := by
  simp only [content, entry, withDirectories]
  cases read : files.directory path.directory with
  | some entries => rfl
  | none =>
    simp only
    split_ifs <;> rfl

end RemoteFiles

/-! ## Commands -/

namespace RemoteCommand

/-- A command that neither writes nor removes a path. -/
def Spares (path : RemotePath) : RemoteCommand → Prop
  | upload _ target | copy _ target | remove target | removeForce target => target ≠ path
  | move source target => source ≠ path ∧ target ≠ path
  | _ => True

/-- A command that changes nothing. -/
def Inert : RemoteCommand → Prop
  | testDirectory _ | list _ | hashes _ | contents _ | testFile _ | testLink _ => True
  | chownDirectories _ | chown _ | chmod _ => True
  | createTemporary | writeTemporary | unlinkTemporary => True
  | _ => False

/-- A command to the remote host that changes nothing and reads no contents. -/
def Harmless : RemoteCommand → Prop
  | contents _ | createTemporary | writeTemporary | unlinkTemporary => False
  | command => command.Inert

/-- It is inert. -/
theorem Harmless.inert {command : RemoteCommand} (harmless : command.Harmless) : command.Inert := by
  cases command <;> first | exact trivial | exact harmless.elim

/-- A command that changes nothing spares every path. -/
theorem Inert.spares {command : RemoteCommand} (inert : command.Inert) (path : RemotePath) :
    command.Spares path := by
  cases command <;> first | exact trivial | exact absurd inert not_false

/-- An inert command leaves the files. -/
theorem Inert.exec {command : RemoteCommand} (inert : command.Inert) {sha256Text : Text → String}
    {files later : RemoteFiles} {answer : command.Answer}
    (done : command.exec sha256Text files = some (answer, later)) : later = files := by
  cases command with
  | testDirectory _ | testFile _ | testLink _ => exact (Prod.mk.inj (Option.some.inj done)).2.symm
  | createTemporary | writeTemporary | unlinkTemporary =>
    exact (Prod.mk.inj (Option.some.inj done)).2.symm
  | list _ | hashes _ | contents _ | chown _ | chmod _ =>
    obtain ⟨_, _, same⟩ := Option.map_eq_some_iff.mp done
    exact (Prod.mk.inj same).2.symm
  | chownDirectories directories =>
    simp only [RemoteCommand.exec, Option.ite_none_right_eq_some, Option.some.injEq,
      Prod.mk.injEq] at done
    exact done.2.2.symm
  | _ => exact absurd inert not_false

/-- A command that spares a path leaves its content. -/
theorem Spares.exec {command : RemoteCommand} {path : RemotePath} (spares : command.Spares path)
    {sha256Text : Text → String} {files later : RemoteFiles} {answer : command.Answer}
    (done : command.exec sha256Text files = some (answer, later)) :
    later.content path = files.content path := by
  by_cases inert : command.Inert
  · rw [inert.exec done]
  cases command with
  | makeDirectories directories =>
    obtain rfl := (Prod.mk.inj (Option.some.inj done)).2
    exact files.content_withDirectories directories path
  | makeLock =>
    simp only [RemoteCommand.exec, Option.ite_none_right_eq_some, Option.some.injEq,
      Prod.mk.injEq] at done
    rw [← done.2.2]
    rfl
  | removeLock =>
    simp only [RemoteCommand.exec, Option.ite_none_right_eq_some, Option.some.injEq,
      Prod.mk.injEq] at done
    rw [← done.2.2]
    rfl
  | upload source target =>
    obtain ⟨content, _, rest⟩ := Option.bind_eq_some_iff.mp done
    obtain ⟨behind, put, same⟩ := Option.bind_eq_some_iff.mp rest
    obtain rfl := (Prod.mk.inj (Option.some.inj same)).2
    rw [RemoteFiles.content_put put, if_neg (Ne.symm spares)]
  | copy source target =>
    obtain ⟨content, _, rest⟩ := Option.bind_eq_some_iff.mp done
    obtain ⟨behind, put, same⟩ := Option.bind_eq_some_iff.mp rest
    obtain rfl := (Prod.mk.inj (Option.some.inj same)).2
    rw [RemoteFiles.content_put put, if_neg (Ne.symm spares)]
  | move source target =>
    obtain ⟨entry, _, rest⟩ := Option.bind_eq_some_iff.mp done
    obtain ⟨behind, put, same⟩ := Option.bind_eq_some_iff.mp rest
    obtain rfl := (Prod.mk.inj (Option.some.inj same)).2
    rw [RemoteFiles.content_put put, if_neg (Ne.symm spares.2), RemoteFiles.content_erase,
      if_neg (Ne.symm spares.1)]
  | remove target =>
    obtain ⟨_, _, same⟩ := Option.map_eq_some_iff.mp done
    rw [← (Prod.mk.inj same).2, RemoteFiles.content_erase, if_neg (Ne.symm spares)]
  | removeForce target =>
    obtain rfl := (Prod.mk.inj (Option.some.inj done)).2
    rw [RemoteFiles.content_erase, if_neg (Ne.symm spares)]
  | _ => exact absurd trivial inert

end RemoteCommand

/-- The files behind a command are those of before or those behind its effect. -/
theorem RemoteFiles.respond_files (sha256Text : Text → String) (outcome : RemoteOutcome)
    (command : RemoteCommand) (files : RemoteFiles) :
    (files.respond sha256Text outcome command).2 = files ∨
      ∃ answer, command.exec sha256Text files =
        some (answer, (files.respond sha256Text outcome command).2) := by
  cases done : command.exec sha256Text files with
  | none =>
    left
    cases outcome <;> simp [respond, RemoteCommand.effect, done]
  | some result =>
    obtain ⟨answer, later⟩ := result
    cases outcome with
    | success => exact Or.inr ⟨answer, by simp [respond, done]⟩
    | failure code isFailure carriedOut =>
      cases carriedOut
      · exact Or.inl rfl
      · exact Or.inr ⟨answer, by simp [respond, RemoteCommand.effect, done]⟩
    | timeout carriedOut =>
      cases carriedOut
      · exact Or.inl rfl
      · exact Or.inr ⟨answer, by simp [respond, RemoteCommand.effect, done]⟩
    | unstarted => exact Or.inl rfl

/-- A command answers only where it was carried out. -/
theorem RemoteFiles.respond_answered {sha256Text : Text → String} {outcome : RemoteOutcome}
    {command : RemoteCommand} {files : RemoteFiles} {answer : command.Answer}
    (answered : (files.respond sha256Text outcome command).1 = .answered answer) :
    command.exec sha256Text files =
      some (answer, (files.respond sha256Text outcome command).2) := by
  cases outcome with
  | success =>
    cases done : command.exec sha256Text files with
    | none => simp [respond, done] at answered
    | some result =>
      obtain ⟨other, later⟩ := result
      simp only [respond, done, RemoteReply.answered.injEq] at answered
      simp [respond, done, answered]
  | failure code isFailure carriedOut => cases answered
  | timeout carriedOut => cases answered
  | unstarted => cases answered

/-- Whatever happens to a command that spares a path, the content stays. -/
theorem RemoteCommand.Spares.respond {command : RemoteCommand} {path : RemotePath}
    (spares : command.Spares path) (sha256Text : Text → String) (outcome : RemoteOutcome)
    (files : RemoteFiles) :
    (files.respond sha256Text outcome command).2.content path = files.content path := by
  rcases files.respond_files sha256Text outcome command with same | ⟨answer, done⟩
  · rw [same]
  · exact spares.exec done

/-- Whatever happens to an inert command, the files stay. -/
theorem RemoteCommand.Inert.respond {command : RemoteCommand} (inert : command.Inert)
    (sha256Text : Text → String) (outcome : RemoteOutcome) (files : RemoteFiles) :
    (files.respond sha256Text outcome command).2 = files := by
  rcases files.respond_files sha256Text outcome command with same | ⟨answer, done⟩
  · exact same
  · exact inert.exec done

/-! ## Functions -/

/-- A fault that does not say that anything was committed. -/
def RemoteFault.Uncommitted : RemoteFault → Prop
  | .publish _ committed => committed = some false
  | .storage => True
  | .lookup => True
  | .limits => True

section Functions

variable {platform : RemotePlatform} {config : PublishConfig} {allowed : RemoteCommand → Prop}

/-- A program that raises nothing but faults that do not say that anything was committed. -/
abbrev Quiet {α : Type} (allowed : RemoteCommand → Prop) (program : RemoteProgram α) : Prop :=
  program.Uses allowed (OnlyRaises RemoteFault.Uncommitted)

/-- A kind of faults to which the refusals of the publisher belong. -/
class Refusals (raises : RemoteFault → Prop) : Prop where
  refused : ∀ message, raises (refused message)

/-- A kind of faults to which all belong that retention raises. -/
class Failures (raises : RemoteFault → Prop) : Prop extends Refusals raises where
  limits : raises .limits

/-- Retention raises uncommitted faults. -/
instance : Failures RemoteFault.Uncommitted where
  refused _ := rfl
  limits := trivial

variable {raises : RemoteFault → Prop} [Refusals raises]

/-- A question uses its own command alone. -/
theorem quiet_ask {command : RemoteCommand} (permitted : allowed command) :
    (command.ask config).Uses allowed (OnlyRaises raises) := by
  refine ⟨permitted, fun reply => ?_⟩
  cases reply with
  | answered answer => exact trivial
  | failed code => exact Refusals.refused _
  | timedOut => exact Refusals.refused _
  | unstarted => exact Refusals.refused _

/-- A probe uses its own command alone. -/
theorem quiet_probe {command : RemoteCommand} (permitted : allowed command) :
    (command.probe config).Uses allowed (OnlyRaises raises) := by
  refine ⟨permitted, fun reply => ?_⟩
  cases reply with
  | answered answer => exact trivial
  | failed code => exact trivial
  | timedOut => exact Refusals.refused _
  | unstarted => exact Refusals.refused _

/-- A command performed for its effect uses that command alone. -/
theorem quiet_perform {command : RemoteCommand} (permitted : allowed command) :
    Quiet allowed command.perform := by
  refine ⟨permitted, fun reply => ?_⟩
  cases reply <;> exact trivial

/-- A check raises what it is given. -/
theorem onlyRaises_require (condition : Bool) (message : String) :
    OnlyRaises raises (require condition (refused message)) := by
  rw [require]
  split_ifs
  · exact trivial
  · exact Refusals.refused message

/-- A refusal uses no command. -/
theorem quiet_refused {α : Type} (message : String) :
    (.raised (refused message) : RemoteProgram α).Uses allowed (OnlyRaises raises) :=
  Refusals.refused message

/-- The change of owner uses its own command alone. -/
theorem quiet_chownPath {target : RemotePath} (permitted : allowed (.chown target)) :
    (chownPath config target).Uses allowed (OnlyRaises raises) := by
  rw [chownPath]
  split_ifs
  · exact quiet_ask permitted
  · exact trivial

/-- Discarding a temporary file uses its removal alone. -/
theorem quiet_discard {temporary : RemotePath} (permitted : allowed (.removeForce temporary)) :
    (discard config temporary).Uses allowed (OnlyRaises raises) :=
  Uses.bind (quiet_probe permitted) fun _ => trivial

/-! ### Reading -/

section Reading

variable (reading : ∀ command : RemoteCommand, command.Harmless → allowed command)

include reading

/-- A listing only reads. -/
theorem quiet_remoteEntries (directory : RemoteDirectory) :
    (remoteEntries config directory).Uses allowed (OnlyRaises raises) :=
  quiet_ask (reading (.list directory) trivial)

/-- The check whether a file exists only reads. -/
theorem quiet_remoteFileExists (path : RemotePath) :
    (remoteFileExists config path).Uses allowed (OnlyRaises raises) := by
  apply Uses.bind (quiet_probe (reading (.testFile _) trivial))
  intro present
  cases present <;> first | exact trivial | exact Refusals.refused _

/-- The hash of one file is only read. -/
theorem quiet_remoteSha256Required (path : RemotePath) :
    (remoteSha256Required config path).Uses allowed (OnlyRaises raises) := by
  apply Uses.bind (quiet_ask (reading (.hashes [path]) trivial))
  intro lines
  split <;> first | exact trivial | exact Refusals.refused _

/-- So are the hashes of many files. -/
theorem quiet_remoteHashesRequired (paths : List RemotePath) :
    (remoteHashesRequired config paths).Uses allowed (OnlyRaises raises) := by
  rw [remoteHashesRequired]
  split_ifs
  · apply uses_accumulate
    intro observed batch _
    apply Uses.bind (quiet_ask (reading (.hashes _) trivial))
    exact fun lines => trivial
  · exact quiet_refused _

omit reading in
/-- The contents of files are read with their own command. -/
theorem quiet_remoteContentsRequired (contents : ∀ paths, allowed (.contents paths))
    (paths : List RemotePath) :
    (remoteContentsRequired config paths).Uses allowed (OnlyRaises raises) := by
  rw [remoteContentsRequired]
  split_ifs
  · apply uses_accumulate
    intro observed batch _
    apply Uses.bind (quiet_ask (contents _))
    exact fun records => trivial
  · exact quiet_refused _

/-- What the publication reads of the store before it uploads anything. -/
theorem quiet_verifiedSnapshotPresence (snapshots : List PreparedSnapshot) :
    (verifiedSnapshotPresence platform config snapshots).Uses allowed (OnlyRaises raises) := by
  have expected : OnlyRaises raises (expectedFiles platform snapshots) := by
    apply Program.onlyRaises_foldlM
    intro known prepared
    simp only
    split_ifs <;> first | exact trivial | exact Refusals.refused _
  have relevant : ∀ files entries message,
      OnlyRaises raises (relevantFiles files entries message) := by
    intro files entries message
    simp only [relevantFiles]
    split_ifs <;> first | exact trivial | exact Refusals.refused _
  have checked : ∀ directory files observed names message,
      OnlyRaises raises (checkFiles directory files observed names message) := by
    intro directory files observed names message
    simp only [checkFiles]
    split_ifs <;> first | exact trivial | exact Refusals.refused _
  apply Uses.bind (quiet_remoteEntries reading .objects)
  intro objectEntries
  apply Uses.bind (quiet_remoteEntries reading .manifests)
  intro manifestEntries
  apply Uses.bind (uses_lift.mpr expected)
  intro files
  apply Uses.bind (uses_lift.mpr (relevant _ _ _))
  intro objects
  apply Uses.bind (uses_lift.mpr (relevant _ _ _))
  intro archives
  apply Uses.bind (quiet_remoteHashesRequired reading _)
  intro observed
  apply Uses.bind (uses_lift.mpr (checked _ _ _ _ _))
  intro _
  apply Uses.bind (uses_lift.mpr (checked _ _ _ _ _))
  exact fun _ => trivial

omit reading in
/-- A manifest is refused, or beyond the limits of the interpreter. -/
theorem onlyRaises_decodeRemoteManifest {raises : RemoteFault → Prop} [Failures raises]
    (content : Text) (digest : String) :
    OnlyRaises raises (decodeRemoteManifest platform content digest) := by
  rw [decodeRemoteManifest]
  repeat' split
  all_goals first | exact trivial | exact Refusals.refused _ | exact Failures.limits

/-- The paths of an inventory are in their directories. -/
structure RetentionInventory.InPlace (inventory : RetentionInventory) : Prop where
  archives : ∀ path ∈ inventory.archivePaths, path.directory = .manifests
  objects : ∀ path ∈ inventory.objectPaths, path.directory = .objects

omit reading in
/-- The entries of a directory are checked. -/
theorem onlyRaises_checkEntries (label : String) (known : List (String × Bool)) :
    OnlyRaises raises (checkEntries label known) := by
  rw [checkEntries]
  split_ifs <;> first | exact trivial | exact Refusals.refused _

/-- The directories of the pointers are listed and checked. -/
theorem quiet_pointerEntries :
    (Program.accumulate (fun known pointer => do
      let entries ← remoteEntries config (.pointer pointer)
      Program.lift (checkPointerEntries pointer entries)
      Program.returned (known ++ [(pointer, entries)])) [] remotePointers).Uses allowed
        (OnlyRaises raises) := by
  apply uses_accumulate
  intro known which _
  apply Uses.bind (quiet_remoteEntries reading _)
  intro found
  have checked : OnlyRaises raises (checkPointerEntries which found) := by
    rw [checkPointerEntries]
    split_ifs <;> first | exact trivial | exact Refusals.refused _
  apply Uses.bind (uses_lift.mpr checked)
  exact fun _ => trivial

/-- What retention reads of the store before it removes anything. -/
theorem uses_readInventory {raises : RemoteFault → Prop} [Failures raises]
    (contents : ∀ paths, allowed (.contents paths)) :
    (readInventory platform config).Uses allowed fun result =>
    match result with
    | .ok inventory => inventory.InPlace
    | .error fault => raises fault := by
  have admits : ∀ fault : RemoteFault, raises fault → raises fault := fun _ same => same
  have archive : ∀ hashes contents path,
      OnlyRaises raises (readArchive platform hashes contents path) := by
    intro hashes contents path
    rw [readArchive]
    split_ifs
    · exact Refusals.refused _
    · exact onlyRaises_decodeRemoteManifest _ _
  refine Uses.andThen (quiet_remoteEntries reading .manifests) ?_ admits
  intro manifestEntries
  refine Uses.andThen (quiet_remoteEntries reading .objects) ?_ admits
  intro objectEntries
  refine Uses.andThen (uses_lift.mpr (onlyRaises_checkEntries _ _)) ?_ admits
  intro _
  refine Uses.andThen (uses_lift.mpr (onlyRaises_checkEntries _ _)) ?_ admits
  intro _
  refine Uses.andThen (quiet_pointerEntries reading) ?_ admits
  intro pointerEntries
  refine Uses.andThen (quiet_remoteHashesRequired reading _) ?_ admits
  intro manifestHashes
  refine Uses.andThen (quiet_remoteContentsRequired contents _) ?_ admits
  intro manifestContents
  refine Uses.andThen (uses_lift.mpr (Program.onlyRaises_mapM (archive _ _) _)) ?_ admits
  intro archives
  refine Uses.andThen (uses_lift.mpr (Program.onlyRaises_mapM
    (fun _ => onlyRaises_decodeRemoteManifest _ _) _)) ?_ admits
  intro pointers
  refine Uses.andThen (quiet_remoteHashesRequired reading _) ?_ admits
  intro objectHashes
  refine Uses.andThen (uses_lift.mpr (onlyRaises_require _ _)) ?_ admits
  intro _
  refine Uses.andThen (uses_lift.mpr (onlyRaises_require _ _)) ?_ admits
  intro _
  constructor <;>
  · intro path member
    obtain ⟨name, _, rfl⟩ := List.mem_map.mp member
    rfl

/-- What retention reads again before it removes objects. -/
theorem quiet_verifyUnchanged (inventory : RetentionInventory) :
    (verifyUnchanged config inventory).Uses allowed (OnlyRaises raises) := by
  apply Uses.bind (quiet_remoteEntries reading .manifests)
  intro manifestEntries
  apply Uses.bind (uses_lift.mpr (onlyRaises_require _ _))
  intro _
  apply Uses.bind
  · apply uses_forEach
    intro known _
    apply Uses.bind (quiet_remoteEntries reading _)
    intro found
    exact uses_lift.mpr (onlyRaises_require _ _)
  intro _
  apply Uses.bind (quiet_remoteHashesRequired reading _)
  intro hashes
  exact uses_lift.mpr (onlyRaises_require _ _)

/-- The directories are looked for, or made. -/
theorem quiet_ensureRemoteLayout
    (making : ∀ directories, allowed (.makeDirectories directories)) :
    (ensureRemoteLayout config).Uses allowed (OnlyRaises raises) := by
  rw [ensureRemoteLayout]
  split_ifs
  · exact Uses.bind (quiet_ask (making _)) fun _ => quiet_ask (reading _ trivial)
  · apply uses_forEach
    intro directory _
    apply Uses.bind (quiet_probe (reading (.testDirectory directory) trivial))
    intro present
    split <;> first | exact trivial | exact Refusals.refused _

/-- The lock is taken by commands that read, make directories and make the lock. -/
theorem quiet_acquireLock (making : ∀ directories, allowed (.makeDirectories directories))
    (locking : allowed .makeLock) :
    (acquireLock config).Uses allowed (OnlyRaises raises) := by
  apply Uses.bind (uses_lift.mpr (onlyRaises_require _ _))
  intro _
  apply Uses.bind (quiet_ensureRemoteLayout reading making)
  intro _
  apply Uses.bind (quiet_probe locking)
  intro taken
  cases taken <;> first | exact trivial | exact Refusals.refused _

end Reading

/-! ### Writing -/

/-- A name that starts with a dot. -/
theorem ne_of_dot {name text : String} (plain : name.toList.head? ≠ some '.') :
    "." ++ text ≠ name := by
  rintro rfl
  apply plain
  rw [String.toList_append]
  rfl

/-- The temporary path of the manifest that becomes the previous one. -/
def previousTemporary (platform : RemotePlatform) : RemotePath :=
  ⟨.pointer .previous, ".manifest.previous." ++ platform.token (pointerPath .previous) ++ ".tmp"⟩

section Writing

variable (reading : ∀ command : RemoteCommand, command.Harmless → allowed command)

include reading

/-- A file is uploaded to a temporary path and moved. -/
theorem quiet_commitFile {destination : RemotePath} {source : Option Text}
    (uploading : allowed (.upload source (temporaryPath platform destination)))
    (moving : allowed (.move (temporaryPath platform destination) destination))
    (discarding : allowed (.removeForce (temporaryPath platform destination)))
    (expected : String) :
    (commitFile platform config source destination expected).Uses allowed (OnlyRaises raises) := by
  apply Uses.andFinally
  · apply Uses.bind (quiet_ask uploading)
    intro _
    apply Uses.bind (quiet_remoteSha256Required reading _)
    intro digest
    apply Uses.bind (uses_lift.mpr (onlyRaises_require _ _))
    intro _
    apply Uses.bind (quiet_chownPath (reading (.chown _) trivial))
    intro _
    apply Uses.bind (quiet_ask (reading (.chmod _) trivial))
    intro _
    exact quiet_ask moving
  · exact quiet_discard discarding

/-- A manifest is copied to a temporary path and moved. -/
theorem quiet_keepPrevious
    (copying : allowed (.copy (pointerPath .current) (previousTemporary platform)))
    (moving : allowed (.move (previousTemporary platform) (pointerPath .previous)))
    (discarding : allowed (.removeForce (previousTemporary platform))) :
    (keepPrevious platform config).Uses allowed (OnlyRaises raises) := by
  apply Uses.andFinally
  · apply Uses.bind (quiet_ask copying)
    intro _
    apply Uses.bind (quiet_chownPath (reading (.chown _) trivial))
    intro _
    apply Uses.bind (quiet_ask (reading (.chmod _) trivial))
    intro _
    exact quiet_ask moving
  · exact quiet_discard discarding

/-- A file is removed behind its checks. -/
theorem quiet_removeExactVerified {target : RemotePath} (removing : allowed (.remove target))
    (expected : String) :
    (removeExactVerified config target expected).Uses allowed (OnlyRaises raises) := by
  apply Uses.bind (quiet_probe (reading (.testLink _) trivial))
  intro link
  split
  · exact quiet_refused _
  · exact quiet_refused _
  · apply Uses.bind (quiet_remoteSha256Required reading _)
    intro digest
    apply Uses.bind (uses_lift.mpr (onlyRaises_require _ _))
    intro _
    exact quiet_ask removing

/-- What retention does behind its inventory. -/
theorem quiet_applyRetention (inventory : RetentionInventory)
    (archives : ∀ target ∈ inventory.archivePaths, allowed (.remove target))
    (objects : ∀ target ∈ inventory.objectPaths, allowed (.remove target)) :
    (applyRetention config inventory).Uses allowed (OnlyRaises raises) := by
  apply Uses.bind
  · apply uses_forEach
    intro target member
    exact quiet_removeExactVerified reading (archives target (List.mem_of_mem_filter member)) _
  intro _
  apply Uses.bind
  · split_ifs
    · exact trivial
    · exact quiet_verifyUnchanged reading inventory
  intro _
  apply Uses.bind
  · apply uses_forEach
    intro target member
    exact quiet_removeExactVerified reading (objects target (List.mem_of_mem_filter member)) _
  exact fun _ => trivial

/-- Retention removes nothing outside the directories of objects and archives. -/
theorem quiet_pruneRemoteLocked {raises : RemoteFault → Prop} [Failures raises]
    (contents : ∀ paths, allowed (.contents paths))
    (removing : ∀ target : RemotePath, target.directory = .objects ∨
      target.directory = .manifests → allowed (.remove target)) :
    (pruneRemoteLocked platform config).Uses allowed (OnlyRaises raises) := by
  have read : (readInventory platform config).Uses allowed fun result =>
      match result with
      | .ok inventory => inventory.InPlace
      | .error fault => raises fault := uses_readInventory reading contents
  apply uses_bind.mpr
  apply read.weaken
  intro result holds
  cases result with
  | error fault => exact holds
  | ok inventory =>
    apply quiet_applyRetention reading inventory
    · exact fun target member => removing target (Or.inr (holds.archives target member))
    · exact fun target member => removing target (Or.inl (holds.objects target member))

end Writing

section Sparing

variable {path : RemotePath} (plain : path.name.toList.head? ≠ some '.')

/-- The commands that change nothing spare a path. -/
theorem reading_spares (path : RemotePath) (command : RemoteCommand)
    (harmless : command.Harmless) : command.Spares path :=
  harmless.inert.spares path

include plain

/-- The temporary path next to a destination is no path whose name is without a dot in front. -/
theorem temporaryPath_ne (destination : RemotePath) :
    temporaryPath platform destination ≠ path := by
  intro same
  have named := congrArg RemotePath.name same
  rw [temporaryPath, String.append_assoc, String.append_assoc, String.append_assoc] at named
  exact ne_of_dot plain named

/-- Nor is that of the previous manifest. -/
theorem previousTemporary_ne (platform : RemotePlatform) : previousTemporary platform ≠ path := by
  intro same
  have named := congrArg RemotePath.name same
  have front : (".manifest.previous." : String) = "." ++ "manifest.previous." := rfl
  rw [previousTemporary, front, String.append_assoc, String.append_assoc] at named
  exact ne_of_dot plain named

/-- A file that is committed elsewhere spares a path. -/
theorem spares_commitFile {destination : RemotePath} (other : destination ≠ path)
    (source : Option Text) (expected : String) :
    Quiet (RemoteCommand.Spares path)
      (commitFile platform config source destination expected) := by
  have different : temporaryPath platform destination ≠ path := temporaryPath_ne plain destination
  exact quiet_commitFile (reading_spares path) different ⟨different, other⟩ different expected

/-- So do bytes that are committed elsewhere. -/
theorem quiet_commitBytes {destination : RemotePath} (other : destination ≠ path)
    (content : Text) (expected : String) :
    Quiet (RemoteCommand.Spares path)
      (commitBytes platform config content destination expected) := by
  apply Uses.bind (quiet_perform trivial)
  intro _
  apply Uses.andFinally
  · apply Uses.bind (quiet_perform trivial)
    intro _
    exact spares_commitFile plain other _ _
  · exact quiet_perform trivial

/-- The upload of a snapshot spares what is neither an object nor an archive. -/
theorem quiet_ensureImmutableLocked (store : SnapshotFiles) (prepared : PreparedSnapshot)
    (presence : RemoteSnapshotPresence) (notObject : path.directory ≠ .objects)
    (notArchive : path.directory ≠ .manifests) :
    Quiet (RemoteCommand.Spares path)
      (ensureImmutableLocked platform config store prepared presence) := by
  apply Uses.bind
  · split_ifs
    · exact trivial
    · apply spares_commitFile plain
      intro same
      exact notObject (congrArg RemotePath.directory same).symm
  intro _
  apply Uses.bind
  · split_ifs
    · exact trivial
    · apply quiet_commitBytes plain
      intro same
      exact notArchive (congrArg RemotePath.directory same).symm
  exact fun _ => trivial

/-- So does the upload of the archives. -/
theorem quiet_ensureArchives (store : SnapshotFiles) (archives : List PreparedSnapshot)
    (presence : RemoteSnapshotPresence) (notObject : path.directory ≠ .objects)
    (notArchive : path.directory ≠ .manifests) :
    Quiet (RemoteCommand.Spares path)
      (ensureArchives platform config store archives presence) := by
  apply uses_accumulate
  intro known prepared _
  apply Uses.bind (quiet_ensureImmutableLocked plain store prepared _ notObject notArchive)
  exact fun _ => trivial

/-- Keeping the previous manifest spares every other path. -/
theorem spares_keepPrevious (other : pointerPath .previous ≠ path) :
    Quiet (RemoteCommand.Spares path) (keepPrevious platform config) := by
  have different : previousTemporary platform ≠ path := previousTemporary_ne plain platform
  exact quiet_keepPrevious (reading_spares path) different ⟨different, other⟩ different

/-- Keeping the last known good manifest spares every other path. -/
theorem quiet_keepLastKnownGood (prepared : PreparedSnapshot)
    (other : pointerPath .lastKnownGood ≠ path) :
    Quiet (RemoteCommand.Spares path) (keepLastKnownGood platform config prepared) := by
  apply Uses.bind (quiet_remoteFileExists (reading_spares path) _)
  intro present
  apply Uses.bind
  · apply uses_lift.mpr
    rw [PreparedSnapshot.isFresh]
    split <;> exact trivial
  intro fresh
  split_ifs
  · exact quiet_commitBytes plain other _ _
  · exact trivial

omit plain in
/-- Retention spares every path outside the directories of objects and archives. -/
theorem spares_pruneRemoteLocked (notObject : path.directory ≠ .objects)
    (notArchive : path.directory ≠ .manifests) :
    Quiet (RemoteCommand.Spares path) (pruneRemoteLocked platform config) := by
  apply quiet_pruneRemoteLocked (reading_spares path) fun _ => trivial
  intro target inside same
  rw [same] at inside
  exact inside.elim notObject notArchive

end Sparing

end Functions

end DTLab
