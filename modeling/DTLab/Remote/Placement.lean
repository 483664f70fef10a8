import DTLab.Remote.References

/-!
# What the functions of the publisher do to the store

A function that reads leaves the store and says what is in it. A function that uploads leaves the
visible files or puts its file in place; where it returns, the file is in place.
-/

namespace DTLab

open Library (Json Text Dict Program)
open Library.Program (Ensures Reads Ends ensures_bind ensures_lift ensures_forEach reads_lift
  reads_raised reads_returned)
open RemoteCommand (ask probe perform)

variable {platform : RemotePlatform} {config : PublishConfig}

/-- The remote host without a record. -/
abbrev RemotePlatform.host (platform : RemotePlatform) := RemoteFiles.respond platform.sha256Text

/-! ## Single commands -/

/-- A command that must succeed leaves the store or was carried out; it was where it answers. -/
theorem ensures_command (command : RemoteCommand) {files : RemoteFiles}
    (always : RemoteFiles → Prop) {after : Except RemoteFault command.Answer → RemoteFiles → Prop}
    (start : always files)
    (carried : ∀ answer later, command.exec platform.sha256Text files = some (answer, later) →
      after (.ok answer) later ∧ ∀ fault, after (.error fault) later)
    (left : ∀ fault, after (.error fault) files) :
    (command.ask config).Ensures platform.host always after files := by
  have raised : ∀ fault outcome,
      after (.error fault) (files.respond platform.sha256Text outcome command).2 := by
    intro fault outcome
    rcases files.respond_files platform.sha256Text outcome command with same | ⟨answer, done⟩
    · rw [same]
      exact left fault
    · exact (carried answer _ done).2 fault
  refine ⟨start, fun outcome => ?_⟩
  cases reply : (files.respond platform.sha256Text outcome command).1 with
  | answered answer => exact (carried answer _ (RemoteFiles.respond_answered reply)).1
  | failed code => exact raised _ outcome
  | timedOut => exact raised _ outcome
  | unstarted => exact raised _ outcome

/-- A command that changes nothing tells what it answers. -/
theorem reads_ask (command : RemoteCommand) (inert : command.Inert) (files : RemoteFiles) :
    (command.ask config).Reads platform.host files fun answer =>
      command.exec platform.sha256Text files = some (answer, files) := by
  apply ensures_command command (· = files) rfl
  · intro answer later done
    have same : later = files := inert.exec done
    exact ⟨⟨same, same ▸ done⟩, fun _ => same⟩
  · exact fun _ => rfl

/-- A command that changes nothing tells what it answers, if it answers. -/
theorem reads_probe (command : RemoteCommand) (inert : command.Inert) (files : RemoteFiles) :
    (command.probe config).Reads platform.host files fun answer => ∀ value, answer = some value →
      command.exec platform.sha256Text files = some (value, files) := by
  refine ⟨rfl, fun outcome => ?_⟩
  have same := inert.respond platform.sha256Text outcome files
  cases reply : (files.respond platform.sha256Text outcome command).1 with
  | answered answer =>
    refine ⟨same, ?_⟩
    rintro value equal
    have done := RemoteFiles.respond_answered reply
    rw [same] at done
    rw [← Option.some.inj equal]
    exact done
  | failed code => exact ⟨same, nofun⟩
  | timedOut => exact same
  | unstarted => exact same

/-! ## Reading -/

/-- What is listed of a directory. -/
def Lists (files : RemoteFiles) (directory : RemoteDirectory) (entries : List (String × Bool)) :
    Prop :=
  ∃ found, files.directory directory = some found ∧
    entries = found.entries.map fun entry => (entry.1, entry.2.isLink)

/-- The names that are listed are those of the files. -/
theorem Lists.mem {files : RemoteFiles} {directory : RemoteDirectory}
    {entries : List (String × Bool)} (lists : Lists files directory entries) (name : String) :
    name ∈ entries.map Prod.fst ↔ (files.content ⟨directory, name⟩).isSome := by
  obtain ⟨found, read, same⟩ := lists
  have keys : entries.map Prod.fst = found.keys := by
    rw [same, List.map_map]
    rfl
  have content : (files.content ⟨directory, name⟩).isSome = (found.get? name).isSome := by
    rw [RemoteFiles.content, RemoteFiles.entry, read, Option.bind_some, Option.isSome_map]
  rw [keys, content, Option.isSome_iff_ne_none, ne_eq, Dict.get?_eq_none, not_not]

/-- The entries of a directory are read. -/
theorem reads_remoteEntries (directory : RemoteDirectory) (files : RemoteFiles) :
    (remoteEntries config directory).Reads platform.host files (Lists files directory) := by
  apply (reads_ask (.list directory) trivial files).weaken
  intro entries done
  obtain ⟨found, read, same⟩ := Option.map_eq_some_iff.mp done
  exact ⟨found, read, (Prod.mk.inj same).1.symm⟩

/-- The presence of a file is read. -/
theorem reads_remoteFileExists (path : RemotePath) (files : RemoteFiles) :
    (remoteFileExists config path).Reads platform.host files fun present =>
      present = (files.content path).isSome := by
  apply Reads.bind (reads_probe (.testFile path) trivial files)
  intro answer told
  cases answer with
  | none => exact reads_raised
  | some present =>
    apply reads_returned
    have read : (files.entry path).isSome = present :=
      (Prod.mk.inj (Option.some.inj (told present rfl))).1
    rw [RemoteFiles.content, Option.isSome_map, read]

/-- What is read of a file. -/
theorem readAll_singleton {α : Type} (files : RemoteFiles) (read : Text → α) (path : RemotePath) :
    readAll files read [path] = (files.content path).map fun content => [(path, read content)] := by
  rw [readAll, List.mapM_cons, List.mapM_nil]
  cases files.content path <;> rfl

/-- The digest of a file is read. -/
theorem reads_remoteSha256Required (path : RemotePath) (files : RemoteFiles) :
    (remoteSha256Required config path).Reads platform.host files fun digest =>
      ∃ content, files.content path = some content ∧ digest = platform.sha256Text content := by
  apply Reads.bind (reads_ask (.hashes [path]) trivial files)
  intro lines done
  obtain ⟨read, all, same⟩ := Option.map_eq_some_iff.mp done
  rw [readAll_singleton] at all
  obtain ⟨content, found, line⟩ := Option.map_eq_some_iff.mp all
  have answered : lines = [(path, platform.sha256Text content)] :=
    (Prod.mk.inj same).1.symm.trans line.symm
  rw [answered]
  exact reads_returned ⟨content, found, rfl⟩

/-- What is read of files one after the other. -/
theorem readAll_append {α : Type} (files : RemoteFiles) (read : Text → α)
    (paths others : List RemotePath) {lines rest : List (RemotePath × α)}
    (first : readAll files read paths = some lines)
    (second : readAll files read others = some rest) :
    readAll files read (paths ++ others) = some (lines ++ rest) := by
  rw [readAll] at first second ⊢
  rw [List.mapM_append, first, second]
  rfl

/-- The slices of a list make up the list. -/
theorem flatten_chunks {α : Type} (size : Nat) (items : List α) :
    (chunks size items).flatten = items := by
  induction items using chunks.induct size with
  | case1 => rw [chunks, List.flatten_nil]
  | case2 item items ih =>
    rw [chunks, List.flatten_cons, ih, List.cons_append, List.take_append_drop]

/-- A loop over slices reads what is read of all files. -/
theorem reads_batches {α : Type} (files : RemoteFiles) (read : Text → α)
    (body : List (RemotePath × α) → List RemotePath → RemoteProgram (List (RemotePath × α)))
    (round : ∀ observed batch, (body observed batch).Reads platform.host files fun next =>
      ∃ lines, readAll files read batch = some lines ∧ next = observed ++ lines)
    (paths : List RemotePath) :
    (Program.accumulate body [] (chunks remoteReadBatch paths)).Reads platform.host files
      fun lines => readAll files read paths = some lines := by
  let holds (observed : List (RemotePath × α)) (batches : List (List RemotePath)) : Prop :=
    ∃ done, done ++ batches.flatten = paths ∧ readAll files read done = some observed
  have start : holds [] (chunks remoteReadBatch paths) :=
    ⟨[], flatten_chunks remoteReadBatch paths, rfl⟩
  apply (Program.reads_accumulate holds ?_ start).weaken
  · rintro lines ⟨done, all, lines_eq⟩
    rw [List.flatten_nil, List.append_nil] at all
    rw [← all]
    exact lines_eq
  · rintro observed batch batches ⟨done, all, observed_eq⟩
    apply (round observed batch).weaken
    rintro next ⟨lines, lines_eq, next_eq⟩
    refine ⟨done ++ batch, ?_, ?_⟩
    · rw [← all, List.flatten_cons, List.append_assoc]
    · rw [next_eq]
      exact readAll_append files read done batch observed_eq lines_eq

/-- The digests of files are read, each file once. -/
theorem reads_remoteHashesRequired (paths : List RemotePath) (files : RemoteFiles) :
    (remoteHashesRequired config paths).Reads platform.host files fun lines =>
      readAll files platform.sha256Text paths = some lines := by
  rw [remoteHashesRequired]
  split_ifs
  · apply reads_batches
    intro observed batch
    apply Reads.bind (reads_ask (.hashes batch) trivial files)
    intro lines done
    obtain ⟨read, all, same⟩ := Option.map_eq_some_iff.mp done
    rw [(Prod.mk.inj same).1] at all
    exact reads_returned ⟨lines, all, rfl⟩
  · exact reads_raised

/-- The contents of files are read, each file once. -/
theorem reads_remoteContentsRequired (paths : List RemotePath) (files : RemoteFiles) :
    (remoteContentsRequired config paths).Reads platform.host files fun records =>
      readAll files Library.universalNewlines paths = some records := by
  rw [remoteContentsRequired]
  split_ifs
  · apply reads_batches
    intro observed batch
    apply Reads.bind (reads_ask (.contents batch) trivial files)
    intro records done
    obtain ⟨read, all, same⟩ := Option.map_eq_some_iff.mp done
    rw [(Prod.mk.inj same).1] at all
    exact reads_returned ⟨records, all, rfl⟩
  · exact reads_raised

/-- What was read of a file is found under its path. -/
theorem lookup_readAll {α : Type} {files : RemoteFiles} {read : Text → α} {path : RemotePath}
    {paths : List RemotePath} {lines : List (RemotePath × α)}
    (all : readAll files read paths = some lines) (member : path ∈ paths) :
    ∃ content, files.content path = some content ∧ lines.lookup path = some (read content) := by
  induction paths generalizing lines with
  | nil => cases member
  | cons first paths ih =>
    rw [readAll, List.mapM_cons] at all
    obtain ⟨line, found, rest⟩ := Option.bind_eq_some_iff.mp all
    obtain ⟨others, read_others, same⟩ := Option.bind_eq_some_iff.mp rest
    obtain ⟨content, present, line_eq⟩ := Option.map_eq_some_iff.mp found
    have lines_eq : lines = (first, read content) :: others := by
      rw [line_eq]
      exact (Option.some.inj same).symm
    rw [lines_eq, List.lookup_cons]
    by_cases equal : path = first
    · rw [equal]
      exact ⟨content, present, by simp⟩
    · have later := ih read_others ((List.mem_cons.mp member).resolve_left equal)
      rw [beq_false_of_ne equal]
      exact later

/-! ## Uploads -/

/-- A file has its content of before, or one that is put in place. -/
def MayPlace (path : RemotePath) (source : Option Text) (before later : RemoteFiles) : Prop :=
  Alike before later ∨ ∃ content, source = some content ∧ Placed path content before later

/-- A file is in place. -/
def IsPlaced (path : RemotePath) (source : Option Text) (before later : RemoteFiles) : Prop :=
  ∃ content, source = some content ∧ Placed path content before later

/-- What an upload ensures: where it returns, its file is in place. -/
def Uploads (platform : RemotePlatform) (program : RemoteProgram Unit) (path : RemotePath)
    (source : Option Text) (files : RemoteFiles) : Prop :=
  program.Ensures platform.host (MayPlace path source files)
    (Ends (fun _ => IsPlaced path source files) fun _ => MayPlace path source files) files

theorem MayPlace.alike {path : RemotePath} {source : Option Text} {first second third : RemoteFiles}
    (placed : MayPlace path source first second) (alike : Alike second third) :
    MayPlace path source first third := by
  rcases placed with same | ⟨content, given, placed⟩
  · exact Or.inl (same.trans alike)
  · exact Or.inr ⟨content, given, placed.alike alike⟩

/-- Hidden commands behind an upload keep what it ensures. -/
theorem Quiet.keepsPlaced {cleanup : RemoteProgram Unit}
    (quiet : Quiet RemoteCommand.Hidden cleanup) {path : RemotePath} {source : Option Text}
    {files before : RemoteFiles} {result : Except RemoteFault Unit}
    (placed : Ends (fun _ => IsPlaced path source files) (fun _ => MayPlace path source files)
      result before) :
    cleanup.Ensures platform.host (MayPlace path source files)
      (Ends (fun _ => Ends (fun _ => IsPlaced path source files)
          (fun _ => MayPlace path source files) result)
        fun _ => MayPlace path source files) before := by
  have may : MayPlace path source files before := by
    cases result with
    | ok _ => exact Or.inr placed
    | error fault => exact placed
  apply (quiet.alike before).mono
  · exact fun later alike => may.alike alike
  · intro cleaned later alike
    cases cleaned with
    | error fault => exact may.alike alike
    | ok _ =>
      cases result with
      | error fault => exact may.alike alike
      | ok _ =>
        obtain ⟨content, given, placed⟩ := placed
        exact ⟨content, given, placed.alike alike⟩

section Temporary

variable {temporary : RemotePath} (hidden : ¬ temporary.Visible)

include hidden

/-- A temporary file is written. -/
theorem ensures_stage {command : RemoteCommand} {source : Option Text} {files before : RemoteFiles}
    (spares : ∀ path, temporary ≠ path → command.Spares path)
    (writes : ∀ answer later, command.exec platform.sha256Text before = some (answer, later) →
      ∃ content, source = some content ∧ later.content temporary = some content)
    (path : RemotePath) (alike : Alike files before) :
    (command.ask config).Ensures platform.host (MayPlace path source files)
      (Ends (fun _ later => Alike files later ∧
          ∃ content, source = some content ∧ later.content temporary = some content)
        fun _ => MayPlace path source files) before := by
  apply ensures_command command (MayPlace path source files) (Or.inl alike)
  · intro answer later done
    have same : Alike files later := by
      apply alike.trans
      intro other visible
      exact (spares other fun equal => hidden (equal ▸ visible)).exec done
    exact ⟨⟨same, writes answer later done⟩, fun _ => Or.inl same⟩
  · exact fun _ => Or.inl alike

/-- A temporary file is renamed. -/
theorem ensures_moveInto {path : RemotePath} {source : Option Text} {content : Text}
    {files before : RemoteFiles} (given : source = some content)
    (staged : before.content temporary = some content) (alike : Alike files before) :
    Program.Ensures platform.host (MayPlace path source files)
      (Ends (fun _ => IsPlaced path source files) fun _ => MayPlace path source files)
      ((RemoteCommand.move temporary path).ask config) before := by
  apply ensures_command (.move temporary path) (MayPlace path source files) (Or.inl alike)
  · intro answer later done
    obtain ⟨entry, found, rest⟩ := Option.bind_eq_some_iff.mp done
    obtain ⟨behind, put, same⟩ := Option.bind_eq_some_iff.mp rest
    have later_eq : behind = later := (Prod.mk.inj (Option.some.inj same)).2
    have entry_content : entry.content = content := by
      rw [RemoteFiles.content, found] at staged
      exact Option.some.inj staged
    have placed : Placed path content before later := by
      intro other visible
      have different : other ≠ temporary := fun equal => hidden (equal ▸ visible)
      rw [← later_eq, RemoteFiles.content_put put, RemoteFiles.content_erase, if_neg different,
        entry_content]
    have done := alike.placed placed
    exact ⟨⟨content, given, done⟩, fun _ => Or.inr ⟨content, given, done⟩⟩
  · exact fun _ => Or.inl alike

theorem hidden_removeForce : (RemoteCommand.removeForce temporary).Hidden :=
  hidden_of_spares hidden fun _ different => different

end Temporary

/-- A program of commands that change nothing leaves the store. -/
theorem Quiet.reads {α : Type} {program : RemoteProgram α}
    (quiet : Quiet RemoteCommand.Inert program) (files : RemoteFiles) :
    program.Reads platform.host files fun _ => True := by
  have kept := quiet.ensures platform.host (· = files) ?_ rfl
  · apply kept.weaken
    intro result later holds
    cases result with
    | ok _ => exact ⟨holds.2, trivial⟩
    | error fault => exact holds.2
  · intro command inert outcome before same
    exact (inert.respond _ outcome before).trans same

/-- Commands that change nothing between the steps of an upload. -/
theorem Ensures.afterReading {α β : Type} {program : RemoteProgram α} {next : α → RemoteProgram β}
    {always : RemoteFiles → Prop} {after : Except RemoteFault β → RemoteFiles → Prop}
    {files : RemoteFiles} {tells : α → Prop} (reads : program.Reads platform.host files tells)
    (start : always files) (faults : ∀ fault, after (.error fault) files)
    (rest : ∀ value, tells value → (next value).Ensures platform.host always after files) :
    (program >>= next).Ensures platform.host always after files := by
  apply Ensures.bind (reads.ensures start)
  · intro value later told
    rw [told.1]
    exact rest value told.2
  · intro fault later same
    rw [show later = files from same]
    exact faults fault

/-- `_commit_file`. -/
theorem uploads_commitFile (source : Option Text) (destination : RemotePath) (expected : String)
    (files : RemoteFiles) :
    Uploads platform (commitFile platform config source destination expected) destination source
      files := by
  let temporary := temporaryPath platform destination
  have hidden : ¬ temporary.Visible := by
    show ¬ RemotePath.Visible ⟨_, _⟩
    rw [String.append_assoc, String.append_assoc, String.append_assoc]
    exact not_visible_dot _ _
  refine Ensures.andFinally ?_ fun result later placed =>
    Quiet.keepsPlaced (quiet_discard (hidden_removeForce hidden)) placed
  have spares : ∀ path, temporary ≠ path → (RemoteCommand.upload source temporary).Spares path :=
    fun _ different => different
  have writes : ∀ answer later, (RemoteCommand.upload source temporary).exec platform.sha256Text
      files = some (answer, later) →
        ∃ content, source = some content ∧ later.content temporary = some content := by
    intro answer later done
    obtain ⟨content, given, rest⟩ := Option.bind_eq_some_iff.mp done
    obtain ⟨behind, put, same⟩ := Option.bind_eq_some_iff.mp rest
    have later_eq : behind = later := (Prod.mk.inj (Option.some.inj same)).2
    refine ⟨content, given, ?_⟩
    rw [← later_eq, RemoteFiles.content_put put, if_pos rfl]
  apply Ensures.bind (ensures_stage hidden spares writes destination
    (Alike.refl files))
  · intro _ staged told
    obtain ⟨alike, content, given, written⟩ := told
    have may : MayPlace destination source files staged := Or.inl alike
    apply Ensures.afterReading (reads_remoteSha256Required temporary staged) may fun _ => may
    intro digest _
    apply Ensures.afterReading (reads_lift fun _ _ => trivial) may fun _ => may
    intro _ _
    apply Ensures.afterReading (Quiet.reads (quiet_chownPath trivial) staged) may fun _ => may
    intro _ _
    have chmod : (RemoteCommand.chmod temporary).Inert := trivial
    apply Ensures.afterReading (Quiet.reads (quiet_ask chmod) staged) may fun _ => may
    intro _ _
    exact ensures_moveInto hidden given written alike
  · exact fun _ _ may => may

/-- `_commit_bytes`. -/
theorem uploads_commitBytes (content : Text) (destination : RemotePath) (expected : String)
    (files : RemoteFiles) :
    Uploads platform (commitBytes platform config content destination expected) destination
      (some content) files := by
  have start : MayPlace destination (some content) files files := Or.inl (Alike.refl files)
  have creates : RemoteCommand.createTemporary.Inert := trivial
  apply Ensures.afterReading (Quiet.reads (quiet_perform creates) files) start fun _ => start
  intro _ _
  have unlinks : RemoteCommand.unlinkTemporary.Inert := trivial
  refine Ensures.andFinally ?_ fun result later placed =>
    Quiet.keepsPlaced (quiet_perform unlinks.hidden) placed
  have writes : RemoteCommand.writeTemporary.Inert := trivial
  apply Ensures.afterReading (Quiet.reads (quiet_perform writes) files) start fun _ => start
  intro _ _
  exact uploads_commitFile (some content) destination expected files

/-- The manifest of `current` becomes that of `previous`. -/
theorem uploads_keepPrevious (files : RemoteFiles) :
    Uploads platform (keepPrevious platform config) (pointerPath .previous)
      (files.content (pointerPath .current)) files := by
  let temporary : RemotePath :=
    ⟨.pointer .previous, ".manifest.previous." ++ platform.token (pointerPath .previous) ++ ".tmp"⟩
  have hidden : ¬ temporary.Visible := by
    have front : (".manifest.previous." : String) = "." ++ "manifest.previous." := rfl
    show ¬ RemotePath.Visible ⟨_, _⟩
    rw [front, String.append_assoc, String.append_assoc]
    exact not_visible_dot _ _
  refine Ensures.andFinally ?_ fun result later placed =>
    Quiet.keepsPlaced (quiet_discard (hidden_removeForce hidden)) placed
  have spares : ∀ path, temporary ≠ path →
      (RemoteCommand.copy (pointerPath .current) temporary).Spares path :=
    fun _ different => different
  have writes : ∀ answer later, (RemoteCommand.copy (pointerPath .current) temporary).exec
      platform.sha256Text files = some (answer, later) →
        ∃ content, files.content (pointerPath .current) = some content ∧
          later.content temporary = some content := by
    intro answer later done
    obtain ⟨content, given, rest⟩ := Option.bind_eq_some_iff.mp done
    obtain ⟨behind, put, same⟩ := Option.bind_eq_some_iff.mp rest
    have later_eq : behind = later := (Prod.mk.inj (Option.some.inj same)).2
    refine ⟨content, given, ?_⟩
    rw [← later_eq, RemoteFiles.content_put put, if_pos rfl]
  apply Ensures.bind (ensures_stage hidden spares writes
    (pointerPath .previous) (Alike.refl files))
  · intro _ staged told
    obtain ⟨alike, content, given, written⟩ := told
    have may : MayPlace (pointerPath .previous) (files.content (pointerPath .current)) files
        staged := Or.inl alike
    apply Ensures.afterReading (Quiet.reads (quiet_chownPath trivial) staged) may fun _ => may
    intro _ _
    have chmod : (RemoteCommand.chmod temporary).Inert := trivial
    apply Ensures.afterReading (Quiet.reads (quiet_ask chmod) staged) may fun _ => may
    intro _ _
    exact ensures_moveInto hidden given written alike
  · exact fun _ _ may => may

/-! ## Removals -/

/-- A path is removed, or nothing is. -/
theorem ensures_removeExactVerified (path : RemotePath) (expected : String) (files : RemoteFiles) :
    (removeExactVerified config path expected).Ensures platform.host
      (fun later => later = files ∨ Removed [path] files later)
      (Ends (fun _ => Removed [path] files)
        fun _ later => later = files ∨ Removed [path] files later) files := by
  have start : files = files ∨ Removed [path] files files := Or.inl rfl
  apply Ensures.afterReading (reads_probe (.testLink path) trivial files) start fun _ => start
  intro link _
  split
  · exact start
  · exact start
  · apply Ensures.afterReading (reads_remoteSha256Required path files) start fun _ => start
    intro digest _
    apply Ensures.afterReading (reads_lift fun _ _ => trivial) start fun _ => start
    intro _ _
    apply ensures_command (.remove path)
      (fun later => later = files ∨ Removed [path] files later) start
    · intro answer later done
      obtain ⟨_, _, same⟩ := Option.map_eq_some_iff.mp done
      have removed : Removed [path] files later := by
        intro other
        rw [← (Prod.mk.inj same).2, RemoteFiles.content_erase]
        simp only [List.mem_singleton]
      exact ⟨removed, fun _ => Or.inr removed⟩
    · exact fun _ => start

/-- Paths are removed one after the other. -/
theorem ensures_removals (expected : RemotePath → String) (paths : List RemotePath)
    (files : RemoteFiles) :
    (Program.forEach (fun path => removeExactVerified config path (expected path)) paths).Ensures
      platform.host (fun later => ∃ gone, gone ⊆ paths ∧ Removed gone files later)
      (Ends (fun _ => Removed paths files)
        fun _ later => ∃ gone, gone ⊆ paths ∧ Removed gone files later) files := by
  let holds (rest : List RemotePath) (later : RemoteFiles) : Prop :=
    ∃ gone, gone ++ rest = paths ∧ Removed gone files later
  have start : holds paths files := ⟨[], rfl, fun _ => rfl⟩
  apply ensures_forEach holds ?_ ?_ start
  · rintro path rest before ⟨gone, all, removed⟩
    have whole : gone ++ [path] ++ rest = paths := (List.append_cons gone path rest).symm.trans all
    have partly : ∀ later, later = before ∨ Removed [path] before later →
        ∃ gone, gone ⊆ paths ∧ Removed gone files later := by
      rintro later (same | one)
      · rw [same, ← all]
        exact ⟨gone, List.subset_append_left gone _, removed⟩
      · refine ⟨gone ++ [path], ?_, removed.trans one⟩
        rw [← whole]
        exact List.subset_append_left _ rest
    apply (ensures_removeExactVerified path (expected path) before).mono partly
    intro result later ends
    cases result with
    | error fault => exact partly later ends
    | ok _ =>
      exact ⟨gone ++ [path], whole, removed.trans ends⟩
  · rintro later ⟨gone, all, removed⟩
    rw [← all, List.append_nil]
    exact removed

end DTLab
