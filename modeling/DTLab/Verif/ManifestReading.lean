import DTLab.Verif.Retention

/-!
# What a run reads of the remote manifests

Retention decodes the manifests in the order in which it reads them, and ends at the first that it
cannot decode. What it raises there follows from the record of the run: from the digests that were
reported and the texts that came back.
-/

namespace DTLab

open Library (Text Program universalNewlines)
open Library.Attempt (mapM_congr)
open Library.Program (Ensures Uses Ends OnlyRaises ensures_lift ensures_accumulate)
open RemoteCommand (ask)

variable {platform : RemotePlatform} {config : PublishConfig}

/-! ## Readings -/

/-- A command and its reply. -/
abbrev RemoteEvent := Program.Event RemoteCommand fun command => RemoteReply command.Answer

/-- What a run has read of the manifests. -/
structure ManifestReadings where
  /-- The digests that were reported, the latest first. -/
  digests : List (RemotePath × String)
  /-- The texts that came back, each with the digest that was reported of its file. -/
  manifests : List (RemotePath × String × Text)
  /-- Every request for contents was answered. -/
  complete : Bool

/-- What an event adds. -/
def ManifestReadings.add (readings : ManifestReadings) : RemoteEvent → ManifestReadings
  | ⟨.hashes _, .answered lines⟩ => { readings with digests := lines ++ readings.digests }
  | ⟨.contents _, .answered records⟩ =>
    { readings with manifests := readings.manifests ++ records.map fun record =>
        (record.1, (readings.digests.lookup record.1).getD "", record.2) }
  | ⟨.contents _, _⟩ => { readings with complete := false }
  | _ => readings

/-- What a run has read. -/
def manifestReadings (record : RemoteRecord) : ManifestReadings :=
  record.foldl ManifestReadings.add ⟨[], [], true⟩

/-- A manifest that was read is decoded: an archive must have the digest that its name says. -/
def decodeReading (platform : RemotePlatform) (reading : RemotePath × String × Text) :
    Except RemoteFault RemoteManifest :=
  if reading.1.directory = .manifests ∧ reading.2.1 ≠ stem reading.1.name then
    .error (refused "Hash archivio manifest remoto non valido.")
  else decodeRemoteManifest platform reading.2.2 reading.2.1

/-- Where all manifests were read, the first that cannot be decoded is refused, and not beyond the
limits of the interpreter. -/
def ManifestsWithin (platform : RemotePlatform) (record : RemoteRecord) : Prop :=
  (manifestReadings record).complete = true →
    (manifestReadings record).manifests.mapM (decodeReading platform) ≠ .error .limits

/-- A further event. -/
theorem manifestReadings_concat (record : RemoteRecord) (event : RemoteEvent) :
    manifestReadings (record ++ [event]) = (manifestReadings record).add event := by
  rw [manifestReadings, List.foldl_append]
  rfl

/-- A command that asks for no contents. -/
def RemoteCommand.ReadsNoContents : RemoteCommand → Prop
  | contents _ => False
  | _ => True

/-- It adds no manifest. -/
theorem ManifestReadings.add_other {command : RemoteCommand} (other : command.ReadsNoContents)
    (readings : ManifestReadings) (reply : RemoteReply command.Answer) :
    (readings.add ⟨command, reply⟩).manifests = readings.manifests ∧
      (readings.add ⟨command, reply⟩).complete = readings.complete := by
  cases command with
  | contents _ => exact other.elim
  | hashes _ => cases reply <;> exact ⟨rfl, rfl⟩
  | _ => exact ⟨rfl, rfl⟩

/-- No manifest was read yet. -/
def Unread (record : RemoteRecord) : Prop :=
  (manifestReadings record).manifests = [] ∧ (manifestReadings record).complete = true

/-- A command that asks for no contents. -/
theorem Unread.concat {record : RemoteRecord} (unread : Unread record) {command : RemoteCommand}
    (other : command.ReadsNoContents) (reply : RemoteReply command.Answer) :
    Unread (record ++ [⟨command, reply⟩]) := by
  have added := (manifestReadings record).add_other other reply
  rw [Unread, manifestReadings_concat, added.1, added.2]
  exact unread

/-- A command that asks for no contents leaves what is said of the manifests. -/
theorem manifestsWithin_concat {record : RemoteRecord} {command : RemoteCommand}
    (other : command.ReadsNoContents) (reply : RemoteReply command.Answer) :
    ManifestsWithin platform (record ++ [⟨command, reply⟩]) ↔ ManifestsWithin platform record := by
  have added := (manifestReadings record).add_other other reply
  rw [ManifestsWithin, ManifestsWithin, manifestReadings_concat, added.1, added.2]

/-- Nothing is beyond the limits where no manifest was read. -/
theorem Unread.within {record : RemoteRecord} (unread : Unread record) :
    ManifestsWithin platform record := by
  intro _ limits
  rw [unread.1] at limits
  cases limits

/-! ## Faults -/

/-- A `RemotePublishError`. -/
def RemoteFault.IsPublishError : RemoteFault → Prop
  | .publish _ _ => True
  | _ => False

instance : Refusals RemoteFault.IsPublishError := ⟨fun _ => trivial⟩

/-- A `RemotePublishError`, or what a text beyond the limits of the interpreter raises. -/
def RemoteFault.OfManifest : RemoteFault → Prop
  | .publish _ _ | .limits => True
  | _ => False

instance : Failures RemoteFault.OfManifest where
  refused _ := trivial
  limits := trivial

/-- Among these, the limits of the interpreter are the error that is no `RemotePublishError`. -/
theorem RemoteFault.OfManifest.isPublishError_iff {fault : RemoteFault} (known : fault.OfManifest) :
    fault.IsPublishError ↔ fault ≠ .limits := by
  cases fault with
  | publish message committed => exact iff_of_true trivial RemoteFault.noConfusion
  | limits => exact iff_of_false not_false fun other => other rfl
  | storage => exact known.elim
  | lookup => exact known.elim

/-- Decoding a manifest raises nothing else. -/
theorem onlyRaises_decodeReading (reading : RemotePath × String × Text) :
    OnlyRaises RemoteFault.OfManifest (decodeReading platform reading) := by
  rw [decodeReading]
  split_ifs
  · exact trivial
  · exact onlyRaises_decodeRemoteManifest _ _

/-! ## Reading -/

/-- A command that changes nothing, with its record. -/
theorem ensures_ask_recorded {command : RemoteCommand} (inert : command.Inert) (files : RemoteFiles)
    (record : RemoteRecord) :
    (command.ask config).Ensures platform.world (fun _ => True)
      (Ends
        (fun answer later => command.exec platform.sha256Text files = some (answer, files) ∧
          later = (files, record ++ [⟨command, .answered answer⟩]))
        fun fault later => fault.IsPublishError ∧ ∃ reply : RemoteReply command.Answer,
          (∀ answer, reply ≠ .answered answer) ∧ later = (files, record ++ [⟨command, reply⟩]))
      (files, record) := by
  refine ⟨trivial, fun outcome => ?_⟩
  have same := inert.respond platform.sha256Text outcome files
  simp only [Program.recorded, same]
  cases reply : (files.respond platform.sha256Text outcome command).1 with
  | answered answer =>
    have done := RemoteFiles.respond_answered reply
    rw [same] at done
    exact ⟨done, rfl⟩
  | failed code => exact ⟨trivial, _, by simp, rfl⟩
  | timedOut => exact ⟨trivial, _, by simp, rfl⟩
  | unstarted => exact ⟨trivial, _, by simp, rfl⟩

/-- The files that are read are the paths with what is read of each. -/
theorem eq_map_of_readAll {α : Type} {files : RemoteFiles} {read : Text → α}
    {paths : List RemotePath} {lines : List (RemotePath × α)}
    (all : readAll files read paths = some lines) :
    lines = paths.map fun path => (path, read ((files.content path).getD [])) := by
  induction paths generalizing lines with
  | nil => exact (Option.some.inj all).symm
  | cons first paths ih =>
    rw [readAll, List.mapM_cons] at all
    obtain ⟨line, found, rest⟩ := Option.bind_eq_some_iff.mp all
    obtain ⟨others, read_others, same⟩ := Option.bind_eq_some_iff.mp rest
    obtain ⟨content, present, line_eq⟩ := Option.map_eq_some_iff.mp found
    rw [← Option.some.inj same, ih read_others, ← line_eq, List.map_cons, present]
    rfl

/-- The digests that were reported of some files are those of their contents. -/
def DigestsReported (platform : RemotePlatform) (files : RemoteFiles) (paths : List RemotePath)
    (record : RemoteRecord) : Prop :=
  ∀ path ∈ paths, (manifestReadings record).digests.lookup path =
    some (platform.sha256Text ((files.content path).getD []))

/-- Pairs with keys of their own are found by their keys. -/
theorem lookup_map_self {α : Type} (value : RemotePath → α) {paths : List RemotePath}
    {path : RemotePath} (member : path ∈ paths) :
    (paths.map fun path => (path, value path)).lookup path = some (value path) := by
  induction paths with
  | nil => cases member
  | cons first paths ih =>
    rw [List.map_cons, List.lookup_cons]
    by_cases same : path = first
    · rw [same, beq_self_eq_true]
    · rw [beq_false_of_ne same]
      exact ih ((List.mem_cons.mp member).resolve_left same)

/-- Others are not. -/
theorem lookup_map_other {α : Type} (value : RemotePath → α) {paths : List RemotePath}
    {path : RemotePath} (missing : path ∉ paths) :
    (paths.map fun path => (path, value path)).lookup path = none := by
  rw [List.lookup_eq_none_iff]
  intro pair member
  obtain ⟨other, listed, rfl⟩ := List.mem_map.mp member
  exact bne_iff_ne.mpr fun same => missing (same ▸ listed)

/-- The digests of a batch. -/
theorem DigestsReported.concat {files : RemoteFiles} {paths batch : List RemotePath}
    {record : RemoteRecord} (reported : DigestsReported platform files paths record)
    {lines : List (RemotePath × String)}
    (all : readAll files platform.sha256Text batch = some lines) :
    DigestsReported platform files (paths ++ batch)
      (record ++ [⟨.hashes batch, .answered lines⟩]) := by
  intro path member
  rw [manifestReadings_concat]
  show (lines ++ (manifestReadings record).digests).lookup path = _
  rw [eq_map_of_readAll all, List.lookup_append]
  by_cases inside : path ∈ batch
  · rw [lookup_map_self _ inside]
    rfl
  · rw [lookup_map_other _ inside]
    exact reported path ((List.mem_append.mp member).resolve_right inside)

/-- The digests of files are reported. -/
theorem ensures_remoteHashesRequired_recorded (paths : List RemotePath) (files : RemoteFiles)
    {record : RemoteRecord} (unread : Unread record) :
    (remoteHashesRequired config paths).Ensures platform.world (fun _ => True)
      (Ends
        (fun hashes later => later.1 = files ∧ Unread later.2 ∧
          hashes = (paths.map fun path =>
            (path, platform.sha256Text ((files.content path).getD []))) ∧
          DigestsReported platform files paths later.2)
        fun fault later => fault.IsPublishError ∧ Unread later.2) (files, record) := by
  rw [remoteHashesRequired]
  split_ifs
  · let holds (observed : List (RemotePath × String)) (rest : List (List RemotePath))
        (later : RecordedFiles) : Prop :=
      later.1 = files ∧ Unread later.2 ∧ ∃ done, done ++ rest.flatten = paths ∧
        observed = (done.map fun path =>
          (path, platform.sha256Text ((files.content path).getD []))) ∧
        DigestsReported platform files done later.2
    have start : holds [] (chunks remoteReadBatch paths) (files, record) :=
      ⟨rfl, unread, [], flatten_chunks _ _, rfl, fun _ member => absurd member List.not_mem_nil⟩
    refine ensures_accumulate holds ?_ ?_ start
    · rintro observed batch rest ⟨same, past⟩ ⟨rfl, unread, done, all, rfl, reported⟩
      have inert : (RemoteCommand.hashes batch).Inert := trivial
      have plain : (RemoteCommand.hashes batch).ReadsNoContents := trivial
      refine Ensures.bind (ensures_ask_recorded inert same past) ?_ ?_
      · rintro lines later ⟨answered, rfl⟩
        obtain ⟨read, found, equal⟩ := Option.map_eq_some_iff.mp answered
        rw [(Prod.mk.inj equal).1] at found
        refine ⟨rfl, unread.concat plain _, done ++ batch, ?_, ?_, reported.concat found⟩
        · rw [List.append_assoc]
          exact all
        · rw [List.map_append, eq_map_of_readAll found]
      · rintro fault later ⟨publish, reply, _, rfl⟩
        exact ⟨publish, unread.concat plain reply⟩
    · rintro observed later ⟨same, unread, done, all, rfl, reported⟩
      rw [List.flatten_nil, List.append_nil] at all
      rw [← all]
      exact ⟨same, unread, rfl, reported⟩
  · exact ⟨trivial, unread⟩

/-- What is read of a manifest, of a store. -/
def fileReading (platform : RemotePlatform) (files : RemoteFiles) (path : RemotePath) :
    RemotePath × String × Text :=
  (path, platform.sha256Text ((files.content path).getD []),
    universalNewlines ((files.content path).getD []))

/-- The texts of files come back, whose digests were reported. -/
theorem ensures_remoteContentsRequired_recorded (paths : List RemotePath) (files : RemoteFiles)
    {record : RemoteRecord} (unread : Unread record)
    (reported : DigestsReported platform files paths record) :
    (remoteContentsRequired config paths).Ensures platform.world (fun _ => True)
      (Ends
        (fun contents later => later.1 = files ∧
          contents = (paths.map fun path =>
            (path, universalNewlines ((files.content path).getD []))) ∧
          (manifestReadings later.2).complete = true ∧
          (manifestReadings later.2).manifests = paths.map (fileReading platform files))
        fun fault later => fault.IsPublishError ∧ ManifestsWithin platform later.2)
      (files, record) := by
  rw [remoteContentsRequired]
  split_ifs
  · let holds (observed : List (RemotePath × Text)) (rest : List (List RemotePath))
        (later : RecordedFiles) : Prop :=
      later.1 = files ∧ (manifestReadings later.2).complete = true ∧
        (manifestReadings later.2).digests = (manifestReadings record).digests ∧
        ∃ done, done ++ rest.flatten = paths ∧
          observed = (done.map fun path =>
            (path, universalNewlines ((files.content path).getD []))) ∧
          (manifestReadings later.2).manifests = done.map (fileReading platform files)
    have start : holds [] (chunks remoteReadBatch paths) (files, record) :=
      ⟨rfl, unread.2, rfl, [], flatten_chunks _ _, rfl, unread.1⟩
    refine ensures_accumulate holds ?_ ?_ start
    · rintro observed batch rest ⟨same, past⟩ ⟨rfl, complete, digests, done, all, rfl, manifests⟩
      have inert : (RemoteCommand.contents batch).Inert := trivial
      refine Ensures.bind (ensures_ask_recorded inert same past) ?_ ?_
      · rintro records later ⟨answered, rfl⟩
        obtain ⟨read, found, equal⟩ := Option.map_eq_some_iff.mp answered
        rw [(Prod.mk.inj equal).1] at found
        refine ⟨rfl, ?_, ?_, done ++ batch, ?_, ?_, ?_⟩
        · rw [manifestReadings_concat]
          exact complete
        · rw [manifestReadings_concat]
          exact digests
        · rw [List.append_assoc]
          exact all
        · rw [List.map_append, eq_map_of_readAll found]
        · rw [manifestReadings_concat]
          show (manifestReadings past).manifests ++ records.map _ = _
          rw [manifests, digests, eq_map_of_readAll found, List.map_append, List.map_map]
          congr 1
          apply List.map_congr_left
          intro path member
          have listed : path ∈ paths := by
            rw [← all]
            exact List.mem_append_right _ (List.mem_append_left _ member)
          show (path, ((manifestReadings record).digests.lookup path).getD "", _) = _
          rw [reported path listed]
          rfl
      · rintro fault later ⟨publish, reply, silent, rfl⟩
        refine ⟨publish, fun complete => ?_⟩
        rw [manifestReadings_concat] at complete
        cases reply with
        | answered answer => exact absurd rfl (silent answer)
        | _ => cases complete
    · rintro observed later ⟨same, complete, _, done, all, rfl, manifests⟩
      rw [List.flatten_nil, List.append_nil] at all
      rw [← all]
      exact ⟨same, rfl, complete, manifests⟩
  · exact ⟨trivial, unread.within⟩

/-! ## The inventory -/

/-- The harmless commands ask for no contents. -/
theorem reading_readsNoContents (command : RemoteCommand) (harmless : command.Harmless) :
    command.ReadsNoContents := by
  cases command <;> first | exact trivial | exact harmless.elim

/-- What a program raises tells whether the first manifest that cannot be decoded is refused. -/
def TellsLimits {α : Type} (platform : RemotePlatform) (program : RemoteProgram α)
    (state : RecordedFiles) : Prop :=
  program.Ensures platform.world (fun _ => True)
    (fun result later => ManifestsWithin platform later.2 ↔
      OnlyRaises RemoteFault.IsPublishError result) state

/-- Behind a program that asks for no contents. -/
theorem TellsLimits.bind {α β : Type} {program : RemoteProgram α} {next : α → RemoteProgram β}
    {state : RecordedFiles}
    (uses : program.Uses RemoteCommand.ReadsNoContents (OnlyRaises RemoteFault.IsPublishError))
    (unread : Unread state.2)
    (rest : ∀ value later, Unread later.2 → TellsLimits platform (next value) later) :
    TellsLimits platform (program >>= next) state := by
  have kept := uses.ensures platform.world (fun later => Unread later.2)
    (fun command other outcome before unread => unread.concat other _) unread
  refine Ensures.bind (kept.mono (fun _ _ => trivial) fun _ _ holds => holds) ?_ ?_
  · exact fun value later holds => rest value later holds.2
  · exact fun fault later holds => iff_of_true holds.2.within holds.1

/-- A program that asks for no contents, where all manifests were decoded. -/
theorem TellsLimits.of_within {α : Type} {program : RemoteProgram α} {state : RecordedFiles}
    (uses : program.Uses RemoteCommand.ReadsNoContents (OnlyRaises RemoteFault.IsPublishError))
    (within : ManifestsWithin platform state.2) : TellsLimits platform program state := by
  have kept := uses.ensures platform.world (fun later => ManifestsWithin platform later.2)
    (fun command other outcome before within => (manifestsWithin_concat other _).mpr within) within
  apply kept.mono (fun _ _ => trivial)
  exact fun result later holds => iff_of_true holds.2 holds.1

section Decoding

variable {files : RemoteFiles} {paths : List RemotePath} {path : RemotePath}

/-- An archive is decoded from what was read of it. -/
theorem readArchive_eq_decodeReading (archive : path.directory = .manifests)
    (member : path ∈ paths) :
    readArchive platform
        (paths.map fun path => (path, platform.sha256Text ((files.content path).getD [])))
        (paths.map fun path => (path, universalNewlines ((files.content path).getD []))) path =
      decodeReading platform (fileReading platform files path) := by
  rw [readArchive, lookup_map_self _ member, lookup_map_self _ member, decodeReading, fileReading]
  by_cases differs : platform.sha256Text ((files.content path).getD []) ≠ stem path.name
  · rw [if_pos fun same => differs (Option.some.inj same), if_pos ⟨archive, differs⟩]
  · rw [if_neg fun other => differs fun same => other (congrArg some same),
      if_neg fun both => differs both.2, not_not.mp differs]
    rfl

/-- So is the manifest under a pointer. -/
theorem readPointer_eq_decodeReading (pointer : path.directory ≠ .manifests)
    (member : path ∈ paths) :
    readPointer platform
        (paths.map fun path => (path, platform.sha256Text ((files.content path).getD [])))
        (paths.map fun path => (path, universalNewlines ((files.content path).getD []))) path =
      decodeReading platform (fileReading platform files path) := by
  rw [readPointer, lookup_map_self _ member, lookup_map_self _ member, decodeReading, fileReading,
    if_neg fun both => pointer both.1]
  rfl

end Decoding

/-- The manifests are decoded: the archives first, and those under the pointers behind them. -/
theorem tellsLimits_decoding {β : Type} {files : RemoteFiles} {record : RemoteRecord}
    {archives pointers : List RemotePath} {first second : Except RemoteFault (List RemoteManifest)}
    (complete : (manifestReadings record).complete = true)
    (manifests : (manifestReadings record).manifests =
      (archives ++ pointers).map (fileReading platform files))
    (first_eq : first = archives.mapM fun path =>
      decodeReading platform (fileReading platform files path))
    (second_eq : second = pointers.mapM fun path =>
      decodeReading platform (fileReading platform files path))
    {next : List RemoteManifest → List RemoteManifest → RemoteProgram β}
    (rest : ∀ archived pointed, (next archived pointed).Uses RemoteCommand.ReadsNoContents
      (OnlyRaises RemoteFault.IsPublishError)) :
    TellsLimits platform (do
      let archived ← Program.lift first
      let pointed ← Program.lift second
      next archived pointed) (files, record) := by
  have within_iff : ManifestsWithin platform record ↔
      (do
        let archived ← first
        let pointed ← second
        pure (archived ++ pointed)) ≠ .error .limits := by
    rw [ManifestsWithin, manifests, List.mapM_map, List.mapM_append, first_eq, second_eq]
    exact forall_prop_of_true complete
  have known : OnlyRaises RemoteFault.OfManifest first ∧
      OnlyRaises RemoteFault.OfManifest second := by
    rw [first_eq, second_eq]
    exact ⟨Program.onlyRaises_mapM (fun _ => onlyRaises_decodeReading _) _,
      Program.onlyRaises_mapM (fun _ => onlyRaises_decodeReading _) _⟩
  clear first_eq second_eq
  cases first with
  | error fault =>
    apply within_iff.trans
    rw [OnlyRaises, known.1.isPublishError_iff]
    exact not_congr ⟨Except.error.inj, congrArg Except.error⟩
  | ok archived =>
    cases second with
    | error fault =>
      apply within_iff.trans
      rw [OnlyRaises, known.2.isPublishError_iff]
      exact not_congr ⟨Except.error.inj, congrArg Except.error⟩
    | ok pointed =>
      have within : ManifestsWithin platform record := by
        apply within_iff.mpr
        intro limits
        cases limits
      exact TellsLimits.of_within (rest archived pointed) within

/-- What the inventory raises. -/
theorem tellsLimits_readInventory {state : RecordedFiles} (unread : Unread state.2) :
    TellsLimits platform (readInventory platform config) state := by
  have entries : ∀ label known, OnlyRaises RemoteFault.IsPublishError (checkEntries label known) :=
    onlyRaises_checkEntries
  apply TellsLimits.bind (quiet_remoteEntries reading_readsNoContents .manifests) unread
  intro manifestEntries _ unread
  apply TellsLimits.bind (quiet_remoteEntries reading_readsNoContents .objects) unread
  intro objectEntries _ unread
  apply TellsLimits.bind (Program.uses_lift.mpr (entries _ _)) unread
  intro _ _ unread
  apply TellsLimits.bind (Program.uses_lift.mpr (entries _ _)) unread
  intro _ _ unread
  apply TellsLimits.bind (quiet_pointerEntries reading_readsNoContents) unread
  rintro pointerEntries ⟨files, past⟩ unread
  refine Ensures.bind (ensures_remoteHashesRequired_recorded _ files unread) ?_
    fun fault later holds => iff_of_true holds.2.within holds.1
  rintro hashes ⟨_, past⟩ ⟨rfl, unread, rfl, reported⟩
  have reading := @ensures_remoteContentsRequired_recorded platform config _ _ _ unread reported
  refine Ensures.bind reading ?_ fun fault later holds => iff_of_true holds.2 holds.1
  rintro contents ⟨_, past⟩ ⟨rfl, rfl, complete, manifests⟩
  apply tellsLimits_decoding complete manifests
  · apply mapM_congr
    intro path member
    have archive := (mem_sortedPaths.mp member).1
    exact readArchive_eq_decodeReading archive (List.mem_append_left _ member)
  · apply mapM_congr
    intro path member
    have pointer : path.directory ≠ .manifests := by
      obtain ⟨entry, _, rfl⟩ := List.mem_map.mp member
      exact RemoteDirectory.noConfusion
    exact readPointer_eq_decodeReading pointer (List.mem_append_right _ member)
  · intro archived pointed
    apply Uses.bind (quiet_remoteHashesRequired reading_readsNoContents _)
    intro objectHashes
    apply Uses.bind (Program.uses_lift.mpr (onlyRaises_require _ _))
    intro _
    apply Uses.bind (Program.uses_lift.mpr (onlyRaises_require _ _))
    exact fun _ => trivial

end DTLab
