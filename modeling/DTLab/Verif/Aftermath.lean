import DTLab.Remote.Evaluation
import DTLab.Verif.Retention

/-!
# What a completed publication leaves

Behind a publication that completes every directory exists, the lock is free, retention has read a
tidy store, and the pointers are those of before with the snapshot that became current.
-/

namespace DTLab

open Library (Json Text Dict Program)
open Library.Program (Ensures Uses Reads Ends OnlyRaises ensures_bind ensures_handle
  ensures_attempt ensures_lift ensures_invariant reads_lift)

variable {platform : RemotePlatform} {config : PublishConfig}

/-! ## Pointers -/

/-- The manifests under the pointers. -/
def RemoteFiles.pointers (files : RemoteFiles) (pointer : SnapshotPointer) : Option Text :=
  files.content (pointerPath pointer)

/-- The manifests under the pointers behind a switch to a snapshot. -/
def switchedPointers (prepared : PreparedSnapshot) (before : SnapshotPointer → Option Text) :
    SnapshotPointer → Option Text
  | .current => some prepared.manifestContent
  | .previous => (before .current).or (before .previous)
  | .lastKnownGood =>
    match prepared.isFresh with
    | .ok true => some prepared.manifestContent
    | _ => (before .lastKnownGood).or (some prepared.manifestContent)

/-- The manifests under the pointers behind a publication: nothing is switched where `current` has
the digest of the snapshot. -/
def pointersBehind (platform : RemotePlatform) (prepared : PreparedSnapshot)
    (before : SnapshotPointer → Option Text) : SnapshotPointer → Option Text :=
  if (before .current).map platform.sha256Text = some prepared.manifestDigest then before
  else switchedPointers prepared before

theorem pointerPath_injective : Function.Injective pointerPath := by
  intro first second same
  exact RemoteDirectory.pointer.inj (congrArg RemotePath.directory same)

/-- A manifest that is placed under a pointer. -/
theorem Placed.pointers {pointer : SnapshotPointer} {content : Text} {before later : RemoteFiles}
    (placed : Placed (pointerPath pointer) content before later) :
    later.pointers = Function.update before.pointers pointer (some content) := by
  funext other
  rw [RemoteFiles.pointers, placed _ (visible_pointerPath other)]
  by_cases same : other = pointer
  · rw [same, if_pos rfl, Function.update_self]
  · rw [if_neg fun equal => same (pointerPath_injective equal), Function.update_of_ne same]
    rfl

/-- A program that spares the pointers leaves their manifests. -/
theorem Quiet.pointers {α : Type} {program : RemoteProgram α}
    (quiet : ∀ pointer, Quiet (RemoteCommand.Spares (pointerPath pointer)) program)
    (files : RemoteFiles) :
    program.Ensures platform.host (fun _ => True) (fun _ later => later.pointers = files.pointers)
      files := by
  have each : ∀ pointer, program.Ensures platform.host
      (fun later => later.pointers pointer = files.pointers pointer)
      (fun _ later => later.pointers pointer = files.pointers pointer) files := by
    intro pointer
    apply ((quiet pointer).ensures platform.host
      (fun later => later.pointers pointer = files.pointers pointer) ?_ rfl).weaken
    · exact fun _ _ holds => holds.2
    · intro command spares outcome before same
      exact (spares.respond platform.sha256Text outcome before).trans same
  exact (Program.ensures_forall each).weaken fun _ _ same => funext same

/-- An upload under a pointer, where it returns. -/
theorem Uploads.pointers {program : RemoteProgram Unit} {pointer : SnapshotPointer}
    {source : Option Text} {files : RemoteFiles}
    (uploads : Uploads platform program (pointerPath pointer) source files) :
    program.Ensures platform.host (fun _ => True)
      (Ends (fun _ later => later.pointers =
        Function.update files.pointers pointer source) fun _ _ => True) files := by
  apply Ensures.mono uploads
  · exact fun _ _ => trivial
  · intro result later ends
    cases result with
    | error fault => trivial
    | ok _ =>
      obtain ⟨content, given, placed⟩ := ends
      show later.pointers = _
      rw [given]
      exact placed.pointers

section Switch

variable {prepared : PreparedSnapshot}

/-- The pointer `last_known_good` behind its switch. -/
theorem ensures_keepLastKnownGood_pointers (files : RemoteFiles) :
    (keepLastKnownGood platform config prepared).Ensures platform.host (fun _ => True)
      (Ends (fun _ later => later.pointers = Function.update files.pointers .lastKnownGood
        (switchedPointers prepared files.pointers .lastKnownGood)) fun _ _ => True) files := by
  have start : True := trivial
  apply Ensures.afterReading (reads_remoteFileExists (pointerPath .lastKnownGood) files) start
    fun _ => trivial
  intro present present_eq
  apply Ensures.afterReading (reads_lift fun fresh known => known) start fun _ => trivial
  intro fresh known
  split_ifs with written
  · apply (uploads_commitBytes _ _ _ files).pointers.weaken
    intro result later ends
    cases result with
    | error fault => trivial
    | ok _ =>
      show later.pointers = _
      have value : switchedPointers prepared files.pointers .lastKnownGood =
          some prepared.manifestContent := by
        rw [switchedPointers, known]
        cases fresh with
        | true => rfl
        | false =>
          have absent : ¬ present = true := written.resolve_left nofun
          rw [present_eq, Option.isSome_iff_ne_none, not_not] at absent
          rw [RemoteFiles.pointers, absent]
          rfl
      rw [value]
      exact ends
  · show files.pointers = _
    have value : switchedPointers prepared files.pointers .lastKnownGood =
        files.pointers .lastKnownGood := by
      obtain ⟨stale, there⟩ := not_or.mp written
      rw [not_not, present_eq] at there
      obtain ⟨content, found⟩ := Option.isSome_iff_exists.mp there
      rw [switchedPointers, known, Bool.eq_false_of_not_eq_true stale, RemoteFiles.pointers, found]
      rfl
    rw [value, Function.update_eq_self]

/-- The pointers behind the switch of those other than `previous`. -/
theorem ensures_switchPointers_pointers (files : RemoteFiles) :
    (switchPointers platform config prepared).Ensures platform.host (fun _ => True)
      (Ends (fun _ later => later.pointers = Function.update (Function.update files.pointers
        .lastKnownGood (switchedPointers prepared files.pointers .lastKnownGood)) .current
          (some prepared.manifestContent)) fun _ _ => True) files := by
  apply Ensures.bind (ensures_keepLastKnownGood_pointers files)
  · intro _ kept pointers
    have switched : (switchCurrent platform config prepared).Ensures platform.host (fun _ => True)
        (Ends (fun _ later => later.pointers = Function.update kept.pointers .current
          (some prepared.manifestContent)) fun _ _ => True) kept := by
      apply ensures_handle.mpr
      apply (uploads_commitBytes _ _ _ kept).pointers.weaken
      intro result later ends
      cases result with
      | ok _ => exact ends
      | error fault => cases fault <;> trivial
    apply Ensures.bind switched
    · intro _ later same
      have read : (verifyCurrent config prepared).Reads platform.host later fun _ => True := by
        apply Reads.bind (reads_remoteSha256Required (pointerPath .current) later)
        intro digest _
        exact reads_lift fun _ _ => trivial
      apply Ensures.afterReading read trivial fun _ => trivial
      intro _ _
      show later.pointers = _
      rw [show later.pointers = _ from same, show kept.pointers = _ from pointers]
    · exact fun _ _ _ => trivial
  · exact fun _ _ _ => trivial

/-- The pointers behind the commit of a snapshot. -/
theorem ensures_commitCurrentLocked_pointers (files : RemoteFiles) :
    (commitCurrentLocked platform config prepared).Ensures platform.host (fun _ => True)
      (Ends (fun _ later => later.pointers = pointersBehind platform prepared files.pointers)
        fun _ _ => True) files := by
  have start : True := trivial
  apply Ensures.afterReading (reads_remoteFileExists (pointerPath .current) files) start
    fun _ => trivial
  intro present present_eq
  split_ifs with there
  · apply Ensures.afterReading (reads_remoteSha256Required (pointerPath .current) files) start
      fun _ => trivial
    rintro digest ⟨content, found, digest_eq⟩
    have current : files.pointers .current = some content := found
    split_ifs with same
    · show files.pointers = _
      rw [pointersBehind, current, Option.map_some, ← digest_eq, same, if_pos rfl]
    · have differs : ¬ (files.pointers .current).map platform.sha256Text =
          some prepared.manifestDigest := by
        rw [current, Option.map_some, ← digest_eq]
        exact fun equal => same (Option.some.inj equal)
      apply Ensures.bind (uploads_keepPrevious files).pointers
      · intro _ kept previous
        apply (ensures_switchPointers_pointers kept).weaken
        intro result later ends
        cases result with
        | error fault => trivial
        | ok _ =>
          show later.pointers = _
          rw [show later.pointers = _ from ends, show kept.pointers = _ from previous,
            pointersBehind, if_neg differs]
          funext pointer
          cases pointer <;> simp [switchedPointers, found, RemoteFiles.pointers]
      · exact fun _ _ _ => trivial
  · have absent : files.pointers .current = none := by
      rw [present_eq, Option.isSome_iff_ne_none, not_not] at there
      exact there
    apply (ensures_switchPointers_pointers files).weaken
    intro result later ends
    cases result with
    | error fault => trivial
    | ok _ =>
      have differs : ¬ (files.pointers .current).map platform.sha256Text =
          some prepared.manifestDigest := by
        rw [absent]
        exact nofun
      show later.pointers = _
      rw [show later.pointers = _ from ends, pointersBehind, if_neg differs]
      funext pointer
      cases pointer <;> simp [switchedPointers, absent]

end Switch

/-! ## Under the lock -/

/-- Retention leaves a tidy store and the pointers. -/
theorem ensures_pruneCommitted_tidy (files : RemoteFiles) :
    (pruneCommitted platform config).Ensures platform.host (fun _ => True)
      (Ends (fun _ later => Tidy platform later ∧ later.pointers = files.pointers)
        fun _ _ => True) files := by
  have pointers : (pruneRemoteLocked platform config).Ensures platform.host (fun _ => True)
      (fun _ later => later.pointers = files.pointers) files := by
    apply Quiet.pointers
    exact fun pointer => spares_pruneRemoteLocked nofun nofun
  have quiet : Quiet RemoteCommand.Reduces (pruneRemoteLocked platform config) := by
    apply quiet_pruneRemoteLocked
    · intro command harmless
      have inert := harmless.inert
      cases command <;> first | exact inert | exact trivial
    · exact fun _ => trivial
    · exact fun _ _ => trivial
  have reduced : (pruneRemoteLocked platform config).Ensures platform.host (fun _ => True)
      (fun _ later => Reduced files later) files := by
    have kept := quiet.ensures platform.host (Reduced files) ?_ (Reduced.refl files)
    · exact kept.mono (fun _ _ => trivial) fun _ _ holds => holds.2
    · intro command reduces outcome before reduced
      exact reduced.trans (reduces.respond platform.sha256Text outcome before)
  have tidy : (pruneRemoteLocked platform config).Ensures platform.host (fun _ => True)
      (Ends (fun _ _ => Tidy platform files) fun _ _ => True) files := by
    apply Ensures.afterReading (reads_readInventory_tidy files) trivial fun _ => trivial
    intro inventory tidy
    apply (Program.ensures_trivial _ files).weaken
    intro result later _
    cases result with
    | ok _ => exact tidy
    | error fault => trivial
  apply ensures_handle.mpr
  apply ((pointers.and reduced).and tidy).mono (fun _ _ => trivial)
  rintro result later ⟨⟨pointers, reduced⟩, tidy⟩
  cases result with
  | error fault => cases fault <;> trivial
  | ok _ =>
    refine ⟨Tidy.reduced tidy reduced ?_, pointers⟩
    have same : later.content (pointerPath .current) = files.content (pointerPath .current) :=
      congrFun pointers .current
    rw [same]
    exact Tidy.current tidy

/-- What a publication needs is known before it uploads anything. -/
theorem reads_verifiedSnapshotPresence_expected (snapshots : List PreparedSnapshot)
    (files : RemoteFiles) :
    (verifiedSnapshotPresence platform config snapshots).Reads platform.host files fun _ =>
      ∃ expected, expectedFiles platform snapshots = .ok expected := by
  apply Reads.bind (reads_remoteEntries .objects files)
  intro objectEntries _
  apply Reads.bind (reads_remoteEntries .manifests files)
  intro manifestEntries _
  apply Reads.bind (reads_lift fun _ expected => expected)
  intro expected needed
  have told : ∃ expected, expectedFiles platform snapshots = .ok expected := ⟨expected, needed⟩
  apply Reads.bind (reads_lift fun _ _ => trivial)
  intro objects _
  apply Reads.bind (reads_lift fun _ _ => trivial)
  intro archives _
  apply Reads.bind (reads_remoteHashesRequired _ files)
  intro observed _
  apply Reads.bind (reads_lift fun _ _ => trivial)
  intro _ _
  apply Reads.bind (reads_lift fun _ _ => trivial)
  intro _ _
  exact Program.reads_returned told

/-- What a completed publication leaves: the needed names are sound, the store is tidy, and the
pointers are switched. -/
structure Aftermath (platform : RemotePlatform) (before later : RemoteFiles)
    (snapshots : List PreparedSnapshot) (prepared : PreparedSnapshot) : Prop where
  expected : ∃ expected, expectedFiles platform snapshots = .ok expected
  tidy : Tidy platform later
  pointers : later.pointers = pointersBehind platform prepared before.pointers

/-- What a publication leaves under the lock. -/
theorem ensures_publishLocked_aftermath (store : SnapshotFiles) (archives : List PreparedSnapshot)
    (prepared : PreparedSnapshot) (files : RemoteFiles) :
    (publishLocked platform config store archives (some prepared)).Ensures platform.host
      (fun _ => True)
      (Ends (fun _ later => Aftermath platform files later (archives ++ [prepared]) prepared)
        fun _ _ => True) files := by
  have plain : ∀ pointer, (pointerPath pointer).name.toList.head? ≠ some '.' :=
    fun pointer => visible_pointerPath pointer
  have notObject : ∀ pointer, (pointerPath pointer).directory ≠ .objects := fun _ => nofun
  have notArchive : ∀ pointer, (pointerPath pointer).directory ≠ .manifests := fun _ => nofun
  apply Ensures.afterReading (reads_verifiedSnapshotPresence_expected _ files) trivial
    fun _ => trivial
  intro presence expected
  have uploads : ∀ pointer, Quiet (RemoteCommand.Spares (pointerPath pointer))
      (ensureArchives platform config store archives presence) := fun pointer =>
    quiet_ensureArchives (plain pointer) store archives presence (notObject pointer)
      (notArchive pointer)
  refine Ensures.bind (Quiet.pointers uploads files) ?_ fun _ _ _ => trivial
  rintro ⟨present, published, uploaded⟩ stored same
  dsimp only
  have upload : ∀ pointer, Quiet (RemoteCommand.Spares (pointerPath pointer))
      (ensureImmutableLocked platform config store prepared present) := fun pointer =>
    quiet_ensureImmutableLocked (plain pointer) store prepared present (notObject pointer)
      (notArchive pointer)
  refine Ensures.bind (Quiet.pointers upload stored) ?_ fun _ _ _ => trivial
  rintro ⟨_, archiveAdded, objectAdded⟩ added also
  dsimp only
  refine Ensures.bind (ensures_commitCurrentLocked_pointers added) ?_ fun _ _ _ => trivial
  intro updated committed switched
  refine Ensures.bind (ensures_pruneCommitted_tidy committed) ?_ fun _ _ _ => trivial
  intro _ later pruned
  refine ⟨expected, pruned.1, ?_⟩
  rw [pruned.2, show committed.pointers = _ from switched, also, same]

/-! ## The lock -/

/-- Where the layout is found or made, every directory exists. -/
theorem ensures_ensureRemoteLayout_laid (files : RemoteFiles) :
    (ensureRemoteLayout config).Ensures platform.host (fun _ => True)
      (Ends (fun _ later => later.Laid) fun _ _ => True) files := by
  have every : ∀ directory : RemoteDirectory, directory ∈ ([.root, .objects, .manifests,
      .pointer .current, .pointer .previous, .pointer .lastKnownGood] : List RemoteDirectory) := by
    intro directory
    cases directory with
    | pointer which => cases which <;> decide
    | _ => decide
  rw [ensureRemoteLayout]
  split_ifs
  · have made : ((RemoteCommand.makeDirectories [.root, .objects, .manifests, .pointer .current,
        .pointer .previous, .pointer .lastKnownGood]).ask config).Ensures platform.host
        (fun _ => True) (Ends (fun _ later => later.Laid) fun _ _ => True) files := by
      apply ensures_command _ (fun _ => True) trivial
      · intro answer later done
        refine ⟨?_, fun _ => trivial⟩
        show later.Laid
        rw [← (Prod.mk.inj (Option.some.inj done)).2]
        intro directory
        simp only [RemoteFiles.withDirectories]
        cases files.directory directory with
        | some entries => rfl
        | none =>
          simp only [if_pos (every directory)]
          rfl
      · exact fun _ => trivial
    refine Ensures.bind made ?_ fun _ _ _ => trivial
    intro _ later laid
    have inert : (RemoteCommand.chownDirectories [.root, .objects, .manifests, .pointer .current,
        .pointer .previous, .pointer .lastKnownGood]).Inert := trivial
    apply ((Quiet.reads (quiet_ask inert) later).ensures trivial).weaken
    intro result last ends
    cases result with
    | error fault => trivial
    | ok _ =>
      show last.Laid
      rw [ends.1]
      exact laid
  · have loops : ∀ body : RemoteDirectory → RemoteProgram Unit,
        (∀ directory, (body directory).Reads platform.host files
          fun _ => (files.directory directory).isSome = true) →
        (Program.forEach body [.root, .objects, .manifests, .pointer .current,
          .pointer .previous, .pointer .lastKnownGood]).Ensures platform.host (fun _ => True)
            (Ends (fun _ later => later.Laid) fun _ _ => True) files := by
      intro body each
      apply ((Program.reads_forEach fun directory _ => each directory).ensures trivial).weaken
      intro result later ends
      cases result with
      | error fault => trivial
      | ok _ =>
        show later.Laid
        rw [ends.1]
        exact fun directory => ends.2 directory (every directory)
    apply loops
    intro directory
    apply Reads.bind (reads_probe (.testDirectory directory) trivial files)
    intro answer told
    cases answer with
    | none => exact Program.reads_raised
    | some present =>
      cases present with
      | false => exact Program.reads_raised
      | true =>
        apply Program.reads_returned
        exact (Prod.mk.inj (Option.some.inj (told true rfl))).1

/-- Where the lock is taken, publication is enabled, and every directory exists. -/
theorem ensures_acquireLock_laid (files : RemoteFiles) :
    (acquireLock config).Ensures platform.host (fun _ => True)
      (Ends (fun _ later => config.enabled = true ∧ later.Laid ∧ later.pointers = files.pointers)
        fun _ _ => True) files := by
  have laid : (acquireLock config).Ensures platform.host (fun _ => True)
      (Ends (fun _ later => config.enabled = true ∧ later.Laid) fun _ _ => True) files := by
    apply Ensures.afterReading (reads_lift fun _ required => required) trivial fun _ => trivial
    intro _ required
    have enabled : config.enabled = true := by
      rw [require] at required
      split_ifs at required with enabled
      exact enabled
    refine Ensures.bind (ensures_ensureRemoteLayout_laid files) ?_ fun _ _ _ => trivial
    intro _ ready laid
    refine ⟨trivial, fun outcome => ?_⟩
    have behind := RemoteFiles.Laid.respond laid platform.sha256Text outcome .makeLock
    cases (ready.respond platform.sha256Text outcome .makeLock).1 with
    | answered answer => exact ⟨enabled, behind⟩
    | failed code => trivial
    | timedOut => trivial
    | unstarted => trivial
  have pointers : (acquireLock config).Ensures platform.host (fun _ => True)
      (fun _ later => later.pointers = files.pointers) files := by
    apply Quiet.pointers
    exact fun pointer => quiet_acquireLock (reading_spares _) (fun _ => trivial) trivial
  apply (laid.and pointers).mono (fun _ _ => trivial)
  intro result later ends
  cases result with
  | error fault => trivial
  | ok _ => exact ⟨ends.1.1, ends.1.2, ends.2⟩

/-- Where the release of the lock returns, the lock is free, and the directories are as before. -/
theorem ensures_releaseLock_free {α : Type} (published : Except RemoteFault α)
    (files : RemoteFiles) :
    (releaseLock config published).Ensures platform.host (fun _ => True)
      (Ends (fun summary later => published = .ok summary ∧ later.locked = false ∧
        later.directory = files.directory) fun _ _ => True) files := by
  cases published with
  | error fault =>
    cases fault with
    | publish message committed =>
      apply ensures_bind.mpr
      apply (Program.ensures_trivial _ files).weaken
      intro result later _
      cases result <;> trivial
    | storage => trivial
    | lookup => trivial
    | limits => trivial
  | ok summary =>
    apply ensures_bind.mpr
    apply ensures_attempt.mpr
    refine ⟨trivial, fun outcome => ?_⟩
    cases reply : (files.respond platform.sha256Text outcome .removeLock).1 with
    | answered answer =>
      have done := RemoteFiles.respond_answered reply
      simp only [RemoteCommand.exec, Option.ite_none_right_eq_some, Option.some.injEq,
        Prod.mk.injEq] at done
      refine ⟨rfl, ?_, ?_⟩ <;> rw [← done.2.2]
    | failed code => trivial
    | timedOut => trivial
    | unstarted => trivial

/-! ## The whole publication -/

/-- Stores with the same directories have the same contents. -/
theorem content_of_directory {before later : RemoteFiles}
    (same : later.directory = before.directory) : later.content = before.content := by
  funext path
  rw [RemoteFiles.content, RemoteFiles.content, RemoteFiles.entry, RemoteFiles.entry, same]

/-- A tidy store stays so where its directories stay. -/
theorem Tidy.congr {before later : RemoteFiles} (tidy : Tidy platform before)
    (same : later.directory = before.directory) : Tidy platform later := by
  apply tidy.reduced
  · intro path entry found
    rw [RemoteFiles.entry, same] at found
    exact found
  · rw [content_of_directory same]
    exact tidy.current

/-- What a publication leaves that completes. -/
theorem ensures_publishPrepared_aftermath (store : SnapshotFiles)
    (archives : List PreparedSnapshot) (prepared : PreparedSnapshot) (files : RemoteFiles) :
    (publishPrepared platform config store archives (some prepared)).Ensures platform.host
      (fun _ => True)
      (Ends (fun _ later => Aftermath platform files later (archives ++ [prepared]) prepared ∧
        config.enabled = true ∧ later.Laid ∧ later.locked = false) fun _ _ => True) files := by
  refine Ensures.bind (ensures_acquireLock_laid files) ?_ fun _ _ _ => trivial
  rintro _ ready ⟨enabled, laid, pointers⟩
  have keeps : ∀ outcome command (state : RemoteFiles), state.Laid →
      (platform.host outcome command state).2.Laid :=
    fun outcome command state laid => laid.respond platform.sha256Text outcome command
  have published := (ensures_publishLocked_aftermath store archives prepared ready).and
    (ensures_invariant keeps (publishLocked platform config store archives (some prepared)) laid)
  apply ensures_bind.mpr
  apply ensures_attempt.mpr
  apply published.mono (fun _ _ => trivial)
  rintro result done ⟨aftermath, laid⟩
  apply (ensures_releaseLock_free result done).weaken
  intro ended later ends
  cases ended with
  | error fault => trivial
  | ok summary =>
    obtain ⟨returned, free, same⟩ := ends
    rw [returned] at aftermath
    have contents := content_of_directory same
    refine ⟨⟨Aftermath.expected aftermath, Tidy.congr (Aftermath.tidy aftermath) same, ?_⟩,
      enabled, ?_, free⟩
    · rw [← pointers, ← Aftermath.pointers aftermath]
      funext pointer
      rw [RemoteFiles.pointers, RemoteFiles.pointers, contents]
    · intro directory
      rw [same]
      exact laid directory

end DTLab
