import DTLab.Library.Attains
import DTLab.Verif.ManifestReading

/-!
# The lock of the publication is given back

`_publish_prepared` removes the lock behind a `RemotePublishError` and behind success, but an error
of the local machine passes it by, and so does a remote manifest beyond the limits of the
interpreter. A lock whose making is not answered is not removed either.
-/

namespace DTLab

open Library (Program)
open Library.Program (Uses OnlyRaises Ensures ensures_bind ensures_lift ensures_handle
  ensures_attempt ensures_invariant uses_lift)
open RemoteCommand (ask probe perform)

/-! ## Records -/

/-- A step on the local machine. -/
def RemoteCommand.Local : RemoteCommand → Prop
  | createTemporary | writeTemporary | unlinkTemporary => True
  | _ => False

/-- A command to the remote host other than the removal of the lock. -/
def RemoteCommand.Foreign (command : RemoteCommand) : Prop :=
  ¬ command.Local ∧ command ≠ .removeLock

/-- Such a command that asks for no contents. -/
def RemoteCommand.Plain (command : RemoteCommand) : Prop :=
  command.Foreign ∧ command.ReadsNoContents

/-- Every step on the local machine was answered. -/
def LocalStepsAnswered (record : RemoteRecord) : Prop :=
  ∀ event ∈ record, event.1.Local → ∃ answer, event.2 = .answered answer

/-- A command was issued. -/
def Issued (command : RemoteCommand) (record : RemoteRecord) : Prop :=
  command ∈ record.map Sigma.fst

/-- A further event. -/
theorem localStepsAnswered_concat {record : RemoteRecord} {command : RemoteCommand}
    {reply : RemoteReply command.Answer} :
    LocalStepsAnswered (record ++ [⟨command, reply⟩]) ↔
      LocalStepsAnswered record ∧ (command.Local → ∃ answer, reply = .answered answer) := by
  rw [LocalStepsAnswered, List.forall_mem_append, List.forall_mem_singleton]
  rfl

/-- A further event. -/
theorem issued_concat {record : RemoteRecord} {command other : RemoteCommand}
    {reply : RemoteReply other.Answer} :
    Issued command (record ++ [⟨other, reply⟩]) ↔ Issued command record ∨ command = other := by
  rw [Issued, Issued, List.map_append, List.mem_append, List.map_singleton, List.mem_singleton]

/-! ## Under the lock -/

/-- The lock is not removed yet, no manifest was read, and every local step was answered. -/
structure Idle (state : RecordedFiles) : Prop where
  unissued : ¬ Issued .removeLock state.2
  unread : Unread state.2
  answered : LocalStepsAnswered state.2

/-- The lock is not removed yet, no manifest was read, and every local step was answered unless an
error other than `RemotePublishError` is raised. -/
structure LockKept {α : Type} (result : Except RemoteFault α) (state : RecordedFiles) : Prop where
  unissued : ¬ Issued .removeLock state.2
  unread : Unread state.2
  answered_iff : LocalStepsAnswered state.2 ↔ OnlyRaises RemoteFault.IsPublishError result

/-- A program that keeps the lock, and raises an error other than `RemotePublishError` exactly if a
local step is not answered. -/
def Keeps {α : Type} (platform : RemotePlatform) (program : RemoteProgram α) : Prop :=
  ∀ state, Idle state → program.Ensures platform.world (fun _ => True) LockKept state

variable {platform : RemotePlatform} {config : PublishConfig}

/-- Commands to the remote host leave what is kept. -/
theorem foreign_ensures {α : Type} {program : RemoteProgram α} {after : Except RemoteFault α → Prop}
    (uses : program.Uses RemoteCommand.Foreign after) (state : RecordedFiles) :
    program.Ensures platform.world (fun _ => True)
      (fun result later => after result ∧
        (Issued .removeLock later.2 ↔ Issued .removeLock state.2) ∧
        (LocalStepsAnswered later.2 ↔ LocalStepsAnswered state.2)) state := by
  have kept := uses.ensures platform.world
    (fun later => (Issued .removeLock later.2 ↔ Issued .removeLock state.2) ∧
      (LocalStepsAnswered later.2 ↔ LocalStepsAnswered state.2)) ?_ ⟨Iff.rfl, Iff.rfl⟩
  · exact kept.mono (fun _ _ => trivial) fun _ _ holds => holds
  · intro command foreign outcome before holds
    constructor
    · show Issued .removeLock (before.2 ++ [_]) ↔ _
      rw [issued_concat, ← holds.1]
      exact or_iff_left foreign.2.symm
    · show LocalStepsAnswered (before.2 ++ [_]) ↔ _
      rw [localStepsAnswered_concat, ← holds.2]
      exact and_iff_left fun isLocal => absurd isLocal foreign.1

/-- A program of commands to the remote host that asks for no contents. -/
theorem Keeps.of_uses {α : Type} {program : RemoteProgram α}
    (uses : program.Uses RemoteCommand.Plain (OnlyRaises RemoteFault.IsPublishError)) :
    Keeps platform program := by
  intro state idle
  have foreign : program.Ensures platform.world (fun _ => True) _ state :=
    foreign_ensures (uses.mono fun _ plain => plain.1) state
  have reads := uses.ensures platform.world (fun later => Unread later.2)
    (fun command plain outcome before unread => unread.concat plain.2 _) idle.unread
  apply (foreign.and reads).mono (fun _ _ => trivial)
  intro result later holds
  refine ⟨fun issued => idle.unissued (holds.1.2.1.mp issued), holds.2.2, ?_⟩
  exact iff_of_true (holds.1.2.2.mpr idle.answered) holds.1.1

/-- Two programs in a sequence. -/
theorem Keeps.bind {α β : Type} {program : RemoteProgram α} {next : α → RemoteProgram β}
    (first : Keeps platform program) (rest : ∀ value, Keeps platform (next value)) :
    Keeps platform (program >>= next) := by
  intro state idle
  refine Ensures.bind (first state idle) (fun value later kept => ?_) fun fault later kept =>
    ⟨kept.unissued, kept.unread, kept.answered_iff⟩
  exact rest value later ⟨kept.unissued, kept.unread, kept.answered_iff.mpr trivial⟩

/-- A program that does nothing. -/
theorem keeps_returned {α : Type} {value : α} : Keeps platform (.returned value) :=
  Keeps.of_uses trivial

/-- A loop. -/
theorem keeps_accumulate {α ι : Type} {body : α → ι → RemoteProgram α}
    (each : ∀ value item, Keeps platform (body value item)) (items : List ι) (value : α) :
    Keeps platform (Program.accumulate body value items) := by
  induction items generalizing value with
  | nil => exact keeps_returned
  | cons item items ih => exact (each value item).bind fun next => ih next

/-- A step on the local machine, behind a program that has raised or not. -/
theorem ensures_localStep {α : Type} {command : RemoteCommand} (isLocal : command.Local)
    {result : Except RemoteFault α} {state : RecordedFiles} (kept : LockKept result state) :
    command.perform.Ensures platform.world (fun _ => True)
      (Program.Ends (fun _ => LockKept result)
        fun fault => LockKept (.error fault : Except RemoteFault α)) state := by
  have other : RemoteCommand.removeLock ≠ command := by
    rintro rfl
    exact isLocal
  have silent : command.ReadsNoContents := by
    cases command <;> first | exact trivial | exact isLocal.elim
  have unissued : ∀ reply : RemoteReply command.Answer,
      ¬ Issued .removeLock (state.2 ++ [⟨command, reply⟩]) := by
    intro reply issued
    exact (issued_concat.mp issued).elim kept.unissued other
  refine ⟨trivial, fun outcome => ?_⟩
  have failed : ∀ reply : RemoteReply command.Answer, (∀ answer, reply ≠ .answered answer) →
      LockKept (.error .storage : Except RemoteFault α)
        ((platform.world outcome command state).2.1, state.2 ++ [⟨command, reply⟩]) := by
    intro reply unanswered
    refine ⟨unissued reply, kept.unread.concat silent reply, ?_⟩
    rw [localStepsAnswered_concat]
    refine iff_of_false (fun answered => ?_) not_false
    obtain ⟨answer, same⟩ := answered.2 isLocal
    exact unanswered answer same
  simp only [Program.recorded]
  cases reply : (state.1.respond platform.sha256Text outcome command).1 with
  | answered answer =>
    refine ⟨unissued _, kept.unread.concat silent _, ?_⟩
    rw [localStepsAnswered_concat, ← kept.answered_iff]
    exact and_iff_left fun _ => ⟨answer, rfl⟩
  | failed code => exact failed _ (by simp)
  | timedOut => exact failed _ (by simp)
  | unstarted => exact failed _ (by simp)

/-- A step on the local machine. -/
theorem keeps_localStep {command : RemoteCommand} (isLocal : command.Local) :
    Keeps platform command.perform := by
  intro state idle
  have kept : LockKept (.ok () : Except RemoteFault Unit) state :=
    ⟨idle.unissued, idle.unread, iff_of_true idle.answered trivial⟩
  apply (ensures_localStep isLocal kept).weaken
  intro result later ended
  cases result with
  | ok _ => exact ended
  | error fault => exact ended

/-- The errors of a program, translated within their kind. -/
theorem Keeps.handle {α : Type} {program : RemoteProgram α} (keeps : Keeps platform program)
    {handler : RemoteFault → RemoteProgram α}
    (translates : ∀ fault, ∃ raised, handler fault = .raised raised ∧
      (raised.IsPublishError ↔ fault.IsPublishError)) :
    Keeps platform (program.handle handler) := by
  intro state idle
  apply ensures_handle.mpr
  apply (keeps state idle).weaken
  intro result later kept
  cases result with
  | ok value => exact kept
  | error fault =>
    obtain ⟨raised, handles, alike⟩ := translates fault
    rw [Program.ends_error, handles]
    exact ⟨kept.unissued, kept.unread, kept.answered_iff.trans alike.symm⟩

/-- The harmless commands are commands to the remote host. -/
theorem reading_foreign (command : RemoteCommand) (harmless : command.Harmless) :
    command.Foreign := by
  constructor
  · intro isLocal
    cases command <;> first | exact isLocal | exact harmless
  · rintro rfl
    exact harmless

/-- They ask for no contents. -/
theorem reading_plain (command : RemoteCommand) (harmless : command.Harmless) : command.Plain :=
  ⟨reading_foreign command harmless, reading_readsNoContents command harmless⟩

/-- So do the other commands to the remote host. -/
theorem plain_of_ne {command : RemoteCommand} (remote : ¬ command.Local)
    (other : command ≠ .removeLock) (silent : command.ReadsNoContents) : command.Plain :=
  ⟨⟨remote, other⟩, silent⟩

/-- The upload of a local file. -/
theorem keeps_commitFile (source : Option Library.Text) (destination : RemotePath)
    (expected : String) :
    Keeps platform (commitFile platform config source destination expected) :=
  Keeps.of_uses (quiet_commitFile reading_plain (plain_of_ne not_false nofun trivial)
    (plain_of_ne not_false nofun trivial) (plain_of_ne not_false nofun trivial) expected)

/-- The upload of a text. -/
theorem keeps_commitBytes (content : Library.Text) (destination : RemotePath) (expected : String) :
    Keeps platform (commitBytes platform config content destination expected) := by
  have creates : RemoteCommand.createTemporary.Local := trivial
  have writes : RemoteCommand.writeTemporary.Local := trivial
  have unlinks : RemoteCommand.unlinkTemporary.Local := trivial
  apply (keeps_localStep creates).bind
  intro _ state idle
  have body : Keeps platform (do
      RemoteCommand.writeTemporary.perform
      commitFile platform config (some content) destination expected) :=
    (keeps_localStep writes).bind fun _ => keeps_commitFile _ _ _
  exact (body state idle).andFinally fun result later kept => ensures_localStep unlinks kept

/-- The upload of a prepared snapshot. -/
theorem keeps_ensureImmutableLocked (store : SnapshotFiles) (prepared : PreparedSnapshot)
    (presence : RemoteSnapshotPresence) :
    Keeps platform (ensureImmutableLocked platform config store prepared presence) := by
  apply Keeps.bind
  · split_ifs
    · exact keeps_returned
    · exact keeps_commitFile _ _ _
  intro _
  apply Keeps.bind
  · split_ifs
    · exact keeps_returned
    · exact keeps_commitBytes _ _ _
  intro _
  exact keeps_returned

/-- The current manifest is kept as the previous one. -/
theorem keeps_keepPrevious : Keeps platform (keepPrevious platform config) :=
  Keeps.of_uses (quiet_keepPrevious reading_plain (plain_of_ne not_false nofun trivial)
    (plain_of_ne not_false nofun trivial) (plain_of_ne not_false nofun trivial))

/-- The pointer `last_known_good` is switched, if the state of the snapshot can be read. -/
theorem keeps_keepLastKnownGood {prepared : PreparedSnapshot} {fresh : Bool}
    (readable : prepared.isFresh = .ok fresh) :
    Keeps platform (keepLastKnownGood platform config prepared) := by
  apply (Keeps.of_uses (quiet_remoteFileExists reading_plain _)).bind
  intro present
  rw [readable]
  apply Keeps.bind keeps_returned
  intro fresh
  split_ifs
  · exact keeps_commitBytes _ _ _
  · exact keeps_returned

/-- The pointer `current` is switched. -/
theorem keeps_switchCurrent (prepared : PreparedSnapshot) :
    Keeps platform (switchCurrent platform config prepared) := by
  unfold switchCurrent
  apply (keeps_commitBytes _ _ _).handle
  intro fault
  cases fault <;> exact ⟨_, rfl, Iff.rfl⟩

/-- The pointer `current` is read behind its switch. -/
theorem keeps_verifyCurrent (prepared : PreparedSnapshot) :
    Keeps platform (verifyCurrent config prepared) := by
  apply (Keeps.of_uses (quiet_remoteSha256Required reading_plain _)).bind
  intro digest
  apply Keeps.of_uses
  apply uses_lift.mpr
  rw [require]
  split_ifs
  · exact trivial
  · exact trivial

/-- The pointers are switched. -/
theorem keeps_switchPointers {prepared : PreparedSnapshot} {fresh : Bool}
    (readable : prepared.isFresh = .ok fresh) :
    Keeps platform (switchPointers platform config prepared) := by
  apply (keeps_keepLastKnownGood readable).bind
  intro _
  apply (keeps_switchCurrent prepared).bind
  intro _
  apply (keeps_verifyCurrent prepared).bind
  intro _
  exact keeps_returned

/-- `_commit_current_locked`. -/
theorem keeps_commitCurrentLocked {prepared : PreparedSnapshot} {fresh : Bool}
    (readable : prepared.isFresh = .ok fresh) :
    Keeps platform (commitCurrentLocked platform config prepared) := by
  apply (Keeps.of_uses (quiet_remoteFileExists reading_plain _)).bind
  intro present
  split_ifs
  · apply (Keeps.of_uses (quiet_remoteSha256Required reading_plain _)).bind
    intro digest
    split_ifs
    · exact keeps_returned
    · apply keeps_keepPrevious.bind
      intro _
      exact keeps_switchPointers readable
  · exact keeps_switchPointers readable

/-- The lock is not removed yet, and only a `RemotePublishError` is raised exactly if every local
step was answered and the manifests that were read are within the limits of the interpreter. -/
structure LockHeld {α : Type} (platform : RemotePlatform) (result : Except RemoteFault α)
    (state : RecordedFiles) : Prop where
  unissued : ¬ Issued .removeLock state.2
  answered_iff : LocalStepsAnswered state.2 ∧ ManifestsWithin platform state.2 ↔
    OnlyRaises RemoteFault.IsPublishError result

/-- Where no manifest was read, the local steps alone count. -/
theorem LockKept.held {α : Type} {result : Except RemoteFault α} {state : RecordedFiles}
    (kept : LockKept result state) : LockHeld platform result state :=
  ⟨kept.unissued, (and_iff_left kept.unread.within).trans kept.answered_iff⟩

/-- Behind a program that keeps the lock. -/
theorem Keeps.held_bind {α β : Type} {program : RemoteProgram α} {next : α → RemoteProgram β}
    (first : Keeps platform program) {state : RecordedFiles} (idle : Idle state)
    (rest : ∀ value later, Idle later → (next value).Ensures platform.world (fun _ => True)
      (LockHeld platform) later) :
    (program >>= next).Ensures platform.world (fun _ => True) (LockHeld platform) state := by
  refine Ensures.bind (first state idle) (fun value later kept => ?_) fun fault later kept =>
    ⟨kept.unissued, kept.held.answered_iff⟩
  exact rest value later ⟨kept.unissued, kept.unread, kept.answered_iff.mpr trivial⟩

/-- Retention tells the limits of the interpreter. -/
theorem tellsLimits_pruneRemoteLocked {state : RecordedFiles} (unread : Unread state.2) :
    TellsLimits platform (pruneRemoteLocked platform config) state := by
  refine Ensures.bind (tellsLimits_readInventory unread) (fun inventory later told => ?_)
    fun fault later told => told
  have removing : ∀ target, (RemoteCommand.remove target).ReadsNoContents := fun _ => trivial
  exact TellsLimits.of_within (quiet_applyRetention reading_readsNoContents inventory
    (fun target _ => removing target) fun target _ => removing target) (told.mpr trivial)

/-- Retention raises an error other than `RemotePublishError` exactly at a manifest beyond the
limits of the interpreter. -/
theorem held_pruneCommitted {state : RecordedFiles} (idle : Idle state) :
    (pruneCommitted platform config).Ensures platform.world (fun _ => True) (LockHeld platform)
      state := by
  have uses : (pruneRemoteLocked platform config).Uses RemoteCommand.Foreign
      (OnlyRaises RemoteFault.OfManifest) :=
    quiet_pruneRemoteLocked reading_foreign (fun _ => ⟨not_false, nofun⟩)
      fun _ _ => ⟨not_false, nofun⟩
  have foreign : (pruneRemoteLocked platform config).Ensures platform.world
    (fun _ => True) _ state :=
    foreign_ensures uses state
  have told := (foreign.and (tellsLimits_pruneRemoteLocked idle.unread)).mono
    (fun _ _ => trivial) fun _ _ holds => holds
  apply ensures_handle.mpr
  apply told.weaken
  rintro result later ⟨⟨_, issued, answered⟩, within⟩
  have held : LockHeld platform result later := by
    refine ⟨fun removed => idle.unissued (issued.mp removed), ?_⟩
    rw [← within]
    exact and_iff_right (answered.mpr idle.answered)
  cases result with
  | ok _ => exact held
  | error fault =>
    cases fault with
    | publish message committed => exact ⟨held.unissued, held.answered_iff⟩
    | storage => exact held
    | lookup => exact held
    | limits => exact held

/-- What is done under the lock. -/
theorem held_publishLocked (store : SnapshotFiles) (archives : List PreparedSnapshot)
    {current : Option PreparedSnapshot}
    (readable : ∀ prepared, current = some prepared → ∃ fresh, prepared.isFresh = .ok fresh)
    {state : RecordedFiles} (idle : Idle state) :
    (publishLocked platform config store archives current).Ensures platform.world (fun _ => True)
      (LockHeld platform) state := by
  apply (Keeps.of_uses (quiet_verifiedSnapshotPresence reading_plain _)).held_bind idle
  intro presence _ idle
  have uploading : Keeps platform
      (ensureArchives platform config store archives presence) := by
    apply keeps_accumulate
    intro known prepared
    apply (keeps_ensureImmutableLocked store prepared _).bind
    intro _
    exact keeps_returned
  apply uploading.held_bind idle
  intro uploaded later idle
  have returned : ∀ {later : RecordedFiles} (summary : RemotePublishSummary), Idle later →
      (Program.returned summary : RemoteProgram RemotePublishSummary).Ensures platform.world
        (fun _ => True) (LockHeld platform) later := by
    intro later summary idle
    exact (keeps_returned later idle).weaken fun _ _ kept => kept.held
  cases current with
  | none => exact returned _ idle
  | some prepared =>
    obtain ⟨fresh, read⟩ := readable prepared rfl
    apply (keeps_ensureImmutableLocked store prepared _).held_bind idle
    intro _ _ idle
    apply (keeps_commitCurrentLocked read).held_bind idle
    intro _ _ idle
    refine Ensures.bind (held_pruneCommitted idle) (fun _ later held => ?_) fun _ later held =>
      ⟨held.unissued, held.answered_iff⟩
    exact ⟨held.unissued, held.answered_iff⟩

/-! ## The lock -/

/-- Every local step was answered, and the manifests that were read are within the limits of the
interpreter. -/
def StepsAnswered (platform : RemotePlatform) (record : RemoteRecord) : Prop :=
  LocalStepsAnswered record ∧ ManifestsWithin platform record

/-- The removal of the lock is asked for behind success and behind a `RemotePublishError`. -/
theorem ensures_releaseLock_issued {α : Type} {published : Except RemoteFault α}
    {state : RecordedFiles} (held : LockHeld platform published state) :
    (releaseLock config published).Ensures platform.world (fun _ => True)
      (fun _ later => Issued .removeLock later.2 ↔ StepsAnswered platform later.2) state := by
  have removed : OnlyRaises RemoteFault.IsPublishError published →
      (RemoteCommand.removeLock.probe config).Ensures platform.world (fun _ => True)
        (fun _ later => Issued .removeLock later.2 ∧ StepsAnswered platform later.2) state := by
    intro refused
    refine ⟨trivial, fun outcome => ?_⟩
    have answered := held.answered_iff.mpr refused
    have silent : RemoteCommand.removeLock.ReadsNoContents := trivial
    have behind : ∀ reply : RemoteReply RemoteCommand.removeLock.Answer,
        Issued .removeLock (state.2 ++ [⟨.removeLock, reply⟩]) ∧
          StepsAnswered platform (state.2 ++ [⟨.removeLock, reply⟩]) := by
      intro reply
      rw [issued_concat, StepsAnswered, localStepsAnswered_concat, manifestsWithin_concat silent]
      exact ⟨Or.inr rfl, ⟨answered.1, fun isLocal => isLocal.elim⟩, answered.2⟩
    simp only [Program.recorded]
    cases (state.1.respond platform.sha256Text outcome RemoteCommand.removeLock).1 with
    | answered answer => exact behind _
    | failed code => exact behind _
    | timedOut => exact behind _
    | unstarted => exact behind _
  have attempted : OnlyRaises RemoteFault.IsPublishError published →
      ((RemoteCommand.removeLock.probe config).attempt :
        RemoteProgram (Except RemoteFault (Option Unit))).Ensures platform.world (fun _ => True)
        (fun _ later => Issued .removeLock later.2 ∧ StepsAnswered platform later.2) state :=
    fun refused => ensures_attempt.mpr (removed refused)
  cases published with
  | ok summary =>
    refine Ensures.bind (attempted trivial) (fun reply later holds => ?_) fun _ later holds =>
      iff_of_true holds.1 holds.2
    split
    · exact iff_of_true holds.1 holds.2
    · exact iff_of_true holds.1 holds.2
  | error fault =>
    have kept : ¬ fault.IsPublishError →
        (Issued .removeLock state.2 ↔ StepsAnswered platform state.2) :=
      fun other => iff_of_false held.unissued fun answered => other (held.answered_iff.mp answered)
    cases fault with
    | publish message committed =>
      refine Ensures.bind (attempted trivial) (fun reply later holds => ?_) fun _ later holds =>
        iff_of_true holds.1 holds.2
      exact iff_of_true holds.1 holds.2
    | storage => exact kept not_false
    | lookup => exact kept not_false
    | limits => exact kept not_false

/-- The lock was made, and the publisher knows it. -/
def LockMade (record : RemoteRecord) : Prop := ⟨.makeLock, .answered ()⟩ ∈ record

/-- A lock is made exactly if it is taken. -/
theorem ensures_acquireLock_made (files : RemoteFiles) :
    (acquireLock config).Ensures platform.world (fun _ => True)
      (fun result later => LockMade later.2 ↔ result = .ok ()) (files, []) := by
  have unmade : ∀ {fault : RemoteFault} {state : RecordedFiles}, ¬ Issued .makeLock state.2 →
      (LockMade state.2 ↔ (.error fault : Except RemoteFault Unit) = .ok ()) := by
    intro fault state unissued
    exact iff_of_false (fun made => unissued (List.mem_map_of_mem made)) (by simp)
  have checked : (Program.lift (require config.enabled
      (refused "Pubblicazione remota disabilitata.")) : RemoteProgram Unit).Ensures platform.world
        (fun _ => True) (fun _ later => ¬ Issued .makeLock later.2) (files, []) :=
    ensures_lift.mpr List.not_mem_nil
  refine Ensures.bind checked (fun _ state unissued => ?_) fun _ later unissued => unmade unissued
  have reading : ∀ command : RemoteCommand, command.Harmless → command ≠ .makeLock := by
    rintro command harmless rfl
    exact harmless
  have uses : (ensureRemoteLayout config).Uses (fun command => command ≠ .makeLock)
      (OnlyRaises RemoteFault.Uncommitted) := quiet_ensureRemoteLayout reading (by simp)
  have laid := uses.ensures platform.world (fun later => ¬ Issued .makeLock later.2)
    (fun command other outcome before unissued issued =>
      (issued_concat.mp issued).elim unissued other.symm) unissued
  have known := laid.mono (fun _ _ => trivial) fun _ _ holds => holds.2
  refine Ensures.bind known (fun _ state unissued => ?_) fun _ later unissued => unmade unissued
  refine ⟨trivial, fun outcome => ?_⟩
  have silent : ∀ {fault : RemoteFault} (reply : RemoteReply RemoteCommand.makeLock.Answer),
      (∀ answer, reply ≠ .answered answer) →
        (LockMade (state.2 ++ [⟨.makeLock, reply⟩]) ↔
          (.error fault : Except RemoteFault Unit) = .ok ()) := by
    intro fault reply unanswered
    refine iff_of_false (fun made => ?_) (by simp)
    rcases List.mem_append.mp made with earlier | last
    · exact unissued (List.mem_map_of_mem earlier)
    · rw [List.mem_singleton, Sigma.mk.injEq] at last
      exact unanswered () (eq_of_heq last.2).symm
  simp only [Program.recorded]
  cases (state.1.respond platform.sha256Text outcome RemoteCommand.makeLock).1 with
  | answered answer => exact iff_of_true (List.mem_append_right _ List.mem_cons_self) rfl
  | failed code => exact silent _ (by simp)
  | timedOut => exact silent _ (by simp)
  | unstarted => exact silent _ (by simp)

/-- A lock that was made stays in the record. -/
theorem ensures_made {α : Type} (program : RemoteProgram α) {state : RecordedFiles}
    (made : LockMade state.2) :
    program.Ensures platform.world (fun later => LockMade later.2)
      (fun _ later => LockMade later.2) state := by
  have keeps : ∀ outcome command (before : RecordedFiles), LockMade before.2 →
      LockMade (platform.world outcome command before).2.2 :=
    fun _ _ _ known => List.mem_append_left _ known
  exact ensures_invariant keeps program made

/-- The end of a publication, once the lock is made. -/
theorem ensures_released {α : Type} {program : RemoteProgram α} {state : RecordedFiles}
    (made : LockMade state.2)
    (holds : program.Ensures platform.world (fun _ => True) (LockHeld platform) state) :
    (program.attempt >>= releaseLock config).Ensures platform.world (fun _ => True)
      (fun _ later => Issued .removeLock later.2 ↔
        LockMade later.2 ∧ StepsAnswered platform later.2) state := by
  have released : (program.attempt >>= releaseLock config).Ensures platform.world (fun _ => True)
      (fun _ later => Issued .removeLock later.2 ↔ StepsAnswered platform later.2) state := by
    apply ensures_bind.mpr
    apply ensures_attempt.mpr
    apply holds.weaken
    exact fun published later held => ensures_releaseLock_issued held
  apply ((ensures_made _ made).and released).mono (fun _ _ => trivial)
  intro _ later known
  rw [known.2]
  exact (and_iff_right known.1).symm

/-- The removal of the lock is asked for before a call returns or raises exactly if the making of
the lock was answered, every step on the local machine was answered, and no manifest that retention
decodes is beyond the limits of the interpreter. -/
theorem lock_released_iff (platform : RemotePlatform) (config : PublishConfig)
    (store : SnapshotFiles) (archives : List PreparedSnapshot) (current : Option PreparedSnapshot)
    (readable : ∀ prepared, current = some prepared → ∃ fresh, prepared.isFresh = .ok fresh)
    (outcomes left : List RemoteOutcome) (files later : RemoteFiles) (record : RemoteRecord)
    (result : Except RemoteFault RemotePublishSummary)
    (ran : (publishPrepared platform config store archives current).run platform.world outcomes
      (files, []) = (some result, left, later, record)) :
    Issued .removeLock record ↔
      LockMade record ∧ LocalStepsAnswered record ∧ ManifestsWithin platform record := by
  have making : ∀ directories, (RemoteCommand.makeDirectories directories).Plain :=
    fun _ => plain_of_ne not_false nofun trivial
  have acquires : Keeps platform (acquireLock config) :=
    Keeps.of_uses (quiet_acquireLock reading_plain making (plain_of_ne not_false nofun trivial))
  have start : Idle (files, []) :=
    ⟨List.not_mem_nil, ⟨rfl, rfl⟩, fun _ member => absurd member List.not_mem_nil⟩
  have whole : (publishPrepared platform config store archives current).Ensures platform.world
      (fun _ => True)
      (fun _ later => Issued .removeLock later.2 ↔
        LockMade later.2 ∧ StepsAnswered platform later.2) (files, []) := by
    have acquired := (acquires (files, []) start).and (ensures_acquireLock_made files)
    have known := acquired.mono (fun _ _ => trivial) fun _ _ holds => holds
    refine Ensures.bind known (fun _ locked holds => ?_) fun fault later holds => ?_
    · have idle : Idle locked :=
        ⟨holds.1.unissued, holds.1.unread, holds.1.answered_iff.mpr trivial⟩
      apply ensures_released (holds.2.mpr rfl)
      exact held_publishLocked store archives readable idle
    · refine iff_of_false holds.1.unissued fun made => ?_
      cases holds.2.mp made.1
  exact Ensures.ends ran whole

/-- The answer to the lock. -/
def answersLock : RemoteEvent → Bool
  | ⟨.makeLock, .answered _⟩ => true
  | _ => false

/-- What a run raised. -/
def raisedFault {α : Type} : Option (Except RemoteFault α) → Option RemoteFault
  | some (.error fault) => some fault
  | _ => none

/-- The publication of the stale snapshot, once it is prepared. -/
def staleRun (outcomes : List RemoteOutcome) (files : RemoteFiles) :=
  (publishPrepared dashboard dashboardConfig officeFiles [] (some stalePrepared)).run
    dashboard.world outcomes (files, [])

/-- The state of the stale snapshot can be read. -/
theorem readable_stale (prepared : PreparedSnapshot) (same : some stalePrepared = some prepared) :
    ∃ fresh, prepared.isFresh = .ok fresh := by
  rw [← Option.some.inj same]
  exact ⟨false, rfl⟩

/-- The host is lost behind the lock, and found again for its removal. -/
def lostHost : List RemoteOutcome := List.replicate 7 .success ++ [.unstarted, .success]

/-- The publication to a host that is lost asks for the removal of the lock. -/
theorem lock_released_lost : ∃ fault left later record,
    staleRun lostHost dashboardFiles = (some (.error fault), left, later, record) ∧
      Issued .removeLock record ∧
        LockMade record ∧ LocalStepsAnswered record ∧ ManifestsWithin dashboard record := by
  have raised : (raisedFault (staleRun lostHost dashboardFiles).1).isSome = true ∧
      RemoteCommand.removeLock ∈ (staleRun lostHost dashboardFiles).2.2.2.map Sigma.fst := by
    decide +kernel
  obtain ⟨raised, removed⟩ := raised
  generalize ran : staleRun lostHost dashboardFiles = run at raised removed
  obtain ⟨ended, left, later, record⟩ := run
  have failed : ∃ fault, ended = some (.error fault) := by
    cases ended with
    | none => cases raised
    | some result =>
      cases result with
      | ok summary => cases raised
      | error fault => exact ⟨fault, rfl⟩
  obtain ⟨fault, rfl⟩ := failed
  have released := lock_released_iff dashboard dashboardConfig officeFiles [] (some stalePrepared)
    readable_stale lostHost left dashboardFiles later record (.error fault) ran
  exact ⟨fault, left, later, record, rfl, removed, released.mp removed⟩

/-- The temporary file of the manifest cannot be made. -/
def fullDisk : List RemoteOutcome := List.replicate 14 .success ++ [.unstarted]

/-- The temporary file of the manifest cannot be made: the call raises without asking for the
removal of the lock, and the next publication is refused. -/
theorem lock_kept_behind_storage :
    raisedFault (staleRun fullDisk dashboardFiles).1 = some .storage ∧
      (staleRun fullDisk dashboardFiles).2.2.2.any answersLock = true ∧
      RemoteCommand.removeLock ∉ (staleRun fullDisk dashboardFiles).2.2.2.map Sigma.fst ∧
      raisedFault (staleRun (List.replicate 60 .success)
        (staleRun fullDisk dashboardFiles).2.2.1).1 =
          some (refused "Un'altra pubblicazione DTLab è già in corso o il lock è bloccato.") := by
  decide +kernel

/-- Every command succeeds, but retention meets a manifest beyond the limits of the interpreter. -/
example : raisedFault ((publishPrepared { dashboard with exceedsLimits := fun _ => true }
    dashboardConfig officeFiles [] (some stalePrepared)).run dashboard.world
      (List.replicate 90 .success) (dashboardFiles, [])).1 = some .limits := by
  decide +kernel

end DTLab
