import DTLab.Remote.Frames
import DTLab.Verif.PointerHistory

/-!
# Whether a publication says truly what it committed

An error of the publisher says that the remote pointer `current` was left, that it was switched,
or that this is unknown. It says so truly unless the reading of `current` behind its switch has no
answer, or the lock stays behind archives that were published without a snapshot that becomes
current.
-/

namespace DTLab

open Library (Json Text Dict Program)
open Library.Program (Ensures Uses OnlyRaises ensures_bind ensures_andFinally ensures_handle
  ensures_lift ensures_attempt)

variable {platform : RemotePlatform} {config : PublishConfig}

/-! ## Records -/

/-- The commands of a publication and their replies. -/
abbrev RemoteRecord := List (Program.Event RemoteCommand fun command => RemoteReply command.Answer)

/-- The remote store, and what was asked of it. -/
abbrev RecordedFiles := RemoteFiles × RemoteRecord

/-- The remote host, with a record of the commands. -/
abbrev RemotePlatform.world (platform : RemotePlatform) :=
  Program.recorded (RemoteFiles.respond platform.sha256Text)

/-- How far the switch of `current` has come. -/
inductive CommitStage where
  | unswitched
  /-- The rename was answered. -/
  | switched
  /-- The first digests behind it were read. -/
  | verified
  /-- They were asked for without an answer. -/
  | unverified
  deriving DecidableEq

/-- The stage behind a command and its reply. -/
def CommitStage.watch (stage : CommitStage)
    (event : Program.Event RemoteCommand fun command => RemoteReply command.Answer) : CommitStage :=
  match event with
  | ⟨.move _ target, .answered _⟩ => if target = pointerPath .current then .switched else stage
  | ⟨.hashes _, .answered _⟩ => if stage = .switched then .verified else stage
  | ⟨.hashes _, _⟩ => if stage = .switched then .unverified else stage
  | _ => stage

/-- The stage behind a record. -/
def commitStage (record : RemoteRecord) : CommitStage :=
  record.foldl CommitStage.watch .unswitched

/-- The last event of a record is watched last. -/
@[simp] theorem commitStage_concat (record : RemoteRecord)
    (event : Program.Event RemoteCommand fun command => RemoteReply command.Answer) :
    commitStage (record ++ [event]) = (commitStage record).watch event := by
  rw [commitStage, List.foldl_append]
  rfl

/-- A command that reads no digests. -/
def RemoteCommand.ReadsNoDigest : RemoteCommand → Prop
  | hashes _ => False
  | _ => True

/-- A command that spares `current` leaves the stage, unless it reads the first digests behind the
switch. -/
theorem CommitStage.watch_spares {stage : CommitStage} {command : RemoteCommand}
    (spares : command.Spares (pointerPath .current))
    (settled : stage ≠ .switched ∨ command.ReadsNoDigest)
    (reply : RemoteReply command.Answer) : stage.watch ⟨command, reply⟩ = stage := by
  cases command with
  | move source target =>
    cases reply with
    | answered answer => exact if_neg spares.2
    | _ => rfl
  | hashes paths =>
    have unread : stage ≠ .switched := settled.resolve_right not_false
    cases reply <;> exact if_neg unread
  | _ => rfl

/-! ## Programs that leave the pointer -/

/-- `current` has a content, and the switch has come to a stage. -/
def Steady (content : Option Text) (stage : CommitStage) (state : RecordedFiles) : Prop :=
  state.1.content (pointerPath .current) = content ∧ commitStage state.2 = stage

/-- Programs that spare `current` leave it, and the stage. -/
theorem Quiet.settled {α : Type} {program : RemoteProgram α} {allowed : RemoteCommand → Prop}
    (quiet : Quiet allowed program) {content : Option Text} {stage : CommitStage}
    (spares : ∀ command, allowed command → command.Spares (pointerPath .current))
    (settled : ∀ command, allowed command → stage ≠ .switched ∨ command.ReadsNoDigest)
    {state : RecordedFiles} (steady : Steady content stage state) :
    program.Ensures platform.world (fun _ => True)
      (fun result later => OnlyRaises RemoteFault.Uncommitted result ∧ Steady content stage later)
      state := by
  have kept := quiet.ensures platform.world (Steady content stage) ?_ steady
  · exact kept.mono (fun _ _ => trivial) fun _ _ holds => holds
  · intro command permitted outcome before holds
    refine ⟨((spares command permitted).respond _ outcome before.1).trans holds.1, ?_⟩
    show commitStage (before.2 ++ [_]) = stage
    rw [commitStage_concat, holds.2]
    exact CommitStage.watch_spares (spares command permitted) (settled command permitted) _

/-- A program that spares `current` leaves it, and every stage but that of an unread switch. -/
theorem Quiet.steady {α : Type} {program : RemoteProgram α}
    (quiet : Quiet (RemoteCommand.Spares (pointerPath .current)) program)
    {content : Option Text} {stage : CommitStage} (settled : stage ≠ .switched)
    {state : RecordedFiles} (steady : Steady content stage state) :
    program.Ensures platform.world (fun _ => True)
      (fun result later => OnlyRaises RemoteFault.Uncommitted result ∧ Steady content stage later)
      state :=
  quiet.settled (fun _ spares => spares) (fun _ _ => Or.inl settled) steady

/-- A command that must succeed: it was carried out and answers, or there is an error. -/
theorem ensures_ask {command : RemoteCommand} {files : RemoteFiles} {record : RemoteRecord}
    {after : Except RemoteFault command.Answer → RecordedFiles → Prop}
    (answered : ∀ answer later, command.exec platform.sha256Text files = some (answer, later) →
      after (.ok answer) (later, record ++ [⟨command, .answered answer⟩]))
    (unanswered : ∀ message outcome reply, (∀ answer, reply ≠ .answered answer) →
      after (.error (refused message))
        ((files.respond platform.sha256Text outcome command).2, record ++ [⟨command, reply⟩])) :
    (command.ask config).Ensures platform.world (fun _ => True) after (files, record) := by
  refine ⟨trivial, fun outcome => ?_⟩
  simp only [Program.recorded]
  cases reply : (files.respond platform.sha256Text outcome command).1 with
  | answered answer => exact answered answer _ (RemoteFiles.respond_answered reply)
  | failed code => exact unanswered _ outcome _ fun _ => nofun
  | timedOut => exact unanswered _ outcome _ fun _ => nofun
  | unstarted => exact unanswered _ outcome _ fun _ => nofun

/-! ## The switch of the pointer -/

/-- The digest of the pointer `current`. -/
def RemotePlatform.currentDigest (platform : RemotePlatform) (files : RemoteFiles) :
    Option String :=
  (files.content (pointerPath .current)).map platform.sha256Text

/-- The digest of a file is read, or the command has no answer. -/
theorem ensures_remoteSha256Required {path : RemotePath} {files : RemoteFiles}
    {record : RemoteRecord} {after : Except RemoteFault String → RecordedFiles → Prop}
    (answered : ∀ content, files.content path = some content →
      after (.ok (platform.sha256Text content))
        (files, record ++ [⟨.hashes [path], .answered [(path, platform.sha256Text content)]⟩]))
    (unanswered : ∀ message reply, (∀ answer, reply ≠ .answered answer) →
      after (.error (refused message)) (files, record ++ [⟨.hashes [path], reply⟩])) :
    (remoteSha256Required config path).Ensures platform.world (fun _ => True) after
      (files, record) := by
  apply ensures_bind.mpr
  apply ensures_ask
  · intro lines later done
    obtain ⟨read, all, same⟩ := Option.map_eq_some_iff.mp done
    obtain ⟨rfl, rfl⟩ := Prod.mk.inj same
    cases found : files.content path with
    | none =>
      rw [readAll, List.mapM_cons, found] at all
      cases all
    | some content =>
      rw [readAll, List.mapM_cons, found] at all
      obtain rfl := Option.some.inj all
      exact answered content found
  · intro message outcome reply silent
    have inert : (RemoteCommand.hashes [path]).Inert := trivial
    rw [inert.respond]
    exact unanswered message reply silent

/-- A rename to `current` that is in the record was carried out. -/
theorem ensures_moveCurrent {temporary : RemotePath} {files : RemoteFiles} {record : RemoteRecord}
    (unswitched : commitStage record = .unswitched) :
    ((RemoteCommand.move temporary (pointerPath .current)).ask config).Ensures platform.world
      (fun _ => True)
      (Program.Ends
        (fun _ later => commitStage later.2 = .switched ∧
          later.1.content (pointerPath .current) = files.content temporary)
        fun fault later => fault.Uncommitted ∧ commitStage later.2 = .unswitched)
      (files, record) := by
  apply ensures_ask
  · intro _ later done
    obtain ⟨entry, found, rest⟩ := Option.bind_eq_some_iff.mp done
    obtain ⟨behind, put, same⟩ := Option.bind_eq_some_iff.mp rest
    obtain rfl := (Prod.mk.inj (Option.some.inj same)).2
    refine ⟨?_, ?_⟩
    · simp [CommitStage.watch]
    · rw [RemoteFiles.content_put put, if_pos rfl, RemoteFiles.content, found]
      rfl
  · intro message outcome reply silent
    refine ⟨rfl, ?_⟩
    rw [commitStage_concat, unswitched]
    cases reply with
    | answered answer => exact absurd rfl (silent answer)
    | _ => rfl

/-- Inert programs leave the files, and every stage but that of an unread switch. -/
theorem Quiet.inert {α : Type} {program : RemoteProgram α}
    (quiet : Quiet RemoteCommand.Inert program) {files : RemoteFiles} {record : RemoteRecord}
    (settled : commitStage record ≠ .switched) :
    program.Ensures platform.world (fun _ => True)
      (fun result later => OnlyRaises RemoteFault.Uncommitted result ∧ later.1 = files ∧
        commitStage later.2 = commitStage record) (files, record) := by
  have start : (files, record).1 = files ∧ commitStage (files, record).2 = commitStage record :=
    ⟨rfl, rfl⟩
  have kept := quiet.ensures platform.world
    (fun later => later.1 = files ∧ commitStage later.2 = commitStage record) ?_ start
  · exact kept.mono (fun _ _ => trivial) fun _ _ holds => holds
  · intro command inert outcome before holds
    refine ⟨(inert.respond _ outcome before.1).trans holds.1, ?_⟩
    show commitStage (before.2 ++ [_]) = _
    rw [commitStage_concat, holds.2]
    exact CommitStage.watch_spares (inert.spares _) (Or.inl settled) _

/-- What the upload of a manifest to `current` ensures: its digest is the one that is expected, or
the rename was not read. -/
def Switched (platform : RemotePlatform) (expected : String) :
    Except RemoteFault Unit → RecordedFiles → Prop :=
  Program.Ends
    (fun _ state => commitStage state.2 = .switched ∧
      platform.currentDigest state.1 = some expected)
    fun fault state => fault.Uncommitted ∧
      (commitStage state.2 = .unswitched ∨ commitStage state.2 = .switched)

/-- Commands that neither write `current` nor read digests keep what its upload ensures. -/
theorem Quiet.switched {program : RemoteProgram Unit}
    {allowed : RemoteCommand → Prop} (quiet : Quiet allowed program)
    (spares : ∀ command, allowed command → command.Spares (pointerPath .current))
    (silent : ∀ command, allowed command → command.ReadsNoDigest) {expected : String}
    {result : Except RemoteFault Unit} {state : RecordedFiles}
    (switched : Switched platform expected result state) :
    program.Ensures platform.world (fun _ => True)
      (Program.Ends (fun _ => Switched platform expected result)
        fun fault => Switched platform expected (.error fault)) state := by
  have steady : Steady (state.1.content (pointerPath .current)) (commitStage state.2) state :=
    ⟨rfl, rfl⟩
  apply (quiet.settled spares (fun command permitted => Or.inr (silent command permitted))
    steady).weaken
  rintro cleaned later ⟨only, same, stage⟩
  have digest : platform.currentDigest later.1 = platform.currentDigest state.1 :=
    congrArg (Option.map platform.sha256Text) same
  cases cleaned with
  | ok _ =>
    cases result with
    | ok _ => exact ⟨stage.trans switched.1, digest.trans switched.2⟩
    | error fault => exact ⟨switched.1, stage ▸ switched.2⟩
  | error fault =>
    refine ⟨only, ?_⟩
    rw [stage]
    cases result with
    | ok _ => exact Or.inr switched.1
    | error fault => exact switched.2

/-- The upload of a manifest to `current`. -/
theorem ensures_commitCurrentFile (content : Text) (expected : String) {files : RemoteFiles}
    {record : RemoteRecord} (unswitched : commitStage record = .unswitched) :
    (commitFile platform config (some content) (pointerPath .current) expected).Ensures
      platform.world (fun _ => True) (Switched platform expected) (files, record) := by
  have plain : (pointerPath .current).name.toList.head? ≠ some '.' := by decide
  have different : temporaryPath platform (pointerPath .current) ≠ pointerPath .current :=
    temporaryPath_ne plain _
  have settled : ∀ {stage : CommitStage}, stage = .unswitched → stage ≠ .switched := by
    rintro stage rfl
    exact nofun
  have discards : ∀ command : RemoteCommand,
      RemoteCommand.removeForce (temporaryPath platform (pointerPath .current)) = command →
        command.Spares (pointerPath .current) ∧ command.ReadsNoDigest := by
    rintro command rfl
    exact ⟨different, trivial⟩
  refine Ensures.andFinally ?_ fun result later
    (switched : Switched platform expected result later) =>
    Quiet.switched (quiet_discard rfl) (fun command same => (discards command same).1)
      (fun command same => (discards command same).2) switched
  have uploads : (RemoteCommand.upload (some content)
      (temporaryPath platform (pointerPath .current))).Spares (pointerPath .current) := different
  apply Ensures.bind (Quiet.steady (quiet_ask uploads) (settled rfl) ⟨rfl, unswitched⟩)
  · rintro _ ⟨files, record⟩ ⟨_, _, unswitched⟩
    apply ensures_bind.mpr
    apply ensures_remoteSha256Required
    · intro uploaded found
      have read : commitStage (record ++ [⟨.hashes [temporaryPath platform (pointerPath .current)],
          .answered [(temporaryPath platform (pointerPath .current),
            platform.sha256Text uploaded)]⟩]) = .unswitched := by
        rw [commitStage_concat, unswitched]
        rfl
      apply ensures_bind.mpr
      apply ensures_lift.mpr
      rw [require]
      split_ifs with same
      · apply Ensures.bind (Quiet.inert (quiet_chownPath trivial) (settled read))
        · rintro _ ⟨_, record⟩ ⟨_, rfl, stage⟩
          have unswitched := stage.trans read
          have chmod : (RemoteCommand.chmod
              (temporaryPath platform (pointerPath .current))).Inert := trivial
          apply Ensures.bind (Quiet.inert (quiet_ask chmod) (settled unswitched))
          · rintro _ ⟨_, record⟩ ⟨_, rfl, stage⟩
            apply (ensures_moveCurrent (stage.trans unswitched)).weaken
            intro result later holds
            cases result with
            | ok _ =>
              refine ⟨holds.1, ?_⟩
              rw [RemotePlatform.currentDigest, holds.2, found]
              exact congrArg some (of_decide_eq_true same)
            | error fault => exact ⟨holds.1, Or.inl holds.2⟩
          · rintro fault later ⟨only, _, stage⟩
            exact ⟨only, Or.inl (stage.trans unswitched)⟩
        · rintro fault later ⟨only, _, stage⟩
          exact ⟨only, Or.inl (stage.trans read)⟩
      · exact ⟨rfl, Or.inl read⟩
    · intro message reply silent
      refine ⟨rfl, Or.inl ?_⟩
      rw [commitStage_concat, unswitched]
      cases reply <;> rfl
  · rintro fault later ⟨only, _, stage⟩
    exact ⟨only, Or.inl stage⟩

/-- The manifest is uploaded to `current` from a local file. -/
theorem ensures_commitCurrentBytes (content : Text) (expected : String) {files : RemoteFiles}
    {record : RemoteRecord} (unswitched : commitStage record = .unswitched) :
    (commitBytes platform config content (pointerPath .current) expected).Ensures
      platform.world (fun _ => True) (Switched platform expected) (files, record) := by
  have settled : ∀ {stage : CommitStage}, stage = .unswitched → stage ≠ .switched := by
    rintro stage rfl
    exact nofun
  have unlinks : ∀ command : RemoteCommand, RemoteCommand.unlinkTemporary = command →
      command.Spares (pointerPath .current) ∧ command.ReadsNoDigest := by
    rintro command rfl
    exact ⟨trivial, trivial⟩
  have creates : RemoteCommand.createTemporary.Inert := trivial
  apply Ensures.bind (Quiet.inert (quiet_perform creates) (settled unswitched))
  · rintro _ ⟨_, record⟩ ⟨_, rfl, stage⟩
    have created := stage.trans unswitched
    refine Ensures.andFinally ?_
      fun result later (switched : Switched platform expected result later) =>
        Quiet.switched (quiet_perform rfl) (fun command same => (unlinks command same).1)
          (fun command same => (unlinks command same).2) switched
    have writes : RemoteCommand.writeTemporary.Inert := trivial
    apply Ensures.bind (Quiet.inert (quiet_perform writes) (settled created))
    · rintro _ ⟨_, record⟩ ⟨_, rfl, stage⟩
      exact ensures_commitCurrentFile content expected (stage.trans created)
    · rintro fault later ⟨only, _, stage⟩
      exact ⟨only, Or.inl (stage.trans created)⟩
  · rintro fault later ⟨only, _, stage⟩
    exact ⟨only, Or.inl (stage.trans unswitched)⟩

/-! ## Reports -/

/-- What an error says of `current`, which had a content and is to get a digest: where it says that
nothing was committed, `current` is as before unless its switch was not read; where it says that
the manifest was committed, `current` has the digest. -/
def Reported (platform : RemotePlatform) (content : Option Text) (expected : String)
    (fault : RemoteFault) (state : RecordedFiles) : Prop :=
  match fault with
  | .publish _ (some false) =>
    Steady content .unswitched state ∨ Steady content .verified state ∨
      commitStage state.2 = .unverified ∧ state.1.content (pointerPath .current) ≠ content
  | .publish _ (some true) => commitStage state.2 ≠ .unverified ∧
      platform.currentDigest state.1 = some expected
  | _ => commitStage state.2 ≠ .unverified

/-- An error that says nothing was committed, of a program that left `current`. -/
theorem Reported.of_uncommitted {content : Option Text} {expected : String} {fault : RemoteFault}
    {state : RecordedFiles} (uncommitted : fault.Uncommitted)
    (steady : Steady content .unswitched state) :
    Reported platform content expected fault state := by
  have stage : commitStage state.2 ≠ .unverified := by
    rw [steady.2]
    exact nofun
  cases fault with
  | publish message committed =>
    obtain rfl : committed = some false := uncommitted
    exact Or.inl steady
  | storage => exact stage
  | lookup => exact stage
  | limits => exact stage

/-- The reading of `current` behind its switch. -/
theorem ensures_verifyCurrent {content : Option Text} {prepared : PreparedSnapshot}
    {files : RemoteFiles} {record : RemoteRecord} (switched : commitStage record = .switched)
    (digest : platform.currentDigest files = some prepared.manifestDigest)
    (differs : content.map platform.sha256Text ≠ some prepared.manifestDigest) :
    (verifyCurrent config prepared).Ensures platform.world (fun _ => True)
      (Program.Ends
        (fun _ later => commitStage later.2 = .verified ∧
          platform.currentDigest later.1 = some prepared.manifestDigest)
        (Reported platform content prepared.manifestDigest))
      (files, record) := by
  apply ensures_bind.mpr
  apply ensures_remoteSha256Required
  · intro current found
    have same : platform.sha256Text current = prepared.manifestDigest := by
      rw [RemotePlatform.currentDigest, found] at digest
      exact Option.some.inj digest
    apply ensures_lift.mpr
    rw [require, if_pos (decide_eq_true same)]
    refine ⟨?_, digest⟩
    rw [commitStage_concat, switched]
    rfl
  · intro message reply silent
    refine Or.inr (Or.inr ⟨?_, ?_⟩)
    · rw [commitStage_concat, switched]
      cases reply with
      | answered answer => exact absurd rfl (silent answer)
      | _ => rfl
    · rintro rfl
      exact differs digest

/-- The switch of `current`: an error says that this is unknown. -/
theorem ensures_switchCurrent {content : Option Text} {prepared : PreparedSnapshot}
    {files : RemoteFiles} {record : RemoteRecord} (unswitched : commitStage record = .unswitched) :
    (switchCurrent platform config prepared).Ensures platform.world (fun _ => True)
      (Program.Ends
        (fun _ later => commitStage later.2 = .switched ∧
          platform.currentDigest later.1 = some prepared.manifestDigest)
        (Reported platform content prepared.manifestDigest))
      (files, record) := by
  apply ensures_handle.mpr
  apply (ensures_commitCurrentBytes _ _ unswitched).weaken
  rintro result later switched
  cases result with
  | ok _ => exact switched
  | error fault =>
    have unread : commitStage later.2 ≠ .unverified := by
      rcases switched.2 with stage | stage <;>
      · rw [stage]
        exact nofun
    cases fault <;> exact unread

/-- The pointers are switched. -/
theorem ensures_switchPointers {content : Option Text} {prepared : PreparedSnapshot}
    {state : RecordedFiles} (steady : Steady content .unswitched state)
    (differs : content.map platform.sha256Text ≠ some prepared.manifestDigest) :
    (switchPointers platform config prepared).Ensures platform.world (fun _ => True)
      (Program.Ends
        (fun _ later => commitStage later.2 = .verified ∧
          platform.currentDigest later.1 = some prepared.manifestDigest)
        (Reported platform content prepared.manifestDigest))
      state := by
  have plain : (pointerPath .current).name.toList.head? ≠ some '.' := by decide
  have quiet : Quiet (RemoteCommand.Spares (pointerPath .current))
      (keepLastKnownGood platform config prepared) :=
    quiet_keepLastKnownGood plain prepared (by decide)
  have settled : CommitStage.unswitched ≠ .switched := by decide
  apply Ensures.bind (quiet.steady settled steady)
  · rintro _ ⟨files, record⟩ ⟨_, steady⟩
    have switched : (switchCurrent platform config prepared).Ensures platform.world (fun _ => True)
        (Program.Ends _ (Reported platform content prepared.manifestDigest)) (files, record) :=
      ensures_switchCurrent steady.2
    apply Ensures.bind switched
    · rintro _ ⟨files, record⟩ ⟨stage, digest⟩
      apply Ensures.bind (ensures_verifyCurrent stage digest differs)
      · exact fun _ _ holds => holds
      · exact fun _ _ reported => reported
    · exact fun _ _ reported => reported
  · rintro fault later ⟨only, steady⟩
    exact Reported.of_uncommitted only steady

/-- The presence of a file is read, or the command has no answer. -/
theorem ensures_remoteFileExists {path : RemotePath} {files : RemoteFiles} {record : RemoteRecord}
    {after : Except RemoteFault Bool → RecordedFiles → Prop}
    (answered : ∀ later, commitStage later = commitStage record →
      after (.ok (files.entry path).isSome) (files, later))
    (unanswered : ∀ fault later, fault.Uncommitted → commitStage later = commitStage record →
      after (.error fault) (files, later)) :
    (remoteFileExists config path).Ensures platform.world (fun _ => True) after
    (files, record) := by
  have inert : (RemoteCommand.testFile path).Inert := trivial
  refine ⟨trivial, fun outcome => ?_⟩
  simp only [Program.recorded, inert.respond]
  cases outcome with
  | success => exact answered _ (commitStage_concat _ _)
  | failure code isFailure carriedOut => exact unanswered _ _ rfl (commitStage_concat _ _)
  | timeout carriedOut => exact unanswered _ _ rfl (commitStage_concat _ _)
  | unstarted => exact unanswered _ _ rfl (commitStage_concat _ _)

/-- What a switch of the pointers ensures where `current` is read behind it. -/
def Committed (platform : RemotePlatform) (expected : String) (state : RecordedFiles) : Prop :=
  (commitStage state.2 = .unswitched ∨ commitStage state.2 = .verified) ∧
    platform.currentDigest state.1 = some expected

/-- The pointers are switched, unless `current` is the manifest already. -/
theorem ensures_commitCurrentLocked {content : Option Text} {prepared : PreparedSnapshot}
    {state : RecordedFiles} (steady : Steady content .unswitched state) :
    (commitCurrentLocked platform config prepared).Ensures platform.world (fun _ => True)
      (Program.Ends (fun _ => Committed platform prepared.manifestDigest)
        (Reported platform content prepared.manifestDigest)) state := by
  obtain ⟨files, record⟩ := state
  have settled : CommitStage.unswitched ≠ .switched := by decide
  apply ensures_bind.mpr
  apply ensures_remoteFileExists
  · intro tested stage
    have unswitched := stage.trans steady.2
    cases found : files.entry (pointerPath .current) with
    | none =>
      have absent : content = none := by
        rw [← steady.1]
        show (files.entry _).map _ = none
        rw [found]
        rfl
      have differs : content.map platform.sha256Text ≠ some prepared.manifestDigest := by
        rw [absent]
        exact nofun
      have steady : Steady content .unswitched (files, tested) := ⟨steady.1, unswitched⟩
      exact (ensures_switchPointers steady differs).weaken fun result _ holds => by
        cases result with
        | ok _ => exact ⟨Or.inr holds.1, holds.2⟩
        | error fault => exact holds
    | some entry =>
      apply ensures_bind.mpr
      apply ensures_remoteSha256Required
      · intro current read
        have same : content = some current := steady.1.symm.trans read
        have hashed : commitStage (tested ++ [⟨.hashes [pointerPath .current],
            .answered [(pointerPath .current, platform.sha256Text current)]⟩]) = .unswitched := by
          rw [commitStage_concat, unswitched]
          rfl
        have steady : Steady content .unswitched (files, tested ++ [⟨.hashes [pointerPath .current],
            .answered [(pointerPath .current, platform.sha256Text current)]⟩]) :=
          ⟨steady.1, hashed⟩
        by_cases published : platform.sha256Text current = prepared.manifestDigest
        · rw [Program.ends_ok, if_pos published]
          refine ⟨Or.inl hashed, ?_⟩
          rw [RemotePlatform.currentDigest, read]
          exact congrArg some published
        · rw [Program.ends_ok, if_neg published]
          have differs : content.map platform.sha256Text ≠ some prepared.manifestDigest := by
            rw [same]
            exact fun equal => published (Option.some.inj equal)
          have plain : (pointerPath .current).name.toList.head? ≠ some '.' := by decide
          have quiet : Quiet (RemoteCommand.Spares (pointerPath .current))
              (keepPrevious platform config) := spares_keepPrevious plain (by decide)
          apply Ensures.bind (quiet.steady settled steady)
          · rintro _ later ⟨_, steady⟩
            exact (ensures_switchPointers steady differs).weaken fun result _ holds => by
              cases result with
              | ok _ => exact ⟨Or.inr holds.1, holds.2⟩
              | error fault => exact holds
          · rintro fault later ⟨only, steady⟩
            exact Reported.of_uncommitted only steady
      · intro message reply silent
        rw [Program.ends_error, Program.ends_error]
        apply Reported.of_uncommitted
        · exact rfl
        · refine ⟨steady.1, ?_⟩
          rw [commitStage_concat, unswitched]
          cases reply <;> rfl
  · intro fault later uncommitted stage
    exact Reported.of_uncommitted uncommitted ⟨steady.1, stage.trans steady.2⟩

/-- Retention behind a switch keeps what the switch ensures, and its errors say so. -/
theorem ensures_pruneCommitted {content : Option Text} {expected : String}
    {state : RecordedFiles} (committed : Committed platform expected state) :
    (pruneCommitted platform config).Ensures platform.world (fun _ => True)
      (Program.Ends (fun _ => Committed platform expected) (Reported platform content expected))
      state := by
  have quiet : Quiet (RemoteCommand.Spares (pointerPath .current))
      (pruneRemoteLocked platform config) := spares_pruneRemoteLocked (by decide) (by decide)
  have settled : commitStage state.2 ≠ .switched := by
    rcases committed.1 with stage | stage <;>
    · rw [stage]
      exact nofun
  have steady : Steady (state.1.content (pointerPath .current)) (commitStage state.2) state :=
    ⟨rfl, rfl⟩
  apply ensures_handle.mpr
  apply (quiet.steady settled steady).weaken
  rintro result later ⟨only, same, stage⟩
  have digest : platform.currentDigest later.1 = some expected :=
    (congrArg (Option.map platform.sha256Text) same).trans committed.2
  have unread : commitStage later.2 ≠ .unverified := by
    rw [stage]
    rcases committed.1 with stage | stage <;>
    · rw [stage]
      exact nofun
  cases result with
  | ok _ => exact ⟨stage ▸ committed.1, digest⟩
  | error fault =>
    cases fault with
    | publish message committed => exact ⟨unread, digest⟩
    | storage => exact unread
    | lookup => exact unread
    | limits => exact unread

/-! ## The whole publication -/

/-- What a publication under the lock ensures where a snapshot becomes current. -/
theorem ensures_publishLocked (store : SnapshotFiles) (archives : List PreparedSnapshot)
    (prepared : PreparedSnapshot) {content : Option Text} {state : RecordedFiles}
    (steady : Steady content .unswitched state) :
    (publishLocked platform config store archives (some prepared)).Ensures platform.world
      (fun _ => True)
      (Program.Ends (fun _ => Committed platform prepared.manifestDigest)
        (Reported platform content prepared.manifestDigest)) state := by
  have plain : (pointerPath .current).name.toList.head? ≠ some '.' := by decide
  have settled : CommitStage.unswitched ≠ .switched := by decide
  have harmless := reading_spares (pointerPath .current)
  have reported : ∀ {α : Type} (fault : RemoteFault) (later : RecordedFiles),
      OnlyRaises RemoteFault.Uncommitted (.error fault : Except RemoteFault α) ∧
        Steady content .unswitched later →
      Reported platform content prepared.manifestDigest fault later :=
    fun fault later holds => Reported.of_uncommitted holds.1 holds.2
  apply Ensures.bind (Quiet.steady (quiet_verifiedSnapshotPresence harmless _) settled steady)
    _ reported
  rintro presence later ⟨_, steady⟩
  have uploads : Quiet (RemoteCommand.Spares (pointerPath .current))
      (ensureArchives platform config store archives presence) :=
    quiet_ensureArchives plain store archives presence (by decide) (by decide)
  apply Ensures.bind (uploads.steady settled steady) _ reported
  rintro ⟨present, published, uploaded⟩ later ⟨_, steady⟩
  have upload : Quiet (RemoteCommand.Spares (pointerPath .current))
      (ensureImmutableLocked platform config store prepared present) :=
    quiet_ensureImmutableLocked plain store prepared present (by decide) (by decide)
  apply Ensures.bind (upload.steady settled steady) _ reported
  rintro ⟨_, archiveAdded, objectAdded⟩ later ⟨_, steady⟩
  dsimp only
  apply Ensures.bind (ensures_commitCurrentLocked steady)
  · intro updated later committed
    apply Ensures.bind (ensures_pruneCommitted committed)
    · exact fun _ _ committed => committed
    · exact fun _ _ reported => reported
  · exact fun _ _ reported => reported

/-- What a publication under the lock ensures where no snapshot becomes current. -/
theorem ensures_publishLocked_none (store : SnapshotFiles) (archives : List PreparedSnapshot)
    {content : Option Text} {state : RecordedFiles} (steady : Steady content .unswitched state) :
    (publishLocked platform config store archives none).Ensures platform.world (fun _ => True)
      (fun result later => OnlyRaises RemoteFault.Uncommitted result ∧
        Steady content .unswitched later) state := by
  have plain : (pointerPath .current).name.toList.head? ≠ some '.' := by decide
  have settled : CommitStage.unswitched ≠ .switched := by decide
  have harmless := reading_spares (pointerPath .current)
  apply Ensures.bind (Quiet.steady (quiet_verifiedSnapshotPresence harmless _) settled steady) _
    fun _ _ holds => holds
  rintro presence later ⟨_, steady⟩
  have uploads : Quiet (RemoteCommand.Spares (pointerPath .current))
      (ensureArchives platform config store archives presence) :=
    quiet_ensureArchives plain store archives presence (by decide) (by decide)
  apply Ensures.bind (uploads.steady settled steady) _ fun _ _ holds => holds
  rintro ⟨present, published, uploaded⟩ later ⟨_, steady⟩
  exact ⟨trivial, steady⟩

/-- What the release of the lock makes of the end of a publication. -/
def Released {α : Type} (published result : Except RemoteFault α) : Prop :=
  match published with
  | .ok summary => result = .ok summary ∨ result = .error lockNotRemoved
  | .error fault => result = .error fault

/-- The release of the lock leaves `current` and the stage. -/
theorem ensures_releaseLock {α : Type} (published : Except RemoteFault α) {content : Option Text}
    {stage : CommitStage} {state : RecordedFiles} (steady : Steady content stage state) :
    (releaseLock config published).Ensures platform.world (fun _ => True)
      (fun result later => Released published result ∧ Steady content stage later) state := by
  have quiet : Quiet (RemoteCommand.removeLock = ·) (RemoteCommand.removeLock.probe config) :=
    quiet_probe rfl
  have spares : ∀ command, RemoteCommand.removeLock = command →
      command.Spares (pointerPath .current) := by
    rintro command rfl
    exact trivial
  have silent : ∀ command, RemoteCommand.removeLock = command →
      stage ≠ .switched ∨ command.ReadsNoDigest := by
    rintro command rfl
    exact Or.inr trivial
  have removed : (RemoteCommand.removeLock.probe config).Ensures platform.world (fun _ => True)
      (fun result later => OnlyRaises RemoteFault.Uncommitted result ∧ Steady content stage later)
      state := quiet.settled spares silent steady
  cases published with
  | error fault =>
    cases fault with
    | publish message committed =>
      apply ensures_bind.mpr
      apply ensures_attempt.mpr
      exact removed.weaken fun _ _ holds => ⟨rfl, holds.2⟩
    | storage => exact ⟨rfl, steady⟩
    | lookup => exact ⟨rfl, steady⟩
    | limits => exact ⟨rfl, steady⟩
  | ok summary =>
    apply ensures_bind.mpr
    apply ensures_attempt.mpr
    apply removed.weaken
    rintro result later ⟨_, steady⟩
    rcases result with fault | (_ | answer)
    · exact ⟨Or.inr rfl, steady⟩
    · exact ⟨Or.inr rfl, steady⟩
    · exact ⟨Or.inl rfl, steady⟩

/-! ## What calls say -/

/-- What is prepared raises only errors that say that nothing was committed. -/
theorem onlyRaises_prepare (store : SnapshotFiles) (request : RemoteRequest) :
    OnlyRaises RemoteFault.Uncommitted (request.prepare platform store) := by
  have stored : ∀ stored, OnlyRaises RemoteFault.Uncommitted
      (prepareStored platform store stored) := by
    intro stored
    simp only [prepareStored]
    repeat' split
    all_goals first | exact trivial | exact rfl
  have current : ∀ manifest, OnlyRaises RemoteFault.Uncommitted
      (requireCurrent platform store manifest) := by
    intro manifest
    simp only [requireCurrent]
    repeat' split
    all_goals first | exact trivial | exact rfl
  have key : ∀ prepared, OnlyRaises RemoteFault.Uncommitted
      (publicationOrderKey platform prepared) := by
    intro prepared
    simp only [publicationOrderKey]
    repeat' split
    all_goals first | exact trivial | exact rfl
  have one : ∀ manifest commitCurrent, OnlyRaises RemoteFault.Uncommitted
      (prepareOne platform store manifest commitCurrent) := by
    intro manifest commitCurrent
    apply (stored manifest).bind
    intro prepared
    split_ifs
    · exact (current _).bind fun _ => trivial
    · exact trivial
  cases request with
  | batch archives final =>
    apply (current _).bind
    intro _
    apply (stored final).bind
    intro prepared
    apply OnlyRaises.bind
    · apply OnlyRaises.bind
      · apply Program.onlyRaises_foldlM
        intro unique item
        apply (stored item).bind
        intro prepared
        split_ifs <;> exact trivial
      · intro unique
        apply OnlyRaises.bind
        · apply Program.onlyRaises_mapM
          intro prepared
          exact (key prepared).bind fun _ => trivial
        · exact fun _ => trivial
    · exact fun _ => trivial
  | publish manifest => exact (current manifest).bind fun stored => one stored true
  | one stored commitCurrent => exact one stored commitCurrent

/-- `current` has the digest that a call asks for. -/
def RemotePlatform.Names (platform : RemotePlatform) (files : RemoteFiles)
    (requested : Option String) : Prop :=
  ∃ digest, requested = some digest ∧ platform.currentDigest files = some digest

/-- The digest of the manifest that a call asks for: the one that becomes current, or the
archive. -/
def RemoteRequest.requested (platform : RemotePlatform) (store : SnapshotFiles)
    (request : RemoteRequest) : Option String :=
  match request.prepare platform store with
  | .ok (archives, current) => (current.or archives.head?).map PreparedSnapshot.manifestDigest
  | .error _ => none

/-- An error that tells the truth about `current`: it was left, or it names what was asked for. -/
def Truthful (platform : RemotePlatform) (before later : RemoteFiles) (requested : Option String) :
    RemoteFault → Prop
  | .publish _ (some false) =>
    later.content (pointerPath .current) = before.content (pointerPath .current)
  | .publish _ (some true) => platform.Names later requested
  | _ => True

/-- A call that makes no snapshot current does all that it does under the lock. -/
def ArchivesPublished (platform : RemotePlatform) (config : PublishConfig) (store : SnapshotFiles)
    (request : RemoteRequest) (outcomes : List RemoteOutcome) (files : RemoteFiles) : Prop :=
  ∃ archives summary left later, request.prepare platform store = .ok (archives, none) ∧
    (acquireLock config >>= fun _ => publishLocked platform config store archives none).run
      platform.world outcomes (files, []) = (some (.ok summary), left, later)

/-- An error that says nothing was committed is true where `current` was left. -/
theorem Truthful.of_uncommitted {before later : RemoteFiles} {requested : Option String}
    {fault : RemoteFault} (uncommitted : fault.Uncommitted)
    (same : later.content (pointerPath .current) = before.content (pointerPath .current)) :
    Truthful platform before later requested fault := by
  cases fault with
  | publish message committed =>
    obtain rfl : committed = some false := uncommitted
    exact same
  | storage => exact trivial
  | lookup => exact trivial
  | limits => exact trivial

/-- What is reported is about `current` and the stage. -/
theorem Reported.congr {content : Option Text} {expected : String} {fault : RemoteFault}
    {state later : RecordedFiles} (reported : Reported platform content expected fault state)
    (same : Steady (state.1.content (pointerPath .current)) (commitStage state.2) later) :
    Reported platform content expected fault later := by
  have digest : platform.currentDigest later.1 = platform.currentDigest state.1 :=
    congrArg (Option.map platform.sha256Text) same.1
  have read : commitStage state.2 ≠ .unverified → commitStage later.2 ≠ .unverified :=
    fun read unverified => read (same.2.symm.trans unverified)
  cases fault with
  | storage => exact read reported
  | lookup => exact read reported
  | limits => exact read reported
  | publish message committed =>
    rcases committed with _ | _ | _
    · exact read reported
    · rcases reported with steady | steady | ⟨unverified, differs⟩
      · exact Or.inl ⟨same.1.trans steady.1, same.2.trans steady.2⟩
      · exact Or.inr (Or.inl ⟨same.1.trans steady.1, same.2.trans steady.2⟩)
      · exact Or.inr (Or.inr ⟨same.2.trans unverified, same.1 ▸ differs⟩)
    · exact ⟨read reported.1, digest.trans reported.2⟩

/-- What is reported of a switch is true exactly where the switch was read. -/
theorem Reported.truthful_iff {files : RemoteFiles} {expected : String} {fault : RemoteFault}
    {later : RecordedFiles}
    (reported : Reported platform (files.content (pointerPath .current)) expected fault later) :
    Truthful platform files later.1 (some expected) fault ↔
      commitStage later.2 ≠ .unverified := by
  cases fault with
  | storage => exact iff_of_true trivial reported
  | lookup => exact iff_of_true trivial reported
  | limits => exact iff_of_true trivial reported
  | publish message committed =>
    rcases committed with _ | _ | _
    · exact iff_of_true trivial reported
    · rcases reported with steady | steady | ⟨unverified, differs⟩
      · refine iff_of_true steady.1 ?_
        rw [steady.2]
        exact nofun
      · refine iff_of_true steady.1 ?_
        rw [steady.2]
        exact nofun
      · exact iff_of_false differs fun verified => verified unverified
    · exact iff_of_true ⟨expected, rfl, reported.2⟩ reported.1

/-! ## A dashboard -/

/-- A dashboard host with a clock that reads every time alike. -/
def dashboard : RemotePlatform :=
  { plainStore with
    parseTime := fun _ => .instant 0
    exceedsLimits := fun _ => false
    token := fun _ => "0"
    rounding_rounding := fun _ => rfl }

/-- The manifest of the stale snapshot. -/
def staleManifest : SnapshotManifest where
  contractVersion := .str "2.0"
  snapshotId := .str "turno"
  sha256 := staleRequest.digest
  byteLength := byteLength staleRequest.content
  publishedAt := "2026-01-01T00:00:00Z"
  collectorVersion := .str "1.0"

/-- The stale snapshot as it is prepared for the dashboard. -/
def stalePrepared : PreparedSnapshot where
  snapshot := staleSnapshot
  manifest := staleManifest.fields
  manifestContent := manifestText staleManifest.fields
  manifestDigest := plainStore.sha256Text (manifestText staleManifest.fields)

/-- The local store behind the publication of the stale snapshot. -/
def officeFiles : SnapshotFiles where
  objects := Dict.empty.set staleManifest.objectName staleRequest.content
  manifests := Dict.empty.set stalePrepared.archiveName stalePrepared.manifestContent
  pointers := fun _ => some stalePrepared.manifestContent

/-- Its manifest is loaded. -/
theorem loadManifest_office (label : String) :
    officeFiles.loadManifest plainStore staleManifest.fields label =
      .ok ⟨staleSnapshot, staleManifest.fields⟩ := by
  have object : officeFiles.objects.get? staleManifest.objectName = some staleRequest.content := by
    simp [officeFiles]
  have made : staleRequest.manifest = .ok staleManifest := rfl
  have valid : plainStore.valid staleRequest.snapshot = true := rfl
  exact SnapshotFiles.loadManifest_of_object valid made object label

/-- A snapshot whose archive loads is prepared. -/
theorem prepareStored_of_archive {store : SnapshotFiles} {stored : StoredSnapshot}
    (archive : store.loadArchive platform.toSnapshotPlatform
      (objectNameOf (platform.sha256Text (manifestText stored.manifest))) = .ok stored) :
    prepareStored platform store stored = .ok ⟨stored.snapshot, stored.manifest,
      manifestText stored.manifest, platform.sha256Text (manifestText stored.manifest)⟩ := by
  simp [prepareStored, archive]

/-- A call that publishes the current snapshot is prepared where its archive is. -/
theorem prepare_publish {store : SnapshotFiles} (stored : StoredSnapshot)
    {prepared : PreparedSnapshot}
    (current : requireCurrent platform store stored.manifest = .ok stored)
    (archived : prepareStored platform store stored = .ok prepared) :
    (RemoteRequest.publish stored.manifest).prepare platform store = .ok ([], some prepared) := by
  simp [RemoteRequest.prepare, prepareOne, current, archived, bind, Except.bind]

/-- The call that publishes the stale snapshot is prepared. -/
theorem prepare_office :
    (RemoteRequest.publish staleManifest.fields).prepare dashboard officeFiles =
    .ok ([], some stalePrepared) := by
  have made : staleRequest.manifest = .ok staleManifest := rfl
  have sound : staleManifest.Sound plainStore := (PublishRequest.manifest_eq_ok made).1
  have pointer : officeFiles.readManifest plainStore .current = .ok staleManifest.fields :=
    SnapshotFiles.readManifest_of_sound sound rfl
  have load : officeFiles.load plainStore .current = .ok ⟨staleSnapshot, staleManifest.fields⟩ :=
    SnapshotFiles.load_of_read pointer (loadManifest_office _)
  have form : isObjectName stalePrepared.archiveName = true :=
    isObjectName_objectNameOf (plainStore.sha256_isDigest _)
  have archived : officeFiles.manifests.get? stalePrepared.archiveName =
      some stalePrepared.manifestContent := by
    simp [officeFiles]
  have read : officeFiles.readArchivedManifest plainStore stalePrepared.archiveName =
      .ok staleManifest.fields :=
    SnapshotFiles.readArchivedManifest_of_sound sound archived rfl
  have archive : officeFiles.loadArchive plainStore stalePrepared.archiveName =
      .ok ⟨staleSnapshot, staleManifest.fields⟩ :=
    SnapshotFiles.loadArchive_of_read form read (loadManifest_office _)
  have current : requireCurrent dashboard officeFiles staleManifest.fields =
      .ok ⟨staleSnapshot, staleManifest.fields⟩ := by
    have same : dashboard.toSnapshotPlatform = plainStore := rfl
    rw [requireCurrent, same, load]
    exact if_neg fun differs => differs rfl
  have stored : prepareStored dashboard officeFiles ⟨staleSnapshot, staleManifest.fields⟩ =
      .ok stalePrepared := prepareStored_of_archive archive
  exact prepare_publish ⟨staleSnapshot, staleManifest.fields⟩ current stored

/-- A publisher that keeps three archives. -/
def dashboardConfig : PublishConfig where
  enabled := true
  remoteStore := ["srv", "dtlab"]
  manageOwnership := false
  remoteRetention := 3
  retention_bounds := by decide

/-- A remote store without files. -/
def dashboardFiles : RemoteFiles := ⟨fun _ => some .empty, false⟩

/-- The publication of the stale snapshot to the dashboard. -/
def dashboardRun (outcomes : List RemoteOutcome) (files : RemoteFiles) :=
  ((RemoteRequest.publish staleManifest.fields).program dashboard officeFiles dashboardConfig).run
    dashboard.world outcomes (files, [])

/-- The request is prepared from the local store. -/
theorem dashboardRun_eq (outcomes : List RemoteOutcome) (files : RemoteFiles) :
    dashboardRun outcomes files =
      (publishPrepared dashboard dashboardConfig officeFiles [] (some stalePrepared)).run
        dashboard.world outcomes (files, []) := by
  rw [dashboardRun, RemoteRequest.program, prepare_office]
  rfl

/-- What the error at the end of a run says was committed. -/
def saidCommitted {α : Type} : Option (Except RemoteFault α) → Option (Option Bool)
  | some (.error (.publish _ committed)) => some committed
  | _ => none

/-- What was said is in the error that was raised. -/
theorem exists_of_saidCommitted {α : Type} {ended : Option (Except RemoteFault α)}
    {committed : Option Bool} (said : saidCommitted ended = some committed) :
    ∃ message, ended = some (.error (.publish message committed)) := by
  match ended, said with
  | some (.error (.publish message _)), rfl => exact ⟨message, rfl⟩

/-! ## Truth -/

/-- Behind a publication of a snapshot that becomes current, what is raised is truthful exactly when
the commit was read. -/
theorem truthful_current_iff {files : RemoteFiles} {final : PreparedSnapshot}
    {published : Except RemoteFault RemotePublishSummary} {done later : RecordedFiles}
    {fault : RemoteFault}
    (ended : Program.Ends (fun _ => Committed platform final.manifestDigest)
      (Reported platform (files.content (pointerPath .current)) final.manifestDigest)
        published done)
    (relation : Released published (.error fault : Except RemoteFault RemotePublishSummary))
    (same : Steady (done.1.content (pointerPath .current)) (commitStage done.2) later) :
    Truthful platform files later.1 (some final.manifestDigest) fault ↔
      commitStage later.2 ≠ .unverified := by
  cases published with
  | error early =>
    obtain rfl := Except.error.inj relation
    exact (Reported.congr ended same).truthful_iff
  | ok summary =>
    obtain rfl := Except.error.inj (relation.resolve_left nofun)
    have digest : platform.currentDigest later.1 = some final.manifestDigest :=
      (congrArg (Option.map platform.sha256Text) same.1).trans ended.2
    refine iff_of_true ⟨_, rfl, digest⟩ ?_
    rw [same.2]
    rcases ended.1 with stage | stage <;>
    · rw [stage]
      exact nofun

/-- Behind a publication of archives alone, which leaves `current`, what is raised is truthful
unless the archives were published and `current` does not name the expected one. -/
theorem truthful_archives_iff {files : RemoteFiles} {expected : Option String}
    {published : Except RemoteFault RemotePublishSummary} {later : RecordedFiles}
    {fault : RemoteFault} {finished : Prop}
    (only : OnlyRaises RemoteFault.Uncommitted published)
    (relation : Released published (.error fault : Except RemoteFault RemotePublishSummary))
    (steady : Steady (files.content (pointerPath .current)) .unswitched later)
    (finishes : finished ↔ ∃ summary, published = .ok summary) :
    Truthful platform files later.1 expected fault ↔
      commitStage later.2 ≠ .unverified ∧ (finished → platform.Names files expected) := by
  have read : commitStage later.2 ≠ .unverified := by
    rw [steady.2]
    decide
  cases published with
  | error early =>
    obtain rfl := Except.error.inj relation
    refine iff_of_true (Truthful.of_uncommitted only steady.1) ⟨read, fun done => ?_⟩
    obtain ⟨summary, impossible⟩ := finishes.mp done
    cases impossible
  | ok summary =>
    obtain rfl := Except.error.inj (relation.resolve_left nofun)
    have digest : platform.currentDigest later.1 = platform.currentDigest files :=
      congrArg (Option.map platform.sha256Text) steady.1
    have names : platform.Names later.1 expected ↔ platform.Names files expected := by
      rw [RemotePlatform.Names, RemotePlatform.Names, digest]
    show platform.Names later.1 expected ↔ _
    rw [names]
    exact ⟨fun named => ⟨read, fun _ => named⟩, fun holds => holds.2 (finishes.mpr ⟨summary, rfl⟩)⟩

/-- An error of a call tells the truth about `current` exactly when the digest behind the switch
was read, and archives that are published alone do not leave the lock behind while `current` is
another manifest. -/
theorem commit_reported_iff (platform : RemotePlatform) (config : PublishConfig)
    (store : SnapshotFiles) (request : RemoteRequest) (outcomes : List RemoteOutcome)
    (files later : RemoteFiles) (record : RemoteRecord) (left : List RemoteOutcome)
    (fault : RemoteFault)
    (raised : (request.program platform store config).run platform.world outcomes (files, []) =
      (some (.error fault), left, later, record)) :
    Truthful platform files later (request.requested platform store) fault ↔
      commitStage record ≠ .unverified ∧
      (ArchivesPublished platform config store request outcomes files →
        platform.Names files (request.requested platform store)) := by
  have settled : CommitStage.unswitched ≠ .switched := by decide
  have fresh : Steady (files.content (pointerPath .current)) .unswitched (files, []) := ⟨rfl, rfl⟩
  have stays : ∀ {state : RecordedFiles},
      Steady (files.content (pointerPath .current)) .unswitched state →
        commitStage state.2 ≠ .unverified := by
    intro state steady
    rw [steady.2]
    exact nofun
  rw [RemoteRequest.program, Program.run_bind] at raised
  cases prepared : request.prepare platform store with
  | error early =>
    rw [prepared] at raised
    obtain ⟨same, rest⟩ := Prod.mk.inj raised
    obtain rfl := Except.error.inj (Option.some.inj same)
    obtain ⟨rfl, rfl⟩ := Prod.mk.inj (Prod.mk.inj rest).2
    have only : OnlyRaises RemoteFault.Uncommitted (request.prepare platform store) :=
      onlyRaises_prepare store request
    rw [prepared] at only
    refine iff_of_true (Truthful.of_uncommitted only rfl) ⟨nofun, ?_⟩
    rintro ⟨archives, _, _, _, impossible, _⟩
    rw [prepared] at impossible
    cases impossible
  | ok pair =>
    obtain ⟨archives, current⟩ := pair
    rw [prepared] at raised
    have requested : request.requested platform store =
        (current.or archives.head?).map PreparedSnapshot.manifestDigest := by
      rw [RemoteRequest.requested, prepared]
    have quiet : Quiet (RemoteCommand.Spares (pointerPath .current)) (acquireLock config) :=
      quiet_acquireLock (reading_spares _) (fun _ => trivial) trivial
    rcases Program.run_bind_eq_error raised with refusal | ⟨_, rest, locked, taken, behind⟩
    · -- The lock is not taken, and nothing else is done.
      obtain ⟨only, steady⟩ := Ensures.ends refusal (quiet.steady settled fresh)
      refine iff_of_true (Truthful.of_uncommitted only steady.1) ⟨stays steady, ?_⟩
      rintro ⟨_, summary, _, _, _, returned⟩
      obtain ⟨_, _, _, taken, _⟩ := Program.run_bind_eq_ok returned
      rw [refusal] at taken
      cases taken
    obtain ⟨_, steady⟩ := Ensures.ends taken (quiet.steady settled fresh)
    rcases Program.run_bind_eq_error behind with
      impossible | ⟨published, rest', done, ran, released⟩
    · exact absurd impossible Program.run_attempt_ne_error
    have ran := Program.run_attempt_eq_ok ran
    have release : Released published (.error fault : Except RemoteFault RemotePublishSummary) ∧
        Steady (done.1.content (pointerPath .current)) (commitStage done.2) (later, record) :=
      Ensures.ends released (ensures_releaseLock published ⟨rfl, rfl⟩)
    obtain ⟨relation, same⟩ := release
    cases current with
    | some final =>
      -- A snapshot becomes current, and what is raised under the lock is raised.
      have ended := Ensures.ends ran (ensures_publishLocked store archives final steady)
      have alone : ¬ ArchivesPublished platform config store request outcomes files := by
        rintro ⟨_, _, _, _, impossible, _⟩
        rw [prepared] at impossible
        cases impossible
      have expected : request.requested platform store = some final.manifestDigest := requested
      rw [expected]
      have told := truthful_current_iff ended relation same
      exact told.trans (iff_of_eq (and_iff_left fun published => absurd published alone).symm.eq)
    | none =>
      -- No snapshot becomes current, and `current` is left.
      obtain ⟨only, left⟩ := Ensures.ends ran (ensures_publishLocked_none store archives steady)
      have steady : Steady (files.content (pointerPath .current)) .unswitched (later, record) :=
        ⟨same.1.trans left.1, same.2.trans left.2⟩
      refine truthful_archives_iff only relation steady ⟨?_, ?_⟩
      · rintro ⟨others, summary, _, _, also, returned⟩
        rw [prepared] at also
        obtain ⟨rfl, _⟩ := Prod.mk.inj (Except.ok.inj also)
        obtain ⟨_, _, _, again, finish⟩ := Program.run_bind_eq_ok returned
        rw [taken] at again
        obtain ⟨_, rfl, rfl⟩ := Prod.mk.inj again |>.imp id Prod.mk.inj
        rw [ran] at finish
        exact ⟨summary, Option.some.inj (Prod.mk.inj finish).1⟩
      · rintro ⟨summary, rfl⟩
        refine ⟨archives, summary, rest', done, prepared, ?_⟩
        rw [Program.run_bind, taken]
        exact ran

/-- The outcomes of a publication in which a reading of retention times out. -/
def untidyOutcomes : List RemoteOutcome :=
  List.replicate 45 .success ++ .timeout false :: List.replicate 4 .success

/-- Object, archive and pointers are uploaded, and retention fails behind them: the error says that
the snapshot was committed, and it is. -/
theorem commit_reported_untidy : ∃ message later record left,
    dashboardRun untidyOutcomes dashboardFiles =
      (some (.error (.publish message (some true))), left, later, record) ∧
    dashboard.currentDigest later =
      (RemoteRequest.publish staleManifest.fields).requested dashboard officeFiles ∧
    (Truthful dashboard dashboardFiles later
      ((RemoteRequest.publish staleManifest.fields).requested dashboard officeFiles)
        (.publish message (some true)) ↔
      commitStage record ≠ .unverified ∧
      (ArchivesPublished dashboard dashboardConfig officeFiles (.publish staleManifest.fields)
          untidyOutcomes dashboardFiles →
        dashboard.Names dashboardFiles
          ((RemoteRequest.publish staleManifest.fields).requested dashboard officeFiles))) := by
  have said : saidCommitted (dashboardRun untidyOutcomes dashboardFiles).1 = some (some true) ∧
      dashboard.currentDigest (dashboardRun untidyOutcomes dashboardFiles).2.2.1 =
        (RemoteRequest.publish staleManifest.fields).requested dashboard officeFiles := by
    rw [dashboardRun_eq, RemoteRequest.requested, prepare_office]
    decide +kernel
  generalize ran : dashboardRun untidyOutcomes dashboardFiles = result at said
  obtain ⟨ended, left, later, record⟩ := result
  obtain ⟨message, rfl⟩ := exists_of_saidCommitted said.1
  have holds := commit_reported_iff dashboard dashboardConfig officeFiles
    (.publish staleManifest.fields) untidyOutcomes dashboardFiles later record left _ ran
  exact ⟨message, later, record, left, rfl, said.2, holds⟩

/-- The outcomes of a publication whose last reading of `current` times out. -/
def unreadOutcomes : List RemoteOutcome :=
  List.replicate 40 .success ++ [.timeout false, .success]

/-- The reading of `current` behind its switch times out: the error says that nothing was
committed, though `current` was missing before and is the manifest that was asked for. -/
theorem unread_switch_denied :
    saidCommitted (dashboardRun unreadOutcomes dashboardFiles).1 = some (some false) ∧
      dashboard.currentDigest dashboardFiles = none ∧
      dashboard.currentDigest (dashboardRun unreadOutcomes dashboardFiles).2.2.1 =
        (RemoteRequest.publish staleManifest.fields).requested dashboard officeFiles := by
  rw [dashboardRun_eq, RemoteRequest.requested, prepare_office]
  refine ⟨?_, ?_, ?_⟩
  · decide +kernel
  · decide
  · decide +kernel

end DTLab
