import DTLab.Deploy.Frames

/-!
# Activation is all or nothing

An activation that ends leaves the host at the target where it returns and at the deployment of
before where it raises, unless the restoration failed, or the first marker of the activation was
not written: the flag that asks for the restoration is set behind it.
-/

namespace DTLab

open Library (Text Program)
open Library.Program (Ensures Reads Ends Uses OnlyRaises ensures_bind ensures_attempt
  ensures_handle ensures_trivial reads_returned reads_raised)

variable {platform : DeployPlatform}

/-- The host, as the production tool meets it. -/
abbrev onHost := ProductionHost.respond

/-! ## What the functions do -/

/-- A step that returns was carried out. -/
theorem ensures_perform {always : ProductionHost → Prop} (command : DeployCommand)
    {host : ProductionHost} (start : always host) :
    command.perform.Ensures onHost always
      (Ends (fun _ later => later = command.effect host)
        fun _ later => later = host ∨ later = command.effect host) host := by
  refine ⟨start, fun outcome => ?_⟩
  cases outcome with
  | success surroundings => exact rfl
  | failure failure carriedOut =>
    have either := host.respond_host (.failure failure carriedOut) command
    rcases failure with _ | _ | fault <;> exact either

/-- A program that reads ensures at its end what it tells. -/
theorem ensures_of_reads {α : Type} {program : DeployProgram α} {host : ProductionHost}
    {tells : α → Prop} (reads : program.Reads onHost host tells) {after : ProductionHost → Prop}
    (implies : ∀ value, tells value → after host) :
    program.Ensures onHost (fun _ => True) (Ends (fun _ => after) fun _ _ => True) host := by
  apply (reads.ensures trivial).weaken
  intro result later ends
  cases result with
  | ok value =>
    rw [show later = host from ends.1]
    exact implies value ends.2
  | error fault => exact trivial

/-- The switches of a unit are what each of them is. -/
theorem switches_eq {switches : UnitSwitches} {active enabled : Bool}
    (isActive : switches.active = active) (isEnabled : switches.enabled = enabled) :
    switches = ⟨active, enabled⟩ := by
  cases isActive
  cases isEnabled
  rfl

/-- The path unit is off behind `_quiesce_ingest`. -/
theorem ensures_quiesceIngest (host : ProductionHost) :
    quiesceIngest.Ensures onHost (fun _ => True)
      (Ends (fun _ later => later.switches .ingestPath = ⟨false, false⟩) fun _ _ => True) host := by
  have verified : ∀ later : ProductionHost, Program.Reads onHost (do
      let pathState ← captureNamedService .ingestPath
      let serviceState ← captureNamedService .ingestService
      expect (!(pathState.switches.active || pathState.switches.enabled ||
        serviceState.switches.active)) "Ticket ingest non portato in stato quiescente.") later
      fun _ => later.switches .ingestPath = ⟨false, false⟩ := by
    intro later
    apply Reads.bind (reads_captureNamedService (by decide) later)
    intro pathState switches
    apply Reads.bind ((issues_captureNamedService (fun _ observes => observes) _).reads later)
    intro serviceState _
    apply (reads_expect _ _ later).weaken
    intro _ off
    simp only [Bool.not_eq_true', Bool.or_eq_false_iff] at off
    rw [← switches]
    exact switches_eq off.1.1 off.1.2
  apply Ensures.bind (ensures_trivial _ host) ?_ fun _ _ _ => trivial
  intro _ disabled _
  apply Ensures.bind (ensures_trivial _ disabled) ?_ fun _ _ _ => trivial
  intro _ stopped _
  apply Ensures.bind (ensures_trivial _ stopped) ?_ fun _ _ _ => trivial
  intro _ idle _
  exact ensures_of_reads (verified idle) fun _ off => off

/-- The path unit is as it is wanted behind `_set_ingest_path_state`. -/
theorem ensures_setIngestPathState (wanted : UnitSwitches) (host : ProductionHost) :
    (setIngestPathState wanted).Ensures onHost (fun _ => True)
      (Ends (fun _ later => later.switches .ingestPath = wanted) fun _ _ => True) host := by
  apply Ensures.bind (ensures_trivial _ host) ?_ fun _ _ _ => trivial
  intro _ enabled _
  apply Ensures.bind (ensures_trivial _ enabled) ?_ fun _ _ _ => trivial
  intro _ switched _
  have verified : Program.Reads onHost (do
      let final ← captureNamedService .ingestPath
      expect (decide (final.switches = wanted) && final.isClean)
        "Stato ticket ingest path non applicato.") switched
      fun _ => switched.switches .ingestPath = wanted := by
    apply Reads.bind (reads_captureNamedService (by decide) switched)
    intro final switches
    apply (reads_expect _ _ switched).weaken
    intro _ applied
    rw [← switches]
    exact of_decide_eq_true (Bool.and_eq_true_iff.mp applied).1
  exact ensures_of_reads verified fun _ applied => applied

/-- The service is active and enabled where the readiness was verified. -/
theorem reads_activeReadiness (target : TargetInfo) (expected : StoreState)
    (host : ProductionHost) :
    (activeReadiness platform target expected).Reads onHost host fun _ =>
      host.switches .service = ⟨true, true⟩ := by
  apply Reads.bind (reads_captureNamedService (by decide) host)
  intro service switches
  apply Reads.bind (reads_expect _ _ host)
  intro _ ready
  have active : host.switches .service = ⟨true, true⟩ := by
    simp only [ServiceState.isReady, Bool.and_eq_true, decide_eq_true_eq] at ready
    rw [← switches]
    exact ready.1.1
  have observing : ∀ command : DeployCommand, command.Observes → command.Observes :=
    fun _ observes => observes
  apply Reads.bind ((issues_captureLink observing _).reads host)
  intro releaseLink _
  apply Reads.bind ((issues_captureLink observing _).reads host)
  intro venvLink _
  apply Reads.bind ((issues_captureUnit observing).reads host)
  intro unit _
  apply Reads.bind ((issues_expect _ _).reads host)
  intro _ _
  apply Reads.bind ((issues_inspectStore observing).reads host)
  intro data _
  apply Reads.bind ((issues_expect _ _).reads host)
  intro _ _
  apply Reads.bind ((issues_inspectTicketState observing).reads host)
  intro _ _
  apply Reads.bind ((issues_httpHealthOk observing).reads host)
  intro healthy _
  apply ((issues_expect _ _).reads host).weaken
  exact fun _ _ => active

/-- Where the wait for readiness returns, the service is on. -/
theorem reads_waitForActiveReadiness (target : TargetInfo) (expected : StoreState)
    (lastError : String) (rounds : Nat) (host : ProductionHost) :
    (waitForActiveReadiness platform target expected lastError rounds).Reads onHost host fun _ =>
      host.switches .service = ⟨true, true⟩ := by
  induction rounds generalizing lastError with
  | zero => exact reads_raised
  | succ rounds ih =>
    apply Reads.bind (reads_activeReadiness target expected host).attempt
    intro result ready
    rcases result with (message | name) | value
    · exact ih message
    · exact reads_raised
    · exact reads_returned (ready value rfl)

/-- What `_verify_ingest_readiness` tells of the path unit. -/
def IngestVerified (target : TargetInfo) (host : ProductionHost) : Prop :=
  if target.ingestServiceBytes.isEmpty then host.switches .ingestPath = ⟨false, false⟩
  else host.switches .ingestPath = ⟨true, true⟩ ∧ (host.unitFile .ingestPath).isSome

/-- Where the verification of the ingest returns, the path unit is as wanted. -/
theorem reads_verifyIngestReadiness (target : TargetInfo) (snapshotSha256 : String)
    (host : ProductionHost) :
    (verifyIngestReadiness platform target snapshotSha256).Reads onHost host fun _ =>
      IngestVerified target host := by
  apply Reads.bind (reads_captureRawUnit .ingestService host)
  intro serviceUnit _
  apply Reads.bind (reads_captureRawUnit .ingestPath host)
  intro pathUnit content
  apply Reads.bind (reads_captureNamedService (by decide) host)
  intro pathState switches
  rw [IngestVerified]
  split_ifs
  · apply (reads_expect _ _ host).weaken
    intro _ off
    simp only [Bool.not_eq_true', Bool.or_eq_false_iff] at off
    rw [← switches]
    exact switches_eq off.1.2 off.2
  · apply Reads.bind (reads_expect _ _ host)
    intro _ ready
    simp only [Bool.and_eq_true, decide_eq_true_eq] at ready
    obtain ⟨⟨⟨⟨_, hashed⟩, active⟩, enabled⟩, _⟩ := ready
    have verified : host.switches .ingestPath = ⟨true, true⟩ ∧
        (host.unitFile .ingestPath).isSome := by
      refine ⟨?_, ?_⟩
      · rw [← switches]
        exact switches_eq active enabled
      · rw [← content]
        exact Option.isSome_map.symm.trans (Option.isSome_of_mem hashed)
    apply Reads.bind ((issues_ticketSnapshotIngested (fun _ observes => observes) _).reads host)
    intro ingested _
    apply ((issues_expect _ _).reads host).weaken
    exact fun _ _ => verified

/-! ## The target -/

/-- The deployment of a target. -/
def TargetInfo.deployment (target : TargetInfo) : DeploymentState where
  releaseLink := some target.release
  venvLink := some target.venv
  unit := some target.unitBytes
  service := ⟨⟨true, true⟩, 0, 0, "success"⟩
  ingestServiceUnit := if target.hasIngest then some target.ingestServiceBytes else none
  ingestPathUnit := if target.hasIngest then some target.ingestPathBytes else none
  ingestPathState := ⟨⟨target.hasIngest, target.hasIngest⟩, 0, 0, "success"⟩

/-- The links and the unit files of the host are those of a target. -/
structure TargetInfo.Installed (target : TargetInfo) (host : ProductionHost) : Prop where
  release : host.link .release = some target.release
  venv : host.link .venv = some target.venv
  unit : host.unitFile .service = some target.unitBytes
  ingestService : host.unitFile .ingestService = target.deployment.ingestServiceUnit
  ingestPath : host.unitFile .ingestPath = target.deployment.ingestPathUnit

/-- A step that returns, whatever it does where it fails. -/
theorem ensures_step (command : DeployCommand) (host : ProductionHost) :
    command.perform.Ensures onHost (fun _ => True)
      (Ends (fun _ later => later = command.effect host) fun _ _ => True) host := by
  apply (ensures_perform command trivial).weaken
  intro result later ends
  cases result with
  | ok _ => exact ends
  | error fault => exact trivial

/-- A link is switched. -/
theorem ensures_switchLink (link : ProductionLink) (target : String) (host : ProductionHost) :
    (switchLink link target).Ensures onHost (fun _ => True)
      (Ends (fun _ later =>
        later = { host with link := Function.update host.link link (some target) })
        fun _ _ => True) host := by
  apply Ensures.bind ((reads_captureLink link host).ensures trivial) ?_ fun _ _ _ => trivial
  rintro current later ⟨same, told⟩
  rw [show later = host from same]
  split_ifs with equal
  · have unchanged : Function.update host.link link (some target) = host.link := by
      rw [← equal, told, Function.update_eq_self]
    show host = _
    rw [unchanged]
  · exact ensures_step (.replaceLink link target) host

/-- The installation writes the unit of the service and nothing else. -/
theorem ensures_installUnit (content : Text) (host : ProductionHost) :
    (installUnit platform content).Ensures onHost (fun _ => True)
      (Ends (fun _ later =>
        later = { host with unitFile := Function.update host.unitFile .service (some content) })
        fun _ _ => True) host := by
  apply Ensures.bind (((issues_raiseProblem _).reads host).ensures trivial) ?_ fun _ _ _ => trivial
  rintro _ later ⟨same, _⟩
  rw [show later = host from same]
  exact ensures_step (.writeUnit .service content) host

/-- The files of the ticket ingest are those of the target. -/
theorem ensures_installIngestUnits (target : TargetInfo) (host : ProductionHost) :
    (installIngestUnits platform target).Ensures onHost (fun _ => True)
      (Ends (fun _ later => later.link = host.link ∧
          later.unitFile .service = host.unitFile .service ∧
          later.unitFile .ingestService = target.deployment.ingestServiceUnit ∧
          later.unitFile .ingestPath = target.deployment.ingestPathUnit)
        fun _ _ => True) host := by
  rw [installIngestUnits, TargetInfo.deployment]
  split_ifs with hasIngest
  · apply Ensures.bind (((issues_raiseProblem _).reads host).ensures trivial) ?_
      fun _ _ _ => trivial
    rintro _ later ⟨same, _⟩
    rw [show later = host from same]
    apply Ensures.bind (ensures_step (.writeUnit .ingestService _) host) ?_ fun _ _ _ => trivial
    rintro _ written same
    rw [show written = _ from same]
    apply (ensures_step (.writeUnit .ingestPath target.ingestPathBytes) _).weaken
    intro result later ends
    cases result with
    | ok _ =>
      rw [show later = _ from ends]
      exact ⟨rfl, rfl, rfl, rfl⟩
    | error fault => exact trivial
  · apply Ensures.bind (ensures_step (.removeUnit .ingestService) host) ?_ fun _ _ _ => trivial
    rintro _ removed same
    rw [show removed = _ from same]
    apply (ensures_step (.removeUnit .ingestPath) _).weaken
    intro result later ends
    cases result with
    | ok _ =>
      rw [show later = _ from ends]
      exact ⟨rfl, rfl, rfl, rfl⟩
    | error fault => exact trivial

/-- What leaves the files leaves the target installed. -/
theorem TargetInfo.Installed.effect {target : TargetInfo} {command : DeployCommand}
    (leaves : command.LeavesFiles) {host : ProductionHost} (installed : target.Installed host) :
    target.Installed (command.effect host) := by
  obtain ⟨link, unitFile⟩ := leaves.effect host
  constructor
  · rw [link]
    exact installed.release
  · rw [link]
    exact installed.venv
  · rw [unitFile]
    exact installed.unit
  · rw [unitFile]
    exact installed.ingestService
  · rw [unitFile]
    exact installed.ingestPath

/-- What leaves the files ensures that the target stays installed, with what else it ensures. -/
theorem ensures_installed {α : Type} {program : DeployProgram α} {target : TargetInfo}
    {host : ProductionHost} {after : Except DeployFault α → ProductionHost → Prop}
    (issues : Issues DeployCommand.LeavesFiles program)
    (ensures : program.Ensures onHost (fun _ => True) after host)
    (installed : target.Installed host) :
    program.Ensures onHost (fun _ => True)
      (fun result later => after result later ∧ target.Installed later) host := by
  have kept := issues.keeps (fun _ leaves _ held => held.effect leaves) installed
  exact (ensures.and kept).mono (fun _ _ => trivial) fun _ _ both => both

/-- The path unit that was verified is that of the target. -/
theorem IngestVerified.switches {target : TargetInfo} {host : ProductionHost}
    (verified : IngestVerified target host) (installed : target.Installed host) :
    host.switches .ingestPath = ⟨target.hasIngest, target.hasIngest⟩ := by
  rw [IngestVerified] at verified
  split_ifs at verified with empty
  · have none : target.hasIngest = false := by
      rw [TargetInfo.hasIngest, empty]
      rfl
    rw [none]
    exact verified
  · have present := verified.2
    rw [installed.ingestPath, TargetInfo.deployment] at present
    have ingest : target.hasIngest = true := by
      by_contra absent
      simp [absent] at present
    rw [ingest]
    exact verified.1

/-- A command that observes leaves the files. -/
theorem leavesFiles_of_observes (command : DeployCommand) (observes : command.Observes) :
    command.LeavesFiles := by
  cases command <;> first | exact trivial | exact absurd observes not_false

/-- The switch of the path unit, as the target wants it. -/
theorem ensures_targetIngest (target : TargetInfo) (snapshotSha256 : String)
    {host : ProductionHost} (files : target.Installed host) :
    Program.Ensures onHost (fun _ => True)
      (Ends (fun _ => target.Installed) fun _ _ => True)
      (if target.ingestServiceBytes.isEmpty then setIngestPathState ⟨false, false⟩
        else do
          runInitialIngest snapshotSha256
          setIngestPathState ⟨true, true⟩) host := by
  have issues : Issues DeployCommand.LeavesFiles
      (if target.ingestServiceBytes.isEmpty then setIngestPathState ⟨false, false⟩
        else do
          runInitialIngest snapshotSha256
          setIngestPathState ⟨true, true⟩) := by
    split_ifs
    · exact issues_setIngestPathState leavesFiles_of_observes _ fun _ => trivial
    · apply Uses.bind (issues_runInitialIngest leavesFiles_of_observes _ trivial)
      intro _
      exact issues_setIngestPathState leavesFiles_of_observes _ fun _ => trivial
  apply (ensures_installed issues (ensures_trivial _ host) files).weaken
  intro result later both
  cases result with
  | ok _ => exact both.2
  | error fault => exact trivial

/-- The units are started where the files are those of the target. -/
theorem ensures_started (target : TargetInfo) (before : DeploymentState) (expected : StoreState)
    {host : ProductionHost} (files : target.Installed host) :
    Program.Ensures onHost (fun _ => True)
      (Ends (fun _ later => later.IsAt target.deployment ∧
        later.marker = some ⟨none, .complete⟩) fun _ _ => True)
      (do
        runSystemctl .daemonReload true
        (if before.service.switches.enabled then .returned ()
          else runSystemctl (.systemctl .enable .service) true)
        runSystemctl (.systemctl .restart .service) true
        waitForActiveReadiness platform target expected "readiness non eseguita"
          platform.readinessRounds
        (if target.ingestServiceBytes.isEmpty then setIngestPathState ⟨false, false⟩
          else do
            runInitialIngest expected.snapshotSha256
            setIngestPathState ⟨true, true⟩)
        verifyIngestReadiness platform target expected.snapshotSha256
        waitForActiveReadiness platform target expected "readiness non eseguita"
          platform.finalReadinessRounds
        writeRecoveryMarker .complete none) host := by
  have reload : Issues DeployCommand.LeavesFiles (runSystemctl .daemonReload true) :=
    issues_runSystemctl trivial true
  have enable : Issues DeployCommand.LeavesFiles
      (if before.service.switches.enabled then .returned ()
        else runSystemctl (.systemctl .enable .service) true) := by
    split_ifs
    · exact trivial
    · exact issues_runSystemctl trivial true
  have restart : Issues DeployCommand.LeavesFiles
      (runSystemctl (.systemctl .restart .service) true) := issues_runSystemctl trivial true
  apply Ensures.bind (ensures_installed reload (ensures_trivial _ host) files) ?_
    fun _ _ _ => trivial
  rintro _ reloaded ⟨_, files⟩
  apply Ensures.bind (ensures_installed enable (ensures_trivial _ reloaded) files) ?_
    fun _ _ _ => trivial
  rintro _ enabled ⟨_, files⟩
  apply Ensures.bind (ensures_installed restart (ensures_trivial _ enabled) files) ?_
    fun _ _ _ => trivial
  rintro _ restarted ⟨_, files⟩
  apply Ensures.bind ((reads_waitForActiveReadiness target expected _ _ restarted).ensures trivial)
    ?_ fun _ _ _ => trivial
  rintro _ ready ⟨same, _⟩
  rw [show ready = restarted from same]
  apply Ensures.bind (ensures_targetIngest target expected.snapshotSha256 files) ?_
    fun _ _ _ => trivial
  intro _ switched files
  apply Ensures.bind ((reads_verifyIngestReadiness target _ switched).ensures trivial) ?_
    fun _ _ _ => trivial
  rintro _ verified ⟨same, ingest⟩
  rw [show verified = switched from same]
  apply Ensures.bind ((reads_waitForActiveReadiness target expected _ _ switched).ensures trivial)
    ?_ fun _ _ _ => trivial
  rintro _ ready ⟨same, service⟩
  rw [show ready = switched from same]
  apply (ensures_step (.writeMarker ⟨none, .complete⟩) switched).weaken
  intro result later ends
  cases result with
  | error fault => exact trivial
  | ok _ =>
    rw [show later = _ from ends]
    have files : target.Installed switched := files
    exact ⟨⟨files.release, files.venv, files.unit, files.ingestService, files.ingestPath, service,
      ingest.switches files⟩, rfl⟩

/-- The host is at the target behind `_activate`, up to its marker. -/
theorem ensures_mutate (target : TargetInfo) (before : DeploymentState) (expected : StoreState)
    (host : ProductionHost) :
    (mutate platform target before expected).Ensures onHost (fun _ => True)
      (Ends (fun _ later => later.IsAt target.deployment ∧
        later.marker = some ⟨none, .complete⟩) fun _ _ => True) host := by
  apply Ensures.bind (ensures_trivial _ host) ?_ fun _ _ _ => trivial
  intro _ quiet _
  apply Ensures.bind (ensures_switchLink .release target.release quiet) ?_ fun _ _ _ => trivial
  rintro _ released release
  apply Ensures.bind (ensures_switchLink .venv target.venv released) ?_ fun _ _ _ => trivial
  rintro _ linked venv
  apply Ensures.bind (ensures_installUnit target.unitBytes linked) ?_ fun _ _ _ => trivial
  rintro _ written unit
  apply Ensures.bind (ensures_installIngestUnits target written) ?_ fun _ _ _ => trivial
  rintro _ installed ⟨link, service, ingestService, ingestPath⟩
  have files : target.Installed installed := by
    have releaseEq : released = _ := release
    have venvEq : linked = _ := venv
    have unitEq : written = _ := unit
    refine ⟨?_, ?_, ?_, ingestService, ingestPath⟩
    · rw [link, unitEq, venvEq, releaseEq]
      rfl
    · rw [link, unitEq, venvEq]
      rfl
    · rw [service, unitEq]
      rfl
  exact ensures_started target before expected files

/-! ## The deployment of before -/

/-- What `_restore_transaction` reads at its end tells that the host is at the deployment of
before. -/
theorem reads_restored (before : DeploymentState) (expected : StoreState) (host : ProductionHost) :
    Program.Reads onHost (do
      let restored ← captureDeployment platform
      expect (restored.sameAs before) "Stato applicativo precedente non ripristinato."
      let data ← inspectStore
      expect (storeIdentityMatches data expected)
        "Snapshot precedente non più coerente dopo il restore."
      inspectTicketState) host fun _ => host.IsAt before := by
  have observing : ∀ command : DeployCommand, command.Observes → command.Observes :=
    fun _ observes => observes
  apply Reads.bind (reads_captureDeployment platform host)
  intro restored isAt
  apply Reads.bind (reads_expect _ _ host)
  intro _ same
  apply Reads.bind ((issues_inspectStore observing).reads host)
  intro data _
  apply Reads.bind ((issues_expect _ _).reads host)
  intro _ _
  apply ((issues_inspectTicketState observing).reads host).weaken
  exact fun _ _ => isAt.of_sameAs same

/-- `_restore_transaction` returns where the host is at the deployment of before. -/
theorem ensures_restoreTransaction (before : DeploymentState) (expected : StoreState)
    (host : ProductionHost) :
    (restoreTransaction platform before expected).Ensures onHost (fun _ => True)
      (Ends (fun _ later => later.IsAt before) fun _ _ => True) host := by
  apply Ensures.bind (ensures_trivial _ host) ?_ fun _ _ _ => trivial
  intro _ quiet _
  apply Ensures.bind (ensures_trivial _ quiet) ?_ fun _ _ _ => trivial
  intro _ released _
  apply Ensures.bind (ensures_trivial _ released) ?_ fun _ _ _ => trivial
  intro _ linked _
  apply Ensures.bind (ensures_trivial _ linked) ?_ fun _ _ _ => trivial
  intro _ written _
  apply Ensures.bind (ensures_trivial _ written) ?_ fun _ _ _ => trivial
  intro _ ingestService _
  apply Ensures.bind (ensures_trivial _ ingestService) ?_ fun _ _ _ => trivial
  intro _ ingestPath _
  apply Ensures.bind (ensures_trivial _ ingestPath) ?_ fun _ _ _ => trivial
  intro _ service _
  apply Ensures.bind (ensures_trivial _ service) ?_ fun _ _ _ => trivial
  intro _ switched _
  apply Ensures.bind (ensures_trivial _ switched) ?_ fun _ _ _ => trivial
  intro _ idle _
  exact ensures_of_reads (reads_restored before expected idle) fun _ isAt => isAt

/-! ## Records -/

/-- The steps of an activation and what came back. -/
abbrev DeployRecord :=
  List (Program.Event DeployCommand fun command => DeployReply command.Answer)

/-- The host with a record of the steps. -/
abbrev onRecord := Program.recorded onHost

/-- The step that is taken in front of `mutation_started`. -/
abbrev mutationMarker : DeployCommand := .writeMarker ⟨none, .mutationStarting⟩

/-- The marker in front of `mutation_started` was not written. -/
def Unmarked (record : DeployRecord) : Prop :=
  ∃ failure, ⟨mutationMarker, .failed failure⟩ ∈ record

/-- A restoration failed, or its marker. -/
def RestoreFailed (record : DeployRecord) : Prop :=
  ∃ marker reply, marker.status = .restoreFailed ∧ ⟨.writeMarker marker, reply⟩ ∈ record

/-- A step other than the marker in front of `mutation_started` leaves it as it was. -/
theorem unmarked_append {record : DeployRecord} {command : DeployCommand}
    (other : command ≠ mutationMarker) (reply : DeployReply command.Answer)
    (clean : ¬Unmarked record) : ¬Unmarked (record ++ [⟨command, reply⟩]) := by
  rintro ⟨failure, member⟩
  rcases List.mem_append.mp member with earlier | last
  · exact clean ⟨failure, earlier⟩
  · have same := congrArg Sigma.fst (List.mem_singleton.mp last)
    exact other same.symm

/-- A program of other steps leaves the marker in front of `mutation_started` as it was, with what
else it ensures. -/
theorem ensures_clean {α : Type} {program : DeployProgram α} {host : ProductionHost}
    {record : DeployRecord} {after : Except DeployFault α → ProductionHost → Prop}
    (issues : Issues (fun command => command ≠ mutationMarker) program)
    (ensures : program.Ensures onHost (fun _ => True) after host) (clean : ¬Unmarked record) :
    program.Ensures onRecord (fun _ => True)
      (fun result later => after result later.1 ∧ ¬Unmarked later.2) (host, record) := by
  have kept : program.Ensures onRecord (fun later => ¬Unmarked later.2)
      (fun result later => OnlyRaises (fun _ => True) result ∧ ¬Unmarked later.2) (host, record) :=
    issues.ensures onRecord (fun later => ¬Unmarked later.2)
      (fun _ other _ _ held => unmarked_append other _ held) clean
  apply ((ensures.recorded record).and kept).mono (fun _ _ => trivial)
  exact fun _ _ both => ⟨both.1, both.2.2⟩

/-- A marker of a status. -/
def ProductionHost.Marked (host : ProductionHost) (status : RecoveryStatus) : Prop :=
  ∃ errorType, host.marker = some ⟨errorType, status⟩

/-- The host behind a marker. -/
abbrev ProductionHost.mark (host : ProductionHost) (marker : RecoveryMarker) : ProductionHost :=
  { host with marker := some marker }

/-- A marker is written, or the record tells that this failed. -/
theorem ensures_mark (marker : RecoveryMarker) (host : ProductionHost) (record : DeployRecord) :
    (DeployCommand.writeMarker marker).perform.Ensures onRecord (fun _ => True)
      (Ends (fun _ later => later.1 = host.mark marker ∧
          later.2 = record ++ [⟨.writeMarker marker, .answered ()⟩])
        fun _ later => (later.1 = host ∨ later.1 = host.mark marker) ∧
          ∃ failure, later.2 = record ++ [⟨.writeMarker marker, .failed failure⟩])
      (host, record) := by
  refine ⟨trivial, fun outcome => ?_⟩
  cases outcome with
  | success surroundings => exact ⟨rfl, rfl⟩
  | failure failure carriedOut =>
    have either := host.respond_host (.failure failure carriedOut) (.writeMarker marker)
    rcases failure with _ | _ | fault
    · exact ⟨either, .exitCode, rfl⟩
    · exact ⟨either, .osError, rfl⟩
    · exact ⟨either, .raised fault, rfl⟩

/-- A marker does not move the host. -/
theorem ProductionHost.IsAt.mark {host : ProductionHost} {state : DeploymentState}
    (isAt : host.IsAt state) (marker : RecoveryMarker) : (host.mark marker).IsAt state :=
  ⟨isAt.releaseLink, isAt.venvLink, isAt.unit, isAt.ingestServiceUnit, isAt.ingestPathUnit,
    isAt.service, isAt.ingestPath⟩

/-- A restoration whose marker is written leaves the host at the deployment of before; otherwise it
is known to have failed. -/
theorem ensures_restoring {restoration : DeployProgram Unit} {status : RecoveryStatus}
    {message : String} {original : DeployFault} {before : DeploymentState} {host : ProductionHost}
    {record : DeployRecord} (other : status ≠ .mutationStarting)
    (ensures : restoration.Ensures onRecord (fun _ => True)
      (fun result later => Ends (fun _ host => host.IsAt before) (fun _ _ => True) result later.1 ∧
        ¬Unmarked later.2) (host, record)) :
    (restoring restoration status message original).Ensures onRecord (fun _ => True)
      (Ends (fun _ later => later.1.IsAt before ∧ later.1.Marked status ∧ ¬Unmarked later.2)
        fun _ later => RestoreFailed later.2) (host, record) := by
  -- The marker of a failed restoration is in the record, written or not.
  have failing : ∀ (fault : DeployFault) (later : ProductionHost × DeployRecord),
      Program.Ensures onRecord (fun _ => True)
        (Ends (fun _ later => later.1.IsAt before ∧ later.1.Marked status ∧ ¬Unmarked later.2)
          fun _ later => RestoreFailed later.2)
        (do
          writeRecoveryMarker .restoreFailed (some fault)
          .raised (.tool (message ++ fault.typeName)) : DeployProgram Unit) later := by
    intro fault later
    let marker : RecoveryMarker := ⟨some fault.typeName, .restoreFailed⟩
    apply Ensures.bind (ensures_mark marker later.1 later.2)
    · intro _ marked written
      exact ⟨marker, .answered (), rfl, written.2 ▸ List.mem_append_right _ List.mem_cons_self⟩
    · intro _ marked tried
      obtain ⟨failure, written⟩ := tried.2
      exact ⟨marker, .failed failure, rfl, written ▸ List.mem_append_right _ List.mem_cons_self⟩
  apply ensures_bind.mpr
  apply ensures_attempt.mpr
  apply Ensures.bind ensures
  · intro _ restored both
    have isAt : restored.1.IsAt before := both.1
    let marker : RecoveryMarker := ⟨some original.typeName, status⟩
    apply (ensures_mark marker restored.1 restored.2).weaken
    intro result later ends
    cases result with
    | ok _ =>
      have different : DeployCommand.writeMarker marker ≠ mutationMarker := by
        intro same
        injection same with equal
        exact other (congrArg RecoveryMarker.status equal)
      refine ⟨?_, ⟨some original.typeName, ?_⟩, ?_⟩
      · rw [ends.1]
        exact isAt.mark marker
      · rw [ends.1]
      · rw [ends.2]
        exact unmarked_append different _ both.2
    | error fault => exact failing fault later
  · intro fault later _
    exact failing fault later

/-! ## Preparation -/

/-- The host with the switches of the path unit of a deployment. -/
abbrev ProductionHost.withPath (host : ProductionHost) (state : DeploymentState) :
    ProductionHost :=
  { host with
    switches := Function.update host.switches .ingestPath state.ingestPathState.switches }

/-- The host is at the deployment of before up to the path unit, and nothing is decided. -/
structure ProductionHost.Prepared (host : ProductionHost) (before : DeploymentState) : Prop where
  others : (host.withPath before).IsAt before
  undecided : ∀ marker, host.marker = some marker → marker.status = .preparationStarting

/-- A host that is at a deployment up to the path unit is at it where the path unit is. -/
theorem ProductionHost.IsAt.of_withPath {host : ProductionHost} {state : DeploymentState}
    (others : (host.withPath state).IsAt state)
    (path : host.switches .ingestPath = state.ingestPathState.switches) : host.IsAt state :=
  ⟨others.releaseLink, others.venvLink, others.unit, others.ingestServiceUnit,
    others.ingestPathUnit, others.service, path⟩

/-- A host that is at a deployment is at it up to the path unit. -/
theorem ProductionHost.IsAt.withPath {host : ProductionHost} {state : DeploymentState}
    (isAt : host.IsAt state) : (host.withPath state).IsAt state :=
  ⟨isAt.releaseLink, isAt.venvLink, isAt.unit, isAt.ingestServiceUnit, isAt.ingestPathUnit,
    isAt.service, rfl⟩

/-- A step of a preparation. -/
def DeployCommand.Prepares : DeployCommand → Prop
  | systemctl _ unit => unit ≠ .service
  | replaceLink _ _ | unlinkLink _ | writeUnit _ _ | removeUnit _ => False
  | writeMarker marker => marker.status = .preparationStarting
  | _ => True

/-- A step that observes prepares. -/
theorem DeployCommand.Observes.prepares (command : DeployCommand) (observes : command.Observes) :
    command.Prepares := by
  cases command <;> first | exact trivial | exact absurd observes not_false

/-- A step that observes is not the marker in front of `mutation_started`. -/
theorem DeployCommand.Observes.ne_mutationMarker (command : DeployCommand)
    (observes : command.Observes) : command ≠ mutationMarker := by
  rintro rfl
  exact observes

/-- A step of a preparation leaves the host prepared. -/
theorem ProductionHost.Prepared.effect {command : DeployCommand} (prepares : command.Prepares)
    {host : ProductionHost} {before : DeploymentState} (prepared : host.Prepared before) :
    (command.effect host).Prepared before := by
  have others := prepared.others
  cases command with
  | systemctl verb unit =>
    have service : (Function.update host.switches unit
      (verb.switch (host.switches unit))) .service =
        host.switches .service := Function.update_of_ne (Ne.symm prepares) _ _
    refine ⟨⟨others.releaseLink, others.venvLink, others.unit, others.ingestServiceUnit,
      others.ingestPathUnit, ?_, rfl⟩, prepared.undecided⟩
    exact service.trans others.service
  | writeMarker marker =>
    refine ⟨others.mark marker, fun other same => ?_⟩
    rw [← Option.some.inj same]
    exact prepares
  | newBackupDirectory =>
    refine ⟨⟨others.releaseLink, others.venvLink, others.unit, others.ingestServiceUnit,
      others.ingestPathUnit, others.service, others.ingestPath⟩, nofun⟩
  | replaceLink | unlinkLink | writeUnit | removeUnit => exact absurd prepares not_false
  | _ => exact prepared

/-- A program whose steps prepare leaves the host prepared. -/
theorem ProductionHost.Prepared.keeps {α : Type} {program : DeployProgram α}
    (issues : Issues DeployCommand.Prepares program) {before : DeploymentState}
    {host : ProductionHost} (prepared : host.Prepared before) :
    program.Ensures onHost (fun later => later.Prepared before)
      (fun _ later => later.Prepared before) host := by
  have step : ∀ command : DeployCommand, command.Prepares → ∀ host : ProductionHost,
      host.Prepared before → (command.effect host).Prepared before :=
    fun _ prepares _ held => held.effect prepares
  exact issues.keeps step prepared

/-- The ticket ingest is quiet behind a preparation, and nothing else was changed. -/
theorem ensures_prepareActivation (production : StoreState) (staging : Option StoreState)
    {before : DeploymentState} {host : ProductionHost} {record : DeployRecord}
    (prepared : host.Prepared before) (clean : ¬Unmarked record) :
    (prepareActivation production staging).Ensures onRecord (fun _ => True)
      (fun result later =>
        (Ends (fun _ host => host.switches .ingestPath = ⟨false, false⟩) (fun _ _ => True)
          result later.1 ∧ later.1.Prepared before) ∧ ¬Unmarked later.2) (host, record) := by
  have quiet : (prepareActivation production staging).Ensures onHost (fun _ => True)
      (Ends (fun _ later => later.switches .ingestPath = ⟨false, false⟩) fun _ _ => True) host := by
    apply Ensures.bind (ensures_trivial _ host) ?_ fun _ _ _ => trivial
    intro _ marked _
    apply Ensures.bind (ensures_quiesceIngest marked) ?_ fun _ _ _ => trivial
    intro _ later off
    have rest := issues_prepared (fun _ observes => observes) production staging
    exact ensures_of_reads (rest.reads later) fun _ _ => off
  have preparing : Issues DeployCommand.Prepares (prepareActivation production staging) :=
    issues_prepareActivation DeployCommand.Observes.prepares (fun _ => nofun) nofun rfl _ _
  have kept := prepared.keeps preparing
  have other : Issues (fun command => command ≠ mutationMarker)
      (prepareActivation production staging) :=
    issues_prepareActivation DeployCommand.Observes.ne_mutationMarker (fun _ => nofun) nofun
      (by decide) _ _
  have plain : (prepareActivation production staging).Ensures onHost (fun _ => True)
      (fun result later =>
        Ends (fun _ host => host.switches .ingestPath = ⟨false, false⟩) (fun _ _ => True)
          result later ∧ later.Prepared before) host :=
    (quiet.and kept).mono (fun _ _ => trivial) fun _ _ both => both
  exact ensures_clean other plain clean

/-- The restoration of a preparation puts the path unit back. -/
theorem ensures_restorePreparation {before : DeploymentState} {host : ProductionHost}
    {record : DeployRecord} (prepared : host.Prepared before) (clean : ¬Unmarked record) :
    Program.Ensures onRecord (fun _ => True)
      (fun result later =>
        Ends (fun _ host => host.IsAt before) (fun _ _ => True) result later.1 ∧
          ¬Unmarked later.2)
      (do
        setIngestPathState before.ingestPathState.switches
        waitForIngestIdle platform.preparedIdleRounds) (host, record) := by
  let restoration : DeployProgram Unit := do
    setIngestPathState before.ingestPathState.switches
    waitForIngestIdle platform.preparedIdleRounds
  have issues : ∀ {allowed : DeployCommand → Prop},
      (∀ command : DeployCommand, command.Observes → allowed command) →
      (∀ verb, allowed (.systemctl verb .ingestPath)) → Issues allowed restoration := by
    intro allowed observing switching
    apply Uses.bind (issues_setIngestPathState observing _ switching)
    intro _
    exact issues_waitForIngestIdle observing _
  have back : restoration.Ensures onHost (fun _ => True)
      (Ends (fun _ later => later.switches .ingestPath = before.ingestPathState.switches)
        fun _ _ => True) host := by
    apply Ensures.bind (ensures_setIngestPathState _ host) ?_ fun _ _ _ => trivial
    intro _ later switched
    have idle := issues_waitForIngestIdle (fun _ observes => observes)
      platform.preparedIdleRounds
    exact ensures_of_reads (idle.reads later) fun _ _ => switched
  have kept := prepared.keeps (issues DeployCommand.Observes.prepares fun _ => nofun)
  have other := issues DeployCommand.Observes.ne_mutationMarker fun _ => nofun
  have plain : restoration.Ensures onHost (fun _ => True)
      (fun result later =>
        Ends (fun _ later => later.switches .ingestPath = before.ingestPathState.switches)
          (fun _ _ => True) result later ∧ later.Prepared before) host :=
    (back.and kept).mono (fun _ _ => trivial) fun _ _ both => both
  apply ensures_clean other (plain.weaken ?_) clean
  intro result later both
  cases result with
  | ok _ => exact ProductionHost.IsAt.of_withPath both.2.others both.1
  | error fault => exact trivial

/-! ## The whole operation -/

/-- How an operation ends whose restoration, where there is one, succeeds: at the target; or where
the marker in front of the mutation was not written, with the ticket ingest quiet; or else at the
deployment of before. -/
def Concluded {α : Type} (target : TargetInfo) (before : DeploymentState) :
    Except DeployFault α → ProductionHost × DeployRecord → Prop :=
  Ends (fun _ later => later.1.IsAt target.deployment ∧ later.1.Marked .complete ∧
      ¬Unmarked later.2)
    fun _ later => RestoreFailed later.2 ∨
      (Unmarked later.2 ∧ (later.1.withPath before).IsAt before ∧
        later.1.switches .ingestPath = ⟨false, false⟩ ∧
        ∀ status, later.1.Marked status →
          status = .preparationStarting ∨ status = .mutationStarting) ∨
      (¬Unmarked later.2 ∧ later.1.IsAt before ∧ ¬later.1.Marked .complete)

/-- A marker has one status. -/
theorem ProductionHost.Marked.unique {host : ProductionHost} {status other : RecoveryStatus}
    (first : host.Marked status) (second : host.Marked other) : status = other := by
  obtain ⟨errorType, marker⟩ := first
  obtain ⟨otherType, same⟩ := second
  rw [marker] at same
  exact congrArg RecoveryMarker.status (Option.some.inj same)

/-- How `_activate` ends behind a preparation. -/
theorem ensures_activate (target : TargetInfo) {before : DeploymentState} (expected : StoreState)
    {host : ProductionHost} {record : DeployRecord} (prepared : host.Prepared before)
    (off : host.switches .ingestPath = ⟨false, false⟩) (clean : ¬Unmarked record) :
    (activate platform target before expected).Ensures onRecord (fun _ => True)
      (Concluded target before) (host, record) := by
  apply Ensures.bind (ensures_mark ⟨none, .mutationStarting⟩ host record)
  · rintro _ ⟨marked, later⟩ ⟨_, written⟩
    have cleanLater : ¬Unmarked later := by
      rintro ⟨failure, member⟩
      rw [show later = _ from written] at member
      rcases List.mem_append.mp member with earlier | last
      · exact clean ⟨failure, earlier⟩
      · have same := List.mem_singleton.mp last
        injection same with _ reply
        cases reply
    have other : Issues (fun command => command ≠ mutationMarker)
        (mutate platform target before expected) := by
      apply issues_mutate
      · exact fun command ordinary => ordinary _
      · decide
    apply Program.ensures_handle.mpr
    apply (ensures_clean other (ensures_mutate target before expected marked) cleanLater).weaken
    rintro result ⟨mutated, record⟩ ⟨ends, clean⟩
    cases result with
    | ok _ => exact ⟨ends.1, ⟨none, ends.2⟩, clean⟩
    | error original =>
      have restores : Issues (fun command => command ≠ mutationMarker)
          (restoreTransaction platform before expected) := by
        apply issues_restoreTransaction
        exact fun command ordinary => ordinary _
      have restored := ensures_clean restores
        (ensures_restoreTransaction before expected mutated) clean
      apply Ensures.bind (ensures_restoring (by decide) restored)
      · rintro _ later ⟨isAt, marked, clean⟩
        refine Or.inr (Or.inr ⟨clean, isAt, fun complete => ?_⟩)
        exact absurd (marked.unique complete) (by decide)
      · exact fun _ _ failed => Or.inl failed
  · rintro fault ⟨later, record'⟩ ⟨either, failure, written⟩
    refine Or.inr (Or.inl ⟨⟨failure, ?_⟩, ?_, ?_, ?_⟩)
    · rw [show record' = _ from written]
      exact List.mem_append_right _ List.mem_cons_self
    · rcases either with same | marked
      · rw [show later = host from same]
        exact prepared.others
      · rw [show later = _ from marked]
        exact prepared.others.mark _
    · rcases either with same | marked
      · rw [show later = host from same]
        exact off
      · rw [show later = _ from marked]
        exact off
    · rintro status ⟨errorType, marker⟩
      rcases either with same | marked
      · rw [show later = host from same] at marker
        exact Or.inl (prepared.undecided _ marker)
      · rw [show later = _ from marked] at marker
        exact Or.inr (congrArg RecoveryMarker.status (Option.some.inj marker)).symm

/-- The host is at the deployment of before, without a marker. -/
def Untouched (before : DeploymentState) (later : ProductionHost × DeployRecord) : Prop :=
  later.1.IsAt before ∧ later.1.marker = none ∧ ¬Unmarked later.2

/-- The first steps of an operation leave the host. -/
theorem Untouched.ensures {before : DeploymentState} {command : DeployCommand}
    (either : command = .newBackupDirectory ∨ command.Observes)
    {later : ProductionHost × DeployRecord} (untouched : Untouched before later) :
    command.perform.Ensures onRecord (fun _ => True) (fun _ later => Untouched before later)
      later := by
  have step : ∀ host : ProductionHost, host.IsAt before ∧ host.marker = none →
      (command.effect host).IsAt before ∧ (command.effect host).marker = none := by
    intro host both
    rcases either with first | observes
    · rw [first]
      have isAt := both.1
      exact ⟨⟨isAt.releaseLink, isAt.venvLink, isAt.unit, isAt.ingestServiceUnit,
        isAt.ingestPathUnit, isAt.service, isAt.ingestPath⟩, rfl⟩
    · rw [observes.effect host]
      exact both
  have other : command ≠ mutationMarker := by
    rcases either with first | observes
    · rw [first]
      decide
    · exact observes.ne_mutationMarker
  have kept : command.perform.Ensures onHost
      (fun host => host.IsAt before ∧ host.marker = none)
      (fun _ host => host.IsAt before ∧ host.marker = none) later.1 := by
    have issues : Issues (fun other => other = command) command.perform := issues_perform rfl
    apply issues.keeps ?_ ⟨untouched.1, untouched.2.1⟩
    rintro _ rfl host both
    exact step host both
  have issues : Issues (fun command => command ≠ mutationMarker) command.perform :=
    issues_perform other
  apply (ensures_clean issues (kept.mono (fun _ _ => trivial) fun _ _ both => both)
    untouched.2.2).weaken
  exact fun _ _ both => ⟨both.1.1, both.1.2, both.2⟩

/-- How `_apply_operation` ends. -/
theorem ensures_applyOperation (action : String) (target : TargetInfo) {before : DeploymentState}
    (production : StoreState) (staging : Option StoreState)
    {later : ProductionHost × DeployRecord} (untouched : Untouched before later) :
    (applyOperation platform action target before production staging).Ensures onRecord
      (fun _ => True) (Concluded target before) later := by
  -- An operation that ends before it prepares leaves the host.
  have left : ∀ (fault : DeployFault) (later : ProductionHost × DeployRecord),
      Untouched before later → Concluded target before
        (.error fault : Except DeployFault ApplyResult) later := by
    intro fault later untouched
    refine Or.inr (Or.inr ⟨untouched.2.2, untouched.1, fun complete => ?_⟩)
    obtain ⟨errorType, marker⟩ := complete
    rw [untouched.2.1] at marker
    cases marker
  apply Ensures.bind (untouched.ensures (Or.inl rfl)) ?_ left
  intro _ fresh untouched
  have observes : DeployCommand.recordBeforeState.Observes := trivial
  apply Ensures.bind (untouched.ensures (Or.inr observes)) ?_ left
  rintro _ ⟨host, record⟩ ⟨isAt, noMarker, clean⟩
  have prepared : host.Prepared before := by
    refine ⟨isAt.withPath, fun marker same => ?_⟩
    rw [show host.marker = none from noMarker] at same
    cases same
  apply ensures_bind.mpr
  apply Program.ensures_handle.mpr
  apply (ensures_prepareActivation production staging prepared clean).weaken
  rintro result ⟨host, record⟩ ⟨⟨off, prepared⟩, clean⟩
  cases result with
  | ok ready =>
    apply Ensures.bind (ensures_activate target ready.1 prepared off clean)
    · exact fun _ _ concluded => concluded
    · exact fun _ _ concluded => concluded
  | error original =>
    apply Ensures.bind
      (ensures_restoring (by decide) (ensures_restorePreparation prepared clean))
    · rintro _ later ⟨isAt, marked, clean⟩
      refine Or.inr (Or.inr ⟨clean, isAt, fun complete => ?_⟩)
      exact absurd (marked.unique complete) (by decide)
    · exact fun _ _ failed => Or.inl failed

/-- An operation that ends is all or nothing. -/
structure AllOrNothing {α : Type} (target : TargetInfo) (before : DeploymentState)
    (ended : Except DeployFault α) (later : ProductionHost) : Prop where
  returned : ∀ value, ended = .ok value → later.IsAt target.deployment
  raised : ∀ fault, ended = .error fault → later.IsAt before
  complete : later.Marked .complete → later.IsAt target.deployment
  rolledBack : later.Marked .rolledBack → later.IsAt before
  runtimeRestored : later.Marked .preparationFailedRuntimeRestored → later.IsAt before

/-- An operation that is concluded is all or nothing unless the ticket ingest stays quiet. -/
theorem Concluded.allOrNothing_iff {α : Type} {target : TargetInfo} {before : DeploymentState}
    {ended : Except DeployFault α} {later : ProductionHost} {record : DeployRecord}
    (concluded : Concluded target before ended (later, record))
    (restored : ¬RestoreFailed record) :
    AllOrNothing target before ended later ↔
      (Unmarked record → before.ingestPathState.switches = ⟨false, false⟩) := by
  cases ended with
  | ok value =>
    obtain ⟨isAt, marked, clean⟩ := concluded
    refine iff_of_true ⟨fun _ _ => isAt, nofun, fun _ => isAt, fun other => ?_, fun other => ?_⟩
      fun unmarked => absurd unmarked clean
    · exact absurd (marked.unique other) (by decide)
    · exact absurd (marked.unique other) (by decide)
  | error fault =>
    rcases concluded with failed | ⟨unmarked, others, off, statuses⟩ | ⟨clean, isAt, incomplete⟩
    · exact absurd failed restored
    · refine ⟨fun holds _ => ?_, fun quiet => ?_⟩
      · have path := (holds.raised fault rfl).ingestPath
        exact path.symm.trans off
      · have isAt : later.IsAt before :=
          ProductionHost.IsAt.of_withPath others (off.trans (quiet unmarked).symm)
        refine ⟨nofun, fun _ _ => isAt, fun complete => ?_, fun _ => isAt, fun _ => isAt⟩
        rcases statuses _ complete with impossible | impossible <;> cases impossible
    · exact iff_of_true ⟨nofun, fun _ _ => isAt, fun complete => absurd complete incomplete,
        fun _ => isAt, fun _ => isAt⟩ fun unmarked => absurd unmarked clean

/-! ## A host -/

/-- A platform that accepts all unit files. -/
def plantPlatform : DeployPlatform where
  sha256Text := fun content => String.ofList content
  productionUnitProblem := fun _ => none
  ingestUnitsProblem := fun _ _ => none
  healthRounds := 1
  readinessRounds := 1
  finalReadinessRounds := 1
  idleRounds := 1
  preparedIdleRounds := 1

/-- The deployment of a first release, whose ticket ingest is enabled and active. -/
def plantDeployment : DeploymentState where
  releaseLink := some "releases/1"
  venvLink := some "venvs/1"
  unit := some ['1']
  service := ⟨⟨true, true⟩, 7, 0, "success"⟩
  ingestServiceUnit := some ['s']
  ingestPathUnit := some ['p']
  ingestPathState := ⟨⟨true, true⟩, 0, 0, "success"⟩

/-- The host of the first release. -/
def plantHost : ProductionHost where
  link := fun link => match link with
    | .release => some "releases/1"
    | .venv => some "venvs/1"
  unitFile := fun unit => match unit with
    | .service => some ['1']
    | .ingestService => some ['s']
    | .ingestPath => some ['p']
  switches := fun unit => match unit with
    | .ingestService => ⟨false, false⟩
    | _ => ⟨true, true⟩
  marker := none

/-- A second release. -/
def plantTarget : TargetInfo where
  releaseId := "2"
  release := "releases/2"
  venv := "venvs/2"
  unitBytes := ['2']
  unitSha256 := "2"
  ingestServiceBytes := ['s']
  ingestServiceSha256 := "s"
  ingestPathBytes := ['p']
  ingestPathSha256 := "p"

/-- The snapshot store of the host. -/
def plantStore : StoreState := ⟨"a", "b", "c", ['m'], "fresh", 60⟩

/-- A step of the host that is carried out. -/
def plantSuccess : DeployOutcome := .success ⟨7, 0, "success", false, plantStore, true⟩

/-- The second release is deployed. -/
def plantRun (outcomes : List DeployOutcome) :=
  (applyOperation plantPlatform "deploy" plantTarget plantDeployment plantStore none).run onRecord
    outcomes (plantHost, [])

/-- The host is at the first release. -/
theorem plantHost_isAt : plantHost.IsAt plantDeployment := ⟨rfl, rfl, rfl, rfl, rfl, rfl, rfl⟩

/-- A step that marks a restoration as failed. -/
def DeployCommand.marksFailure : DeployCommand → Bool
  | writeMarker marker => decide (marker.status = .restoreFailed)
  | _ => false

/-- No restoration failed where no step marks it. -/
theorem not_restoreFailed {record : DeployRecord}
    (none : record.all (fun event => !event.1.marksFailure) = true) : ¬RestoreFailed record := by
  rintro ⟨marker, reply, status, member⟩
  have unmarked := List.all_eq_true.mp none _ member
  simp [DeployCommand.marksFailure, status] at unmarked

/-- The reply to a step is a failure. -/
def DeployReply.isFailed {α : Type} : DeployReply α → Bool
  | answered _ => false
  | failed _ => true

/-- The marker was written where no step of it failed. -/
theorem not_unmarked {record : DeployRecord}
    (none : record.all (fun event => !(decide (event.1 = mutationMarker) && event.2.isFailed)) =
      true) : ¬Unmarked record := by
  rintro ⟨failure, member⟩
  have written := List.all_eq_true.mp none _ member
  simp [DeployReply.isFailed] at written

/-- An operation that raised. -/
def hasRaised : Option (Except DeployFault ApplyResult) → Bool
  | some (.error _) => true
  | _ => false

/-- It ended with a fault. -/
theorem exists_of_hasRaised {ended : Option (Except DeployFault ApplyResult)}
    (raised : hasRaised ended = true) : ∃ fault, ended = some (.error fault) := by
  match ended, raised with
  | some (.error fault), _ => exact ⟨fault, rfl⟩

/-- An operation that starts from the deployment that it captured and ends without a failed
restoration is all or nothing exactly where the marker in front of `mutation_started` was written,
or the ticket ingest was off before. -/
theorem activation_all_or_nothing_iff (platform : DeployPlatform) (action : String)
    (target : TargetInfo) (before : DeploymentState) (production : StoreState)
    (staging : Option StoreState) (initial later : ProductionHost) (record : DeployRecord)
    (outcomes left : List DeployOutcome) (ended : Except DeployFault ApplyResult)
    (isAt : initial.IsAt before) (fresh : initial.marker = none)
    (ran : (applyOperation platform action target before production staging).run onRecord outcomes
      (initial, []) = (some ended, left, later, record))
    (restored : ¬RestoreFailed record) :
    AllOrNothing target before ended later ↔
      (Unmarked record → before.ingestPathState.switches = ⟨false, false⟩) := by
  have untouched : Untouched before (initial, []) := by
    refine ⟨isAt, fresh, ?_⟩
    rintro ⟨_, impossible⟩
    cases impossible
  have concluded := Ensures.ends ran
    (ensures_applyOperation action target production staging untouched)
  exact concluded.allOrNothing_iff restored

/-- The outcomes of an operation that fails behind its switch of the link of the release. -/
def unswitchedOutcomes : List DeployOutcome :=
  List.replicate 19 plantSuccess ++ [.failure .osError true] ++ List.replicate 40 plantSuccess

/-- The switch of a link fails though it is carried out, and the first release is back. -/
theorem activation_all_or_nothing_unswitched : ∃ fault left later record,
    plantRun unswitchedOutcomes = (some (.error fault), left, later, record) ∧
      (AllOrNothing plantTarget plantDeployment
          (.error fault : Except DeployFault ApplyResult) later ↔
        (Unmarked record → plantDeployment.ingestPathState.switches = ⟨false, false⟩)) ∧
      ¬Unmarked record := by
  have raised : hasRaised (plantRun unswitchedOutcomes).1 = true := by decide
  have restored : ¬RestoreFailed (plantRun unswitchedOutcomes).2.2.2 :=
    not_restoreFailed (by decide)
  have marked : ¬Unmarked (plantRun unswitchedOutcomes).2.2.2 := not_unmarked (by decide)
  generalize ran : plantRun unswitchedOutcomes = result at raised restored marked
  obtain ⟨ended, left, later, record⟩ := result
  obtain ⟨fault, rfl⟩ := exists_of_hasRaised raised
  refine ⟨fault, left, later, record, rfl, ?_, marked⟩
  exact activation_all_or_nothing_iff _ _ _ _ _ _ _ _ _ _ _ _ plantHost_isAt rfl ran restored

/-- The outcomes of an operation that fails to write the marker in front of `mutation_started`. -/
def unmarkedOutcomes : List DeployOutcome :=
  List.replicate 12 plantSuccess ++ [.failure .osError false]

/-- The marker in front of `mutation_started` is not written, and the ticket ingest stays disabled
and stopped. -/
theorem activation_not_all_or_nothing :
    plantHost.IsAt plantDeployment ∧ plantHost.marker = none ∧
      ¬RestoreFailed (plantRun unmarkedOutcomes).2.2.2 ∧
      hasRaised (plantRun unmarkedOutcomes).1 = true ∧
      ¬(plantRun unmarkedOutcomes).2.2.1.IsAt plantDeployment := by
  refine ⟨plantHost_isAt, rfl, ?_, ?_, fun isAt => ?_⟩
  · exact not_restoreFailed (by decide)
  · decide
  · have path : (plantRun unmarkedOutcomes).2.2.1.switches .ingestPath ≠ ⟨true, true⟩ := by
      decide
    exact path isAt.ingestPath

end DTLab
