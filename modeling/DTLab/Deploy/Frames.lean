import DTLab.Deploy.Activation

/-!
# What the steps of an activation leave alone

A step that only observes changes nothing. For each function of the activation: which steps it
takes. For those that read: what they tell of the host.
-/

namespace DTLab

open Library (Text Program)
open Library.Program (Uses OnlyRaises Ensures Reads Ends reads_lift reads_returned reads_raised
  uses_lift)

/-! ## Steps -/

namespace DeployCommand

/-- A step that only observes. -/
def Observes : DeployCommand → Prop
  | systemctl _ _ | replaceLink _ _ | unlinkLink _ | writeUnit _ _ | removeUnit _ => False
  | writeMarker _ | newBackupDirectory => False
  | _ => True

/-- A step that observes changes nothing. -/
theorem Observes.effect {command : DeployCommand} (observes : command.Observes)
    (host : ProductionHost) : command.effect host = host := by
  cases command <;> first | rfl | exact absurd observes not_false

/-- A step that leaves the links and the unit files. -/
def LeavesFiles : DeployCommand → Prop
  | replaceLink _ _ | unlinkLink _ | writeUnit _ _ | removeUnit _ => False
  | _ => True

/-- Links and unit files are as before. -/
theorem LeavesFiles.effect {command : DeployCommand} (leaves : command.LeavesFiles)
    (host : ProductionHost) :
    (command.effect host).link = host.link ∧ (command.effect host).unitFile = host.unitFile := by
  cases command <;> first | exact ⟨rfl, rfl⟩ | exact absurd leaves not_false

end DeployCommand

/-- The host behind a step is that of before or the one behind its effect. -/
theorem ProductionHost.respond_host (outcome : DeployOutcome) (command : DeployCommand)
    (host : ProductionHost) :
    (host.respond outcome command).2 = host ∨
      (host.respond outcome command).2 = command.effect host := by
  cases outcome with
  | success surroundings => exact Or.inr rfl
  | failure failure carriedOut =>
    cases carriedOut
    · exact Or.inl rfl
    · exact Or.inr rfl

/-! ## Functions -/

/-- A program whose steps are among those that are allowed. -/
abbrev Issues {α : Type} (allowed : DeployCommand → Prop) (program : DeployProgram α) : Prop :=
  program.Uses allowed (OnlyRaises fun _ => True)

/-- What every allowed step keeps, the program keeps. -/
theorem Issues.keeps {α : Type} {allowed : DeployCommand → Prop} {program : DeployProgram α}
    (issues : Issues allowed program) {holds : ProductionHost → Prop}
    (keeps : ∀ command, allowed command → ∀ host, holds host → holds (command.effect host))
    {host : ProductionHost} (start : holds host) :
    program.Ensures ProductionHost.respond holds (fun _ later => holds later) host := by
  have kept := issues.ensures ProductionHost.respond holds ?_ start
  · exact kept.weaken fun _ _ both => both.2
  · intro command permitted outcome before held
    rcases before.respond_host outcome command with same | done
    · rw [same]
      exact held
    · rw [done]
      exact keeps command permitted before held

section Functions

variable {allowed : DeployCommand → Prop} {platform : DeployPlatform}

/-- A command issues itself. -/
theorem issues_perform {command : DeployCommand} (permitted : allowed command) :
    Issues allowed command.perform := by
  refine ⟨permitted, fun reply => ?_⟩
  rcases reply with answer | (_ | _ | fault) <;> exact trivial

/-- `_run_systemctl` issues its command. -/
theorem issues_runSystemctl {command : DeployCommand} (permitted : allowed command)
    (check : Bool) : Issues allowed (runSystemctl command check) := by
  refine ⟨permitted, fun reply => ?_⟩
  rcases reply with answer | (_ | _ | fault)
  · exact trivial
  · cases check <;> exact trivial
  · exact trivial
  · exact trivial

/-- A check issues nothing. -/
theorem issues_expect (condition : Bool) (message : String) :
    Issues allowed (expect condition message) := by
  cases condition <;> exact trivial

/-- An error issues nothing. -/
theorem issues_raiseProblem (problem : Option String) : Issues allowed (raiseProblem problem) := by
  cases problem <;> exact trivial

/-- `_write_recovery_marker` issues the writing of the marker. -/
theorem issues_writeRecoveryMarker {status : RecoveryStatus} {error : Option DeployFault}
    (permitted : allowed (.writeMarker ⟨error.map DeployFault.typeName, status⟩)) :
    Issues allowed (writeRecoveryMarker status error) :=
  issues_perform permitted

/-! ### Observing -/

section Observing

variable (observing : ∀ command : DeployCommand, command.Observes → allowed command)

include observing

/-- `_capture_named_service` observes. -/
theorem issues_captureNamedService (unit : ProductionUnit) :
    Issues allowed (captureNamedService unit) := by
  refine ⟨observing _ trivial, fun reply => ?_⟩
  rcases reply with answer | (_ | _ | fault) <;> exact trivial

/-- `_capture_link` observes. -/
theorem issues_captureLink (link : ProductionLink) : Issues allowed (captureLink link) :=
  issues_perform (observing (.captureLink link) trivial)

/-- `_capture_raw_unit` observes. -/
theorem issues_captureRawUnit (unit : ProductionUnit) : Issues allowed (captureRawUnit unit) :=
  issues_perform (observing (.captureUnit unit) trivial)

/-- `_inspect_store` observes. -/
theorem issues_inspectStore : Issues allowed inspectStore :=
  issues_perform (observing .inspectStore trivial)

/-- `_inspect_ticket_state` observes. -/
theorem issues_inspectTicketState : Issues allowed inspectTicketState :=
  issues_perform (observing .inspectTicketState trivial)

/-- `_http_health_ok` observes. -/
theorem issues_httpHealthOk : Issues allowed httpHealthOk := by
  refine ⟨observing _ trivial, fun reply => ?_⟩
  rcases reply with answer | (_ | _ | fault) <;> exact trivial

/-- `_ticket_snapshot_ingested` observes. -/
theorem issues_ticketSnapshotIngested (sha256 : String) :
    Issues allowed (ticketSnapshotIngested sha256) := by
  refine ⟨observing _ trivial, fun reply => ?_⟩
  rcases reply with answer | (_ | _ | fault) <;> exact trivial

/-- `_capture_unit` observes. -/
theorem issues_captureUnit : Issues allowed (captureUnit platform) := by
  apply Uses.bind (issues_captureRawUnit observing _)
  intro content
  apply Uses.bind (issues_raiseProblem _)
  exact fun _ => trivial

/-- `_capture_deployment` observes. -/
theorem issues_captureDeployment : Issues allowed (captureDeployment platform) := by
  apply Uses.bind (issues_captureRawUnit observing _)
  intro ingestServiceUnit
  apply Uses.bind (issues_captureRawUnit observing _)
  intro ingestPathUnit
  apply Uses.bind (issues_expect _ _)
  intro _
  apply Uses.bind (issues_raiseProblem _)
  intro _
  apply Uses.bind (issues_captureNamedService observing _)
  intro ingestPathState
  apply Uses.bind (issues_captureNamedService observing _)
  intro ingestServiceState
  apply Uses.bind (issues_expect _ _)
  intro _
  apply Uses.bind (issues_expect _ _)
  intro _
  apply Uses.bind (issues_captureLink observing _)
  intro releaseLink
  apply Uses.bind (issues_captureLink observing _)
  intro venvLink
  apply Uses.bind (issues_captureUnit observing)
  intro unit
  apply Uses.bind (issues_captureNamedService observing _)
  exact fun _ => trivial

/-- Every round of `_wait_for_health` observes. -/
theorem issues_waitForHealth (lastError : String) (rounds : Nat) :
    Issues allowed (waitForHealth lastError rounds) := by
  induction rounds generalizing lastError with
  | zero => exact trivial
  | succ rounds ih =>
    apply Uses.bind (issues_httpHealthOk observing)
    intro healthy
    split_ifs
    · exact trivial
    · exact ih _

/-- A round of `_wait_for_active_readiness` observes. -/
theorem issues_activeReadiness (target : TargetInfo) (expected : StoreState) :
    Issues allowed (activeReadiness platform target expected) := by
  apply Uses.bind (issues_captureNamedService observing _)
  intro service
  apply Uses.bind (issues_expect _ _)
  intro _
  apply Uses.bind (issues_captureLink observing _)
  intro releaseLink
  apply Uses.bind (issues_captureLink observing _)
  intro venvLink
  apply Uses.bind (issues_captureUnit observing)
  intro unit
  apply Uses.bind (issues_expect _ _)
  intro _
  apply Uses.bind (issues_inspectStore observing)
  intro data
  apply Uses.bind (issues_expect _ _)
  intro _
  apply Uses.bind (issues_inspectTicketState observing)
  intro _
  apply Uses.bind (issues_httpHealthOk observing)
  intro healthy
  exact issues_expect _ _

/-- Every round of `_wait_for_active_readiness` observes. -/
theorem issues_waitForActiveReadiness (target : TargetInfo) (expected : StoreState)
    (lastError : String) (rounds : Nat) :
    Issues allowed (waitForActiveReadiness platform target expected lastError rounds) := by
  induction rounds generalizing lastError with
  | zero => exact trivial
  | succ rounds ih =>
    apply Program.uses_bind.mpr
    apply Program.uses_attempt.mpr
    apply (issues_activeReadiness observing target expected).weaken
    intro result _
    rcases result with (message | name) | _
    · exact ih message
    · exact trivial
    · exact trivial

/-- Every round of `_wait_for_ingest_idle` observes. -/
theorem issues_waitForIngestIdle (rounds : Nat) : Issues allowed (waitForIngestIdle rounds) := by
  induction rounds with
  | zero => exact trivial
  | succ rounds ih =>
    apply Uses.bind (issues_captureNamedService observing _)
    intro state
    split_ifs
    · exact ih
    · exact issues_expect _ _

/-- `_verify_ingest_readiness` observes. -/
theorem issues_verifyIngestReadiness (target : TargetInfo) (snapshotSha256 : String) :
    Issues allowed (verifyIngestReadiness platform target snapshotSha256) := by
  apply Uses.bind (issues_captureRawUnit observing _)
  intro serviceUnit
  apply Uses.bind (issues_captureRawUnit observing _)
  intro pathUnit
  apply Uses.bind (issues_captureNamedService observing _)
  intro pathState
  split_ifs
  · exact issues_expect _ _
  · apply Uses.bind (issues_expect _ _)
    intro _
    apply Uses.bind (issues_ticketSnapshotIngested observing _)
    intro ingested
    exact issues_expect _ _

/-- `_run_initial_ingest` starts the ingest service. -/
theorem issues_runInitialIngest (snapshotSha256 : String)
    (starting : allowed (.systemctl .start .ingestService)) :
    Issues allowed (runInitialIngest snapshotSha256) := by
  apply Uses.bind (issues_runSystemctl starting _)
  intro _
  apply Uses.bind (issues_captureNamedService observing _)
  intro state
  apply Uses.bind (issues_expect _ _)
  intro _
  apply Uses.bind (issues_inspectTicketState observing)
  intro _
  apply Uses.bind (issues_ticketSnapshotIngested observing _)
  intro ingested
  exact issues_expect _ _

/-- `_set_ingest_path_state` switches the ingest path. -/
theorem issues_setIngestPathState (wanted : UnitSwitches)
    (switching : ∀ verb, allowed (.systemctl verb .ingestPath)) :
    Issues allowed (setIngestPathState wanted) := by
  apply Uses.bind
  · split_ifs
    · exact issues_runSystemctl (switching _) _
    · exact issues_runSystemctl (switching _) _
  intro _
  apply Uses.bind
  · split_ifs
    · exact issues_runSystemctl (switching _) _
    · exact issues_runSystemctl (switching _) _
  intro _
  apply Uses.bind (issues_captureNamedService observing _)
  intro final
  exact issues_expect _ _

/-- `_quiesce_ingest` switches the ingest path and stops the ingest service. -/
theorem issues_quiesceIngest (switching : ∀ verb, allowed (.systemctl verb .ingestPath))
    (stopping : allowed (.systemctl .stop .ingestService)) : Issues allowed quiesceIngest := by
  apply Uses.bind (issues_runSystemctl (switching _) _)
  intro _
  apply Uses.bind (issues_runSystemctl (switching _) _)
  intro _
  apply Uses.bind (issues_runSystemctl stopping _)
  intro _
  apply Uses.bind (issues_captureNamedService observing _)
  intro pathState
  apply Uses.bind (issues_captureNamedService observing _)
  intro serviceState
  exact issues_expect _ _

end Observing

/-! ### Changing -/

section Changing

variable (ordinary : ∀ command : DeployCommand, (∀ marker, command ≠ .writeMarker marker) →
  allowed command)

include ordinary

/-- A command that observes writes no marker. -/
theorem issues_changing_observing (command : DeployCommand) (observes : command.Observes) :
    allowed command := by
  apply ordinary
  rintro marker rfl
  exact observes

/-- `_switch_link` changes a link. -/
theorem issues_switchLink (link : ProductionLink) (target : String) :
    Issues allowed (switchLink link target) := by
  apply Uses.bind (issues_captureLink (issues_changing_observing ordinary) link)
  intro current
  split_ifs
  · exact trivial
  · exact issues_perform (ordinary _ nofun)

/-- `_restore_link` changes a link. -/
theorem issues_restoreLink (link : ProductionLink) (previous : Option String) :
    Issues allowed (restoreLink link previous) := by
  cases previous with
  | some target => exact issues_switchLink ordinary link target
  | none =>
    apply Uses.bind (issues_captureLink (issues_changing_observing ordinary) link)
    intro current
    split_ifs
    · exact issues_perform (ordinary _ nofun)
    · exact trivial

/-- `_install_raw_unit` changes a unit file. -/
theorem issues_installRawUnit (unit : ProductionUnit) (content : Text) :
    Issues allowed (installRawUnit unit content) :=
  issues_perform (ordinary (.writeUnit unit content) nofun)

/-- `_remove_raw_unit` changes a unit file. -/
theorem issues_removeRawUnit (unit : ProductionUnit) : Issues allowed (removeRawUnit unit) :=
  issues_perform (ordinary (.removeUnit unit) nofun)

/-- `_install_unit` changes a unit file. -/
theorem issues_installUnit (content : Text) : Issues allowed (installUnit platform content) := by
  apply Uses.bind (issues_raiseProblem _)
  intro _
  exact issues_installRawUnit ordinary _ _

/-- `_restore_unit` changes a unit file. -/
theorem issues_restoreUnit (previous : Option Text) :
    Issues allowed (restoreUnit platform previous) := by
  cases previous with
  | some content => exact issues_installUnit ordinary content
  | none => exact issues_removeRawUnit ordinary _

/-- `_restore_raw_unit` changes a unit file. -/
theorem issues_restoreRawUnit (unit : ProductionUnit) (previous : Option Text) :
    Issues allowed (restoreRawUnit unit previous) := by
  cases previous with
  | some content => exact issues_installRawUnit ordinary unit content
  | none => exact issues_removeRawUnit ordinary unit

/-- `_install_ingest_units` changes unit files. -/
theorem issues_installIngestUnits (target : TargetInfo) :
    Issues allowed (installIngestUnits platform target) := by
  rw [installIngestUnits]
  split_ifs
  · apply Uses.bind (issues_raiseProblem _)
    intro _
    apply Uses.bind (issues_installRawUnit ordinary _ _)
    intro _
    exact issues_installRawUnit ordinary _ _
  · apply Uses.bind (issues_removeRawUnit ordinary _)
    intro _
    exact issues_removeRawUnit ordinary _

/-- `_restore_service_state` switches the service. -/
theorem issues_restoreServiceState (previous : ServiceState) :
    Issues allowed (restoreServiceState platform previous) := by
  have systemctl : ∀ verb unit check,
      Issues allowed (runSystemctl (.systemctl verb unit) check) :=
    fun verb unit check => issues_runSystemctl (ordinary (.systemctl verb unit) nofun) check
  have observing := issues_changing_observing ordinary
  apply Uses.bind (issues_runSystemctl (ordinary .daemonReload nofun) true)
  intro _
  apply Uses.bind
  · split_ifs <;> exact systemctl _ _ _
  intro _
  apply Uses.bind
  · split_ifs
    · apply Uses.bind (systemctl _ _ _)
      intro _
      exact issues_waitForHealth observing _ _
    · exact systemctl _ _ _
  intro _
  apply Uses.bind (issues_captureNamedService observing _)
  intro restored
  exact issues_expect _ _

/-- `_restore_transaction` writes no marker. -/
theorem issues_restoreTransaction (before : DeploymentState) (expected : StoreState) :
    Issues allowed (restoreTransaction platform before expected) := by
  have observing := issues_changing_observing ordinary
  apply Uses.bind (issues_quiesceIngest observing (fun _ => ordinary _ nofun) (ordinary _ nofun))
  intro _
  apply Uses.bind (issues_restoreLink ordinary _ _)
  intro _
  apply Uses.bind (issues_restoreLink ordinary _ _)
  intro _
  apply Uses.bind (issues_restoreUnit ordinary _)
  intro _
  apply Uses.bind (issues_restoreRawUnit ordinary _ _)
  intro _
  apply Uses.bind (issues_restoreRawUnit ordinary _ _)
  intro _
  apply Uses.bind (issues_restoreServiceState ordinary _)
  intro _
  apply Uses.bind (issues_setIngestPathState observing _ fun _ => ordinary _ nofun)
  intro _
  apply Uses.bind (issues_waitForIngestIdle observing _)
  intro _
  apply Uses.bind (issues_captureDeployment observing)
  intro restored
  apply Uses.bind (issues_expect _ _)
  intro _
  apply Uses.bind (issues_inspectStore observing)
  intro data
  apply Uses.bind (issues_expect _ _)
  intro _
  exact issues_inspectTicketState observing

/-- `_activate` behind its first marker writes no marker but that of its end. -/
theorem issues_mutate (target : TargetInfo) (before : DeploymentState) (expected : StoreState)
    (completing : allowed (.writeMarker ⟨none, .complete⟩)) :
    Issues allowed (mutate platform target before expected) := by
  have observing := issues_changing_observing ordinary
  have systemctl : ∀ verb unit check,
      Issues allowed (runSystemctl (.systemctl verb unit) check) :=
    fun verb unit check => issues_runSystemctl (ordinary (.systemctl verb unit) nofun) check
  apply Uses.bind (issues_quiesceIngest observing (fun _ => ordinary _ nofun) (ordinary _ nofun))
  intro _
  apply Uses.bind (issues_switchLink ordinary _ _)
  intro _
  apply Uses.bind (issues_switchLink ordinary _ _)
  intro _
  apply Uses.bind (issues_installUnit ordinary _)
  intro _
  apply Uses.bind (issues_installIngestUnits ordinary target)
  intro _
  apply Uses.bind (issues_runSystemctl (ordinary .daemonReload nofun) true)
  intro _
  apply Uses.bind
  · split_ifs
    · exact trivial
    · exact systemctl _ _ _
  intro _
  apply Uses.bind (systemctl _ _ _)
  intro _
  apply Uses.bind (issues_waitForActiveReadiness observing _ _ _ _)
  intro _
  apply Uses.bind
  · split_ifs
    · exact issues_setIngestPathState observing _ fun _ => ordinary _ nofun
    · apply Uses.bind (issues_runInitialIngest observing _ (ordinary _ nofun))
      intro _
      exact issues_setIngestPathState observing _ fun _ => ordinary _ nofun
  intro _
  apply Uses.bind (issues_verifyIngestReadiness observing _ _)
  intro _
  apply Uses.bind (issues_waitForActiveReadiness observing _ _ _ _)
  intro _
  exact issues_writeRecoveryMarker completing

end Changing

/-! ### Preparing -/

/-- `_apply_operation` observes behind the quiescence of the ticket ingest. -/
theorem issues_prepared (observing : ∀ command : DeployCommand, command.Observes → allowed command)
    (production : StoreState) (staging : Option StoreState) :
    Issues allowed (do
      DeployCommand.ensureTicketDirectory.perform
      DeployCommand.ensureManifestArchive.perform
      let ready ← inspectStore
      expect (storeIdentityMatches ready production)
        "Snapshot produzione cambiato durante il bootstrap."
      expect (staging.all fun staging => storeIdentityMatches ready staging)
        "Snapshot produzione non identico allo snapshot staging approvato."
      let hasBackup ← DeployCommand.backupDatabase.perform
      .returned (ready, hasBackup)) := by
  apply Uses.bind (issues_perform (observing .ensureTicketDirectory trivial))
  intro _
  apply Uses.bind (issues_perform (observing .ensureManifestArchive trivial))
  intro _
  apply Uses.bind (issues_inspectStore observing)
  intro ready
  apply Uses.bind (issues_expect _ _)
  intro _
  apply Uses.bind (issues_expect _ _)
  intro _
  apply Uses.bind (issues_perform (observing .backupDatabase trivial))
  exact fun _ => trivial

/-- `_apply_operation` quiesces the ticket ingest and observes. -/
theorem issues_prepareActivation (observing : ∀ command : DeployCommand, command.Observes →
      allowed command)
    (switching : ∀ verb, allowed (.systemctl verb .ingestPath))
    (stopping : allowed (.systemctl .stop .ingestService))
    (marking : allowed (.writeMarker ⟨none, .preparationStarting⟩))
    (production : StoreState) (staging : Option StoreState) :
    Issues allowed (prepareActivation production staging) := by
  apply Uses.bind (issues_writeRecoveryMarker marking)
  intro _
  apply Uses.bind (issues_quiesceIngest observing switching stopping)
  intro _
  exact issues_prepared observing production staging

end Functions

/-! ## Reading -/

/-- A program that only observes leaves the host. -/
theorem Issues.reads {α : Type} {program : DeployProgram α}
    (issues : Issues DeployCommand.Observes program) (host : ProductionHost) :
    program.Reads ProductionHost.respond host fun _ => True := by
  have same : ∀ command : DeployCommand, command.Observes → ∀ before, before = host →
      command.effect before = host :=
    fun command observes before equal => (observes.effect before).trans equal
  apply (issues.keeps same rfl).weaken
  intro result later holds
  cases result with
  | ok _ => exact ⟨holds, trivial⟩
  | error fault => exact holds

/-- A step that observes tells what it answers. -/
theorem reads_step {command : DeployCommand} (observes : command.Observes) (host : ProductionHost) :
    command.perform.Reads ProductionHost.respond host fun answer =>
      ∃ surroundings, answer = command.answer surroundings host := by
  refine ⟨rfl, fun outcome => ?_⟩
  have effect := observes.effect host
  cases outcome with
  | success surroundings => exact ⟨effect, surroundings, rfl⟩
  | failure failure carriedOut =>
    have left : (if carriedOut then command.effect host else host) = host := by
      rw [effect, ite_self]
    rcases failure with _ | _ | fault <;> exact left

/-- A link is captured as it is. -/
theorem reads_captureLink (link : ProductionLink) (host : ProductionHost) :
    (captureLink link).Reads ProductionHost.respond host fun target => target = host.link link := by
  have observes : (DeployCommand.captureLink link).Observes := trivial
  apply (reads_step observes host).weaken
  rintro target ⟨_, same⟩
  exact same

/-- A unit file is captured as it is. -/
theorem reads_captureRawUnit (unit : ProductionUnit) (host : ProductionHost) :
    (captureRawUnit unit).Reads ProductionHost.respond host fun content =>
      content = host.unitFile unit := by
  have observes : (DeployCommand.captureUnit unit).Observes := trivial
  apply (reads_step observes host).weaken
  rintro content ⟨_, same⟩
  exact same

/-- The state of a unit is captured as it is. -/
theorem reads_captureNamedService {unit : ProductionUnit} (other : unit ≠ .ingestService)
    (host : ProductionHost) :
    (captureNamedService unit).Reads ProductionHost.respond host fun state =>
      state.switches = host.switches unit := by
  refine ⟨rfl, fun outcome => ?_⟩
  cases outcome with
  | success surroundings => exact ⟨rfl, if_neg other⟩
  | failure failure carriedOut =>
    have left : (if carriedOut then host else host) = host := ite_self host
    rcases failure with _ | _ | fault <;> exact left

/-- A check tells that its condition holds. -/
theorem reads_expect (condition : Bool) (message : String) (host : ProductionHost) :
    (expect condition message).Reads ProductionHost.respond host fun _ => condition = true := by
  cases condition with
  | true => exact reads_returned rfl
  | false => exact reads_raised

/-- What `_capture_unit` reads. -/
theorem reads_captureUnit (platform : DeployPlatform) (host : ProductionHost) :
    (captureUnit platform).Reads ProductionHost.respond host fun content =>
      content = host.unitFile .service := by
  apply Reads.bind (reads_captureRawUnit .service host)
  intro content same
  apply Reads.bind ((issues_raiseProblem _).reads host)
  exact fun _ _ => reads_returned same

/-- The host has the links, the unit files and the switches of a deployment. -/
structure ProductionHost.IsAt (host : ProductionHost) (state : DeploymentState) : Prop where
  releaseLink : host.link .release = state.releaseLink
  venvLink : host.link .venv = state.venvLink
  unit : host.unitFile .service = state.unit
  ingestServiceUnit : host.unitFile .ingestService = state.ingestServiceUnit
  ingestPathUnit : host.unitFile .ingestPath = state.ingestPathUnit
  service : host.switches .service = state.service.switches
  ingestPath : host.switches .ingestPath = state.ingestPathState.switches

/-- `_capture_deployment` reads the deployment of the host. -/
theorem reads_captureDeployment (platform : DeployPlatform) (host : ProductionHost) :
    (captureDeployment platform).Reads ProductionHost.respond host host.IsAt := by
  apply Reads.bind (reads_captureRawUnit .ingestService host)
  intro ingestServiceUnit hasService
  apply Reads.bind (reads_captureRawUnit .ingestPath host)
  intro ingestPathUnit hasPath
  apply Reads.bind ((issues_expect _ _).reads host)
  intro _ _
  apply Reads.bind ((issues_raiseProblem _).reads host)
  intro _ _
  apply Reads.bind (reads_captureNamedService (by decide) host)
  intro ingestPathState pathSwitches
  apply Reads.bind ((issues_captureNamedService (fun _ observes => observes) _).reads host)
  intro ingestServiceState _
  apply Reads.bind ((issues_expect _ _).reads host)
  intro _ _
  apply Reads.bind ((issues_expect _ _).reads host)
  intro _ _
  apply Reads.bind (reads_captureLink .release host)
  intro releaseLink hasRelease
  apply Reads.bind (reads_captureLink .venv host)
  intro venvLink hasVenv
  apply Reads.bind (reads_captureUnit platform host)
  intro unit hasUnit
  apply Reads.bind (reads_captureNamedService (by decide) host)
  intro service switches
  exact reads_returned ⟨hasRelease.symm, hasVenv.symm, hasUnit.symm, hasService.symm, hasPath.symm,
    switches.symm, pathSwitches.symm⟩

/-- A host is at the deployments that are the same as one at which it is. -/
theorem ProductionHost.IsAt.of_sameAs {host : ProductionHost} {restored before : DeploymentState}
    (isAt : host.IsAt restored) (same : restored.sameAs before = true) : host.IsAt before := by
  simp only [DeploymentState.sameAs, Bool.and_eq_true, decide_eq_true_eq] at same
  obtain ⟨⟨⟨⟨⟨⟨releaseLink, venvLink⟩, unit⟩, serviceUnit⟩, pathUnit⟩, path⟩, service⟩ := same
  exact ⟨isAt.releaseLink.trans releaseLink, isAt.venvLink.trans venvLink, isAt.unit.trans unit,
    isAt.ingestServiceUnit.trans serviceUnit, isAt.ingestPathUnit.trans pathUnit,
    isAt.service.trans service, isAt.ingestPath.trans path⟩

end DTLab
