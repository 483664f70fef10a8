import DTLab.Library.Json
import DTLab.Library.Program
import Mathlib.Logic.Function.Basic

/-!
# The production host

What an activation changes on the host (the links of the release and of its environment, three unit
files, two switches of each unit, the recovery marker) and the steps that it takes: what each does
and answers, and the ways in which it may go wrong. What a step observes beyond this is chosen by
the surroundings.
-/

namespace DTLab

open Library (Text Program)

/-! ## State -/

/-- `PRODUCTION_RELEASE_LINK` and `PRODUCTION_VENV_LINK`. -/
inductive ProductionLink where
  | release
  | venv
  deriving DecidableEq

/-- `SERVICE_NAME`, `INGEST_SERVICE_NAME` and `INGEST_PATH_NAME`. -/
inductive ProductionUnit where
  | service
  | ingestService
  | ingestPath
  deriving DecidableEq

/-- Whether a unit is active and whether it is enabled. -/
structure UnitSwitches where
  active : Bool
  enabled : Bool
  deriving DecidableEq

/-- `ServiceState`. -/
structure ServiceState where
  switches : UnitSwitches
  mainPid : Int
  execMainStatus : Int
  result : String

/-- `DeploymentState`: a link has a target and a unit file a content where they exist. -/
structure DeploymentState where
  releaseLink : Option String
  venvLink : Option String
  unit : Option Text
  service : ServiceState
  ingestServiceUnit : Option Text
  ingestPathUnit : Option Text
  ingestPathState : ServiceState

/-- The status in `recovery.json`. -/
inductive RecoveryStatus where
  | preparationStarting
  | preparationFailedRuntimeRestored
  | mutationStarting
  | complete
  | rolledBack
  | restoreFailed
  deriving DecidableEq

/-- The contents of `recovery.json`. -/
structure RecoveryMarker where
  errorType : Option String
  status : RecoveryStatus
  deriving DecidableEq

/-- The parts of the host that an activation changes. -/
structure ProductionHost where
  link : ProductionLink → Option String
  unitFile : ProductionUnit → Option Text
  switches : ProductionUnit → UnitSwitches
  marker : Option RecoveryMarker

/-- `StoreState`, as far as an activation reads it. -/
structure StoreState where
  snapshotSha256 : String
  manifestSha256 : String
  snapshotId : String
  manifestBytes : Text
  freshnessPolicy : String
  snapshotAgeSeconds : Int
  deriving DecidableEq

/-- `TargetInfo`, as far as an activation reads it. -/
structure TargetInfo where
  releaseId : String
  release : String
  venv : String
  unitBytes : Text
  unitSha256 : String
  ingestServiceBytes : Text
  ingestServiceSha256 : String
  ingestPathBytes : Text
  ingestPathSha256 : String

/-! ## Steps -/

/-- The verbs of `systemctl` that change a unit. -/
inductive SystemctlVerb where
  | enable
  | disable
  | start
  | stop
  | restart
  deriving DecidableEq

/-- The steps of an activation. -/
inductive DeployCommand where
  | systemctl (verb : SystemctlVerb) (unit : ProductionUnit)
  | daemonReload
  /-- `_capture_named_service`. -/
  | captureService (unit : ProductionUnit)
  /-- `_capture_link`. -/
  | captureLink (link : ProductionLink)
  /-- A link that is made next to the path and renamed. -/
  | replaceLink (link : ProductionLink) (target : String)
  | unlinkLink (link : ProductionLink)
  /-- `_capture_raw_unit`. -/
  | captureUnit (unit : ProductionUnit)
  /-- A file that is written next to the path and renamed. -/
  | writeUnit (unit : ProductionUnit) (content : Text)
  | removeUnit (unit : ProductionUnit)
  /-- `_write_root_file` of `recovery.json`. -/
  | writeMarker (marker : RecoveryMarker)
  | newBackupDirectory
  | recordBeforeState
  | ensureTicketDirectory
  | ensureManifestArchive
  | inspectTicketState
  | inspectStore
  /-- `_backup_database`, and whether there was a database. -/
  | backupDatabase
  /-- `_ticket_snapshot_ingested`. -/
  | snapshotIngested (sha256 : String)
  /-- `_http_health_ok`. -/
  | healthOk
  deriving DecidableEq

/-- What a step answers. -/
abbrev DeployCommand.Answer : DeployCommand → Type
  | captureService _ => ServiceState
  | captureLink _ => Option String
  | captureUnit _ => Option Text
  | inspectStore => StoreState
  | backupDatabase | snapshotIngested _ | healthOk => Bool
  | _ => Unit

/-- What a step observes that the activation does not determine. -/
structure Surroundings where
  mainPid : Int
  execMainStatus : Int
  result : String
  /-- The ticket ingest is running. -/
  ingesting : Bool
  store : StoreState
  /-- The answer to a question. -/
  holds : Bool

/-- The switches of a unit behind a verb. -/
def SystemctlVerb.switch (switches : UnitSwitches) : SystemctlVerb → UnitSwitches
  | enable => { switches with enabled := true }
  | disable => { switches with enabled := false }
  | start | restart => { switches with active := true }
  | stop => { switches with active := false }

/-- The host behind a step. -/
def DeployCommand.effect (host : ProductionHost) : DeployCommand → ProductionHost
  | systemctl verb unit =>
    { host with switches := Function.update host.switches unit (verb.switch (host.switches unit)) }
  | replaceLink link target => { host with link := Function.update host.link link (some target) }
  | unlinkLink link => { host with link := Function.update host.link link none }
  | writeUnit unit content =>
    { host with unitFile := Function.update host.unitFile unit (some content) }
  | removeUnit unit => { host with unitFile := Function.update host.unitFile unit none }
  | writeMarker marker => { host with marker := some marker }
  | newBackupDirectory => { host with marker := none }
  | _ => host

/-- What a step answers that is carried out. -/
def DeployCommand.answer (surroundings : Surroundings) (host : ProductionHost) :
    (command : DeployCommand) → command.Answer
  | captureService unit =>
    { switches := if unit = .ingestService then
          { host.switches unit with active := surroundings.ingesting }
        else host.switches unit
      mainPid := surroundings.mainPid
      execMainStatus := surroundings.execMainStatus
      result := surroundings.result }
  | captureLink link => host.link link
  | captureUnit unit => host.unitFile unit
  | inspectStore => surroundings.store
  | backupDatabase => surroundings.holds
  | snapshotIngested _ => surroundings.holds
  | healthOk => surroundings.holds
  | systemctl _ _ => ()
  | daemonReload => ()
  | replaceLink _ _ => ()
  | unlinkLink _ => ()
  | writeUnit _ _ => ()
  | removeUnit _ => ()
  | writeMarker _ => ()
  | newBackupDirectory => ()
  | recordBeforeState => ()
  | ensureTicketDirectory => ()
  | ensureManifestArchive => ()
  | inspectTicketState => ()

/-- What an activation raises. -/
inductive DeployFault where
  /-- `ProductionToolError`. -/
  | tool (message : String)
  /-- Another `BaseException`. -/
  | other (typeName : String)
  deriving DecidableEq

/-- `type(error).__name__`. -/
def DeployFault.typeName : DeployFault → String
  | tool _ => "ProductionToolError"
  | other name => name

/-- An `OSError` that is not turned into another error. -/
def osError : DeployFault := .other "OSError"

/-- How a step fails. -/
inductive DeployFailure where
  /-- An exit code that is not zero. -/
  | exitCode
  /-- `OSError`, or a timeout of a process. -/
  | osError
  /-- The error of a check, or another `BaseException`. -/
  | raised (fault : DeployFault)
  deriving DecidableEq

/-- What comes back of a step. -/
inductive DeployReply (α : Type) where
  | answered (answer : α)
  | failed (failure : DeployFailure)

/-- What happens to a step: it is carried out and answers, or it fails before or after it was
carried out. -/
inductive DeployOutcome where
  | success (surroundings : Surroundings)
  | failure (failure : DeployFailure) (carriedOut : Bool)

/-- The reply to a step and the host behind it. -/
def ProductionHost.respond (outcome : DeployOutcome) (command : DeployCommand)
    (host : ProductionHost) : DeployReply command.Answer × ProductionHost :=
  match outcome with
  | .success surroundings => (.answered (command.answer surroundings host), command.effect host)
  | .failure failure carriedOut =>
    (.failed failure, if carriedOut then command.effect host else host)

/-! ## Programs -/

/-- A program of the production tool. -/
abbrev DeployProgram (α : Type) :=
  Program DeployCommand (fun command => DeployReply command.Answer) DeployFault α

/-- A step whose errors are raised as they are. -/
def DeployCommand.perform (command : DeployCommand) : DeployProgram command.Answer := do
  match ← Program.issue command with
  | .answered answer => .returned answer
  | .failed (.raised fault) => .raised fault
  | .failed _ => .raised osError

/-- A check that raises where it fails. -/
def expect (condition : Bool) (message : String) : DeployProgram Unit :=
  if condition then .returned () else .raised (.tool message)

end DTLab
