import DTLab.Deploy.Host

/-!
# The activation of a release

`_apply_operation`, `_activate` and `_restore_transaction` with what they call. A flag of the
source that says how far a `try` block has come is the place at which its handler begins. A loop
that waits ends behind a number of rounds.
-/

namespace DTLab

open Library (Text Program)

/-- What the tool takes from its surroundings. -/
structure DeployPlatform where
  sha256Text : Text → String
  /-- The error of `_validate_production_unit`. -/
  productionUnitProblem : Text → Option String
  /-- The error of `_validate_ingest_units`. -/
  ingestUnitsProblem : Text → Text → Option String
  /-- The rounds of `_wait_for_health` in `_restore_service_state`. -/
  healthRounds : Nat
  /-- The rounds of the two calls of `_wait_for_active_readiness`. -/
  readinessRounds : Nat
  finalReadinessRounds : Nat
  /-- The rounds of `_wait_for_ingest_idle` in `_restore_transaction`, and behind a preparation. -/
  idleRounds : Nat
  preparedIdleRounds : Nat

/-- An error that a validation found is raised. -/
def raiseProblem : Option String → DeployProgram Unit
  | some message => .raised (.tool message)
  | none => .returned ()

/-! ## Units and links -/

/-- `_run_systemctl`. -/
def runSystemctl (command : DeployCommand) (check : Bool) : DeployProgram Unit := do
  match ← Program.issue command with
  | .answered _ => .returned ()
  | .failed (.raised fault) => .raised fault
  | .failed .osError => .raised (.tool "Operazione systemd produzione non riuscita.")
  | .failed .exitCode =>
    (if check then .raised (.tool "Operazione systemd produzione non riuscita.") else .returned ())

/-- `_capture_named_service`. -/
def captureNamedService (unit : ProductionUnit) : DeployProgram ServiceState := do
  match ← Program.issue (DeployCommand.captureService unit) with
  | .answered state => .returned state
  | .failed (.raised fault) => .raised fault
  | .failed .osError => .raised (.tool "Operazione systemd produzione non riuscita.")
  | .failed .exitCode => .raised (.tool "Impossibile verificare lo stato systemd.")

/-- `_capture_link`. -/
def captureLink (link : ProductionLink) : DeployProgram (Option String) :=
  (DeployCommand.captureLink link).perform

/-- `_capture_raw_unit`. -/
def captureRawUnit (unit : ProductionUnit) : DeployProgram (Option Text) :=
  (DeployCommand.captureUnit unit).perform

/-- `state.exec_main_status == 0 and state.result in {"success", ""}`. -/
def ServiceState.isClean (state : ServiceState) : Bool :=
  decide (state.execMainStatus = 0) && (decide (state.result = "success") ||
    decide (state.result = ""))

/-- `_service_ready`. -/
def ServiceState.isReady (state : ServiceState) (expected : UnitSwitches) : Bool :=
  decide (state.switches = expected) && state.isClean &&
    if expected.active then decide (0 < state.mainPid) else decide (state.mainPid = 0)

/-- `_switch_link`. -/
def switchLink (link : ProductionLink) (target : String) : DeployProgram Unit := do
  let current ← captureLink link
  if current = some target then .returned ()
  else (DeployCommand.replaceLink link target).perform

/-- `_restore_link`. -/
def restoreLink (link : ProductionLink) (previous : Option String) : DeployProgram Unit :=
  match previous with
  | some target => switchLink link target
  | none => do
    let current ← captureLink link
    if current.isSome then (DeployCommand.unlinkLink link).perform else .returned ()

/-- `_install_raw_unit`. -/
def installRawUnit (unit : ProductionUnit) (content : Text) : DeployProgram Unit :=
  (DeployCommand.writeUnit unit content).perform

/-- `_remove_raw_unit`. -/
def removeRawUnit (unit : ProductionUnit) : DeployProgram Unit :=
  (DeployCommand.removeUnit unit).perform

/-- `_restore_raw_unit`. -/
def restoreRawUnit (unit : ProductionUnit) (previous : Option Text) : DeployProgram Unit :=
  match previous with
  | some content => installRawUnit unit content
  | none => removeRawUnit unit

section Deploy

variable (platform : DeployPlatform)

/-- `_capture_unit`. -/
def captureUnit : DeployProgram (Option Text) := do
  let content ← captureRawUnit .service
  raiseProblem (content.bind platform.productionUnitProblem)
  .returned content

/-- `_install_unit`. -/
def installUnit (content : Text) : DeployProgram Unit := do
  raiseProblem (platform.productionUnitProblem content)
  installRawUnit .service content

/-- `_restore_unit`. -/
def restoreUnit (previous : Option Text) : DeployProgram Unit :=
  match previous with
  | some content => installUnit platform content
  | none => removeRawUnit .service

/-- The target has a ticket ingest. -/
def TargetInfo.hasIngest (target : TargetInfo) : Bool :=
  !target.ingestServiceBytes.isEmpty && !target.ingestPathBytes.isEmpty

/-- `_install_ingest_units`. -/
def installIngestUnits (target : TargetInfo) : DeployProgram Unit :=
  if target.hasIngest then do
    raiseProblem (platform.ingestUnitsProblem target.ingestServiceBytes target.ingestPathBytes)
    installRawUnit .ingestService target.ingestServiceBytes
    installRawUnit .ingestPath target.ingestPathBytes
  else do
    removeRawUnit .ingestService
    removeRawUnit .ingestPath

/-- `_capture_deployment`. -/
def captureDeployment : DeployProgram DeploymentState := do
  let ingestServiceUnit ← captureRawUnit .ingestService
  let ingestPathUnit ← captureRawUnit .ingestPath
  expect (ingestServiceUnit.isSome = ingestPathUnit.isSome) "Installazione ticket ingest parziale."
  raiseProblem (ingestServiceUnit.bind fun service =>
    ingestPathUnit.bind fun path => platform.ingestUnitsProblem service path)
  let ingestPathState ← captureNamedService .ingestPath
  let ingestServiceState ← captureNamedService .ingestService
  expect (ingestPathUnit.isSome || !(ingestPathState.switches.active ||
    ingestPathState.switches.enabled)) "Path ticket ingest attivo senza unità verificata."
  expect (!ingestServiceState.switches.active)
    "Ticket ingest in esecuzione: attendere il completamento e riprovare."
  let releaseLink ← captureLink .release
  let venvLink ← captureLink .venv
  let unit ← captureUnit platform
  let service ← captureNamedService .service
  .returned ⟨releaseLink, venvLink, unit, service, ingestServiceUnit, ingestPathUnit,
    ingestPathState⟩

/-! ## Waiting -/

/-- `_http_health_ok`. -/
def httpHealthOk : DeployProgram Bool := do
  match ← Program.issue DeployCommand.healthOk with
  | .answered healthy => .returned healthy
  | .failed (.raised fault) => .raised fault
  | .failed _ => .returned false

/-- `_ticket_snapshot_ingested`. -/
def ticketSnapshotIngested (sha256 : String) : DeployProgram Bool := do
  match ← Program.issue (DeployCommand.snapshotIngested sha256) with
  | .answered ingested => .returned ingested
  | .failed (.raised fault) => .raised fault
  | .failed _ => .returned false

/-- `_inspect_store`. -/
def inspectStore : DeployProgram StoreState :=
  DeployCommand.inspectStore.perform

/-- `_inspect_ticket_state`. -/
def inspectTicketState : DeployProgram Unit :=
  DeployCommand.inspectTicketState.perform

/-- `_store_identity_matches`. -/
def storeIdentityMatches (left right : StoreState) : Bool :=
  decide (left.snapshotSha256 = right.snapshotSha256) &&
    decide (left.manifestSha256 = right.manifestSha256) &&
    decide (left.snapshotId = right.snapshotId) && decide (left.manifestBytes = right.manifestBytes)

/-- The rounds of `_wait_for_health`. -/
def waitForHealth (lastError : String) : Nat → DeployProgram Unit
  | 0 => .raised (.tool ("Health produzione fallita: " ++ lastError))
  | rounds + 1 => do
    if ← httpHealthOk then .returned () else waitForHealth "HTTP/servizio non pronto" rounds

/-- One round of `_wait_for_active_readiness`. -/
def activeReadiness (target : TargetInfo) (expected : StoreState) : DeployProgram Unit := do
  let service ← captureNamedService .service
  expect (service.isReady ⟨true, true⟩) "MainPID/ExecMainStatus non pronti."
  let releaseLink ← captureLink .release
  let venvLink ← captureLink .venv
  let unit ← captureUnit platform
  expect (releaseLink = some target.release && venvLink = some target.venv &&
    unit.map platform.sha256Text = some target.unitSha256)
    "Link o unità produzione non coerenti."
  let data ← inspectStore
  expect (storeIdentityMatches data expected) "Snapshot produzione cambiato durante il deploy."
  inspectTicketState
  let healthy ← httpHealthOk
  expect healthy "Health Streamlit non pronta."

/-- The rounds of `_wait_for_active_readiness`. -/
def waitForActiveReadiness (target : TargetInfo) (expected : StoreState) (lastError : String) :
    Nat → DeployProgram Unit
  | 0 => .raised (.tool ("Readiness produzione fallita: " ++ lastError))
  | rounds + 1 => do
    match ← (activeReadiness platform target expected).attempt with
    | .ok _ => .returned ()
    | .error (.tool message) => waitForActiveReadiness target expected message rounds
    | .error other => .raised other

/-! ## Ticket ingest -/

/-- `_run_initial_ingest`. -/
def runInitialIngest (snapshotSha256 : String) : DeployProgram Unit := do
  runSystemctl (.systemctl .start .ingestService) true
  let state ← captureNamedService .ingestService
  expect state.isClean "Esecuzione iniziale ticket ingest fallita."
  inspectTicketState
  let ingested ← ticketSnapshotIngested snapshotSha256
  expect ingested "Snapshot corrente non registrato dal ticket ingest."

/-- `_set_ingest_path_state`. -/
def setIngestPathState (wanted : UnitSwitches) : DeployProgram Unit := do
  (if wanted.enabled then runSystemctl (.systemctl .enable .ingestPath) true
    else runSystemctl (.systemctl .disable .ingestPath) false)
  (if wanted.active then runSystemctl (.systemctl .start .ingestPath) true
    else runSystemctl (.systemctl .stop .ingestPath) false)
  let final ← captureNamedService .ingestPath
  expect (decide (final.switches = wanted) && final.isClean)
    "Stato ticket ingest path non applicato."

/-- `_quiesce_ingest`. -/
def quiesceIngest : DeployProgram Unit := do
  runSystemctl (.systemctl .disable .ingestPath) false
  runSystemctl (.systemctl .stop .ingestPath) false
  runSystemctl (.systemctl .stop .ingestService) false
  let pathState ← captureNamedService .ingestPath
  let serviceState ← captureNamedService .ingestService
  expect (!(pathState.switches.active || pathState.switches.enabled ||
    serviceState.switches.active)) "Ticket ingest non portato in stato quiescente."

/-- The rounds of `_wait_for_ingest_idle`. -/
def waitForIngestIdle : Nat → DeployProgram Unit
  | 0 => .raised (.tool "Ticket ingest non terminato entro il timeout di restore.")
  | rounds + 1 => do
    let state ← captureNamedService .ingestService
    if state.switches.active then waitForIngestIdle rounds
    else expect state.isClean "Ticket ingest ripristinato con esito fallito."

/-- `_verify_ingest_readiness`. -/
def verifyIngestReadiness (target : TargetInfo) (snapshotSha256 : String) : DeployProgram Unit := do
  let serviceUnit ← captureRawUnit .ingestService
  let pathUnit ← captureRawUnit .ingestPath
  let pathState ← captureNamedService .ingestPath
  if target.ingestServiceBytes.isEmpty then
    expect (!(serviceUnit.isSome || pathUnit.isSome || pathState.switches.active ||
      pathState.switches.enabled)) "Ticket ingest storico non disattivato."
  else do
    expect (serviceUnit.map platform.sha256Text = some target.ingestServiceSha256 &&
      pathUnit.map platform.sha256Text = some target.ingestPathSha256 &&
      pathState.switches.active && pathState.switches.enabled && pathState.isClean)
      "Ticket ingest non pronto."
    let ingested ← ticketSnapshotIngested snapshotSha256
    expect ingested "Ticket ingest non pronto."

/-! ## Restoration -/

/-- `_write_recovery_marker`. -/
def writeRecoveryMarker (status : RecoveryStatus) (error : Option DeployFault) :
    DeployProgram Unit :=
  (DeployCommand.writeMarker ⟨error.map DeployFault.typeName, status⟩).perform

/-- `_restore_service_state`. -/
def restoreServiceState (previous : ServiceState) : DeployProgram Unit := do
  runSystemctl .daemonReload true
  (if previous.switches.enabled then runSystemctl (.systemctl .enable .service) true
    else runSystemctl (.systemctl .disable .service) false)
  (if previous.switches.active then do
    runSystemctl (.systemctl .restart .service) true
    waitForHealth "nessuna risposta" platform.healthRounds
  else runSystemctl (.systemctl .stop .service) false)
  let restored ← captureNamedService .service
  expect (restored.isReady previous.switches) "Stato systemd precedente non ripristinato."

/-- The parts of two deployments that a restoration compares. -/
def DeploymentState.sameAs (restored before : DeploymentState) : Bool :=
  decide (restored.releaseLink = before.releaseLink) &&
    decide (restored.venvLink = before.venvLink) && decide (restored.unit = before.unit) &&
    decide (restored.ingestServiceUnit = before.ingestServiceUnit) &&
    decide (restored.ingestPathUnit = before.ingestPathUnit) &&
    decide (restored.ingestPathState.switches = before.ingestPathState.switches) &&
    decide (restored.service.switches = before.service.switches)

/-- `_restore_transaction`. -/
def restoreTransaction (before : DeploymentState) (expected : StoreState) :
    DeployProgram Unit := do
  quiesceIngest
  restoreLink .release before.releaseLink
  restoreLink .venv before.venvLink
  restoreUnit platform before.unit
  restoreRawUnit .ingestService before.ingestServiceUnit
  restoreRawUnit .ingestPath before.ingestPathUnit
  restoreServiceState platform before.service
  setIngestPathState before.ingestPathState.switches
  waitForIngestIdle platform.idleRounds
  let restored ← captureDeployment platform
  expect (restored.sameAs before) "Stato applicativo precedente non ripristinato."
  let data ← inspectStore
  expect (storeIdentityMatches data expected)
    "Snapshot precedente non più coerente dopo il restore."
  inspectTicketState

/-- A restoration and its marker; where it fails, this is marked. -/
def restoring (restoration : DeployProgram Unit) (restored : RecoveryStatus) (message : String)
    (original : DeployFault) : DeployProgram Unit := do
  match ← (do
      restoration
      writeRecoveryMarker restored (some original)).attempt with
  | .ok _ => .returned ()
  | .error fault => do
    writeRecoveryMarker .restoreFailed (some fault)
    .raised (.tool (message ++ fault.typeName))

/-! ## Activation -/

/-- `_activate` behind its first marker, where `mutation_started` is set. -/
def mutate (target : TargetInfo) (before : DeploymentState) (expected : StoreState) :
    DeployProgram Unit := do
  quiesceIngest
  switchLink .release target.release
  switchLink .venv target.venv
  installUnit platform target.unitBytes
  installIngestUnits platform target
  runSystemctl .daemonReload true
  (if before.service.switches.enabled then .returned ()
    else runSystemctl (.systemctl .enable .service) true)
  runSystemctl (.systemctl .restart .service) true
  waitForActiveReadiness platform target expected "readiness non eseguita" platform.readinessRounds
  (if target.ingestServiceBytes.isEmpty then setIngestPathState ⟨false, false⟩
    else do
      runInitialIngest expected.snapshotSha256
      setIngestPathState ⟨true, true⟩)
  verifyIngestReadiness platform target expected.snapshotSha256
  waitForActiveReadiness platform target expected "readiness non eseguita"
    platform.finalReadinessRounds
  writeRecoveryMarker .complete none

/-- `_activate`. The first marker is written before `mutation_started` is set: where it fails,
nothing is restored. -/
def activate (target : TargetInfo) (before : DeploymentState) (expected : StoreState) :
    DeployProgram Unit := do
  writeRecoveryMarker .mutationStarting none
  Program.handle (mutate platform target before expected) fun original => do
    restoring (restoreTransaction platform before expected) .rolledBack
      "Attivazione fallita e ripristino produzione non completato: " original
    .raised original

/-- What `_apply_operation` returns. -/
structure ApplyResult where
  action : String
  hasDatabaseBackup : Bool
  releaseId : String
  snapshotAgeSeconds : Int
  snapshotSha256 : String
  freshnessPolicy : String

/-- `_apply_operation` up to the place where `activation_started` is set. -/
def prepareActivation (production : StoreState) (staging : Option StoreState) :
    DeployProgram (StoreState × Bool) := do
  writeRecoveryMarker .preparationStarting none
  quiesceIngest
  DeployCommand.ensureTicketDirectory.perform
  DeployCommand.ensureManifestArchive.perform
  let ready ← inspectStore
  expect (storeIdentityMatches ready production)
    "Snapshot produzione cambiato durante il bootstrap."
  expect (staging.all fun staging => storeIdentityMatches ready staging)
    "Snapshot produzione non identico allo snapshot staging approvato."
  let hasBackup ← DeployCommand.backupDatabase.perform
  .returned (ready, hasBackup)

/-- `_apply_operation`. -/
def applyOperation (action : String) (target : TargetInfo) (before : DeploymentState)
    (production : StoreState) (staging : Option StoreState) : DeployProgram ApplyResult := do
  DeployCommand.newBackupDirectory.perform
  DeployCommand.recordBeforeState.perform
  let (ready, hasBackup) ← Program.handle (prepareActivation production staging)
    fun original => do
      restoring (do
          setIngestPathState before.ingestPathState.switches
          waitForIngestIdle platform.preparedIdleRounds)
        .preparationFailedRuntimeRestored
        "Preparazione fallita e ticket ingest non ripristinato: " original
      .raised original
  activate platform target before ready
  .returned ⟨action, hasBackup, target.releaseId, ready.snapshotAgeSeconds, ready.snapshotSha256,
    ready.freshnessPolicy⟩

end Deploy

end DTLab
