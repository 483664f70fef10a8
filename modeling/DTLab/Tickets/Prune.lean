import DTLab.Tickets.Policy
import DTLab.Tickets.Service

/-!
# Pruning the ticket store

`prune_ticket_store` of the script of that name: `plan_prune` chooses the tickets to keep, and
`_apply_plan` deletes the others with all that belongs to them, one SQL statement after another.
Every statement fails as the database makes it fail: a foreign key restricts the deletion of a row
that another one names, and the trigger of the audit trail aborts every deletion from it.
-/

namespace DTLab

/-! ## The database -/

/-- What pruning raises. -/
inductive TicketPruneFailure where
  /-- `PruneError`. -/
  | refused (message : String)
  /-- An error of the database. -/
  | sqlite (message : String)
  /-- `KeyError` or `IndexError`. -/
  | lookup
  deriving DecidableEq

/-- `AUDIT_DELETE_TRIGGER`. -/
def auditDeleteTrigger : String := "audit_events_no_delete"

/-- The database of a connection: the tables, the text of the trigger that guards the audit trail,
and the temporary table of the tickets to keep. -/
structure TicketDatabase where
  store : TicketStore ClockTime
  auditTrigger : Option String
  keptTickets : Option (Finset String)

/-- The text of the trigger that `_initialize` creates, as the database keeps it. -/
def auditEventsNoDelete : String :=
  "CREATE TRIGGER audit_events_no_delete\n        BEFORE DELETE ON audit_events\n" ++
    "        BEGIN\n            SELECT RAISE(ABORT, 'audit_events is append-only');\n        END"

/-- The database of a store, for a new connection. -/
def TicketStore.database (store : TicketStore ClockTime) : TicketDatabase :=
  ⟨store, some auditEventsNoDelete, none⟩

/-- `_require_schema`, of a database with all tables. -/
def TicketDatabase.requireSchema (database : TicketDatabase) :
    Except TicketPruneFailure String :=
  let missing := .error (.refused ("required trigger is missing: " ++ auditDeleteTrigger))
  match database.auditTrigger with
  | none => missing
  | some sql => if strip sql = "" then missing else .ok sql

/-- Does every row name a present one? -/
def TicketStore.foreignKeysHold (store : TicketStore ClockTime) : Bool :=
  let signalIds := store.signals.map SignalRow.id
  let ticketIds := store.tickets.map TicketRow.id
  store.tickets.all (fun row => row.signalId ∈ signalIds) &&
    store.occurrences.all (fun row => row.signalId ∈ signalIds) &&
    store.comments.all (fun row => row.ticketId ∈ ticketIds) &&
    store.tasks.all (fun row => row.ticketId ∈ ticketIds) &&
    store.auditEvents.all (fun row => row.ticketId ∈ ticketIds)

/-- `_check_integrity`, of a database whose file is sound. -/
def TicketDatabase.checkIntegrity (database : TicketDatabase) : Except TicketPruneFailure Unit :=
  if database.store.foreignKeysHold then .ok ()
  else .error (.refused "SQLite foreign_key_check failed")

/-! ## The plan -/

/-- A row of the query of `plan_prune`. -/
structure PlanRow where
  id : String
  signalId : String
  updatedAt : String
  signalType : String
  payload : List (String × Library.Json)

/-- `ORDER BY tickets.updated_at DESC, tickets.id`. -/
def PlanRow.ordered (first second : PlanRow) : Prop :=
  second.updatedAt < first.updatedAt ∨
    second.updatedAt = first.updatedAt ∧ first.id ≤ second.id

instance : DecidableRel PlanRow.ordered := by
  unfold PlanRow.ordered
  infer_instance

/-- The row of a ticket and a signal. -/
def PlanRow.of (ticket : TicketRow ClockTime) (signal : SignalRow ClockTime) : PlanRow where
  id := ticket.id
  signalId := ticket.signalId
  updatedAt := ticket.updatedAt.text
  signalType := signal.signalType
  payload := signal.payload

/-- The query of `plan_prune`. -/
def TicketStore.planRows (store : TicketStore ClockTime) : List PlanRow :=
  (store.tickets.flatMap fun ticket =>
    (store.signals.filter fun signal => signal.id = ticket.signalId).map
      (PlanRow.of ticket)).insertionSort PlanRow.ordered

/-- `payload["event"]["source"]["classification"]`. -/
def hostClassification (payload : List (String × Library.Json)) : Option Library.Json :=
  ((payload.lookup "event").bind (memberOf "source")).bind (memberOf "classification")

/-- `_is_security_test_host_signal`. -/
def PlanRow.isSecurityTestHostSignal (row : PlanRow) : Except TicketPruneFailure Bool :=
  if row.signalType ≠ "host_modbus_write" then .ok false
  else
    match hostClassification row.payload with
    | none =>
      .error (.refused ("cannot classify host_modbus_write signal linked to ticket " ++ row.id))
    | some classification => .ok (isTextOf "security_test" (some classification))

/-- The id of the first row of a security test. -/
def nextProtected : List PlanRow → Except TicketPruneFailure (Option String)
  | [] => .ok none
  | row :: rows => do
    if ← row.isSecurityTestHostSignal then return some row.id
    else nextProtected rows

/-- The ids to keep with a protected one, which replaces the last of the first rows. -/
def keepProtected (rows : List PlanRow) (retain : Int) (kept : Finset String)
    (protectedId : String) : Except TicketPruneFailure (Finset String) := do
  if protectedId ∈ kept then return kept
  else if kept.Nonempty then
    match rows[(retain - 1).toNat]? with
    | none => .error .lookup
    | some row =>
      if row.id ∈ kept then return insert protectedId (kept.erase row.id) else .error .lookup
  else return insert protectedId kept

/-- `PrunePlan`. -/
structure TicketPrunePlan where
  ticketIds : List String
  keptTicketIds : Finset String
  keptSignalIds : Finset String
  protectedTicketId : Option String
  signalsToDelete : Nat
  occurrencesToDelete : Nat
  deriving DecidableEq

/-- `tickets_to_delete`. -/
def TicketPrunePlan.ticketsToDelete (plan : TicketPrunePlan) : Int :=
  plan.ticketIds.length - plan.keptTicketIds.card

/-- `plan_prune`. -/
def TicketStore.planPrune (store : TicketStore ClockTime) (retain : Int) :
    Except TicketPruneFailure TicketPrunePlan := do
  if retain < 0 then throw (.refused "retain must be zero or greater")
  let rows := store.planRows
  let first := ((rows.take retain.toNat).map PlanRow.id).toFinset
  let protectedId ← nextProtected rows
  let kept ← match protectedId with
    | none => pure first
    | some id => keepProtected rows retain first id
  let keptSignalIds :=
    ((rows.filter fun row => row.id ∈ kept).map PlanRow.signalId).toFinset
  return {
    ticketIds := rows.map PlanRow.id
    keptTicketIds := kept
    keptSignalIds := keptSignalIds
    protectedTicketId := protectedId
    signalsToDelete := ((store.signals.map SignalRow.id).toFinset \ keptSignalIds).card
    occurrencesToDelete := store.occurrences.countP fun row => row.signalId ∉ keptSignalIds }

/-! ## The statements -/

/-- The rows that a statement deletes. -/
structure DeletedRows where
  ticketComments : Nat
  ticketTasks : Nat
  auditEvents : Nat
  tickets : Nat
  signalOccurrences : Nat
  signals : Nat
  deriving DecidableEq

/-- `DELETE FROM` a table `WHERE` a column is `NOT IN` some texts: the number of the deleted rows,
and the others. -/
def deleteNotIn {ρ : Type} (column : ρ → String) (kept : Finset String) (rows : List ρ) :
    Nat × List ρ :=
  (rows.countP fun row => column row ∉ kept, rows.filter fun row => column row ∈ kept)

/-- `ON DELETE RESTRICT`: a statement that keeps some keys fails where a row names a key that it
deletes. -/
def restrict (keys : List String) (kept : Finset String) (referred : List String) :
    Except TicketPruneFailure Unit :=
  if keys.any fun key => decide (key ∉ kept) && decide (key ∈ referred) then
    .error (.sqlite "FOREIGN KEY constraint failed")
  else .ok ()

namespace TicketDatabase

variable (database : TicketDatabase)

/-- `CREATE TEMP TABLE dtlab_prune_kept_tickets`. -/
def createKept : Except TicketPruneFailure TicketDatabase :=
  match database.keptTickets with
  | none => .ok { database with keptTickets := some ∅ }
  | some _ => .error (.sqlite "table dtlab_prune_kept_tickets already exists")

/-- `SELECT id FROM dtlab_prune_kept_tickets`. -/
def keptIds : Except TicketPruneFailure (Finset String) :=
  match database.keptTickets with
  | none => .error (.sqlite "no such table: dtlab_prune_kept_tickets")
  | some ids => .ok ids

/-- `INSERT INTO dtlab_prune_kept_tickets`, of the ids of a set one after another. -/
def insertKept (ids : Finset String) : Except TicketPruneFailure TicketDatabase := do
  let present ← database.keptIds
  if Disjoint present ids then return { database with keptTickets := some (present ∪ ids) }
  else throw (.sqlite "UNIQUE constraint failed: dtlab_prune_kept_tickets.id")

/-- `DROP TABLE dtlab_prune_kept_tickets`. -/
def dropKept : Except TicketPruneFailure TicketDatabase := do
  let _ ← database.keptIds
  return { database with keptTickets := none }

/-- `DROP TRIGGER`. -/
def dropTrigger : Except TicketPruneFailure TicketDatabase :=
  match database.auditTrigger with
  | none => .error (.sqlite ("no such trigger: " ++ auditDeleteTrigger))
  | some _ => .ok { database with auditTrigger := none }

/-- The statement that creates a trigger from the text that the database kept of it. -/
def createTrigger (sql : String) : Except TicketPruneFailure TicketDatabase :=
  match database.auditTrigger with
  | none => .ok { database with auditTrigger := some sql }
  | some _ => .error (.sqlite ("trigger " ++ auditDeleteTrigger ++ " already exists"))

/-- `DELETE FROM ticket_comments`. -/
def deleteComments : Except TicketPruneFailure (Nat × TicketDatabase) := do
  let kept ← database.keptIds
  let (count, comments) := deleteNotIn CommentRow.ticketId kept database.store.comments
  return (count, { database with store := { database.store with comments := comments } })

/-- `DELETE FROM ticket_tasks`. -/
def deleteTasks : Except TicketPruneFailure (Nat × TicketDatabase) := do
  let kept ← database.keptIds
  let (count, tasks) := deleteNotIn TaskRow.ticketId kept database.store.tasks
  return (count, { database with store := { database.store with tasks := tasks } })

/-- `DELETE FROM audit_events`, which the trigger aborts at the first row. -/
def deleteAuditEvents : Except TicketPruneFailure (Nat × TicketDatabase) := do
  let kept ← database.keptIds
  let (count, auditEvents) := deleteNotIn AuditEvent.ticketId kept database.store.auditEvents
  if database.auditTrigger.isSome ∧ count ≠ 0 then
    throw (.sqlite "audit_events is append-only")
  return (count, { database with store := { database.store with auditEvents := auditEvents } })

/-- `DELETE FROM tickets`. -/
def deleteTickets : Except TicketPruneFailure (Nat × TicketDatabase) := do
  let kept ← database.keptIds
  let ids := database.store.tickets.map TicketRow.id
  restrict ids kept (database.store.comments.map CommentRow.ticketId)
  restrict ids kept (database.store.tasks.map TaskRow.ticketId)
  restrict ids kept (database.store.auditEvents.map AuditEvent.ticketId)
  let (count, tickets) := deleteNotIn TicketRow.id kept database.store.tickets
  return (count, { database with store := { database.store with tickets := tickets } })

/-- `SELECT signal_id FROM tickets`. -/
def ticketSignalIds : Finset String :=
  (database.store.tickets.map TicketRow.signalId).toFinset

/-- `DELETE FROM signal_occurrences`. -/
def deleteOccurrences : Nat × TicketDatabase :=
  let (count, occurrences) :=
    deleteNotIn OccurrenceRow.signalId database.ticketSignalIds database.store.occurrences
  (count, { database with store := { database.store with occurrences := occurrences } })

/-- `DELETE FROM signals`. -/
def deleteSignals : Except TicketPruneFailure (Nat × TicketDatabase) := do
  let kept := database.ticketSignalIds
  let ids := database.store.signals.map SignalRow.id
  restrict ids kept (database.store.tickets.map TicketRow.signalId)
  restrict ids kept (database.store.occurrences.map OccurrenceRow.signalId)
  let (count, signals) := deleteNotIn SignalRow.id kept database.store.signals
  return (count, { database with store := { database.store with signals := signals } })

/-- The statements of `_apply_plan`. -/
def runStatements (kept : Finset String) (auditTriggerSql : String) :
    Except TicketPruneFailure (DeletedRows × TicketDatabase) := do
  let database ← database.createKept
  let database ← database.insertKept kept
  let (ticketComments, database) ← database.deleteComments
  let (ticketTasks, database) ← database.deleteTasks
  let database ← database.dropTrigger
  let (auditEvents, database) ← database.deleteAuditEvents
  let database ← database.createTrigger auditTriggerSql
  let (tickets, database) ← database.deleteTickets
  let (signalOccurrences, database) := database.deleteOccurrences
  let (signals, database) ← database.deleteSignals
  let database ← database.dropKept
  return ({ ticketComments, ticketTasks, auditEvents, tickets, signalOccurrences, signals },
    database)

/-- `_apply_plan`. -/
def applyPlan (plan : TicketPrunePlan) (auditTriggerSql : String) :
    Except TicketPruneFailure (DeletedRows × TicketDatabase) := do
  let (deleted, database) ← database.runStatements plan.keptTicketIds auditTriggerSql
  if (deleted.tickets : Int) ≠ plan.ticketsToDelete then
    throw (.refused "ticket count changed while applying the prune plan")
  if deleted.signals ≠ plan.signalsToDelete then
    throw (.refused "signal deletion count differs from the prune plan")
  if deleted.signalOccurrences ≠ plan.occurrencesToDelete then
    throw (.refused "occurrence deletion count differs from the prune plan")
  if database.auditTrigger.isNone then
    throw (.refused ("failed to restore trigger: " ++ auditDeleteTrigger))
  return (deleted, database)

/-- `_snapshot_ingests`. -/
def snapshotIngests : List (SnapshotIngestRow ClockTime) :=
  database.store.snapshotIngests.insertionSort fun first second =>
    first.snapshotSha256 ≤ second.snapshotSha256

/-- The transaction of `prune_ticket_store`: the plan, the deleted rows and the database that it
commits. -/
def pruneTransaction (retain : Int) :
    Except TicketPruneFailure (TicketPrunePlan × DeletedRows × TicketDatabase) := do
  let auditTriggerSql ← database.requireSchema
  database.checkIntegrity
  let plan ← database.store.planPrune retain
  let (deleted, later) ← database.applyPlan plan auditTriggerSql
  if later.snapshotIngests ≠ database.snapshotIngests then
    throw (.refused "snapshot_ingests changed unexpectedly")
  later.checkIntegrity
  return (plan, deleted, later)

end TicketDatabase

/-- `prune_ticket_store` where nothing else writes: the plan, the deleted rows where the plan was
applied, and the database afterwards, which a failure leaves as it was. -/
def pruneTicketStore (retain : Int) (apply : Bool) (database : TicketDatabase) :
    Except TicketPruneFailure (TicketPrunePlan × Option DeletedRows) × TicketDatabase :=
  let dryRun : Except TicketPruneFailure TicketPrunePlan := do
    if retain < 0 then throw (.refused "retain must be zero or greater")
    let _ ← database.requireSchema
    database.checkIntegrity
    database.store.planPrune retain
  match dryRun with
  | .error failure => (.error failure, database)
  | .ok plan =>
    if apply then
      match database.pruneTransaction retain with
      | .error failure => (.error failure, database)
      | .ok (plan, deleted, later) => (.ok (plan, some deleted), later)
    else (.ok (plan, none), database)

end DTLab
