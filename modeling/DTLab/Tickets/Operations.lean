import DTLab.Tickets.Rows

/-!
# Operations on tickets

The operations of `TicketStore` that write tickets, their comments, their tasks and the audit
trail. Each reads the clock, the business hours and its random ids before it waits for the
database; then it returns a result and the store it commits, or raises and is rolled back.
-/

namespace DTLab

open Library (Table.row? Table.update)

/-- What a call reads before its transaction. -/
structure CallContext (τ : Type) where
  /-- `_now`. -/
  now : τ
  /-- `_sla_due_at` with the business hours that `_business_hours_policy` returns, or what
  reading them raises. -/
  calendar : Except TicketError (TicketPriority → τ → Except TicketError τ)
  /-- The hexadecimal `uuid4` of each draw. -/
  uuid : Nat → String

variable {τ : Type}

/-! ## Rows and events -/

namespace TicketRow

/-- What `transition_ticket` makes of a ticket. -/
def transitioned (row : TicketRow τ) (now : τ) (target : TicketStatus) : TicketRow τ :=
  let reopened := target = .investigating ∧
    row.status ∈ [.resolved, .closed, .falsePositive, .acceptedRisk, .suppressed]
  { row with
    status := target
    updatedAt := now
    resolvedAt :=
      if reopened then none
      else if target ∈ TicketStatus.decisions then some now else row.resolvedAt
    closedAt :=
      if reopened then none else if target = .closed then some now else row.closedAt }

/-- A ticket with a new owner. -/
def withOwner (row : TicketRow τ) (owner : Option String) : TicketRow τ :=
  { row with owner := owner }

/-- A ticket with a new priority and its deadline. -/
def withPriority (row : TicketRow τ) (priority : TicketPriority) (slaDueAt : τ) : TicketRow τ :=
  { row with priority := priority, slaDueAt := slaDueAt }

/-- A ticket that was written at an instant. -/
def touched (row : TicketRow τ) (now : τ) : TicketRow τ := { row with updatedAt := now }

/-- A ticket with a new deadline. -/
def recalculated (row : TicketRow τ) (now slaDueAt : τ) : TicketRow τ :=
  { row with slaDueAt := slaDueAt, updatedAt := now }

end TicketRow

/-- A checked definition of a task, or one that a caller supplies. -/
structure TaskDefinition where
  title : String
  description : Option String
  deriving DecidableEq

/-- One round of the loop of `_task_definitions`. -/
def taskDefinitionRound (definitions : List TaskDefinition) (task : TaskDefinition) :
    Except TicketError (List TaskDefinition) := do
  let title ← requiredText "Titolo task" 1024 task.title
  if title ∈ definitions.map TaskDefinition.title then .ok definitions
  else do
    let description ← optionalText 16384 task.description
    .ok (definitions ++ [⟨title, description⟩])

/-- `_task_definitions`. -/
def taskDefinitions (tasks : List TaskDefinition) : Except TicketError (List TaskDefinition) :=
  tasks.foldlM taskDefinitionRound []

namespace TicketStore

/-- The ticket of an id. -/
def ticketOf (store : TicketStore τ) (ticketId : String) : Option (TicketRow τ) :=
  Table.row? TicketRow.id store.tickets ticketId

/-- The ticket of a signal. -/
def ticketOfSignal (store : TicketStore τ) (signalId : String) : Option (TicketRow τ) :=
  Table.row? TicketRow.signalId store.tickets signalId

/-- The signal of an id. -/
def signalById (store : TicketStore τ) (signalId : String) : Option (SignalRow τ) :=
  Table.row? SignalRow.id store.signals signalId

/-- `UPDATE tickets ... WHERE id = ?`. -/
def updateTicket (store : TicketStore τ) (ticketId : String)
    (change : TicketRow τ → TicketRow τ) : TicketStore τ :=
  { store with tickets := Table.update TicketRow.id ticketId change store.tickets }

/-- `_audit`. -/
def audit (store : TicketStore τ) (ticketId actor : String) (now : τ) (action : AuditAction τ) :
    TicketStore τ :=
  { store with auditEvents := store.auditEvents ++ [⟨ticketId, actor, now, action⟩] }

/-- `_require_ticket`. -/
def requireTicket (store : TicketStore τ) (ticketId : String) :
    Except TicketError (TicketRow τ) :=
  match store.ticketOf ticketId with
  | some row => .ok row
  | none => .error (.ticketNotFound ("Ticket non trovato: " ++ ticketId))

/-- The signal that a ticket is created for. -/
def requireSignal (store : TicketStore τ) (signalId : String) :
    Except TicketError (SignalRow τ) :=
  match store.signalById signalId with
  | some row => .ok row
  | none => .error (.signalNotFound ("Segnale non trovato: " ++ signalId))

/-- `INSERT INTO tickets`. -/
def insertTicket (store : TicketStore τ) (row : TicketRow τ) : Except TicketError (TicketStore τ) :=
  if (store.tickets.map TicketRow.id).contains row.id then .error .integrity
  else .ok { store with tickets := store.tickets ++ [row] }

/-- `INSERT INTO ticket_tasks`. -/
def insertTask (store : TicketStore τ) (row : TaskRow τ) : Except TicketError (TicketStore τ) :=
  if (store.tasks.map TaskRow.id).contains row.id then .error .integrity
  else .ok { store with tasks := store.tasks ++ [row] }

/-- `INSERT INTO ticket_comments`. -/
def insertComment (store : TicketStore τ) (row : CommentRow τ) :
    Except TicketError (TicketStore τ) :=
  if (store.comments.map CommentRow.id).contains row.id then .error .integrity
  else .ok { store with comments := store.comments ++ [row] }

/-- The tasks of a ticket. -/
def tasksOf (store : TicketStore τ) (ticketId : String) : List (TaskRow τ) :=
  store.tasks.filter fun task => task.ticketId = ticketId

/-- `COALESCE(MAX(position), 0)` of the tasks of a ticket. -/
def lastPosition (store : TicketStore τ) (ticketId : String) : Nat :=
  ((store.tasksOf ticketId).map TaskRow.position).foldl max 0

end TicketStore

/-! ## Creating tickets -/

/-- The task that a definition becomes. -/
def newTask (context : CallContext τ) (ticketId taskId : String) (task : TaskDefinition)
    (position : Nat) (owner dueAt : Option String) : TaskRow τ where
  id := taskId
  ticketId := ticketId
  title := task.title
  description := task.description
  status := .pending
  position := position
  owner := owner
  dueAt := dueAt
  completedAt := none
  createdAt := context.now
  updatedAt := context.now

/-- The loop that adds missing tasks: the store, the titles present, the last position, and how
many were added. -/
structure TaskLoop (τ : Type) where
  store : TicketStore τ
  titles : List String
  position : Nat
  added : Nat

/-- One round of the loop. -/
def TaskLoop.round (context : CallContext τ) (ticketId actor : String) (owner : Option String)
    (loop : TaskLoop τ) (task : TaskDefinition) : Except TicketError (TaskLoop τ) :=
  if task.title ∈ loop.titles then .ok loop
  else do
    let position := loop.position + 1
    let taskId := "task:" ++ context.uuid (loop.added + 1)
    let store ← loop.store.insertTask (newTask context ticketId taskId task position owner none)
    .ok {
      store := store.audit ticketId actor context.now (.taskAdded taskId position task.title)
      titles := task.title :: loop.titles
      position := position
      added := loop.added + 1 }

/-- The missing tasks of a ticket are added, and the ticket is touched when there were any. -/
def TicketStore.addMissingTasks (store : TicketStore τ) (context : CallContext τ)
    (ticketId actor : String) (owner : Option String) (definitions : List TaskDefinition) :
    Except TicketError (Nat × TicketStore τ) := do
  let start : TaskLoop τ :=
    ⟨store, (store.tasksOf ticketId).map TaskRow.title, store.lastPosition ticketId, 0⟩
  let loop ← definitions.foldlM (TaskLoop.round context ticketId actor owner) start
  if loop.added = 0 then .ok (0, loop.store)
  else
    .ok (loop.added, loop.store.updateTicket ticketId fun row => row.touched context.now)

/-- The arguments of the operations that create a ticket. -/
structure TicketRequest where
  signalId : String
  actor : String
  priority : String
  owner : Option String
  title : Option String
  description : Option String

/-- The arguments of a creation behind their checks, with the deadline. -/
structure CheckedRequest (τ : Type) where
  signalId : String
  actor : String
  priority : TicketPriority
  owner : Option String
  slaDueAt : τ

/-- A ticket is inserted for a signal and its creation is audited. -/
def TicketStore.createTicket (store : TicketStore τ) (context : CallContext τ)
    (request : TicketRequest) (checked : CheckedRequest τ) (signal : SignalRow τ) :
    Except TicketError (TicketRow τ × TicketStore τ) := do
  let title ← optionalText 1024 request.title
  let description ← optionalText 16384 request.description
  let row : TicketRow τ := {
    id := "ticket:" ++ context.uuid 0
    signalId := checked.signalId
    title := title.getD signal.title
    description := description.getD signal.description
    status := .new
    priority := checked.priority
    owner := checked.owner
    createdBy := checked.actor
    createdAt := context.now
    updatedAt := context.now
    slaDueAt := checked.slaDueAt
    resolvedAt := none
    closedAt := none }
  let store ← store.insertTicket row
  .ok (row, store.audit row.id checked.actor context.now
    (.created checked.signalId checked.priority checked.owner checked.slaDueAt
      checked.priority.slaPolicyHours))

/-- The ticket that a signal has, or a new one. -/
def TicketStore.findOrCreateTicket (store : TicketStore τ) (context : CallContext τ)
    (request : TicketRequest) (checked : CheckedRequest τ) (signal : SignalRow τ) :
    Except TicketError (TicketRow τ × TicketStore τ) :=
  match store.ticketOfSignal checked.signalId with
  | some row => .ok (row, store)
  | none => store.createTicket context request checked signal

variable (platform : StorePlatform) (context : CallContext τ)

/-- The checks of a creation; the definitions of the tasks are checked behind the owner. -/
def checkRequest (request : TicketRequest) (tasks : List TaskDefinition) :
    Except TicketError (CheckedRequest τ × List TaskDefinition) := do
  let signalId ← requiredText "Signal ID" 128 request.signalId
  let actor ← requiredText "Attore" 256 request.actor
  let priority ← normalizePriority platform request.priority
  let owner ← optionalText 256 request.owner
  let definitions ← taskDefinitions tasks
  let slaDueAt ← context.calendar
  let slaDueAt ← slaDueAt priority context.now
  .ok (⟨signalId, actor, priority, owner, slaDueAt⟩, definitions)

namespace TicketStore

/-- `create_ticket_from_signal`. -/
def createTicketFromSignal (store : TicketStore τ) (request : TicketRequest) :
    Except TicketError (TicketRow τ × TicketStore τ) := do
  let (checked, _) ← checkRequest platform context request []
  let signal ← store.requireSignal checked.signalId
  store.findOrCreateTicket context request checked signal

/-- `create_ticket_with_tasks`. -/
def createTicketWithTasks (store : TicketStore τ) (request : TicketRequest)
    (tasks : List TaskDefinition) : Except TicketError ((TicketRow τ × Nat) × TicketStore τ) := do
  let (checked, definitions) ← checkRequest platform context request tasks
  let signal ← store.requireSignal checked.signalId
  let (row, store) ← store.findOrCreateTicket context request checked signal
  let (added, store) ←
    store.addMissingTasks context row.id checked.actor checked.owner definitions
  .ok (((store.ticketOf row.id).getD row, added), store)

/-- `get_ticket_for_signal`. -/
def getTicketForSignal (store : TicketStore τ) (signalId : String) :
    Except TicketError (Option (TicketRow τ)) := do
  let signalId ← requiredText "Signal ID" 128 signalId
  .ok (store.ticketOfSignal signalId)

/-! ## Changing tickets -/

/-- `transition_ticket`. -/
def transitionTicket (store : TicketStore τ) (ticketId toStatus actor : String)
    (note : Option String) : Except TicketError (TicketRow τ × TicketStore τ) := do
  let ticketId ← requiredText "Ticket ID" 128 ticketId
  let target ← normalizeStatus platform toStatus
  let actor ← requiredText "Attore" 256 actor
  let note ← optionalText 16384 note
  if target ∈ TicketStatus.decisions ∧ note = none then
    .error (.validation
      ("Una nota decisionale è obbligatoria per lo stato " ++ target.text ++ "."))
  else do
    let row ← store.requireTicket ticketId
    if target ∉ row.status.transitions then
      .error (.invalidTransition
        ("Transizione ticket non valida: " ++ row.status.text ++ " -> " ++ target.text))
    else
      .ok (row.transitioned context.now target,
        (store.updateTicket ticketId fun row => row.transitioned context.now target).audit
          ticketId actor context.now (.statusChanged row.status target note))

/-- `assign_ticket`. -/
def assignTicket (store : TicketStore τ) (ticketId : String) (owner : Option String)
    (actor : String) : Except TicketError (TicketRow τ × TicketStore τ) := do
  let owner ← optionalText 256 owner
  let ticketId ← requiredText "Ticket ID" 128 ticketId
  let actor ← requiredText "Attore" 256 actor
  let row ← store.requireTicket ticketId
  if row.owner = owner then .ok (row, store)
  else
    let change := fun row : TicketRow τ => (row.withOwner owner).touched context.now
    .ok (change row, (store.updateTicket ticketId change).audit ticketId actor context.now
      (.assigned row.owner owner))

/-- `set_ticket_priority`. -/
def setTicketPriority (store : TicketStore τ) (ticketId priority actor : String) :
    Except TicketError (TicketRow τ × TicketStore τ) := do
  let priority ← normalizePriority platform priority
  let ticketId ← requiredText "Ticket ID" 128 ticketId
  let actor ← requiredText "Attore" 256 actor
  let slaDueAt ← context.calendar
  let row ← store.requireTicket ticketId
  if row.priority = priority then .ok (row, store)
  else do
    let slaDueAt ← slaDueAt priority row.createdAt
    let change := fun row : TicketRow τ =>
      (row.withPriority priority slaDueAt).touched context.now
    .ok (change row, (store.updateTicket ticketId change).audit ticketId actor context.now
      (.priorityChanged row.priority priority row.slaDueAt slaDueAt priority.slaPolicyHours))

/-- The owner part of `update_ticket_governance`: the store, and whether it changed. -/
def governOwner (store : TicketStore τ) (row : TicketRow τ) (owner : Option String)
    (actor : String) : TicketStore τ × Bool :=
  if row.owner = owner then (store, false)
  else
    ((store.updateTicket row.id fun row => row.withOwner owner).audit
      row.id actor context.now (.assigned row.owner owner), true)

/-- The priority part of `update_ticket_governance`: the store, and whether it changed. -/
def governPriority (store : TicketStore τ) (row : TicketRow τ) (priority : TicketPriority)
    (slaDueAt : TicketPriority → τ → Except TicketError τ) (actor : String) :
    Except TicketError (TicketStore τ × Bool) :=
  if row.priority = priority then .ok (store, false)
  else do
    let slaDueAt ← slaDueAt priority row.createdAt
    .ok ((store.updateTicket row.id fun row => row.withPriority priority slaDueAt).audit
      row.id actor context.now
      (.priorityChanged row.priority priority row.slaDueAt slaDueAt priority.slaPolicyHours), true)

/-- `update_ticket_governance`. -/
def updateTicketGovernance (store : TicketStore τ) (ticketId : String) (owner : Option String)
    (priority actor : String) : Except TicketError (TicketRow τ × TicketStore τ) := do
  let ticketId ← requiredText "Ticket ID" 128 ticketId
  let actor ← requiredText "Attore" 256 actor
  let owner ← optionalText 256 owner
  let priority ← normalizePriority platform priority
  let slaDueAt ← context.calendar
  let row ← store.requireTicket ticketId
  let (store, ownerChanged) := store.governOwner context row owner actor
  let (store, priorityChanged) ← store.governPriority context row priority slaDueAt actor
  let store :=
    if ownerChanged || priorityChanged then
      store.updateTicket ticketId fun row => row.touched context.now
    else store
  .ok ((store.ticketOf ticketId).getD row, store)

/-- One round of the loop of `recalculate_open_sla_deadlines`. -/
def recalculateRound [DecidableEq τ] (slaDueAt : TicketPriority → τ → Except TicketError τ)
    (actor : String) (state : TicketStore τ × Nat) (row : TicketRow τ) :
    Except TicketError (TicketStore τ × Nat) := do
  let next ← slaDueAt row.priority row.createdAt
  if next = row.slaDueAt then .ok state
  else
    .ok ((state.1.updateTicket row.id fun row => row.recalculated context.now next).audit
      row.id actor context.now
      (.slaCalendarRecalculated row.slaDueAt next row.priority.slaPolicyHours), state.2 + 1)

/-- `recalculate_open_sla_deadlines`. -/
def recalculateOpenSlaDeadlines [DecidableEq τ] (store : TicketStore τ) (actor : String) :
    Except TicketError (Nat × TicketStore τ) := do
  let actor ← requiredText "Attore" 256 actor
  let slaDueAt ← context.calendar
  let openTickets := store.tickets.filter fun row => row.status ∉ TicketStatus.slaStopped
  let (store, changed) ← openTickets.foldlM (recalculateRound context slaDueAt actor) (store, 0)
  .ok (changed, store)

/-! ## Comments and tasks -/

/-- `add_comment`. -/
def addComment (store : TicketStore τ) (ticketId author body : String) :
    Except TicketError (CommentRow τ × TicketStore τ) := do
  let ticketId ← requiredText "Ticket ID" 128 ticketId
  let author ← requiredText "Autore" 256 author
  let body ← requiredText "Commento" 32768 body
  let row : CommentRow τ := ⟨"comment:" ++ context.uuid 0, ticketId, author, body, context.now⟩
  let _ ← store.requireTicket ticketId
  let store ← store.insertComment row
  .ok (row, (store.updateTicket ticketId fun row => row.touched context.now).audit
    ticketId author context.now (.commentAdded row.id))

/-- `add_task`. -/
def addTask (store : TicketStore τ) (ticketId actor title : String)
    (description owner dueAt : Option String) :
    Except TicketError (TaskRow τ × TicketStore τ) := do
  let ticketId ← requiredText "Ticket ID" 128 ticketId
  let actor ← requiredText "Attore" 256 actor
  let title ← requiredText "Titolo task" 1024 title
  let description ← optionalText 16384 description
  let owner ← optionalText 256 owner
  let dueAt ← optionalText 64 dueAt
  let _ ← store.requireTicket ticketId
  let position := store.lastPosition ticketId + 1
  let row := newTask context ticketId ("task:" ++ context.uuid 0) ⟨title, description⟩ position
    owner dueAt
  let store ← store.insertTask row
  .ok (row, (store.updateTicket ticketId fun row => row.touched context.now).audit
    ticketId actor context.now (.taskAdded row.id position title))

/-- `ensure_tasks`. -/
def ensureTasks (store : TicketStore τ) (ticketId actor : String) (tasks : List TaskDefinition)
    (owner : Option String) : Except TicketError (Nat × TicketStore τ) := do
  let ticketId ← requiredText "Ticket ID" 128 ticketId
  let actor ← requiredText "Attore" 256 actor
  let owner ← optionalText 256 owner
  let definitions ← taskDefinitions tasks
  let _ ← store.requireTicket ticketId
  store.addMissingTasks context ticketId actor owner definitions

/-- The task of an id. -/
def taskOf (store : TicketStore τ) (taskId : String) : Option (TaskRow τ) :=
  Table.row? TaskRow.id store.tasks taskId

/-- `UPDATE ticket_tasks ... WHERE id = ?`. -/
def updateTask (store : TicketStore τ) (taskId : String) (change : TaskRow τ → TaskRow τ) :
    TicketStore τ :=
  { store with tasks := Table.update TaskRow.id taskId change store.tasks }

/-- `update_task_status`. -/
def updateTaskStatus (store : TicketStore τ) (taskId status actor : String) :
    Except TicketError (TaskRow τ × TicketStore τ) := do
  let taskId ← requiredText "Task ID" 128 taskId
  let status ← normalizeTaskStatus platform status
  let actor ← requiredText "Attore" 256 actor
  match store.taskOf taskId with
  | none => .error (.taskNotFound ("Task non trovato: " ++ taskId))
  | some row =>
    if row.status = status then .ok (row, store)
    else
      let change := fun row : TaskRow τ =>
        { row with
          status := status
          completedAt := if status = .pending then none else some context.now
          updatedAt := context.now }
      .ok (change row,
        ((store.updateTask taskId change).updateTicket row.ticketId
          fun ticket => ticket.touched context.now).audit
            row.ticketId actor context.now (.taskStatusChanged taskId row.status status))

end TicketStore

end DTLab
