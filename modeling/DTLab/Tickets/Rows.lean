import DTLab.Library.Table
import DTLab.Tickets.Text

/-!
# The tables of the ticket store

The rows of the seven tables that `TicketStore._initialize` creates, with the enumerations of
their checks as types, and the store as their lists in the order of insertion. The instants are
of any type; the audit trail keeps the details of each action apart from its name.
-/

namespace DTLab

open Library (Json)

/-! ## Statuses and priorities -/

/-- `TICKET_STATUSES`. -/
inductive TicketStatus where
  | new
  | acknowledged
  | investigating
  | remediating
  | waitingOt
  | resolved
  | closed
  | falsePositive
  | acceptedRisk
  | suppressed
  deriving DecidableEq

namespace TicketStatus

/-- The name of a status. -/
def text : TicketStatus → String
  | new => "new"
  | acknowledged => "acknowledged"
  | investigating => "investigating"
  | remediating => "remediating"
  | waitingOt => "waiting_ot"
  | resolved => "resolved"
  | closed => "closed"
  | falsePositive => "false_positive"
  | acceptedRisk => "accepted_risk"
  | suppressed => "suppressed"

/-- The statuses in the order of their names. -/
def all : List TicketStatus :=
  [acceptedRisk, acknowledged, closed, falsePositive, investigating, new, remediating, resolved,
    suppressed, waitingOt]

/-- The status of a name. -/
def ofText (name : String) : Option TicketStatus :=
  all.find? fun status => decide (status.text = name)

/-- The statuses that a note must justify, where a ticket has been decided. -/
def decisions : List TicketStatus := [resolved, falsePositive, acceptedRisk, suppressed]

/-- `SLA_STOPPED_STATUSES`. -/
def slaStopped : List TicketStatus := [closed, falsePositive, acceptedRisk, suppressed]

/-- `_TRANSITIONS`. -/
def transitions : TicketStatus → List TicketStatus
  | new => [acknowledged, investigating, falsePositive, acceptedRisk, suppressed]
  | acknowledged => [investigating, falsePositive, acceptedRisk, suppressed]
  | investigating =>
    [remediating, waitingOt, resolved, falsePositive, acceptedRisk, suppressed]
  | remediating => [investigating, waitingOt, resolved]
  | waitingOt => [investigating, remediating, resolved]
  | resolved => [closed, investigating]
  | closed => [investigating]
  | falsePositive => [investigating]
  | acceptedRisk => [investigating]
  | suppressed => [investigating]

end TicketStatus

/-- `TICKET_PRIORITIES`. -/
inductive TicketPriority where
  | p1
  | p2
  | p3
  | p4
  deriving DecidableEq

namespace TicketPriority

/-- The name of a priority. -/
def text : TicketPriority → String
  | p1 => "p1"
  | p2 => "p2"
  | p3 => "p3"
  | p4 => "p4"

/-- The priorities in the order of their names. -/
def all : List TicketPriority := [p1, p2, p3, p4]

/-- The priority of a name. -/
def ofText (name : String) : Option TicketPriority :=
  all.find? fun priority => decide (priority.text = name)

/-- `_PRIORITY_RANK`: the most urgent priority has the least rank. -/
def rank : TicketPriority → Nat
  | p1 => 0
  | p2 => 1
  | p3 => 2
  | p4 => 3

/-- `SLA_POLICY_HOURS`. -/
def slaPolicyHours : TicketPriority → Nat
  | p1 => 4
  | p2 => 8
  | p3 => 24
  | p4 => 72

/-- A priority is found by its name. -/
@[simp] theorem ofText_text (priority : TicketPriority) : ofText priority.text = some priority := by
  cases priority <;> decide

end TicketPriority

/-- `TASK_STATUSES`. -/
inductive TaskStatus where
  | pending
  | completed
  | skipped
  deriving DecidableEq

namespace TaskStatus

/-- The name of a task status. -/
def text : TaskStatus → String
  | pending => "pending"
  | completed => "completed"
  | skipped => "skipped"

/-- The task statuses in the order of their names. -/
def all : List TaskStatus := [completed, pending, skipped]

/-- The task status of a name. -/
def ofText (name : String) : Option TaskStatus :=
  all.find? fun status => decide (status.text = name)

end TaskStatus

/-- The check of a name behind `_required_text` and `lower`. -/
def requiredChoice {α : Type} (platform : StorePlatform) (label : String) (maxLength : Nat)
    (ofText : String → Option α) (message : String) (value : String) :
    Except TicketError α := do
  let text ← requiredText label maxLength value
  match ofText (platform.lower text) with
  | some choice => .ok choice
  | none => .error (.validation message)

/-- `_normalize_status`. -/
def normalizeStatus (platform : StorePlatform) (value : String) :
    Except TicketError TicketStatus :=
  requiredChoice platform "Stato" 32 TicketStatus.ofText
    ("Stato non valido; valori ammessi: " ++
      ", ".intercalate (TicketStatus.all.map TicketStatus.text)) value

/-- `_normalize_priority`. -/
def normalizePriority (platform : StorePlatform) (value : String) :
    Except TicketError TicketPriority :=
  requiredChoice platform "Priorità" 2 TicketPriority.ofText
    ("Priorità non valida; valori ammessi: " ++
      ", ".intercalate (TicketPriority.all.map TicketPriority.text)) value

/-- The status of a task in `update_task_status`. -/
def normalizeTaskStatus (platform : StorePlatform) (value : String) :
    Except TicketError TaskStatus :=
  requiredChoice platform "Stato task" 32 TaskStatus.ofText
    ("Stato task non valido; valori ammessi: " ++
      ", ".intercalate (TaskStatus.all.map TaskStatus.text)) value

/-! ## The rows -/

/-- The id of the signal with a fingerprint. -/
def signalIdOf (fingerprint : String) : String := "signal:" ++ fingerprint

/-- The id of a signal passes its check. -/
theorem requiredText_signalIdOf {fingerprint : String}
    (digest : isDigestBody fingerprint.toList = true) :
    requiredText "Signal ID" 128 (signalIdOf fingerprint) = .ok (signalIdOf fingerprint) := by
  rw [isDigestBody, Bool.and_eq_true, decide_eq_true_eq] at digest
  have chars : (signalIdOf fingerprint).toList = "signal:".toList ++ fingerprint.toList :=
    String.toList_append
  have plain : ∀ c ∈ (signalIdOf fingerprint).toList, isSpace c = false := by
    intro c member
    rw [chars] at member
    have label : ∀ c ∈ "signal:".toList, isSpace c = false := by simp [isSpace]
    rcases List.mem_append.mp member with early | late
    · exact label c early
    · exact isSpace_of_digestChar (List.all_eq_true.mp digest.2 c late)
  have length : (signalIdOf fingerprint).length = 71 := by
    rw [← String.length_toList, chars, List.length_append, digest.1]
    rfl
  rw [requiredText_eq_ok, strip, stripText_of_plain plain, String.ofList_toList]
  refine ⟨rfl, ?_, by omega⟩
  intro empty
  rw [empty] at length
  exact absurd length (by decide)

/-- A row of `signals`. Its column `id` is `SignalRow.id`, which nothing but the fingerprint
determines. -/
structure SignalRow (τ : Type) where
  fingerprint : String
  signalType : String
  snapshotSha256 : String
  sourceId : Option String
  sourceRecordId : Option String
  evidence : List (String × Json)
  severity : String
  title : String
  description : String
  occurredAt : Option String
  firstObservedAt : String
  lastObservedAt : String
  assetIds : List String
  recommendedAction : Option String
  payload : List (String × Json)
  occurrenceCount : Nat
  createdAt : τ
  updatedAt : τ

/-- The column `id`. -/
def SignalRow.id {τ : Type} (row : SignalRow τ) : String := signalIdOf row.fingerprint

/-- A row of `signal_occurrences`. -/
structure OccurrenceRow (τ : Type) where
  signalId : String
  snapshotSha256 : String
  observedAt : String
  occurredAt : Option String
  payloadHash : String
  payload : List (String × Json)
  createdAt : τ

/-- A row of `snapshot_ingests`. -/
structure SnapshotIngestRow (τ : Type) where
  snapshotSha256 : String
  snapshotId : String
  generatedAt : String
  signalsSeen : Nat
  ingestedAt : τ
  deriving DecidableEq

/-- A row of `tickets`. -/
structure TicketRow (τ : Type) where
  id : String
  signalId : String
  title : String
  description : String
  status : TicketStatus
  priority : TicketPriority
  owner : Option String
  createdBy : String
  createdAt : τ
  updatedAt : τ
  slaDueAt : τ
  resolvedAt : Option τ
  closedAt : Option τ
  deriving DecidableEq

/-- A row of `ticket_comments`. -/
structure CommentRow (τ : Type) where
  id : String
  ticketId : String
  author : String
  body : String
  createdAt : τ
  deriving DecidableEq

/-- A row of `ticket_tasks`. -/
structure TaskRow (τ : Type) where
  id : String
  ticketId : String
  title : String
  description : Option String
  status : TaskStatus
  position : Nat
  owner : Option String
  dueAt : Option String
  completedAt : Option τ
  createdAt : τ
  updatedAt : τ
  deriving DecidableEq

/-- The action of an audit event with its details. -/
inductive AuditAction (τ : Type) where
  /-- `ticket.created`, in status `new`. -/
  | created (signalId : String) (priority : TicketPriority) (owner : Option String)
    (slaDueAt : τ) (slaPolicyHours : Nat)
  /-- `ticket.status_changed`. -/
  | statusChanged (before after : TicketStatus) (note : Option String)
  /-- `ticket.assigned`. -/
  | assigned (before after : Option String)
  /-- `ticket.priority_changed`. -/
  | priorityChanged (before after : TicketPriority) (slaDueAtBefore slaDueAtAfter : τ)
    (slaPolicyHours : Nat)
  /-- `ticket.sla_calendar_recalculated`. -/
  | slaCalendarRecalculated (slaDueAtBefore slaDueAtAfter : τ) (slaPolicyHours : Nat)
  /-- `ticket.comment_added`. -/
  | commentAdded (commentId : String)
  /-- `ticket.task_added`. -/
  | taskAdded (taskId : String) (position : Nat) (title : String)
  /-- `ticket.task_status_changed`. -/
  | taskStatusChanged (taskId : String) (before after : TaskStatus)
  deriving DecidableEq

/-- A row of `audit_events`. -/
structure AuditEvent (τ : Type) where
  ticketId : String
  actor : String
  occurredAt : τ
  action : AuditAction τ
  deriving DecidableEq

/-- The database. -/
structure TicketStore (τ : Type) where
  signals : List (SignalRow τ)
  occurrences : List (OccurrenceRow τ)
  snapshotIngests : List (SnapshotIngestRow τ)
  tickets : List (TicketRow τ)
  comments : List (CommentRow τ)
  tasks : List (TaskRow τ)
  auditEvents : List (AuditEvent τ)

/-- The database that `_initialize` creates. -/
def TicketStore.empty {τ : Type} : TicketStore τ := ⟨[], [], [], [], [], [], []⟩

end DTLab
