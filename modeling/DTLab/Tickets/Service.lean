import DTLab.Library.Timestamp
import DTLab.Tickets.BusinessHours
import DTLab.Tickets.Operations
import Mathlib.Data.List.Sort
import Mathlib.Data.String.Basic

/-!
# The front ends of the ticket store

`TicketService` of the API: which signals need a review, the join of signals and tickets, and the
counts over them. The user interface decides about a review by itself. The instants of the store
are readings of a clock in UTC, and the front ends see their texts.
-/

namespace DTLab

open Library (DateTime)

/-- A reading of a clock in UTC. -/
abbrev ClockTime := { time : DateTime // time.Valid }

namespace ClockTime

/-- `_utc_text`. -/
def text (time : ClockTime) : String := String.ofList time.1.utcText

/-- The instant of a reading. -/
def instant (time : ClockTime) : Int := time.1.instant

end ClockTime

/-! ## Reviews -/

/-- `_TERMINAL`. -/
def TicketStatus.terminal : List TicketStatus := [closed, falsePositive, acceptedRisk, suppressed]

/-- `_DECISION` and `_DECISION_STATUSES`. -/
def TicketStatus.decided : List TicketStatus := terminal ++ [resolved]

/-- The types of persistent conditions. -/
def persistentTypes : List String :=
  ["finding", "vulnerability", "new_ui_alert", "new_ui_vulnerability"]

/-- `closed_at or resolved_at`. -/
def TicketRow.decisionAt {τ : Type} (row : TicketRow τ) : Option τ := row.closedAt.or row.resolvedAt

/-- `TicketService._needs_review`. -/
def needsReview (signal : SignalRow ClockTime) : Option (TicketRow ClockTime) → Bool
  | none => true
  | some ticket =>
    if ticket.status ∉ TicketStatus.decided then false
    else if signal.signalType ∉ persistentTypes then false
    else
      match ticket.decisionAt with
      | none => false
      | some decisionAt => decide (decisionAt.text < signal.updatedAt.text)

/-- `signal_needs_review`, with what `pd.to_datetime` makes of a text. -/
def signalNeedsReview (toDatetime : String → Option Int) (signal : SignalRow ClockTime) :
    Option (TicketRow ClockTime) → Bool
  | none => true
  | some ticket =>
    if ticket.status ∉ TicketStatus.decided then false
    else if signal.signalType ∉ persistentTypes then false
    else
      match ticket.decisionAt.bind fun decisionAt => toDatetime decisionAt.text,
        toDatetime signal.updatedAt.text with
      | some decisionTime, some changedTime => decide (decisionTime < changedTime)
      | _, _ => false

/-! ## Lists -/

namespace TicketStore

variable (store : TicketStore ClockTime)

/-- `list_signals` without filters: each signal once for each of its tickets, or once. -/
def listSignals (limit : Nat) : List (SignalRow ClockTime) :=
  let joined := store.signals.flatMap fun signal =>
    List.replicate (max 1 (store.tickets.filter fun ticket =>
      ticket.signalId = signal.id).length) signal
  (joined.insertionSort fun first second =>
    second.lastObservedAt < first.lastObservedAt ∨
      second.lastObservedAt = first.lastObservedAt ∧ first.id ≤ second.id).take limit

/-- `list_tickets` without filters. -/
def listTickets (limit : Nat) : List (TicketRow ClockTime) :=
  (store.tickets.insertionSort fun first second =>
    second.updatedAt.text < first.updatedAt.text ∨
      second.updatedAt.text = first.updatedAt.text ∧ first.id ≤ second.id).take limit

end TicketStore

/-! ## Deadlines -/

/-- The state of a deadline. -/
inductive SlaState where
  | onTime
  | dueSoon
  | overdue
  | stopped
  deriving DecidableEq

/-- What `derive_ticket_sla` returns. -/
structure TicketSla where
  state : SlaState
  dueAt : String
  evaluatedAt : String
  remainingSeconds : Int
  policyHours : Nat
  stoppedAt : Option String
  stopReason : Option TicketStatus

/-- `derive_ticket_sla` of a stored ticket, whose texts are read as the instants they were written
from. -/
def deriveTicketSla (ticket : TicketRow ClockTime) (now : ClockTime) : TicketSla :=
  if ticket.status ∈ TicketStatus.slaStopped then
    let stoppedAt :=
      (if ticket.status = .closed then ticket.closedAt else ticket.resolvedAt).getD
        ticket.updatedAt
    { state := .stopped
      dueAt := ticket.slaDueAt.text
      evaluatedAt := now.text
      remainingSeconds := (ticket.slaDueAt.instant - stoppedAt.instant).tdiv 1000000
      policyHours := ticket.priority.slaPolicyHours
      stoppedAt := some stoppedAt.text
      stopReason := some ticket.status }
  else
    let remaining := ticket.slaDueAt.instant - now.instant
    { state :=
        if remaining ≤ 0 then .overdue
        else if remaining ≤ ticket.priority.slaPolicyHours * hourMicroseconds / 4 then .dueSoon
        else .onTime
      dueAt := ticket.slaDueAt.text
      evaluatedAt := now.text
      remainingSeconds := remaining.tdiv 1000000
      policyHours := ticket.priority.slaPolicyHours
      stoppedAt := none
      stopReason := none }

/-! ## The service -/

/-- `ticket_state`. -/
inductive TicketState where
  | unassigned
  | opened
  | resurfaced
  deriving DecidableEq

/-- A signal with its ticket, as `signals` returns it. -/
structure EnrichedSignal where
  signal : SignalRow ClockTime
  ticketId : Option String
  ticketState : TicketState

/-- The ticket of a signal in a list; of several ones the last. -/
def ticketBySignal (tickets : List (TicketRow ClockTime)) (signalId : String) :
    Option (TicketRow ClockTime) :=
  tickets.reverse.find? fun ticket => decide (ticket.signalId = signalId)

/-- One signal of `signals`. -/
def enrich (tickets : List (TicketRow ClockTime)) (signal : SignalRow ClockTime) :
    EnrichedSignal :=
  match ticketBySignal tickets signal.id with
  | none => ⟨signal, none, .unassigned⟩
  | some ticket =>
    ⟨signal, some ticket.id, if needsReview signal (some ticket) then .resurfaced else .opened⟩

/-- The limit of the lists that the service reads. -/
def serviceLimit : Nat := 1000

namespace TicketStore

variable (store : TicketStore ClockTime)

/-- `TicketService.signals`. -/
def serviceSignals : List EnrichedSignal :=
  (store.listSignals serviceLimit).map (enrich (store.listTickets serviceLimit))

end TicketStore

/-- Is a ticket not in a terminal status? -/
def TicketRow.active {τ : Type} (ticket : TicketRow τ) : Bool :=
  decide (ticket.status ∉ TicketStatus.terminal)

/-- Is a ticket urgent? -/
def TicketRow.urgent {τ : Type} (ticket : TicketRow τ) : Bool :=
  decide (ticket.priority ∈ [.p1, .p2])

/-- Has a ticket no owner? -/
def TicketRow.unowned {τ : Type} (ticket : TicketRow τ) : Bool :=
  decide (ticket.owner = none ∨ ticket.owner = some "")

/-- What `kpis` counts of a list of tickets. -/
structure TicketCounts where
  ticketsActive : Nat
  ticketsP1P2 : Nat
  ticketsUnowned : Nat
  slaOverdue : Nat
  slaDueSoon : Nat
  ticketsClosed : Nat
  deriving DecidableEq

/-- The counts over a list of tickets. -/
def ticketCounts (now : ClockTime) (tickets : List (TicketRow ClockTime)) : TicketCounts :=
  let active := tickets.filter TicketRow.active
  let sla := tickets.map fun ticket => deriveTicketSla ticket now
  { ticketsActive := active.length
    ticketsP1P2 := active.countP TicketRow.urgent
    ticketsUnowned := active.countP TicketRow.unowned
    slaOverdue := sla.countP fun value => decide (value.state = .overdue)
    slaDueSoon := sla.countP fun value => decide (value.state = .dueSoon)
    ticketsClosed := tickets.length - active.length }

/-- `kpis`. -/
structure ServiceKpis where
  signals : Nat
  unassigned : Nat
  criticalHigh : Nat
  tickets : TicketCounts

/-- `TicketService.kpis`. -/
def TicketStore.kpis (store : TicketStore ClockTime) (now : ClockTime) : ServiceKpis :=
  let signals := store.listSignals serviceLimit
  let tickets := store.listTickets serviceLimit
  let review := fun signal : SignalRow ClockTime =>
    needsReview signal (ticketBySignal tickets signal.id)
  { signals := signals.length
    unassigned := signals.countP review
    criticalHigh := signals.countP fun signal =>
      decide (signal.severity ∈ ["critical", "high"]) && review signal
    tickets := ticketCounts now tickets }

end DTLab
