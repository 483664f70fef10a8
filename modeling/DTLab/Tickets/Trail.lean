import DTLab.Tickets.Operations

/-!
# The trail of a ticket

A move is what one audit event says of the row of its ticket: each of the five ways in which an
operation writes a ticket, with the event it records. A trail is a path of moves, one for each
event, from the row before to the row behind; it starts without a row where the first event is
the creation. `Written` says of a transaction that the events it adds are a trail of every ticket.
-/

namespace DTLab

open Library (Table.row? Table.update Table.Keyed)

variable {τ : Type}

/-! ## Moves -/

/-- An action that changes neither the status, the owner, the priority nor the deadline. -/
def AuditAction.isNote : AuditAction τ → Bool
  | .commentAdded _ => true
  | .taskAdded _ _ _ => true
  | .taskStatusChanged _ _ _ => true
  | _ => false

/-- One event at an instant takes a row to the next. -/
inductive Move (now : τ) (row : TicketRow τ) : AuditAction τ → TicketRow τ → Prop where
  | transitioned {target : TicketStatus} (note : Option String)
      (allowed : target ∈ row.status.transitions) :
      Move now row (.statusChanged row.status target note) (row.transitioned now target)
  | assigned (owner : Option String) :
      Move now row (.assigned row.owner owner) ((row.withOwner owner).touched now)
  | prioritized (priority : TicketPriority) (slaDueAt : τ) :
      Move now row
        (.priorityChanged row.priority priority row.slaDueAt slaDueAt priority.slaPolicyHours)
        ((row.withPriority priority slaDueAt).touched now)
  | recalculated (slaDueAt : τ) :
      Move now row
        (.slaCalendarRecalculated row.slaDueAt slaDueAt row.priority.slaPolicyHours)
        (row.recalculated now slaDueAt)
  | noted {action : AuditAction τ} (note : action.isNote = true) :
      Move now row action (row.touched now)

/-- The creation of a ticket at an instant. -/
structure Born (now : τ) (row : TicketRow τ) (action : AuditAction τ) : Prop where
  status : row.status = .new
  updatedAt : row.updatedAt = now
  resolvedAt : row.resolvedAt = none
  closedAt : row.closedAt = none
  action : action = .created row.signalId row.priority row.owner row.slaDueAt
    row.priority.slaPolicyHours

/-- The events of a ticket lead from one state of its row to another. -/
inductive Trail (before : Option (TicketRow τ)) :
    List (AuditEvent τ) → Option (TicketRow τ) → Prop where
  | start : Trail before [] before
  | born {events : List (AuditEvent τ)} {event : AuditEvent τ} {row : TicketRow τ}
      (earlier : Trail before events none)
      (creation : Born event.occurredAt row event.action) :
      Trail before (events ++ [event]) (some row)
  | moved {events : List (AuditEvent τ)} {event : AuditEvent τ} {row next : TicketRow τ}
      (earlier : Trail before events (some row))
      (move : Move event.occurredAt row event.action next) :
      Trail before (events ++ [event]) (some next)

/-- One trail behind another. -/
theorem Trail.append {before between after : Option (TicketRow τ)}
    {first second : List (AuditEvent τ)} (earlier : Trail before first between)
    (later : Trail between second after) : Trail before (first ++ second) after := by
  induction later with
  | start =>
    rw [List.append_nil]
    exact earlier
  | born _ creation ih =>
    rw [← List.append_assoc]
    exact ih.born creation
  | moved _ move ih =>
    rw [← List.append_assoc]
    exact ih.moved move

/-- A single move as a trail. -/
theorem Trail.single {event : AuditEvent τ} {row next : TicketRow τ}
    (move : Move event.occurredAt row event.action next) :
    Trail (some row) [event] (some next) :=
  (Trail.start : Trail (some row) [] (some row)).moved move

/-- No trail leads to the absence of a ticket but the empty one. -/
theorem Trail.of_none {before : Option (TicketRow τ)} {events : List (AuditEvent τ)}
    (trail : Trail before events none) : events = [] ∧ before = none := by
  cases trail with
  | start => exact ⟨rfl, rfl⟩

/-- The empty trail stays where it is. -/
theorem Trail.of_nil {before after : Option (TicketRow τ)} (trail : Trail before [] after) :
    after = before := by
  generalize same : ([] : List (AuditEvent τ)) = events at trail
  cases trail with
  | start => rfl
  | born _ _ => simp at same
  | moved _ _ => simp at same

/-! ## Transactions -/

namespace TicketStore

/-- The audit events of a ticket, in the order of their sequence. -/
def eventsOf (store : TicketStore τ) (ticketId : String) : List (AuditEvent τ) :=
  store.auditEvents.filter fun event => event.ticketId = ticketId

/-- No two tickets have one id or one signal, and every task has its ticket. -/
structure Sound (store : TicketStore τ) : Prop where
  ids : Table.Keyed TicketRow.id store.tickets
  signalIds : Table.Keyed TicketRow.signalId store.tickets
  tasks : ∀ task ∈ store.tasks, (store.ticketOf task.ticketId).isSome

theorem sound_empty : (empty : TicketStore τ).Sound :=
  ⟨List.nodup_nil, List.nodup_nil, fun _ member => absurd member List.not_mem_nil⟩

/-- A transaction at an instant adds audit events that are a trail of every ticket. -/
structure Written (now : τ) (store later : TicketStore τ) (added : List (AuditEvent τ)) :
    Prop where
  audit : later.auditEvents = store.auditEvents ++ added
  stamped : ∀ event ∈ added, event.occurredAt = now
  trail : ∀ ticketId, Trail (store.ticketOf ticketId)
    (added.filter fun event => event.ticketId = ticketId) (later.ticketOf ticketId)

namespace Written

variable {now : τ} {store later last : TicketStore τ} {added more : List (AuditEvent τ)}

/-- A transaction that writes neither tickets nor audit events. -/
theorem of_same (tickets : later.tickets = store.tickets)
    (audit : later.auditEvents = store.auditEvents) : Written now store later [] := by
  refine ⟨by rw [audit, List.append_nil], by simp, fun ticketId => ?_⟩
  rw [ticketOf, ticketOf, tickets]
  exact Trail.start

/-- Two parts of a transaction. -/
theorem trans (first : Written now store later added) (second : Written now later last more) :
    Written now store last (added ++ more) := by
  refine ⟨?_, ?_, fun ticketId => ?_⟩
  · rw [second.audit, first.audit, List.append_assoc]
  · intro event member
    rcases List.mem_append.mp member with inside | inside
    · exact first.stamped event inside
    · exact second.stamped event inside
  · rw [List.filter_append]
    exact (first.trail ticketId).append (second.trail ticketId)

/-- A ticket is never lost. -/
theorem isSome (written : Written now store later added) {ticketId : String}
    (present : (store.ticketOf ticketId).isSome) : (later.ticketOf ticketId).isSome := by
  cases found : later.ticketOf ticketId with
  | some row => rfl
  | none =>
    have trail := written.trail ticketId
    rw [found] at trail
    rw [trail.of_none.2] at present
    cases present

end Written

/-- Every audit event is part of the trail of its ticket, from its creation. -/
structure Recorded (store : TicketStore τ) : Prop where
  sound : store.Sound
  trail : ∀ ticketId, Trail none (store.eventsOf ticketId) (store.ticketOf ticketId)

theorem recorded_empty : (empty : TicketStore τ).Recorded :=
  ⟨sound_empty, fun _ => Trail.start⟩

/-- The events of a ticket behind a transaction. -/
theorem Written.eventsOf {now : τ} {store later : TicketStore τ} {added : List (AuditEvent τ)}
    (written : Written now store later added) (ticketId : String) :
    later.eventsOf ticketId = store.eventsOf ticketId ++
      added.filter fun event => event.ticketId = ticketId := by
  rw [TicketStore.eventsOf, written.audit, List.filter_append]
  rfl

/-- A transaction keeps the trails. -/
theorem Recorded.written {now : τ} {store later : TicketStore τ} {added : List (AuditEvent τ)}
    (recorded : store.Recorded) (sound : later.Sound)
    (written : Written now store later added) : later.Recorded := by
  refine ⟨sound, fun ticketId => ?_⟩
  rw [written.eventsOf]
  exact (recorded.trail ticketId).append (written.trail ticketId)

end TicketStore

end DTLab
