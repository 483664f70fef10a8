import DTLab.Library.Log
import DTLab.Tickets.Calls

/-!
# The audit trail tells the ticket

Replaying the audit events of a ticket in sequence gives its status, owner, priority and
deadline, every event records the value it found, and the last one is when the ticket was
updated. The instants of resolution and closure are there exactly in the statuses they belong to.
Each is an induction on the trail of the ticket, with one case for each move.
-/

namespace DTLab

variable {τ : Type}

/-! ## Replay -/

/-- What a replay of audit events knows of a ticket. -/
structure ReplayedTicket (τ : Type) where
  status : TicketStatus
  owner : Option String
  priority : TicketPriority
  slaDueAt : τ
  deriving DecidableEq

/-- The part of a row that a replay reproduces. -/
def TicketRow.replayed (row : TicketRow τ) : ReplayedTicket τ :=
  ⟨row.status, row.owner, row.priority, row.slaDueAt⟩

/-- One event of a replay. -/
def AuditAction.replay (before : Option (ReplayedTicket τ)) :
    AuditAction τ → Option (ReplayedTicket τ)
  | .created _ priority owner slaDueAt _ => some ⟨.new, owner, priority, slaDueAt⟩
  | .statusChanged _ status _ => before.map fun ticket => { ticket with status := status }
  | .assigned _ owner => before.map fun ticket => { ticket with owner := owner }
  | .priorityChanged _ priority _ slaDueAt _ =>
    before.map fun ticket => { ticket with priority := priority, slaDueAt := slaDueAt }
  | .slaCalendarRecalculated _ slaDueAt _ =>
    before.map fun ticket => { ticket with slaDueAt := slaDueAt }
  | _ => before

/-- The replay of a list of events. -/
def replay (events : List (AuditEvent τ)) : Option (ReplayedTicket τ) :=
  events.foldl (fun before event => event.action.replay before) none

/-- An event records the values it found, and its status change is allowed. -/
def AuditAction.Follows (before : Option (ReplayedTicket τ)) : AuditAction τ → Prop
  | .created _ _ _ _ _ => before = none
  | .statusChanged status next _ =>
    before.map ReplayedTicket.status = some status ∧ next ∈ status.transitions
  | .assigned owner _ => before.map ReplayedTicket.owner = some owner
  | .priorityChanged priority _ slaDueAt _ _ =>
    before.map ReplayedTicket.priority = some priority ∧
      before.map ReplayedTicket.slaDueAt = some slaDueAt
  | .slaCalendarRecalculated slaDueAt _ _ => before.map ReplayedTicket.slaDueAt = some slaDueAt
  | _ => before.isSome

/-- The last event is replayed behind the others. -/
theorem replay_concat (events : List (AuditEvent τ)) (event : AuditEvent τ) :
    replay (events ++ [event]) = event.action.replay (replay events) := by
  rw [replay, List.foldl_append]
  rfl

/-- A move replays as the row it leads to. -/
theorem Move.replay {now : τ} {row next : TicketRow τ} {action : AuditAction τ}
    (move : Move now row action next) :
    action.replay (some row.replayed) = some next.replayed := by
  cases move with
  | transitioned note allowed => rfl
  | assigned owner => rfl
  | prioritized priority slaDueAt => rfl
  | recalculated slaDueAt => rfl
  | noted note =>
    cases action <;> first | rfl | cases note

/-- A move records the values of the row it starts from. -/
theorem Move.follows {now : τ} {row next : TicketRow τ} {action : AuditAction τ}
    (move : Move now row action next) : action.Follows (some row.replayed) := by
  cases move with
  | transitioned note allowed => exact ⟨rfl, allowed⟩
  | assigned owner => rfl
  | prioritized priority slaDueAt => exact ⟨rfl, rfl⟩
  | recalculated slaDueAt => rfl
  | noted note =>
    cases action <;> first | rfl | cases note

/-- Every move leaves its instant as that of the last update. -/
theorem Move.updatedAt {now : τ} {row next : TicketRow τ} {action : AuditAction τ}
    (move : Move now row action next) : next.updatedAt = now := by
  cases move <;> rfl

/-- A trail from the creation replays as the row. -/
theorem Trail.replay {events : List (AuditEvent τ)} {after : Option (TicketRow τ)}
    (trail : Trail none events after) : replay events = after.map TicketRow.replayed := by
  induction trail with
  | start => rfl
  | born _ creation _ =>
    obtain ⟨status, _, _, _, action⟩ := creation
    rw [replay_concat, action, Option.map_some, TicketRow.replayed, status]
    rfl
  | moved _ move ih =>
    rw [replay_concat, ih]
    exact move.replay

/-- Every event of a trail follows the replay of those before it. -/
theorem Trail.follows {events : List (AuditEvent τ)} {after : Option (TicketRow τ)}
    (trail : Trail none events after) {past rest : List (AuditEvent τ)} {event : AuditEvent τ}
    (split : events = past ++ event :: rest) : event.action.Follows (DTLab.replay past) := by
  induction trail generalizing rest with
  | start =>
    have never := List.append_ne_nil_of_right_ne_nil past (List.cons_ne_nil event rest)
    exact absurd split.symm never
  | born earlier creation ih =>
    obtain ⟨rfl, rfl, _⟩ | ⟨before, _, inside⟩ := Library.Log.split_concat split
    · rw [creation.action, earlier.replay]
      rfl
    · exact ih inside
  | moved earlier move ih =>
    obtain ⟨rfl, rfl, _⟩ | ⟨before, _, inside⟩ := Library.Log.split_concat split
    · rw [earlier.replay]
      exact move.follows
    · exact ih inside

/-- The last event of a trail is the last update of the row. -/
theorem Trail.updatedAt {events : List (AuditEvent τ)} {row : TicketRow τ}
    (trail : Trail none events (some row)) :
    events.getLast?.map AuditEvent.occurredAt = some row.updatedAt := by
  cases trail with
  | born earlier creation => simp [creation.updatedAt]
  | moved earlier move => simp [move.updatedAt]

/-! ## Instants of a decision -/

/-- The statuses in which a ticket has an instant of resolution. -/
def TicketStatus.resolvedStatuses : List TicketStatus :=
  [.resolved, .closed, .falsePositive, .acceptedRisk, .suppressed]

/-- A ticket leaves the statuses with an instant of resolution when it is reopened. -/
theorem TicketStatus.resolved_transition {status target : TicketStatus}
    (allowed : target ∈ status.transitions) :
    target ∈ resolvedStatuses ↔ ¬ (target = .investigating ∧ status ∈ resolvedStatuses) ∧
      (target ∈ decisions ∨ status ∈ resolvedStatuses) := by
  revert allowed
  cases status <;> cases target <;> decide

/-- A ticket is closed by the transition to `closed` only, and leaves it when it is reopened. -/
theorem TicketStatus.closed_transition {status target : TicketStatus}
    (allowed : target ∈ status.transitions) :
    target = .closed ↔ ¬ (target = .investigating ∧ status ∈ resolvedStatuses) ∧
      (target = .closed ∨ status = .closed) := by
  revert allowed
  cases status <;> cases target <;> decide

/-- An instant that is forgotten, set or kept. -/
theorem isSome_stamp {forgotten set : Prop} [Decidable forgotten] [Decidable set] (now : τ)
    (kept : Option τ) :
    (if forgotten then none else if set then some now else kept).isSome ↔
      ¬ forgotten ∧ (set ∨ kept.isSome) := by
  by_cases forgotten <;> by_cases set <;> simp [*]

/-- A row is closed or resolved at an instant exactly where its status says so. -/
structure TicketRow.Stamped (row : TicketRow τ) : Prop where
  closed : row.closedAt.isSome ↔ row.status = .closed
  resolved : row.resolvedAt.isSome ↔ row.status ∈ TicketStatus.resolvedStatuses

/-- An allowed transition keeps the instants with their statuses. -/
theorem TicketRow.Stamped.transitioned {row : TicketRow τ} (stamped : row.Stamped) (now : τ)
    {target : TicketStatus} (allowed : target ∈ row.status.transitions) :
    (row.transitioned now target).Stamped := by
  constructor
  · have closed := TicketStatus.closed_transition allowed
    rw [← stamped.closed] at closed
    exact (isSome_stamp now row.closedAt).trans closed.symm
  · have resolved := TicketStatus.resolved_transition allowed
    have before : (target ∈ TicketStatus.decisions ∨ row.resolvedAt.isSome) ↔
        target ∈ TicketStatus.decisions ∨ row.status ∈ TicketStatus.resolvedStatuses :=
      or_congr_right stamped.resolved
    rw [← before] at resolved
    exact (isSome_stamp now row.resolvedAt).trans resolved.symm

/-- Every move keeps the instants with their statuses. -/
theorem Move.stamped {now : τ} {row next : TicketRow τ} {action : AuditAction τ}
    (move : Move now row action next) (before : row.Stamped) : next.Stamped := by
  cases move with
  | transitioned note allowed => exact before.transitioned now allowed
  | assigned owner => exact ⟨before.closed, before.resolved⟩
  | prioritized priority slaDueAt => exact ⟨before.closed, before.resolved⟩
  | recalculated slaDueAt => exact ⟨before.closed, before.resolved⟩
  | noted note => exact ⟨before.closed, before.resolved⟩

/-- Every row that a trail leads to has the instants of its status. -/
theorem Trail.stamped {events : List (AuditEvent τ)} {after : Option (TicketRow τ)}
    (trail : Trail none events after) : ∀ row ∈ after, row.Stamped := by
  induction trail with
  | start =>
    intro row member
    cases member
  | born earlier creation _ =>
    intro row member
    obtain rfl := Option.some.inj member
    constructor
    · simp [creation.closedAt, creation.status]
    · simp [creation.resolvedAt, creation.status, TicketStatus.resolvedStatuses]
  | moved earlier move ih =>
    intro row member
    obtain rfl := Option.some.inj member
    exact move.stamped (ih _ rfl)

/-! ## Tickets of reachable stores -/

/-- The trail of a ticket of a recorded store. -/
theorem TicketStore.Recorded.trail_of_mem {store : TicketStore τ} (recorded : store.Recorded)
    {row : TicketRow τ} (member : row ∈ store.tickets) :
    Trail none (store.eventsOf row.id) (some row) := by
  have found : store.ticketOf row.id = some row :=
    Library.Table.row?_of_mem recorded.sound.ids member
  rw [← found]
  exact recorded.trail row.id

variable [DecidableEq τ]

/-- In every store that calls build, the events of a ticket replay as its status, owner, priority
and deadline, each of them follows the replay of those before it, and the last one is when the
ticket was updated. -/
theorem audit_replays (platform : StorePlatform) (calls : List (CallContext τ × StoreCall))
    (row : TicketRow τ) (member : row ∈ (TicketStore.after platform calls).tickets) :
    replay ((TicketStore.after platform calls).eventsOf row.id) = some row.replayed ∧
      (∀ past event rest,
        (TicketStore.after platform calls).eventsOf row.id = past ++ event :: rest →
        event.action.Follows (replay past)) ∧
      ((TicketStore.after platform calls).eventsOf row.id).getLast?.map AuditEvent.occurredAt =
        some row.updatedAt := by
  have trail := (TicketStore.recorded_after calls).trail_of_mem member
  exact ⟨trail.replay, fun past event rest split => trail.follows split, trail.updatedAt⟩

/-! ## A shift -/

/-- A digest of one digit. -/
def plainDigest (digit : Char) : String := String.ofList (List.replicate 64 digit)

/-- The digest of one digit is one. -/
theorem plainDigest_isDigest {digit : Char} (hex : isDigestBody (List.replicate 64 digit) = true) :
    isDigestBody (plainDigest digit).toList = true :=
  (congrArg isDigestBody String.toList_ofList).trans hex

/-- The digest of zeros is one. -/
theorem zeros_isDigest : isDigestBody (plainDigest '0').toList = true :=
  plainDigest_isDigest (by decide)

/-- What a call reads at an instant, without business hours. -/
def shiftContext (now : Nat) : CallContext Nat where
  now := now
  calendar := .ok fun priority created => .ok (created + priority.slaPolicyHours)
  uuid draw := String.ofList (List.replicate (8 * now + draw) 'a')

/-- A platform on which every text has one digest. -/
def shiftPlatform : StorePlatform := asciiPlatform fun _ => plainDigest '0'

/-- A platform on which every text is its own hash. -/
def textPlatform : StorePlatform := asciiPlatform String.ofList

/-- A finding of a snapshot. -/
def shiftSignal (digest : String) : SignalInput where
  fingerprint := plainDigest '0'
  signalType := "finding"
  snapshotSha256 := digest
  evidence := []
  severity := "high"
  title := "Titolo"
  description := "Descrizione"
  occurredAt := none
  observedAt := "2026-01-01"
  assetIds := []
  recommendedAction := none
  payload := []

/-- The finding behind its checks. -/
def shiftChecked (digest : String) : CheckedSignal where
  fingerprint := plainDigest '0'
  signalType := "finding"
  snapshotSha256 := digest
  sourceId := none
  sourceRecordId := none
  evidence := []
  severity := "high"
  title := "Titolo"
  description := "Descrizione"
  occurredAt := none
  observedAt := "2026-01-01"
  assetIds := []
  recommendedAction := none
  payload := []

/-- The texts of the finding are as the store keeps them. -/
theorem shift_texts :
    requiredText "Tipo segnale" 64 "finding" = .ok "finding" ∧
      requiredText "Severità" 32 "high" = .ok "high" ∧
      requiredText "Titolo" 1024 "Titolo" = .ok "Titolo" ∧
      requiredText "Descrizione" 16384 "Descrizione" = .ok "Descrizione" ∧
      requiredText "Timestamp osservazione" 64 "2026-01-01" = .ok "2026-01-01" ∧
      shiftPlatform.lower "high" = "high" := by
  decide

/-- The finding is as the store keeps it. -/
theorem shiftSignal_plain {digest : String} (isDigest : isDigestBody digest.toList = true) :
    (shiftSignal digest).Plain shiftPlatform := by
  obtain ⟨signalType, severity, title, description, observedAt, lowered⟩ := shift_texts
  exact {
    fingerprint := zeros_isDigest
    snapshotSha256 := isDigest
    signalType := signalType
    sourceId := rfl
    sourceRecordId := rfl
    severity := severity
    lowered := lowered
    title := title
    description := description
    occurredAt := rfl
    observedAt := observedAt
    assetIds := fun _ member => absurd member List.not_mem_nil
    recommendedAction := rfl }

/-- The finding passes its checks. -/
theorem checkSignal_shift {digest : String} (isDigest : isDigestBody digest.toList = true) :
    checkSignal shiftPlatform (shiftSignal digest) = .ok (shiftChecked digest) := by
  rw [checkSignal_of_plain (shiftSignal_plain isDigest)]
  simp [SignalInput.kept, shiftSignal, shiftChecked, evidenceText, jsonText, sortedDistinct]

/-- A finding with a payload. -/
def payloadSignal (digest : String) (payload : List (String × Library.Json)) : SignalInput :=
  { shiftSignal digest with payload := payload }

/-- The finding behind its checks. -/
def payloadChecked (digest : String) (payload : List (String × Library.Json)) : CheckedSignal :=
  { shiftChecked digest with payload := payload }

/-- It passes its checks. -/
theorem checkSignal_payload {digest : String} (payload : List (String × Library.Json))
    (isDigest : isDigestBody digest.toList = true) :
    checkSignal textPlatform (payloadSignal digest payload) =
      .ok (payloadChecked digest payload) := by
  have plain : (payloadSignal digest payload).Plain textPlatform := by
    have shift := shiftSignal_plain isDigest
    exact {
      fingerprint := shift.fingerprint
      snapshotSha256 := shift.snapshotSha256
      signalType := shift.signalType
      sourceId := shift.sourceId
      sourceRecordId := shift.sourceRecordId
      severity := shift.severity
      lowered := shift.lowered
      title := shift.title
      description := shift.description
      occurredAt := shift.occurredAt
      observedAt := shift.observedAt
      assetIds := shift.assetIds
      recommendedAction := shift.recommendedAction }
  rw [checkSignal_of_plain plain]
  simp [SignalInput.kept, payloadSignal, shiftSignal, payloadChecked, shiftChecked, evidenceText,
    jsonText, sortedDistinct]

/-- A finding gets a ticket, which is suppressed. -/
def shiftCalls : List (CallContext Nat × StoreCall) :=
  [(shiftContext 0, .ingestSignals [shiftSignal (plainDigest '0')]),
    (shiftContext 0, .createTicketFromSignal
      ⟨signalIdOf (plainDigest '0'), "turno", "P3", none, none, none⟩),
    (shiftContext 1, .transitionTicket "ticket:" "suppressed" "turno" (some "noto"))]

/-- The store behind the first call of the shift. -/
theorem apply_shift {digest : String} (isDigest : isDigestBody digest.toList = true) :
    (StoreCall.ingestSignals [shiftSignal digest]).apply shiftPlatform (shiftContext 0)
      (TicketStore.empty : TicketStore Nat) =
        (TicketStore.empty.upsertChecked shiftPlatform 0 (shiftChecked digest)).1 := by
  rw [StoreCall.apply, StoreCall.commit,
    TicketStore.ingestSignals_single .empty (shiftContext 0).now (checkSignal_shift isDigest)]
  rfl

/-- The ticket at the end of the shift. -/
theorem shift_suppressed : ∃ row ∈ (TicketStore.after shiftPlatform shiftCalls).tickets,
    row.status = .suppressed := by
  rw [TicketStore.after, shiftCalls, List.foldl_cons, apply_shift zeros_isDigest]
  decide

/-- The audit of a ticket of the shift is replayed. -/
theorem audit_replays_shift : ∃ row ∈ (TicketStore.after shiftPlatform shiftCalls).tickets,
    (replay ((TicketStore.after shiftPlatform shiftCalls).eventsOf row.id)).map
      ReplayedTicket.status = some .suppressed := by
  obtain ⟨row, member, status⟩ := shift_suppressed
  refine ⟨row, member, ?_⟩
  rw [(audit_replays shiftPlatform shiftCalls row member).1]
  exact congrArg some status

/-- In every store that calls build, a ticket has an instant of closure exactly when it is
closed, and one of resolution exactly when it is resolved, closed, or decided otherwise. -/
theorem lifecycle_stamps (platform : StorePlatform) (calls : List (CallContext τ × StoreCall))
    (row : TicketRow τ) (member : row ∈ (TicketStore.after platform calls).tickets) :
    (row.closedAt.isSome ↔ row.status = .closed) ∧
      (row.resolvedAt.isSome ↔ row.status ∈ TicketStatus.resolvedStatuses) := by
  have trail := (TicketStore.recorded_after calls).trail_of_mem member
  have stamped := trail.stamped row rfl
  exact ⟨stamped.closed, stamped.resolved⟩

/-- A ticket of the shift has its stamps. -/
theorem lifecycle_stamps_shift : ∃ row ∈ (TicketStore.after shiftPlatform shiftCalls).tickets,
    row.resolvedAt.isSome := by
  obtain ⟨row, member, status⟩ := shift_suppressed
  refine ⟨row, member, (lifecycle_stamps shiftPlatform shiftCalls row member).2.mpr ?_⟩
  rw [status]
  decide

end DTLab
