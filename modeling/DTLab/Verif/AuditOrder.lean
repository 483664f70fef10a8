import DTLab.Library.System
import DTLab.Verif.TicketHistory
import Mathlib.Order.Basic

/-!
# The order of the audit trail

Callers of the ticket store read the clock, wait for the write lock and commit, so they may commit
in another order than that of their readings. The trail of a ticket is chronological in every run
in which no caller writes a ticket that was updated behind its reading.
-/

namespace DTLab

open Library (System.run System.Keeps System.Keeps.cons System.run_append System.run_invariant
  System.keeps_trivial)

variable {τ : Type}

/-! ## Chronological trails -/

/-- An instant that is forgotten, set or kept is the new one or it was there. -/
theorem mem_stamp {forgotten set : Prop} [Decidable forgotten] [Decidable set] {now instant : τ}
    {kept : Option τ}
    (member : instant ∈ if forgotten then none else if set then some now else kept) :
    instant = now ∨ instant ∈ kept := by
  split_ifs at member
  · cases member
  · exact Or.inl (Option.some.inj member).symm
  · exact Or.inr member

variable [LinearOrder τ]

/-- No event of a ticket was recorded before one with a later instant. -/
def TicketStore.Chronological (store : TicketStore τ) : Prop :=
  ∀ ticketId, (store.eventsOf ticketId).Pairwise fun early late =>
    early.occurredAt ≤ late.occurredAt

/-- The instants of a row follow each other. -/
structure TicketRow.Ordered (row : TicketRow τ) : Prop where
  resolvedAt : ∀ instant ∈ row.resolvedAt, instant ≤ row.updatedAt
  closedAt : ∀ closed ∈ row.closedAt, ∀ resolved ∈ row.resolvedAt, resolved ≤ closed

/-- A move at an instant that is not before the last update keeps the instants in order. -/
theorem Move.ordered {now : τ} {row next : TicketRow τ} {action : AuditAction τ}
    (move : Move now row action next) (stamped : next.Stamped) (before : row.Ordered)
    (behind : row.updatedAt ≤ now) : next.Ordered := by
  have resolved : ∀ instant ∈ row.resolvedAt, instant ≤ now :=
    fun instant member => (before.resolvedAt instant member).trans behind
  cases move with
  | transitioned note allowed =>
    rename_i target
    have kept : ∀ instant ∈ (row.transitioned now target).resolvedAt, instant ≤ now := by
      intro instant member
      rcases mem_stamp member with same | earlier
      · exact same.le
      · exact resolved instant earlier
    refine ⟨kept, fun closed isClosed instant member => ?_⟩
    -- only the transition to `closed` leaves an instant of closure, which is the new one
    have closing : target = .closed := stamped.closed.mp (Option.isSome_of_mem isClosed)
    have same : (row.transitioned now target).closedAt = some now := by
      simp [TicketRow.transitioned, closing]
    rw [same] at isClosed
    rw [← Option.some.inj isClosed]
    exact kept instant member
  | assigned owner => exact ⟨resolved, before.closedAt⟩
  | prioritized priority slaDueAt => exact ⟨resolved, before.closedAt⟩
  | recalculated slaDueAt => exact ⟨resolved, before.closedAt⟩
  | noted note => exact ⟨resolved, before.closedAt⟩

/-- The rows of a chronological trail have their instants in order. -/
theorem Trail.ordered {events : List (AuditEvent τ)} {after : Option (TicketRow τ)}
    (trail : Trail none events after)
    (chronological : events.Pairwise fun early late => early.occurredAt ≤ late.occurredAt) :
    ∀ row ∈ after, row.Ordered := by
  induction trail with
  | start =>
    intro row member
    cases member
  | born earlier creation _ =>
    intro row member
    obtain rfl := Option.some.inj member
    constructor
    · simp [creation.resolvedAt]
    · simp [creation.closedAt]
  | @moved events event row next earlier move ih =>
    intro last member
    obtain rfl := Option.some.inj member
    have before := List.pairwise_append.mp chronological
    have behind : row.updatedAt ≤ event.occurredAt := by
      obtain ⟨final, isLast, same⟩ := Option.map_eq_some_iff.mp earlier.updatedAt
      rw [← same]
      exact before.2.2 final (List.mem_of_getLast? isLast) event List.mem_cons_self
    have stamped := (earlier.moved move).stamped next rfl
    exact move.ordered stamped (ih before.1 row rfl) behind

/-! ## Callers -/

/-- The clock, the callers that have read it and wait for the lock, and the store. -/
structure Callers (τ : Type) where
  clock : τ
  waiting : List (CallContext τ × StoreCall)
  store : TicketStore τ

/-- What happens next. -/
inductive CallerAction (τ : Type) where
  /-- The clock moves on. -/
  | tick (instant : τ)
  /-- A caller of an operation reads the clock. -/
  | begin (calendar : Except TicketError (TicketPriority → τ → Except TicketError τ))
    (uuid : Nat → String) (call : StoreCall)
  /-- A caller that waits takes the lock, and its operation commits or raises. -/
  | commit (index : Nat)
  /-- A caller that waits gives up. -/
  | abandon (index : Nat)

/-- Nobody waits, and the database is empty. -/
def Callers.start (clock : τ) : Callers τ := ⟨clock, [], .empty⟩

variable (platform : StorePlatform)

/-- The state behind an action; the clock never goes backwards. -/
def Callers.step (state : Callers τ) : CallerAction τ → Option (Callers τ)
  | .tick instant =>
    if state.clock ≤ instant then some { state with clock := instant } else none
  | .begin calendar uuid call =>
    some { state with waiting := state.waiting ++ [(⟨state.clock, calendar, uuid⟩, call)] }
  | .commit index => state.waiting[index]?.map fun caller =>
    { state with
      waiting := state.waiting.eraseIdx index
      store := caller.2.apply platform caller.1 state.store }
  | .abandon index => state.waiting[index]?.map fun _ =>
    { state with waiting := state.waiting.eraseIdx index }

/-- An operation that returns writes no ticket that was updated behind the caller's reading of
the clock. -/
def Callers.InOrder (state : Callers τ) : CallerAction τ → Prop
  | .commit index => ∀ caller ∈ state.waiting[index]?, ∀ later,
    caller.2.commit platform caller.1 state.store = .ok later →
      ∀ row ∈ state.store.tickets, caller.2.Concerns platform caller.1 state.store row.id →
        row.updatedAt ≤ caller.1.now
  | _ => True

/-! ## Runs -/

variable {platform} {state next : Callers τ}

/-- The events of a ticket that a commit adds come behind those before it. -/
theorem TicketStore.Chronological.commits {now : τ} {concerned : String → Prop}
    {store later : TicketStore τ} (chronological : store.Chronological)
    (recorded : store.Recorded) (commits : Commits now concerned store later)
    (inOrder : ∀ row ∈ store.tickets, concerned row.id → row.updatedAt ≤ now) :
    later.Chronological := by
  obtain ⟨_, added, written, within⟩ := commits
  intro ticketId
  rw [written.eventsOf]
  have transitive : ∀ first second third : AuditEvent τ, first.occurredAt ≤ second.occurredAt →
      second.occurredAt ≤ third.occurredAt → first.occurredAt ≤ third.occurredAt :=
    fun _ _ _ => le_trans
  apply Library.Log.pairwise_append_last transitive (chronological ticketId)
  · apply List.pairwise_of_forall_mem_list
    intro early isEarly late isLate
    have first := written.stamped early (List.mem_of_mem_filter isEarly)
    have second := written.stamped late (List.mem_of_mem_filter isLate)
    rw [first, second]
  · intro final isLast event member
    obtain ⟨inside, owned⟩ := List.mem_filter.mp member
    have same : event.ticketId = ticketId := of_decide_eq_true owned
    rw [written.stamped event inside]
    cases found : store.ticketOf ticketId with
    | none =>
      have trail := recorded.trail ticketId
      rw [found] at trail
      rw [trail.of_none.1] at isLast
      cases isLast
    | some row =>
      have trail := recorded.trail ticketId
      rw [found] at trail
      have isUpdate := trail.updatedAt
      rw [Option.mem_def.mp isLast] at isUpdate
      rw [Option.some.inj isUpdate]
      have here : row ∈ store.tickets := Library.Table.mem_of_row? found
      have isId : row.id = ticketId := Library.Table.key_of_row? found
      apply inOrder row here
      rw [isId, ← same]
      apply within event inside
      rw [same, found]
      rfl

/-- The store keeps the trails of its tickets, and they are chronological. -/
structure Callers.Sound (state : Callers τ) : Prop where
  recorded : state.store.Recorded
  chronological : state.store.Chronological

/-- At the start nothing is written. -/
theorem Callers.sound_start (clock : τ) : (Callers.start clock).Sound :=
  ⟨TicketStore.recorded_empty, fun _ => List.Pairwise.nil⟩

/-- A commit is the one action that writes the store, with the operation of a caller. -/
theorem Callers.step_store {action : CallerAction τ}
    (taken : state.step platform action = some next) :
    next.store = state.store ∨ ∃ index, action = .commit index ∧
      ∃ caller ∈ state.waiting[index]?, next.store =
        caller.2.apply platform caller.1 state.store := by
  cases action with
  | tick instant =>
    simp only [step] at taken
    split_ifs at taken
    obtain rfl := Option.some.inj taken
    exact Or.inl rfl
  | begin calendar uuid call =>
    obtain rfl := Option.some.inj taken
    exact Or.inl rfl
  | commit index =>
    obtain ⟨caller, waits, rfl⟩ := Option.map_eq_some_iff.mp taken
    exact Or.inr ⟨index, rfl, caller, waits, rfl⟩
  | abandon index =>
    obtain ⟨caller, waits, rfl⟩ := Option.map_eq_some_iff.mp taken
    exact Or.inl rfl

/-- An action in order keeps the trails chronological. -/
theorem Callers.Sound.step {action : CallerAction τ} (sound : state.Sound)
    (inOrder : state.InOrder platform action) (taken : state.step platform action = some next) :
    next.Sound := by
  rcases Callers.step_store taken with same | ⟨index, rfl, caller, waits, same⟩
  · exact ⟨same ▸ sound.recorded, same ▸ sound.chronological⟩
  · refine ⟨same ▸ caller.2.apply_recorded sound.recorded, ?_⟩
    rw [same]
    rcases caller.2.apply_cases platform caller.1 state.store with unchanged | committed
    · rw [unchanged]
      exact sound.chronological
    · have commits := caller.2.commit_commits sound.recorded.sound committed
      exact sound.chronological.commits sound.recorded commits
        (inOrder caller waits _ committed)

/-- The events of a ticket are those before an action, and those that it adds. -/
theorem Callers.step_eventsOf {action : CallerAction τ} (recorded : state.store.Recorded)
    (taken : state.step platform action = some next) (ticketId : String) :
    next.store.Recorded ∧ state.store.eventsOf ticketId <+: next.store.eventsOf ticketId := by
  rcases Callers.step_store taken with same | ⟨index, rfl, caller, waits, same⟩
  · rw [same]
    exact ⟨recorded, List.prefix_refl _⟩
  · rw [same]
    refine ⟨caller.2.apply_recorded recorded, ?_⟩
    rcases caller.2.apply_cases platform caller.1 state.store with unchanged | committed
    · rw [unchanged]
    · obtain ⟨_, added, written, _⟩ := caller.2.commit_commits recorded.sound committed
      rw [written.eventsOf]
      exact List.prefix_append _ _

/-- The events of a ticket are never lost in a run. -/
theorem Callers.run_eventsOf {actions : List (CallerAction τ)} {final : Callers τ}
    (recorded : state.store.Recorded)
    (reached : System.run (Callers.step platform) state actions = some final) (ticketId : String) :
    final.store.Recorded ∧ state.store.eventsOf ticketId <+: final.store.eventsOf ticketId := by
  have keeps (between : Callers τ) (action : CallerAction τ) (last : Callers τ)
      (before : between.store.Recorded ∧
        state.store.eventsOf ticketId <+: between.store.eventsOf ticketId) (_ : True)
      (taken : between.step platform action = some last) :
      last.store.Recorded ∧ state.store.eventsOf ticketId <+: last.store.eventsOf ticketId := by
    obtain ⟨kept, grown⟩ := Callers.step_eventsOf before.1 taken ticketId
    exact ⟨kept, before.2.trans grown⟩
  have free := System.keeps_trivial (Callers.step platform) state actions
  exact System.run_invariant keeps ⟨recorded, List.prefix_refl _⟩ free reached

/-- What is chronological of a store behind another one: the trails of its tickets, the updates of
each ticket between the two, and the instants of resolution and closure. -/
structure TicketStore.ChronologicalSince (store before : TicketStore τ) : Prop where
  trail : store.Chronological
  updatedAt : ∀ row ∈ before.tickets,
    ∃ later ∈ store.tickets, later.id = row.id ∧ row.updatedAt ≤ later.updatedAt
  closedAt : ∀ row ∈ store.tickets, ∀ closed ∈ row.closedAt, ∀ resolved ∈ row.resolvedAt,
    resolved ≤ closed

/-- A ticket is found behind a chronological run, and it was not updated earlier. -/
theorem TicketStore.Chronological.updatedAt {before store : TicketStore τ}
    (chronological : store.Chronological) (recorded : store.Recorded) {row : TicketRow τ}
    (trail : Trail none (before.eventsOf row.id) (some row))
    (grown : before.eventsOf row.id <+: store.eventsOf row.id) :
    ∃ later ∈ store.tickets, later.id = row.id ∧ row.updatedAt ≤ later.updatedAt := by
  obtain ⟨first, isFirst, atFirst⟩ := Option.map_eq_some_iff.mp trail.updatedAt
  have inside : first ∈ store.eventsOf row.id := grown.subset (List.mem_of_getLast? isFirst)
  cases found : store.ticketOf row.id with
  | none =>
    have behind := recorded.trail row.id
    rw [found] at behind
    rw [behind.of_none.1] at inside
    cases inside
  | some later =>
    have behind := recorded.trail row.id
    rw [found] at behind
    obtain ⟨last, isLast, atLast⟩ := Option.map_eq_some_iff.mp behind.updatedAt
    refine ⟨later, Library.Table.mem_of_row? found, Library.Table.key_of_row? found, ?_⟩
    rw [← atFirst, ← atLast]
    obtain ⟨earlier, split⟩ := List.getLast?_eq_some_iff.mp isLast
    have ordered := chronological row.id
    rw [split] at inside ordered
    rcases List.mem_append.mp inside with early | same
    · exact (List.pairwise_append.mp ordered).2.2 first early last List.mem_cons_self
    · rw [List.mem_singleton.mp same]

/-! ## Two callers -/

/-- A caller of an operation reads the clock, with the calendar and the ids of an instant. -/
def shiftBegin (instant : Nat) (call : StoreCall) : CallerAction Nat :=
  .begin (shiftContext instant).calendar (shiftContext instant).uuid call

/-- A finding is ingested and gets a ticket. -/
def openTicket : List (CallerAction Nat) :=
  [shiftBegin 0 (.ingestSignals [shiftSignal (plainDigest '0')]), .commit 0,
    shiftBegin 0 (.createTicketFromSignal
      ⟨signalIdOf (plainDigest '0'), "turno", "P3", none, none, none⟩), .commit 0]

/-- The store behind the finding. -/
def shiftStore : TicketStore Nat :=
  (TicketStore.empty.upsertChecked shiftPlatform 0 (shiftChecked (plainDigest '0'))).1

/-- The store behind the ticket of the finding. -/
def ticketStore : TicketStore Nat :=
  (StoreCall.createTicketFromSignal
    ⟨signalIdOf (plainDigest '0'), "turno", "P3", none, none, none⟩).apply shiftPlatform
      (shiftContext 0) shiftStore

/-- The ticket is opened. -/
theorem run_openTicket :
    System.run (Callers.step shiftPlatform) (Callers.start 0) openTicket =
      some ⟨0, [], ticketStore⟩ := by
  have ingested := apply_shift zeros_isDigest
  simp only [openTicket, System.run, Callers.step, Callers.start, shiftBegin, List.nil_append,
    List.getElem?_cons_zero, Option.map_some, Option.bind_some, List.eraseIdx_cons_zero]
  rw [show (⟨0, (shiftContext 0).calendar, (shiftContext 0).uuid⟩ : CallContext Nat) =
    shiftContext 0 from rfl, ingested]
  rfl

/-- The ticket is suppressed an hour later. -/
def suppressLater : List (CallerAction Nat) :=
  [.tick 1, shiftBegin 1 (.transitionTicket "ticket:" "suppressed" "turno" (some "noto")),
    .commit 0]

/-- The two calls commit in the order of their instants. -/
theorem keeps_openTicket :
    System.Keeps (Callers.step shiftPlatform) (Callers.InOrder shiftPlatform) (Callers.start 0)
      openTicket := by
  refine System.Keeps.cons trivial rfl (System.Keeps.cons ?_ rfl (System.Keeps.cons trivial rfl
    (System.Keeps.cons ?_ rfl trivial)))
  · intro caller waits later _ row member
    cases member
  · intro caller waits later _ row _ concerned
    obtain rfl := Option.some.inj waits
    exact concerned.elim

/-- So does the later suppression. -/
theorem keeps_suppressLater :
    System.Keeps (Callers.step shiftPlatform) (Callers.InOrder shiftPlatform)
      ⟨0, [], ticketStore⟩ suppressLater := by
  have updated : ∀ row ∈ ticketStore.tickets, row.updatedAt ≤ 1 := by decide
  refine System.Keeps.cons trivial rfl (System.Keeps.cons trivial rfl
    (System.Keeps.cons ?_ rfl trivial))
  intro caller waits later _ row member _
  obtain rfl := Option.some.inj waits
  exact updated row member

/-! ## The trail is chronological -/

/-- In every run in which no caller writes a ticket that was updated behind its reading of the
clock, the trails are chronological, no ticket's update moves backwards and none is closed before
it is resolved. -/
theorem audit_chronological (platform : StorePlatform) (clock : τ)
    (past future : List (CallerAction τ)) (middle final : Callers τ)
    (toMiddle : System.run (Callers.step platform) (Callers.start clock) past = some middle)
    (toFinal : System.run (Callers.step platform) middle future = some final)
    (meets : System.Keeps (Callers.step platform) (Callers.InOrder platform)
      (Callers.start clock) (past ++ future)) :
    final.store.ChronologicalSince middle.store := by
  have reached : System.run (Callers.step platform) (Callers.start clock) (past ++ future) =
      some final := by
    rw [System.run_append, toMiddle]
    exact toFinal
  have keeps (state : Callers τ) (action : CallerAction τ) (next : Callers τ)
      (sound : state.Sound) (inOrder : state.InOrder platform action)
      (taken : state.step platform action = some next) : next.Sound :=
    sound.step inOrder taken
  have sound := System.run_invariant keeps (Callers.sound_start clock) meets reached
  have between := Callers.run_eventsOf TicketStore.recorded_empty toMiddle ""
  refine ⟨sound.chronological, fun row member => ?_, fun row member => ?_⟩
  · have trail := between.1.trail_of_mem member
    obtain ⟨_, grown⟩ := Callers.run_eventsOf between.1 toFinal row.id
    exact sound.chronological.updatedAt sound.recorded trail grown
  · have trail := sound.recorded.trail_of_mem member
    exact (trail.ordered (sound.chronological row.id) row rfl).closedAt

/-- The audit behind the suppression is in order. -/
theorem audit_chronological_shift :
    ∃ final, System.run (Callers.step shiftPlatform) ⟨0, [], ticketStore⟩ suppressLater =
      some final ∧ final.store.ChronologicalSince ticketStore :=
  ⟨_, rfl, audit_chronological shiftPlatform 0 openTicket suppressLater _ _ run_openTicket rfl
    (keeps_openTicket.append run_openTicket keeps_suppressLater)⟩

/-- A comment is begun before the ticket is suppressed, and commits behind it. -/
def overtaken : List (CallerAction Nat) :=
  [shiftBegin 0 (.addComment "ticket:" "turno" "nota"), .tick 1,
    shiftBegin 1 (.transitionTicket "ticket:" "suppressed" "turno" (some "noto")), .commit 1]

/-- The comment gets the instant at which it was begun, and so does the ticket. -/
theorem comment_behind_suppression :
    ∃ middle final, System.run (Callers.step shiftPlatform) (Callers.start 0)
        (openTicket ++ overtaken) = some middle ∧
      System.run (Callers.step shiftPlatform) middle [.commit 0] = some final ∧
      ¬ final.store.ChronologicalSince middle.store := by
  rw [System.run_append, run_openTicket, Option.bind_some]
  refine ⟨_, _, rfl, rfl, ?_⟩
  intro chronological
  have trail := chronological.trail "ticket:"
  rw [← List.pairwise_map] at trail
  revert trail
  decide

end DTLab
