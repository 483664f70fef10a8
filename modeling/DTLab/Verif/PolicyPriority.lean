import DTLab.Library.System
import DTLab.Tickets.Policy
import DTLab.Verif.TicketHistory

/-!
# The policy and the urgency of a ticket

Any number of runs of the automatic policy and any operations of others, in any order. A run
compares the priority of the ticket that the creation returned, and sets its own one in a later
transaction. So it lowers the urgency of the ticket exactly when somebody made the ticket more
urgent than the policy's priority in between.
-/

namespace DTLab

open Library (System.run System.run_cons System.Keeps Table.Keyed)

variable {τ : Type}

/-! ## What a call does to the tickets -/

/-- A store behind another one has one ticket for a signal at most, and it has each ticket that
was there, for the same signal. -/
structure TicketStore.OneTicket (store later : TicketStore τ) : Prop where
  signalIds : Table.Keyed TicketRow.signalId later.tickets
  kept : ∀ ticketId row, store.ticketOf ticketId = some row →
    ∃ next, later.ticketOf ticketId = some next ∧ next.signalId = row.signalId

/-- No ticket that was there has another status, or a priority that is less urgent. -/
def TicketStore.NoDowngrade (store later : TicketStore τ) : Prop :=
  ∀ ticketId row, store.ticketOf ticketId = some row →
    ∃ next, later.ticketOf ticketId = some next ∧ next.status = row.status ∧
      next.priority.rank ≤ row.priority.rank

variable {platform : StorePlatform} {context : CallContext τ} {store later : TicketStore τ}

/-- A move keeps the signal of a ticket. -/
theorem Move.signalId {now : τ} {row next : TicketRow τ} {action : AuditAction τ}
    (move : Move now row action next) : next.signalId = row.signalId := by
  cases move <;> rfl

/-- A trail keeps the ticket and its signal. -/
theorem Trail.signalId {row : TicketRow τ} {events : List (AuditEvent τ)}
    {after : Option (TicketRow τ)} (trail : Trail (some row) events after) :
    ∃ next, after = some next ∧ next.signalId = row.signalId := by
  induction trail with
  | start => exact ⟨row, rfl, rfl⟩
  | born earlier creation ih =>
    obtain ⟨next, impossible, _⟩ := ih
    cases impossible
  | moved earlier move ih =>
    obtain ⟨before, same, kept⟩ := ih
    obtain rfl := Option.some.inj same
    exact ⟨_, rfl, move.signalId.trans kept⟩

namespace TicketStore

/-- A sound store has the tickets of itself. -/
theorem OneTicket.refl (sound : store.Sound) : store.OneTicket store :=
  ⟨sound.signalIds, fun _ row found => ⟨row, found, rfl⟩⟩

/-- A store has the priorities of itself. -/
theorem NoDowngrade.refl (store : TicketStore τ) : store.NoDowngrade store :=
  fun _ row found => ⟨row, found, rfl, le_refl _⟩

/-- What a transaction commits keeps the ticket of a signal. -/
theorem Commits.oneTicket {now : τ} {concerned : String → Prop}
    (commits : Commits now concerned store later) : store.OneTicket later := by
  obtain ⟨sound, added, written, _⟩ := commits
  refine ⟨sound.signalIds, fun ticketId row found => ?_⟩
  have trail := written.trail ticketId
  rw [found] at trail
  exact trail.signalId

/-- Setting a priority lowers no urgency exactly when the ticket has none that is more urgent. -/
theorem setTicketPriority_noDowngrade_iff {ticketId actor : String} {desired : TicketPriority}
    {result : TicketRow τ × TicketStore τ}
    (returned : store.setTicketPriority platform context ticketId desired.text actor =
      .ok result) :
    store.NoDowngrade result.2 ↔
      ∀ row ∈ store.ticketOf (strip ticketId), desired.rank ≤ row.priority.rank := by
  obtain ⟨row, next, found, checked, written⟩ := setTicketPriority_cases platform returned
  obtain rfl : desired = next :=
    Except.ok.inj ((normalizePriority_text platform desired).symm.trans checked)
  obtain ⟨same, rfl⟩ | ⟨_, actor', slaDueAt, rfl⟩ := written
  · refine iff_of_true (NoDowngrade.refl store) fun present member => ?_
    obtain rfl := Option.some.inj (found.symm.trans member)
    rw [same]
  · have changed : (store.updateTicket (strip ticketId) fun row =>
        (row.withPriority desired slaDueAt).touched context.now).ticketOf (strip ticketId) =
          some ((row.withPriority desired slaDueAt).touched context.now) := by
      apply ticketOf_updateTicket_self found
      exact fun _ => rfl
    constructor
    · intro kept present member
      obtain rfl := Option.some.inj (found.symm.trans member)
      obtain ⟨after, here, _, urgent⟩ := kept (strip ticketId) row found
      obtain rfl := Option.some.inj (changed.symm.trans here)
      exact urgent
    · intro urgent id other here
      by_cases same : id = strip ticketId
      · subst same
        obtain rfl := Option.some.inj (found.symm.trans here)
        exact ⟨_, changed, rfl, urgent row found⟩
      · refine ⟨other, ?_, rfl, le_refl _⟩
        rw [← here]
        apply ticketOf_updateTicket_ne _ same
        exact fun _ => rfl

/-- The creation of a ticket with its tasks lowers no urgency. -/
theorem createTicketWithTasks_noDowngrade {request : TicketRequest} {tasks : List TaskDefinition}
    {result : (TicketRow τ × Nat) × TicketStore τ} (sound : store.Sound)
    (returned : store.createTicketWithTasks platform context request tasks = .ok result) :
    store.NoDowngrade result.2 := by
  intro id row found
  obtain ⟨_, kept⟩ := createTicketWithTasks_ticketOf platform sound returned
  rcases kept id row found with same | touched
  · exact ⟨row, same, rfl, le_refl _⟩
  · exact ⟨_, touched, rfl, le_refl _⟩

end TicketStore

/-- A call of a run lowers no urgency, unless it sets a priority against a more urgent one. -/
theorem PolicyRun.step_noDowngrade_iff (run : PolicyRun τ) (context : CallContext τ)
    (signalId actor : String) (sound : store.Sound) :
    store.NoDowngrade (run.step platform context store signalId actor).2 ↔
      match run with
      | .escalating desired _ ticket _ => ∀ row ∈ store.ticketOf (strip ticket.id),
        (store.setTicketPriority platform context ticket.id desired.text actor).isOk →
          desired.rank ≤ row.priority.rank
      | _ => True := by
  have unchanged := TicketStore.NoDowngrade.refl store
  cases run with
  | reading =>
    apply iff_of_true _ trivial
    rw [step]
    split
    · exact unchanged
    · split_ifs <;> exact unchanged
  | looking desired =>
    apply iff_of_true _ trivial
    rw [step]
    split <;> exact unchanged
  | creating desired created =>
    apply iff_of_true _ trivial
    rw [step]
    split
    · exact unchanged
    · rename_i returned
      have kept := TicketStore.createTicketWithTasks_noDowngrade sound returned
      split_ifs <;> exact kept
  | escalating desired created ticket added =>
    simp only [step]
    cases returned : store.setTicketPriority platform context ticket.id desired.text actor with
    | error fault =>
      apply iff_of_true unchanged
      intro row _ impossible
      cases impossible
    | ok result =>
      have same := TicketStore.setTicketPriority_noDowngrade_iff returned
      simpa [Except.isOk, Except.toBool] using same
  | returned result => exact iff_of_true unchanged trivial
  | raised fault => exact iff_of_true unchanged trivial

/-! ## Runs of the policy among other callers -/

/-- A run of the policy with its arguments. -/
structure PolicyCaller (τ : Type) where
  signalId : String
  actor : String
  run : PolicyRun τ

/-- The store and the runs of the policy. -/
structure PolicyWorld (τ : Type) where
  store : TicketStore τ
  callers : List (PolicyCaller τ)

/-- What happens next. -/
inductive PolicyAction (τ : Type) where
  /-- Somebody calls an operation of the store. -/
  | operate (context : CallContext τ) (call : StoreCall)
  /-- The policy is applied to a signal. -/
  | enter (signalId actor : String)
  /-- A run of the policy makes its next call. -/
  | policy (index : Nat) (context : CallContext τ)

/-- No run, and the empty database. -/
def PolicyWorld.start : PolicyWorld τ := ⟨.empty, []⟩

variable (platform) [DecidableEq τ]

/-- The state behind an action. -/
def PolicyWorld.step (world : PolicyWorld τ) : PolicyAction τ → Option (PolicyWorld τ)
  | .operate context call =>
    some { world with store := call.apply platform context world.store }
  | .enter signalId actor =>
    some { world with callers := world.callers ++ [⟨signalId, actor, .reading⟩] }
  | .policy index context => world.callers[index]?.map fun caller =>
    let next := caller.run.step platform context world.store caller.signalId caller.actor
    ⟨next.2, world.callers.set index { caller with run := next.1 }⟩

/-- What an action does to the tickets: one ticket for a signal at most, and a call of the policy
changes no status and lowers no urgency. -/
def PolicyWorld.Safe (world : PolicyWorld τ) (action : PolicyAction τ) : Prop :=
  ∀ next ∈ world.step platform action, world.store.OneTicket next.store ∧
    match action with
    | .policy _ _ => world.store.NoDowngrade next.store
    | _ => True

/-- Where a run of the policy sets its priority and the call does not raise, the ticket has no
priority that is more urgent. -/
def PolicyWorld.Unraced (world : PolicyWorld τ) : PolicyAction τ → Prop
  | .policy index context => ∀ caller ∈ world.callers[index]?,
    match caller.run with
    | .escalating desired _ ticket _ => ∀ row ∈ world.store.ticketOf (strip ticket.id),
      (world.store.setTicketPriority platform context ticket.id desired.text caller.actor).isOk →
        desired.rank ≤ row.priority.rank
    | _ => True
  | _ => True

variable {platform}

/-! ## Steps -/

/-- The store behind any action has the tickets that were there. -/
theorem PolicyWorld.step_sound {world next : PolicyWorld τ} {action : PolicyAction τ}
    (sound : world.store.Sound) (taken : world.step platform action = some next) :
    next.store.Sound ∧ world.store.OneTicket next.store := by
  have unchanged : world.store.Sound ∧ world.store.OneTicket world.store :=
    ⟨sound, TicketStore.OneTicket.refl sound⟩
  cases action with
  | operate context call =>
    obtain rfl := Option.some.inj taken
    rcases call.apply_cases platform context world.store with same | committed
    · simp only [same]
      exact unchanged
    · have commits := call.commit_commits sound committed
      exact ⟨commits.sound, commits.oneTicket⟩
  | enter signalId actor =>
    obtain rfl := Option.some.inj taken
    exact unchanged
  | policy index context =>
    obtain ⟨caller, _, rfl⟩ := Option.map_eq_some_iff.mp taken
    have commits : world.store.Commits context.now (fun _ => True)
        (caller.run.step platform context world.store caller.signalId caller.actor).2 :=
      caller.run.step_commits caller.signalId caller.actor sound
    exact ⟨commits.sound, commits.oneTicket⟩

/-- An action is safe exactly when it is not raced. -/
theorem PolicyWorld.safe_iff {world : PolicyWorld τ} (action : PolicyAction τ)
    (sound : world.store.Sound) : world.Safe platform action ↔ world.Unraced platform action := by
  cases action with
  | operate context call =>
    exact iff_of_true (fun next taken => ⟨(step_sound sound taken).2, trivial⟩) trivial
  | enter signalId actor =>
    exact iff_of_true (fun next taken => ⟨(step_sound sound taken).2, trivial⟩) trivial
  | policy index context =>
    constructor
    · intro safe caller waits
      have taken : world.step platform (.policy index context) = some
          ⟨(caller.run.step platform context world.store caller.signalId caller.actor).2,
            world.callers.set index { caller with run :=
              (caller.run.step platform context world.store caller.signalId caller.actor).1 }⟩ := by
        rw [step, Option.mem_def.mp waits]
        rfl
      have kept := (safe _ taken).2
      exact (caller.run.step_noDowngrade_iff context caller.signalId caller.actor sound).mp kept
    · intro unraced next taken
      refine ⟨(step_sound sound taken).2, ?_⟩
      obtain ⟨caller, waits, rfl⟩ := Option.map_eq_some_iff.mp taken
      have free := unraced caller waits
      exact (caller.run.step_noDowngrade_iff context caller.signalId caller.actor sound).mpr free

/-! ## An operator in between -/

/-- A finding of the endpoint sensor. -/
def endpointSignal : SignalInput :=
  { shiftSignal (plainDigest '0') with
    signalType := hostOtSignalType
    evidence := [("source_id", .str hostOtSourceId)]
    payload := [("source_scope", .str hostOtSourceScope)] }

/-- The texts of the finding that are its own are as the store keeps them. -/
theorem endpointSignal_plain : endpointSignal.Plain shiftPlatform := by
  exact { shiftSignal_plain zeros_isDigest with
    signalType := requiredText_hostOtSignalType
    sourceId := optionalText_hostOtSourceId
    sourceRecordId := rfl }

/-- The store with the finding. -/
def endpointStore : TicketStore Nat :=
  { TicketStore.empty with
    signals := [(endpointSignal.kept shiftPlatform).insertedRow 0]
    occurrences := [(endpointSignal.kept shiftPlatform).occurrence shiftPlatform 0] }

/-- The ticket that an operator creates for the finding. -/
def endpointTicket : TicketRow Nat where
  id := "ticket:"
  signalId := signalIdOf (plainDigest '0')
  title := "Titolo"
  description := "Descrizione"
  status := .new
  priority := .p3
  owner := none
  createdBy := "turno"
  createdAt := 0
  updatedAt := 0
  slaDueAt := 24
  resolvedAt := none
  closedAt := none

/-- The store with the finding and its ticket. -/
def endpointTicketStore : TicketStore Nat :=
  { endpointStore with
    tickets := [endpointTicket]
    auditEvents := [⟨"ticket:", "turno", 0,
      .created (signalIdOf (plainDigest '0')) .p3 none 24 24⟩] }

/-- The finding is stored. -/
theorem apply_endpointSignal :
    (StoreCall.ingestSignals [endpointSignal]).apply shiftPlatform (shiftContext 0)
      (TicketStore.empty : TicketStore Nat) = endpointStore := by
  rw [StoreCall.apply, StoreCall.commit, TicketStore.ingestSignals_single .empty
    (shiftContext 0).now (checkSignal_of_plain endpointSignal_plain)]
  rfl

/-- The row of the finding. -/
theorem signalById_endpoint : endpointStore.signalById (signalIdOf (plainDigest '0')) =
    some ((endpointSignal.kept shiftPlatform).insertedRow 0) := by
  simp [TicketStore.signalById, endpointStore, Library.Table.row?, SignalRow.id,
    CheckedSignal.insertedRow, SignalInput.kept, endpointSignal, shiftSignal]

/-- The names of the shift pass their checks. -/
theorem shift_names :
    requiredText "Attore" 256 "turno" = .ok "turno" ∧
      normalizePriority shiftPlatform "P3" = .ok .p3 := by
  decide

/-- The operator opens a ticket for it. -/
theorem apply_endpointTicket :
    (StoreCall.createTicketFromSignal
      ⟨signalIdOf (plainDigest '0'), "turno", "P3", none, none, none⟩).apply shiftPlatform
        (shiftContext 0) endpointStore = endpointTicketStore := by
  have signalId := requiredText_signalIdOf zeros_isDigest
  obtain ⟨actor, priority⟩ := shift_names
  have checks : checkRequest shiftPlatform (shiftContext 0)
      ⟨signalIdOf (plainDigest '0'), "turno", "P3", none, none, none⟩ [] =
        .ok (⟨signalIdOf (plainDigest '0'), "turno", .p3, none, 24⟩, []) := by
    simp [checkRequest, signalId, actor, priority, optionalText, taskDefinitions, shiftContext,
      TicketPriority.slaPolicyHours, bind, Except.bind, pure, Except.pure]
  have absent : endpointStore.ticketOfSignal (signalIdOf (plainDigest '0')) = none := rfl
  rw [StoreCall.apply, StoreCall.commit, TicketStore.createTicketFromSignal, checks]
  simp only [bind, Except.bind, TicketStore.requireSignal_eq_ok.mpr signalById_endpoint,
    TicketStore.findOrCreateTicket, absent, TicketStore.createTicket, optionalText]
  rfl

/-- The finding gets a ticket that is not urgent, the policy is applied to it, and before the
policy sets its priority an operator sets a more urgent one. -/
def overruled : List (PolicyAction Nat) :=
  [.operate (shiftContext 0) (.ingestSignals [endpointSignal]),
    .operate (shiftContext 0) (.createTicketFromSignal
      ⟨signalIdOf (plainDigest '0'), "turno", "P3", none, none, none⟩),
    .enter (signalIdOf (plainDigest '0')) hostOtPolicyActor,
    .policy 0 (shiftContext 1), .policy 0 (shiftContext 1), .policy 0 (shiftContext 1),
    .operate (shiftContext 2) (.setTicketPriority "ticket:" "p1" "turno")]


/-- The ticket is that of the finding. -/
theorem ticketOfSignal_endpoint :
    endpointTicketStore.ticketOfSignal (signalIdOf (plainDigest '0')) = some endpointTicket := by
  simp [endpointTicketStore, TicketStore.ticketOfSignal, Library.Table.row?, endpointTicket]

/-- What the policy sees of the finding and its ticket. -/
theorem getSignal_endpoint :
    endpointTicketStore.getSignal (signalIdOf (plainDigest '0')) =
      .ok ((endpointSignal.kept shiftPlatform).insertedRow 0) := by
  have found : Library.Table.row? SignalRow.id endpointTicketStore.signals
      (signalIdOf (plainDigest '0')) = _ := signalById_endpoint
  rw [TicketStore.getSignal, requiredText_signalIdOf zeros_isDigest]
  simp only [bind, Except.bind, found]

/-- The call for the ticket of the finding returns it. -/
theorem getTicketForSignal_endpoint :
    endpointTicketStore.getTicketForSignal (signalIdOf (plainDigest '0')) =
      .ok (some endpointTicket) := by
  rw [TicketStore.getTicketForSignal, requiredText_signalIdOf zeros_isDigest]
  simp only [bind, Except.bind, ticketOfSignal_endpoint]

/-- The creation leaves the ticket with its priority; then an operator sets a more urgent one, and
the policy its own. -/
def Overruled (ticket : TicketRow Nat) (store : TicketStore Nat) : Bool :=
  let raised := (StoreCall.setTicketPriority "ticket:" "p1" "turno").apply shiftPlatform
    (shiftContext 2) store
  decide (ticket.priority = .p3 ∧ ticket.id = "ticket:" ∧
    (raised.ticketOf "ticket:").map TicketRow.priority = some .p1) &&
    match raised.setTicketPriority shiftPlatform (shiftContext 3) "ticket:" "p2"
      hostOtPolicyActor with
    | .ok result => decide ((result.2.ticketOf "ticket:").map TicketRow.priority = some .p2)
    | .error _ => false

/-- Where the operator raises the ticket behind the creation, the policy lowers it. -/
theorem endpoint_overruled :
    (match endpointTicketStore.createTicketWithTasks shiftPlatform (shiftContext 1)
      (policyRequest (signalIdOf (plainDigest '0')) hostOtPolicyActor .p2)
      hostModbusWriteTasks with
    | .ok ((ticket, _), later) => Overruled ticket later
    | .error _ => false) = true := by
  have checks := checkRequest_policy shiftPlatform (shiftContext 1) .p2
    (requiredText_signalIdOf zeros_isDigest) requiredText_hostOtPolicyActor
    taskDefinitions_hostModbusWrite rfl rfl
  have known : endpointTicketStore.signalById (signalIdOf (plainDigest '0')) = some
      ((endpointSignal.kept shiftPlatform).insertedRow 0) := signalById_endpoint
  rw [TicketStore.createTicketWithTasks_found shiftPlatform checks known ticketOfSignal_endpoint]
  decide

/-- The run of the policy on the finding. -/
def endpointCaller (run : PolicyRun Nat) : PolicyCaller Nat :=
  ⟨signalIdOf (plainDigest '0'), hostOtPolicyActor, run⟩

/-- A transaction of the policy is a step of the world. -/
theorem step_endpoint {store later : TicketStore Nat} {context : CallContext Nat}
    {run next : PolicyRun Nat}
    (taken : run.step shiftPlatform context store (signalIdOf (plainDigest '0'))
      hostOtPolicyActor = (next, later)) :
    PolicyWorld.step shiftPlatform ⟨store, [endpointCaller run]⟩ (.policy 0 context) =
      some ⟨later, [endpointCaller next]⟩ := by
  simp [PolicyWorld.step, endpointCaller, taken]

/-- The run up to the operator's call. -/
theorem run_overruled : ∃ store ticket added,
    System.run (PolicyWorld.step shiftPlatform) .start overruled =
      some ⟨store, [endpointCaller (.escalating .p2 false ticket added)]⟩ ∧ ticket.id = "ticket:" ∧
    (store.ticketOf "ticket:").map TicketRow.priority = some .p1 ∧
    ∃ result, store.setTicketPriority shiftPlatform (shiftContext 3) "ticket:" "p2"
      hostOtPolicyActor = .ok result ∧
        (result.2.ticketOf "ticket:").map TicketRow.priority = some .p2 := by
  have seen := endpoint_overruled
  have accepted : ((endpointSignal.kept shiftPlatform).insertedRow 0).isHostOt = true := by
    simp [SignalRow.isHostOt, isTextOf, endpointSignal, SignalInput.kept, CheckedSignal.insertedRow,
      evidenceText, jsonText, shiftPlatform, asciiPlatform]
  have desired : desiredPriority ((endpointSignal.kept shiftPlatform).insertedRow 0) = .p2 := by
    simp [desiredPriority, SignalRow.event, isTextOf, endpointSignal, shiftSignal, SignalInput.kept,
      CheckedSignal.insertedRow, List.lookup_cons]
  cases created : endpointTicketStore.createTicketWithTasks shiftPlatform (shiftContext 1)
      (policyRequest (signalIdOf (plainDigest '0')) hostOtPolicyActor .p2)
      hostModbusWriteTasks with
  | error fault =>
    rw [created] at seen
    cases seen
  | ok result =>
    obtain ⟨⟨ticket, added⟩, store⟩ := result
    simp only [created, Overruled, Bool.and_eq_true, decide_eq_true_eq] at seen
    obtain ⟨⟨priority, id, urgent⟩, lowered⟩ := seen
    refine ⟨_, ticket, added, ?_, id, urgent, ?_⟩
    · have less : TicketPriority.p2.rank < ticket.priority.rank := by
        rw [priority]
        decide
      have read : PolicyRun.reading.step shiftPlatform (shiftContext 1) endpointTicketStore
          (signalIdOf (plainDigest '0')) hostOtPolicyActor =
            (.looking .p2, endpointTicketStore) := by
        rw [PolicyRun.step_reading getSignal_endpoint accepted, desired]
      have first : PolicyWorld.step shiftPlatform .start
          (.operate (shiftContext 0) (.ingestSignals [endpointSignal])) =
            some ⟨endpointStore, []⟩ :=
        congrArg (fun store => some (PolicyWorld.mk store [])) apply_endpointSignal
      have second : PolicyWorld.step shiftPlatform ⟨endpointStore, []⟩
          (.operate (shiftContext 0) (.createTicketFromSignal
            ⟨signalIdOf (plainDigest '0'), "turno", "P3", none, none, none⟩)) =
              some ⟨endpointTicketStore, []⟩ :=
        congrArg (fun store => some (PolicyWorld.mk store [])) apply_endpointTicket
      have third : PolicyWorld.step shiftPlatform ⟨endpointTicketStore, []⟩
          (.enter (signalIdOf (plainDigest '0')) hostOtPolicyActor) =
            some ⟨endpointTicketStore, [endpointCaller .reading]⟩ := rfl
      rw [overruled, System.run_cons first, System.run_cons second, System.run_cons third,
        System.run_cons (step_endpoint read),
        System.run_cons (step_endpoint (PolicyRun.step_looking getTicketForSignal_endpoint)),
        System.run_cons (step_endpoint (PolicyRun.step_creating_less created less))]
      rfl
    · split at lowered
      · rename_i result returned
        exact ⟨result, returned, of_decide_eq_true lowered⟩
      · cases lowered

/-! ## The policy and more urgent priorities -/

/-- In every run of any number of policy runs and other callers: a signal has one ticket at most,
which stays its ticket, and no call of the policy changes its status or lowers its urgency, exactly
when no call of the policy sets a priority against one that is more urgent. -/
theorem policy_never_downgrades_iff (platform : StorePlatform) (actions : List (PolicyAction τ)) :
    System.Keeps (PolicyWorld.step platform) (PolicyWorld.Safe platform) .start actions ↔
      System.Keeps (PolicyWorld.step platform) (PolicyWorld.Unraced platform) .start actions := by
  have keeps (world : PolicyWorld τ) (action : PolicyAction τ) (next : PolicyWorld τ)
      (sound : world.store.Sound) (taken : world.step platform action = some next) :
      next.store.Sound := (PolicyWorld.step_sound sound taken).1
  have same (world : PolicyWorld τ) (action : PolicyAction τ) (sound : world.store.Sound) :
      world.Safe platform action ↔ world.Unraced platform action :=
    PolicyWorld.safe_iff action sound
  exact Library.System.keeps_iff keeps same TicketStore.sound_empty actions

/-- The operator made the ticket most urgent, and the policy makes it less urgent. -/
theorem policy_lowers_urgency :
    ∃ world, System.run (PolicyWorld.step shiftPlatform) .start overruled = some world ∧
      ¬ System.Keeps (PolicyWorld.step shiftPlatform) (PolicyWorld.Safe shiftPlatform) .start
        (overruled ++ [.policy 0 (shiftContext 3)]) := by
  obtain ⟨store, ticket, added, reached, id, urgent, result, returned, lowered⟩ := run_overruled
  refine ⟨_, reached, fun keeps => ?_⟩
  have taken : (PolicyRun.escalating .p2 false ticket added).step shiftPlatform (shiftContext 3)
      store (signalIdOf (plainDigest '0')) hostOtPolicyActor =
        (.returned ⟨result.1, false, true, added⟩, result.2) := by
    have set : store.setTicketPriority shiftPlatform (shiftContext 3) ticket.id
        TicketPriority.p2.text hostOtPolicyActor = .ok result := by
      rw [id]
      exact returned
    simp only [PolicyRun.step, set]
  have kept := ((keeps.behind reached).1 _ (step_endpoint taken)).2
  obtain ⟨row, found, priority⟩ := Option.map_eq_some_iff.mp urgent
  obtain ⟨next, behind, _, rank⟩ := kept "ticket:" row found
  change result.2.ticketOf "ticket:" = some next at behind
  rw [behind, Option.map_some, Option.some.injEq] at lowered
  rw [priority, lowered] at rank
  exact absurd rank (by decide)

end DTLab
