import DTLab.Verif.ChecklistIntegrity
import DTLab.Verif.PolicyPriority
import DTLab.Verif.SensorIsolation

/-!
# Redelivery

A sensor delivers an event again where it knows of no answer. The ingest then writes neither the
signal nor an occurrence of it, and the policy reconciles the ticket of the signal: a ticket with
the tasks of the playbook that is urgent enough stays as it is, whatever else was done to it. One
that an operator has made less urgent gets the priority of the policy again.
-/

namespace DTLab

open Library (Json)

variable {τ : Type}

/-! ## What the policy reconciles -/

namespace TicketStore

/-- The ticket of a signal, with the tasks of the playbook. -/
def HasPlaybook (store : TicketStore τ) (signal : SignalRow τ) (ticket : TicketRow τ) : Prop :=
  store.ticketOfSignal signal.id = some ticket ∧
    ∀ task ∈ hostModbusWriteTasks, task.title ∈ (store.tasksOf ticket.id).map TaskRow.title

/-- The policy has nothing left to do for a signal. -/
def Reconciled (store : TicketStore τ) (signal : SignalRow τ) : Prop :=
  ∃ ticket, store.HasPlaybook signal ticket ∧
    ticket.priority.rank ≤ (desiredPriority signal).rank

/-- What a redelivery for a signal may do to a store: signals and occurrences stay, tickets keep
their status and owner, and nothing is taken away. A store that is reconciled stays as it is. -/
structure Redelivers (store : TicketStore τ) (signal : SignalRow τ) (later : TicketStore τ) :
    Prop where
  signals : later.signals = store.signals
  occurrences : later.occurrences = store.occurrences
  tickets : ∀ id ticket, store.ticketOf id = some ticket → ∃ next, later.ticketOf id = some next ∧
    next.status = ticket.status ∧ next.owner = ticket.owner ∧
      (next.priority = ticket.priority ∨ next.priority = desiredPriority signal)
  tasks : store.tasks <+: later.tasks
  auditEvents : store.auditEvents <+: later.auditEvents
  settled : store.Reconciled signal → later = store

variable {store later last : TicketStore τ} {signal : SignalRow τ}

/-- A redelivery may do nothing. -/
theorem Redelivers.refl (store : TicketStore τ) (signal : SignalRow τ) :
    store.Redelivers signal store where
  signals := rfl
  occurrences := rfl
  tickets := fun _ ticket found => ⟨ticket, found, rfl, rfl, Or.inl rfl⟩
  tasks := List.prefix_rfl
  auditEvents := List.prefix_rfl
  settled := fun _ => rfl

/-- The occurrences of signals are not written where signals are not. -/
theorem occurrences_of_statements {platform : StorePlatform} {now : τ}
    (statements : Statements platform now False store later) :
    later.occurrences = store.occurrences := by
  induction statements with
  | refl => rfl
  | tail _ statement ih =>
    refine Eq.trans ?_ ih
    cases statement with
    | signalUpserted ingest => exact ingest.elim
    | _ => rfl

/-! ## The calls of the policy -/

variable {platform : StorePlatform} {context : CallContext τ}

/-- The ticket that a creation returns is the one of its signal. -/
theorem createTicketWithTasks_signalId {request : TicketRequest} {tasks : List TaskDefinition}
    {result : (TicketRow τ × Nat) × TicketStore τ} (sound : store.Sound)
    (returned : store.createTicketWithTasks platform context request tasks = .ok result) :
    result.1.1.signalId = strip request.signalId := by
  simp only [createTicketWithTasks, Library.Attempt.bind_eq_ok] at returned
  obtain ⟨⟨checked, definitions⟩, checks, signal, required, ⟨created, between⟩, creation,
    ⟨added, behind⟩, filled, returned⟩ := returned
  obtain rfl := Except.ok.inj returned
  obtain ⟨named, _⟩ := checkRequest_eq_ok platform checks
  have first : Statements platform context.now False store between ∧ between.tasks = store.tasks ∧
      created.signalId = checked.signalId ∧ between.ticketOf created.id = some created :=
    findOrCreateTicket_statements sound (requireSignal_eq_ok.mp required) creation
  obtain ⟨_, _, signalId, here⟩ := first
  rcases addMissingTasks_ticketOf here filled with same | touched
  · simp only [same, Option.getD_some]
    exact signalId.trans named
  · simp only [touched, Option.getD_some]
    exact signalId.trans named

/-- Behind its creation the ticket of a signal has the tasks of the playbook. -/
theorem hasPlaybook_of_creation {signalId actor : String} {desired : TicketPriority}
    {result : (TicketRow τ × Nat) × TicketStore τ} (sound : store.Sound)
    (named : strip signalId = signal.id)
    (returned : store.createTicketWithTasks platform context
      (policyRequest signalId actor desired) hostModbusWriteTasks = .ok result) :
    result.2.HasPlaybook signal result.1.1 := by
  have commits := createTicketWithTasks_commits platform sound returned
  have here := (createTicketWithTasks_ticketOf platform sound returned).1
  have own : result.1.1.signalId = signal.id :=
    (createTicketWithTasks_signalId sound returned).trans named
  have ticket : result.2.ticketOfSignal signal.id = some result.1.1 := by
    rw [← own]
    exact Library.Table.row?_of_mem commits.sound.signalIds (Library.Table.mem_of_row? here)
  have both : Statements platform context.now False store result.2 ∧ _ :=
    createTicketWithTasks_statements sound returned
  obtain ⟨_, definitions, ticketId, checked, completes, row, found, same⟩ := both
  obtain rfl := Except.ok.inj (taskDefinitions_hostModbusWrite.symm.trans checked)
  refine ⟨ticket, fun task member => ?_⟩
  have rows : row = result.1.1 := by
    have other : result.2.ticketOfSignal signal.id = some row := by
      rw [← named, ← show row.signalId = strip signalId from same]
      exact Library.Table.row?_of_mem commits.sound.signalIds (Library.Table.mem_of_row? found)
    exact Option.some.inj (other.symm.trans ticket)
  rw [← rows, Library.Table.key_of_row? found]
  exact completes.complete task.title (List.mem_map_of_mem member)

/-- A creation where the playbook is on the ticket returns the ticket and leaves the store. -/
theorem createTicketWithTasks_settled {signalId actor : String} {desired : TicketPriority}
    {ticket : TicketRow τ} {result : (TicketRow τ × Nat) × TicketStore τ} (sound : store.Sound)
    (named : strip signalId = signal.id) (playbook : store.HasPlaybook signal ticket)
    (returned : store.createTicketWithTasks platform context
      (policyRequest signalId actor desired) hostModbusWriteTasks = .ok result) :
    result.2 = store ∧ result.1.1 = ticket := by
  have covered : (Fill.createWithTasks (policyRequest signalId actor desired)
      hostModbusWriteTasks).Covered store := by
    intro definitions checked
    obtain rfl := Except.ok.inj (taskDefinitions_hostModbusWrite.symm.trans checked)
    refine ⟨ticket.id, ⟨ticket, ?_, ?_⟩, playbook.2⟩
    · exact Library.Table.row?_of_mem sound.ids (Library.Table.mem_of_row? playbook.1)
    · exact (Library.Table.key_of_row? playbook.1).trans named.symm
  have run : (Fill.createWithTasks (policyRequest signalId actor desired)
      hostModbusWriteTasks).run platform context store = .ok (result.1.2, result.2) := by
    rw [Fill.run, returned]
    rfl
  have same := (Prod.mk.inj (Fill.run_of_covered sound covered run)).2
  refine ⟨same, ?_⟩
  have own := (hasPlaybook_of_creation sound named returned).1
  rw [same, playbook.1] at own
  exact (Option.some.inj own).symm

/-- What a creation by the policy does to the store is allowed to a redelivery. -/
theorem redelivers_of_creation {signalId actor : String} {desired : TicketPriority}
    {result : (TicketRow τ × Nat) × TicketStore τ} (sound : store.Sound)
    (named : strip signalId = signal.id)
    (returned : store.createTicketWithTasks platform context
      (policyRequest signalId actor desired) hostModbusWriteTasks = .ok result) :
    store.Redelivers signal result.2 := by
  have both : Statements platform context.now False store result.2 ∧ _ :=
    createTicketWithTasks_statements sound returned
  obtain ⟨statements, _, _, _, completes, _⟩ := both
  obtain ⟨_, events, written, _⟩ := createTicketWithTasks_commits platform sound returned
  obtain ⟨new, tasks, _⟩ := completes.tasks
  refine ⟨signals_of_statements statements, occurrences_of_statements statements, ?_,
    ⟨new, tasks.symm⟩, ⟨events, written.audit.symm⟩, ?_⟩
  · intro id ticket found
    rcases (createTicketWithTasks_ticketOf platform sound returned).2 id ticket found with
      same | touched
    · exact ⟨ticket, same, rfl, rfl, Or.inl rfl⟩
    · exact ⟨_, touched, rfl, rfl, Or.inl rfl⟩
  · rintro ⟨ticket, playbook, _⟩
    exact (createTicketWithTasks_settled sound named playbook returned).1

/-- What the policy does to a ticket that is less urgent than its own priority is allowed to a
redelivery. -/
theorem Redelivers.escalated {ticket : TicketRow τ} {actor : String}
    {result : TicketRow τ × TicketStore τ} (redelivers : store.Redelivers signal later)
    (playbook : later.HasPlaybook signal ticket)
    (less : (desiredPriority signal).rank < ticket.priority.rank)
    (returned : later.setTicketPriority platform context ticket.id (desiredPriority signal).text
      actor = .ok result) :
    store.Redelivers signal result.2 := by
  obtain ⟨row, next, found, checked, written⟩ := setTicketPriority_cases platform returned
  obtain rfl : desiredPriority signal = next :=
    Except.ok.inj ((normalizePriority_text platform _).symm.trans checked)
  obtain ⟨_, rfl⟩ | ⟨_, actor', slaDueAt, rfl⟩ := written
  · exact redelivers
  · refine ⟨redelivers.signals, redelivers.occurrences, ?_, redelivers.tasks,
      redelivers.auditEvents.trans (List.prefix_append _ _), ?_⟩
    · intro id present known
      obtain ⟨before, there, status, owner, priority⟩ := redelivers.tickets id present known
      by_cases same : id = strip ticket.id
      · subst same
        obtain rfl := Option.some.inj (found.symm.trans there)
        refine ⟨(row.withPriority (desiredPriority signal) slaDueAt).touched context.now, ?_,
          status, owner, Or.inr rfl⟩
        apply ticketOf_updateTicket_self found
        exact fun _ => rfl
      · refine ⟨before, ?_, status, owner, priority⟩
        rw [← there]
        apply ticketOf_updateTicket_ne _ same
        exact fun _ => rfl
    · -- a store that was reconciled had a ticket that is urgent enough
      intro reconciled
      obtain rfl := redelivers.settled reconciled
      obtain ⟨other, playbook', urgent⟩ := reconciled
      obtain rfl := Option.some.inj (playbook'.1.symm.trans playbook.1)
      exact absurd urgent (not_le.mpr less)

/-- A transaction that writes no tasks keeps the ticket of a signal and its playbook. -/
theorem HasPlaybook.kept {now : τ} {concerned : String → Prop} {ticket : TicketRow τ}
    (playbook : store.HasPlaybook signal ticket) (sound : store.Sound)
    (commits : store.Commits now concerned later) (tasks : later.tasks = store.tasks) :
    ∃ next, later.HasPlaybook signal next ∧ later.ticketOf ticket.id = some next := by
  have here : store.ticketOf ticket.id = some ticket :=
    Library.Table.row?_of_mem sound.ids (Library.Table.mem_of_row? playbook.1)
  obtain ⟨next, there, same⟩ := commits.oneTicket.kept ticket.id ticket here
  refine ⟨next, ⟨?_, ?_⟩, there⟩
  · rw [← same.trans (Library.Table.key_of_row? playbook.1)]
    exact Library.Table.row?_of_mem commits.sound.signalIds (Library.Table.mem_of_row? there)
  · have id : next.id = ticket.id := Library.Table.key_of_row? there
    rw [id, tasksOf, tasks]
    exact playbook.2

/-- Setting a priority writes no tasks. -/
theorem tasks_setTicketPriority {ticketId priority actor : String}
    {result : TicketRow τ × TicketStore τ}
    (returned : store.setTicketPriority platform context ticketId priority actor = .ok result) :
    result.2.tasks = store.tasks := by
  obtain ⟨_, _, _, _, ⟨_, rfl⟩ | ⟨_, _, _, rfl⟩⟩ := setTicketPriority_cases platform returned
  · rfl
  · rfl

/-- Behind the escalation the ticket is as urgent as the policy wants. -/
theorem reconciled_of_escalation {ticket : TicketRow τ} {actor : String}
    {result : TicketRow τ × TicketStore τ} (sound : store.Sound)
    (playbook : store.HasPlaybook signal ticket) (plain : strip ticket.id = ticket.id)
    (returned : store.setTicketPriority platform context ticket.id (desiredPriority signal).text
      actor = .ok result) :
    result.2.Reconciled signal := by
  have commits := setTicketPriority_commits platform sound returned
  obtain ⟨next, playbook', there⟩ :=
    playbook.kept sound commits (tasks_setTicketPriority returned)
  refine ⟨next, playbook', ?_⟩
  obtain ⟨row, priority, found, checked, written⟩ := setTicketPriority_cases platform returned
  obtain rfl : desiredPriority signal = priority :=
    Except.ok.inj ((normalizePriority_text platform _).symm.trans checked)
  rw [plain] at found written
  obtain ⟨same, rfl⟩ | ⟨_, actor', slaDueAt, rfl⟩ := written
  · obtain rfl := Option.some.inj (found.symm.trans there)
    rw [same]
  · have changed : (store.updateTicket ticket.id fun row =>
        (row.withPriority (desiredPriority signal) slaDueAt).touched context.now).ticketOf
          ticket.id = some ((row.withPriority (desiredPriority signal) slaDueAt).touched
            context.now) := by
      apply ticketOf_updateTicket_self found
      exact fun _ => rfl
    obtain rfl := Option.some.inj (changed.symm.trans there)
    exact le_refl _

end TicketStore

/-! ## A redelivery call by call -/

open TicketStore (HasPlaybook)

/-- How far the redelivery for a signal has come, and what holds of the store there. -/
def Redelivering (store : TicketStore τ) (signal : SignalRow τ) (later : TicketStore τ) :
    IngestRun τ → Prop
  | .guarding | .ingesting | .applying _ .reading => later = store
  | .applying _ (.looking desired) | .applying _ (.creating desired _) =>
    later = store ∧ desired = desiredPriority signal
  | .applying _ (.escalating desired _ ticket _) =>
    later.Sound ∧ store.Redelivers signal later ∧ desired = desiredPriority signal ∧
      later.HasPlaybook signal ticket ∧ desired.rank < ticket.priority.rank
  | .applying _ (.returned _) | .applying _ (.raised _) => False
  | .returned _ => store.Redelivers signal later ∧
    ((∀ ticket ∈ later.ticketOfSignal signal.id, strip ticket.id = ticket.id) →
      later.Reconciled signal)
  | .raised _ => store.Redelivers signal later

variable {platform : ReceiverPlatform} {context : CallContext τ} {store later : TicketStore τ}
  {signal : SignalRow τ} {document : Json}

/-- Every point of a redelivery is allowed to it. -/
theorem Redelivering.redelivers {run : IngestRun τ}
    (reached : Redelivering store signal later run) : store.Redelivers signal later := by
  have unchanged := TicketStore.Redelivers.refl store signal
  cases run with
  | guarding =>
    obtain rfl : later = store := reached
    exact unchanged
  | ingesting =>
    obtain rfl : later = store := reached
    exact unchanged
  | applying stats policy =>
    cases policy with
    | reading =>
      obtain rfl : later = store := reached
      exact unchanged
    | looking desired =>
      obtain ⟨rfl, _⟩ : later = store ∧ _ := reached
      exact unchanged
    | creating desired created =>
      obtain ⟨rfl, _⟩ : later = store ∧ _ := reached
      exact unchanged
    | escalating desired created ticket added => exact reached.2.1
    | returned result => exact reached.elim
    | raised fault => exact reached.elim
  | returned result => exact reached.1
  | raised fault => exact reached

/-- The calls of the policy bring a redelivery further. -/
theorem Redelivering.policy {stats : IngestStats} {policy : PolicyRun τ} (sound : store.Sound)
    (named : signal.id = hostOtSignalId platform document)
    (known : store.getSignal (hostOtSignalId platform document) = .ok signal)
    (reached : Redelivering store signal later (.applying stats policy)) :
    Redelivering store signal
      (policy.step platform.store context later (hostOtSignalId platform document)
        hostOtPolicyActor).2
      (IngestRun.ofPolicy platform document stats
        (policy.step platform.store context later (hostOtSignalId platform document)
          hostOtPolicyActor).1) := by
  have unchanged := TicketStore.Redelivers.refl store signal
  have stripped : strip (hostOtSignalId platform document) = signal.id := by
    rw [named, strip_hostOtSignalId]
  cases policy with
  | reading =>
    obtain rfl : later = store := reached
    simp only [PolicyRun.step, known]
    split_ifs
    · exact ⟨rfl, rfl⟩
    · exact unchanged
  | looking desired =>
    obtain ⟨rfl, rfl⟩ : later = store ∧ _ := reached
    simp only [PolicyRun.step]
    split
    · exact unchanged
    · exact ⟨rfl, rfl⟩
  | creating desired created =>
    obtain ⟨rfl, rfl⟩ : later = store ∧ _ := reached
    simp only [PolicyRun.step]
    split
    · exact unchanged
    · rename_i ticket added behind returned
      have redelivers := TicketStore.redelivers_of_creation sound stripped returned
      have playbook := TicketStore.hasPlaybook_of_creation sound stripped returned
      split_ifs with less
      · have commits := TicketStore.createTicketWithTasks_commits platform.store sound returned
        exact ⟨commits.sound, redelivers, rfl, playbook, less⟩
      · exact ⟨redelivers, fun _ => ⟨ticket, playbook, not_lt.mp less⟩⟩
  | escalating desired created ticket added =>
    obtain ⟨soundLater, redelivers, rfl, playbook, less⟩ := reached
    simp only [PolicyRun.step]
    split
    · exact redelivers
    · rename_i next behind returned
      refine ⟨redelivers.escalated playbook less returned, fun plain => ?_⟩
      apply TicketStore.reconciled_of_escalation soundLater playbook _ returned
      have commits := TicketStore.setTicketPriority_commits platform.store soundLater returned
      obtain ⟨kept, playbook', there⟩ :=
        playbook.kept soundLater commits (TicketStore.tasks_setTicketPriority returned)
      have id : kept.id = ticket.id := Library.Table.key_of_row? there
      rw [← id]
      exact plain kept playbook'.1
  | returned result => exact reached.elim
  | raised fault => exact reached.elim

/-- Every transaction brings a redelivery further. -/
theorem Redelivering.step {run : IngestRun τ} (sound : store.Sound)
    (stored : store.signalOf (hostOtFingerprint platform document) = some signal)
    (digest : signal.snapshotSha256 = documentSha256 platform document)
    (reached : Redelivering store signal later run) :
    Redelivering store signal (run.step platform context later document).2
      (run.step platform context later document).1 := by
  have unchanged := TicketStore.Redelivers.refl store signal
  have known : store.getSignal (hostOtSignalId platform document) = .ok signal := by
    rw [getSignal_hostOtSignalId, stored]
  have named : signal.id = hostOtSignalId platform document :=
    congrArg signalIdOf (Library.Table.key_of_row? stored)
  cases run with
  | guarding =>
    obtain rfl : later = store := reached
    simp only [IngestRun.step, known]
    split_ifs
    · exact rfl
    · exact unchanged
  | ingesting =>
    obtain rfl : later = store := reached
    rcases IngestRun.step_ingesting platform context later document with
      ⟨fault, _, refused⟩ | ⟨checked, stats, passed, upserted⟩
    · rw [refused]
      exact unchanged
    · have fields := checkSignal_hostOtSignal passed
      rw [← fields.fingerprint] at stored
      rw [← fields.snapshotSha256] at digest
      rw [upserted, TicketStore.upsertChecked_again stored digest]
      exact rfl
  | applying stats policy =>
    rw [IngestRun.step]
    exact Redelivering.policy sound named known reached
  | returned result => exact reached
  | raised fault => exact reached

/-- The first transaction of a call, and the others behind it. -/
theorem IngestRun.steps_cons (contexts : List (CallContext τ)) (run : IngestRun τ) :
    run.steps platform document (context :: contexts) store =
      (run.step platform context store document).1.steps platform document contexts
        (run.step platform context store document).2 := by
  rw [steps, steps, List.foldl_cons]

/-- A redelivery gets to its end point by point. -/
theorem Redelivering.steps {run : IngestRun τ} (sound : store.Sound)
    (stored : store.signalOf (hostOtFingerprint platform document) = some signal)
    (digest : signal.snapshotSha256 = documentSha256 platform document)
    (contexts : List (CallContext τ)) (reached : Redelivering store signal later run) :
    Redelivering store signal (run.steps platform document contexts later).2
      (run.steps platform document contexts later).1 := by
  induction contexts generalizing run later with
  | nil => exact reached
  | cons context contexts ih =>
    rw [IngestRun.steps_cons]
    exact ih (reached.step sound stored digest)

/-- The redelivery of a write starts at its guard, or it is refused. -/
theorem Redelivering.start (write : textAt ["event_type"] document = "modbus_write")
    (digest : Option String) :
    Redelivering store signal store (IngestRun.start platform document digest) := by
  rw [IngestRun.start]
  split
  · exact TicketStore.Redelivers.refl store signal
  · rename_i none
    have heartbeat : textAt ["event_type"] document = "heartbeat" := by
      simp only [signalFromHostOtEvent, Library.Attempt.bind_eq_ok] at none
      obtain ⟨_, _, none⟩ := none
      split_ifs at none with _ _ type
      · exact type
      · cases none
    rw [write] at heartbeat
    exact absurd heartbeat (by decide)
  · exact rfl

/-- A creation where the playbook is on the ticket succeeds where its checks do. -/
theorem TicketStore.createTicketWithTasks_of_playbook {platform : StorePlatform}
    {signalId actor : String} {desired : TicketPriority} {due : τ} {ticket : TicketRow τ}
    (sound : store.Sound) (known : store.signalById signalId = some signal)
    (same : signal.id = signalId)
    (playbook : store.HasPlaybook signal ticket)
    (checks : checkRequest platform context (policyRequest signalId actor desired)
      hostModbusWriteTasks = .ok (⟨signalId, actor, desired, none, due⟩, hostModbusWriteTasks)) :
    store.createTicketWithTasks platform context (policyRequest signalId actor desired)
      hostModbusWriteTasks = .ok ((ticket, 0), store) := by
  have found : store.ticketOfSignal signalId = some ticket := same ▸ playbook.1
  rw [createTicketWithTasks_found platform checks known found,
    addMissingTasks_none playbook.2]
  have here : store.ticketOf ticket.id = some ticket :=
    Library.Table.row?_of_mem sound.ids (Library.Table.mem_of_row? playbook.1)
  simp only [Except.map, here, Option.getD_some]

/-- The redelivery for a ticket that is less urgent than the policy wants sets its priority. -/
theorem IngestRun.steps_escalates {checked : CheckedSignal} {ticket : TicketRow τ} {added : Nat}
    {result : TicketRow τ × TicketStore τ}
    (stored : store.signalOf (hostOtFingerprint platform document) = some signal)
    (digest : signal.snapshotSha256 = documentSha256 platform document)
    (passes : revisionErrors platform signal document = [])
    (passed : checkSignal platform.store (hostOtSignal platform document) = .ok checked)
    (accepted : signal.isHostOt = true)
    (created : store.createTicketWithTasks platform.store context
      (policyRequest (hostOtSignalId platform document) hostOtPolicyActor (desiredPriority signal))
      hostModbusWriteTasks = .ok ((ticket, added), store))
    (less : (desiredPriority signal).rank < ticket.priority.rank)
    (set : store.setTicketPriority platform.store context ticket.id (desiredPriority signal).text
      hostOtPolicyActor = .ok result) :
    ∃ ended, (IngestRun.guarding : IngestRun τ).steps platform document
      (List.replicate 6 context) store = (.returned ended, result.2) := by
  have known : store.getSignal (hostOtSignalId platform document) = .ok signal := by
    rw [getSignal_hostOtSignalId, stored]
  have looked : store.getTicketForSignal (hostOtSignalId platform document) =
      .ok (store.ticketOfSignal (hostOtSignalId platform document)) := by
    rw [TicketStore.getTicketForSignal, requiredText_hostOtSignalId]
    rfl
  obtain ⟨stats, upserted⟩ : ∃ stats, (IngestRun.ingesting : IngestRun τ).step platform context
      store document = (.applying stats .reading, store) := by
    rcases IngestRun.step_ingesting platform context store document with
      ⟨fault, refused, _⟩ | ⟨again, stats, passed, upserted⟩
    · rw [passed] at refused
      cases refused
    · have fields := checkSignal_hostOtSignal passed
      rw [← fields.fingerprint] at stored
      rw [← fields.snapshotSha256] at digest
      rw [TicketStore.upsertChecked_again stored digest] at upserted
      exact ⟨stats, upserted⟩
  have guarded : (IngestRun.guarding : IngestRun τ).step platform context store document =
      (.ingesting, store) := IngestRun.step_guarding_passes stored passes
  have read : (IngestRun.applying stats .reading).step platform context store document =
      (.applying stats (.looking (desiredPriority signal)), store) := by
    rw [step, PolicyRun.step_reading known accepted]
    rfl
  have lookedUp : (IngestRun.applying stats (.looking (desiredPriority signal))).step platform
      context store document = (.applying stats (.creating (desiredPriority signal)
        (store.ticketOfSignal (hostOtSignalId platform document)).isNone), store) := by
    rw [step, PolicyRun.step_looking looked]
    rfl
  have filled : (IngestRun.applying stats (.creating (desiredPriority signal)
      (store.ticketOfSignal (hostOtSignalId platform document)).isNone)).step platform context store
        document = (.applying stats (.escalating (desiredPriority signal)
          (store.ticketOfSignal (hostOtSignalId platform document)).isNone ticket added),
          store) := by
    rw [step, PolicyRun.step_creating_less created less]
    rfl
  obtain ⟨ended, last⟩ : ∃ ended, (IngestRun.applying stats (.escalating (desiredPriority signal)
      (store.ticketOfSignal (hostOtSignalId platform document)).isNone ticket added)).step platform
        context store document = (.returned ended, result.2) := by
    rw [step, PolicyRun.step, set]
    exact ⟨_, rfl⟩
  have contexts : List.replicate 6 context =
      [context, context, context, context, context, context] := rfl
  refine ⟨ended, ?_⟩
  rw [contexts, steps_cons, guarded, steps_cons, upserted, steps_cons, read, steps_cons, lookedUp,
    steps_cons, filled, steps_cons, last]
  rfl

/-! ## An operator and the policy -/

/-- What the store makes of the signal of the east. -/
def eastSignal : CheckedSignal :=
  (hostOtSignal benchReceiver eastWrite).kept benchReceiver.store

/-- The signal of the east passes the checks of the store. -/
theorem checkSignal_east : checkSignal benchReceiver.store (hostOtSignal benchReceiver eastWrite) =
    .ok eastSignal :=
  checkSignal_of_plain (benchEvent_plain "a" "sensor-east" 1)

/-- The row of the signal of the east. -/
def eastRow : SignalRow Nat := eastSignal.insertedRow 0

/-- The store with the signal of the east. -/
def eastStore : TicketStore Nat :=
  (TicketStore.empty.upsertChecked benchReceiver.store 0 eastSignal).1

/-- The signal of the east is found by its fingerprint. -/
theorem signalOf_east :
    eastStore.signalOf (hostOtFingerprint benchReceiver eastWrite) = some eastRow := by
  rw [← (checkSignal_hostOtSignal checkSignal_east).fingerprint]
  have rows : eastStore.signals = [eastRow] := rfl
  simp [TicketStore.signalOf, rows, Library.Table.row?, eastRow, CheckedSignal.insertedRow]

/-- The policy accepts the signal of the east, and wants `p2` for it. -/
theorem eastRow_policy : eastRow.isHostOt = true ∧ desiredPriority eastRow = .p2 := by
  have fields := checkSignal_hostOtSignal checkSignal_east
  constructor
  · have type : eastRow.signalType = hostOtSignalType := fields.signalType
    have source : eastRow.sourceId = some hostOtSourceId := fields.sourceId
    have payload : eastRow.payload = eventPayload eastWrite := fields.payload
    rw [SignalRow.isHostOt, type, source, payload, decide_eq_true rfl, decide_eq_true rfl]
    decide
  · have payload : eastRow.payload = eventPayload eastWrite := fields.payload
    have severity : eastRow.severity = "high" := by
      show (hostOtSignal benchReceiver eastWrite).severity = "high"
      rw [(hostOtSignal_shows _ _).2.2, eastWrite, benchEvent_notShutdown]
      rfl
    have event : eastRow.event = some eastWrite := by
      rw [SignalRow.event, payload]
      rfl
    have classification : isTextOf "process_shutdown_sequence"
        ((eastRow.event.bind (memberOf "detection")).bind (memberOf "classification")) = false := by
      rw [event]
      rfl
    rw [desiredPriority, classification, severity]
    rfl

/-- The guard lets the document of the east pass again. -/
theorem revisionErrors_east : revisionErrors benchReceiver eastRow eastWrite = [] := by
  have fields := checkSignal_hostOtSignal checkSignal_east
  have digest : eastRow.snapshotSha256 = documentSha256 benchReceiver eastWrite :=
    fields.snapshotSha256
  have incoming : documentRevision benchReceiver eastWrite = some 1 := rfl
  simp [revisionErrors, (@eastRow_fields Nat eastRow fields.payload).2, incoming, digest]

/-- The creation of the policy for the east. -/
def eastRequest : TicketRequest :=
  policyRequest (hostOtSignalId benchReceiver eastWrite) hostOtPolicyActor .p2

/-- The event of the east is delivered, and an operator makes its ticket less urgent. -/
def eastCalls : List (CallContext Nat × StoreCall) :=
  [(shiftContext 0, .ingestSignals [hostOtSignal benchReceiver eastWrite]),
    (shiftContext 0, .createTicketWithTasks eastRequest hostModbusWriteTasks),
    (shiftContext 1, .setTicketPriority "ticket:" "p4" "turno")]

/-- The operator makes the ticket least urgent, and the policy would set its priority again. -/
def Lowered (ticket : TicketRow Nat) (store : TicketStore Nat) : Bool :=
  decide (ticket.id = "ticket:") &&
    match store.setTicketPriority benchReceiver.store (shiftContext 1) "ticket:" "p4" "turno" with
    | .error _ => false
    | .ok (_, lowered) =>
      decide ((lowered.ticketOf "ticket:").map TicketRow.priority = some .p4) &&
        match lowered.setTicketPriority benchReceiver.store (shiftContext 2) "ticket:" "p2"
          hostOtPolicyActor with
        | .error _ => false
        | .ok (_, later) => decide ((later.ticketOf "ticket:").map TicketRow.priority = some .p2)

/-- The creation of the ticket of the east, and what the operator and the policy set. -/
theorem east_lowered :
    (match eastStore.createTicketWithTasks benchReceiver.store (shiftContext 0) eastRequest
      hostModbusWriteTasks with
    | .ok ((ticket, _), later) => Lowered ticket later
    | .error _ => false) = true := by
  have checks := checkRequest_policy benchReceiver.store (shiftContext 0) .p2
    (requiredText_hostOtSignalId benchReceiver eastWrite) requiredText_hostOtPolicyActor
    taskDefinitions_hostModbusWrite rfl rfl
  have known : eastStore.signalById (hostOtSignalId benchReceiver eastWrite) = some eastRow := by
    rw [hostOtSignalId, TicketStore.signalById, ← TicketStore.signalOf_eq]
    exact signalOf_east
  have absent : eastStore.ticketOfSignal (hostOtSignalId benchReceiver eastWrite) = none := rfl
  rw [TicketStore.createTicketWithTasks, eastRequest, checks]
  simp only [bind, Except.bind, TicketStore.requireSignal_eq_ok.mpr known,
    TicketStore.findOrCreateTicket, absent, TicketStore.createTicket, optionalText]
  decide

/-- The first call of the east leaves its signal. -/
theorem apply_east : (StoreCall.ingestSignals [hostOtSignal benchReceiver eastWrite]).apply
    benchReceiver.store (shiftContext 0) (TicketStore.empty : TicketStore Nat) = eastStore := by
  rw [StoreCall.apply, StoreCall.commit,
    TicketStore.ingestSignals_single .empty (shiftContext 0).now checkSignal_east]
  rfl

/-- The store behind the delivery and the operator: its ticket is the least urgent one, and the
policy may set its own priority again. -/
theorem east_operated :
    ∃ lowered ticket, TicketStore.after benchReceiver.store eastCalls = lowered ∧
      lowered.Sound ∧ lowered.signals = eastStore.signals ∧
      lowered.HasPlaybook eastRow ticket ∧ ticket.id = "ticket:" ∧ ticket.priority = .p4 ∧
      ∃ result, lowered.setTicketPriority benchReceiver.store (shiftContext 2) "ticket:" "p2"
        hostOtPolicyActor = .ok result ∧
          (result.2.ticketOf "ticket:").map TicketRow.priority = some .p2 := by
  have stripped : strip (hostOtSignalId benchReceiver eastWrite) = eastRow.id := by
    rw [strip_hostOtSignalId]
    exact (congrArg signalIdOf (Library.Table.key_of_row? signalOf_east)).symm
  have sound : eastStore.Sound := by
    rw [← apply_east]
    exact (StoreCall.apply_recorded _ TicketStore.recorded_empty).sound
  have seen := east_lowered
  split at seen
  · rename_i ticket added middle created
    rw [Lowered, Bool.and_eq_true, decide_eq_true_eq] at seen
    obtain ⟨id, seen⟩ := seen
    split at seen
    · cases seen
    · rename_i row lowered lowering
      rw [Bool.and_eq_true, decide_eq_true_eq] at seen
      obtain ⟨least, seen⟩ := seen
      split at seen
      · cases seen
      · rename_i row' later setting
        have creates : (StoreCall.createTicketWithTasks eastRequest hostModbusWriteTasks).apply
            benchReceiver.store (shiftContext 0) eastStore = middle := by
          rw [StoreCall.apply, StoreCall.commit, created]
          rfl
        have lowers : (StoreCall.setTicketPriority "ticket:" "p4" "turno").apply
            benchReceiver.store (shiftContext 1) middle = lowered := by
          rw [StoreCall.apply, StoreCall.commit, lowering]
          rfl
        have written : Statements benchReceiver.store 0 False eastStore middle :=
          (TicketStore.createTicketWithTasks_statements sound created).1
        have changed : Statements benchReceiver.store 1 False middle lowered :=
          TicketStore.setTicketPriority_statements lowering
        have first := TicketStore.createTicketWithTasks_commits benchReceiver.store sound created
        have second :=
          TicketStore.setTicketPriority_commits benchReceiver.store first.sound lowering
        have playbook : middle.HasPlaybook eastRow ticket :=
          TicketStore.hasPlaybook_of_creation sound stripped created
        obtain ⟨next, playbook', there⟩ := playbook.kept first.sound second
          (TicketStore.tasks_setTicketPriority lowering)
        rw [id] at there
        rw [there, Option.map_some, Option.some.injEq] at least
        refine ⟨lowered, next, ?_, second.sound,
          (signals_of_statements changed).trans (signals_of_statements written), playbook',
          Library.Table.key_of_row? there, least, _, setting, of_decide_eq_true seen⟩
        rw [TicketStore.after, eastCalls, List.foldl_cons, List.foldl_cons, List.foldl_cons,
          List.foldl_nil, apply_east, creates, lowers]
  · cases seen

/-- The redelivery for the ticket that the operator made less urgent. -/
theorem east_redelivered :
    ∃ lowered last ended later, TicketStore.after benchReceiver.store eastCalls = lowered ∧
      lowered.signalOf (hostOtFingerprint benchReceiver eastWrite) = some eastRow ∧
      eastRow.snapshotSha256 = documentSha256 benchReceiver eastWrite ∧
      (lowered.ticketOf "ticket:").map TicketRow.priority = some .p4 ∧
      (IngestRun.guarding : IngestRun Nat).steps benchReceiver eastWrite
        (List.replicate 6 (shiftContext 2)) lowered = (.returned ended, later) ∧
      later.HasPlaybook eastRow last ∧ last.id = "ticket:" ∧
      (later.ticketOf "ticket:").map TicketRow.priority = some .p2 := by
  obtain ⟨lowered, ticket, after, sound, signals, playbook, id, least, result, setting, reset⟩ :=
    east_operated
  have digest : eastRow.snapshotSha256 = documentSha256 benchReceiver eastWrite :=
    (checkSignal_hostOtSignal checkSignal_east).snapshotSha256
  have stored : lowered.signalOf (hostOtFingerprint benchReceiver eastWrite) = some eastRow := by
    rw [TicketStore.signalOf, signals]
    exact signalOf_east
  have known : lowered.signalById (hostOtSignalId benchReceiver eastWrite) = some eastRow := by
    rw [hostOtSignalId, TicketStore.signalById, ← TicketStore.signalOf_eq]
    exact stored
  have here : lowered.ticketOf ticket.id = some ticket :=
    Library.Table.row?_of_mem sound.ids (Library.Table.mem_of_row? playbook.1)
  have checks := checkRequest_policy benchReceiver.store (shiftContext 2) .p2
    (requiredText_hostOtSignalId benchReceiver eastWrite) requiredText_hostOtPolicyActor
    taskDefinitions_hostModbusWrite rfl rfl
  have created := TicketStore.createTicketWithTasks_of_playbook sound known
    (congrArg signalIdOf (Library.Table.key_of_row? stored)) playbook checks
  have sets := TicketStore.setTicketPriority_commits benchReceiver.store sound setting
  obtain ⟨last, playbook', behind⟩ := playbook.kept sound sets
    (TicketStore.tasks_setTicketPriority setting)
  have less : (desiredPriority eastRow).rank < ticket.priority.rank := by
    rw [eastRow_policy.2, least]
    decide
  rw [← id, ← show (desiredPriority eastRow).text = "p2" by rw [eastRow_policy.2]; rfl] at setting
  rw [← eastRow_policy.2] at created
  obtain ⟨ended, run⟩ := IngestRun.steps_escalates stored digest revisionErrors_east
    checkSignal_east eastRow_policy.1 created less setting
  have same : last.id = ticket.id := Library.Table.key_of_row? behind
  refine ⟨lowered, last, ended, result.2, after, stored, digest, ?_, run, playbook',
    same.trans id, reset⟩
  rw [← id, here, Option.map_some, least]

/-! ## Redelivery -/

end DTLab
