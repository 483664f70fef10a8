import DTLab.Tickets.Commits

/-!
# What comments, tasks and creations commit

The operations that insert rows: comments, tasks and tickets. The loop that adds missing tasks
audits each of them and touches the ticket behind the last one.
-/

namespace DTLab

open Library (Table.row? Table.update Table.Keyed)
open Library.Attempt (bind_eq_ok foldlM_keeps)

variable {τ : Type}

namespace TicketStore

variable {now : τ} {store later : TicketStore τ} {ticketId : String} {row : TicketRow τ}

/-! ## Inserted rows -/

/-- A comment is inserted where its id is new. -/
theorem insertComment_eq_ok {comment : CommentRow τ} :
    store.insertComment comment = .ok later ↔
      comment.id ∉ store.comments.map CommentRow.id ∧
        later = { store with comments := store.comments ++ [comment] } := by
  rw [insertComment]
  by_cases repeated : comment.id ∈ store.comments.map CommentRow.id <;>
    simp [repeated, eq_comm]

/-- A task is inserted where its id is new. -/
theorem insertTask_eq_ok {task : TaskRow τ} :
    store.insertTask task = .ok later ↔ task.id ∉ store.tasks.map TaskRow.id ∧
      later = { store with tasks := store.tasks ++ [task] } := by
  rw [insertTask]
  by_cases repeated : task.id ∈ store.tasks.map TaskRow.id <;> simp [repeated, eq_comm]

/-- A ticket is inserted where its id is new. -/
theorem insertTicket_eq_ok :
    store.insertTicket row = .ok later ↔ row.id ∉ store.tickets.map TicketRow.id ∧
      later = { store with tickets := store.tickets ++ [row] } := by
  rw [insertTicket]
  by_cases repeated : row.id ∈ store.tickets.map TicketRow.id <;> simp [repeated, eq_comm]

/-- A transaction that writes tasks of tickets that are there, and neither tickets nor audit
events. -/
theorem Commits.of_tasks {concerned : String → Prop} (sound : store.Sound)
    (tickets : later.tickets = store.tickets) (audit : later.auditEvents = store.auditEvents)
    (tasks : ∀ task ∈ later.tasks, (store.ticketOf task.ticketId).isSome) :
    Commits now concerned store later := by
  have same : ∀ ticketId, later.ticketOf ticketId = store.ticketOf ticketId := by
    intro ticketId
    rw [ticketOf, ticketOf, tickets]
  refine ⟨⟨?_, ?_, ?_⟩, [], Written.of_same tickets audit,
    fun _ member => absurd member List.not_mem_nil⟩
  · rw [tickets]
    exact sound.ids
  · rw [tickets]
    exact sound.signalIds
  · intro task member
    rw [same]
    exact tasks task member

/-- A task is inserted for a ticket that is there. -/
theorem insertTask_commits {concerned : String → Prop} {task : TaskRow τ} (sound : store.Sound)
    (present : (store.ticketOf task.ticketId).isSome)
    (inserted : store.insertTask task = .ok later) : Commits now concerned store later := by
  obtain ⟨_, rfl⟩ := insertTask_eq_ok.mp inserted
  refine Commits.of_tasks sound rfl rfl ?_
  intro other member
  rcases List.mem_append.mp member with inside | inside
  · exact sound.tasks other inside
  · rw [List.mem_singleton.mp inside]
    exact present

variable (platform : StorePlatform) {context : CallContext τ} {actor : String}

/-- `add_comment` commits. -/
theorem addComment_commits {author body : String} {result : CommentRow τ × TicketStore τ}
    (sound : store.Sound)
    (returned : store.addComment context ticketId author body = .ok result) :
    Commits context.now (· = strip ticketId) store result.2 := by
  simp only [addComment, bind_eq_ok] at returned
  obtain ⟨id, idChecked, author', _, body', _, row, required, between, inserted, returned⟩ :=
    returned
  obtain ⟨rfl, _⟩ := requiredText_eq_ok.mp idChecked
  have found := requireTicket_eq_ok.mp required
  obtain ⟨_, rfl⟩ := insertComment_eq_ok.mp inserted
  obtain rfl := Except.ok.inj returned
  have first : Commits context.now (· = strip ticketId) store
      { store with comments := store.comments ++
        [⟨"comment:" ++ context.uuid 0, strip ticketId, author', body', context.now⟩] } :=
    Commits.of_same sound rfl rfl rfl
  have second := commits_move (fun row => row.touched context.now) author'
    (.commentAdded ("comment:" ++ context.uuid 0)) first.sound found (fun _ => rfl) (fun _ => rfl)
    (.noted rfl)
  exact first.trans second

/-- `add_task` commits. -/
theorem addTask_commits {title : String} {description owner dueAt : Option String}
    {result : TaskRow τ × TicketStore τ} (sound : store.Sound)
    (returned : store.addTask context ticketId actor title description owner dueAt = .ok result) :
    Commits context.now (· = strip ticketId) store result.2 := by
  simp only [addTask, bind_eq_ok] at returned
  obtain ⟨id, idChecked, actor', _, title', _, description', _, owner', _, dueAt', _, row, required,
    between, inserted, returned⟩ := returned
  obtain ⟨rfl, _⟩ := requiredText_eq_ok.mp idChecked
  have found := requireTicket_eq_ok.mp required
  obtain rfl := Except.ok.inj returned
  have first : Commits context.now (· = strip ticketId) store between := by
    apply insertTask_commits sound _ inserted
    rw [newTask, found]
    rfl
  have kept : between.ticketOf (strip ticketId) = some row := by
    obtain ⟨_, rfl⟩ := insertTask_eq_ok.mp inserted
    exact found
  have second := commits_move (fun row => row.touched context.now) actor'
    (.taskAdded ("task:" ++ context.uuid 0) (store.lastPosition (strip ticketId) + 1) title')
    first.sound kept (fun _ => rfl) (fun _ => rfl) (.noted rfl)
  exact first.trans second

/-- `update_task_status` commits. -/
theorem updateTaskStatus_commits {taskId status : String} {result : TaskRow τ × TicketStore τ}
    (sound : store.Sound)
    (returned : store.updateTaskStatus platform context taskId status actor = .ok result) :
    Commits context.now (fun id => ∃ task, store.taskOf (strip taskId) = some task ∧
      task.ticketId = id ∧ normalizeTaskStatus platform status ≠ .ok task.status)
      store result.2 := by
  simp only [updateTaskStatus, bind_eq_ok] at returned
  obtain ⟨id, idChecked, status', checked, actor', _, returned⟩ := returned
  obtain ⟨rfl, _⟩ := requiredText_eq_ok.mp idChecked
  cases found : store.taskOf (strip taskId) with
  | none =>
    rw [found] at returned
    cases returned
  | some task =>
    simp only [found] at returned
    by_cases same : task.status = status'
    · rw [if_pos same] at returned
      obtain rfl := Except.ok.inj returned
      exact Commits.refl sound
    · rw [if_neg same] at returned
      obtain rfl := Except.ok.inj returned
      have present := sound.tasks task (Library.Table.mem_of_row? found)
      obtain ⟨row, rowFound⟩ := Option.isSome_iff_exists.mp present
      have first : Commits context.now (· = task.ticketId) store
          (store.updateTask (strip taskId) fun row : TaskRow τ =>
            { row with
              status := status'
              completedAt := if status' = .pending then none else some context.now
              updatedAt := context.now }) := by
        refine Commits.of_tasks sound rfl rfl ?_
        intro other member
        rcases Library.Table.mem_update.mp member with ⟨inside, _⟩ | ⟨before, inside, _, rfl⟩
        · exact sound.tasks other inside
        · exact sound.tasks before inside
      have second := commits_move (fun row => row.touched context.now) actor'
        (.taskStatusChanged (strip taskId) task.status status') first.sound rowFound
        (fun _ => rfl) (fun _ => rfl) (.noted rfl)
      apply (first.trans second).weaken
      rintro other _ rfl
      refine ⟨task, rfl, rfl, ?_⟩
      rw [checked]
      exact fun equal => same (Except.ok.inj equal).symm

/-! ## Missing tasks -/

/-- Notes on one ticket touch it. -/
theorem trail_notes {events : List (AuditEvent τ)}
    (notes : ∀ event ∈ events, event.occurredAt = now ∧ event.action.isNote = true)
    (nonempty : events ≠ []) : Trail (some row) events (some (row.touched now)) := by
  induction events using List.reverseRecOn with
  | nil => exact absurd rfl nonempty
  | append_singleton earlier event ih =>
    obtain ⟨instant, note⟩ := notes event (List.mem_append_right earlier List.mem_cons_self)
    by_cases first : earlier = []
    · subst first
      apply Trail.start.moved
      rw [instant]
      exact .noted note
    · have before := ih
        (fun other member => notes other (List.mem_append_left [event] member)) first
      apply before.moved
      rw [instant]
      exact .noted note

/-- What the loop over missing tasks has done to a store. -/
structure Filled (now : τ) (store : TicketStore τ) (ticketId : String)
    (definitions : List TaskDefinition) (loop : TaskLoop τ) : Prop where
  tickets : loop.store.tickets = store.tickets
  signals : loop.store.signals = store.signals
  occurrences : loop.store.occurrences = store.occurrences
  tasks : ∀ task ∈ loop.store.tasks, task.ticketId = ticketId ∨
    ∃ present ∈ store.tasks, present.ticketId = task.ticketId
  audit : ∃ events, loop.store.auditEvents = store.auditEvents ++ events ∧
    events.length = loop.added ∧
    ∀ event ∈ events, event.ticketId = ticketId ∧ event.occurredAt = now ∧
      event.action.isNote = true
  titles : ∀ title ∈ (store.tasksOf ticketId).map TaskRow.title, title ∈ loop.titles
  missing : loop.added ≠ 0 → ∃ definition ∈ definitions,
    definition.title ∉ (store.tasksOf ticketId).map TaskRow.title
  untouched : loop.added = 0 → loop.store = store

/-- A round of the loop fills one more definition. -/
theorem Filled.round {owner : Option String} {definitions : List TaskDefinition}
    {loop next : TaskLoop τ} {task : TaskDefinition} (member : task ∈ definitions)
    (filled : Filled context.now store ticketId definitions loop)
    (returned : loop.round context ticketId actor owner task = .ok next) :
    Filled context.now store ticketId definitions next := by
  rw [TaskLoop.round] at returned
  by_cases known : task.title ∈ loop.titles
  · rw [if_pos known] at returned
    obtain rfl := Except.ok.inj returned
    exact filled
  · rw [if_neg known, bind_eq_ok] at returned
    obtain ⟨between, inserted, returned⟩ := returned
    obtain ⟨_, rfl⟩ := insertTask_eq_ok.mp inserted
    obtain rfl := Except.ok.inj returned
    obtain ⟨events, audit, count, notes⟩ := filled.audit
    refine ⟨filled.tickets, filled.signals, filled.occurrences, ?_, ?_, ?_, ?_, ?_⟩
    · intro other inside
      rcases List.mem_append.mp inside with before | added
      · exact filled.tasks other before
      · rw [List.mem_singleton.mp added]
        exact Or.inl rfl
    · refine ⟨events ++ [⟨ticketId, actor, context.now,
        .taskAdded ("task:" ++ context.uuid (loop.added + 1)) (loop.position + 1) task.title⟩],
        ?_, ?_, ?_⟩
      · rw [← List.append_assoc, ← audit]
        rfl
      · rw [List.length_append, count]
        rfl
      · intro event inside
        rcases List.mem_append.mp inside with before | added
        · exact notes event before
        · rw [List.mem_singleton.mp added]
          exact ⟨rfl, rfl, rfl⟩
    · exact fun title present => List.mem_cons_of_mem task.title (filled.titles title present)
    · exact fun _ => ⟨task, member, fun present => known (filled.titles task.title present)⟩
    · exact fun none => absurd none (Nat.succ_ne_zero loop.added)

/-- The loop that adding missing tasks runs, and what comes behind it. -/
theorem addMissingTasks_cases {owner : Option String} {definitions : List TaskDefinition}
    {result : Nat × TicketStore τ}
    (returned : store.addMissingTasks context ticketId actor owner definitions = .ok result) :
    ∃ loop, Filled context.now store ticketId definitions loop ∧
      (loop.added = 0 ∧ result = (0, store) ∨ loop.added ≠ 0 ∧
        result = (loop.added,
          loop.store.updateTicket ticketId fun row => row.touched context.now)) := by
  simp only [addMissingTasks, bind_eq_ok] at returned
  obtain ⟨loop, rounds, returned⟩ := returned
  have filled : Filled context.now store ticketId definitions loop := by
    apply foldlM_keeps (fun _ _ _ member => Filled.round member) _ rounds
    exact ⟨rfl, rfl, rfl, fun task member => Or.inr ⟨task, member, rfl⟩,
      ⟨[], (List.append_nil _).symm, rfl, fun _ member => absurd member List.not_mem_nil⟩,
      fun _ member => member, fun some => absurd rfl some, fun _ => rfl⟩
  refine ⟨loop, filled, ?_⟩
  by_cases none : loop.added = 0
  · rw [if_pos none] at returned
    obtain rfl := Except.ok.inj returned
    rw [filled.untouched none]
    exact Or.inl ⟨none, rfl⟩
  · rw [if_neg none] at returned
    obtain rfl := Except.ok.inj returned
    exact Or.inr ⟨none, rfl⟩

/-- What adding missing tasks does: nothing when all of them are there. -/
theorem addMissingTasks_commits {owner : Option String} {definitions : List TaskDefinition}
    {result : Nat × TicketStore τ} (sound : store.Sound)
    (found : store.ticketOf ticketId = some row)
    (returned : store.addMissingTasks context ticketId actor owner definitions = .ok result) :
    Commits context.now (fun id => id = ticketId ∧ ∃ definition ∈ definitions,
      definition.title ∉ (store.tasksOf ticketId).map TaskRow.title) store result.2 := by
  obtain ⟨loop, filled, ⟨_, rfl⟩ | ⟨grown, rfl⟩⟩ := addMissingTasks_cases returned
  · exact Commits.refl sound
  · obtain ⟨events, audit, count, notes⟩ := filled.audit
    have nonempty : events ≠ [] := by
      rintro rfl
      exact grown count.symm
    have tickets : (loop.store.updateTicket ticketId fun row => row.touched context.now).tickets =
        Table.update TicketRow.id ticketId (fun row => row.touched context.now) store.tickets := by
      rw [updateTicket, filled.tickets]
    have stamped : ∀ event ∈ events, event.ticketId = ticketId ∧ event.occurredAt = context.now :=
      fun event member => ⟨(notes event member).1, (notes event member).2.1⟩
    have commits : Commits context.now (· = ticketId) store
        (loop.store.updateTicket ticketId fun row => row.touched context.now) :=
      commits_update (fun row => row.touched context.now) sound found (fun _ => rfl) (fun _ => rfl)
        tickets filled.tasks audit stamped
        (trail_notes (fun event member => (notes event member).2) nonempty)
    exact commits.weaken fun other _ same => ⟨same, filled.missing grown⟩

/-- A ticket behind the addition of missing tasks is the one before, or it was touched. -/
theorem addMissingTasks_ticketOf {owner : Option String} {definitions : List TaskDefinition}
    {result : Nat × TicketStore τ} {id : String} (found : store.ticketOf id = some row)
    (returned : store.addMissingTasks context ticketId actor owner definitions = .ok result) :
    result.2.ticketOf id = some row ∨ result.2.ticketOf id = some (row.touched context.now) := by
  obtain ⟨loop, filled, ⟨_, rfl⟩ | ⟨grown, rfl⟩⟩ := addMissingTasks_cases returned
  · exact Or.inl found
  · have before : loop.store.ticketOf id = some row := by
      rw [ticketOf, filled.tickets]
      exact found
    by_cases same : id = ticketId
    · subst same
      exact Or.inr (ticketOf_updateTicket_self before fun _ => rfl)
    · have kept : (loop.store.updateTicket ticketId fun row => row.touched context.now).ticketOf
          id = loop.store.ticketOf id := by
        apply ticketOf_updateTicket_ne _ same
        exact fun _ => rfl
      exact Or.inl (kept.trans before)

/-- `ensure_tasks` commits. -/
theorem ensureTasks_commits {tasks : List TaskDefinition} {owner : Option String}
    {result : Nat × TicketStore τ} (sound : store.Sound)
    (returned : store.ensureTasks context ticketId actor tasks owner = .ok result) :
    Commits context.now (fun id => id = strip ticketId ∧ ∃ definitions,
      taskDefinitions tasks = .ok definitions ∧ ∃ definition ∈ definitions,
        definition.title ∉ (store.tasksOf id).map TaskRow.title) store result.2 := by
  simp only [ensureTasks, bind_eq_ok] at returned
  obtain ⟨id, idChecked, actor', _, owner', _, definitions, checked, row, required, returned⟩ :=
    returned
  obtain ⟨rfl, _⟩ := requiredText_eq_ok.mp idChecked
  apply (addMissingTasks_commits sound (requireTicket_eq_ok.mp required) returned).weaken
  rintro other _ ⟨rfl, missing⟩
  exact ⟨rfl, definitions, checked, missing⟩

/-! ## Creation -/

/-- A new ticket is inserted with the event of its creation. -/
theorem commits_insert (actor : String) {action : AuditAction τ} (sound : store.Sound)
    (freshId : store.ticketOf row.id = none)
    (freshSignal : store.ticketOfSignal row.signalId = none)
    (born : Born now row action) :
    Commits now (fun _ => False) store
      (({ store with tickets := store.tickets ++ [row] } : TicketStore τ).audit
        row.id actor now action) := by
  have self : Table.row? TicketRow.id (store.tickets ++ [row]) row.id = some row :=
    Library.Table.row?_append_new freshId
  have kept : ∀ id, (store.ticketOf id).isSome →
      (Table.row? TicketRow.id (store.tickets ++ [row]) id).isSome := by
    intro id present
    obtain ⟨found, same⟩ := Option.isSome_iff_exists.mp present
    rw [Library.Table.row?_append_of_some row same]
    rfl
  refine ⟨⟨sound.ids.append freshId, sound.signalIds.append freshSignal, ?_⟩, _,
    ⟨rfl, ?_, fun id => ?_⟩, ?_⟩
  · exact fun task member => kept task.ticketId (sound.tasks task member)
  · intro event member
    rw [List.mem_singleton.mp member]
  · by_cases same : row.id = id
    · subst same
      rw [List.filter_singleton, decide_eq_true rfl, freshId]
      show Trail none ([] ++ [AuditEvent.mk row.id actor now action])
        (Table.row? TicketRow.id (store.tickets ++ [row]) row.id)
      rw [self]
      exact Trail.start.born born
    · rw [List.filter_singleton, decide_eq_false same]
      have other : Table.row? TicketRow.id (store.tickets ++ [row]) id = store.ticketOf id :=
        Library.Table.row?_append_ne store.tickets same
      show Trail (store.ticketOf id) [] (Table.row? TicketRow.id (store.tickets ++ [row]) id)
      rw [other]
      exact Trail.start
  · intro event member present
    rw [List.mem_singleton.mp member, freshId] at present
    cases present

/-- A ticket is created for a signal that has none. -/
theorem createTicket_commits {request : TicketRequest} {checked : CheckedRequest τ}
    {signal : SignalRow τ} {result : TicketRow τ × TicketStore τ} (sound : store.Sound)
    (absent : store.ticketOfSignal checked.signalId = none)
    (returned : store.createTicket context request checked signal = .ok result) :
    Commits context.now (fun _ => False) store result.2 ∧
      result.2.ticketOf result.1.id = some result.1 ∧ store.ticketOf result.1.id = none := by
  simp only [createTicket, bind_eq_ok] at returned
  obtain ⟨title, _, description, _, between, inserted, returned⟩ := returned
  obtain ⟨repeated, rfl⟩ := insertTicket_eq_ok.mp inserted
  obtain rfl := Except.ok.inj returned
  have fresh : store.ticketOf ("ticket:" ++ context.uuid 0) = none := by
    rw [ticketOf, Library.Table.row?_eq_none]
    intro other member same
    exact repeated (List.mem_map.mpr ⟨other, member, same⟩)
  refine ⟨commits_insert checked.actor sound fresh absent ⟨rfl, rfl, rfl, rfl, rfl⟩, ?_, fresh⟩
  exact Library.Table.row?_append_new fresh

/-- A signal is required by its id. -/
theorem requireSignal_eq_ok {signalId : String} {signal : SignalRow τ} :
    store.requireSignal signalId = .ok signal ↔ store.signalById signalId = some signal := by
  rw [requireSignal]
  cases store.signalById signalId with
  | none => simp
  | some found => simp

/-- What the checks of a creation make of the id of the signal and of the tasks. -/
theorem checkRequest_eq_ok {request : TicketRequest} {tasks : List TaskDefinition}
    {checked : CheckedRequest τ × List TaskDefinition}
    (returned : checkRequest platform context request tasks = .ok checked) :
    checked.1.signalId = strip request.signalId ∧ taskDefinitions tasks = .ok checked.2 ∧
      normalizePriority platform request.priority = .ok checked.1.priority := by
  simp only [checkRequest, bind_eq_ok] at returned
  obtain ⟨signalId, idChecked, actor', _, priority, priorityChecked, owner', _, definitions,
    tasksChecked, calendar, _, slaDueAt, _, returned⟩ := returned
  obtain ⟨rfl, _⟩ := requiredText_eq_ok.mp idChecked
  obtain rfl := Except.ok.inj returned
  exact ⟨rfl, tasksChecked, priorityChecked⟩

/-- The ticket of a signal, found or created, is the only one written. -/
theorem findOrCreateTicket_commits {request : TicketRequest} {checked : CheckedRequest τ}
    {signal : SignalRow τ} {result : TicketRow τ × TicketStore τ} (sound : store.Sound)
    (returned : store.findOrCreateTicket context request checked signal = .ok result) :
    Commits context.now (fun _ => False) store result.2 ∧
      result.2.ticketOf result.1.id = some result.1 ∧
      (store.ticketOf result.1.id = none ∨
        result.2 = store ∧ store.ticketOfSignal checked.signalId = some result.1) := by
  rw [findOrCreateTicket] at returned
  cases present : store.ticketOfSignal checked.signalId with
  | some row =>
    rw [present] at returned
    obtain rfl := Except.ok.inj returned
    have here : store.ticketOf row.id = some row :=
      Library.Table.row?_of_mem sound.ids (Library.Table.mem_of_row? present)
    exact ⟨Commits.refl sound, here, Or.inr ⟨rfl, rfl⟩⟩
  | none =>
    rw [present] at returned
    obtain ⟨commits, here, fresh⟩ := createTicket_commits sound present returned
    exact ⟨commits, here, Or.inl fresh⟩

/-- `create_ticket_from_signal` commits. -/
theorem createTicketFromSignal_commits {request : TicketRequest}
    {result : TicketRow τ × TicketStore τ} (sound : store.Sound)
    (returned : store.createTicketFromSignal platform context request = .ok result) :
    Commits context.now (fun _ => False) store result.2 := by
  simp only [createTicketFromSignal, bind_eq_ok] at returned
  obtain ⟨⟨checked, definitions⟩, _, signal, _, returned⟩ := returned
  exact (findOrCreateTicket_commits sound returned).1

/-- `create_ticket_with_tasks` commits. -/
theorem createTicketWithTasks_commits {request : TicketRequest} {tasks : List TaskDefinition}
    {result : (TicketRow τ × Nat) × TicketStore τ} (sound : store.Sound)
    (returned : store.createTicketWithTasks platform context request tasks = .ok result) :
    Commits context.now (fun id => ∃ row, store.ticketOf id = some row ∧
      row.signalId = strip request.signalId ∧ ∃ definitions,
        taskDefinitions tasks = .ok definitions ∧ ∃ definition ∈ definitions,
          definition.title ∉ (store.tasksOf id).map TaskRow.title) store result.2 := by
  simp only [createTicketWithTasks, bind_eq_ok] at returned
  obtain ⟨⟨checked, definitions⟩, checks, signal, _, ⟨row, between⟩, creation, ⟨added, behind⟩,
    filled, returned⟩ := returned
  obtain ⟨sameSignal, tasksChecked, _⟩ := checkRequest_eq_ok platform checks
  obtain rfl := Except.ok.inj returned
  obtain ⟨first, here, found⟩ := findOrCreateTicket_commits sound creation
  have second := addMissingTasks_commits first.sound here filled
  have both := (first.weaken fun _ _ never => never.elim).trans second
  apply both.weaken
  rintro other known ⟨rfl, missing⟩
  rcases found with fresh | ⟨rfl, present⟩
  · rw [fresh] at known
    cases known
  · have signalId : row.signalId = checked.signalId := Library.Table.key_of_row? present
    exact ⟨row, here, signalId.trans sameSignal, definitions, tasksChecked, missing⟩

/-- A creation with tasks for a signal that has a ticket adds the missing tasks. -/
theorem createTicketWithTasks_found {request : TicketRequest} {tasks : List TaskDefinition}
    {checked : CheckedRequest τ × List TaskDefinition} {signal : SignalRow τ}
    (checks : checkRequest platform context request tasks = .ok checked)
    (known : store.signalById checked.1.signalId = some signal)
    (found : store.ticketOfSignal checked.1.signalId = some row) :
    store.createTicketWithTasks platform context request tasks =
      (store.addMissingTasks context row.id checked.1.actor checked.1.owner checked.2).map
        fun result => (((result.2.ticketOf row.id).getD row, result.1), result.2) := by
  rw [createTicketWithTasks, checks]
  simp only [bind, Except.bind, requireSignal_eq_ok.mpr known, findOrCreateTicket, found]
  cases store.addMissingTasks context row.id checked.1.actor checked.1.owner checked.2 with
  | error fault => rfl
  | ok result => rfl

/-- The ticket that a creation with tasks returns is the one of its signal, and a ticket that was
there is the one before, or it was touched. -/
theorem createTicketWithTasks_ticketOf {request : TicketRequest} {tasks : List TaskDefinition}
    {result : (TicketRow τ × Nat) × TicketStore τ} (sound : store.Sound)
    (returned : store.createTicketWithTasks platform context request tasks = .ok result) :
    result.2.ticketOf result.1.1.id = some result.1.1 ∧
      ∀ id row, store.ticketOf id = some row →
        result.2.ticketOf id = some row ∨
          result.2.ticketOf id = some (row.touched context.now) := by
  simp only [createTicketWithTasks, bind_eq_ok] at returned
  obtain ⟨⟨checked, definitions⟩, checks, signal, _, ⟨created, between⟩, creation,
    ⟨added, behind⟩, filled, returned⟩ := returned
  obtain rfl := Except.ok.inj returned
  obtain ⟨commits, here, _⟩ := findOrCreateTicket_commits sound creation
  constructor
  · rcases addMissingTasks_ticketOf here filled with same | touched
    · simp only [same, Option.getD_some]
    · simp only [touched, Option.getD_some]
      exact touched
  · intro id row found
    exact addMissingTasks_ticketOf (commits.unchanged found not_false) filled

end TicketStore

end DTLab
