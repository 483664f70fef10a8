import DTLab.Tickets.Calls
import Mathlib.Logic.Relation

/-!
# The statements of a transaction

What one statement of a transaction does to the store, or a few that belong together. Every call of
the store commits a sequence of statements, so that what each of them keeps holds of every store
that calls build.
-/

namespace DTLab

open Library (Table.row? Table.update Table.Keyed)
open Library.Attempt (bind_eq_ok map_eq_ok foldlM_keeps)
open Relation (ReflTransGen)

variable {τ : Type}

/-- A statement of a transaction at an instant, where `ingests` says whether the transaction may
write signals. -/
inductive Statement (platform : StorePlatform) (now : τ) (ingests : Prop)
    (store : TicketStore τ) : TicketStore τ → Prop where
  | signalUpserted (ingest : ingests) (input : SignalInput) (signal : CheckedSignal)
      (checked : checkSignal platform input = .ok signal) :
      Statement platform now ingests store (store.upsertChecked platform now signal).1
  | snapshotIngested (ingest : ingests) (row : SnapshotIngestRow τ) :
      Statement platform now ingests store
        { store with snapshotIngests := store.snapshotIngests ++ [row] }
  | ticketInserted (row : TicketRow τ) (fresh : row.id ∉ store.tickets.map TicketRow.id)
      (unticketed : store.ticketOfSignal row.signalId = none)
      (signal : (store.signalById row.signalId).isSome) :
      Statement platform now ingests store { store with tickets := store.tickets ++ [row] }
  | ticketUpdated (ticketId : String) (change : TicketRow τ → TicketRow τ)
      (keepsId : ∀ row, (change row).id = row.id)
      (keepsSignal : ∀ row, (change row).signalId = row.signalId) :
      Statement platform now ingests store (store.updateTicket ticketId change)
  | audited (ticketId actor : String) (action : AuditAction τ)
      (present : (store.ticketOf ticketId).isSome) :
      Statement platform now ingests store (store.audit ticketId actor now action)
  | commentInserted (comment : CommentRow τ)
      (fresh : comment.id ∉ store.comments.map CommentRow.id)
      (present : (store.ticketOf comment.ticketId).isSome) :
      Statement platform now ingests store { store with comments := store.comments ++ [comment] }
  | taskInserted (task : TaskRow τ) (fresh : task.id ∉ store.tasks.map TaskRow.id)
      (present : (store.ticketOf task.ticketId).isSome)
      (next : task.position = store.lastPosition task.ticketId + 1)
      (pending : task.status = .pending) (incomplete : task.completedAt = none) :
      Statement platform now ingests store { store with tasks := store.tasks ++ [task] }
  | taskSet (taskId : String) (status : TaskStatus) :
      Statement platform now ingests store (store.updateTask taskId fun row =>
        { row with
          status := status
          completedAt := if status = .pending then none else some now
          updatedAt := now })

/-- The statements of a transaction. -/
abbrev Statements (platform : StorePlatform) (now : τ) (ingests : Prop) :
    TicketStore τ → TicketStore τ → Prop :=
  ReflTransGen (Statement platform now ingests)

namespace TicketStore

variable {platform : StorePlatform} {now : τ} {ingests : Prop} {context : CallContext τ}
  {store later : TicketStore τ} {ticketId : String} {row : TicketRow τ}

/-- The tickets that are there behind an update of one. -/
theorem isSome_updateTicket {change : TicketRow τ → TicketRow τ}
    (keeps : ∀ row, (change row).id = row.id) (other : String) :
    ((store.updateTicket ticketId change).ticketOf other).isSome =
      (store.ticketOf other).isSome := by
  by_cases same : other = ticketId
  · rw [same, ticketOf, updateTicket, Library.Table.row?_update_self keeps]
    exact Option.isSome_map
  · rw [ticketOf_updateTicket_ne keeps same]

/-- The tickets that are there stay there. -/
theorem isSome_of_statement (statement : Statement platform now ingests store later)
    (present : (store.ticketOf ticketId).isSome) : (later.ticketOf ticketId).isSome := by
  cases statement with
  | signalUpserted ingest input signal checked =>
    have only : store.SignalsOnly (store.upsertChecked platform now signal).1 :=
      upsertChecked_signalsOnly signal
    rw [ticketOf, only.tickets]
    exact present
  | ticketInserted row =>
    obtain ⟨found, same⟩ := Option.isSome_iff_exists.mp present
    rw [ticketOf, Library.Table.row?_append_of_some row same]
    rfl
  | ticketUpdated id change keepsId =>
    rw [isSome_updateTicket keepsId]
    exact present
  | _ => exact present

/-- The tickets that are there stay there behind statements. -/
theorem isSome_of_statements (statements : Statements platform now ingests store later)
    (present : (store.ticketOf ticketId).isSome) : (later.ticketOf ticketId).isSome := by
  induction statements with
  | refl => exact present
  | tail _ statement ih => exact isSome_of_statement statement ih

/-- A ticket is changed and the change is audited. -/
theorem statements_move {change : TicketRow τ → TicketRow τ} (actor : String)
    (action : AuditAction τ) (present : (store.ticketOf ticketId).isSome)
    (keepsId : ∀ row, (change row).id = row.id)
    (keepsSignal : ∀ row, (change row).signalId = row.signalId) :
    Statements platform now ingests store
      ((store.updateTicket ticketId change).audit ticketId actor now action) := by
  have there : ((store.updateTicket ticketId change).ticketOf ticketId).isSome := by
    rw [isSome_updateTicket keepsId]
    exact present
  exact (ReflTransGen.single (.ticketUpdated ticketId change keepsId keepsSignal)).tail
    (.audited ticketId actor action there)

/-- A ticket is touched and a note is audited. -/
theorem statements_note (actor : String) (action : AuditAction τ)
    (present : (store.ticketOf ticketId).isSome) :
    Statements platform now ingests store
      ((store.updateTicket ticketId fun row => row.touched now).audit ticketId actor now action) :=
  statements_move actor action present (fun _ => rfl) fun _ => rfl

/-- A ticket that is found is there. -/
theorem isSome_of_required (required : store.requireTicket ticketId = .ok row) :
    (store.ticketOf ticketId).isSome := by
  rw [requireTicket_eq_ok.mp required]
  rfl

/-! ## Signals -/

/-- A batch runs one statement for each signal, or two. -/
theorem upsertBatch_statements {batch : List SignalInput} {result : IngestStats × TicketStore τ}
    (returned : store.upsertBatch platform now batch = .ok result) :
    Statements platform now True store result.2 := by
  rw [upsertBatch, map_eq_ok] at returned
  obtain ⟨final, rounds, rfl⟩ := returned
  have keeps : ∀ (state : TicketStore τ × Nat × Nat) (signal : SignalInput)
      (next : TicketStore τ × Nat × Nat), signal ∈ batch →
      Statements platform now True store state.1 →
      upsertRound platform now state signal = .ok next →
      Statements platform now True store next.1 := by
    intro state signal next _ before round
    rw [upsertRound, map_eq_ok] at round
    obtain ⟨upserted, checked, rfl⟩ := round
    rw [upsertSignal, map_eq_ok] at checked
    obtain ⟨signal', passed, rfl⟩ := checked
    exact before.tail (.signalUpserted trivial signal signal' passed)
  exact foldlM_keeps keeps ReflTransGen.refl rounds

/-- `ingest_signals` runs those of its batch. -/
theorem ingestSignals_statements {batch : List SignalInput} {result : IngestStats × TicketStore τ}
    (returned : store.ingestSignals platform now batch = .ok result) :
    Statements platform now True store result.2 := by
  rw [ingestSignals] at returned
  split_ifs at returned
  · obtain rfl := Except.ok.inj returned
    exact ReflTransGen.refl
  · exact upsertBatch_statements returned

/-- `ingest_snapshot_signals` runs those of its batch and the marker. -/
theorem ingestSnapshotSignals_statements {batch : List SignalInput}
    {snapshotSha256 snapshotId generatedAt : String} {result : IngestStats × TicketStore τ}
    (returned : store.ingestSnapshotSignals platform now batch snapshotSha256 snapshotId
      generatedAt = .ok result) : Statements platform now True store result.2 := by
  obtain ⟨digest, _, _, ⟨_, same⟩ | ⟨_, stats, between, batched, same⟩⟩ :=
    ingestSnapshotSignals_cases returned
  · rw [same]
  · have only := upsertBatch_signalsOnly batched
    rw [same, ← only.snapshotIngests]
    exact (upsertBatch_statements batched).tail (.snapshotIngested trivial _)

/-! ## Changes of tickets -/

/-- `transition_ticket` updates a ticket and audits it. -/
theorem transitionTicket_statements {toStatus actor : String} {note : Option String}
    {result : TicketRow τ × TicketStore τ}
    (returned : store.transitionTicket platform context ticketId toStatus actor note =
      .ok result) : Statements platform context.now ingests store result.2 := by
  simp only [transitionTicket, bind_eq_ok] at returned
  obtain ⟨id, _, target, _, actor', _, note', _, returned⟩ := returned
  split_ifs at returned
  rw [bind_eq_ok] at returned
  obtain ⟨row, required, returned⟩ := returned
  split_ifs at returned with closed
  obtain rfl := Except.ok.inj returned
  exact statements_move actor' _ (isSome_of_required required) (fun _ => rfl) fun _ => rfl

/-- `assign_ticket` updates a ticket and audits it. -/
theorem assignTicket_statements {owner : Option String} {actor : String}
    {result : TicketRow τ × TicketStore τ}
    (returned : store.assignTicket context ticketId owner actor = .ok result) :
    Statements platform context.now ingests store result.2 := by
  simp only [assignTicket, bind_eq_ok] at returned
  obtain ⟨owner', _, id, _, actor', _, row, required, returned⟩ := returned
  split_ifs at returned
  · obtain rfl := Except.ok.inj returned
    exact ReflTransGen.refl
  · obtain rfl := Except.ok.inj returned
    exact statements_move actor' _ (isSome_of_required required) (fun _ => rfl) fun _ => rfl

/-- `set_ticket_priority` updates a ticket and audits it, or does nothing. -/
theorem setTicketPriority_statements {priority actor : String}
    {result : TicketRow τ × TicketStore τ}
    (returned : store.setTicketPriority platform context ticketId priority actor = .ok result) :
    Statements platform context.now ingests store result.2 := by
  simp only [setTicketPriority, bind_eq_ok] at returned
  obtain ⟨priority', _, id, _, actor', _, calendar, _, row, required, returned⟩ := returned
  split_ifs at returned
  · obtain rfl := Except.ok.inj returned
    exact ReflTransGen.refl
  · rw [bind_eq_ok] at returned
    obtain ⟨slaDueAt, _, returned⟩ := returned
    obtain rfl := Except.ok.inj returned
    exact statements_move actor' _ (isSome_of_required required) (fun _ => rfl) fun _ => rfl

/-- The owner is changed and audited where it differs. -/
theorem governOwner_statements {owner : Option String} {actor : String}
    (present : (store.ticketOf row.id).isSome) :
    Statements platform context.now ingests store
      (store.governOwner context row owner actor).1 := by
  rw [governOwner]
  split_ifs
  · exact ReflTransGen.refl
  · exact statements_move actor _ present (fun _ => rfl) fun _ => rfl

/-- `update_ticket_governance` changes the owner, then the priority. -/
theorem updateTicketGovernance_statements {owner : Option String} {priority actor : String}
    {result : TicketRow τ × TicketStore τ}
    (returned : store.updateTicketGovernance platform context ticketId owner priority actor =
      .ok result) : Statements platform context.now ingests store result.2 := by
  simp only [updateTicketGovernance, bind_eq_ok] at returned
  obtain ⟨id, _, actor', _, owner', _, priority', _, slaDueAt, _, row, required,
    ⟨behind, changed⟩, governed, returned⟩ := returned
  have sameId := id_of_ticketOf (requireTicket_eq_ok.mp required)
  have present : (store.ticketOf row.id).isSome := by
    rw [sameId]
    exact isSome_of_required required
  have first : Statements platform context.now ingests store
      (store.governOwner context row owner' actor').1 := governOwner_statements present
  have second : Statements platform context.now ingests
    (store.governOwner context row owner' actor').1
      behind := by
    rw [governPriority] at governed
    split_ifs at governed
    · obtain rfl := (Prod.mk.inj (Except.ok.inj governed)).1
      exact ReflTransGen.refl
    · rw [bind_eq_ok] at governed
      obtain ⟨next, _, governed⟩ := governed
      obtain rfl := (Prod.mk.inj (Except.ok.inj governed)).1
      exact statements_move actor' _ (isSome_of_statements first present) (fun _ => rfl)
        fun _ => rfl
  obtain rfl := Except.ok.inj returned
  show Statements platform context.now ingests store (if _ then _ else _)
  split_ifs
  · exact (first.trans second).tail (.ticketUpdated id _ (fun _ => rfl) fun _ => rfl)
  · exact first.trans second

/-- `recalculate_open_sla_deadlines` updates and audits the tickets one by one. -/
theorem recalculateOpenSlaDeadlines_statements [DecidableEq τ] {actor : String}
    {result : Nat × TicketStore τ} (sound : store.Sound)
    (returned : store.recalculateOpenSlaDeadlines context actor = .ok result) :
    Statements platform context.now ingests store result.2 := by
  simp only [recalculateOpenSlaDeadlines, bind_eq_ok] at returned
  obtain ⟨actor', _, slaDueAt, _, ⟨final, changed⟩, rounds, returned⟩ := returned
  obtain rfl := Except.ok.inj returned
  have keeps : ∀ (state : TicketStore τ × Nat) (row : TicketRow τ) (next : TicketStore τ × Nat),
      row ∈ (store.tickets.filter fun row => row.status ∉ TicketStatus.slaStopped) →
      Statements platform context.now ingests store state.1 →
      recalculateRound context slaDueAt actor' state row = .ok next →
      Statements platform context.now ingests store next.1 := by
    intro state row next member before round
    rw [recalculateRound, bind_eq_ok] at round
    obtain ⟨deadline, _, round⟩ := round
    have inside : row ∈ store.tickets := (List.mem_filter.mp member).1
    have present : (store.ticketOf row.id).isSome := by
      rw [ticketOf, Library.Table.row?_of_mem sound.ids inside]
      rfl
    split_ifs at round
    · obtain rfl := Except.ok.inj round
      exact before
    · obtain rfl := Except.ok.inj round
      exact before.trans (statements_move actor' _ (isSome_of_statements before present)
        (fun _ => rfl) fun _ => rfl)
  exact foldlM_keeps keeps ReflTransGen.refl rounds

/-! ## Comments and tasks -/

/-- `add_comment` inserts, touches the ticket and audits it. -/
theorem addComment_statements {author body : String} {result : CommentRow τ × TicketStore τ}
    (returned : store.addComment context ticketId author body = .ok result) :
    Statements platform context.now ingests store result.2 := by
  simp only [addComment, bind_eq_ok] at returned
  obtain ⟨id, _, author', _, body', _, row, required, between, inserted, returned⟩ := returned
  obtain ⟨fresh, rfl⟩ := insertComment_eq_ok.mp inserted
  obtain rfl := Except.ok.inj returned
  have present := isSome_of_required required
  have first : Statement platform context.now ingests store
      { store with comments := store.comments ++
        [⟨"comment:" ++ context.uuid 0, id, author', body', context.now⟩] } :=
    .commentInserted _ fresh present
  exact (ReflTransGen.single first).trans
    (statements_note author' _ (isSome_of_statement first present))

/-- `add_task` inserts, touches the ticket and audits it. -/
theorem addTask_statements {actor title : String} {description owner dueAt : Option String}
    {result : TaskRow τ × TicketStore τ}
    (returned : store.addTask context ticketId actor title description owner dueAt = .ok result) :
    Statements platform context.now ingests store result.2 := by
  simp only [addTask, bind_eq_ok] at returned
  obtain ⟨id, _, actor', _, title', _, description', _, owner', _, dueAt', _, row, required,
    between, inserted, returned⟩ := returned
  obtain ⟨fresh, rfl⟩ := insertTask_eq_ok.mp inserted
  obtain rfl := Except.ok.inj returned
  have present := isSome_of_required required
  have first : Statement platform context.now ingests store
      { store with tasks := store.tasks ++
        [newTask context id ("task:" ++ context.uuid 0) ⟨title', description'⟩
          (store.lastPosition id + 1) owner' dueAt'] } :=
    .taskInserted _ fresh present rfl rfl rfl
  exact (ReflTransGen.single first).trans
    (statements_note actor' _ (isSome_of_statement first present))

/-- `update_task_status` updates the task, touches the ticket and audits it. -/
theorem updateTaskStatus_statements {taskId status actor : String}
    {result : TaskRow τ × TicketStore τ} (sound : store.Sound)
    (returned : store.updateTaskStatus platform context taskId status actor = .ok result) :
    Statements platform context.now ingests store result.2 := by
  simp only [updateTaskStatus, bind_eq_ok] at returned
  obtain ⟨id, _, status', _, actor', _, returned⟩ := returned
  cases found : store.taskOf id with
  | none =>
    rw [found] at returned
    cases returned
  | some task =>
    simp only [found] at returned
    by_cases same : task.status = status'
    · rw [if_pos same] at returned
      obtain rfl := Except.ok.inj returned
      exact ReflTransGen.refl
    · rw [if_neg same] at returned
      obtain rfl := Except.ok.inj returned
      have present := sound.tasks task (Library.Table.mem_of_row? found)
      have first : Statement platform context.now ingests store
          (store.updateTask id fun row : TaskRow τ =>
            { row with
              status := status'
              completedAt := if status' = .pending then none else some context.now
              updatedAt := context.now }) := .taskSet id status'
      exact (ReflTransGen.single first).trans
        (statements_note actor' _ (isSome_of_statement first present))

/-- The greatest position behind a further task. -/
theorem lastPosition_append (store : TicketStore τ) (task : TaskRow τ) :
    ({ store with tasks := store.tasks ++ [task] } : TicketStore τ).lastPosition task.ticketId =
      max (store.lastPosition task.ticketId) task.position := by
  simp only [lastPosition, tasksOf, List.filter_append, List.map_append, List.foldl_append,
    List.filter_singleton, decide_true]
  rfl

/-- What the loop over missing tasks keeps: it knows the titles and the last position. -/
structure Filling (platform : StorePlatform) (now : τ) (ingests : Prop) (store : TicketStore τ)
    (ticketId : String) (loop : TaskLoop τ) : Prop where
  statements : Statements platform now ingests store loop.store
  titles : ∀ title, title ∈ loop.titles ↔ title ∈ (loop.store.tasksOf ticketId).map TaskRow.title
  position : loop.position = loop.store.lastPosition ticketId
  tasks : ∃ new, loop.store.tasks = store.tasks ++ new ∧ new.length = loop.added ∧
    (∀ task ∈ new, task.ticketId = ticketId) ∧ (new.map TaskRow.title).Nodup ∧
    ∀ task ∈ new, task.title ∉ (store.tasksOf ticketId).map TaskRow.title

/-- No task is added before the first round. -/
theorem Filling.start (platform : StorePlatform) (now : τ) (store : TicketStore τ)
    (ticketId : String) :
    Filling platform now ingests store ticketId
      ⟨store, (store.tasksOf ticketId).map TaskRow.title, store.lastPosition ticketId, 0⟩ where
  statements := ReflTransGen.refl
  titles _ := Iff.rfl
  position := rfl
  tasks := ⟨[], (List.append_nil _).symm, rfl, nofun, List.nodup_nil, nofun⟩

/-- A round adds the task, or leaves the store. -/
theorem Filling.round {actor : String} {owner : Option String} {loop next : TaskLoop τ}
    {task : TaskDefinition} (present : (store.ticketOf ticketId).isSome)
    (filling : Filling platform context.now ingests store ticketId loop)
    (returned : loop.round context ticketId actor owner task = .ok next) :
    Filling platform context.now ingests store ticketId next ∧ task.title ∈ next.titles := by
  rw [TaskLoop.round] at returned
  by_cases known : task.title ∈ loop.titles
  · rw [if_pos known] at returned
    obtain rfl := Except.ok.inj returned
    exact ⟨filling, known⟩
  · rw [if_neg known, bind_eq_ok] at returned
    obtain ⟨between, inserted, returned⟩ := returned
    obtain ⟨fresh, rfl⟩ := insertTask_eq_ok.mp inserted
    obtain rfl := Except.ok.inj returned
    let row := newTask context ticketId ("task:" ++ context.uuid (loop.added + 1)) task
      (loop.position + 1) owner none
    have here := isSome_of_statements filling.statements present
    have position : row.position = loop.store.lastPosition row.ticketId + 1 := by
      show loop.position + 1 = loop.store.lastPosition ticketId + 1
      rw [filling.position]
    have first : Statement platform context.now ingests loop.store
        { loop.store with tasks := loop.store.tasks ++ [row] } :=
      .taskInserted row fresh here position rfl rfl
    have second : Statement platform context.now ingests
        { loop.store with tasks := loop.store.tasks ++ [row] }
        (TicketStore.audit { loop.store with tasks := loop.store.tasks ++ [row] } ticketId actor
          context.now (.taskAdded row.id row.position task.title)) :=
      .audited ticketId actor _ (isSome_of_statement first here)
    have own : decide (row.ticketId = ticketId) = true := decide_eq_true rfl
    have titles : ∀ title, title ∈ task.title :: loop.titles ↔
        title ∈ ((loop.store.tasks ++ [row]).filter fun other => other.ticketId = ticketId).map
          TaskRow.title := by
      intro title
      rw [List.filter_append, List.filter_singleton, own, List.map_append, List.mem_append,
        List.mem_cons, filling.titles, or_comm]
      exact or_congr_right List.mem_singleton.symm
    have last : loop.position + 1 =
        ({ loop.store with tasks := loop.store.tasks ++ [row] } : TicketStore τ).lastPosition
          row.ticketId := by
      have same : loop.position = loop.store.lastPosition row.ticketId := filling.position
      rw [lastPosition_append, position, ← same]
      omega
    obtain ⟨new, tasks, count, owned, distinct, missing⟩ := filling.tasks
    have absent : task.title ∉ (loop.store.tasksOf ticketId).map TaskRow.title :=
      fun inside => known ((filling.titles task.title).mpr inside)
    refine ⟨⟨(filling.statements.tail first).tail second, titles, last, ?_⟩,
      List.mem_cons_self⟩
    refine ⟨new ++ [row], ?_, ?_, ?_, ?_, ?_⟩
    · show loop.store.tasks ++ [row] = _
      rw [tasks, List.append_assoc]
    · rw [List.length_append, count]
      rfl
    · intro other member
      rcases List.mem_append.mp member with inside | last
      · exact owned other inside
      · rw [List.mem_singleton.mp last]
        rfl
    · rw [List.map_append]
      refine distinct.append (List.nodup_singleton _) ?_
      intro title inside last
      obtain rfl : title = task.title := List.mem_singleton.mp last
      apply absent
      obtain ⟨other, member, same⟩ := List.mem_map.mp inside
      refine List.mem_map.mpr ⟨other, ?_, same⟩
      rw [TicketStore.tasksOf, tasks]
      exact List.mem_filter.mpr
        ⟨List.mem_append_right _ member, decide_eq_true (owned other member)⟩
    · intro other member
      rcases List.mem_append.mp member with inside | last
      · exact missing other inside
      · rw [List.mem_singleton.mp last]
        intro inside
        apply absent
        obtain ⟨old, member, same⟩ := List.mem_map.mp inside
        obtain ⟨member, own⟩ := List.mem_filter.mp member
        refine List.mem_map.mpr ⟨old, List.mem_filter.mpr ⟨?_, own⟩, same⟩
        rw [tasks]
        exact List.mem_append_left _ member

/-- The loop over missing tasks behind all definitions. -/
theorem filling_loop {actor : String} {owner : Option String} {definitions : List TaskDefinition}
    {loop : TaskLoop τ} (present : (store.ticketOf ticketId).isSome)
    (returned : definitions.foldlM (TaskLoop.round context ticketId actor owner)
      ⟨store, (store.tasksOf ticketId).map TaskRow.title, store.lastPosition ticketId, 0⟩ =
        .ok loop) :
    Filling platform context.now ingests store ticketId loop ∧
      ∀ definition ∈ definitions, definition.title ∈ loop.titles := by
  constructor
  · apply foldlM_keeps _ (Filling.start platform context.now store ticketId) returned
    exact fun _ _ _ _ filling round => (filling.round present round).1
  · apply Library.Attempt.foldlM_each (fun definition loop => definition.title ∈ loop.titles)
      _ _ returned
    · intro loop definition next round
      rw [TaskLoop.round] at round
      by_cases known : definition.title ∈ loop.titles
      · rw [if_pos known] at round
        obtain rfl := Except.ok.inj round
        exact known
      · rw [if_neg known, bind_eq_ok] at round
        obtain ⟨between, _, round⟩ := round
        obtain rfl := Except.ok.inj round
        exact List.mem_cons_self
    · intro loop definition next round other inside
      rw [TaskLoop.round] at round
      by_cases known : definition.title ∈ loop.titles
      · rw [if_pos known] at round
        obtain rfl := Except.ok.inj round
        exact inside
      · rw [if_neg known, bind_eq_ok] at round
        obtain ⟨between, _, round⟩ := round
        obtain rfl := Except.ok.inj round
        exact List.mem_cons_of_mem _ inside

/-- What adding missing tasks does to the tasks of a store. -/
structure Completes (store : TicketStore τ) (ticketId : String) (titles : List String)
    (added : Nat) (later : TicketStore τ) : Prop where
  tasks : ∃ new, later.tasks = store.tasks ++ new ∧ new.length = added ∧
    (∀ task ∈ new, task.ticketId = ticketId) ∧ (new.map TaskRow.title).Nodup ∧
    ∀ task ∈ new, task.title ∉ (store.tasksOf ticketId).map TaskRow.title
  complete : ∀ title ∈ titles, title ∈ (later.tasksOf ticketId).map TaskRow.title

/-- The missing tasks are added, then the ticket is touched and audited. -/
theorem addMissingTasks_statements {actor : String} {owner : Option String}
    {definitions : List TaskDefinition} {result : Nat × TicketStore τ}
    (present : (store.ticketOf ticketId).isSome)
    (returned : store.addMissingTasks context ticketId actor owner definitions = .ok result) :
    Statements platform context.now ingests store result.2 ∧
      store.Completes ticketId (definitions.map TaskDefinition.title) result.1 result.2 := by
  simp only [addMissingTasks, bind_eq_ok] at returned
  obtain ⟨loop, rounds, returned⟩ := returned
  have both : Filling platform context.now ingests store ticketId loop ∧
      ∀ definition ∈ definitions, definition.title ∈ loop.titles := filling_loop present rounds
  obtain ⟨filling, known⟩ := both
  have complete : ∀ title ∈ definitions.map TaskDefinition.title,
      title ∈ (loop.store.tasksOf ticketId).map TaskRow.title := by
    intro title member
    obtain ⟨definition, inside, rfl⟩ := List.mem_map.mp member
    exact (filling.titles definition.title).mp (known definition inside)
  split_ifs at returned with none
  · obtain rfl := Except.ok.inj returned
    rw [← none]
    exact ⟨filling.statements, filling.tasks, complete⟩
  · obtain rfl := Except.ok.inj returned
    exact ⟨filling.statements.tail (.ticketUpdated ticketId _ (fun _ => rfl) fun _ => rfl),
      filling.tasks, complete⟩

/-- Nothing is added where no task is missing. -/
theorem addMissingTasks_none {actor : String} {owner : Option String}
    {definitions : List TaskDefinition}
    (complete : ∀ definition ∈ definitions,
      definition.title ∈ (store.tasksOf ticketId).map TaskRow.title) :
    store.addMissingTasks context ticketId actor owner definitions = .ok (0, store) := by
  have idle : definitions.foldlM (TaskLoop.round context ticketId actor owner)
      ⟨store, (store.tasksOf ticketId).map TaskRow.title, store.lastPosition ticketId, 0⟩ =
        .ok ⟨store, (store.tasksOf ticketId).map TaskRow.title, store.lastPosition ticketId,
          0⟩ := by
    induction definitions with
    | nil => rfl
    | cons definition rest ih =>
      have known := complete definition List.mem_cons_self
      rw [List.foldlM_cons, TaskLoop.round, if_pos known]
      exact ih fun other member => complete other (List.mem_cons_of_mem _ member)
  rw [addMissingTasks, idle]
  rfl

/-- `ensure_tasks` adds the missing tasks. -/
theorem ensureTasks_statements {actor : String} {tasks : List TaskDefinition}
    {owner : Option String} {result : Nat × TicketStore τ}
    (returned : store.ensureTasks context ticketId actor tasks owner = .ok result) :
    Statements platform context.now ingests store result.2 ∧
      ∃ definitions, taskDefinitions tasks = .ok definitions ∧
        store.Completes (strip ticketId) (definitions.map TaskDefinition.title) result.1
          result.2 := by
  simp only [ensureTasks, bind_eq_ok] at returned
  obtain ⟨id, idChecked, actor', _, owner', _, definitions, checked, row, required, returned⟩ :=
    returned
  obtain ⟨rfl, _⟩ := requiredText_eq_ok.mp idChecked
  have both : Statements platform context.now ingests store result.2 ∧ _ :=
    addMissingTasks_statements (isSome_of_required required) returned
  exact ⟨both.1, definitions, checked, both.2⟩

/-! ## Creation -/

/-- The statements that find or create the ticket of a signal. -/
theorem findOrCreateTicket_statements {request : TicketRequest} {checked : CheckedRequest τ}
    {signal : SignalRow τ} {result : TicketRow τ × TicketStore τ} (sound : store.Sound)
    (known : store.signalById checked.signalId = some signal)
    (returned : store.findOrCreateTicket context request checked signal = .ok result) :
    Statements platform context.now ingests store result.2 ∧ result.2.tasks = store.tasks ∧
      result.1.signalId = checked.signalId ∧ result.2.ticketOf result.1.id = some result.1 := by
  have commits := findOrCreateTicket_commits sound returned
  rw [findOrCreateTicket] at returned
  cases present : store.ticketOfSignal checked.signalId with
  | some row =>
    rw [present] at returned
    obtain rfl := Except.ok.inj returned
    exact ⟨ReflTransGen.refl, rfl, Library.Table.key_of_row? present, commits.2.1⟩
  | none =>
    rw [present] at returned
    simp only [createTicket, bind_eq_ok] at returned
    obtain ⟨title, _, description, _, between, inserted, returned⟩ := returned
    obtain ⟨fresh, rfl⟩ := insertTicket_eq_ok.mp inserted
    obtain rfl := Except.ok.inj returned
    have there : (store.signalById checked.signalId).isSome := by
      rw [known]
      rfl
    refine ⟨(ReflTransGen.single (.ticketInserted _ fresh present there)).tail (.audited _ _ _ ?_),
      rfl, rfl, commits.2.1⟩
    have found := commits.2.1
    exact Option.isSome_of_mem found

/-- `create_ticket_from_signal` finds or inserts the ticket. -/
theorem createTicketFromSignal_statements {request : TicketRequest}
    {result : TicketRow τ × TicketStore τ} (sound : store.Sound)
    (returned : store.createTicketFromSignal platform context request = .ok result) :
    Statements platform context.now ingests store result.2 := by
  simp only [createTicketFromSignal, bind_eq_ok] at returned
  obtain ⟨⟨checked, definitions⟩, _, signal, required, returned⟩ := returned
  exact (findOrCreateTicket_statements sound (requireSignal_eq_ok.mp required) returned).1

/-- `create_ticket_with_tasks` finds or inserts the ticket and adds its tasks. -/
theorem createTicketWithTasks_statements {request : TicketRequest} {tasks : List TaskDefinition}
    {result : (TicketRow τ × Nat) × TicketStore τ} (sound : store.Sound)
    (returned : store.createTicketWithTasks platform context request tasks = .ok result) :
    Statements platform context.now ingests store result.2 ∧
      ∃ definitions ticketId, taskDefinitions tasks = .ok definitions ∧
        store.Completes ticketId (definitions.map TaskDefinition.title) result.1.2 result.2 ∧
        ∃ row, result.2.ticketOf ticketId = some row ∧ row.signalId = strip request.signalId := by
  simp only [createTicketWithTasks, bind_eq_ok] at returned
  obtain ⟨⟨checked, definitions⟩, checks, signal, required, ⟨row, between⟩, creation,
    ⟨added, behind⟩, filled, returned⟩ := returned
  obtain ⟨sameSignal, tasksChecked, _⟩ := checkRequest_eq_ok platform checks
  obtain rfl := Except.ok.inj returned
  have first : Statements platform context.now ingests store between ∧ between.tasks = store.tasks ∧
      row.signalId = checked.signalId ∧ between.ticketOf row.id = some row :=
    findOrCreateTicket_statements sound (requireSignal_eq_ok.mp required) creation
  obtain ⟨statements, sameTasks, signalId, here⟩ := first
  have second : Statements platform context.now ingests between behind ∧ _ :=
    addMissingTasks_statements (Option.isSome_of_mem here) filled
  obtain ⟨rest, completes⟩ := second
  have tasksOf : ∀ id, between.tasksOf id = store.tasksOf id := by
    intro id
    rw [TicketStore.tasksOf, TicketStore.tasksOf, sameTasks]
  refine ⟨statements.trans rest, definitions, row.id, tasksChecked, ⟨?_, completes.complete⟩, ?_⟩
  · obtain ⟨new, tasks, count, owned, distinct, missing⟩ := completes.tasks
    rw [sameTasks] at tasks
    rw [tasksOf] at missing
    exact ⟨new, tasks, count, owned, distinct, missing⟩
  · rcases addMissingTasks_ticketOf here filled with same | touched
    · exact ⟨row, same, signalId.trans sameSignal⟩
    · exact ⟨row.touched context.now, touched, signalId.trans sameSignal⟩

end TicketStore

/-- A call that writes signals. -/
def StoreCall.Ingests : StoreCall → Prop
  | ingestSignals _ => True
  | ingestSnapshotSignals _ _ _ _ => True
  | _ => False

/-- Every call commits statements, which write signals where the call does. -/
theorem StoreCall.commit_statements [DecidableEq τ] {platform : StorePlatform}
    {context : CallContext τ} {store later : TicketStore τ} (call : StoreCall)
    (sound : store.Sound) (returned : call.commit platform context store = .ok later) :
    Statements platform context.now call.Ingests store later := by
  cases call with
  | ingestSignals batch =>
    obtain ⟨result, ingested, rfl⟩ := map_eq_ok.mp returned
    exact TicketStore.ingestSignals_statements ingested
  | ingestSnapshotSignals batch snapshotSha256 snapshotId generatedAt =>
    obtain ⟨result, ingested, rfl⟩ := map_eq_ok.mp returned
    exact TicketStore.ingestSnapshotSignals_statements ingested
  | createTicketFromSignal request =>
    obtain ⟨result, created, rfl⟩ := map_eq_ok.mp returned
    exact TicketStore.createTicketFromSignal_statements sound created
  | createTicketWithTasks request tasks =>
    obtain ⟨result, created, rfl⟩ := map_eq_ok.mp returned
    exact (TicketStore.createTicketWithTasks_statements sound created).1
  | transitionTicket ticketId toStatus actor note =>
    obtain ⟨result, moved, rfl⟩ := map_eq_ok.mp returned
    exact TicketStore.transitionTicket_statements moved
  | assignTicket ticketId owner actor =>
    obtain ⟨result, moved, rfl⟩ := map_eq_ok.mp returned
    exact TicketStore.assignTicket_statements moved
  | setTicketPriority ticketId priority actor =>
    obtain ⟨result, moved, rfl⟩ := map_eq_ok.mp returned
    exact TicketStore.setTicketPriority_statements moved
  | recalculateOpenSlaDeadlines actor =>
    obtain ⟨result, moved, rfl⟩ := map_eq_ok.mp returned
    exact TicketStore.recalculateOpenSlaDeadlines_statements sound moved
  | updateTicketGovernance ticketId owner priority actor =>
    obtain ⟨result, moved, rfl⟩ := map_eq_ok.mp returned
    exact TicketStore.updateTicketGovernance_statements moved
  | addComment ticketId author body =>
    obtain ⟨result, added, rfl⟩ := map_eq_ok.mp returned
    exact TicketStore.addComment_statements added
  | addTask ticketId actor title description owner dueAt =>
    obtain ⟨result, added, rfl⟩ := map_eq_ok.mp returned
    exact TicketStore.addTask_statements added
  | ensureTasks ticketId actor tasks owner =>
    obtain ⟨result, added, rfl⟩ := map_eq_ok.mp returned
    exact (TicketStore.ensureTasks_statements added).1
  | updateTaskStatus taskId status actor =>
    obtain ⟨result, updated, rfl⟩ := map_eq_ok.mp returned
    exact TicketStore.updateTaskStatus_statements sound updated

/-! ## Invariants -/

/-- What every statement keeps, the statements of a transaction keep. -/
theorem invariant_of_statements {platform : StorePlatform} {now : τ} {ingests : Prop}
    {invariant : TicketStore τ → Prop}
    (keeps : ∀ store later, invariant store → Statement platform now ingests store later →
      invariant later) {store later : TicketStore τ}
    (statements : Statements platform now ingests store later) (start : invariant store) :
    invariant later := by
  induction statements with
  | refl => exact start
  | tail _ statement before => exact keeps _ _ before statement

/-- What every statement keeps holds behind further calls. -/
theorem TicketStore.after_append_invariant [DecidableEq τ] {platform : StorePlatform}
    {invariant : TicketStore τ → Prop}
    (keeps : ∀ now ingests store later, invariant store →
      Statement platform now ingests store later → invariant later)
    (calls more : List (CallContext τ × StoreCall))
    (start : invariant (TicketStore.after platform calls)) :
    invariant (TicketStore.after platform (calls ++ more)) := by
  induction more using List.reverseRecOn with
  | nil =>
    rw [List.append_nil]
    exact start
  | append_singleton more call ih =>
    rw [← List.append_assoc, TicketStore.after_concat]
    rcases call.2.apply_cases platform call.1 (TicketStore.after platform (calls ++ more)) with
      same | committed
    · rw [same]
      exact ih
    · have recorded : (TicketStore.after platform (calls ++ more)).Recorded :=
        TicketStore.recorded_after (calls ++ more)
      have statements := call.2.commit_statements recorded.sound committed
      exact invariant_of_statements (keeps call.1.now call.2.Ingests) statements ih

/-- What every statement keeps holds of every store that calls build. -/
theorem TicketStore.after_invariant [DecidableEq τ] {platform : StorePlatform}
    {invariant : TicketStore τ → Prop} (initial : invariant .empty)
    (keeps : ∀ now ingests store later, invariant store →
      Statement platform now ingests store later → invariant later)
    (calls : List (CallContext τ × StoreCall)) : invariant (TicketStore.after platform calls) :=
  TicketStore.after_append_invariant keeps [] calls initial

end DTLab
