import DTLab.Tickets.Checklists
import DTLab.Tickets.Signals

/-!
# Runs of the ticket store

The operations of `TicketStore` that write, as calls. A call commits a store or leaves the store
as it was. `StoreCall.Concerns` names, from the arguments of a call and the store it meets, the
tickets it would write, and every store that calls build keeps the trails of its tickets.
-/

namespace DTLab

open Library.Attempt (bind_eq_ok map_eq_ok foldlM_keeps)

/-- The operations that write, with their arguments. -/
inductive StoreCall where
  | ingestSignals (batch : List SignalInput)
  | ingestSnapshotSignals (batch : List SignalInput)
    (snapshotSha256 snapshotId generatedAt : String)
  | createTicketFromSignal (request : TicketRequest)
  | createTicketWithTasks (request : TicketRequest) (tasks : List TaskDefinition)
  | transitionTicket (ticketId toStatus actor : String) (note : Option String)
  | assignTicket (ticketId : String) (owner : Option String) (actor : String)
  | setTicketPriority (ticketId priority actor : String)
  | recalculateOpenSlaDeadlines (actor : String)
  | updateTicketGovernance (ticketId : String) (owner : Option String) (priority actor : String)
  | addComment (ticketId author body : String)
  | addTask (ticketId actor title : String) (description owner dueAt : Option String)
  | ensureTasks (ticketId actor : String) (tasks : List TaskDefinition) (owner : Option String)
  | updateTaskStatus (taskId status actor : String)

variable {τ : Type} [DecidableEq τ] (platform : StorePlatform)

namespace StoreCall

/-- The store that a call commits. -/
def commit (context : CallContext τ) (store : TicketStore τ) :
    StoreCall → Except TicketError (TicketStore τ)
  | .ingestSignals batch =>
    (store.ingestSignals platform context.now batch).map Prod.snd
  | .ingestSnapshotSignals batch snapshotSha256 snapshotId generatedAt =>
    (store.ingestSnapshotSignals platform context.now batch snapshotSha256 snapshotId
      generatedAt).map Prod.snd
  | .createTicketFromSignal request =>
    (store.createTicketFromSignal platform context request).map Prod.snd
  | .createTicketWithTasks request tasks =>
    (store.createTicketWithTasks platform context request tasks).map Prod.snd
  | .transitionTicket ticketId toStatus actor note =>
    (store.transitionTicket platform context ticketId toStatus actor note).map Prod.snd
  | .assignTicket ticketId owner actor =>
    (store.assignTicket context ticketId owner actor).map Prod.snd
  | .setTicketPriority ticketId priority actor =>
    (store.setTicketPriority platform context ticketId priority actor).map Prod.snd
  | .recalculateOpenSlaDeadlines actor =>
    (store.recalculateOpenSlaDeadlines context actor).map Prod.snd
  | .updateTicketGovernance ticketId owner priority actor =>
    (store.updateTicketGovernance platform context ticketId owner priority actor).map Prod.snd
  | .addComment ticketId author body =>
    (store.addComment context ticketId author body).map Prod.snd
  | .addTask ticketId actor title description owner dueAt =>
    (store.addTask context ticketId actor title description owner dueAt).map Prod.snd
  | .ensureTasks ticketId actor tasks owner =>
    (store.ensureTasks context ticketId actor tasks owner).map Prod.snd
  | .updateTaskStatus taskId status actor =>
    (store.updateTaskStatus platform context taskId status actor).map Prod.snd

/-- The store behind a call, which is the store before where the call raises. -/
def apply (context : CallContext τ) (store : TicketStore τ) (call : StoreCall) :
    TicketStore τ :=
  match call.commit platform context store with
  | .ok later => later
  | .error _ => store

/-- Some definition of a task is missing on a ticket. -/
def Missing (store : TicketStore τ) (ticketId : String) (tasks : List TaskDefinition) : Prop :=
  ∃ definitions, taskDefinitions tasks = .ok definitions ∧ ∃ definition ∈ definitions,
    definition.title ∉ (store.tasksOf ticketId).map TaskRow.title

/-- A ticket that was there is one that a call would write. -/
def Concerns (context : CallContext τ) (store : TicketStore τ) (ticketId : String) :
    StoreCall → Prop
  | .ingestSignals _ => False
  | .ingestSnapshotSignals _ _ _ _ => False
  | .createTicketFromSignal _ => False
  | .createTicketWithTasks request tasks => ∃ row, store.ticketOf ticketId = some row ∧
    row.signalId = strip request.signalId ∧ Missing store ticketId tasks
  | .transitionTicket id _ _ _ => ticketId = strip id
  | .assignTicket id owner _ => ticketId = strip id ∧
    ∀ row ∈ store.ticketOf ticketId, optionalText 256 owner ≠ .ok row.owner
  | .setTicketPriority id priority _ => ticketId = strip id ∧
    ∀ row ∈ store.ticketOf ticketId, normalizePriority platform priority ≠ .ok row.priority
  | .recalculateOpenSlaDeadlines _ => ∃ row, store.ticketOf ticketId = some row ∧
    row.status ∉ TicketStatus.slaStopped ∧ ∀ slaDueAt, context.calendar = .ok slaDueAt →
      slaDueAt row.priority row.createdAt ≠ .ok row.slaDueAt
  | .updateTicketGovernance id owner priority _ => ticketId = strip id ∧
    ∀ row ∈ store.ticketOf ticketId, ¬ (optionalText 256 owner = .ok row.owner ∧
      normalizePriority platform priority = .ok row.priority)
  | .addComment id _ _ => ticketId = strip id
  | .addTask id _ _ _ _ _ => ticketId = strip id
  | .ensureTasks id _ tasks _ => ticketId = strip id ∧ Missing store ticketId tasks
  | .updateTaskStatus taskId status _ => ∃ task, store.taskOf (strip taskId) = some task ∧
    task.ticketId = ticketId ∧ normalizeTaskStatus platform status ≠ .ok task.status

end StoreCall

/-! ## What calls commit -/

namespace TicketStore

omit [DecidableEq τ] in
/-- A batch of signals concerns no ticket. -/
theorem SignalsOnly.commits {now : τ} {concerned : String → Prop} {store later : TicketStore τ}
    (only : store.SignalsOnly later) (sound : store.Sound) :
    Commits now concerned store later :=
  Commits.of_same sound only.tickets only.tasks only.auditEvents

end TicketStore

variable {platform} {context : CallContext τ} {store later : TicketStore τ}

/-- Every call commits trails of the tickets, and writes none that it does not concern. -/
theorem StoreCall.commit_commits (call : StoreCall) (sound : store.Sound)
    (returned : call.commit platform context store = .ok later) :
    store.Commits context.now (call.Concerns platform context store) later := by
  cases call with
  | ingestSignals batch =>
    obtain ⟨result, ingested, rfl⟩ := map_eq_ok.mp returned
    rw [TicketStore.ingestSignals] at ingested
    split_ifs at ingested
    · obtain rfl := Except.ok.inj ingested
      exact TicketStore.Commits.refl sound
    · exact (TicketStore.upsertBatch_signalsOnly ingested).commits sound
  | ingestSnapshotSignals batch snapshotSha256 snapshotId generatedAt =>
    obtain ⟨result, ingested, rfl⟩ := map_eq_ok.mp returned
    obtain ⟨digest, _, _, ⟨_, same⟩ | ⟨_, stats, later, batched, same⟩⟩ :=
      TicketStore.ingestSnapshotSignals_cases ingested
    · rw [same]
      exact TicketStore.Commits.refl sound
    · have only := TicketStore.upsertBatch_signalsOnly batched
      rw [same]
      exact TicketStore.Commits.of_same sound only.tickets only.tasks only.auditEvents
  | createTicketFromSignal request =>
    obtain ⟨result, created, rfl⟩ := map_eq_ok.mp returned
    exact TicketStore.createTicketFromSignal_commits platform sound created
  | createTicketWithTasks request tasks =>
    obtain ⟨result, created, rfl⟩ := map_eq_ok.mp returned
    exact TicketStore.createTicketWithTasks_commits platform sound created
  | transitionTicket ticketId toStatus actor note =>
    obtain ⟨result, moved, rfl⟩ := map_eq_ok.mp returned
    exact TicketStore.transitionTicket_commits platform sound moved
  | assignTicket ticketId owner actor =>
    obtain ⟨result, moved, rfl⟩ := map_eq_ok.mp returned
    exact TicketStore.assignTicket_commits sound moved
  | setTicketPriority ticketId priority actor =>
    obtain ⟨result, moved, rfl⟩ := map_eq_ok.mp returned
    exact TicketStore.setTicketPriority_commits platform sound moved
  | recalculateOpenSlaDeadlines actor =>
    obtain ⟨result, moved, rfl⟩ := map_eq_ok.mp returned
    exact TicketStore.recalculateOpenSlaDeadlines_commits sound moved
  | updateTicketGovernance ticketId owner priority actor =>
    obtain ⟨result, moved, rfl⟩ := map_eq_ok.mp returned
    exact TicketStore.updateTicketGovernance_commits platform sound moved
  | addComment ticketId author body =>
    obtain ⟨result, added, rfl⟩ := map_eq_ok.mp returned
    exact TicketStore.addComment_commits sound added
  | addTask ticketId actor title description owner dueAt =>
    obtain ⟨result, added, rfl⟩ := map_eq_ok.mp returned
    exact TicketStore.addTask_commits sound added
  | ensureTasks ticketId actor tasks owner =>
    obtain ⟨result, added, rfl⟩ := map_eq_ok.mp returned
    exact TicketStore.ensureTasks_commits sound added
  | updateTaskStatus taskId status actor =>
    obtain ⟨result, updated, rfl⟩ := map_eq_ok.mp returned
    exact TicketStore.updateTaskStatus_commits platform sound updated

/-- A call that raises leaves the store, and one that returns commits. -/
theorem StoreCall.apply_cases (platform : StorePlatform) (context : CallContext τ)
    (store : TicketStore τ) (call : StoreCall) :
    call.apply platform context store = store ∨
      call.commit platform context store = .ok (call.apply platform context store) := by
  rw [StoreCall.apply]
  cases call.commit platform context store with
  | error fault => exact Or.inl rfl
  | ok later => exact Or.inr rfl

/-- The store behind a call keeps the trails of its tickets. -/
theorem StoreCall.apply_recorded (call : StoreCall) (recorded : store.Recorded) :
    (call.apply platform context store).Recorded := by
  rcases call.apply_cases platform context store with same | committed
  · rw [same]
    exact recorded
  · obtain ⟨sound, added, written, _⟩ := call.commit_commits recorded.sound committed
    exact recorded.written sound written

/-! ## Reachable stores -/

/-- The store that a list of calls builds from the empty database. -/
def TicketStore.after (platform : StorePlatform) (calls : List (CallContext τ × StoreCall)) :
    TicketStore τ :=
  calls.foldl (fun store call => call.2.apply platform call.1 store) .empty

/-- The store behind one more call. -/
theorem TicketStore.after_concat (calls : List (CallContext τ × StoreCall))
    (call : CallContext τ × StoreCall) :
    TicketStore.after platform (calls ++ [call]) =
      call.2.apply platform call.1 (TicketStore.after platform calls) := by
  rw [TicketStore.after, List.foldl_append]
  rfl

/-- Every store that calls build keeps the trails of its tickets. -/
theorem TicketStore.recorded_after (calls : List (CallContext τ × StoreCall)) :
    (TicketStore.after platform calls).Recorded := by
  induction calls using List.reverseRecOn with
  | nil => exact TicketStore.recorded_empty
  | append_singleton calls call ih =>
    rw [TicketStore.after_concat]
    exact call.2.apply_recorded ih

end DTLab
