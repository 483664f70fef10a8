import DTLab.Tickets.Statements

/-!
# The integrity of checklists

The tasks of a ticket are numbered in the order of their insertion, and a task has an instant of
completion exactly when it is not pending. The two operations that fill a checklist add no title
that the ticket has and none twice, and add nothing where they are repeated, however many calls
were made in between.
-/

namespace DTLab

open Library (Table.row? Table.update Table.Keyed)
open Library.Attempt (bind_eq_ok map_eq_ok)

variable {τ : Type}

/-! ## Numbers -/

/-- The tasks of each ticket are numbered in their order, and those that are pending are the ones
without an instant of completion. -/
structure ChecklistsSound (store : TicketStore τ) : Prop where
  positions : ∀ ticketId, (store.tasksOf ticketId).map TaskRow.position =
    List.range' 1 (store.tasksOf ticketId).length
  completed : ∀ task ∈ store.tasks, task.completedAt = none ↔ task.status = .pending

/-- The greatest of the first numbers. -/
theorem foldl_max_range' (count : Nat) : (List.range' 1 count).foldl max 0 = count := by
  induction count with
  | zero => rfl
  | succ count ih =>
    rw [List.range'_concat, List.foldl_append, ih]
    show max count (1 + 1 * count) = count + 1
    omega

/-- The last position of a sound checklist is its length. -/
theorem ChecklistsSound.lastPosition {store : TicketStore τ} (sound : ChecklistsSound store)
    (ticketId : String) : store.lastPosition ticketId = (store.tasksOf ticketId).length := by
  rw [TicketStore.lastPosition, sound.positions, foldl_max_range']

/-- A column that an update keeps, of the rows that another one selects. -/
theorem map_filter_updateTask {α : Type} {store : TicketStore τ} {taskId ticketId : String}
    {change : TaskRow τ → TaskRow τ} {column : TaskRow τ → α}
    (keepsTicket : ∀ row, (change row).ticketId = row.ticketId)
    (keeps : ∀ row, column (change row) = column row) :
    ((store.updateTask taskId change).tasksOf ticketId).map column =
      (store.tasksOf ticketId).map column := by
  rw [TicketStore.tasksOf, TicketStore.updateTask, Table.update, List.filter_map, List.map_map]
  have selected : (fun task : TaskRow τ => decide (task.ticketId = ticketId)) ∘
      (fun row => if row.id = taskId then change row else row) =
        fun task => decide (task.ticketId = ticketId) := by
    funext row
    rw [Function.comp_apply]
    split_ifs
    · rw [keepsTicket]
    · rfl
  have shown : column ∘ (fun row => if row.id = taskId then change row else row) = column := by
    funext row
    rw [Function.comp_apply]
    split_ifs
    · exact keeps row
    · rfl
  rw [selected, shown]
  rfl

/-- Every statement keeps the checklists sound. -/
theorem ChecklistsSound.statement {platform : StorePlatform} {now : τ} {ingests : Prop}
    {store later : TicketStore τ}
    (sound : ChecklistsSound store) (statement : Statement platform now ingests store later) :
    ChecklistsSound later := by
  cases statement with
  | signalUpserted ingest input signal checked =>
    have only : store.SignalsOnly (store.upsertChecked platform now signal).1 :=
      TicketStore.upsertChecked_signalsOnly signal
    constructor
    · intro ticketId
      rw [TicketStore.tasksOf, only.tasks]
      exact sound.positions ticketId
    · rw [only.tasks]
      exact sound.completed
  | taskInserted task fresh present next pending incomplete =>
    constructor
    · intro ticketId
      have tasks : TicketStore.tasksOf { store with tasks := store.tasks ++ [task] } ticketId =
          store.tasksOf ticketId ++ [task].filter fun other => other.ticketId = ticketId :=
        List.filter_append ..
      rw [tasks]
      by_cases own : task.ticketId = ticketId
      · have last : [task].filter (fun other => other.ticketId = ticketId) = [task] := by
          rw [List.filter_singleton, decide_eq_true own]
          rfl
        have position : task.position = 1 + 1 * (store.tasksOf ticketId).length := by
          rw [next, own, sound.lastPosition]
          omega
        rw [last, List.map_append, List.length_append, sound.positions, List.map_singleton,
          position, List.length_singleton, List.range'_concat]
      · rw [List.filter_singleton, decide_eq_false own]
        simpa using sound.positions ticketId
    · intro other member
      rcases List.mem_append.mp member with inside | last
      · exact sound.completed other inside
      · rw [List.mem_singleton.mp last]
        exact iff_of_true incomplete pending
  | taskSet taskId status =>
    constructor
    · intro ticketId
      let set := store.updateTask taskId fun row : TaskRow τ =>
        { row with
          status := status
          completedAt := if status = .pending then none else some now
          updatedAt := now }
      have same : (set.tasksOf ticketId).map TaskRow.position =
          (store.tasksOf ticketId).map TaskRow.position :=
        map_filter_updateTask (fun _ => rfl) fun _ => rfl
      have length : (set.tasksOf ticketId).length = (store.tasksOf ticketId).length := by
        have lengths := congrArg List.length same
        rwa [List.length_map, List.length_map] at lengths
      rw [show TicketStore.tasksOf _ ticketId = set.tasksOf ticketId from rfl, same, length]
      exact sound.positions ticketId
    · intro other member
      rcases Library.Table.mem_update.mp member with ⟨inside, _⟩ | ⟨before, inside, _, rfl⟩
      · exact sound.completed other inside
      · by_cases pending : status = .pending
        · simp [pending]
        · simp [pending]
  | _ => exact ⟨sound.positions, sound.completed⟩

/-- The checklists are sound behind every call. -/
theorem checklistsSound_after [DecidableEq τ] (platform : StorePlatform)
    (calls : List (CallContext τ × StoreCall)) :
    ChecklistsSound (TicketStore.after platform calls) := by
  apply TicketStore.after_invariant
  · constructor
    · intro ticketId
      rfl
    · exact nofun
  · exact fun _ _ _ _ sound statement => sound.statement statement

/-! ## Titles -/

/-- Every statement keeps the titles on a ticket. -/
theorem titles_statement {platform : StorePlatform} {now : τ} {ingests : Prop}
    {store later : TicketStore τ}
    {ticketId title : String} (statement : Statement platform now ingests store later)
    (present : title ∈ (store.tasksOf ticketId).map TaskRow.title) :
    title ∈ (later.tasksOf ticketId).map TaskRow.title := by
  cases statement with
  | signalUpserted ingest input signal checked =>
    have only : store.SignalsOnly (store.upsertChecked platform now signal).1 :=
      TicketStore.upsertChecked_signalsOnly signal
    rw [TicketStore.tasksOf, only.tasks]
    exact present
  | taskInserted task =>
    obtain ⟨row, member, same⟩ := List.mem_map.mp present
    obtain ⟨inside, own⟩ := List.mem_filter.mp member
    exact List.mem_map.mpr ⟨row, List.mem_filter.mpr ⟨List.mem_append_left _ inside, own⟩, same⟩
  | taskSet taskId status =>
    have same : ((store.updateTask taskId fun row : TaskRow τ =>
        { row with
          status := status
          completedAt := if status = .pending then none else some now
          updatedAt := now }).tasksOf ticketId).map TaskRow.title =
            (store.tasksOf ticketId).map TaskRow.title :=
      map_filter_updateTask (fun _ => rfl) fun _ => rfl
    rw [same]
    exact present
  | _ => exact present

/-- A ticket of a signal is there. -/
def Ticketed (store : TicketStore τ) (ticketId signalId : String) : Prop :=
  ∃ row, store.ticketOf ticketId = some row ∧ row.signalId = signalId

/-- Every statement keeps the ticket of a signal. -/
theorem Ticketed.statement {platform : StorePlatform} {now : τ} {ingests : Prop}
    {store later : TicketStore τ}
    {ticketId signalId : String} (ticketed : Ticketed store ticketId signalId)
    (statement : Statement platform now ingests store later) :
    Ticketed later ticketId signalId := by
  obtain ⟨row, found, same⟩ := ticketed
  cases statement with
  | signalUpserted ingest input signal checked =>
    have only : store.SignalsOnly (store.upsertChecked platform now signal).1 :=
      TicketStore.upsertChecked_signalsOnly signal
    refine ⟨row, ?_, same⟩
    rw [TicketStore.ticketOf, only.tickets]
    exact found
  | ticketInserted other =>
    exact ⟨row, Library.Table.row?_append_of_some other found, same⟩
  | ticketUpdated id change keepsId keepsSignal =>
    by_cases own : ticketId = id
    · subst own
      refine ⟨change row, TicketStore.ticketOf_updateTicket_self found keepsId, ?_⟩
      rw [keepsSignal, same]
    · refine ⟨row, ?_, same⟩
      rw [TicketStore.ticketOf_updateTicket_ne keepsId own]
      exact found
  | _ => exact ⟨row, found, same⟩

/-- The ticket of a signal is found by it. -/
theorem Ticketed.ticketOfSignal {store : TicketStore τ} {ticketId signalId : String}
    (ticketed : Ticketed store ticketId signalId) (sound : store.Sound) :
    ∃ row, store.ticketOfSignal signalId = some row ∧ row.id = ticketId := by
  obtain ⟨row, found, rfl⟩ := ticketed
  refine ⟨row, ?_, Library.Table.key_of_row? found⟩
  exact Library.Table.row?_of_mem sound.signalIds (Library.Table.mem_of_row? found)

/-! ## Filling a checklist -/

/-- A call that fills a checklist. -/
inductive Fill where
  | ensureTasks (ticketId actor : String) (tasks : List TaskDefinition) (owner : Option String)
  | createWithTasks (request : TicketRequest) (tasks : List TaskDefinition)

namespace Fill

/-- The call of the store. -/
def call : Fill → StoreCall
  | ensureTasks ticketId actor tasks owner => .ensureTasks ticketId actor tasks owner
  | createWithTasks request tasks => .createTicketWithTasks request tasks

/-- The definitions of the tasks. -/
def tasks : Fill → List TaskDefinition
  | ensureTasks _ _ tasks _ => tasks
  | createWithTasks _ tasks => tasks

/-- The ticket that the call fills, in the store behind it. -/
def On (later : TicketStore τ) (ticketId : String) : Fill → Prop
  | ensureTasks id _ _ _ => ticketId = strip id
  | createWithTasks request _ => Ticketed later ticketId (strip request.signalId)

/-- How many tasks the call adds, and the store behind it. -/
def run (platform : StorePlatform) (context : CallContext τ) (store : TicketStore τ) :
    Fill → Except TicketError (Nat × TicketStore τ)
  | ensureTasks ticketId actor tasks owner => store.ensureTasks context ticketId actor tasks owner
  | createWithTasks request tasks =>
    (store.createTicketWithTasks platform context request tasks).map fun result =>
      (result.1.2, result.2)

/-- Two calls of one operation on one ticket or signal with the same definitions. -/
def Repeats : Fill → Fill → Prop
  | ensureTasks ticketId _ tasks _, ensureTasks ticketId' _ tasks' _ =>
    strip ticketId = strip ticketId' ∧ tasks = tasks'
  | createWithTasks request tasks, createWithTasks request' tasks' =>
    strip request.signalId = strip request'.signalId ∧ tasks = tasks'
  | _, _ => False

variable [DecidableEq τ] {platform : StorePlatform} {context : CallContext τ}
  {store later : TicketStore τ}

/-- What the call commits. -/
theorem commit_call (platform : StorePlatform) (context : CallContext τ) (store : TicketStore τ)
    (fill : Fill) :
    fill.call.commit platform context store = (fill.run platform context store).map Prod.snd := by
  cases fill with
  | ensureTasks ticketId actor tasks owner => rfl
  | createWithTasks request tasks =>
    show Except.map _ _ = Except.map _ (Except.map _ _)
    cases store.createTicketWithTasks platform context request tasks <;> rfl

omit [DecidableEq τ] in
/-- A call that fills a checklist adds new titles of one ticket, each once. -/
theorem run_completes {fill : Fill} {added : Nat} (sound : store.Sound)
    (returned : fill.run platform context store = .ok (added, later)) :
    ∃ ticketId definitions, fill.On later ticketId ∧
      taskDefinitions fill.tasks = .ok definitions ∧
      store.Completes ticketId (definitions.map TaskDefinition.title) added later := by
  cases fill with
  | ensureTasks ticketId actor tasks owner =>
    have both : Statements platform context.now False store later ∧ _ :=
      TicketStore.ensureTasks_statements returned
    obtain ⟨_, definitions, checked, completes⟩ := both
    exact ⟨strip ticketId, definitions, rfl, checked, completes⟩
  | createWithTasks request tasks =>
    obtain ⟨result, created, same⟩ := map_eq_ok.mp returned
    obtain ⟨rfl, rfl⟩ := Prod.mk.inj same
    have both : Statements platform context.now False store result.2 ∧ _ :=
      TicketStore.createTicketWithTasks_statements sound created
    obtain ⟨_, definitions, ticketId, checked, completes, ticketed⟩ := both
    exact ⟨ticketId, definitions, ticketed, checked, completes⟩

omit [DecidableEq τ] in
/-- The ticket that a call fills has all the titles of its definitions. -/
def Covered (store : TicketStore τ) : Fill → Prop
  | ensureTasks ticketId _ tasks _ => ∀ definitions, taskDefinitions tasks = .ok definitions →
    ∀ definition ∈ definitions,
      definition.title ∈ (store.tasksOf (strip ticketId)).map TaskRow.title
  | createWithTasks request tasks => ∀ definitions, taskDefinitions tasks = .ok definitions →
    ∃ ticketId, Ticketed store ticketId (strip request.signalId) ∧
      ∀ definition ∈ definitions, definition.title ∈ (store.tasksOf ticketId).map TaskRow.title

omit [DecidableEq τ] in
/-- Behind a call that fills a checklist, it is filled. -/
theorem covered_of_run {fill : Fill} {added : Nat} (sound : store.Sound)
    (returned : fill.run platform context store = .ok (added, later)) : fill.Covered later := by
  cases fill with
  | ensureTasks ticketId actor tasks owner =>
    have both : Statements platform context.now False store later ∧ _ :=
      TicketStore.ensureTasks_statements returned
    obtain ⟨_, definitions, checked, completes⟩ := both
    intro others checkedAgain definition member
    rw [checked] at checkedAgain
    obtain rfl := Except.ok.inj checkedAgain
    exact completes.complete definition.title (List.mem_map_of_mem member)
  | createWithTasks request tasks =>
    obtain ⟨result, created, same⟩ := map_eq_ok.mp returned
    obtain ⟨rfl, rfl⟩ := Prod.mk.inj same
    have both : Statements platform context.now False store result.2 ∧ _ :=
      TicketStore.createTicketWithTasks_statements sound created
    obtain ⟨_, definitions, ticketId, checked, completes, row, found, signal⟩ := both
    intro others checkedAgain
    rw [checked] at checkedAgain
    obtain rfl := Except.ok.inj checkedAgain
    refine ⟨ticketId, ⟨row, found, signal⟩, ?_⟩
    intro definition member
    exact completes.complete definition.title (List.mem_map_of_mem member)

omit [DecidableEq τ] in
/-- A checklist that is filled stays filled. -/
theorem Covered.statement {fill : Fill} {now : τ} (covered : fill.Covered store)
    (statement : Statement platform now ingests store later) : fill.Covered later := by
  cases fill with
  | ensureTasks ticketId actor tasks owner =>
    intro definitions checked definition member
    exact titles_statement statement (covered definitions checked definition member)
  | createWithTasks request tasks =>
    intro definitions checked
    obtain ⟨ticketId, ticketed, complete⟩ := covered definitions checked
    refine ⟨ticketId, ticketed.statement statement, ?_⟩
    intro definition member
    exact titles_statement statement (complete definition member)

omit [DecidableEq τ] in
/-- What is filled for a call is filled for its repetitions. -/
theorem Covered.repeats {fill again : Fill} (covered : fill.Covered store)
    (repeats : fill.Repeats again) : again.Covered store := by
  cases fill with
  | ensureTasks ticketId actor tasks owner =>
    cases again with
    | ensureTasks ticketId' actor' tasks' owner' =>
      obtain ⟨sameTicket, rfl⟩ := repeats
      rw [Covered, ← sameTicket]
      exact covered
    | createWithTasks request' tasks' => exact repeats.elim
  | createWithTasks request tasks =>
    cases again with
    | ensureTasks ticketId' actor' tasks' owner' => exact repeats.elim
    | createWithTasks request' tasks' =>
      obtain ⟨sameSignal, rfl⟩ := repeats
      rw [Covered, ← sameSignal]
      exact covered

omit [DecidableEq τ] in
/-- A call whose checklist is filled adds nothing. -/
theorem run_of_covered {fill : Fill} {result : Nat × TicketStore τ} (sound : store.Sound)
    (covered : fill.Covered store) (returned : fill.run platform context store = .ok result) :
    result = (0, store) := by
  cases fill with
  | ensureTasks ticketId actor tasks owner =>
    simp only [run, TicketStore.ensureTasks, bind_eq_ok] at returned
    obtain ⟨id, idChecked, actor', _, owner', _, definitions, checked, row, required, returned⟩ :=
      returned
    obtain ⟨rfl, _⟩ := requiredText_eq_ok.mp idChecked
    rw [TicketStore.addMissingTasks_none (covered definitions checked)] at returned
    exact (Except.ok.inj returned).symm
  | createWithTasks request tasks =>
    obtain ⟨whole, created, rfl⟩ := map_eq_ok.mp returned
    have steps := created
    simp only [TicketStore.createTicketWithTasks, bind_eq_ok] at steps
    obtain ⟨checked, checks, signal, required, _⟩ := steps
    have known := TicketStore.requireSignal_eq_ok.mp required
    have checkedRequest : checked.1.signalId = strip request.signalId ∧
        taskDefinitions tasks = .ok checked.2 ∧ _ :=
      TicketStore.checkRequest_eq_ok platform checks
    obtain ⟨sameSignal, tasksChecked, _⟩ := checkedRequest
    obtain ⟨ticketId, ticketed, complete⟩ := covered checked.2 tasksChecked
    obtain ⟨row, found, sameId⟩ := ticketed.ticketOfSignal sound
    rw [← sameSignal] at found
    rw [← sameId] at complete
    rw [TicketStore.createTicketWithTasks_found platform checks known found,
      TicketStore.addMissingTasks_none complete] at created
    obtain rfl := Except.ok.inj created
    rfl

/-- A call whose checklist is filled leaves the store. -/
theorem apply_of_covered {fill : Fill} (sound : store.Sound) (covered : fill.Covered store) :
    fill.call.apply platform context store = store := by
  rw [StoreCall.apply, commit_call]
  cases returned : fill.run platform context store with
  | error fault => rfl
  | ok result =>
    rw [run_of_covered sound covered returned]
    rfl

end Fill

/-- In the store behind any calls, the tasks of a ticket are numbered from one in their order and
those that are pending are the ones without an instant of completion. A call that fills a
checklist adds new titles only, each once; where it is repeated with the same definitions behind
any further calls, it adds nothing and leaves the store. -/
theorem checklist_integrity [DecidableEq τ] (platform : StorePlatform)
    (calls : List (CallContext τ × StoreCall)) :
    ChecklistsSound (TicketStore.after platform calls) ∧
      ∀ (context : CallContext τ) (fill : Fill) (added : Nat) (later : TicketStore τ),
        fill.run platform context (TicketStore.after platform calls) = .ok (added, later) →
        later = TicketStore.after platform (calls ++ [(context, fill.call)]) ∧
        (∃ ticketId definitions, fill.On later ticketId ∧
          taskDefinitions fill.tasks = .ok definitions ∧
          (TicketStore.after platform calls).Completes ticketId
            (definitions.map TaskDefinition.title) added later) ∧
        ∀ (more : List (CallContext τ × StoreCall)) (again : Fill), fill.Repeats again →
          ∀ context' store,
            store = TicketStore.after platform (calls ++ [(context, fill.call)] ++ more) →
            again.call.apply platform context' store = store ∧
              ∀ result, again.run platform context' store = .ok result → result = (0, store) := by
  refine ⟨checklistsSound_after platform calls, ?_⟩
  intro context fill added later returned
  have recorded : (TicketStore.after platform calls).Recorded := TicketStore.recorded_after calls
  have sound := recorded.sound
  have behind : later = TicketStore.after platform (calls ++ [(context, fill.call)]) := by
    rw [TicketStore.after_concat, StoreCall.apply, Fill.commit_call, returned]
    rfl
  refine ⟨behind, Fill.run_completes sound returned, ?_⟩
  rintro more again repeats context' store rfl
  have covered : fill.Covered
      (TicketStore.after platform (calls ++ [(context, fill.call)] ++ more)) := by
    have keeps : ∀ (now : τ) (ingests : Prop) (store later : TicketStore τ), fill.Covered store →
        Statement platform now ingests store later → fill.Covered later :=
      fun _ _ _ _ covered statement => covered.statement statement
    apply TicketStore.after_append_invariant keeps
    rw [← behind]
    exact Fill.covered_of_run sound returned
  have recordedAgain : (TicketStore.after platform
      (calls ++ [(context, fill.call)] ++ more)).Recorded := TicketStore.recorded_after _
  have soundAgain := recordedAgain.sound
  exact ⟨Fill.apply_of_covered soundAgain (covered.repeats repeats),
    fun result => Fill.run_of_covered soundAgain (covered.repeats repeats)⟩

end DTLab
