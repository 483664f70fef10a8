import DTLab.Tickets.Calls

/-!
# The automatic ticket policy

`apply_host_ot_ticket_policy` makes four calls of the ticket store, each a transaction of its
own: it reads the signal, reads its ticket, creates the ticket with the tasks of the playbook, and
sets a more urgent priority where the ticket has a less urgent one. A run is the state between two
of its calls.
-/

namespace DTLab

open Library (Json Table.row? Table.update Table.Keyed)
open Library.Attempt (bind_eq_ok)

variable {τ : Type}

/-! ## What the policy looks at -/

/-- `HOST_OT_SOURCE_ID`. -/
def hostOtSourceId : String := "src:dtlab-host-ot:plc-desktop"

/-- `HOST_OT_SIGNAL_TYPE`. -/
def hostOtSignalType : String := "host_modbus_write"

/-- `HOST_OT_SOURCE_SCOPE`. -/
def hostOtSourceScope : String := "plc_host_side"

/-- `HOST_OT_POLICY_ACTOR`. -/
def hostOtPolicyActor : String := "dtlab-system:host-ot-policy"

/-- The actor of the policy passes its check. -/
theorem requiredText_hostOtPolicyActor :
    requiredText "Attore" 256 hostOtPolicyActor = .ok hostOtPolicyActor := by
  apply requiredText_ofList <;> decide

/-- The type of the signal passes its check. -/
theorem requiredText_hostOtSignalType :
    requiredText "Tipo segnale" 64 hostOtSignalType = .ok hostOtSignalType := by
  apply requiredText_ofList <;> decide

/-- The source of the signal passes its check. -/
theorem optionalText_hostOtSourceId :
    optionalText 512 (some hostOtSourceId) = .ok (some hostOtSourceId) := by
  have required : requiredText "" 512 hostOtSourceId = .ok hostOtSourceId := by
    apply requiredText_ofList <;> decide
  exact optionalText_of_required required

/-- The member of a value that is a dictionary. -/
def memberOf (key : String) : Json → Option Json
  | .obj fields => fields.lookup key
  | _ => none

/-- A value is a text. -/
def isTextOf (text : String) : Option Json → Bool
  | some (.str other) => decide (other = text)
  | _ => false

/-- The event in the payload of a signal. -/
def SignalRow.event (signal : SignalRow τ) : Option Json := signal.payload.lookup "event"

/-- `_desired_priority`. -/
def desiredPriority (signal : SignalRow τ) : TicketPriority :=
  let detection := signal.event.bind (memberOf "detection")
  if isTextOf "process_shutdown_sequence" (detection.bind (memberOf "classification")) then .p1
  else if signal.severity = "critical" then .p1 else .p2

/-- The signals that the policy accepts: type, source and scope are those of an endpoint. -/
def SignalRow.isHostOt (signal : SignalRow τ) : Bool :=
  decide (signal.signalType = hostOtSignalType) &&
    decide (signal.sourceId = some hostOtSourceId) &&
    isTextOf hostOtSourceScope (signal.payload.lookup "source_scope")

/-- `_COMMON_CLOSE`. -/
def commonClose : TaskDefinition where
  title := "Documentare esito ed evidenze"
  description :=
    some "Registrare decisione, prove, approvazioni e verifica finale prima della chiusura."

/-- `PLAYBOOKS["host_modbus_write"]`. -/
def hostModbusWriteTasks : List TaskDefinition :=
  [⟨"Confermare l'evidenza endpoint",
      some ("Verificare sensor ID, episodio, Function Code, Unit ID, registri, valori " ++
        "e stato request/processed. L'evidenza è host-side DTLab e non Cisco.")⟩,
    ⟨"Verificare autorizzazione e impatto OT",
      some ("Confrontare origine, change window e sequenza osservata con le operazioni " ++
        "autorizzate, senza dedurre l'esito del processo dal solo nome dello script.")⟩,
    ⟨"Confermare stato PLC e rollback",
      some ("Far verificare al referente OT lo stato reale del processo e applicare soltanto " ++
        "il rollback approvato; nessuna scrittura viene eseguita dal portale.")⟩,
    commonClose]

/-- A task whose texts pass their checks unchanged. -/
def TaskDefinition.Checked (task : TaskDefinition) : Prop :=
  requiredText "Titolo task" 1024 task.title = .ok task.title ∧
    optionalText 16384 task.description = .ok task.description

/-- Two texts that are their own strips make a checked task. -/
theorem TaskDefinition.checked_ofList {title description : Library.Text}
    (stripped : stripText title = title ∧ stripText description = description)
    (nonempty : title ≠ [] ∧ description ≠ [])
    (short : title.length ≤ 1024 ∧ description.length ≤ 16384) :
    TaskDefinition.Checked ⟨String.ofList title, some (String.ofList description)⟩ := by
  constructor
  · exact requiredText_ofList "Titolo task" stripped.1 nonempty.1 short.1
  · apply optionalText_of_required
    exact requiredText_ofList "" stripped.2 nonempty.2 short.2

/-- Checked tasks with distinct titles are their own definitions. -/
theorem taskDefinitions_of_checked {tasks : List TaskDefinition}
    (checked : ∀ task ∈ tasks, task.Checked)
    (distinct : (tasks.map TaskDefinition.title).Nodup) : taskDefinitions tasks = .ok tasks := by
  induction tasks using List.reverseRecOn with
  | nil => rfl
  | append_singleton tasks task ih =>
    rw [List.map_append, List.nodup_append] at distinct
    obtain ⟨distinctRest, _, apart⟩ := distinct
    have earlier := ih (fun other member => checked other (List.mem_append_left [task] member))
      distinctRest
    have fresh : task.title ∉ tasks.map TaskDefinition.title :=
      fun member => apart task.title member task.title (by simp) rfl
    obtain ⟨title, description⟩ := checked task (by simp)
    rw [taskDefinitions] at earlier ⊢
    rw [List.foldlM_append, earlier]
    simp [taskDefinitionRound, title, description, fresh, bind, Except.bind, pure, Except.pure]

theorem hostModbusWriteTasks_checked : ∀ task ∈ hostModbusWriteTasks, task.Checked := by
  simp only [hostModbusWriteTasks, commonClose, List.forall_mem_cons, List.not_mem_nil,
    false_imp_iff, implies_true, and_true, String.reduceAppend]
  refine ⟨?_, ?_, ?_, ?_⟩
  all_goals
    apply TaskDefinition.checked_ofList
    all_goals decide +kernel

/-- The tasks of the playbook pass their checks unchanged. -/
theorem taskDefinitions_hostModbusWrite :
    taskDefinitions hostModbusWriteTasks = .ok hostModbusWriteTasks := by
  apply taskDefinitions_of_checked hostModbusWriteTasks_checked
  simp [hostModbusWriteTasks, commonClose]

/-- The name of a priority is taken for it. -/
theorem normalizePriority_text (platform : StorePlatform) (priority : TicketPriority) :
    normalizePriority platform priority.text = .ok priority := by
  have ascii : ∀ c ∈ priority.text.toList, c.toNat < 128 := by
    cases priority <;> simp [TicketPriority.text]
  have lowered : platform.lower priority.text = priority.text := by
    rw [platform.lower_ascii priority.text ascii]
    cases priority <;> decide
  have required : requiredText "Priorità" 2 priority.text = .ok priority.text := by
    cases priority <;> decide
  simp [normalizePriority, requiredChoice, required, lowered, bind, Except.bind]

/-! ## Runs -/

/-- `HostOtTicketPolicyResult`. -/
structure PolicyResult (τ : Type) where
  ticket : TicketRow τ
  created : Bool
  escalated : Bool
  tasksAdded : Nat

/-- A run of the policy between two calls. -/
inductive PolicyRun (τ : Type) where
  /-- `get_signal` is next. -/
  | reading
  /-- `get_ticket_for_signal` is next. -/
  | looking (desired : TicketPriority)
  /-- `create_ticket_with_tasks` is next. -/
  | creating (desired : TicketPriority) (created : Bool)
  /-- `set_ticket_priority` is next. -/
  | escalating (desired : TicketPriority) (created : Bool) (ticket : TicketRow τ)
    (tasksAdded : Nat)
  | returned (result : PolicyResult τ)
  | raised (fault : TicketError)

/-- The message about a signal that the policy does not accept. -/
def policyMessage : String :=
  "La policy automatica host OT accetta solo segnali endpoint normalizzati."

/-- The creation that the policy requests. -/
def policyRequest (signalId actor : String) (desired : TicketPriority) : TicketRequest :=
  ⟨signalId, actor, desired.text, none, none, none⟩

variable (platform : StorePlatform) (context : CallContext τ)

/-- The next call of a run, and the store behind it. -/
def PolicyRun.step (store : TicketStore τ) (signalId actor : String) :
    PolicyRun τ → PolicyRun τ × TicketStore τ
  | .reading =>
    match store.getSignal signalId with
    | .error fault => (.raised fault, store)
    | .ok signal =>
      if signal.isHostOt then (.looking (desiredPriority signal), store)
      else (.raised (.validation policyMessage), store)
  | .looking desired =>
    match store.getTicketForSignal signalId with
    | .error fault => (.raised fault, store)
    | .ok before => (.creating desired before.isNone, store)
  | .creating desired created =>
    match store.createTicketWithTasks platform context (policyRequest signalId actor desired)
      hostModbusWriteTasks with
    | .error fault => (.raised fault, store)
    | .ok ((ticket, added), later) =>
      if desired.rank < ticket.priority.rank then
        (.escalating desired created ticket added, later)
      else (.returned ⟨ticket, created, false, added⟩, later)
  | .escalating desired created ticket added =>
    match store.setTicketPriority platform context ticket.id desired.text actor with
    | .error fault => (.raised fault, store)
    | .ok (ticket, later) => (.returned ⟨ticket, created, true, added⟩, later)
  | .returned result => (.returned result, store)
  | .raised fault => (.raised fault, store)

namespace PolicyRun

variable {platform context} {store later : TicketStore τ} {signalId actor : String}
  {desired : TicketPriority} {created : Bool} {ticket : TicketRow τ} {added : Nat}

/-- A run whose signal the policy accepts. -/
theorem step_reading {signal : SignalRow τ} (found : store.getSignal signalId = .ok signal)
    (accepted : signal.isHostOt = true) :
    PolicyRun.reading.step platform context store signalId actor =
      (.looking (desiredPriority signal), store) := by
  simp only [step, found, accepted, if_true]

/-- A run that looks for the ticket. -/
theorem step_looking {before : Option (TicketRow τ)}
    (found : store.getTicketForSignal signalId = .ok before) :
    (PolicyRun.looking desired).step platform context store signalId actor =
      (.creating desired before.isNone, store) := by
  simp only [step, found]

/-- A run whose creation returned a ticket that is less urgent than the policy wants it. -/
theorem step_creating_less (returned : store.createTicketWithTasks platform context
      (policyRequest signalId actor desired) hostModbusWriteTasks = .ok ((ticket, added), later))
    (less : desired.rank < ticket.priority.rank) :
    (PolicyRun.creating desired created).step platform context store signalId actor =
      (.escalating desired created ticket added, later) := by
  simp only [step, returned, if_pos less]

end PolicyRun

/-- A creation that the policy requests passes its checks where its texts, its tasks and the
deadline do. -/
theorem checkRequest_policy {signalId actor : String} (desired : TicketPriority)
    {tasks definitions : List TaskDefinition}
    {slaDueAt : TicketPriority → τ → Except TicketError τ} {due : τ}
    (isSignal : requiredText "Signal ID" 128 signalId = .ok signalId)
    (isActor : requiredText "Attore" 256 actor = .ok actor)
    (checked : taskDefinitions tasks = .ok definitions)
    (calendar : context.calendar = .ok slaDueAt)
    (deadline : slaDueAt desired context.now = .ok due) :
    checkRequest platform context (policyRequest signalId actor desired) tasks =
      .ok (⟨signalId, actor, desired, none, due⟩, definitions) := by
  simp [checkRequest, policyRequest, isSignal, isActor, normalizePriority_text, optionalText,
    checked, calendar, deadline, bind, Except.bind]

/-! ## What a run commits -/

variable {platform context} {store : TicketStore τ}

/-- Every call of the policy commits trails of the tickets. -/
theorem PolicyRun.step_commits (run : PolicyRun τ) (signalId actor : String)
    (sound : store.Sound) :
    store.Commits context.now (fun _ => True)
      (run.step platform context store signalId actor).2 := by
  have unchanged : store.Commits context.now (fun _ => True) store :=
    TicketStore.Commits.refl sound
  cases run with
  | reading =>
    rw [step]
    split
    · exact unchanged
    · split_ifs <;> exact unchanged
  | looking desired =>
    rw [step]
    split <;> exact unchanged
  | creating desired created =>
    rw [step]
    split
    · exact unchanged
    · rename_i ticket added later returned
      have commits := TicketStore.createTicketWithTasks_commits platform sound returned
      have free : store.Commits context.now (fun _ => True) later :=
        commits.weaken fun _ _ _ => trivial
      split_ifs <;> exact free
  | escalating desired created ticket added =>
    rw [step]
    split
    · exact unchanged
    · rename_i returned
      have commits := TicketStore.setTicketPriority_commits platform sound returned
      exact commits.weaken fun _ _ _ => trivial
  | returned result => exact unchanged
  | raised fault => exact unchanged

end DTLab
