import DTLab.Tickets.Trail

/-!
# What each operation commits

Every operation that returns commits a trail of each ticket and keeps the keys of the tables. One
lemma covers the writes of one ticket and one the creation of a ticket; each operation is one of
them, or a sequence.
-/

namespace DTLab

open Library (Table.row? Table.update Table.Keyed)
open Library.Attempt (bind_eq_ok map_eq_ok foldlM_keeps)

variable {τ : Type}

namespace TicketStore

/-- A transaction at an instant commits a trail of each ticket, and keeps the keys; of the tickets
that were there it writes at most those it concerns. -/
def Commits (now : τ) (concerned : String → Prop) (store later : TicketStore τ) : Prop :=
  later.Sound ∧ ∃ added, Written now store later added ∧
    ∀ event ∈ added, (store.ticketOf event.ticketId).isSome → concerned event.ticketId

namespace Commits

variable {now : τ} {concerned : String → Prop} {store later last : TicketStore τ}

/-- The store behind a commit is sound. -/
theorem sound (commits : Commits now concerned store later) : later.Sound := commits.1

/-- A transaction that writes nothing commits. -/
theorem refl (sound : store.Sound) : Commits now concerned store store :=
  ⟨sound, [], Written.of_same rfl rfl, fun _ member => absurd member List.not_mem_nil⟩

/-- Two commits are one. -/
theorem trans (first : Commits now concerned store later)
    (second : Commits now concerned later last) : Commits now concerned store last := by
  obtain ⟨_, added, written, before⟩ := first
  obtain ⟨sound, more, rest, behind⟩ := second
  refine ⟨sound, added ++ more, written.trans rest, ?_⟩
  intro event member present
  rcases List.mem_append.mp member with inside | inside
  · exact before event inside present
  · apply behind event inside
    exact (written.isSome present)

/-- What is concerned may be described otherwise, for the tickets that were there. -/
theorem weaken {other : String → Prop} (commits : Commits now concerned store later)
    (implies : ∀ ticketId, (store.ticketOf ticketId).isSome → concerned ticketId →
      other ticketId) : Commits now other store later := by
  obtain ⟨sound, added, written, within⟩ := commits
  refine ⟨sound, added, written, ?_⟩
  intro event member present
  exact implies event.ticketId present (within event member present)

/-- A ticket that is not concerned stays as it was. -/
theorem unchanged (commits : Commits now concerned store later) {ticketId : String}
    {row : TicketRow τ} (found : store.ticketOf ticketId = some row)
    (apart : ¬ concerned ticketId) : later.ticketOf ticketId = some row := by
  obtain ⟨_, added, written, within⟩ := commits
  have none : (added.filter fun event => event.ticketId = ticketId) = [] := by
    rw [List.filter_eq_nil_iff]
    intro event member owned
    have same : event.ticketId = ticketId := of_decide_eq_true owned
    have present : (store.ticketOf event.ticketId).isSome := by
      rw [same, found]
      rfl
    exact apart (same ▸ within event member present)
  have trail := written.trail ticketId
  rw [none, found] at trail
  exact trail.of_nil

/-- A transaction that writes neither tickets nor tasks nor audit events. -/
theorem of_same (sound : store.Sound) (tickets : later.tickets = store.tickets)
    (tasks : later.tasks = store.tasks) (audit : later.auditEvents = store.auditEvents) :
    Commits now concerned store later := by
  have same : ∀ ticketId, later.ticketOf ticketId = store.ticketOf ticketId := by
    intro ticketId
    rw [ticketOf, ticketOf, tickets]
  refine ⟨⟨?_, ?_, ?_⟩, [], Written.of_same tickets audit,
    fun _ member => absurd member List.not_mem_nil⟩
  · rw [tickets]
    exact sound.ids
  · rw [tickets]
    exact sound.signalIds
  · intro task member
    rw [tasks] at member
    rw [same]
    exact sound.tasks task member

end Commits

/-! ## Writing one ticket -/

variable {now : τ} {store later : TicketStore τ} {ticketId : String} {row : TicketRow τ}
  {change : TicketRow τ → TicketRow τ} {events : List (AuditEvent τ)}

/-- The ticket of an id behind an update of it. -/
theorem ticketOf_updateTicket_self (found : store.ticketOf ticketId = some row)
    (keeps : ∀ row, (change row).id = row.id) :
    (store.updateTicket ticketId change).ticketOf ticketId = some (change row) := by
  have updated := Library.Table.row?_update_self keeps store.tickets ticketId
  rw [ticketOf, updateTicket, updated]
  exact congrArg (Option.map change) found

/-- The tickets of the other ids behind an update. -/
theorem ticketOf_updateTicket_ne (keeps : ∀ row, (change row).id = row.id) {other : String}
    (different : other ≠ ticketId) :
    (store.updateTicket ticketId change).ticketOf other = store.ticketOf other :=
  Library.Table.row?_update_ne keeps store.tickets different

/-- One ticket is written, and the events of the transaction are its trail. -/
theorem commits_update (change : TicketRow τ → TicketRow τ) (sound : store.Sound)
    (found : store.ticketOf ticketId = some row)
    (keepsId : ∀ row, (change row).id = row.id)
    (keepsSignal : ∀ row, (change row).signalId = row.signalId)
    (tickets : later.tickets = Table.update TicketRow.id ticketId change store.tickets)
    (tasks : ∀ task ∈ later.tasks, task.ticketId = ticketId ∨
      ∃ present ∈ store.tasks, present.ticketId = task.ticketId)
    (audit : later.auditEvents = store.auditEvents ++ events)
    (stamped : ∀ event ∈ events, event.ticketId = ticketId ∧ event.occurredAt = now)
    (trail : Trail (some row) events (some (change row))) :
    Commits now (· = ticketId) store later := by
  have self : later.ticketOf ticketId = some (change row) := by
    rw [ticketOf, tickets, Library.Table.row?_update_self keepsId]
    exact congrArg (Option.map change) found
  have others : ∀ other, other ≠ ticketId → later.ticketOf other = store.ticketOf other := by
    intro other different
    rw [ticketOf, tickets]
    exact Library.Table.row?_update_ne keepsId store.tickets different
  have kept : ∀ other, (store.ticketOf other).isSome → (later.ticketOf other).isSome := by
    intro other present
    by_cases same : other = ticketId
    · rw [same, self]
      rfl
    · rw [others other same]
      exact present
  refine ⟨⟨?_, ?_, ?_⟩, events, ⟨audit, fun event member => (stamped event member).2, ?_⟩,
    fun event member _ => (stamped event member).1⟩
  · rw [tickets]
    exact sound.ids.update change keepsId ticketId
  · rw [tickets]
    exact sound.signalIds.update change keepsSignal ticketId
  · intro task member
    rcases tasks task member with same | ⟨present, inside, same⟩
    · rw [same, self]
      rfl
    · rw [← same]
      exact kept present.ticketId (sound.tasks present inside)
  · intro other
    by_cases same : other = ticketId
    · subst same
      have all : (events.filter fun event => event.ticketId = other) = events := by
        rw [List.filter_eq_self]
        intro event member
        exact decide_eq_true (stamped event member).1
      rw [all, found, self]
      exact trail
    · have none : (events.filter fun event => event.ticketId = other) = [] := by
        rw [List.filter_eq_nil_iff]
        intro event member owned
        exact same ((of_decide_eq_true owned).symm.trans (stamped event member).1)
      rw [none, others other same]
      exact Trail.start

/-- One ticket is written with one event. -/
theorem commits_move (change : TicketRow τ → TicketRow τ) (actor : String)
    (action : AuditAction τ) (sound : store.Sound)
    (found : store.ticketOf ticketId = some row) (keepsId : ∀ row, (change row).id = row.id)
    (keepsSignal : ∀ row, (change row).signalId = row.signalId)
    (move : Move now row action (change row)) :
    Commits now (· = ticketId) store
      ((store.updateTicket ticketId change).audit ticketId actor now action) := by
  have tasks : ∀ task ∈ store.tasks, task.ticketId = ticketId ∨
      ∃ present ∈ store.tasks, present.ticketId = task.ticketId :=
    fun task member => Or.inr ⟨task, member, rfl⟩
  have stamped : ∀ event ∈ [AuditEvent.mk ticketId actor now action],
      event.ticketId = ticketId ∧ event.occurredAt = now := by
    intro event member
    rw [List.mem_singleton.mp member]
    exact ⟨rfl, rfl⟩
  exact commits_update change sound found keepsId keepsSignal rfl tasks rfl stamped
    (Trail.single move)

/-- A found ticket has the id it was found by. -/
theorem id_of_ticketOf (found : store.ticketOf ticketId = some row) : row.id = ticketId :=
  Library.Table.key_of_row? found

/-- A required ticket is the one found. -/
theorem requireTicket_eq_ok : store.requireTicket ticketId = .ok row ↔
    store.ticketOf ticketId = some row := by
  rw [requireTicket]
  cases store.ticketOf ticketId with
  | none => simp
  | some found => simp

/-! ## The operations that change a ticket -/

variable (platform : StorePlatform) {context : CallContext τ} {actor : String}

/-- A transition commits. -/
theorem transitionTicket_commits {toStatus : String} {note : Option String}
    {result : TicketRow τ × TicketStore τ} (sound : store.Sound)
    (returned : store.transitionTicket platform context ticketId toStatus actor note = .ok result) :
    Commits context.now (· = strip ticketId) store result.2 := by
  simp only [transitionTicket, bind_eq_ok] at returned
  obtain ⟨id, idChecked, target, _, actor', _, note', _, returned⟩ := returned
  obtain ⟨rfl, _⟩ := requiredText_eq_ok.mp idChecked
  split_ifs at returned with unjustified
  rw [bind_eq_ok] at returned
  obtain ⟨row, required, returned⟩ := returned
  by_cases allowed : target ∈ row.status.transitions
  · rw [if_neg (not_not.mpr allowed)] at returned
    obtain rfl := Except.ok.inj returned
    exact commits_move (fun row => row.transitioned context.now target) actor' _ sound
      (requireTicket_eq_ok.mp required) (fun _ => rfl) (fun _ => rfl) (.transitioned note' allowed)
  · rw [if_pos allowed] at returned
    cases returned

/-- An assignment commits. -/
theorem assignTicket_commits {owner : Option String} {result : TicketRow τ × TicketStore τ}
    (sound : store.Sound)
    (returned : store.assignTicket context ticketId owner actor = .ok result) :
    Commits context.now (fun id => id = strip ticketId ∧
      ∀ row ∈ store.ticketOf id, optionalText 256 owner ≠ .ok row.owner) store result.2 := by
  simp only [assignTicket, bind_eq_ok] at returned
  obtain ⟨owner', ownerChecked, id, idChecked, actor', _, row, required, returned⟩ := returned
  obtain ⟨rfl, _⟩ := requiredText_eq_ok.mp idChecked
  have found := requireTicket_eq_ok.mp required
  by_cases same : row.owner = owner'
  · rw [if_pos same] at returned
    obtain rfl := Except.ok.inj returned
    exact Commits.refl sound
  · rw [if_neg same] at returned
    obtain rfl := Except.ok.inj returned
    have moved := commits_move
      (fun row => (row.withOwner owner').touched context.now) actor' _ sound found
      (fun _ => rfl) (fun _ => rfl) (.assigned owner')
    apply moved.weaken
    rintro other _ rfl
    refine ⟨rfl, fun present member => ?_⟩
    rw [Option.mem_def, found, Option.some.injEq] at member
    rw [ownerChecked, ← member]
    exact fun equal => same (Except.ok.inj equal).symm

/-- The priority that is set is that of the ticket, which stays as it was, or another one. -/
theorem setTicketPriority_cases {priority : String} {result : TicketRow τ × TicketStore τ}
    (returned : store.setTicketPriority platform context ticketId priority actor = .ok result) :
    ∃ row next, store.ticketOf (strip ticketId) = some row ∧
      normalizePriority platform priority = .ok next ∧
      (row.priority = next ∧ result = (row, store) ∨ row.priority ≠ next ∧ ∃ actor' slaDueAt,
        result = ((row.withPriority next slaDueAt).touched context.now,
          (store.updateTicket (strip ticketId) fun row =>
            (row.withPriority next slaDueAt).touched context.now).audit (strip ticketId) actor'
              context.now (.priorityChanged row.priority next row.slaDueAt slaDueAt
                next.slaPolicyHours))) := by
  simp only [setTicketPriority, bind_eq_ok] at returned
  obtain ⟨next, checked, id, idChecked, actor', _, slaDueAt, _, row, required, returned⟩ :=
    returned
  obtain ⟨rfl, _⟩ := requiredText_eq_ok.mp idChecked
  refine ⟨row, next, requireTicket_eq_ok.mp required, checked, ?_⟩
  by_cases same : row.priority = next
  · rw [if_pos same] at returned
    exact Or.inl ⟨same, (Except.ok.inj returned).symm⟩
  · rw [if_neg same, bind_eq_ok] at returned
    obtain ⟨due, _, returned⟩ := returned
    exact Or.inr ⟨same, actor', due, (Except.ok.inj returned).symm⟩

/-- A priority that is set commits. -/
theorem setTicketPriority_commits {priority : String} {result : TicketRow τ × TicketStore τ}
    (sound : store.Sound)
    (returned : store.setTicketPriority platform context ticketId priority actor = .ok result) :
    Commits context.now (fun id => id = strip ticketId ∧
      ∀ row ∈ store.ticketOf id, normalizePriority platform priority ≠ .ok row.priority)
      store result.2 := by
  obtain ⟨row, next, found, checked, ⟨_, rfl⟩ | ⟨apart, actor', slaDueAt, rfl⟩⟩ :=
    setTicketPriority_cases platform returned
  · exact Commits.refl sound
  · have moved := commits_move (fun row => (row.withPriority next slaDueAt).touched context.now)
      actor' _ sound found (fun _ => rfl) (fun _ => rfl) (.prioritized next slaDueAt)
    apply moved.weaken
    rintro other _ rfl
    refine ⟨rfl, fun present member => ?_⟩
    rw [Option.mem_def, found, Option.some.injEq] at member
    rw [checked, ← member]
    exact fun equal => apart (Except.ok.inj equal).symm

/-- Two updates of one ticket are one update. -/
theorem updateTicket_updateTicket {other : TicketRow τ → TicketRow τ}
    (keeps : ∀ row, (change row).id = row.id) :
    (store.updateTicket ticketId change).updateTicket ticketId other =
      store.updateTicket ticketId (other ∘ change) := by
  rw [updateTicket, updateTicket, updateTicket, Library.Table.update_update keeps]

/-- Touching a ticket behind a change of it and an event. -/
theorem touch_audit (action : AuditAction τ) (keeps : ∀ row, (change row).id = row.id) :
    ((store.updateTicket ticketId change).audit ticketId actor now action).updateTicket ticketId
        (fun row => row.touched now) =
      (store.updateTicket ticketId fun row => (change row).touched now).audit
        ticketId actor now action := by
  calc
    _ = ((store.updateTicket ticketId change).updateTicket ticketId
          fun row => row.touched now).audit ticketId actor now action := rfl
    _ = _ := by
      rw [updateTicket_updateTicket keeps]
      rfl

/-- Touching a ticket behind two changes of it and their events touches it behind each. -/
theorem touch_audit_audit {second : TicketRow τ → TicketRow τ} (action later : AuditAction τ)
    (keeps : ∀ row, (change row).id = row.id) (keepsSecond : ∀ row, (second row).id = row.id)
    (forgets : ∀ row, (second (row.touched now)).touched now = (second row).touched now) :
    ((((store.updateTicket ticketId change).audit ticketId actor now action).updateTicket ticketId
        second).audit ticketId actor now later).updateTicket ticketId
        (fun row => row.touched now) =
      (((store.updateTicket ticketId fun row => (change row).touched now).audit
        ticketId actor now action).updateTicket ticketId fun row => (second row).touched now).audit
        ticketId actor now later := by
  calc
    _ = ((((store.updateTicket ticketId change).updateTicket ticketId second).updateTicket ticketId
          fun row => row.touched now).audit ticketId actor now action).audit
            ticketId actor now later := rfl
    _ = ((store.updateTicket ticketId
          ((fun row => row.touched now) ∘ second ∘ change)).audit ticketId actor now action).audit
            ticketId actor now later := by
      rw [updateTicket_updateTicket keeps, updateTicket_updateTicket]
      intro row
      exact (keepsSecond _).trans (keeps row)
    _ = (((store.updateTicket ticketId fun row => (change row).touched now).updateTicket ticketId
          fun row => (second row).touched now).audit ticketId actor now action).audit
            ticketId actor now later := by
      rw [updateTicket_updateTicket]
      · congr 3
        exact funext fun row => (forgets (change row)).symm
      · intro row
        exact keeps row
    _ = _ := rfl

/-- An update of the governance commits. -/
theorem updateTicketGovernance_commits {owner : Option String} {priority : String}
    {result : TicketRow τ × TicketStore τ} (sound : store.Sound)
    (returned : store.updateTicketGovernance platform context ticketId owner priority actor =
      .ok result) :
    Commits context.now (fun id => id = strip ticketId ∧ ∀ row ∈ store.ticketOf id,
      ¬ (optionalText 256 owner = .ok row.owner ∧
        normalizePriority platform priority = .ok row.priority)) store result.2 := by
  simp only [updateTicketGovernance, bind_eq_ok] at returned
  obtain ⟨id, idChecked, actor', _, owner', ownerChecked, priority', priorityChecked, slaDueAt, _,
    row, required, ⟨behind, changed⟩, governed, returned⟩ := returned
  obtain ⟨rfl, _⟩ := requiredText_eq_ok.mp idChecked
  have found := requireTicket_eq_ok.mp required
  have sameId := id_of_ticketOf found
  obtain rfl := Except.ok.inj returned
  -- A ticket whose owner or priority differs is concerned.
  have differs : row.owner ≠ owner' ∨ row.priority ≠ priority' → ∀ other,
      (store.ticketOf other).isSome → other = strip ticketId →
      other = strip ticketId ∧ ∀ present ∈ store.ticketOf other,
        ¬ (optionalText 256 owner = .ok present.owner ∧
          normalizePriority platform priority = .ok present.priority) := by
    rintro different other _ rfl
    refine ⟨rfl, fun present member => ?_⟩
    rw [Option.mem_def, found, Option.some.injEq] at member
    subst member
    rw [ownerChecked, priorityChecked]
    rintro ⟨ownerSame, prioritySame⟩
    rcases different with apart | apart
    · exact apart (Except.ok.inj ownerSame).symm
    · exact apart (Except.ok.inj prioritySame).symm
  rw [governPriority] at governed
  by_cases prioritySame : row.priority = priority'
  · rw [if_pos prioritySame] at governed
    simp only [Except.ok.injEq, Prod.mk.injEq] at governed
    obtain ⟨rfl, rfl⟩ := governed
    by_cases ownerSame : row.owner = owner'
    · simp only [governOwner, if_pos ownerSame]
      exact Commits.refl sound
    · simp only [governOwner, if_neg ownerSame, Bool.true_or, if_true, sameId]
      rw [touch_audit]
      · have moved := commits_move (fun row => (row.withOwner owner').touched context.now) actor'
          _ sound found (fun _ => rfl) (fun _ => rfl) (.assigned owner')
        exact moved.weaken (differs (Or.inl ownerSame))
      · exact fun _ => rfl
  · rw [if_neg prioritySame, bind_eq_ok] at governed
    obtain ⟨next, _, governed⟩ := governed
    simp only [Except.ok.injEq, Prod.mk.injEq] at governed
    obtain ⟨rfl, rfl⟩ := governed
    by_cases ownerSame : row.owner = owner'
    · simp only [governOwner, if_pos ownerSame, Bool.or_true, if_true, sameId]
      rw [touch_audit]
      · have moved := commits_move
          (fun row => (row.withPriority priority' next).touched context.now) actor' _ sound found
          (fun _ => rfl) (fun _ => rfl) (.prioritized priority' next)
        exact moved.weaken (differs (Or.inr prioritySame))
      · exact fun _ => rfl
    · simp only [governOwner, if_neg ownerSame, Bool.or_true, if_true, sameId]
      have first := commits_move (fun row => (row.withOwner owner').touched context.now) actor'
        _ sound found (fun _ => rfl) (fun _ => rfl) (.assigned owner')
      have assigned : (store.updateTicket (strip ticketId) fun row =>
          (row.withOwner owner').touched context.now).ticketOf (strip ticketId) =
            some ((row.withOwner owner').touched context.now) :=
        ticketOf_updateTicket_self found fun _ => rfl
      have second := commits_move (fun row => (row.withPriority priority' next).touched context.now)
        actor' _ first.sound assigned (fun _ => rfl) (fun _ => rfl) (.prioritized priority' next)
      rw [touch_audit_audit]
      · exact (first.trans second).weaken (differs (Or.inl ownerSame))
      · exact fun _ => rfl
      · exact fun _ => rfl
      · exact fun _ => rfl

/-! ## Deadlines -/

variable [DecidableEq τ]

/-- The loop over open tickets, each of which is still as it was selected. -/
theorem recalculateRounds_commits {slaDueAt : TicketPriority → τ → Except TicketError τ}
    {rows : List (TicketRow τ)} {state final : TicketStore τ × Nat}
    (sound : state.1.Sound) (distinct : Table.Keyed TicketRow.id rows)
    (here : ∀ row ∈ rows, state.1.ticketOf row.id = some row)
    (returned : rows.foldlM (recalculateRound context slaDueAt actor) state = .ok final) :
    Commits context.now (fun id => ∃ row ∈ rows, row.id = id ∧
      slaDueAt row.priority row.createdAt ≠ .ok row.slaDueAt) state.1 final.1 := by
  induction rows generalizing state with
  | nil =>
    obtain rfl := Except.ok.inj returned
    exact Commits.refl sound
  | cons row rows ih =>
    rw [List.foldlM_cons, bind_eq_ok] at returned
    obtain ⟨between, round, rest⟩ := returned
    rw [recalculateRound, bind_eq_ok] at round
    obtain ⟨next, computed, round⟩ := round
    obtain ⟨apart, distinctRest⟩ := List.nodup_cons.mp distinct
    by_cases same : next = row.slaDueAt
    · rw [if_pos same] at round
      obtain rfl := Except.ok.inj round
      have hereRest : ∀ other ∈ rows, state.1.ticketOf other.id = some other :=
        fun other member => here other (List.mem_cons_of_mem row member)
      apply (ih sound distinctRest hereRest rest).weaken
      rintro id _ ⟨other, member, described⟩
      exact ⟨other, List.mem_cons_of_mem row member, described⟩
    · rw [if_neg same] at round
      obtain rfl := Except.ok.inj round
      have moved := commits_move (fun row => row.recalculated context.now next) actor _ sound
        (here row List.mem_cons_self) (fun _ => rfl) (fun _ => rfl) (.recalculated next)
      have hereRest : ∀ other ∈ rows, ((state.1.updateTicket row.id fun row =>
          row.recalculated context.now next).audit row.id actor context.now
            (.slaCalendarRecalculated row.slaDueAt next row.priority.slaPolicyHours)).ticketOf
              other.id = some other := by
        intro other member
        have different : other.id ≠ row.id := by
          intro equal
          exact apart (equal ▸ List.mem_map_of_mem member)
        exact moved.unchanged (here other (List.mem_cons_of_mem row member)) different
      apply Commits.trans
      · apply moved.weaken
        rintro id _ rfl
        refine ⟨row, List.mem_cons_self, rfl, ?_⟩
        rw [computed]
        exact fun equal => same (Except.ok.inj equal)
      · apply (ih moved.sound distinctRest hereRest rest).weaken
        rintro id _ ⟨other, member, described⟩
        exact ⟨other, List.mem_cons_of_mem row member, described⟩

/-- A recalculation commits. -/
theorem recalculateOpenSlaDeadlines_commits {result : Nat × TicketStore τ} (sound : store.Sound)
    (returned : store.recalculateOpenSlaDeadlines context actor = .ok result) :
    Commits context.now (fun id => ∃ row, store.ticketOf id = some row ∧
      row.status ∉ TicketStatus.slaStopped ∧ ∀ slaDueAt, context.calendar = .ok slaDueAt →
        slaDueAt row.priority row.createdAt ≠ .ok row.slaDueAt) store result.2 := by
  simp only [recalculateOpenSlaDeadlines, bind_eq_ok] at returned
  obtain ⟨actor', _, slaDueAt, calendar, ⟨behind, changed⟩, rounds, returned⟩ := returned
  obtain rfl := Except.ok.inj returned
  have distinct : Table.Keyed TicketRow.id
      (store.tickets.filter fun row => row.status ∉ TicketStatus.slaStopped) :=
    sound.ids.sublist (List.filter_sublist.map TicketRow.id)
  have here : ∀ row ∈ store.tickets.filter fun row => row.status ∉ TicketStatus.slaStopped,
      store.ticketOf row.id = some row := by
    intro row member
    exact Library.Table.row?_of_mem sound.ids (List.mem_of_mem_filter member)
  apply (recalculateRounds_commits sound distinct here rounds).weaken
  rintro id _ ⟨row, member, rfl, differs⟩
  have isOpen := (List.mem_filter.mp member).2
  refine ⟨row, here row member, of_decide_eq_true isOpen, ?_⟩
  intro other same
  rw [calendar] at same
  obtain rfl := Except.ok.inj same
  exact differs

end TicketStore

end DTLab
