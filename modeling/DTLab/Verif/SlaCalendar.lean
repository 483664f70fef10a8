import DTLab.Library.Calendar
import DTLab.Tickets.BusinessHours
import DTLab.Verif.PolicyPriority

/-!
# Deadlines follow the calendar

A ticket is on time when its counter is stopped or its deadline is the one of the calendar. A
recalculation puts every ticket on time. Behind it, each call keeps the tickets on time exactly
when what it dates is dated by the calendar, and what it reopens has the deadline of the calendar.
-/

namespace DTLab

open Library (System.Keeps System.Keeps.cons Table.row? Table.update Table.Keyed)
open Library.Attempt (bind_eq_ok map_eq_ok)

variable {τ : Type}

/-! ## Tickets on time -/

/-- A ticket whose counter is stopped, or whose deadline is that of a calendar. -/
def TicketRow.OnTime (deadline : TicketPriority → τ → τ) (row : TicketRow τ) : Prop :=
  row.status ∉ TicketStatus.slaStopped → row.slaDueAt = deadline row.priority row.createdAt

/-- Every ticket is on time. -/
def TicketStore.OnTime (deadline : TicketPriority → τ → τ) (store : TicketStore τ) : Prop :=
  ∀ row ∈ store.tickets, row.OnTime deadline

variable {deadline dated : TicketPriority → τ → τ}

namespace TicketStore

variable {store later : TicketStore τ} {ticketId : String} {row : TicketRow τ}
  {change : TicketRow τ → TicketRow τ}

/-- The tickets are on time when those found by their ids are. -/
theorem onTime_iff (keyed : Table.Keyed TicketRow.id store.tickets) :
    store.OnTime deadline ↔
      ∀ id row, store.ticketOf id = some row → row.OnTime deadline := by
  constructor
  · intro onTime id row found
    exact onTime row (Library.Table.mem_of_row? found)
  · intro onTime row member
    exact onTime row.id row (Library.Table.row?_of_mem keyed member)

/-- A change of a ticket that dates nothing. -/
theorem onTime_updateTicket_same
    (same : ∀ row, (change row).OnTime deadline ↔ row.OnTime deadline) :
    (store.updateTicket ticketId change).OnTime deadline ↔ store.OnTime deadline := by
  rw [OnTime, OnTime, updateTicket, Table.update, List.forall_mem_map]
  apply forall₂_congr
  intro row _
  by_cases here : row.id = ticketId
  · rw [if_pos here]
    exact same row
  · rw [if_neg here]

/-- A change of one ticket keeps the tickets on time when the changed one is. -/
theorem onTime_updateTicket (keyed : Table.Keyed TicketRow.id store.tickets)
    (onTime : store.OnTime deadline) (found : store.ticketOf ticketId = some row) :
    (store.updateTicket ticketId change).OnTime deadline ↔ (change row).OnTime deadline := by
  have here : row.id = ticketId := id_of_ticketOf found
  have member : row ∈ store.tickets := Library.Table.mem_of_row? found
  constructor
  · intro behind
    apply behind
    exact Library.Table.mem_update.mpr (Or.inr ⟨row, member, here, rfl⟩)
  · intro changed other inside
    rcases Library.Table.mem_update.mp inside with ⟨present, _⟩ | ⟨before, present, same, rfl⟩
    · exact onTime other present
    · have equal : before = row := by
        have selected := Library.Table.row?_of_mem keyed present
        rw [same] at selected
        exact Option.some.inj (selected.symm.trans found)
      rw [equal]
      exact changed

/-- A ticket more is on time or it is not. -/
theorem onTime_append (onTime : store.OnTime deadline)
    (tickets : later.tickets = store.tickets ++ [row]) :
    later.OnTime deadline ↔ row.OnTime deadline := by
  rw [OnTime, tickets]
  constructor
  · intro behind
    exact behind row (List.mem_append_right _ List.mem_cons_self)
  · intro fresh other member
    rcases List.mem_append.mp member with inside | last
    · exact onTime other inside
    · rw [List.mem_singleton.mp last]
      exact fresh

/-- Touching a ticket dates nothing. -/
theorem touched_onTime_iff (ticketId : String) (now : τ) (tickets : later.tickets =
      Table.update TicketRow.id ticketId (fun row => row.touched now) store.tickets) :
    later.OnTime deadline ↔ store.OnTime deadline := by
  have touched : (store.updateTicket ticketId fun row => row.touched now).OnTime deadline ↔
      store.OnTime deadline := onTime_updateTicket_same fun _ => Iff.rfl
  rw [← touched, OnTime, tickets]
  exact Iff.rfl

/-- The tickets of two stores are the same. -/
theorem onTime_congr (tickets : later.tickets = store.tickets) :
    later.OnTime deadline ↔ store.OnTime deadline := by
  rw [OnTime, OnTime, tickets]

end TicketStore

/-! ## Recalculations -/

section Recalculation

variable [DecidableEq τ] {context : CallContext τ} {store : TicketStore τ} {actor : String}

/-- What a recalculation makes of an open ticket. -/
def TicketRow.redated (row : TicketRow τ) (dated : TicketPriority → τ → τ) (now : τ) :
    TicketRow τ :=
  if dated row.priority row.createdAt = row.slaDueAt then row
  else row.recalculated now (dated row.priority row.createdAt)

/-- A recalculated ticket has its deadline. -/
theorem TicketRow.redated_slaDueAt (row : TicketRow τ) (dated : TicketPriority → τ → τ) (now : τ) :
    (row.redated dated now).slaDueAt = dated row.priority row.createdAt := by
  rw [redated]
  split_ifs with same
  · exact same.symm
  · rfl

/-- A recalculation touches neither status, priority nor creation. -/
theorem TicketRow.redated_onTime_iff (row : TicketRow τ) (now : τ)
    (isOpen : row.status ∉ TicketStatus.slaStopped) :
    (row.redated dated now).OnTime deadline ↔
      dated row.priority row.createdAt = deadline row.priority row.createdAt := by
  have status : (row.redated dated now).status = row.status := by
    rw [redated]
    split_ifs <;> rfl
  have priority : (row.redated dated now).priority = row.priority := by
    rw [redated]
    split_ifs <;> rfl
  have createdAt : (row.redated dated now).createdAt = row.createdAt := by
    rw [redated]
    split_ifs <;> rfl
  rw [OnTime, status, priority, createdAt, redated_slaDueAt]
  exact ⟨fun onTime => onTime isOpen, fun same _ => same⟩

/-- The loop over open tickets, each of which is still as it was selected. -/
theorem recalculateRounds_ticketOf {rows : List (TicketRow τ)} {state final : TicketStore τ × Nat}
    (distinct : Table.Keyed TicketRow.id rows)
    (here : ∀ row ∈ rows, state.1.ticketOf row.id = some row)
    (returned : rows.foldlM (TicketStore.recalculateRound context
      (fun priority createdAt => .ok (dated priority createdAt)) actor) state = .ok final) :
    (∀ row ∈ rows, final.1.ticketOf row.id = some (row.redated dated context.now)) ∧
      ∀ id, id ∉ rows.map TicketRow.id → final.1.ticketOf id = state.1.ticketOf id := by
  induction rows generalizing state with
  | nil =>
    obtain rfl := Except.ok.inj returned
    exact ⟨fun _ member => absurd member List.not_mem_nil, fun _ _ => rfl⟩
  | cons row rows ih =>
    rw [List.foldlM_cons, bind_eq_ok] at returned
    obtain ⟨between, round, rest⟩ := returned
    obtain ⟨apart, distinctRest⟩ := List.nodup_cons.mp distinct
    -- behind the round the ticket is dated, and every other one is as it was
    have dates : between.1.ticketOf row.id = some (row.redated dated context.now) ∧
        ∀ id, id ≠ row.id → between.1.ticketOf id = state.1.ticketOf id := by
      rw [TicketStore.recalculateRound, bind_eq_ok] at round
      obtain ⟨next, computed, round⟩ := round
      obtain rfl := Except.ok.inj computed
      rw [TicketRow.redated]
      split_ifs at round ⊢ with same
      · obtain rfl := Except.ok.inj round
        exact ⟨here row List.mem_cons_self, fun _ _ => rfl⟩
      · obtain rfl := Except.ok.inj round
        constructor
        · exact TicketStore.ticketOf_updateTicket_self (here row List.mem_cons_self) fun _ => rfl
        · intro id different
          apply TicketStore.ticketOf_updateTicket_ne _ different
          exact fun _ => rfl
    have hereRest : ∀ other ∈ rows, between.1.ticketOf other.id = some other := by
      intro other member
      have different : other.id ≠ row.id := fun same => apart (same ▸ List.mem_map_of_mem member)
      rw [dates.2 other.id different]
      exact here other (List.mem_cons_of_mem row member)
    obtain ⟨inside, outside⟩ := ih distinctRest hereRest rest
    constructor
    · intro other member
      rcases List.mem_cons.mp member with rfl | later
      · rw [outside other.id apart]
        exact dates.1
      · exact inside other later
    · intro id absent
      rw [List.map_cons, List.mem_cons, not_or] at absent
      rw [outside id absent.2]
      exact dates.2 id absent.1

/-- A recalculation puts the tickets on time when its deadlines for the open ones are those of the
calendar. -/
theorem recalculate_onTime_iff {result : Nat × TicketStore τ} (sound : store.Sound)
    (calendar : context.calendar = .ok fun priority createdAt => .ok (dated priority createdAt))
    (returned : store.recalculateOpenSlaDeadlines context actor = .ok result) :
    result.2.OnTime deadline ↔ ∀ row ∈ store.tickets, row.status ∉ TicketStatus.slaStopped →
      dated row.priority row.createdAt = deadline row.priority row.createdAt := by
  have commits := TicketStore.recalculateOpenSlaDeadlines_commits sound returned
  simp only [TicketStore.recalculateOpenSlaDeadlines, calendar, bind_eq_ok] at returned
  obtain ⟨actor', _, slaDueAt, same, ⟨behind, changed⟩, rounds, returned⟩ := returned
  obtain rfl := Except.ok.inj same
  obtain rfl := Except.ok.inj returned
  have distinct : Table.Keyed TicketRow.id
      (store.tickets.filter fun row => row.status ∉ TicketStatus.slaStopped) :=
    sound.ids.sublist (List.filter_sublist.map TicketRow.id)
  have here : ∀ row ∈ store.tickets.filter fun row => row.status ∉ TicketStatus.slaStopped,
      store.ticketOf row.id = some row := by
    intro row member
    exact Library.Table.row?_of_mem sound.ids (List.mem_of_mem_filter member)
  obtain ⟨inside, outside⟩ := recalculateRounds_ticketOf distinct here rounds
  rw [TicketStore.onTime_iff commits.sound.ids]
  constructor
  · intro onTime row member isOpen
    have selected : row ∈ store.tickets.filter fun row => row.status ∉ TicketStatus.slaStopped :=
      List.mem_filter.mpr ⟨member, decide_eq_true isOpen⟩
    have behindRow := onTime row.id _ (inside row selected)
    exact (row.redated_onTime_iff context.now isOpen).mp behindRow
  · intro same id row found
    by_cases selected : id ∈ (store.tickets.filter fun row =>
        row.status ∉ TicketStatus.slaStopped).map TicketRow.id
    · obtain ⟨before, member, rfl⟩ := List.mem_map.mp selected
      rw [inside before member] at found
      obtain rfl := Option.some.inj found
      have isOpen := of_decide_eq_true (List.mem_filter.mp member).2
      apply (before.redated_onTime_iff context.now isOpen).mpr
      exact same before (List.mem_of_mem_filter member) isOpen
    · rw [outside id selected] at found
      intro isOpen
      have member : row ∈ store.tickets := Library.Table.mem_of_row? found
      apply absurd _ selected
      rw [← TicketStore.id_of_ticketOf found]
      exact List.mem_map_of_mem (List.mem_filter.mpr ⟨member, decide_eq_true isOpen⟩)

/-- The loop changes nothing where every deadline is the one that it computes. -/
theorem recalculateRounds_idle (context : CallContext τ) (actor : String)
    {rows : List (TicketRow τ)} (state : TicketStore τ × Nat)
    (same : ∀ row ∈ rows, dated row.priority row.createdAt = row.slaDueAt) :
    rows.foldlM (TicketStore.recalculateRound context
      (fun priority createdAt => .ok (dated priority createdAt)) actor) state = .ok state := by
  induction rows with
  | nil => rfl
  | cons row rows ih =>
    have rest := ih fun other member => same other (List.mem_cons_of_mem row member)
    rw [List.foldlM_cons, TicketStore.recalculateRound]
    simp only [bind, Except.bind, if_pos (same row List.mem_cons_self)]
    exact rest

/-- A recalculation changes no store whose tickets are on time. -/
theorem recalculate_idle (platform : StorePlatform) (onTime : store.OnTime deadline)
    (calendar : context.calendar =
      .ok fun priority createdAt => .ok (deadline priority createdAt)) :
    (StoreCall.recalculateOpenSlaDeadlines actor).apply platform context store = store := by
  rcases StoreCall.apply_cases platform context store
    (.recalculateOpenSlaDeadlines actor) with same | committed
  · exact same
  · obtain ⟨result, returned, same⟩ := map_eq_ok.mp committed
    rw [← same]
    simp only [TicketStore.recalculateOpenSlaDeadlines, calendar, bind_eq_ok] at returned
    obtain ⟨actor', _, slaDueAt, isCalendar, final, rounds, returned⟩ := returned
    obtain rfl := Except.ok.inj isCalendar
    have same : ∀ row ∈ store.tickets.filter fun row => row.status ∉ TicketStatus.slaStopped,
        deadline row.priority row.createdAt = row.slaDueAt := by
      intro row member
      obtain ⟨inside, isOpen⟩ := List.mem_filter.mp member
      exact (onTime row inside (of_decide_eq_true isOpen)).symm
    rw [recalculateRounds_idle context actor' (store, 0) same] at rounds
    obtain rfl := Except.ok.inj rounds
    obtain rfl := Except.ok.inj returned
    rfl

end Recalculation

/-! ## What a call must date -/

section Calls

variable [DecidableEq τ] {platform : StorePlatform} {context : CallContext τ}
  {store later : TicketStore τ}

/-- A new ticket would get the deadline of the calendar. -/
def TicketStore.TimelyRequest (platform : StorePlatform) (deadline dated : TicketPriority → τ → τ)
    (now : τ) (store : TicketStore τ) (request : TicketRequest) : Prop :=
  store.ticketOfSignal (strip request.signalId) = none → ∀ priority,
    normalizePriority platform request.priority = .ok priority →
      dated priority now = deadline priority now

/-- A new priority of an open ticket would give it the deadline of the calendar. -/
def TicketStore.TimelyPriority (platform : StorePlatform) (deadline dated : TicketPriority → τ → τ)
    (store : TicketStore τ) (ticketId priority : String) : Prop :=
  ∀ row, store.ticketOf (strip ticketId) = some row → row.status ∉ TicketStatus.slaStopped →
    ∀ next, normalizePriority platform priority = .ok next → row.priority ≠ next →
      dated next row.createdAt = deadline next row.createdAt

/-- A call dates nothing otherwise than the calendar, and reopens no ticket whose deadline is
another one. -/
def StoreCall.Timely (platform : StorePlatform) (deadline dated : TicketPriority → τ → τ) (now : τ)
    (store : TicketStore τ) : StoreCall → Prop
  | .createTicketFromSignal request => store.TimelyRequest platform deadline dated now request
  | .createTicketWithTasks request _ => store.TimelyRequest platform deadline dated now request
  | .transitionTicket id _ _ _ => ∀ row, store.ticketOf (strip id) = some row →
    row.status ∈ TicketStatus.slaStopped → row.slaDueAt = deadline row.priority row.createdAt
  | .setTicketPriority id priority _ => store.TimelyPriority platform deadline dated id priority
  | .updateTicketGovernance id _ priority _ =>
    store.TimelyPriority platform deadline dated id priority
  | .recalculateOpenSlaDeadlines _ => ∀ row ∈ store.tickets,
    row.status ∉ TicketStatus.slaStopped →
      dated row.priority row.createdAt = deadline row.priority row.createdAt
  | _ => True

omit [DecidableEq τ] in
/-- A ticket with a new priority, dated by a call. -/
theorem TicketRow.withPriority_onTime_iff (row : TicketRow τ) (priority : TicketPriority)
    (now : τ) :
    ((row.withPriority priority (dated priority row.createdAt)).touched now).OnTime deadline ↔
      (row.status ∉ TicketStatus.slaStopped →
        dated priority row.createdAt = deadline priority row.createdAt) := Iff.rfl

/-- A stopped ticket is reopened by every transition. -/
theorem TicketStatus.not_stopped_of_transitions {status target : TicketStatus}
    (stopped : status ∈ slaStopped) (allowed : target ∈ status.transitions) :
    target ∉ slaStopped := by
  revert target
  cases status <;> simp [slaStopped, transitions] at stopped ⊢

omit [DecidableEq τ] in
/-- A transition keeps a ticket on time when the deadline of a stopped one is that of the
calendar. -/
theorem TicketRow.transitioned_onTime_iff {row : TicketRow τ} {target : TicketStatus} (now : τ)
    (onTime : row.OnTime deadline) (allowed : target ∈ row.status.transitions) :
    (row.transitioned now target).OnTime deadline ↔
      (row.status ∈ TicketStatus.slaStopped →
        row.slaDueAt = deadline row.priority row.createdAt) := by
  constructor
  · intro behind stopped
    exact behind (TicketStatus.not_stopped_of_transitions stopped allowed)
  · intro dates _
    by_cases stopped : row.status ∈ TicketStatus.slaStopped
    · exact dates stopped
    · exact onTime stopped

namespace TicketStore

variable {ticketId actor : String} (onTime : store.OnTime deadline)
include onTime

omit [DecidableEq τ] in
/-- A transition keeps the tickets on time exactly when the ticket is, where its clock was stopped.
-/
theorem transitionTicket_onTime_iff {toStatus : String} {note : Option String}
    {result : TicketRow τ × TicketStore τ} (sound : store.Sound)
    (returned : store.transitionTicket platform context ticketId toStatus actor note =
      .ok result) :
    result.2.OnTime deadline ↔ ∀ row, store.ticketOf (strip ticketId) = some row →
      row.status ∈ TicketStatus.slaStopped →
        row.slaDueAt = deadline row.priority row.createdAt := by
  simp only [transitionTicket, bind_eq_ok] at returned
  obtain ⟨id, idChecked, target, _, actor', _, note', _, returned⟩ := returned
  obtain ⟨rfl, _⟩ := requiredText_eq_ok.mp idChecked
  split_ifs at returned with unjustified
  rw [bind_eq_ok] at returned
  obtain ⟨row, required, returned⟩ := returned
  have found := requireTicket_eq_ok.mp required
  by_cases allowed : target ∈ row.status.transitions
  · rw [if_neg (not_not.mpr allowed)] at returned
    obtain rfl := Except.ok.inj returned
    have present := onTime row (Library.Table.mem_of_row? found)
    have updated : (store.updateTicket (strip ticketId) fun row =>
        row.transitioned context.now target).OnTime deadline ↔
          (row.transitioned context.now target).OnTime deadline :=
      onTime_updateTicket sound.ids onTime found
    have moved := row.transitioned_onTime_iff context.now present allowed
    rw [found]
    simp only [Option.some.injEq, forall_eq']
    exact updated.trans moved
  · rw [if_pos allowed] at returned
    cases returned

omit [DecidableEq τ] in
/-- A priority that is set keeps the tickets on time exactly when it is dated as they are. -/
theorem setTicketPriority_onTime_iff {priority : String}
    {result : TicketRow τ × TicketStore τ} (sound : store.Sound)
    (calendar : context.calendar = .ok fun priority createdAt => .ok (dated priority createdAt))
    (returned : store.setTicketPriority platform context ticketId priority actor = .ok result) :
    result.2.OnTime deadline ↔ store.TimelyPriority platform deadline dated ticketId priority := by
  simp only [setTicketPriority, calendar, bind_eq_ok] at returned
  obtain ⟨next, checked, id, idChecked, actor', _, slaDueAt, isCalendar, row, required, returned⟩ :=
    returned
  obtain rfl := Except.ok.inj isCalendar
  obtain ⟨rfl, _⟩ := requiredText_eq_ok.mp idChecked
  have found := requireTicket_eq_ok.mp required
  simp only [TimelyPriority, found, checked, Option.some.injEq, Except.ok.injEq, forall_eq']
  by_cases same : row.priority = next
  · rw [if_pos same] at returned
    obtain rfl := Except.ok.inj returned
    exact iff_of_true onTime fun _ different => absurd same different
  · rw [if_neg same, bind_eq_ok] at returned
    obtain ⟨due, computed, returned⟩ := returned
    obtain rfl := Except.ok.inj computed
    obtain rfl := Except.ok.inj returned
    have updated : (store.updateTicket (strip ticketId) fun other =>
        (other.withPriority next (dated next row.createdAt)).touched context.now).OnTime deadline ↔
          ((row.withPriority next (dated next row.createdAt)).touched context.now).OnTime
            deadline := onTime_updateTicket sound.ids onTime found
    apply updated.trans
    rw [row.withPriority_onTime_iff]
    exact ⟨fun dates isOpen _ => dates isOpen, fun dates isOpen => dates isOpen same⟩

omit [DecidableEq τ] onTime in
/-- Touching a ticket where it was changed dates nothing. -/
theorem onTime_touch_iff (changed : Bool) :
    (if changed then store.updateTicket ticketId fun row => row.touched context.now
      else store).OnTime deadline ↔ store.OnTime deadline := by
  cases changed with
  | false => exact Iff.rfl
  | true => exact onTime_updateTicket_same fun _ => Iff.rfl

omit [DecidableEq τ] in
/-- So does an update of the governance. -/
theorem updateTicketGovernance_onTime_iff {owner : Option String} {priority : String}
    {result : TicketRow τ × TicketStore τ} (sound : store.Sound)
    (calendar : context.calendar = .ok fun priority createdAt => .ok (dated priority createdAt))
    (returned : store.updateTicketGovernance platform context ticketId owner priority actor =
      .ok result) :
    result.2.OnTime deadline ↔ store.TimelyPriority platform deadline dated ticketId priority := by
  simp only [updateTicketGovernance, calendar, bind_eq_ok] at returned
  obtain ⟨id, idChecked, actor', _, owner', _, next, checked, slaDueAt, isCalendar, row, required,
    ⟨behind, changed⟩, governed, returned⟩ := returned
  obtain rfl := Except.ok.inj isCalendar
  obtain ⟨rfl, _⟩ := requiredText_eq_ok.mp idChecked
  have found := requireTicket_eq_ok.mp required
  have sameId := id_of_ticketOf found
  obtain rfl := Except.ok.inj returned
  -- behind the owner part the tickets are on time, and the ticket has its status and creation
  have owned : (store.governOwner context row owner' actor').1.OnTime deadline ∧
      Table.Keyed TicketRow.id (store.governOwner context row owner' actor').1.tickets ∧
      ∃ present, (store.governOwner context row owner' actor').1.ticketOf row.id = some present ∧
        present.status = row.status ∧ present.createdAt = row.createdAt := by
    rw [governOwner]
    split_ifs with same
    · refine ⟨onTime, sound.ids, row, ?_, rfl, rfl⟩
      rw [sameId]
      exact found
    · have kept : ∀ other : TicketRow τ, (other.withOwner owner').id = other.id := fun _ => rfl
      have same : (store.updateTicket row.id fun row => row.withOwner owner').OnTime deadline ↔
          store.OnTime deadline := onTime_updateTicket_same fun _ => Iff.rfl
      refine ⟨same.mpr onTime,
        sound.ids.update (fun row => row.withOwner owner') kept row.id, row.withOwner owner', ?_,
        rfl, rfl⟩
      rw [sameId]
      exact ticketOf_updateTicket_self found kept
  obtain ⟨onTimeOwned, keyedOwned, present, foundOwned, status, createdAt⟩ := owned
  simp only [TimelyPriority, found, checked, Option.some.injEq, Except.ok.injEq, forall_eq']
  apply (onTime_touch_iff _).trans
  rw [governPriority] at governed
  by_cases same : row.priority = next
  · rw [if_pos same] at governed
    obtain ⟨rfl, rfl⟩ := Prod.mk.inj (Except.ok.inj governed)
    exact iff_of_true onTimeOwned fun _ different => absurd same different
  · rw [if_neg same, bind_eq_ok] at governed
    obtain ⟨due, computed, governed⟩ := governed
    obtain rfl := Except.ok.inj computed
    obtain ⟨rfl, rfl⟩ := Prod.mk.inj (Except.ok.inj governed)
    have updated : ((store.governOwner context row owner' actor').1.updateTicket row.id fun other =>
        other.withPriority next (dated next row.createdAt)).OnTime deadline ↔
          (present.withPriority next (dated next row.createdAt)).OnTime deadline :=
      onTime_updateTicket keyedOwned onTimeOwned foundOwned
    apply updated.trans
    have dates : (present.withPriority next (dated next row.createdAt)).OnTime deadline ↔
        (present.status ∉ TicketStatus.slaStopped →
          dated next row.createdAt = deadline next present.createdAt) := Iff.rfl
    rw [dates, status, createdAt]
    exact ⟨fun dates isOpen _ => dates isOpen, fun dates isOpen => dates isOpen same⟩

omit [DecidableEq τ] in
/-- A ticket that is created is on time when its deadline is that of the calendar. -/
theorem findOrCreateTicket_onTime_iff {request : TicketRequest} {checked : CheckedRequest τ}
    {signal : SignalRow τ} {result : TicketRow τ × TicketStore τ}
    (returned : store.findOrCreateTicket context request checked signal = .ok result) :
    result.2.OnTime deadline ↔ (store.ticketOfSignal checked.signalId = none →
      checked.slaDueAt = deadline checked.priority context.now) := by
  rw [findOrCreateTicket] at returned
  cases found : store.ticketOfSignal checked.signalId with
  | some row =>
    rw [found] at returned
    obtain rfl := Except.ok.inj returned
    exact iff_of_true onTime fun absent => absurd absent (Option.some_ne_none row)
  | none =>
    rw [found] at returned
    simp only [createTicket, bind_eq_ok] at returned
    obtain ⟨title, _, description, _, between, inserted, returned⟩ := returned
    obtain ⟨_, rfl⟩ := insertTicket_eq_ok.mp inserted
    obtain rfl := Except.ok.inj returned
    apply (onTime_append onTime rfl).trans
    constructor
    · intro behind _
      exact behind (show TicketStatus.new ∉ TicketStatus.slaStopped by decide)
    · intro dates _
      exact dates rfl

omit [DecidableEq τ] onTime in
/-- Adding tasks dates nothing. -/
theorem addMissingTasks_onTime_iff {owner : Option String} {definitions : List TaskDefinition}
    {result : Nat × TicketStore τ}
    (returned : store.addMissingTasks context ticketId actor owner definitions = .ok result) :
    result.2.OnTime deadline ↔ store.OnTime deadline := by
  obtain ⟨loop, filled, ⟨_, rfl⟩ | ⟨_, rfl⟩⟩ := addMissingTasks_cases returned
  · exact Iff.rfl
  · have touched : (loop.store.updateTicket ticketId fun row => row.touched context.now).OnTime
        deadline ↔ loop.store.OnTime deadline := onTime_updateTicket_same fun _ => Iff.rfl
    exact touched.trans (onTime_congr filled.tickets)

omit [DecidableEq τ] onTime in
/-- The deadline of a checked request is dated at the instant of the call. -/
theorem checkRequest_slaDueAt {request : TicketRequest} {tasks : List TaskDefinition}
    {checked : CheckedRequest τ × List TaskDefinition}
    (calendar : context.calendar = .ok fun priority createdAt => .ok (dated priority createdAt))
    (returned : checkRequest platform context request tasks = .ok checked) :
    checked.1.slaDueAt = dated checked.1.priority context.now := by
  simp only [checkRequest, calendar, bind_eq_ok] at returned
  obtain ⟨signalId, _, actor', _, priority, _, owner', _, definitions, _, slaDueAt, isCalendar, due,
    computed, returned⟩ := returned
  obtain rfl := Except.ok.inj isCalendar
  obtain rfl := Except.ok.inj computed
  obtain rfl := Except.ok.inj returned
  rfl

omit [DecidableEq τ] onTime in
/-- What a checked request would date is what the request would. -/
theorem timelyRequest_iff {request : TicketRequest} {tasks : List TaskDefinition}
    {checked : CheckedRequest τ × List TaskDefinition}
    (calendar : context.calendar = .ok fun priority createdAt => .ok (dated priority createdAt))
    (returned : checkRequest platform context request tasks = .ok checked) :
    store.TimelyRequest platform deadline dated context.now request ↔
      (store.ticketOfSignal checked.1.signalId = none →
        checked.1.slaDueAt = deadline checked.1.priority context.now) := by
  obtain ⟨signalId, _, priority⟩ := checkRequest_eq_ok platform returned
  rw [TimelyRequest, checkRequest_slaDueAt calendar returned, signalId, priority]
  simp only [Except.ok.injEq, forall_eq']

omit [DecidableEq τ] in
/-- A creation keeps the tickets on time exactly when it is dated as they are. -/
theorem createTicketFromSignal_onTime_iff {request : TicketRequest}
    {result : TicketRow τ × TicketStore τ}
    (calendar : context.calendar = .ok fun priority createdAt => .ok (dated priority createdAt))
    (returned : store.createTicketFromSignal platform context request = .ok result) :
    result.2.OnTime deadline ↔
      store.TimelyRequest platform deadline dated context.now request := by
  simp only [createTicketFromSignal, bind_eq_ok] at returned
  obtain ⟨⟨checked, definitions⟩, checks, signal, _, returned⟩ := returned
  exact (findOrCreateTicket_onTime_iff onTime returned).trans
    (timelyRequest_iff calendar checks).symm

omit [DecidableEq τ] in
/-- So does a creation with tasks. -/
theorem createTicketWithTasks_onTime_iff {request : TicketRequest} {tasks : List TaskDefinition}
    {result : (TicketRow τ × Nat) × TicketStore τ}
    (calendar : context.calendar = .ok fun priority createdAt => .ok (dated priority createdAt))
    (returned : store.createTicketWithTasks platform context request tasks = .ok result) :
    result.2.OnTime deadline ↔
      store.TimelyRequest platform deadline dated context.now request := by
  simp only [createTicketWithTasks, bind_eq_ok] at returned
  obtain ⟨⟨checked, definitions⟩, checks, signal, _, ⟨row, between⟩, created, ⟨added, behind⟩,
    filled,
    returned⟩ := returned
  obtain rfl := Except.ok.inj returned
  calc
    behind.OnTime deadline ↔ between.OnTime deadline := addMissingTasks_onTime_iff filled
    _ ↔ _ := findOrCreateTicket_onTime_iff onTime created
    _ ↔ _ := (timelyRequest_iff calendar checks).symm

end TicketStore

/-- A call that returns keeps the tickets on time exactly when what it dates is dated by the
calendar. -/
theorem StoreCall.commit_onTime_iff (call : StoreCall) (sound : store.Sound)
    (onTime : store.OnTime deadline)
    (calendar : context.calendar = .ok fun priority createdAt => .ok (dated priority createdAt))
    (returned : call.commit platform context store = .ok later) :
    later.OnTime deadline ↔ call.Timely platform deadline dated context.now store := by
  cases call with
  | ingestSignals batch =>
    obtain ⟨result, ingested, rfl⟩ := map_eq_ok.mp returned
    refine iff_of_true ?_ trivial
    rw [TicketStore.ingestSignals] at ingested
    split_ifs at ingested
    · obtain rfl := Except.ok.inj ingested
      exact onTime
    · have only := TicketStore.upsertBatch_signalsOnly ingested
      exact (TicketStore.onTime_congr only.tickets).mpr onTime
  | ingestSnapshotSignals batch snapshotSha256 snapshotId generatedAt =>
    obtain ⟨result, ingested, rfl⟩ := map_eq_ok.mp returned
    refine iff_of_true ?_ trivial
    obtain ⟨digest, _, _, ⟨_, same⟩ | ⟨_, stats, later, batched, same⟩⟩ :=
      TicketStore.ingestSnapshotSignals_cases ingested
    · rw [same]
      exact onTime
    · have only := TicketStore.upsertBatch_signalsOnly batched
      rw [same]
      exact (TicketStore.onTime_congr only.tickets).mpr onTime
  | createTicketFromSignal request =>
    obtain ⟨result, created, rfl⟩ := map_eq_ok.mp returned
    exact TicketStore.createTicketFromSignal_onTime_iff onTime calendar created
  | createTicketWithTasks request tasks =>
    obtain ⟨result, created, rfl⟩ := map_eq_ok.mp returned
    exact TicketStore.createTicketWithTasks_onTime_iff onTime calendar created
  | transitionTicket ticketId toStatus actor note =>
    obtain ⟨result, moved, rfl⟩ := map_eq_ok.mp returned
    exact TicketStore.transitionTicket_onTime_iff onTime sound moved
  | assignTicket ticketId owner actor =>
    obtain ⟨result, moved, rfl⟩ := map_eq_ok.mp returned
    refine iff_of_true ?_ trivial
    simp only [TicketStore.assignTicket, bind_eq_ok] at moved
    obtain ⟨owner', _, id, _, actor', _, row, _, moved⟩ := moved
    split_ifs at moved with same
    · obtain rfl := Except.ok.inj moved
      exact onTime
    · obtain rfl := Except.ok.inj moved
      have unchanged : (store.updateTicket id fun row =>
          (row.withOwner owner').touched context.now).OnTime deadline ↔ store.OnTime deadline :=
        TicketStore.onTime_updateTicket_same fun _ => Iff.rfl
      exact unchanged.mpr onTime
  | setTicketPriority ticketId priority actor =>
    obtain ⟨result, moved, rfl⟩ := map_eq_ok.mp returned
    exact TicketStore.setTicketPriority_onTime_iff onTime sound calendar moved
  | recalculateOpenSlaDeadlines actor =>
    obtain ⟨result, moved, rfl⟩ := map_eq_ok.mp returned
    exact recalculate_onTime_iff sound calendar moved
  | updateTicketGovernance ticketId owner priority actor =>
    obtain ⟨result, moved, rfl⟩ := map_eq_ok.mp returned
    exact TicketStore.updateTicketGovernance_onTime_iff onTime sound calendar moved
  | addComment ticketId author body =>
    obtain ⟨result, added, rfl⟩ := map_eq_ok.mp returned
    refine iff_of_true ?_ trivial
    simp only [TicketStore.addComment, bind_eq_ok] at added
    obtain ⟨id, _, author', _, body', _, row, _, between, inserted, added⟩ := added
    obtain ⟨_, rfl⟩ := TicketStore.insertComment_eq_ok.mp inserted
    obtain rfl := Except.ok.inj added
    exact (TicketStore.touched_onTime_iff id context.now rfl).mpr onTime
  | addTask ticketId actor title description owner dueAt =>
    obtain ⟨result, added, rfl⟩ := map_eq_ok.mp returned
    refine iff_of_true ?_ trivial
    simp only [TicketStore.addTask, bind_eq_ok] at added
    obtain ⟨id, _, actor', _, title', _, description', _, owner', _, dueAt', _, row, _, between,
      inserted, added⟩ := added
    obtain ⟨_, rfl⟩ := TicketStore.insertTask_eq_ok.mp inserted
    obtain rfl := Except.ok.inj added
    exact (TicketStore.touched_onTime_iff id context.now rfl).mpr onTime
  | ensureTasks ticketId actor tasks owner =>
    obtain ⟨result, added, rfl⟩ := map_eq_ok.mp returned
    refine iff_of_true ?_ trivial
    simp only [TicketStore.ensureTasks, bind_eq_ok] at added
    obtain ⟨id, _, actor', _, owner', _, definitions, _, row, _, added⟩ := added
    exact (TicketStore.addMissingTasks_onTime_iff added).mpr onTime
  | updateTaskStatus taskId status actor =>
    obtain ⟨result, updated, rfl⟩ := map_eq_ok.mp returned
    refine iff_of_true ?_ trivial
    simp only [TicketStore.updateTaskStatus, bind_eq_ok] at updated
    obtain ⟨id, _, status', _, actor', _, updated⟩ := updated
    cases found : store.taskOf id with
    | none =>
      rw [found] at updated
      cases updated
    | some row =>
      simp only [found] at updated
      by_cases same : row.status = status'
      · rw [if_pos same] at updated
        obtain rfl := Except.ok.inj updated
        exact onTime
      · rw [if_neg same] at updated
        obtain rfl := Except.ok.inj updated
        exact (TicketStore.touched_onTime_iff row.ticketId context.now rfl).mpr onTime

end Calls

/-! ## Instances of the store -/

/-- A call through an instance of the store, which was made with `use_operational_settings` or
without. -/
structure InstanceCall where
  operational : Bool
  now : Int
  uuid : Nat → String
  call : StoreCall

/-- `_business_hours_policy` of an instance. -/
def InstanceCall.businessHours (policy : BusinessHoursPolicy) (call : InstanceCall) :
    Option BusinessHoursPolicy :=
  if call.operational then some policy else none

/-- What the call of an instance reads while the policy is not changed. -/
def InstanceCall.context (zones : String → Zone) (policy : BusinessHoursPolicy)
    (call : InstanceCall) : CallContext Int where
  now := call.now
  calendar := .ok fun priority createdAt =>
    .ok (slaDueAt zones (call.businessHours policy) priority createdAt)
  uuid := call.uuid

variable (platform : StorePlatform) (zones : String → Zone) (policy : BusinessHoursPolicy)

/-- The store behind a call of an instance. -/
def InstanceCall.apply (call : InstanceCall) (store : TicketStore Int) : TicketStore Int :=
  call.call.apply platform (call.context zones policy) store

/-- The store behind calls of instances. -/
def TicketStore.through (store : TicketStore Int) (calls : List InstanceCall) : TicketStore Int :=
  calls.foldl (fun store call => call.apply platform zones policy store) store

/-- Every ticket is on time, and a recalculation changes nothing. -/
structure TicketStore.Settled (store : TicketStore Int) : Prop where
  onTime : store.OnTime (slaDueAt zones (some policy))
  again : ∀ (now : Int) (uuid : Nat → String) (actor : String),
    InstanceCall.apply platform zones policy
      ⟨true, now, uuid, .recalculateOpenSlaDeadlines actor⟩ store = store

/-- The store behind a single call. -/
theorem TicketStore.through_single (store : TicketStore Int) (call : InstanceCall) :
    store.through platform zones policy [call] = call.apply platform zones policy store := rfl

/-- A call that returns dates nothing otherwise than the policy. -/
def InstanceCall.Timely (store : TicketStore Int) (call : InstanceCall) : Prop :=
  ∀ later, call.call.commit platform (call.context zones policy) store = .ok later →
    call.call.Timely platform (slaDueAt zones (some policy))
      (slaDueAt zones (call.businessHours policy)) call.now store

/-- A call is always possible. -/
def InstanceCall.step (store : TicketStore Int) (call : InstanceCall) : Option (TicketStore Int) :=
  some (call.apply platform zones policy store)

variable {zones policy} {store : TicketStore Int}

variable {platform} in
/-- The tickets are on time exactly when a recalculation has nothing to do. -/
theorem TicketStore.settled_iff :
    store.Settled platform zones policy ↔ store.OnTime (slaDueAt zones (some policy)) :=
  ⟨Settled.onTime, fun onTime =>
    ⟨onTime, fun _ _ _ => recalculate_idle platform onTime rfl⟩⟩

/-- A call keeps the tickets on time exactly when it dates nothing otherwise than the policy. -/
theorem InstanceCall.apply_onTime_iff (call : InstanceCall) (sound : store.Sound)
    (onTime : store.OnTime (slaDueAt zones (some policy))) :
    (call.apply platform zones policy store).OnTime (slaDueAt zones (some policy)) ↔
      call.Timely platform zones policy store := by
  rw [InstanceCall.apply, StoreCall.apply, InstanceCall.Timely]
  cases committed : call.call.commit platform (call.context zones policy) store with
  | error fault => exact iff_of_true onTime fun later returned => by cases returned
  | ok later =>
    simp only [Except.ok.injEq, forall_eq']
    exact call.call.commit_onTime_iff sound onTime rfl committed

/-- The keys of the tables are kept. -/
theorem InstanceCall.apply_sound (call : InstanceCall) (sound : store.Sound) :
    (call.apply platform zones policy store).Sound := by
  rcases call.call.apply_cases platform (call.context zones policy) store with same | committed
  · rw [InstanceCall.apply, same]
    exact sound
  · exact (call.call.commit_commits sound committed).sound

/-- From tickets on time: they are on time in every store reached exactly when every call dates
nothing otherwise than the policy. -/
theorem TicketStore.through_settled_iff {calls : List InstanceCall} (sound : store.Sound)
    (onTime : store.OnTime (slaDueAt zones (some policy))) :
    (∀ done, done <+: calls →
      (store.through platform zones policy done).Settled platform zones policy) ↔
      System.Keeps (InstanceCall.step platform zones policy)
        (fun store call => call.Timely platform zones policy store) store calls := by
  induction calls generalizing store with
  | nil =>
    refine iff_of_true ?_ trivial
    intro done isPrefix
    rw [List.prefix_nil.mp isPrefix]
    exact settled_iff.mpr onTime
  | cons call calls ih =>
    have behind := call.apply_onTime_iff platform sound onTime
    have soundBehind : (call.apply platform zones policy store).Sound :=
      call.apply_sound platform sound
    have rest := fun onTimeBehind => ih soundBehind onTimeBehind
    constructor
    · intro settled
      have first := settled [call] (List.prefix_append [call] calls)
      refine System.Keeps.cons (behind.mp first.onTime) rfl ((rest first.onTime).mp ?_)
      intro done isPrefix
      exact settled (call :: done) (List.cons_prefix_cons.mpr ⟨rfl, isPrefix⟩)
    · rintro ⟨timely, later⟩ done isPrefix
      cases done with
      | nil => exact settled_iff.mpr onTime
      | cons first done =>
        obtain ⟨rfl, shorter⟩ := List.cons_prefix_cons.mp isPrefix
        have onTimeBehind := behind.mpr timely
        exact (rest onTimeBehind).mpr (later _ rfl) done shorter

/-! ## An office -/

/-- The clocks on the wall show universal time. -/
def utcZones : String → Zone := fun _ => ⟨fun instant => ⟨instant, false⟩, LocalTime.wall⟩

/-- The office works from nine to six, from Monday to Friday. -/
def officePolicy : BusinessHoursPolicy where
  enabled := true
  timezone := "UTC"
  start := 9 * hourMicroseconds
  finish := 18 * hourMicroseconds
  weekdays := [0, 1, 2, 3, 4]
  start_nonneg := by decide
  start_lt := by decide
  finish_lt := by decide
  weekdays_nonempty := by decide
  weekdays_lt := by decide

/-- A Monday at five, four hours before the office opens. -/
def mondayAtFive : Int := (⟨2026, 9, 7, 5, 0, 0, 0⟩ : Library.DateTime).instant

/-- The ids that are drawn. -/
def officeUuid (draw : Nat) : String := String.ofList (List.replicate draw 'a')

/-- A finding of the endpoint sensor is ingested. -/
def officePast : List (CallContext Int × StoreCall) :=
  [(InstanceCall.context utcZones officePolicy
      ⟨false, mondayAtFive, officeUuid, .ingestSignals [endpointSignal]⟩,
    .ingestSignals [endpointSignal])]

/-- The policy creates the ticket of the finding through an instance. -/
def officeCall (operational : Bool) : InstanceCall :=
  ⟨operational, mondayAtFive, officeUuid,
    .createTicketWithTasks (policyRequest (signalIdOf (plainDigest '0')) hostOtPolicyActor .p2)
      hostModbusWriteTasks⟩

/-- The store with the finding. -/
def officeStore : TicketStore Int :=
  { TicketStore.empty with
    signals := [(endpointSignal.kept shiftPlatform).insertedRow mondayAtFive]
    occurrences := [(endpointSignal.kept shiftPlatform).occurrence shiftPlatform mondayAtFive] }

/-- The past of the office builds the store with the finding. -/
theorem after_officePast : TicketStore.after shiftPlatform officePast = officeStore := by
  rw [TicketStore.after, officePast, List.foldl_cons, List.foldl_nil, StoreCall.apply,
    StoreCall.commit, TicketStore.ingestSignals_single .empty _
      (checkSignal_of_plain endpointSignal_plain)]
  rfl

/-- The recalculation of a store without tickets. -/
theorem recalculated_office :
    (StoreCall.recalculateOpenSlaDeadlines "turno").commit shiftPlatform
      (InstanceCall.context utcZones officePolicy
        ⟨true, mondayAtFive, officeUuid, .recalculateOpenSlaDeadlines "turno"⟩)
      (TicketStore.after shiftPlatform officePast) = .ok officeStore := by
  rw [after_officePast, StoreCall.commit, TicketStore.recalculateOpenSlaDeadlines, shift_names.1]
  rfl

/-- Eight hours of work are done twelve hours later. -/
theorem slaDueAt_office : slaDueAt utcZones (some officePolicy) .p2 mondayAtFive =
    mondayAtFive + 12 * hourMicroseconds := by
  have consumed : officePolicy.consume ⟨mondayAtFive, false⟩ (8 * hourMicroseconds) =
      combine (LocalTime.day ⟨mondayAtFive, false⟩)
        (officePolicy.start + 8 * hourMicroseconds) := by
    apply BusinessHoursPolicy.consume_opening <;> decide
  show (officePolicy.consume ⟨mondayAtFive, false⟩ (8 * hourMicroseconds)).wall = _
  rw [consumed]
  decide

/-- The row of the finding. -/
theorem signalById_office : officeStore.signalById (signalIdOf (plainDigest '0')) =
    some ((endpointSignal.kept shiftPlatform).insertedRow mondayAtFive) := by
  simp [TicketStore.signalById, officeStore, Library.Table.row?, SignalRow.id,
    CheckedSignal.insertedRow, SignalInput.kept, endpointSignal, shiftSignal]

/-- The ticket that an instance without operational settings creates. -/
theorem officeCall_returns :
    ∃ later, (officeCall false).call.commit shiftPlatform
      ((officeCall false).context utcZones officePolicy) officeStore = .ok later := by
  have checks := checkRequest_policy shiftPlatform
    ((officeCall false).context utcZones officePolicy) .p2
    (requiredText_signalIdOf zeros_isDigest) requiredText_hostOtPolicyActor
    taskDefinitions_hostModbusWrite rfl rfl
  have absent : officeStore.ticketOfSignal (signalIdOf (plainDigest '0')) = none := rfl
  have created : (match officeStore.createTicketWithTasks shiftPlatform
      ((officeCall false).context utcZones officePolicy)
      (policyRequest (signalIdOf (plainDigest '0')) hostOtPolicyActor .p2)
      hostModbusWriteTasks with
    | .ok _ => true
    | .error _ => false) = true := by
    rw [TicketStore.createTicketWithTasks, checks]
    simp only [bind, Except.bind, TicketStore.requireSignal_eq_ok.mpr signalById_office,
      TicketStore.findOrCreateTicket, absent, TicketStore.createTicket]
    decide
  rw [officeCall, StoreCall.commit]
  split at created
  · rename_i result returned
    exact ⟨result.2, congrArg (Except.map Prod.snd) returned⟩
  · cases created

/-! ## Deadlines and the calendar -/

/-- Behind a recalculation, and while the policy is not changed: in every store that calls of any
instances reach every ticket is on time and a recalculation changes nothing, exactly when every
call that returns dates nothing otherwise than the policy and reopens no ticket with another
deadline. -/
theorem deadlines_follow_iff (platform : StorePlatform) (zones : String → Zone)
    (policy : BusinessHoursPolicy) (past : List (CallContext Int × StoreCall)) (now : Int)
    (uuid : Nat → String) (actor : String) (start : TicketStore Int)
    (recalculated : (StoreCall.recalculateOpenSlaDeadlines actor).commit platform
      (InstanceCall.context zones policy ⟨true, now, uuid, .recalculateOpenSlaDeadlines actor⟩)
      (TicketStore.after platform past) = .ok start) (calls : List InstanceCall) :
    (∀ done, done <+: calls →
      (start.through platform zones policy done).Settled platform zones policy) ↔
      System.Keeps (InstanceCall.step platform zones policy)
        (fun store call => call.Timely platform zones policy store) start calls := by
  have recorded : (TicketStore.after platform past).Recorded := TicketStore.recorded_after past
  have sound := recorded.sound
  have commits := StoreCall.commit_commits _ sound recalculated
  obtain ⟨result, returned, rfl⟩ := map_eq_ok.mp recalculated
  have onTime : result.2.OnTime (slaDueAt zones (some policy)) :=
    (recalculate_onTime_iff sound rfl returned).mpr fun _ _ _ => rfl
  exact TicketStore.through_settled_iff platform commits.sound onTime

/-- A ticket that is created through an instance with operational settings follows the policy. -/
theorem deadlines_follow_office :
    (officeStore.through shiftPlatform utcZones officePolicy [officeCall true]).Settled
      shiftPlatform utcZones officePolicy := by
  have timely : (officeCall true).Timely shiftPlatform utcZones officePolicy officeStore := by
    intro later _ _ priority _
    rfl
  exact (deadlines_follow_iff shiftPlatform utcZones officePolicy officePast mondayAtFive
    officeUuid "turno" officeStore recalculated_office [officeCall true]).mpr
      ⟨timely, fun _ _ => trivial⟩ [officeCall true] (List.prefix_refl _)

/-- The ingress makes its instance without operational settings: the ticket that it creates before
the office opens is due at one, and the policy gives it until five. -/
theorem ingress_ignores_calendar :
    (StoreCall.recalculateOpenSlaDeadlines "turno").commit shiftPlatform
      (InstanceCall.context utcZones officePolicy
        ⟨true, mondayAtFive, officeUuid, .recalculateOpenSlaDeadlines "turno"⟩)
      (TicketStore.after shiftPlatform officePast) = .ok officeStore ∧
    ¬ ∀ done, done <+: [officeCall false] →
      (officeStore.through shiftPlatform utcZones officePolicy done).Settled shiftPlatform utcZones
        officePolicy := by
  refine ⟨recalculated_office, fun settled => ?_⟩
  have onTime := (settled [officeCall false] (List.prefix_refl _)).onTime
  rw [TicketStore.through_single] at onTime
  have sound : officeStore.Sound :=
    ⟨List.nodup_nil, List.nodup_nil, fun _ member => absurd member List.not_mem_nil⟩
  have before : officeStore.OnTime (slaDueAt utcZones (some officePolicy)) :=
    fun _ member => absurd member List.not_mem_nil
  have timely := ((officeCall false).apply_onTime_iff shiftPlatform sound before).mp onTime
  obtain ⟨later, returned⟩ := officeCall_returns
  have dates : slaDueAt utcZones none .p2 mondayAtFive =
      slaDueAt utcZones (some officePolicy) .p2 mondayAtFive :=
    timely later returned rfl .p2 (normalizePriority_text shiftPlatform .p2)
  rw [slaDueAt_office] at dates
  exact absurd dates (by decide)

end DTLab
