import DTLab.Tickets.Links
import DTLab.Tickets.Prune
import DTLab.Verif.Resurfacing

/-!
# What pruning the ticket store keeps

The tickets that the front end would list first are kept, and a security test with them. In every
store that calls build, pruning commits exactly the store of these tickets with all that belongs to
them, or refuses to plan where a host write cannot be classified.
-/

namespace DTLab

open Library.Table (Keyed row?)

/-! ## The tickets to keep -/

namespace TicketStore

variable (store : TicketStore ClockTime)

/-- All tickets, in the order of the front end. -/
def orderedTickets : List (TicketRow ClockTime) := store.listTickets store.tickets.length

/-- The signal that a ticket names. -/
def namedSignal (ticket : TicketRow ClockTime) : Option (SignalRow ClockTime) :=
  row? SignalRow.id store.signals ticket.signalId

/-- The classification of the host write that a ticket is about; none of another signal. -/
def classificationOf (ticket : TicketRow ClockTime) : Option (Option Library.Json) :=
  ((store.namedSignal ticket).filter fun signal => signal.signalType = hostOtSignalType).map
    fun signal => hostClassification signal.payload

/-- Is a ticket about a security test on a host? -/
def isSecurityTest (ticket : TicketRow ClockTime) : Bool :=
  (store.classificationOf ticket).any (isTextOf "security_test")

/-- Is a ticket about a host write without a classification? -/
def isUnclassified (ticket : TicketRow ClockTime) : Bool :=
  (store.classificationOf ticket).any Option.isNone

/-- Is there a host write without a classification before the first security test? -/
def unclassified : Bool :=
  (store.orderedTickets.takeWhile fun ticket => !store.isSecurityTest ticket).any
    store.isUnclassified

/-- The first tickets, where the first security test takes the place of the last one unless it is
among them. -/
def keptTickets (retain : Nat) : List (TicketRow ClockTime) :=
  let window := store.listTickets retain
  match store.orderedTickets.find? store.isSecurityTest with
  | none => window
  | some guarded => if guarded ∈ window then window else window.dropLast ++ [guarded]

/-- The store of some tickets and what belongs to them, with all ingests. -/
def restrictTo (kept : List (TicketRow ClockTime)) : TicketStore ClockTime where
  signals := store.signals.filter fun row => row.id ∈ kept.map TicketRow.signalId
  occurrences := store.occurrences.filter fun row => row.signalId ∈ kept.map TicketRow.signalId
  snapshotIngests := store.snapshotIngests
  tickets := store.tickets.filter fun row => row ∈ kept
  comments := store.comments.filter fun row => row.ticketId ∈ kept.map TicketRow.id
  tasks := store.tasks.filter fun row => row.ticketId ∈ kept.map TicketRow.id
  auditEvents := store.auditEvents.filter fun row => row.ticketId ∈ kept.map TicketRow.id

end TicketStore

/-! ## The query -/

section

variable {store : TicketStore ClockTime}

/-- The row of a ticket in the query. -/
def TicketStore.planRow (store : TicketStore ClockTime) (ticket : TicketRow ClockTime) : PlanRow :=
  match store.namedSignal ticket with
  | some signal => PlanRow.of ticket signal
  | none => ⟨ticket.id, ticket.signalId, ticket.updatedAt.text, "", []⟩

/-- The row has the id of the ticket. -/
@[simp] theorem planRow_id (ticket : TicketRow ClockTime) :
    (store.planRow ticket).id = ticket.id := by
  rw [TicketStore.planRow]
  cases store.namedSignal ticket <;> rfl

/-- The row has the signal of the ticket. -/
@[simp] theorem planRow_signalId (ticket : TicketRow ClockTime) :
    (store.planRow ticket).signalId = ticket.signalId := by
  rw [TicketStore.planRow]
  cases store.namedSignal ticket <;> rfl

/-- The row has the text of the last update. -/
@[simp] theorem planRow_updatedAt (ticket : TicketRow ClockTime) :
    (store.planRow ticket).updatedAt = ticket.updatedAt.text := by
  rw [TicketStore.planRow]
  cases store.namedSignal ticket <;> rfl

/-- The ids of the signals are a key. -/
theorem TicketStore.Linked.keyed_id (linked : store.Linked) :
    Keyed SignalRow.id store.signals := by
  have fingerprints : (store.signals.map SignalRow.fingerprint).Nodup := linked.keyed
  have ids : store.signals.map SignalRow.id =
      (store.signals.map SignalRow.fingerprint).map signalIdOf := by
    rw [List.map_map]
    rfl
  rw [Keyed, ids]
  apply List.Nodup.map
  · intro first second same
    exact signalIdOf_injective same
  · exact fingerprints

/-- A ticket names a signal. -/
theorem TicketStore.Linked.isSome_namedSignal (linked : store.Linked)
    {ticket : TicketRow ClockTime} (member : ticket ∈ store.tickets) :
    (store.namedSignal ticket).isSome := by
  obtain ⟨signal, present, same⟩ := linked.tickets ticket member
  rw [TicketStore.namedSignal, ← same, Library.Table.row?_of_mem linked.keyed_id present]
  rfl

/-- The query lists the tickets in the order of the front end. -/
theorem planRows_eq (linked : store.Linked) :
    store.planRows = store.orderedTickets.map store.planRow := by
  have joined : (store.tickets.flatMap fun ticket =>
      (store.signals.filter fun signal => signal.id = ticket.signalId).map (PlanRow.of ticket)) =
        store.tickets.map store.planRow := by
    rw [List.map_eq_flatMap]
    apply List.flatMap_congr
    intro ticket member
    obtain ⟨signal, named⟩ := Option.isSome_iff_exists.mp (linked.isSome_namedSignal member)
    have only : (store.signals.filter fun signal => signal.id = ticket.signalId) =
        (store.namedSignal ticket).toList := linked.keyed_id.filter_key ticket.signalId
    rw [only, TicketStore.planRow, named]
    rfl
  rw [TicketStore.planRows, joined, TicketStore.orderedTickets, TicketStore.listTickets,
    List.take_of_length_le (le_of_eq (List.length_insertionSort _ _))]
  symm
  apply List.map_insertionSort
  intro first _ second _
  simp only [PlanRow.ordered, planRow_updatedAt, planRow_id]

/-- What the command reads of a ticket. -/
theorem isSecurityTestHostSignal_planRow (ticket : TicketRow ClockTime) :
    (store.planRow ticket).isSecurityTestHostSignal =
      if store.isUnclassified ticket then
        .error (.refused ("cannot classify host_modbus_write signal linked to ticket " ++
          ticket.id))
      else .ok (store.isSecurityTest ticket) := by
  rw [PlanRow.isSecurityTestHostSignal, TicketStore.isUnclassified, TicketStore.isSecurityTest,
    TicketStore.classificationOf, planRow_id, TicketStore.planRow]
  cases named : store.namedSignal ticket with
  | none => rfl
  | some signal =>
    show (if signal.signalType ≠ "host_modbus_write" then _ else _) = _
    by_cases host : signal.signalType = "host_modbus_write"
    · have passed : (some signal).filter
          (fun signal => decide (signal.signalType = hostOtSignalType)) = some signal := by
        have same : decide (signal.signalType = hostOtSignalType) = true := decide_eq_true host
        rw [Option.filter_some, if_pos same]
      rw [passed, if_neg (not_not.mpr host)]
      dsimp only [PlanRow.of]
      cases classified : hostClassification signal.payload with
      | none =>
        show _ = if (hostClassification signal.payload).isNone = true then _ else _
        rw [classified]
        rfl
      | some classification =>
        show _ = if (hostClassification signal.payload).isNone = true then _ else
          Except.ok (isTextOf "security_test" (hostClassification signal.payload))
        rw [classified]
        rfl
    · have dropped : (some signal).filter
          (fun signal => decide (signal.signalType = hostOtSignalType)) = none := by
        rw [Option.filter_some, if_neg]
        exact fun holds => host (of_decide_eq_true holds)
      rw [dropped, if_pos host]
      rfl

/-- A host write without a classification is no security test. -/
theorem isSecurityTest_of_isUnclassified {ticket : TicketRow ClockTime}
    (unclassified : store.isUnclassified ticket = true) : store.isSecurityTest ticket = false := by
  rw [TicketStore.isUnclassified] at unclassified
  rw [TicketStore.isSecurityTest]
  cases found : store.classificationOf ticket with
  | none => rfl
  | some classification =>
    rw [found, Option.any_some, Option.isNone_iff_eq_none] at unclassified
    rw [unclassified]
    rfl

/-- The first security test of some tickets, unless a host write before it is not classified. -/
theorem nextProtected_planRow (store : TicketStore ClockTime)
    (tickets : List (TicketRow ClockTime)) :
    if (tickets.takeWhile fun ticket => !store.isSecurityTest ticket).any store.isUnclassified then
      ∃ ticketId, nextProtected (tickets.map store.planRow) =
        .error (.refused ("cannot classify host_modbus_write signal linked to ticket " ++ ticketId))
    else nextProtected (tickets.map store.planRow) =
      .ok ((tickets.find? store.isSecurityTest).map TicketRow.id) := by
  induction tickets with
  | nil => rfl
  | cons ticket tickets ih =>
    rw [List.map_cons, nextProtected, isSecurityTestHostSignal_planRow]
    by_cases unclassified : store.isUnclassified ticket = true
    · have other := isSecurityTest_of_isUnclassified unclassified
      have reached : ((ticket :: tickets).takeWhile fun ticket =>
          !store.isSecurityTest ticket).any store.isUnclassified = true := by
        rw [List.takeWhile_cons, if_pos (by rw [other]; rfl), List.any_cons, unclassified]
        rfl
      rw [if_pos reached, if_pos unclassified]
      exact ⟨ticket.id, rfl⟩
    · rw [if_neg unclassified]
      show if _ then ∃ _, (if store.isSecurityTest ticket = true then _ else _) = _
        else (if store.isSecurityTest ticket = true then _ else _) = _
      cases guarded : store.isSecurityTest ticket with
      | true =>
        rw [List.takeWhile_cons, guarded, List.find?_cons, guarded]
        simp only [Bool.not_true, Bool.false_eq_true, if_false, if_true, List.any_nil]
        exact congrArg (fun id => Except.ok (some id)) (planRow_id ticket)
      | false =>
        rw [List.takeWhile_cons, guarded, List.find?_cons, guarded]
        have settled : store.isUnclassified ticket = false := by
          rw [← Bool.not_eq_true]
          exact unclassified
        simp only [Bool.not_false, if_true, List.any_cons, settled, Bool.false_or,
          Bool.false_eq_true, if_false]
        exact ih

/-! ## The plan -/

/-- The tickets in the order of the front end are those of the store. -/
theorem orderedTickets_perm (store : TicketStore ClockTime) :
    store.orderedTickets.Perm store.tickets :=
  TicketStore.listTickets_perm le_rfl

/-- A list of tickets is the start of all of them. -/
theorem listTickets_eq_take (store : TicketStore ClockTime) (limit : Nat) :
    store.listTickets limit = store.orderedTickets.take limit := by
  have whole : store.orderedTickets = store.tickets.insertionSort _ :=
    List.take_of_length_le (le_of_eq (List.length_insertionSort _ _))
  rw [whole, TicketStore.listTickets]

/-- The ids of the tickets in the order of the front end are distinct. -/
theorem TicketStore.Sound.ordered_nodup (sound : store.Sound) :
    (store.orderedTickets.map TicketRow.id).Nodup := by
  have ids : (store.tickets.map TicketRow.id).Nodup := sound.ids
  exact ((orderedTickets_perm store).map TicketRow.id).nodup_iff.mpr ids

/-- Tickets of a list with one id are one. -/
theorem mem_of_mem_map_id {tickets chosen : List (TicketRow ClockTime)}
    {ticket : TicketRow ClockTime} (distinct : (tickets.map TicketRow.id).Nodup)
    (inside : chosen ⊆ tickets) (member : ticket ∈ tickets)
    (listed : ticket.id ∈ chosen.map TicketRow.id) : ticket ∈ chosen := by
  obtain ⟨other, present, same⟩ := List.mem_map.mp listed
  have equal : other = ticket := List.inj_on_of_nodup_map distinct (inside present) member same
  rw [← equal]
  exact present

/-- A protected ticket takes the place of the last one. -/
theorem keepProtected_eq (store : TicketStore ClockTime) {tickets : List (TicketRow ClockTime)}
    {guarded : TicketRow ClockTime} (distinct : (tickets.map TicketRow.id).Nodup)
    (member : guarded ∈ tickets) (retain : Nat) :
    keepProtected (tickets.map store.planRow) retain
      ((tickets.take retain).map TicketRow.id).toFinset guarded.id =
        .ok ((if guarded ∈ tickets.take retain then tickets.take retain
          else (tickets.take retain).dropLast ++ [guarded]).map TicketRow.id).toFinset := by
  have inside : tickets.take retain ⊆ tickets := List.take_subset retain tickets
  rw [keepProtected]
  by_cases kept : guarded ∈ tickets.take retain
  · have listed : guarded.id ∈ ((tickets.take retain).map TicketRow.id).toFinset :=
      List.mem_toFinset.mpr (List.mem_map_of_mem kept)
    rw [if_pos listed, if_pos kept]
    rfl
  · have missing : guarded.id ∉ ((tickets.take retain).map TicketRow.id).toFinset := by
      intro listed
      exact kept (mem_of_mem_map_id distinct inside member (List.mem_toFinset.mp listed))
    rw [if_neg missing, if_neg kept]
    cases retain with
    | zero =>
      have empty : ¬ (((tickets.take 0).map TicketRow.id).toFinset).Nonempty :=
        Finset.not_nonempty_empty
      rw [if_neg empty]
      rfl
    | succ last =>
      have short : last < tickets.length := by
        by_contra long
        apply kept
        rw [List.take_of_length_le (by omega)]
        exact member
      have split : tickets.take (last + 1) = tickets.take last ++ [tickets[last]] :=
        List.take_succ_eq_append_getElem short
      have ids : (tickets.take (last + 1)).map TicketRow.id =
          (tickets.take last).map TicketRow.id ++ [tickets[last].id] := by
        rw [split, List.map_append]
        rfl
      have apart : tickets[last].id ∉ (tickets.take last).map TicketRow.id := by
        have part := distinct.sublist ((List.take_sublist (last + 1) tickets).map TicketRow.id)
        rw [ids] at part
        exact fun listed => List.disjoint_of_nodup_append part listed (List.mem_singleton_self _)
      have present : tickets[last].id ∈ ((tickets.take (last + 1)).map TicketRow.id).toFinset := by
        rw [ids, List.mem_toFinset]
        exact List.mem_append_right _ (List.mem_singleton_self _)
      have index : ((last + 1 : Nat) - 1 : Int).toNat = last := by omega
      have found : (tickets.map store.planRow)[((last + 1 : Nat) - 1 : Int).toNat]? =
          some (store.planRow tickets[last]) := by
        rw [index, List.getElem?_map, List.getElem?_eq_getElem short]
        rfl
      have erased : ((tickets.take (last + 1)).map TicketRow.id).toFinset.erase tickets[last].id =
          ((tickets.take last).map TicketRow.id).toFinset := by
        rw [ids, List.toFinset_append, List.toFinset_cons, List.toFinset_nil,
          insert_empty_eq, Finset.union_singleton, Finset.erase_insert]
        rwa [List.mem_toFinset]
      have remaining : (tickets.take (last + 1)).dropLast = tickets.take last := by
        rw [split, List.dropLast_concat]
      rw [if_pos ⟨_, present⟩, found]
      show (if (store.planRow tickets[last]).id ∈ _ then _ else _) = _
      rw [planRow_id, if_pos present, erased, remaining, List.map_append, List.toFinset_append,
        List.map_singleton, List.toFinset_cons, List.toFinset_nil, insert_empty_eq,
        Finset.union_singleton]
      rfl

/-- The kept tickets are in the store. -/
theorem keptTickets_subset (store : TicketStore ClockTime) (retain : Nat) :
    store.keptTickets retain ⊆ store.tickets := by
  have perm := orderedTickets_perm store
  have window : store.listTickets retain ⊆ store.tickets := by
    intro ticket member
    rw [listTickets_eq_take] at member
    exact perm.subset (List.mem_of_mem_take member)
  rw [TicketStore.keptTickets]
  cases found : store.orderedTickets.find? store.isSecurityTest with
  | none => exact window
  | some guarded =>
    show (if guarded ∈ store.listTickets retain then _ else _ : List _) ⊆ _
    by_cases kept : guarded ∈ store.listTickets retain
    · rw [if_pos kept]
      exact window
    · rw [if_neg kept]
      intro ticket member
      rcases List.mem_append.mp member with early | last
      · exact window (List.mem_of_mem_dropLast early)
      · rw [List.mem_singleton.mp last]
        exact perm.subset (List.mem_of_find?_eq_some found)

/-- A ticket is kept exactly when its id is that of a kept one. -/
theorem mem_keptTickets_iff (sound : store.Sound) (retain : Nat) {ticket : TicketRow ClockTime}
    (member : ticket ∈ store.tickets) :
    ticket ∈ store.keptTickets retain ↔
      ticket.id ∈ ((store.keptTickets retain).map TicketRow.id).toFinset := by
  rw [List.mem_toFinset]
  constructor
  · exact List.mem_map_of_mem
  · exact mem_of_mem_map_id sound.ids (keptTickets_subset store retain) member

/-- The plan that keeps the tickets. -/
def TicketStore.keepingPlan (store : TicketStore ClockTime) (retain : Nat) : TicketPrunePlan :=
  let keptSignalIds := ((store.keptTickets retain).map TicketRow.signalId).toFinset
  { ticketIds := store.orderedTickets.map TicketRow.id
    keptTicketIds := ((store.keptTickets retain).map TicketRow.id).toFinset
    keptSignalIds := keptSignalIds
    protectedTicketId := (store.orderedTickets.find? store.isSecurityTest).map TicketRow.id
    signalsToDelete := ((store.signals.map SignalRow.id).toFinset \ keptSignalIds).card
    occurrencesToDelete := store.occurrences.countP fun row => row.signalId ∉ keptSignalIds }

/-- The signals of the rows that the plan keeps. -/
theorem keptSignalIds_eq (sound : store.Sound) (retain : Nat) :
    (((store.orderedTickets.map store.planRow).filter fun row =>
      row.id ∈ ((store.keptTickets retain).map TicketRow.id).toFinset).map
        PlanRow.signalId).toFinset =
      ((store.keptTickets retain).map TicketRow.signalId).toFinset := by
  have perm := orderedTickets_perm store
  ext signalId
  rw [List.mem_toFinset, List.mem_toFinset, List.mem_map, List.mem_map]
  constructor
  · rintro ⟨row, listed, rfl⟩
    obtain ⟨inside, kept⟩ := List.mem_filter.mp listed
    obtain ⟨ticket, member, rfl⟩ := List.mem_map.mp inside
    rw [planRow_id] at kept
    have present := (mem_keptTickets_iff sound retain (perm.subset member)).mpr
      (of_decide_eq_true kept)
    exact ⟨ticket, present, (planRow_signalId ticket).symm⟩
  · rintro ⟨ticket, kept, rfl⟩
    have member := keptTickets_subset store retain kept
    refine ⟨store.planRow ticket, ?_, planRow_signalId ticket⟩
    rw [List.mem_filter]
    refine ⟨List.mem_map_of_mem (perm.symm.subset member), ?_⟩
    rw [planRow_id]
    exact decide_eq_true ((mem_keptTickets_iff sound retain member).mp kept)

/-- Planning keeps the tickets, unless a host write cannot be classified. -/
theorem planPrune_eq (linked : store.Linked) (sound : store.Sound) (retain : Nat) :
    if store.unclassified then
      ∃ ticketId, store.planPrune retain =
        .error (.refused ("cannot classify host_modbus_write signal linked to ticket " ++ ticketId))
    else store.planPrune retain = .ok (store.keepingPlan retain) := by
  have rows := planRows_eq linked
  have ids : (store.orderedTickets.map store.planRow).map PlanRow.id =
      store.orderedTickets.map TicketRow.id := by
    rw [List.map_map]
    exact List.map_congr_left fun ticket _ => planRow_id ticket
  have first : (((store.orderedTickets.map store.planRow).take retain).map PlanRow.id) =
      (store.orderedTickets.take retain).map TicketRow.id := by
    rw [← List.map_take, List.map_map]
    exact List.map_congr_left fun ticket _ => planRow_id ticket
  have guarded := nextProtected_planRow store store.orderedTickets
  rw [← TicketStore.unclassified] at guarded
  have nonneg : ¬ (retain : Int) < 0 := by omega
  rw [TicketStore.planPrune, rows, Int.toNat_natCast]
  by_cases unclassified : store.unclassified = true
  · rw [if_pos unclassified]
    rw [if_pos unclassified] at guarded
    obtain ⟨ticketId, failed⟩ := guarded
    refine ⟨ticketId, ?_⟩
    rw [if_neg nonneg]
    dsimp only
    rw [failed]
    rfl
  · rw [if_neg unclassified]
    rw [if_neg unclassified] at guarded
    rw [if_neg nonneg]
    dsimp only
    rw [guarded, first, ids]
    have signals := keptSignalIds_eq sound retain
    simp only [TicketStore.keptTickets, listTickets_eq_take] at signals
    simp only [TicketStore.keepingPlan, TicketStore.keptTickets, listTickets_eq_take]
    cases found : store.orderedTickets.find? store.isSecurityTest with
    | none =>
      rw [found] at signals
      simp only [bind, Except.bind, Option.map_none, pure, Except.pure] at signals ⊢
      rw [signals]
    | some guarded =>
      rw [found] at signals
      have replaced := keepProtected_eq store sound.ordered_nodup
        (List.mem_of_find?_eq_some found) retain
      simp only [bind, Except.bind, Option.map_some, pure, Except.pure, replaced] at signals ⊢
      rw [signals]

/-! ## The statements -/

/-- A statement that deletes no key that a row names is not restricted. -/
theorem restrict_eq_ok {keys referred : List String} {kept : Finset String}
    (named : ∀ key ∈ referred, key ∈ kept) : restrict keys kept referred = .ok () := by
  rw [restrict, if_neg]
  intro found
  obtain ⟨key, _, both⟩ := List.any_eq_true.mp found
  have parts := Bool.and_eq_true_iff.mp both
  exact of_decide_eq_true parts.1 (named key (of_decide_eq_true parts.2))

/-- The rows that a statement leaves name what it keeps. -/
theorem mem_of_mem_deleteNotIn {ρ : Type} {column : ρ → String} {kept : Finset String}
    {rows : List ρ} {key : String} (member : key ∈ (deleteNotIn column kept rows).2.map column) :
    key ∈ kept := by
  obtain ⟨row, inside, rfl⟩ := List.mem_map.mp member
  exact of_decide_eq_true (List.mem_filter.mp inside).2

/-- The tickets that the statements leave. -/
def TicketStore.leftTickets (store : TicketStore ClockTime) (kept : Finset String) :
    List (TicketRow ClockTime) :=
  (deleteNotIn TicketRow.id kept store.tickets).2

/-- The signals of the tickets that the statements leave. -/
def TicketStore.leftSignalIds (store : TicketStore ClockTime) (kept : Finset String) :
    Finset String :=
  ((store.leftTickets kept).map TicketRow.signalId).toFinset

/-- The rows that the statements delete. -/
def TicketStore.deletedRows (store : TicketStore ClockTime) (kept : Finset String) :
    DeletedRows where
  ticketComments := (deleteNotIn CommentRow.ticketId kept store.comments).1
  ticketTasks := (deleteNotIn TaskRow.ticketId kept store.tasks).1
  auditEvents := (deleteNotIn AuditEvent.ticketId kept store.auditEvents).1
  tickets := (deleteNotIn TicketRow.id kept store.tickets).1
  signalOccurrences :=
    (deleteNotIn OccurrenceRow.signalId (store.leftSignalIds kept) store.occurrences).1
  signals := (deleteNotIn SignalRow.id (store.leftSignalIds kept) store.signals).1

/-- The store that the statements leave. -/
def TicketStore.left (store : TicketStore ClockTime) (kept : Finset String) :
    TicketStore ClockTime where
  signals := (deleteNotIn SignalRow.id (store.leftSignalIds kept) store.signals).2
  occurrences := (deleteNotIn OccurrenceRow.signalId (store.leftSignalIds kept) store.occurrences).2
  snapshotIngests := store.snapshotIngests
  tickets := store.leftTickets kept
  comments := (deleteNotIn CommentRow.ticketId kept store.comments).2
  tasks := (deleteNotIn TaskRow.ticketId kept store.tasks).2
  auditEvents := (deleteNotIn AuditEvent.ticketId kept store.auditEvents).2

/-- No statement fails, and the trigger is there again. -/
theorem runStatements_eq (store : TicketStore ClockTime) (kept : Finset String) :
    store.database.runStatements kept auditEventsNoDelete =
      .ok (store.deletedRows kept, (store.left kept).database) := by
  have comments : restrict (store.tickets.map TicketRow.id) kept
      ((deleteNotIn CommentRow.ticketId kept store.comments).2.map CommentRow.ticketId) = .ok () :=
    restrict_eq_ok fun _ => mem_of_mem_deleteNotIn
  have tasks : restrict (store.tickets.map TicketRow.id) kept
      ((deleteNotIn TaskRow.ticketId kept store.tasks).2.map TaskRow.ticketId) = .ok () :=
    restrict_eq_ok fun _ => mem_of_mem_deleteNotIn
  have auditEvents : restrict (store.tickets.map TicketRow.id) kept
      ((deleteNotIn AuditEvent.ticketId kept store.auditEvents).2.map AuditEvent.ticketId) =
        .ok () :=
    restrict_eq_ok fun _ => mem_of_mem_deleteNotIn
  have tickets : restrict (store.signals.map SignalRow.id) (store.leftSignalIds kept)
      ((store.leftTickets kept).map TicketRow.signalId) = .ok () :=
    restrict_eq_ok fun _ => List.mem_toFinset.mpr
  have occurrences : restrict (store.signals.map SignalRow.id) (store.leftSignalIds kept)
      ((deleteNotIn OccurrenceRow.signalId (store.leftSignalIds kept) store.occurrences).2.map
        OccurrenceRow.signalId) = .ok () :=
    restrict_eq_ok fun _ => mem_of_mem_deleteNotIn
  have disjoint : Disjoint (∅ : Finset String) kept := Finset.disjoint_empty_left kept
  rw [TicketDatabase.runStatements]
  simp only [bind, Except.bind, pure, Except.pure, TicketStore.database,
    TicketDatabase.createKept, TicketDatabase.insertKept, TicketDatabase.keptIds, if_pos disjoint,
    Finset.empty_union, TicketDatabase.deleteComments, TicketDatabase.deleteTasks,
    TicketDatabase.dropTrigger, TicketDatabase.deleteAuditEvents, Option.isSome_none,
    Bool.false_eq_true, false_and, if_false, TicketDatabase.createTrigger,
    TicketDatabase.deleteTickets, comments, tasks, auditEvents, TicketDatabase.deleteOccurrences,
    TicketDatabase.deleteSignals, TicketDatabase.ticketSignalIds, TicketDatabase.dropKept]
  rw [TicketStore.leftSignalIds, TicketStore.leftTickets] at tickets occurrences
  rw [tickets, occurrences]
  rfl

/-- The tickets that the statements leave are the kept ones. -/
theorem leftTickets_eq (sound : store.Sound) (retain : Nat) :
    store.leftTickets ((store.keptTickets retain).map TicketRow.id).toFinset =
      store.tickets.filter fun row => row ∈ store.keptTickets retain := by
  apply List.filter_congr
  intro ticket member
  rw [decide_eq_decide]
  exact (mem_keptTickets_iff sound retain member).symm

/-- The signals that the statements leave are those of the kept tickets. -/
theorem leftSignalIds_eq (sound : store.Sound) (retain : Nat) :
    store.leftSignalIds ((store.keptTickets retain).map TicketRow.id).toFinset =
      ((store.keptTickets retain).map TicketRow.signalId).toFinset := by
  rw [TicketStore.leftSignalIds, leftTickets_eq sound]
  ext signalId
  rw [List.mem_toFinset, List.mem_toFinset, List.mem_map, List.mem_map]
  constructor
  · rintro ⟨ticket, listed, same⟩
    exact ⟨ticket, of_decide_eq_true (List.mem_filter.mp listed).2, same⟩
  · rintro ⟨ticket, kept, same⟩
    have member := keptTickets_subset store retain kept
    exact ⟨ticket, List.mem_filter.mpr ⟨member, decide_eq_true kept⟩, same⟩

/-- The statements leave the store of the kept tickets. -/
theorem left_eq (sound : store.Sound) (retain : Nat) :
    store.left ((store.keptTickets retain).map TicketRow.id).toFinset =
      store.restrictTo (store.keptTickets retain) := by
  rw [TicketStore.left, TicketStore.restrictTo, leftTickets_eq sound, leftSignalIds_eq sound]
  simp only [deleteNotIn, List.mem_toFinset]

/-- What is not deleted of a table with a key is what is kept. -/
theorem countP_notIn {ρ : Type} {column : ρ → String} {rows : List ρ}
    (keyed : Keyed column rows) (kept : Finset String) :
    (deleteNotIn column kept rows).1 = ((rows.map column).toFinset \ kept).card := by
  have filtered : (rows.map column).toFinset \ kept =
      ((rows.map column).filter fun key => key ∉ kept).toFinset := by
    ext key
    rw [Finset.mem_sdiff, List.mem_toFinset, List.mem_toFinset, List.mem_filter,
      decide_eq_true_eq]
  have distinct : ((rows.map column).filter fun key => key ∉ kept).Nodup :=
    keyed.sublist List.filter_sublist
  rw [filtered, List.toFinset_card_of_nodup distinct, deleteNotIn, ← List.countP_eq_length_filter,
    List.countP_map]
  rfl

/-- The deleted tickets are those of the plan. -/
theorem deletedTickets_eq (sound : store.Sound) (retain : Nat) :
    ((store.deletedRows ((store.keptTickets retain).map TicketRow.id).toFinset).tickets : Int) =
      (store.keepingPlan retain).ticketsToDelete := by
  have inside : ((store.keptTickets retain).map TicketRow.id).toFinset ⊆
      (store.tickets.map TicketRow.id).toFinset := by
    intro id listed
    rw [List.mem_toFinset] at listed ⊢
    exact List.map_subset _ (keptTickets_subset store retain) listed
  have count := countP_notIn sound.ids ((store.keptTickets retain).map TicketRow.id).toFinset
  have total : (store.tickets.map TicketRow.id).toFinset.card = store.orderedTickets.length := by
    have distinct : (store.tickets.map TicketRow.id).Nodup := sound.ids
    rw [List.toFinset_card_of_nodup distinct, List.length_map,
      (orderedTickets_perm store).length_eq]
  have bounded := Finset.card_le_card inside
  rw [Finset.card_sdiff_of_subset inside, total] at count
  rw [total] at bounded
  have planned : (store.keepingPlan retain).ticketsToDelete = (store.orderedTickets.length : Int) -
      ((store.keptTickets retain).map TicketRow.id).toFinset.card := by
    rw [TicketPrunePlan.ticketsToDelete]
    show (((store.orderedTickets.map TicketRow.id).length : Nat) : Int) - _ = _
    rw [List.length_map]
    rfl
  rw [planned]
  show ((deleteNotIn TicketRow.id _ store.tickets).1 : Int) = _
  rw [count]
  omega

/-- Applying the plan passes every check. -/
theorem applyPlan_eq (linked : store.Linked) (sound : store.Sound) (retain : Nat) :
    store.database.applyPlan (store.keepingPlan retain) auditEventsNoDelete =
      .ok (store.deletedRows ((store.keptTickets retain).map TicketRow.id).toFinset,
        (store.restrictTo (store.keptTickets retain)).database) := by
  have ran := runStatements_eq store ((store.keptTickets retain).map TicketRow.id).toFinset
  have tickets := deletedTickets_eq sound retain
  have signals : (store.deletedRows
      ((store.keptTickets retain).map TicketRow.id).toFinset).signals =
        (store.keepingPlan retain).signalsToDelete := by
    show (deleteNotIn SignalRow.id (store.leftSignalIds _) store.signals).1 = _
    rw [leftSignalIds_eq sound, countP_notIn linked.keyed_id]
    rfl
  have occurrences : (store.deletedRows
      ((store.keptTickets retain).map TicketRow.id).toFinset).signalOccurrences =
        (store.keepingPlan retain).occurrencesToDelete := by
    show (deleteNotIn OccurrenceRow.signalId (store.leftSignalIds _) store.occurrences).1 = _
    rw [leftSignalIds_eq sound]
    rfl
  rw [left_eq sound] at ran
  rw [TicketDatabase.applyPlan]
  show (store.database.runStatements ((store.keptTickets retain).map TicketRow.id).toFinset
    auditEventsNoDelete >>= _) = _
  rw [ran]
  simp only [bind, Except.bind, tickets, signals, occurrences, ne_eq, not_true_eq_false, if_false]
  rfl

/-! ## The whole command -/

/-- No row of a linked store names a missing one. -/
theorem TicketStore.Linked.foreignKeysHold (linked : store.Linked) :
    store.foreignKeysHold = true := by
  have signal : ∀ signalId, store.HasSignal signalId →
      signalId ∈ store.signals.map SignalRow.id := by
    rintro signalId ⟨row, member, same⟩
    rw [← same]
    exact List.mem_map_of_mem member
  have ticket : ∀ ticketId, (store.ticketOf ticketId).isSome →
      ticketId ∈ store.tickets.map TicketRow.id := by
    intro ticketId present
    obtain ⟨row, found⟩ := Option.isSome_iff_exists.mp present
    rw [← Library.Table.key_of_row? found]
    exact List.mem_map_of_mem (Library.Table.mem_of_row? found)
  simp only [TicketStore.foreignKeysHold, Bool.and_eq_true, List.all_eq_true, decide_eq_true_eq]
  exact ⟨⟨⟨⟨fun row member => signal _ (linked.tickets row member),
    fun row member => signal _ (linked.occurrences row member)⟩,
    fun row member => ticket _ (linked.comments row member)⟩,
    fun row member => ticket _ (linked.tasks row member)⟩,
    fun row member => ticket _ (linked.auditEvents row member)⟩

/-- No row of the store of some tickets names a missing one. -/
theorem restrictTo_foreignKeysHold (linked : store.Linked) {kept : List (TicketRow ClockTime)}
    (inside : kept ⊆ store.tickets) : (store.restrictTo kept).foreignKeysHold = true := by
  have signal : ∀ row ∈ kept, row.signalId ∈
      (store.signals.filter fun signal => signal.id ∈ kept.map TicketRow.signalId).map
        SignalRow.id := by
    intro row member
    obtain ⟨signal, present, same⟩ := linked.tickets row (inside member)
    rw [← same]
    apply List.mem_map_of_mem
    rw [List.mem_filter]
    refine ⟨present, decide_eq_true ?_⟩
    rw [same]
    exact List.mem_map_of_mem member
  have ticket : ∀ ticketId ∈ kept.map TicketRow.id,
      ticketId ∈ (store.tickets.filter fun row => row ∈ kept).map TicketRow.id := by
    intro ticketId listed
    obtain ⟨row, member, rfl⟩ := List.mem_map.mp listed
    exact List.mem_map_of_mem (List.mem_filter.mpr ⟨inside member, decide_eq_true member⟩)
  simp only [TicketStore.foreignKeysHold, TicketStore.restrictTo, Bool.and_eq_true,
    List.all_eq_true]
  refine ⟨⟨⟨⟨?_, ?_⟩, ?_⟩, ?_⟩, ?_⟩
  · intro row member
    apply decide_eq_true
    exact signal row (of_decide_eq_true (List.mem_filter.mp member).2)
  · intro row member
    obtain ⟨named, listed, same⟩ :=
      List.mem_map.mp (of_decide_eq_true (List.mem_filter.mp member).2)
    apply decide_eq_true
    rw [← same]
    exact signal named listed
  · intro row member
    apply decide_eq_true
    exact ticket _ (of_decide_eq_true (List.mem_filter.mp member).2)
  · intro row member
    apply decide_eq_true
    exact ticket _ (of_decide_eq_true (List.mem_filter.mp member).2)
  · intro row member
    apply decide_eq_true
    exact ticket _ (of_decide_eq_true (List.mem_filter.mp member).2)

/-- The schema has the trigger with a text. -/
theorem requireSchema_eq {database : TicketDatabase} {sql : String}
    (present : database.auditTrigger = some sql) (written : strip sql ≠ "") :
    database.requireSchema = .ok sql := by
  rw [TicketDatabase.requireSchema, present]
  exact if_neg written

/-- The text of the trigger is not blank. -/
theorem strip_auditEventsNoDelete : strip auditEventsNoDelete ≠ "" := by decide +kernel

/-- A run plans in vain where a host write cannot be classified, and otherwise commits the store of
the kept tickets. -/
theorem pruneTicketStore_eq (linked : store.Linked) (sound : store.Sound) (retain : Nat) :
    if store.unclassified then
      ∀ failure, store.planPrune retain = .error failure →
        ∀ apply, pruneTicketStore retain apply store.database = (.error failure, store.database)
    else pruneTicketStore retain true store.database =
      (.ok (store.keepingPlan retain,
        some (store.deletedRows ((store.keptTickets retain).map TicketRow.id).toFinset)),
        (store.restrictTo (store.keptTickets retain)).database) := by
  have planned := planPrune_eq linked sound retain
  have schema : ∀ store : TicketStore ClockTime,
      store.database.requireSchema = .ok auditEventsNoDelete := by
    intro store
    exact requireSchema_eq rfl strip_auditEventsNoDelete
  have before : store.database.checkIntegrity = .ok () := if_pos linked.foreignKeysHold
  have nonneg : ¬ (retain : Int) < 0 := by omega
  by_cases unclassified : store.unclassified = true
  · rw [if_pos unclassified]
    intro failure failed apply
    have stored : store.database.store.planPrune retain = store.planPrune retain := rfl
    rw [pruneTicketStore]
    simp only [if_neg nonneg, schema, before, stored, failed, bind, Except.bind]
  · rw [if_neg unclassified] at planned ⊢
    have applied := applyPlan_eq linked sound retain
    have after : (store.restrictTo (store.keptTickets retain)).database.checkIntegrity = .ok () :=
      if_pos (restrictTo_foreignKeysHold linked (keptTickets_subset store retain))
    have ingests : (store.restrictTo (store.keptTickets retain)).database.snapshotIngests =
        store.database.snapshotIngests := rfl
    have stored : store.database.store.planPrune retain = store.planPrune retain := rfl
    have committed : store.database.pruneTransaction retain = .ok (store.keepingPlan retain,
        store.deletedRows ((store.keptTickets retain).map TicketRow.id).toFinset,
        (store.restrictTo (store.keptTickets retain)).database) := by
      rw [TicketDatabase.pruneTransaction]
      simp only [schema, before, stored, planned, applied, ingests, after, bind, Except.bind, ne_eq,
        not_true_eq_false, if_false]
      rfl
    rw [pruneTicketStore]
    simp only [if_neg nonneg, schema, before, stored, planned, committed, bind, Except.bind,
      if_true]

end

/-- In every store that calls build, pruning keeps exactly the first tickets, with the first
security test in place of the last one, and what belongs to them; unless a host write before the
first security test cannot be classified, which refuses every plan. -/
theorem prune_keeps_promise (platform : StorePlatform)
    (calls : List (CallContext ClockTime × StoreCall)) (retain : Nat) :
    ((TicketStore.after platform calls).unclassified = true ∧ ∃ ticketId,
      (TicketStore.after platform calls).planPrune retain = .error (.refused
        ("cannot classify host_modbus_write signal linked to ticket " ++ ticketId)) ∧
      ∀ apply, pruneTicketStore retain apply (TicketStore.after platform calls).database =
        (.error (.refused
          ("cannot classify host_modbus_write signal linked to ticket " ++ ticketId)),
          (TicketStore.after platform calls).database)) ∨
    ((TicketStore.after platform calls).unclassified = false ∧ ∃ plan deleted later,
      (TicketStore.after platform calls).planPrune retain = .ok plan ∧
      plan.keptTicketIds =
        (((TicketStore.after platform calls).keptTickets retain).map TicketRow.id).toFinset ∧
      later = (TicketStore.after platform calls).restrictTo
        ((TicketStore.after platform calls).keptTickets retain) ∧
      (TicketStore.after platform calls).database.applyPlan plan auditEventsNoDelete =
        .ok (deleted, later.database) ∧
      pruneTicketStore retain true (TicketStore.after platform calls).database =
        (.ok (plan, some deleted), later.database) ∧
      later.foreignKeysHold = true) := by
  have linked := TicketStore.linked_after platform calls
  have recorded : (TicketStore.after platform calls).Recorded := TicketStore.recorded_after calls
  have sound := recorded.sound
  generalize TicketStore.after platform calls = store at *
  have planned := planPrune_eq linked sound retain
  have run := pruneTicketStore_eq linked sound retain
  by_cases unclassified : store.unclassified = true
  · left
    rw [if_pos unclassified] at planned run
    obtain ⟨ticketId, failed⟩ := planned
    exact ⟨unclassified, ticketId, failed, run _ failed⟩
  · right
    rw [if_neg unclassified] at planned run
    refine ⟨Bool.eq_false_iff.mpr unclassified, store.keepingPlan retain, _,
      store.restrictTo (store.keptTickets retain), planned, rfl, rfl,
      applyPlan_eq linked sound retain, run, ?_⟩
    exact restrictTo_foreignKeysHold linked (keptTickets_subset store retain)

/-! ## A host write without a classification -/

/-- A host write without an event. -/
def hostSignal : SignalInput :=
  { shiftSignal (plainDigest '0') with signalType := hostOtSignalType }

/-- The host write behind its checks. -/
def hostChecked : CheckedSignal :=
  { shiftChecked (plainDigest '0') with signalType := hostOtSignalType }

/-- A host write is ingested and gets a ticket. -/
def hostCalls : List (CallContext ClockTime × StoreCall) :=
  [(noonContext calendarStart, .ingestSignals [hostSignal]),
    (noonContext calendarStart, .createTicketFromSignal
      ⟨signalIdOf (plainDigest '0'), "turno", "P3", none, none, none⟩)]

/-- The signal passes its checks. -/
theorem checkSignal_host : checkSignal textPlatform hostSignal = .ok hostChecked := by
  have plain : hostSignal.Plain textPlatform := by
    have shift := shiftSignal_plain zeros_isDigest
    exact {
      fingerprint := shift.fingerprint
      snapshotSha256 := shift.snapshotSha256
      signalType := requiredText_hostOtSignalType
      sourceId := shift.sourceId
      sourceRecordId := shift.sourceRecordId
      severity := shift.severity
      lowered := shift.lowered
      title := shift.title
      description := shift.description
      occurredAt := shift.occurredAt
      observedAt := shift.observedAt
      assetIds := shift.assetIds
      recommendedAction := shift.recommendedAction }
  rw [checkSignal_of_plain plain]
  simp [SignalInput.kept, hostSignal, shiftSignal, hostChecked, shiftChecked, evidenceText,
    jsonText, sortedDistinct]

/-- There is no plan for a host write without a classification. -/
theorem prune_keeps_promise_host :
    (TicketStore.after textPlatform hostCalls).planPrune 1 = .error (.refused
      "cannot classify host_modbus_write signal linked to ticket ticket:a") := by
  rw [TicketStore.after, hostCalls, List.foldl_cons, List.foldl_cons, List.foldl_nil,
    StoreCall.apply_ingestSignals checkSignal_host]
  decide

end DTLab
