import DTLab.Tickets.Links
import DTLab.Tickets.Service
import DTLab.Verif.TicketHistory

/-!
# The join of signals and tickets

The service reads the tickets that were updated last, as many as its limit, and joins them with the
signals in memory. The join and the counts are those over the whole store exactly when the limit
cuts no ticket off.
-/

namespace DTLab

open Library (Table.row? Table.Keyed)

/-! ## Lists of tickets -/

/-- A list of tickets without repeated signals finds the ticket of a signal, in whatever order it
was put. -/
theorem ticketBySignal_of_perm {tickets listed : List (TicketRow ClockTime)}
    (keyed : Table.Keyed TicketRow.signalId tickets) (perm : listed.Perm tickets)
    (signalId : String) :
    ticketBySignal listed signalId = Table.row? TicketRow.signalId tickets signalId := by
  rw [ticketBySignal]
  cases found : listed.reverse.find? fun ticket => decide (ticket.signalId = signalId) with
  | none =>
    symm
    rw [Library.Table.row?_eq_none]
    intro row member same
    have inside : row ∈ listed.reverse := List.mem_reverse.mpr (perm.mem_iff.mpr member)
    exact List.find?_eq_none.mp found row inside (decide_eq_true same)
  | some ticket =>
    have inside : ticket ∈ tickets :=
      perm.mem_iff.mp (List.mem_reverse.mp (List.mem_of_find?_eq_some found))
    have selected := List.find?_some found
    have same : ticket.signalId = signalId := of_decide_eq_true selected
    rw [← same]
    exact (Library.Table.row?_of_mem keyed inside).symm

/-- The counts that a join of the whole store and one of a list have in common. -/
structure TicketCounts.Agrees (counts all : TicketCounts) : Prop where
  active : counts.ticketsActive = all.ticketsActive
  p1p2 : counts.ticketsP1P2 = all.ticketsP1P2
  unowned : counts.ticketsUnowned = all.ticketsUnowned
  overdue : counts.slaOverdue = all.slaOverdue
  closed : counts.ticketsClosed = all.ticketsClosed

/-- The order of the tickets does not count. -/
theorem ticketCounts_perm (now : ClockTime) {first second : List (TicketRow ClockTime)}
    (perm : first.Perm second) : ticketCounts now first = ticketCounts now second := by
  have active := perm.filter TicketRow.active
  simp only [ticketCounts, active.length_eq, perm.length_eq, active.countP_eq,
    (perm.map fun ticket => deriveTicketSla ticket now).countP_eq]

/-- The active tickets and the closed ones are all. -/
theorem ticketCounts_total (now : ClockTime) (tickets : List (TicketRow ClockTime)) :
    (ticketCounts now tickets).ticketsActive + (ticketCounts now tickets).ticketsClosed =
      tickets.length :=
  Nat.add_sub_cancel' (List.length_filter_le _ tickets)

namespace TicketStore

variable {store : TicketStore ClockTime}

/-- A list of tickets is as long as the limit allows. -/
theorem length_listTickets (store : TicketStore ClockTime) (limit : Nat) :
    (store.listTickets limit).length = min limit store.tickets.length := by
  rw [listTickets, List.length_take, List.length_insertionSort]

/-- A list of tickets that the limit does not cut has all of them. -/
theorem listTickets_perm {limit : Nat} (few : store.tickets.length ≤ limit) :
    (store.listTickets limit).Perm store.tickets := by
  rw [listTickets, List.take_of_length_le]
  · exact List.perm_insertionSort _ _
  · rw [List.length_insertionSort]
    exact few

/-- The signals that are listed are in the store. -/
theorem mem_listSignals {limit : Nat} {signal : SignalRow ClockTime}
    (member : signal ∈ store.listSignals limit) : signal ∈ store.signals := by
  rw [listSignals] at member
  have joined := (List.mem_insertionSort _).mp (List.mem_of_mem_take member)
  obtain ⟨row, inside, copies⟩ := List.mem_flatMap.mp joined
  rw [List.eq_of_mem_replicate copies]
  exact inside

/-- The ticket of a signal that is there. -/
theorem Linked.getTicketForSignal (linked : store.Linked) {signal : SignalRow ClockTime}
    (member : signal ∈ store.signals) :
    store.getTicketForSignal signal.id = .ok (store.ticketOfSignal signal.id) := by
  have checked : requiredText "Signal ID" 128 signal.id = .ok signal.id :=
    requiredText_signalIdOf (linked.digests signal member)
  rw [TicketStore.getTicketForSignal, checked]
  rfl

end TicketStore

/-- An entry of `signals` says what `get_ticket_for_signal` returns. -/
structure EnrichedSignal.Exact (enriched : EnrichedSignal) (store : TicketStore ClockTime) :
    Prop where
  unassigned : enriched.ticketState = .unassigned ↔
    store.getTicketForSignal enriched.signal.id = .ok none
  ticketId : ∀ ticket, store.getTicketForSignal enriched.signal.id = .ok (some ticket) →
    enriched.ticketId = some ticket.id

/-- A signal that is joined with its own ticket is exact. -/
theorem enrich_exact {store : TicketStore ClockTime} {tickets : List (TicketRow ClockTime)}
    {signal : SignalRow ClockTime}
    (looked : store.getTicketForSignal signal.id = .ok (store.ticketOfSignal signal.id))
    (joined : ticketBySignal tickets signal.id = store.ticketOfSignal signal.id) :
    (enrich tickets signal).Exact store := by
  rw [enrich, joined]
  cases found : store.ticketOfSignal signal.id with
  | none =>
    rw [found] at looked
    constructor
    · exact iff_of_true rfl looked
    · intro ticket other
      rw [looked] at other
      cases other
  | some ticket =>
    rw [found] at looked
    constructor
    · have apart : (if needsReview signal (some ticket) then TicketState.resurfaced
          else .opened) ≠ .unassigned := by
        split_ifs <;> exact nofun
      apply iff_of_false apart
      rw [looked]
      exact nofun
    · intro other same
      rw [looked] at same
      obtain rfl := Option.some.inj (Except.ok.inj same)
      rfl

/-! ## A crowd of tickets -/

/-- The digest of a number. -/
def numberDigest (number : Nat) : String := String.ofList (Library.digits 64 number)

/-- The start of the calendar. -/
def calendarStart : ClockTime := ⟨⟨1, 1, 1, 0, 0, 0, 0⟩, by decide⟩

/-- What the calls for a finding read. -/
def crowdContext (number : Nat) : CallContext ClockTime where
  now := calendarStart
  calendar := .ok fun _ created => .ok created
  uuid _ := numberDigest number

/-- The finding of a number. -/
def crowdSignal (number : Nat) : SignalInput :=
  { shiftSignal (plainDigest '0') with fingerprint := numberDigest number }

/-- The finding behind its checks. -/
def crowdChecked (number : Nat) : CheckedSignal :=
  { shiftChecked (plainDigest '0') with fingerprint := numberDigest number }

/-- The creation of its ticket. -/
def crowdRequest (number : Nat) : TicketRequest :=
  ⟨signalIdOf (numberDigest number), "turno", "P3", none, none, none⟩

/-- Some findings, each of which gets a ticket. -/
def crowd (count : Nat) : List (CallContext ClockTime × StoreCall) :=
  (List.range count).flatMap fun number =>
    [(crowdContext number, .ingestSignals [crowdSignal number]),
      (crowdContext number, .createTicketFromSignal (crowdRequest number))]

theorem numberDigest_isDigest (number : Nat) :
    isDigestBody (numberDigest number).toList = true :=
  (congrArg isDigestBody String.toList_ofList).trans (isDigestBody_digits number)

theorem numberDigest_injective {first second : Nat} (firstSmall : first < 10 ^ 64)
    (secondSmall : second < 10 ^ 64) (same : numberDigest first = numberDigest second) :
    first = second := by
  have chars : Library.digits 64 first = Library.digits 64 second := String.ofList_injective same
  have read := Library.readDigits_small firstSmall []
  rw [chars, Library.readDigits_small secondSmall []] at read
  exact (congrArg Prod.fst (Option.some.inj read)).symm

theorem checkSignal_crowd (number : Nat) :
    checkSignal textPlatform (crowdSignal number) = .ok (crowdChecked number) := by
  have plain : (crowdSignal number).Plain textPlatform := by
    have shift := shiftSignal_plain zeros_isDigest
    exact {
      fingerprint := numberDigest_isDigest number
      snapshotSha256 := shift.snapshotSha256
      signalType := shift.signalType
      sourceId := shift.sourceId
      sourceRecordId := shift.sourceRecordId
      severity := shift.severity
      lowered := shift.lowered
      title := shift.title
      description := shift.description
      occurredAt := shift.occurredAt
      observedAt := shift.observedAt
      assetIds := shift.assetIds
      recommendedAction := shift.recommendedAction }
  rw [checkSignal_of_plain plain]
  simp [SignalInput.kept, crowdSignal, shiftSignal, crowdChecked, shiftChecked, evidenceText,
    jsonText, sortedDistinct]

/-- The checks of the creation of a ticket. -/
theorem checkRequest_crowd (number : Nat) :
    checkRequest textPlatform (crowdContext number) (crowdRequest number) [] =
      .ok (⟨signalIdOf (numberDigest number), "turno", .p3, none, calendarStart⟩, []) := by
  have signalId : requiredText "Signal ID" 128 (signalIdOf (numberDigest number)) = _ :=
    requiredText_signalIdOf (numberDigest_isDigest number)
  have actor : requiredText "Attore" 256 "turno" = .ok "turno" := by decide
  have priority : normalizePriority textPlatform "P3" = .ok .p3 := by decide
  rw [checkRequest, crowdRequest]
  simp only [signalId, actor, priority, bind, Except.bind]
  rfl

/-- The tickets of a store whose findings up to a number have one each. -/
structure Crowded (store : TicketStore ClockTime) (count : Nat) : Prop where
  ids : store.tickets.map TicketRow.id =
    (List.range count).map fun number => "ticket:" ++ numberDigest number
  signalIds : store.tickets.map TicketRow.signalId =
    (List.range count).map fun number => signalIdOf (numberDigest number)

/-- The next finding and its ticket. -/
theorem Crowded.next {store : TicketStore ClockTime} {count : Nat} (crowded : Crowded store count)
    (small : count < 10 ^ 64) :
    Crowded ((StoreCall.createTicketFromSignal (crowdRequest count)).apply textPlatform
      (crowdContext count) ((StoreCall.ingestSignals [crowdSignal count]).apply textPlatform
        (crowdContext count) store)) (count + 1) := by
  have ingested : (StoreCall.ingestSignals [crowdSignal count]).apply textPlatform
      (crowdContext count) store =
        (store.upsertChecked textPlatform calendarStart (crowdChecked count)).1 :=
    StoreCall.apply_ingestSignals (checkSignal_crowd count) (crowdContext count) store
  have only : store.SignalsOnly
      (store.upsertChecked textPlatform calendarStart (crowdChecked count)).1 :=
    TicketStore.upsertChecked_signalsOnly (crowdChecked count)
  have present : ((store.upsertChecked textPlatform calendarStart (crowdChecked count)).1.signalOf
      (numberDigest count)).isSome := TicketStore.isSome_signalOf_self
  rw [ingested]
  generalize (store.upsertChecked textPlatform calendarStart (crowdChecked count)).1 = later at *
  have tickets := only.tickets
  obtain ⟨signal, found⟩ := Option.isSome_iff_exists.mp present
  rw [TicketStore.signalOf_eq] at found
  have apart : ∀ number ∈ List.range count, numberDigest number ≠ numberDigest count := by
    intro number member same
    have below := List.mem_range.mp member
    have equal := numberDigest_injective (below.trans small) small same
    omega
  have unticketed : later.ticketOfSignal (signalIdOf (numberDigest count)) = none := by
    rw [TicketStore.ticketOfSignal, Library.Table.row?_eq_none, tickets]
    intro row member same
    have listed := List.mem_map_of_mem (f := TicketRow.signalId) member
    rw [crowded.signalIds] at listed
    obtain ⟨number, below, equal⟩ := List.mem_map.mp listed
    exact apart number below (signalIdOf_injective (equal.trans same))
  have fresh : ¬ (later.tickets.map TicketRow.id).contains
      ("ticket:" ++ numberDigest count) = true := by
    intro listed
    rw [List.contains_iff_mem, tickets, crowded.ids] at listed
    obtain ⟨number, below, equal⟩ := List.mem_map.mp listed
    have chars := congrArg String.toList equal
    rw [String.toList_append, String.toList_append, List.append_cancel_left_eq] at chars
    exact apart number below (String.toList_injective chars)
  have created : ∃ row : TicketRow ClockTime, row.id = "ticket:" ++ numberDigest count ∧
      row.signalId = signalIdOf (numberDigest count) ∧
      ((StoreCall.createTicketFromSignal (crowdRequest count)).apply textPlatform
        (crowdContext count) later).tickets = later.tickets ++ [row] := by
    have required : later.requireSignal (signalIdOf (numberDigest count)) = .ok signal :=
      TicketStore.requireSignal_eq_ok.mpr found
    refine ⟨⟨"ticket:" ++ numberDigest count, signalIdOf (numberDigest count), signal.title,
      signal.description, .new, .p3, none, "turno", calendarStart, calendarStart, calendarStart,
      none, none⟩, rfl, rfl, ?_⟩
    have title : optionalText 1024 (crowdRequest count).title = .ok none := rfl
    have description : optionalText 16384 (crowdRequest count).description = .ok none := rfl
    rw [StoreCall.apply, StoreCall.commit, TicketStore.createTicketFromSignal, checkRequest_crowd]
    simp only [bind, Except.bind, required, TicketStore.findOrCreateTicket, unticketed,
      TicketStore.createTicket, title, description]
    have inserted : ∀ row : TicketRow ClockTime, row.id = "ticket:" ++ numberDigest count →
        later.insertTicket row = .ok { later with tickets := later.tickets ++ [row] } := by
      intro row named
      rw [TicketStore.insertTicket, named, if_neg fresh]
    rw [inserted _ rfl]
    rfl
  obtain ⟨row, id, signalId, behind⟩ := created
  constructor
  · rw [behind, List.map_append, tickets, crowded.ids, List.map_singleton, id, List.range_succ,
      List.map_append]
    rfl
  · rw [behind, List.map_append, tickets, crowded.signalIds, List.map_singleton, signalId,
      List.range_succ, List.map_append]
    rfl

/-- A crowd has as many tickets as findings. -/
theorem crowded_after {count : Nat} (small : count ≤ 10 ^ 64) :
    Crowded (TicketStore.after textPlatform (crowd count)) count := by
  induction count with
  | zero => exact ⟨rfl, rfl⟩
  | succ count ih =>
    have calls : crowd (count + 1) = crowd count ++
        [(crowdContext count, .ingestSignals [crowdSignal count])] ++
          [(crowdContext count, .createTicketFromSignal (crowdRequest count))] := by
      rw [crowd, List.range_succ, List.flatMap_append, List.append_assoc]
      rfl
    have behind := (ih (Nat.le_of_succ_le small)).next small
    rw [calls, TicketStore.after_concat, TicketStore.after_concat]
    exact behind

/-- In every store that calls build, the join of the service and its counts are exact if and only
if there are no more tickets than its limit. -/
theorem service_exact_iff (platform : StorePlatform)
    (calls : List (CallContext ClockTime × StoreCall)) (now : ClockTime) :
    ((∀ enriched ∈ (TicketStore.after platform calls).serviceSignals,
        enriched.Exact (TicketStore.after platform calls)) ∧
      ((TicketStore.after platform calls).kpis now).tickets.Agrees
        (ticketCounts now (TicketStore.after platform calls).tickets)) ↔
    (TicketStore.after platform calls).tickets.length ≤ 1000 := by
  have recorded : (TicketStore.after platform calls).Recorded := TicketStore.recorded_after calls
  have linked := TicketStore.linked_after platform calls
  generalize TicketStore.after platform calls = store at *
  constructor
  · rintro ⟨_, agrees⟩
    have listed := ticketCounts_total now (store.listTickets serviceLimit)
    have all := ticketCounts_total now store.tickets
    have active : (ticketCounts now (store.listTickets serviceLimit)).ticketsActive =
        (ticketCounts now store.tickets).ticketsActive := agrees.active
    have closed : (ticketCounts now (store.listTickets serviceLimit)).ticketsClosed =
        (ticketCounts now store.tickets).ticketsClosed := agrees.closed
    rw [active, closed, all, store.length_listTickets] at listed
    exact le_of_eq_of_le listed (min_le_left _ _)
  · intro few
    have perm : (store.listTickets serviceLimit).Perm store.tickets :=
      TicketStore.listTickets_perm few
    constructor
    · intro enriched member
      obtain ⟨signal, listed, rfl⟩ := List.mem_map.mp member
      have looked := linked.getTicketForSignal (TicketStore.mem_listSignals listed)
      have exact' := enrich_exact looked
        (ticketBySignal_of_perm recorded.sound.signalIds perm signal.id)
      exact exact'
    · have same : ((store.kpis now).tickets) = ticketCounts now store.tickets :=
        ticketCounts_perm now perm
      rw [same]
      exact ⟨rfl, rfl, rfl, rfl, rfl⟩

/-- Of a thousand and one tickets the service misses one. -/
theorem service_exact_crowd :
    ¬ ((∀ enriched ∈ (TicketStore.after textPlatform (crowd 1001)).serviceSignals,
        enriched.Exact (TicketStore.after textPlatform (crowd 1001))) ∧
      ((TicketStore.after textPlatform (crowd 1001)).kpis calendarStart).tickets.Agrees
        (ticketCounts calendarStart (TicketStore.after textPlatform (crowd 1001)).tickets)) := by
  have crowded : Crowded (TicketStore.after textPlatform (crowd 1001)) 1001 :=
    crowded_after (by omega)
  have length := congrArg List.length crowded.ids
  rw [List.length_map, List.length_map, List.length_range] at length
  rw [service_exact_iff, length]
  decide

end DTLab
