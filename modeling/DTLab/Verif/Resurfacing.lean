import DTLab.Tickets.Links
import DTLab.Tickets.Service
import DTLab.Verif.ServiceJoin

/-!
# Resurfaced signals

A signal needs a review again when it changed behind the decision on its ticket. The user interface
compares the instants, the service of the API their texts; the two agree exactly when the change
and the decision are not in one second with exactly one of them without microseconds.
-/

namespace DTLab

open Library (DateTime readTimestamp)
open SignalLedger (rowBehind rowOf rowOf_concat rowBehind_none rowBehind_some)

/-! ## The last change -/

section

variable {τ : Type} {platform : StorePlatform}

/-- The payload that a signal was seen with last, and since when, behind one more sighting. -/
def changeBehind (platform : StorePlatform) (last : Option (String × τ)) (sighting : Sighting τ) :
    Option (String × τ) :=
  let hash := payloadHash platform sighting.signal.payload
  match last with
  | none => some (hash, sighting.now)
  | some (before, changedAt) =>
    some (hash, if hash = before then changedAt else sighting.now)

/-- When a signal changed last in what it says: the instant of its last sighting with another
payload than the one before it. -/
def lastChange (platform : StorePlatform) (sightings : List (Sighting τ)) : Option τ :=
  (sightings.foldl (changeBehind platform) none).map Prod.snd

/-- The row keeps the payload that was seen last and since when. -/
theorem foldl_changeBehind (platform : StorePlatform) (sightings : List (Sighting τ)) :
    sightings.foldl (changeBehind platform) none =
      (rowOf platform sightings).map fun row =>
        (payloadHash platform row.payload, row.updatedAt) := by
  induction sightings using List.reverseRecOn with
  | nil => rfl
  | append_singleton sightings sighting ih =>
    rw [List.foldl_append, List.foldl_cons, List.foldl_nil, ih, rowOf_concat]
    cases rowOf platform sightings with
    | none => rfl
    | some row =>
      rw [rowBehind_some]
      by_cases same : payloadHash platform sighting.signal.payload =
        payloadHash platform row.payload
      · simp [changeBehind, CheckedSignal.updatedRow, same]
      · simp [changeBehind, CheckedSignal.updatedRow, same]

/-- A row was updated when its signal changed last. -/
theorem lastChange_eq {sightings : List (Sighting τ)} {row : SignalRow τ}
    (found : rowOf platform sightings = some row) :
    lastChange platform sightings = some row.updatedAt := by
  rw [lastChange, foldl_changeBehind, found]
  rfl

end

/-! ## Reviews -/

/-- There is no ticket, or its decision is earlier than the change. -/
def Resurfaced (ticket : Option (TicketRow ClockTime)) (changed : ClockTime) : Prop :=
  ticket = none ∨ ∃ row decision, ticket = some row ∧ row.status ∈ TicketStatus.decided ∧
    row.decisionAt = some decision ∧ decision.instant < changed.instant

/-- The decision on a ticket and the change are in one second, and exactly one of them has no
microseconds. -/
def Misrendered (ticket : Option (TicketRow ClockTime)) (changed : ClockTime) : Prop :=
  ∃ row decision, ticket = some row ∧ row.status ∈ TicketStatus.decided ∧
    row.decisionAt = some decision ∧ DateTime.Misordered decision.1 changed.1

variable {signal : SignalRow ClockTime} {ticket : Option (TicketRow ClockTime)}

/-- A decision that a review depends on. -/
theorem decision_cases (ticket : Option (TicketRow ClockTime)) :
    ticket = none ∨ (∃ row decision, ticket = some row ∧ row.status ∈ TicketStatus.decided ∧
      row.decisionAt = some decision) ∨
    ∃ row, ticket = some row ∧
      (row.status ∉ TicketStatus.decided ∨ row.decisionAt = none) := by
  cases ticket with
  | none => exact Or.inl rfl
  | some row =>
    right
    by_cases decided : row.status ∈ TicketStatus.decided
    · cases stamped : row.decisionAt with
      | none => exact Or.inr ⟨row, rfl, Or.inr stamped⟩
      | some decision => exact Or.inl ⟨row, decision, rfl, decided, stamped⟩
    · exact Or.inr ⟨row, rfl, Or.inl decided⟩

/-- A review that depends on a decision compares the texts. -/
theorem needsReview_decided {row : TicketRow ClockTime} {decision : ClockTime}
    (persistent : signal.signalType ∈ persistentTypes) (decided : row.status ∈ TicketStatus.decided)
    (stamped : row.decisionAt = some decision) :
    needsReview signal (some row) = decide (decision.text < signal.updatedAt.text) := by
  simp only [needsReview, decided, persistent, not_true_eq_false, if_false, stamped]

/-- The user interface compares the instants. -/
theorem signalNeedsReview_decided {toDatetime : String → Option Int}
    (parses : ∀ time : ClockTime, toDatetime time.text = some time.instant)
    {row : TicketRow ClockTime} {decision : ClockTime}
    (persistent : signal.signalType ∈ persistentTypes) (decided : row.status ∈ TicketStatus.decided)
    (stamped : row.decisionAt = some decision) :
    signalNeedsReview toDatetime signal (some row) =
      decide (decision.instant < signal.updatedAt.instant) := by
  simp only [signalNeedsReview, decided, persistent, not_true_eq_false, if_false, stamped,
    Option.bind_some, parses]

/-- Without a decision there is nothing to review. -/
theorem needsReview_undecided (toDatetime : String → Option Int) {row : TicketRow ClockTime}
    (open' : row.status ∉ TicketStatus.decided ∨ row.decisionAt = none) :
    needsReview signal (some row) = false ∧
      signalNeedsReview toDatetime signal (some row) = false := by
  rcases open' with undecided | unstamped
  · simp [needsReview, signalNeedsReview, undecided]
  · simp [needsReview, signalNeedsReview, unstamped]

/-- Neither resurfaces a ticket without a decision, nor can it be misrendered. -/
theorem not_resurfaced_of_undecided {row : TicketRow ClockTime} (changed : ClockTime)
    (open' : row.status ∉ TicketStatus.decided ∨ row.decisionAt = none) :
    ¬ Resurfaced (some row) changed ∧ ¬ Misrendered (some row) changed := by
  have none : ∀ other decision, some row = some other → other.status ∈ TicketStatus.decided →
      other.decisionAt = some decision → False := by
    intro other decision same decided stamped
    obtain rfl := Option.some.inj same
    rcases open' with undecided | unstamped
    · exact undecided decided
    · rw [unstamped] at stamped
      cases stamped
  constructor
  · rintro (absent | ⟨other, decision, same, decided, stamped, _⟩)
    · cases absent
    · exact none other decision same decided stamped
  · rintro ⟨other, decision, same, decided, stamped, _⟩
    exact none other decision same decided stamped

/-- What resurfaces and what is misrendered where there is a decision. -/
theorem resurfaced_decided {row : TicketRow ClockTime} {decision : ClockTime}
    (changed : ClockTime) (decided : row.status ∈ TicketStatus.decided)
    (stamped : row.decisionAt = some decision) :
    (Resurfaced (some row) changed ↔ decision.instant < changed.instant) ∧
      (Misrendered (some row) changed ↔ DateTime.Misordered decision.1 changed.1) := by
  constructor
  · constructor
    · rintro (absent | ⟨other, at_, same, _, found, before⟩)
      · cases absent
      · obtain rfl := Option.some.inj same
        rw [stamped] at found
        obtain rfl := Option.some.inj found
        exact before
    · intro before
      exact Or.inr ⟨row, decision, rfl, decided, stamped, before⟩
  · constructor
    · rintro ⟨other, at_, same, _, found, apart⟩
      obtain rfl := Option.some.inj same
      rw [stamped] at found
      obtain rfl := Option.some.inj found
      exact apart
    · intro apart
      exact ⟨row, decision, rfl, decided, stamped, apart⟩

/-- The texts of two readings are ordered as the readings unless they are misordered. -/
theorem ClockTime.text_lt_iff (left right : ClockTime) :
    (left.text < right.text ↔ left.instant < right.instant) ↔
      ¬ DateTime.Misordered left.1 right.1 := by
  rw [ClockTime.text, ClockTime.text, String.lt_iff, String.toList_ofList, String.toList_ofList]
  exact DateTime.utcText_lt_iff_instant left.2 right.2

/-- The user interface is right about every persistent condition. -/
theorem signalNeedsReview_iff (ticket : Option (TicketRow ClockTime))
    {toDatetime : String → Option Int}
    (parses : ∀ time : ClockTime, toDatetime time.text = some time.instant)
    (persistent : signal.signalType ∈ persistentTypes) :
    signalNeedsReview toDatetime signal ticket = true ↔ Resurfaced ticket signal.updatedAt := by
  rcases decision_cases ticket with rfl | ⟨row, decision, rfl, decided, stamped⟩ |
    ⟨row, rfl, open'⟩
  · exact iff_of_true rfl (Or.inl rfl)
  · rw [signalNeedsReview_decided parses persistent decided stamped, decide_eq_true_eq,
      (resurfaced_decided signal.updatedAt decided stamped).1]
  · rw [(needsReview_undecided toDatetime open').2]
    exact iff_of_false Bool.false_ne_true (not_resurfaced_of_undecided _ open').1

/-- The service is right about a persistent condition unless its texts mislead it. -/
theorem needsReview_iff (ticket : Option (TicketRow ClockTime))
    (persistent : signal.signalType ∈ persistentTypes) :
    (needsReview signal ticket = true ↔ Resurfaced ticket signal.updatedAt) ↔
      ¬ Misrendered ticket signal.updatedAt := by
  rcases decision_cases ticket with rfl | ⟨row, decision, rfl, decided, stamped⟩ |
    ⟨row, rfl, open'⟩
  · apply iff_of_true (iff_of_true rfl (Or.inl rfl))
    rintro ⟨row, decision, same, _⟩
    cases same
  · have both := resurfaced_decided signal.updatedAt decided stamped
    rw [needsReview_decided persistent decided stamped, decide_eq_true_eq, both.1, both.2]
    exact decision.text_lt_iff signal.updatedAt
  · have neither := not_resurfaced_of_undecided signal.updatedAt open'
    rw [(needsReview_undecided (fun _ => none) open').1]
    exact iff_of_true (iff_of_false Bool.false_ne_true neither.1) neither.2

/-! ## A change in the second of the decision -/

/-- A reading of the clock without microseconds. -/
def decisionTime : ClockTime := ⟨⟨2026, 1, 1, 12, 0, 5, 0⟩, by decide⟩

/-- A reading of the clock a microsecond later. -/
def changeTime : ClockTime := ⟨⟨2026, 1, 1, 12, 0, 5, 1⟩, by decide⟩

/-- What a call reads at a time. -/
def noonContext (now : ClockTime) : CallContext ClockTime where
  now := now
  calendar := .ok fun _ created => .ok created
  uuid _ := "a"

/-- A finding gets a ticket, which is suppressed, and changes a microsecond later. -/
def noonCalls : List (CallContext ClockTime × StoreCall) :=
  [(noonContext calendarStart, .ingestSignals [payloadSignal (plainDigest '0') []]),
    (noonContext calendarStart, .createTicketFromSignal
      ⟨signalIdOf (plainDigest '0'), "turno", "P3", none, none, none⟩),
    (noonContext decisionTime, .transitionTicket "ticket:a" "suppressed" "turno"
      (some "noto")),
    (noonContext changeTime, .ingestSignals
      [payloadSignal (plainDigest '1') [("stato", .str "aperto")]])]

/-- The store behind the calls. -/
theorem after_noon : TicketStore.after textPlatform noonCalls =
    (((StoreCall.transitionTicket "ticket:a" "suppressed" "turno" (some "noto")).apply textPlatform
      (noonContext decisionTime)
        ((StoreCall.createTicketFromSignal
          ⟨signalIdOf (plainDigest '0'), "turno", "P3", none, none, none⟩).apply textPlatform
            (noonContext calendarStart)
              (TicketStore.empty.upsertChecked textPlatform calendarStart
                (payloadChecked (plainDigest '0') [])).1)).upsertChecked textPlatform
                  changeTime
                    (payloadChecked (plainDigest '1') [("stato", .str "aperto")])).1 := by
  have ones : isDigestBody (plainDigest '1').toList = true :=
    plainDigest_isDigest (by decide)
  have first := checkSignal_payload [] zeros_isDigest
  have second := checkSignal_payload [("stato", .str "aperto")] ones
  rw [TicketStore.after, noonCalls, List.foldl_cons, List.foldl_cons, List.foldl_cons,
    List.foldl_cons, List.foldl_nil, StoreCall.apply_ingestSignals first,
    StoreCall.apply_ingestSignals second]
  rfl

/-- The finding that changed: the service takes the change for an earlier one. -/
theorem noon_review : ∃ row ∈ (TicketStore.after textPlatform noonCalls).signals,
    row.signalType ∈ persistentTypes ∧
    needsReview row ((TicketStore.after textPlatform noonCalls).ticketOfSignal row.id) = false ∧
    signalNeedsReview (fun text => readTimestamp text.toList) row
      ((TicketStore.after textPlatform noonCalls).ticketOfSignal row.id) = true := by
  rw [after_noon]
  decide

/-- In every store that calls build, the two front ends agree on the review of a persistent
condition and are right about it if and only if its ticket is not misrendered. -/
theorem resurfacing_chronological_iff (platform : StorePlatform)
    (toDatetime : String → Option Int)
    (parses : ∀ time : ClockTime, toDatetime time.text = some time.instant)
    (calls : List (CallContext ClockTime × StoreCall)) (row : SignalRow ClockTime)
    (member : row ∈ (TicketStore.after platform calls).signals)
    (persistent : row.signalType ∈ persistentTypes) :
    ∃ changed, lastChange platform (observationsOf platform calls row.fingerprint) = some changed ∧
      ((needsReview row ((TicketStore.after platform calls).ticketOfSignal row.id) =
          signalNeedsReview toDatetime row
            ((TicketStore.after platform calls).ticketOfSignal row.id) ∧
        (needsReview row ((TicketStore.after platform calls).ticketOfSignal row.id) = true ↔
          Resurfaced ((TicketStore.after platform calls).ticketOfSignal row.id) changed)) ↔
      ¬ Misrendered ((TicketStore.after platform calls).ticketOfSignal row.id) changed) := by
  have linked := TicketStore.linked_after platform calls
  have found : (TicketStore.after platform calls).signalOf row.fingerprint = some row :=
    Library.Table.row?_of_mem linked.keyed member
  rw [signalOf_after] at found
  refine ⟨row.updatedAt, lastChange_eq found, ?_⟩
  generalize (TicketStore.after platform calls).ticketOfSignal row.id = ticket
  have interface := signalNeedsReview_iff ticket parses persistent
  have service := needsReview_iff ticket persistent
  rw [← service]
  constructor
  · intro both
    exact both.2
  · intro right
    have same : needsReview row ticket = signalNeedsReview toDatetime row ticket := by
      rw [Bool.eq_iff_iff, right, interface]
    exact ⟨same, right⟩

/-- The review of the finding that changed at noon. -/
theorem resurfacing_chronological_noon :
    ∃ row ∈ (TicketStore.after textPlatform noonCalls).signals, ∃ changed,
      lastChange textPlatform (observationsOf textPlatform noonCalls row.fingerprint) =
        some changed ∧
      ((needsReview row ((TicketStore.after textPlatform noonCalls).ticketOfSignal row.id) =
          signalNeedsReview (fun text => readTimestamp text.toList) row
            ((TicketStore.after textPlatform noonCalls).ticketOfSignal row.id) ∧
        (needsReview row ((TicketStore.after textPlatform noonCalls).ticketOfSignal row.id) =
            true ↔
          Resurfaced ((TicketStore.after textPlatform noonCalls).ticketOfSignal row.id)
            changed)) ↔
      ¬ Misrendered ((TicketStore.after textPlatform noonCalls).ticketOfSignal row.id)
        changed) := by
  obtain ⟨row, member, persistent, _⟩ := noon_review
  have parses : ∀ time : ClockTime,
      readTimestamp time.text.toList = some time.instant := by
    intro time
    rw [ClockTime.text, String.toList_ofList]
    exact Library.readTimestamp_utcText time.2
  exact ⟨row, member, resurfacing_chronological_iff textPlatform _ parses noonCalls row member
    persistent⟩

/-- The two front ends disagree about a finding that changed a microsecond after the decision. -/
theorem resurfacing_chronological_split :
    ∃ row ∈ (TicketStore.after textPlatform noonCalls).signals,
      row.signalType ∈ persistentTypes ∧
      needsReview row ((TicketStore.after textPlatform noonCalls).ticketOfSignal row.id) ≠
        signalNeedsReview (fun text => readTimestamp text.toList) row
          ((TicketStore.after textPlatform noonCalls).ticketOfSignal row.id) := by
  obtain ⟨row, member, persistent, service, interface⟩ := noon_review
  refine ⟨row, member, persistent, ?_⟩
  rw [service, interface]
  exact Bool.false_ne_true

end DTLab
