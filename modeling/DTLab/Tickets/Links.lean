import DTLab.Tickets.Sightings

/-!
# What the rows refer to

In every store that calls build, the signal of each ticket and of each occurrence is there, and so
is the ticket of each comment, task and audit event. Each statement keeps this.
-/

namespace DTLab

open Library (Table.row? Table.update Table.Keyed)
open Library.Attempt (bind_eq_ok)

variable {τ : Type}

namespace TicketStore

/-- A signal has an id. -/
def HasSignal (store : TicketStore τ) (signalId : String) : Prop :=
  ∃ row ∈ store.signals, row.id = signalId

/-- Every row that another one refers to is there. -/
structure Linked (store : TicketStore τ) : Prop where
  keyed : Table.Keyed SignalRow.fingerprint store.signals
  digests : ∀ row ∈ store.signals, isDigestBody row.fingerprint.toList = true
  tickets : ∀ row ∈ store.tickets, store.HasSignal row.signalId
  occurrences : ∀ row ∈ store.occurrences, store.HasSignal row.signalId
  comments : ∀ row ∈ store.comments, (store.ticketOf row.ticketId).isSome
  tasks : ∀ row ∈ store.tasks, (store.ticketOf row.ticketId).isSome
  auditEvents : ∀ row ∈ store.auditEvents, (store.ticketOf row.ticketId).isSome

theorem linked_empty : (empty : TicketStore τ).Linked :=
  ⟨List.nodup_nil, nofun, nofun, nofun, nofun, nofun, nofun⟩

variable {platform : StorePlatform} {now : τ} {ingests : Prop} {store later : TicketStore τ}
  {signal : CheckedSignal}

/-- A signal has the id of its fingerprint. -/
theorem hasSignal_of_signalOf {fingerprint : String}
    (present : (store.signalOf fingerprint).isSome) : store.HasSignal (signalIdOf fingerprint) := by
  obtain ⟨row, found⟩ := Option.isSome_iff_exists.mp present
  refine ⟨row, Library.Table.mem_of_row? found, ?_⟩
  exact congrArg signalIdOf (Library.Table.key_of_row? found)

/-- A signal is found by its fingerprint. -/
theorem isSome_signalOf {row : SignalRow τ} (member : row ∈ store.signals) :
    (store.signalOf row.fingerprint).isSome := by
  rw [Option.isSome_iff_ne_none]
  intro none
  exact Library.Table.row?_eq_none.mp none row member rfl

/-- No signal is lost. -/
theorem isSome_signalOf_upsertChecked {fingerprint : String}
    (present : (store.signalOf fingerprint).isSome) :
    ((store.upsertChecked platform now signal).1.signalOf fingerprint).isSome := by
  obtain ⟨row, found⟩ := Option.isSome_iff_exists.mp present
  rw [signalOf_upsertChecked]
  split_ifs
  · rw [found]
    rfl
  · exact present

/-- A signal that was upserted is there. -/
theorem isSome_signalOf_self :
    ((store.upsertChecked platform now signal).1.signalOf signal.fingerprint).isSome := by
  rw [signalOf_upsertChecked]
  split_ifs with sights
  · cases store.signalOf signal.fingerprint with
    | none => rfl
    | some row => rfl
  · rw [Option.isSome_iff_ne_none]
    intro none
    apply sights
    refine ⟨rfl, ?_⟩
    rw [none]
    exact nofun

/-- The ids of signals stay. -/
theorem HasSignal.upsertChecked {signalId : String} (has : store.HasSignal signalId) :
    (store.upsertChecked platform now signal).1.HasSignal signalId := by
  obtain ⟨row, member, rfl⟩ := has
  exact hasSignal_of_signalOf (isSome_signalOf_upsertChecked (isSome_signalOf member))

/-- An upsert adds its own occurrence or none. -/
theorem mem_occurrences_upsertChecked {row : OccurrenceRow τ}
    (member : row ∈ (store.upsertChecked platform now signal).1.occurrences) :
    row ∈ store.occurrences ∨ row = signal.occurrence platform now := by
  have inserted : row ∈ insertOrIgnore store.occurrences (signal.occurrence platform now) →
      row ∈ store.occurrences ∨ row = signal.occurrence platform now := by
    intro inside
    rw [insertOrIgnore] at inside
    split_ifs at inside
    · exact Or.inl inside
    · rcases List.mem_append.mp inside with old | new
      · exact Or.inl old
      · exact Or.inr (List.mem_singleton.mp new)
  rw [TicketStore.upsertChecked] at member
  cases found : store.signalOf signal.fingerprint with
  | none =>
    rw [found] at member
    exact inserted member
  | some old =>
    rw [found] at member
    by_cases same : old.snapshotSha256 = signal.snapshotSha256
    · simp only [if_pos same] at member
      exact Or.inl member
    · simp only [if_neg same] at member
      split_ifs at member
      · exact inserted member
      · exact Or.inl member

/-- The fingerprints behind an upsert are those before it and the one of the signal. -/
theorem fingerprint_mem_upsertChecked {row : SignalRow τ}
    (member : row ∈ (store.upsertChecked platform now signal).1.signals) :
    (∃ old ∈ store.signals, old.fingerprint = row.fingerprint) ∨
      row.fingerprint = signal.fingerprint := by
  have present := isSome_signalOf member
  rw [signalOf_upsertChecked] at present
  split_ifs at present with sights
  · exact Or.inr sights.1.symm
  · obtain ⟨old, found⟩ := Option.isSome_iff_exists.mp present
    exact Or.inl ⟨old, Library.Table.mem_of_row? found, Library.Table.key_of_row? found⟩

/-- Every statement keeps the links. -/
theorem Linked.statement (linked : store.Linked)
    (statement : Statement platform now ingests store later) : later.Linked := by
  have still : ∀ ticketId, (store.ticketOf ticketId).isSome → (later.ticketOf ticketId).isSome :=
    fun _ => isSome_of_statement statement
  cases statement with
  | signalUpserted ingest input signal checked =>
    have only : store.SignalsOnly (store.upsertChecked platform now signal).1 :=
      upsertChecked_signalsOnly signal
    refine ⟨upsertChecked_keyed linked.keyed, ?_, ?_, ?_, ?_, ?_, ?_⟩
    · intro row member
      rcases fingerprint_mem_upsertChecked member with ⟨old, inside, same⟩ | own
      · rw [← same]
        exact linked.digests old inside
      · rw [own]
        have fields := checkSignal_fields checked
        exact (requiredDigest_eq_ok.mp fields.1).2.2
    · intro row member
      rw [only.tickets] at member
      exact (linked.tickets row member).upsertChecked
    · intro row member
      rcases mem_occurrences_upsertChecked member with old | rfl
      · exact (linked.occurrences row old).upsertChecked
      · exact hasSignal_of_signalOf isSome_signalOf_self
    · intro row member
      rw [only.comments] at member
      exact still _ (linked.comments row member)
    · intro row member
      rw [only.tasks] at member
      exact still _ (linked.tasks row member)
    · intro row member
      rw [only.auditEvents] at member
      exact still _ (linked.auditEvents row member)
  | snapshotIngested ingest row =>
    exact ⟨linked.keyed, linked.digests, linked.tickets, linked.occurrences, linked.comments,
      linked.tasks, linked.auditEvents⟩
  | ticketInserted row fresh unticketed signal =>
    refine ⟨linked.keyed, linked.digests, ?_, linked.occurrences,
      fun other member => still _ (linked.comments other member),
      fun other member => still _ (linked.tasks other member),
      fun other member => still _ (linked.auditEvents other member)⟩
    intro other member
    rcases List.mem_append.mp member with old | new
    · exact linked.tickets other old
    · rw [List.mem_singleton.mp new]
      obtain ⟨found, same⟩ := Option.isSome_iff_exists.mp signal
      exact ⟨found, Library.Table.mem_of_row? same, Library.Table.key_of_row? same⟩
  | ticketUpdated ticketId change keepsId keepsSignal =>
    refine ⟨linked.keyed, linked.digests, ?_, linked.occurrences,
      fun other member => still _ (linked.comments other member),
      fun other member => still _ (linked.tasks other member),
      fun other member => still _ (linked.auditEvents other member)⟩
    intro other member
    rcases Library.Table.mem_update.mp member with ⟨inside, _⟩ | ⟨before, inside, _, rfl⟩
    · exact linked.tickets other inside
    · rw [keepsSignal]
      exact linked.tickets before inside
  | audited ticketId actor action present =>
    refine ⟨linked.keyed, linked.digests, linked.tickets, linked.occurrences, linked.comments,
      linked.tasks, ?_⟩
    intro event member
    rcases List.mem_append.mp member with old | new
    · exact linked.auditEvents event old
    · rw [List.mem_singleton.mp new]
      exact present
  | commentInserted comment fresh present =>
    refine ⟨linked.keyed, linked.digests, linked.tickets, linked.occurrences, ?_, linked.tasks,
      linked.auditEvents⟩
    intro other member
    rcases List.mem_append.mp member with old | new
    · exact linked.comments other old
    · rw [List.mem_singleton.mp new]
      exact present
  | taskInserted task fresh present =>
    refine ⟨linked.keyed, linked.digests, linked.tickets, linked.occurrences, linked.comments, ?_,
      linked.auditEvents⟩
    intro other member
    rcases List.mem_append.mp member with old | new
    · exact linked.tasks other old
    · rw [List.mem_singleton.mp new]
      exact present
  | taskSet taskId status =>
    refine ⟨linked.keyed, linked.digests, linked.tickets, linked.occurrences, linked.comments, ?_,
      linked.auditEvents⟩
    intro other member
    rcases Library.Table.mem_update.mp member with ⟨inside, _⟩ | ⟨before, inside, _, rfl⟩
    · exact linked.tasks other inside
    · exact linked.tasks before inside

/-- Every store that calls build is linked. -/
theorem linked_after [DecidableEq τ] (platform : StorePlatform)
    (calls : List (CallContext τ × StoreCall)) : (after platform calls).Linked :=
  after_invariant linked_empty (fun _ _ _ _ linked statement => linked.statement statement) calls

end TicketStore

end DTLab
