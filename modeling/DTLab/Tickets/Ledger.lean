import DTLab.Tickets.Signals

/-!
# The ledger of a signal

What the store keeps of one signal, its row and its occurrences, is a function of the sightings
of its fingerprint: one for each committed snapshot that has it, the first signal of the snapshot
with it. `SignalLedger.observe` adds one sighting. The store refines this: a batch adds one
sighting to the ledger of each fingerprint in it, and a batch that fails or repeats adds none.
-/

namespace DTLab

open Library (Table.row? Table.update Table.Keyed)
open Library.Attempt (bind_eq_ok exists_of_mem_mapM)

variable {τ : Type} (platform : StorePlatform)

/-! ## Sightings -/

/-- A signal that was observed, with the instant of the call. -/
structure Sighting (τ : Type) where
  signal : CheckedSignal
  now : τ

/-- What is stored of one signal. -/
@[ext] structure SignalLedger (τ : Type) where
  row : Option (SignalRow τ)
  occurrences : List (OccurrenceRow τ)

namespace SignalLedger

/-- One sighting more: an occurrence is recorded when the payload differs from the last one. -/
def observe (ledger : SignalLedger τ) (sighting : Sighting τ) : SignalLedger τ :=
  match ledger.row with
  | none =>
    ⟨some (sighting.signal.insertedRow sighting.now),
      ledger.occurrences ++ [sighting.signal.occurrence platform sighting.now]⟩
  | some row =>
    let changed := payloadHash platform sighting.signal.payload != payloadHash platform row.payload
    ⟨some (sighting.signal.updatedRow changed sighting.now row),
      if changed then ledger.occurrences ++ [sighting.signal.occurrence platform sighting.now]
      else ledger.occurrences⟩

/-- The ledger of a list of sightings. -/
def of (sightings : List (Sighting τ)) : SignalLedger τ :=
  sightings.foldl (observe platform) ⟨none, []⟩

theorem of_concat (sightings : List (Sighting τ)) (sighting : Sighting τ) :
    of platform (sightings ++ [sighting]) = (of platform sightings).observe platform sighting := by
  rw [of, List.foldl_append]
  rfl

/-- Nothing in a ledger is of a snapshot. -/
structure Before (ledger : SignalLedger τ) (digest : String) : Prop where
  row : ∀ row ∈ ledger.row, row.snapshotSha256 ≠ digest
  occurrences : ∀ occurrence ∈ ledger.occurrences, occurrence.snapshotSha256 ≠ digest

variable {platform} {ledger : SignalLedger τ} {sighting : Sighting τ} {row : SignalRow τ}

/-- The first sighting of a signal. -/
theorem observe_none (absent : ledger.row = none) : ledger.observe platform sighting =
    ⟨some (sighting.signal.insertedRow sighting.now),
      ledger.occurrences ++ [sighting.signal.occurrence platform sighting.now]⟩ := by
  rw [observe, absent]

/-- A sighting with the payload that was last seen. -/
theorem observe_same (found : ledger.row = some row)
    (same : payloadHash platform sighting.signal.payload = payloadHash platform row.payload) :
    ledger.observe platform sighting =
      ⟨some (sighting.signal.updatedRow false sighting.now row), ledger.occurrences⟩ := by
  simp only [observe, found, same, bne_self_eq_false, Bool.false_eq_true, if_false]

/-- A sighting with another payload. -/
theorem observe_changed (found : ledger.row = some row)
    (changed : payloadHash platform sighting.signal.payload ≠ payloadHash platform row.payload) :
    ledger.observe platform sighting =
      ⟨some (sighting.signal.updatedRow true sighting.now row),
        ledger.occurrences ++ [sighting.signal.occurrence platform sighting.now]⟩ := by
  simp only [observe, found, bne_iff_ne.mpr changed, if_true]

/-- The three kinds of sightings: the first one, one that changes the payload, and one that does
not. -/
theorem observe_cases (platform : StorePlatform) (ledger : SignalLedger τ) (sighting : Sighting τ) :
    (ledger.row = none ∧ ledger.observe platform sighting =
      ⟨some (sighting.signal.insertedRow sighting.now),
        ledger.occurrences ++ [sighting.signal.occurrence platform sighting.now]⟩) ∨
    (∃ row, ledger.row = some row ∧
      payloadHash platform sighting.signal.payload ≠ payloadHash platform row.payload ∧
      ledger.observe platform sighting = ⟨some (sighting.signal.updatedRow true sighting.now row),
        ledger.occurrences ++ [sighting.signal.occurrence platform sighting.now]⟩) ∨
    ∃ row, ledger.row = some row ∧
      payloadHash platform sighting.signal.payload = payloadHash platform row.payload ∧
      ledger.observe platform sighting =
        ⟨some (sighting.signal.updatedRow false sighting.now row), ledger.occurrences⟩ := by
  cases found : ledger.row with
  | none => exact Or.inl ⟨rfl, observe_none found⟩
  | some row =>
    by_cases same : payloadHash platform sighting.signal.payload = payloadHash platform row.payload
    · exact Or.inr (Or.inr ⟨row, rfl, same, observe_same found same⟩)
    · exact Or.inr (Or.inl ⟨row, rfl, same, observe_changed found same⟩)

/-- Behind a sighting there is a row with its snapshot and its payload. -/
theorem observe_row (platform : StorePlatform) (ledger : SignalLedger τ) (sighting : Sighting τ) :
    ∃ row, (ledger.observe platform sighting).row = some row ∧
      row.snapshotSha256 = sighting.signal.snapshotSha256 ∧
      row.payload = sighting.signal.payload := by
  rcases observe_cases platform ledger sighting with
    ⟨_, same⟩ | ⟨row, _, _, same⟩ | ⟨row, _, _, same⟩ <;> rw [same] <;> exact ⟨_, rfl, rfl, rfl⟩

/-- A sighting adds its own occurrence or none. -/
theorem observe_occurrences (platform : StorePlatform) (ledger : SignalLedger τ)
    (sighting : Sighting τ) :
    (ledger.observe platform sighting).occurrences =
        ledger.occurrences ++ [sighting.signal.occurrence platform sighting.now] ∨
      (ledger.observe platform sighting).occurrences = ledger.occurrences := by
  rcases observe_cases platform ledger sighting with
    ⟨_, same⟩ | ⟨row, _, _, same⟩ | ⟨row, _, _, same⟩ <;> rw [same]
  · exact Or.inl rfl
  · exact Or.inl rfl
  · exact Or.inr rfl

/-- What is in the ledger of sightings is of the snapshot of one of them. -/
theorem of_before {sightings : List (Sighting τ)} {digest : String}
    (others : ∀ sighting ∈ sightings, sighting.signal.snapshotSha256 ≠ digest) :
    (of platform sightings).Before digest := by
  induction sightings using List.reverseRecOn with
  | nil =>
    constructor
    · intro row member
      cases member
    · intro occurrence member
      cases member
  | append_singleton sightings sighting ih =>
    have before := ih fun other member => others other (List.mem_append_left [sighting] member)
    have last : sighting.signal.snapshotSha256 ≠ digest :=
      others sighting (List.mem_append_right sightings List.mem_cons_self)
    rw [of_concat]
    constructor
    · intro row member
      obtain ⟨found, same, snapshot, _⟩ :=
        observe_row platform (of platform sightings) sighting
      rw [Option.mem_def, same] at member
      obtain rfl := Option.some.inj member
      rw [snapshot]
      exact last
    · intro occurrence member
      rcases observe_occurrences platform (of platform sightings) sighting with
        added | kept
      · rw [added] at member
        rcases List.mem_append.mp member with inside | new
        · exact before.occurrences occurrence inside
        · rw [List.mem_singleton.mp new]
          exact last
      · rw [kept] at member
        exact before.occurrences occurrence member

end SignalLedger

/-! ## One signal -/

theorem signalIdOf_injective : Function.Injective signalIdOf := by
  intro left right same
  have chars := congrArg String.toList same
  rw [signalIdOf, signalIdOf, String.toList_append, String.toList_append,
    List.append_cancel_left_eq] at chars
  exact String.toList_injective chars

namespace TicketStore

/-- The occurrences of a signal, from the oldest to the newest. -/
def occurrencesOf (store : TicketStore τ) (signalId : String) : List (OccurrenceRow τ) :=
  store.occurrences.filter fun occurrence => occurrence.signalId = signalId

/-- What a store keeps of the signal with a fingerprint. -/
def ledger (store : TicketStore τ) (fingerprint : String) : SignalLedger τ where
  row := store.signalOf fingerprint
  occurrences := store.occurrencesOf (signalIdOf fingerprint)

/-- The row of a fingerprint is the row of its id. -/
theorem signalOf_eq (store : TicketStore τ) (fingerprint : String) :
    store.signalOf fingerprint =
      Table.row? SignalRow.id store.signals (signalIdOf fingerprint) := by
  have same : (fun row : SignalRow τ => decide (row.fingerprint = fingerprint)) =
      fun row => decide (row.id = signalIdOf fingerprint) := by
    funext row
    rw [decide_eq_decide]
    exact ⟨congrArg signalIdOf, fun equal => signalIdOf_injective equal⟩
  rw [signalOf, Table.row?, Table.row?, same]

variable {platform} {store : TicketStore τ} {now : τ} {signal : CheckedSignal}

/-- An occurrence of a signal among those of another one. -/
theorem filter_insertOrIgnore_ne (platform : StorePlatform) (store : TicketStore τ) (now : τ)
    {fingerprint : String} (different : fingerprint ≠ signal.fingerprint) :
    ((insertOrIgnore store.occurrences (signal.occurrence platform now)).filter
      fun occurrence => occurrence.signalId = signalIdOf fingerprint) =
      (store.ledger fingerprint).occurrences := by
  have apart : (signal.occurrence platform now).signalId ≠ signalIdOf fingerprint :=
    fun same => different (signalIdOf_injective same).symm
  rw [insertOrIgnore]
  split_ifs
  · rfl
  · rw [List.filter_append, List.filter_singleton, decide_eq_false apart]
    exact List.append_nil _

/-- An occurrence of a snapshot that its signal was not seen in is recorded. -/
theorem filter_insertOrIgnore_self (platform : StorePlatform) (now : τ)
    (before : (store.ledger signal.fingerprint).Before signal.snapshotSha256) :
    ((insertOrIgnore store.occurrences (signal.occurrence platform now)).filter
      fun occurrence => occurrence.signalId = signalIdOf signal.fingerprint) =
      (store.ledger signal.fingerprint).occurrences ++ [signal.occurrence platform now] := by
  have absent : ¬ (store.occurrences.map OccurrenceRow.key).contains
      (signal.occurrence platform now).key = true := by
    intro present
    obtain ⟨occurrence, member, same⟩ := List.mem_map.mp (List.contains_iff_mem.mp present)
    obtain ⟨signalId, rest⟩ := Prod.mk.inj same
    obtain ⟨snapshot, _⟩ := Prod.mk.inj rest
    have inside : occurrence ∈ (store.ledger signal.fingerprint).occurrences :=
      List.mem_filter.mpr ⟨member, decide_eq_true signalId⟩
    exact before.occurrences occurrence inside snapshot
  have own : (signal.occurrence platform now).signalId = signalIdOf signal.fingerprint := rfl
  rw [insertOrIgnore, if_neg absent, List.filter_append, List.filter_singleton, decide_eq_true own]
  rfl

/-- The rows of a fingerprint behind an update of the row of a signal. -/
theorem row?_update_signal (store : TicketStore τ) (signal : CheckedSignal)
    (change : SignalRow τ → SignalRow τ)
    (keeps : ∀ row, (change row).fingerprint = row.fingerprint) (fingerprint : String) :
    Table.row? SignalRow.fingerprint
        (Table.update SignalRow.id (signalIdOf signal.fingerprint) change store.signals)
        fingerprint =
      if fingerprint = signal.fingerprint then (store.signalOf fingerprint).map change
      else store.signalOf fingerprint := by
  have same : Table.update SignalRow.id (signalIdOf signal.fingerprint) change store.signals =
      Table.update SignalRow.fingerprint signal.fingerprint change store.signals := by
    apply List.map_congr_left
    intro row _
    have iff : row.id = signalIdOf signal.fingerprint ↔ row.fingerprint = signal.fingerprint :=
      ⟨fun equal => signalIdOf_injective equal, congrArg signalIdOf⟩
    simp only [iff]
  rw [same]
  by_cases own : fingerprint = signal.fingerprint
  · subst own
    rw [if_pos rfl]
    exact Library.Table.row?_update_self keeps store.signals signal.fingerprint
  · rw [if_neg own]
    exact Library.Table.row?_update_ne keeps store.signals own

/-- A signal does not touch the ledgers of the others. -/
theorem ledger_upsertChecked_ne {fingerprint : String}
    (different : fingerprint ≠ signal.fingerprint) :
    (store.upsertChecked platform now signal).1.ledger fingerprint = store.ledger fingerprint := by
  have occurrences := filter_insertOrIgnore_ne platform store now different
  rw [upsertChecked]
  split
  · have row : Table.row? SignalRow.fingerprint (store.signals ++ [signal.insertedRow now])
        fingerprint = store.signalOf fingerprint :=
      Library.Table.row?_append_ne store.signals (Ne.symm different)
    exact SignalLedger.ext row occurrences
  · split_ifs with repeated
    · rfl
    · have row := fun changed => row?_update_signal store signal (signal.updatedRow changed now)
        (fun _ => rfl) fingerprint
      simp only [if_neg different] at row
      apply SignalLedger.ext (row _)
      show List.filter _ (if _ then _ else _) = _
      split_ifs
      · exact occurrences
      · rfl

/-- The first signal of a snapshot with a fingerprint is a sighting. -/
theorem ledger_upsertChecked_self
    (before : (store.ledger signal.fingerprint).Before signal.snapshotSha256) :
    (store.upsertChecked platform now signal).1.ledger signal.fingerprint =
      (store.ledger signal.fingerprint).observe platform ⟨signal, now⟩ := by
  have occurrences := filter_insertOrIgnore_self platform now before
  rw [upsertChecked]
  cases found : store.signalOf signal.fingerprint with
  | none =>
    have fresh : Table.row? SignalRow.fingerprint store.signals
        (signal.insertedRow now).fingerprint = none := found
    rw [SignalLedger.observe_none found]
    exact SignalLedger.ext (Library.Table.row?_append_new fresh) occurrences
  | some row =>
    have other : row.snapshotSha256 ≠ signal.snapshotSha256 := before.row row found
    have rows := fun changed => row?_update_signal store signal (signal.updatedRow changed now)
      (fun _ => rfl) signal.fingerprint
    simp only [if_true, found, Option.map_some] at rows
    simp only [if_neg other]
    by_cases same : payloadHash platform signal.payload = payloadHash platform row.payload
    · rw [SignalLedger.observe_same found same]
      simp only [same, bne_self_eq_false, Bool.false_eq_true, if_false]
      exact SignalLedger.ext (rows false) rfl
    · rw [SignalLedger.observe_changed found same]
      simp only [bne_iff_ne.mpr same, if_true]
      exact SignalLedger.ext (rows true) occurrences

/-- A later signal of a snapshot with a fingerprint is skipped. -/
theorem upsertChecked_again {row : SignalRow τ}
    (found : store.signalOf signal.fingerprint = some row)
    (same : row.snapshotSha256 = signal.snapshotSha256) :
    (store.upsertChecked platform now signal).1 = store := by
  rw [upsertChecked, found]
  exact congrArg Prod.fst (if_pos same)

/-! ## One batch -/

variable (platform) in
/-- The loop over a batch behind its checks. -/
def upsertAll (store : TicketStore τ) (now : τ) (signals : List CheckedSignal) : TicketStore τ :=
  signals.foldl (fun store signal => (store.upsertChecked platform now signal).1) store

/-- The ledger of a fingerprint behind a batch of a snapshot that the ledger has not seen: one
sighting, of the first signal of the batch with the fingerprint. -/
theorem ledger_upsertAll {signals : List CheckedSignal} {digest fingerprint : String}
    (own : ∀ signal ∈ signals, signal.snapshotSha256 = digest)
    (before : (store.ledger fingerprint).Before digest) :
    (store.upsertAll platform now signals).ledger fingerprint =
      match signals.find? fun signal => signal.fingerprint = fingerprint with
      | none => store.ledger fingerprint
      | some signal => (store.ledger fingerprint).observe platform ⟨signal, now⟩ := by
  induction signals using List.reverseRecOn with
  | nil => rfl
  | append_singleton signals signal ih =>
    have earlier := ih fun other member => own other (List.mem_append_left [signal] member)
    have snapshot : signal.snapshotSha256 = digest :=
      own signal (List.mem_append_right signals List.mem_cons_self)
    rw [upsertAll, List.foldl_append, List.find?_append]
    show ((store.upsertAll platform now signals).upsertChecked platform now signal).1.ledger
      fingerprint = _
    by_cases same : signal.fingerprint = fingerprint
    · subst same
      cases found : signals.find? fun other => other.fingerprint = signal.fingerprint with
      | none =>
        rw [found] at earlier
        have unseen : ((store.upsertAll platform now signals).ledger signal.fingerprint).Before
            signal.snapshotSha256 := by
          rw [earlier, snapshot]
          exact before
        rw [ledger_upsertChecked_self unseen, earlier]
        simp
      | some first =>
        rw [found] at earlier
        obtain ⟨row, present, seen, _⟩ :=
          SignalLedger.observe_row platform (store.ledger signal.fingerprint) ⟨first, now⟩
        have here : (store.upsertAll platform now signals).signalOf signal.fingerprint =
            some row := (congrArg SignalLedger.row earlier).trans present
        have repeated : row.snapshotSha256 = signal.snapshotSha256 := by
          have inside : first ∈ signals ++ [signal] :=
            List.mem_append_left [signal] (List.mem_of_find?_eq_some found)
          rw [seen, snapshot]
          exact own first inside
        rw [upsertChecked_again here repeated, earlier]
        rfl
    · rw [ledger_upsertChecked_ne (Ne.symm same), earlier]
      have apart : [signal].find? (fun other => other.fingerprint = fingerprint) = none := by
        simp [same]
      rw [apart, Option.or_none]

/-- The loop over a batch succeeds exactly when every signal passes its checks. -/
theorem upsertRounds_eq (platform : StorePlatform) {batch : List SignalInput}
    (state : TicketStore τ × Nat × Nat) :
    (batch.foldlM (upsertRound platform now) state).map Prod.fst =
      (batch.mapM (checkSignal platform)).map (state.1.upsertAll platform now) := by
  induction batch generalizing state with
  | nil => rfl
  | cons signal batch ih =>
    rw [List.foldlM_cons, List.mapM_cons, upsertRound, upsertSignal]
    cases checkSignal platform signal with
    | error fault => rfl
    | ok checked =>
      have rest := ih ((state.1.upsertChecked platform now checked).1,
        state.2.1 + (state.1.upsertChecked platform now checked).2.1.toNat,
        state.2.2 + (state.1.upsertChecked platform now checked).2.2.toNat)
      calc
        _ = (batch.foldlM (upsertRound platform now)
              ((state.1.upsertChecked platform now checked).1,
                state.2.1 + (state.1.upsertChecked platform now checked).2.1.toNat,
                state.2.2 + (state.1.upsertChecked platform now checked).2.2.toNat)).map
                  Prod.fst := rfl
        _ = _ := rest
        _ = _ := by
          cases batch.mapM (checkSignal platform) with
          | error fault => rfl
          | ok signals => rfl

/-- No two rows have one fingerprint behind an upsert either. -/
theorem upsertChecked_keyed (keyed : Table.Keyed SignalRow.fingerprint store.signals) :
    Table.Keyed SignalRow.fingerprint (store.upsertChecked platform now signal).1.signals := by
  rw [upsertChecked]
  cases found : store.signalOf signal.fingerprint with
  | none =>
    have fresh : Table.row? SignalRow.fingerprint store.signals
        (signal.insertedRow now).fingerprint = none := found
    have appended : Table.Keyed SignalRow.fingerprint (store.signals ++ [signal.insertedRow now]) :=
      keyed.append fresh
    exact appended
  | some row =>
    by_cases same : row.snapshotSha256 = signal.snapshotSha256
    · simp only [if_pos same]
      exact keyed
    · have updated : ∀ changed, Table.Keyed SignalRow.fingerprint
          (Table.update SignalRow.id (signalIdOf signal.fingerprint)
            (signal.updatedRow changed now) store.signals) :=
        fun changed => keyed.update (signal.updatedRow changed now) (fun _ => rfl) _
      simp only [if_neg same]
      exact updated _

theorem upsertAll_keyed {signals : List CheckedSignal}
    (keyed : Table.Keyed SignalRow.fingerprint store.signals) :
    Table.Keyed SignalRow.fingerprint (store.upsertAll platform now signals).signals := by
  induction signals generalizing store with
  | nil => exact keyed
  | cons signal signals ih => exact ih (upsertChecked_keyed keyed)

end TicketStore

/-! ## Runs of batches -/

/-- The arguments of `ingest_snapshot_signals`, with the instant of the call. -/
structure SnapshotBatch (τ : Type) where
  now : τ
  signals : List SignalInput
  snapshotSha256 : String
  snapshotId : String
  generatedAt : String

/-- A batch behind all its checks. -/
structure CheckedBatch (τ : Type) where
  now : τ
  digest : String
  snapshotId : String
  generatedAt : String
  signals : List CheckedSignal

/-- The first signal of a batch with a fingerprint. -/
def CheckedBatch.signalOf (batch : CheckedBatch τ) (fingerprint : String) :
    Option CheckedSignal :=
  batch.signals.find? fun signal => signal.fingerprint = fingerprint

/-- The checks of a batch and of each of its signals. -/
def SnapshotBatch.check (batch : SnapshotBatch τ) : Except TicketError (CheckedBatch τ) := do
  let digest ← snapshotDigest platform batch.snapshotSha256
  let snapshotId ← requiredText "Snapshot ID" 1024 batch.snapshotId
  let generatedAt ← requiredText "Timestamp snapshot" 64 batch.generatedAt
  if batch.signals.any fun signal => platform.lower signal.snapshotSha256 != digest then
    .error (.validation "Tutti i segnali devono appartenere allo snapshot dichiarato.")
  else do
    let signals ← batch.signals.mapM (checkSignal platform)
    .ok ⟨batch.now, digest, snapshotId, generatedAt, signals⟩

namespace TicketStore

/-- The call of a batch. -/
def ingestCall (store : TicketStore τ) (batch : SnapshotBatch τ) :
    Except TicketError (IngestStats × TicketStore τ) :=
  store.ingestSnapshotSignals platform batch.now batch.signals batch.snapshotSha256
    batch.snapshotId batch.generatedAt

/-- The store behind a batch, which is the store before where the call raises. -/
def ingest (store : TicketStore τ) (batch : SnapshotBatch τ) : TicketStore τ :=
  match store.ingestCall platform batch with
  | .ok result => result.2
  | .error _ => store

/-- The store that a list of batches builds from the empty database. -/
def ingested (batches : List (SnapshotBatch τ)) : TicketStore τ :=
  batches.foldl (ingest platform) .empty

/-- A committed batch: its signals and its marker. -/
def commitBatch (store : TicketStore τ) (batch : CheckedBatch τ) (seen : Nat) : TicketStore τ :=
  { store.upsertAll platform batch.now batch.signals with
    snapshotIngests := store.snapshotIngests ++
      [⟨batch.digest, batch.snapshotId, batch.generatedAt, seen, batch.now⟩] }

variable {platform} {store : TicketStore τ}

/-- The loop over a batch, from the checks of its signals. -/
theorem upsertBatch_eq (platform : StorePlatform) (store : TicketStore τ)
    (batch : List SignalInput) (now : τ) :
    (store.upsertBatch platform now batch).map Prod.snd =
      (batch.mapM (checkSignal platform)).map (store.upsertAll platform now) := by
  rw [← upsertRounds_eq platform (store, 0, 0), upsertBatch]
  cases batch.foldlM (upsertRound platform now) (store, 0, 0) with
  | error fault => rfl
  | ok final => rfl

/-- A batch is committed when it passes its checks and its snapshot is new; otherwise it changes
nothing. -/
theorem ingest_eq (batch : SnapshotBatch τ) : store.ingest platform batch =
    match batch.check platform with
    | .ok checked =>
      if checked.digest ∈ store.ingestedDigests then store
      else store.commitBatch platform checked batch.signals.length
    | .error _ => store := by
  rw [ingest, ingestCall, ingestSnapshotSignals, SnapshotBatch.check]
  cases snapshotDigest platform batch.snapshotSha256 with
  | error fault => rfl
  | ok digest =>
    cases requiredText "Snapshot ID" 1024 batch.snapshotId with
    | error fault => rfl
    | ok snapshotId =>
      cases requiredText "Timestamp snapshot" 64 batch.generatedAt with
      | error fault => rfl
      | ok generatedAt =>
        simp only [bind, Except.bind]
        by_cases foreign : (batch.signals.any fun signal =>
            platform.lower signal.snapshotSha256 != digest) = true
        · rw [if_pos foreign, if_pos foreign]
        · rw [if_neg foreign, if_neg foreign]
          have rounds := upsertBatch_eq platform store batch.signals batch.now
          by_cases repeated : digest ∈ store.ingestedDigests
          · have listed : (store.snapshotIngests.map SnapshotIngestRow.snapshotSha256).contains
                digest = true := List.contains_iff_mem.mpr repeated
            rw [if_pos listed]
            cases batch.signals.mapM (checkSignal platform) with
            | error fault => rfl
            | ok signals => exact (if_pos repeated).symm
          · have unlisted : ¬ (store.snapshotIngests.map SnapshotIngestRow.snapshotSha256).contains
                digest = true := fun member => repeated (List.contains_iff_mem.mp member)
            rw [if_neg unlisted]
            cases checked : batch.signals.mapM (checkSignal platform) with
            | error fault =>
              rw [checked] at rounds
              cases returned : store.upsertBatch platform batch.now batch.signals with
              | error other => rfl
              | ok result =>
                rw [returned] at rounds
                cases rounds
            | ok signals =>
              rw [checked] at rounds
              cases returned : store.upsertBatch platform batch.now batch.signals with
              | error other =>
                rw [returned] at rounds
                cases rounds
              | ok result =>
                rw [returned] at rounds
                have same : result.2 = store.upsertAll platform batch.now signals :=
                  Except.ok.inj rounds
                have only := upsertBatch_signalsOnly returned
                simp only [if_neg repeated]
                rw [commitBatch, ← same, ← only.snapshotIngests]

end TicketStore

/-- The committed batches of a run: those that pass their checks, each digest once. -/
def committed (batches : List (SnapshotBatch τ)) : List (CheckedBatch τ) :=
  batches.foldl
    (fun done batch =>
      match batch.check platform with
      | .ok checked =>
        if checked.digest ∈ done.map CheckedBatch.digest then done else done ++ [checked]
      | .error _ => done) []

/-- The sightings of a fingerprint in committed batches. -/
def sightings (done : List (CheckedBatch τ)) (fingerprint : String) : List (Sighting τ) :=
  done.filterMap fun batch => (batch.signalOf fingerprint).map fun signal => ⟨signal, batch.now⟩

variable {platform}

/-- A checked signal belongs to the snapshot of its batch. -/
theorem SnapshotBatch.check_own {batch : SnapshotBatch τ} {checked : CheckedBatch τ}
    (returned : batch.check platform = .ok checked) :
    ∀ signal ∈ checked.signals, signal.snapshotSha256 = checked.digest := by
  simp only [SnapshotBatch.check, bind_eq_ok] at returned
  obtain ⟨digest, hasDigest, _, _, _, _, returned⟩ := returned
  split_ifs at returned with foreign
  rw [bind_eq_ok] at returned
  obtain ⟨signals, signalsChecked, returned⟩ := returned
  obtain rfl := Except.ok.inj returned
  have isDigest : isDigestBody digest.toList = true := (requiredDigest_eq_ok.mp hasDigest).2.2
  have own : ∀ signal ∈ batch.signals, platform.lower signal.snapshotSha256 = digest := by
    simpa using foreign
  intro signal member
  obtain ⟨input, inside, passed⟩ := exists_of_mem_mapM signalsChecked member
  obtain ⟨_, hasSnapshot, _⟩ := checkSignal_fields passed
  have lowered := (requiredDigest_eq_ok.mp hasSnapshot).2.1
  rw [← lowered, platform.lower_strip, own input inside, strip_of_digest isDigest]

end DTLab
