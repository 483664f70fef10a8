import DTLab.Tickets.Ledger
import DTLab.Tickets.Statements

/-!
# The sightings of all calls

Which signals a call upserts, and which of them are sightings of a fingerprint: those that do not
repeat the snapshot that the row was last seen in. The row of a signal is what its sightings make
of it, whatever other calls come in between.
-/

namespace DTLab

open Library (Table.row? Table.update)
open Library.Attempt (bind_eq_ok map_eq_ok)

variable {τ : Type} (platform : StorePlatform)

/-! ## Rows -/

namespace SignalLedger

/-- What one more sighting makes of the row of a signal. -/
def rowBehind (row : Option (SignalRow τ)) (sighting : Sighting τ) : Option (SignalRow τ) :=
  (observe platform ⟨row, []⟩ sighting).row

/-- What sightings make of the row of a signal. -/
def rowOf (sightings : List (Sighting τ)) : Option (SignalRow τ) :=
  sightings.foldl (rowBehind platform) none

theorem rowOf_concat (sightings : List (Sighting τ)) (sighting : Sighting τ) :
    rowOf platform (sightings ++ [sighting]) =
      rowBehind platform (rowOf platform sightings) sighting := by
  rw [rowOf, List.foldl_append]
  rfl

variable {platform}

/-- The first sighting inserts the row. -/
theorem rowBehind_none (sighting : Sighting τ) :
    rowBehind platform none sighting = some (sighting.signal.insertedRow sighting.now) := rfl

/-- A further sighting updates the row. -/
theorem rowBehind_some (row : SignalRow τ) (sighting : Sighting τ) :
    rowBehind platform (some row) sighting = some (sighting.signal.updatedRow
      (payloadHash platform sighting.signal.payload != payloadHash platform row.payload)
      sighting.now row) := rfl

end SignalLedger

open SignalLedger (rowBehind rowOf rowOf_concat rowBehind_none rowBehind_some)

/-! ## Sightings of one call -/

/-- A signal is a sighting of a fingerprint in a store when the row of the fingerprint was last
seen in another snapshot. -/
def CheckedSignal.Sights (signal : CheckedSignal) (store : TicketStore τ) (fingerprint : String) :
    Prop :=
  signal.fingerprint = fingerprint ∧
    (store.signalOf fingerprint).map SignalRow.snapshotSha256 ≠ some signal.snapshotSha256

instance (signal : CheckedSignal) (store : TicketStore τ) (fingerprint : String) :
    Decidable (signal.Sights store fingerprint) := inferInstanceAs (Decidable (_ ∧ _))

namespace TicketStore

/-- The sightings of a fingerprint among signals that are upserted one after the other. -/
def sighted (now : τ) (fingerprint : String) :
    TicketStore τ → List CheckedSignal → List (Sighting τ)
  | _, [] => []
  | store, signal :: signals =>
    (if signal.Sights store fingerprint then [⟨signal, now⟩] else []) ++
      sighted now fingerprint (store.upsertChecked platform now signal).1 signals

variable {platform} {store : TicketStore τ} {now : τ} {signal : CheckedSignal}
  {fingerprint : String}

/-- The row of a fingerprint behind a signal. -/
theorem signalOf_upsertChecked (store : TicketStore τ) (now : τ) (signal : CheckedSignal)
    (fingerprint : String) :
    (store.upsertChecked platform now signal).1.signalOf fingerprint =
      if signal.Sights store fingerprint then
        rowBehind platform (store.signalOf fingerprint) ⟨signal, now⟩
      else store.signalOf fingerprint := by
  by_cases own : signal.fingerprint = fingerprint
  · subst own
    rw [upsertChecked]
    cases found : store.signalOf signal.fingerprint with
    | none =>
      have sights : signal.Sights store signal.fingerprint := by
        refine ⟨rfl, ?_⟩
        rw [found]
        exact Ne.symm (Option.some_ne_none signal.snapshotSha256)
      have fresh : Table.row? SignalRow.fingerprint store.signals
          (signal.insertedRow now).fingerprint = none := found
      rw [if_pos sights, rowBehind_none]
      exact Library.Table.row?_append_new fresh
    | some row =>
      by_cases same : row.snapshotSha256 = signal.snapshotSha256
      · have repeats : ¬ signal.Sights store signal.fingerprint := by
          rintro ⟨_, other⟩
          rw [found] at other
          exact other (congrArg some same)
        rw [if_neg repeats]
        simp only [if_pos same]
        exact found
      · have sights : signal.Sights store signal.fingerprint := by
          refine ⟨rfl, ?_⟩
          rw [found]
          exact fun equal => same (Option.some.inj equal)
        have updated := row?_update_signal store signal (signal.updatedRow
          (payloadHash platform signal.payload != payloadHash platform row.payload) now)
          (fun _ => rfl) signal.fingerprint
        rw [if_pos rfl, found] at updated
        rw [if_pos sights, rowBehind_some]
        simp only [if_neg same]
        exact updated
  · have ledger : (store.upsertChecked platform now signal).1.ledger fingerprint =
        store.ledger fingerprint := ledger_upsertChecked_ne (Ne.symm own)
    rw [if_neg fun sights => own sights.1]
    exact congrArg SignalLedger.row ledger

/-- Signals with other fingerprints are no sightings. -/
theorem sighted_eq_nil {signals : List CheckedSignal}
    (others : ∀ signal ∈ signals, signal.fingerprint ≠ fingerprint) (store : TicketStore τ) :
    store.sighted platform now fingerprint signals = [] := by
  induction signals generalizing store with
  | nil => rfl
  | cons signal signals ih =>
    rw [List.forall_mem_cons] at others
    rw [sighted, if_neg fun sights => others.1 sights.1, ih others.2, List.append_nil]

/-- Behind a signal its fingerprint has a row with its digest, which is the row before it or, where
the signal is a sighting, one with its payload. -/
theorem signalOf_upsertChecked_self (store : TicketStore τ) (now : τ) (signal : CheckedSignal) :
    ∃ row, (store.upsertChecked platform now signal).1.signalOf signal.fingerprint = some row ∧
      row.snapshotSha256 = signal.snapshotSha256 ∧
      (store.signalOf signal.fingerprint = some row ∨
        signal.Sights store signal.fingerprint ∧ row.payload = signal.payload) := by
  rw [signalOf_upsertChecked]
  by_cases sights : signal.Sights store signal.fingerprint
  · rw [if_pos sights]
    cases store.signalOf signal.fingerprint with
    | none => exact ⟨_, rfl, rfl, Or.inr ⟨sights, rfl⟩⟩
    | some row => exact ⟨_, rfl, rfl, Or.inr ⟨sights, rfl⟩⟩
  · rw [if_neg sights]
    have repeats : (store.signalOf signal.fingerprint).map SignalRow.snapshotSha256 =
        some signal.snapshotSha256 := by
      by_contra other
      exact sights ⟨rfl, other⟩
    obtain ⟨row, found, digest⟩ := Option.map_eq_some_iff.mp repeats
    exact ⟨row, found, digest, Or.inl found⟩

/-- The row of a fingerprint behind signals is what their sightings make of it. -/
theorem signalOf_upsertAll (store : TicketStore τ) (signals : List CheckedSignal) :
    (store.upsertAll platform now signals).signalOf fingerprint =
      (store.sighted platform now fingerprint signals).foldl (rowBehind platform)
        (store.signalOf fingerprint) := by
  induction signals generalizing store with
  | nil => rfl
  | cons signal signals ih =>
    have first : (store.upsertChecked platform now signal).1.signalOf fingerprint = _ :=
      signalOf_upsertChecked store now signal fingerprint
    have rest := ih (store.upsertChecked platform now signal).1
    rw [sighted, List.foldl_append]
    show ((store.upsertChecked platform now signal).1.upsertAll platform now signals).signalOf
      fingerprint = _
    rw [rest, first]
    split_ifs <;> rfl

end TicketStore

/-! ## Sightings of a run -/

/-- The signals that a call upserts, which are none where the call raises or repeats a snapshot. -/
def StoreCall.upserts (context : CallContext τ) (store : TicketStore τ) :
    StoreCall → List CheckedSignal
  | .ingestSignals batch =>
    match batch.mapM (checkSignal platform) with
    | .ok signals => signals
    | .error _ => []
  | .ingestSnapshotSignals batch snapshotSha256 snapshotId generatedAt =>
    match (SnapshotBatch.mk context.now batch snapshotSha256 snapshotId generatedAt).check
      platform with
    | .ok checked => if checked.digest ∈ store.ingestedDigests then [] else checked.signals
    | .error _ => []
  | _ => []

/-- The instant of a batch behind its checks is that of its call. -/
theorem SnapshotBatch.check_now {platform : StorePlatform} {batch : SnapshotBatch τ}
    {checked : CheckedBatch τ} (passed : batch.check platform = .ok checked) :
    checked.now = batch.now := by
  simp only [SnapshotBatch.check, bind_eq_ok] at passed
  obtain ⟨digest, _, snapshotId, _, generatedAt, _, passed⟩ := passed
  split_ifs at passed
  rw [bind_eq_ok] at passed
  obtain ⟨signals, _, passed⟩ := passed
  obtain rfl := Except.ok.inj passed
  rfl

/-- A statement that may not write signals leaves them. -/
theorem signals_of_statement {platform : StorePlatform} {now : τ} {store later : TicketStore τ}
    (statement : Statement platform now False store later) : later.signals = store.signals := by
  cases statement with
  | signalUpserted ingest => exact ingest.elim
  | snapshotIngested ingest => exact ingest.elim
  | _ => rfl

/-- Statements that may not write signals leave them. -/
theorem signals_of_statements {platform : StorePlatform} {now : τ} {store later : TicketStore τ}
    (statements : Statements platform now False store later) : later.signals = store.signals := by
  induction statements with
  | refl => rfl
  | tail _ statement ih => exact (signals_of_statement statement).trans ih

variable {platform} [DecidableEq τ]

/-- A call with one signal that passes its checks upserts it. -/
theorem StoreCall.apply_ingestSignals {signal : SignalInput} {checked : CheckedSignal}
    (passed : checkSignal platform signal = .ok checked) (context : CallContext τ)
    (store : TicketStore τ) :
    (StoreCall.ingestSignals [signal]).apply platform context store =
      (store.upsertChecked platform context.now checked).1 := by
  rw [StoreCall.apply, StoreCall.commit,
    TicketStore.ingestSignals_single store context.now passed]
  rfl

/-- The row of a fingerprint behind a call is what the sightings of the call make of it. -/
theorem StoreCall.signalOf_apply (call : StoreCall) (context : CallContext τ)
    {store : TicketStore τ} (sound : store.Sound) (fingerprint : String) :
    (call.apply platform context store).signalOf fingerprint =
      (store.sighted platform context.now fingerprint
        (call.upserts platform context store)).foldl (rowBehind platform)
          (store.signalOf fingerprint) := by
  have idle : ¬ call.Ingests →
      (call.apply platform context store).signalOf fingerprint = store.signalOf fingerprint := by
    intro idle
    rcases call.apply_cases platform context store with same | committed
    · rw [same]
    · have statements := call.commit_statements sound committed
      rw [eq_false idle] at statements
      rw [TicketStore.signalOf, signals_of_statements statements]
      rfl
  cases call with
  | ingestSignals batch =>
    have rounds := TicketStore.upsertBatch_eq platform store batch context.now
    rw [StoreCall.apply, StoreCall.commit, StoreCall.upserts, TicketStore.ingestSignals]
    by_cases empty : batch = []
    · rw [if_pos empty, empty]
      rfl
    · rw [if_neg empty, rounds]
      cases batch.mapM (checkSignal platform) with
      | error fault => rfl
      | ok signals => exact TicketStore.signalOf_upsertAll store signals
  | ingestSnapshotSignals batch snapshotSha256 snapshotId generatedAt =>
    let whole : SnapshotBatch τ := ⟨context.now, batch, snapshotSha256, snapshotId, generatedAt⟩
    have behind : (StoreCall.ingestSnapshotSignals batch snapshotSha256 snapshotId
        generatedAt).apply platform context store = store.ingest platform whole := by
      rw [StoreCall.apply, StoreCall.commit, TicketStore.ingest, TicketStore.ingestCall]
      cases store.ingestSnapshotSignals platform context.now batch snapshotSha256 snapshotId
        generatedAt <;> rfl
    rw [behind, TicketStore.ingest_eq, StoreCall.upserts]
    cases passed : whole.check platform with
    | error fault => rfl
    | ok checked =>
      by_cases repeated : checked.digest ∈ store.ingestedDigests
      · simp only [if_pos repeated]
        rfl
      · have now : checked.now = context.now := SnapshotBatch.check_now passed
        simp only [if_neg repeated]
        rw [← now]
        exact TicketStore.signalOf_upsertAll store checked.signals
  | _ => exact idle not_false

variable (platform) in
/-- The sightings of a fingerprint in a run from a store. -/
def TicketStore.observationsFrom (fingerprint : String) :
    TicketStore τ → List (CallContext τ × StoreCall) → List (Sighting τ)
  | _, [] => []
  | store, call :: calls =>
    store.sighted platform call.1.now fingerprint (call.2.upserts platform call.1 store) ++
      observationsFrom fingerprint (call.2.apply platform call.1 store) calls

variable (platform) in
/-- The sightings of a fingerprint in a run from the empty database. -/
def observationsOf (calls : List (CallContext τ × StoreCall)) (fingerprint : String) :
    List (Sighting τ) :=
  TicketStore.observationsFrom platform fingerprint .empty calls

/-- The row of a fingerprint behind a run is what the sightings of the run make of it. -/
theorem TicketStore.signalOf_run {store : TicketStore τ} (recorded : store.Recorded)
    (calls : List (CallContext τ × StoreCall)) (fingerprint : String) :
    (calls.foldl (fun store call => call.2.apply platform call.1 store) store).signalOf
        fingerprint =
      (store.observationsFrom platform fingerprint calls).foldl (rowBehind platform)
        (store.signalOf fingerprint) := by
  induction calls generalizing store with
  | nil => rfl
  | cons call calls ih =>
    rw [List.foldl_cons, ih (call.2.apply_recorded recorded),
      call.2.signalOf_apply call.1 recorded.sound, TicketStore.observationsFrom, List.foldl_append]

/-- The row of a fingerprint in every store that calls build. -/
theorem signalOf_after (calls : List (CallContext τ × StoreCall)) (fingerprint : String) :
    (TicketStore.after platform calls).signalOf fingerprint =
      rowOf platform (observationsOf platform calls fingerprint) :=
  TicketStore.signalOf_run TicketStore.recorded_empty calls fingerprint

end DTLab
