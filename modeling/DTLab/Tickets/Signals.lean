import DTLab.Tickets.Rows

/-!
# Signals of the ticket store

`_upsert_signal` and the two operations that call it for each signal of a batch,
`ingest_signals` and `ingest_snapshot_signals`. A batch that raises is rolled back: it returns
no store. The instant of a call is read before the call waits for the database.
-/

namespace DTLab

open Library (Json Table.row? Table.update)
open Library.Attempt (bind_eq_ok map_eq_ok mapM_self foldlM_keeps)

/-! ## What a signal says -/

mutual

/-- `_semantic_payload`. -/
def semanticPayload (insideEvidence : Bool) : Json → Json
  | .obj fields => .obj (semanticMembers insideEvidence fields)
  | .arr items => .arr (semanticItems insideEvidence items)
  | other => other
termination_by structural document => document

/-- `_semantic_payload` of the items of a list. -/
def semanticItems (insideEvidence : Bool) : List Json → List Json
  | [] => []
  | item :: items => semanticPayload insideEvidence item :: semanticItems insideEvidence items
termination_by structural items => items

/-- `_semantic_payload` of the members of a dictionary. -/
def semanticMembers (insideEvidence : Bool) : List (String × Json) → List (String × Json)
  | [] => []
  | (key, nested) :: rest =>
    if insideEvidence && (key == "fetched_at" || key == "observed_at") then
      semanticMembers insideEvidence rest
    else
      (key, semanticPayload (insideEvidence || key == "evidence") nested) ::
        semanticMembers insideEvidence rest
termination_by structural fields => fields

end

variable {τ : Type} (platform : StorePlatform)

/-- `_payload_hash`. -/
def payloadHash (payload : List (String × Json)) : String :=
  platform.sha256Text ((Json.obj (semanticMembers false payload)).dumps false)

/-- `SignalInput`. -/
structure SignalInput where
  fingerprint : String
  signalType : String
  snapshotSha256 : String
  evidence : List (String × Json)
  severity : String
  title : String
  description : String
  occurredAt : Option String
  observedAt : String
  assetIds : List String
  recommendedAction : Option String
  payload : List (String × Json)

/-- A signal behind the checks of `_upsert_signal`. -/
structure CheckedSignal where
  fingerprint : String
  signalType : String
  snapshotSha256 : String
  sourceId : Option String
  sourceRecordId : Option String
  evidence : List (String × Json)
  severity : String
  title : String
  description : String
  occurredAt : Option String
  observedAt : String
  assetIds : List String
  recommendedAction : Option String
  payload : List (String × Json)

/-- `sorted(set(ids))`. -/
def sortedDistinct (ids : List String) : List String :=
  ids.dedup.mergeSort fun left right => decide (left ≤ right)

/-- The member of a dictionary as a text, where it is one. -/
def evidenceText (evidence : List (String × Json)) (key : String) : Option String :=
  jsonText platform ((evidence.lookup key).getD .null)

/-- The checks of `_upsert_signal`, in their order. -/
def checkSignal (signal : SignalInput) : Except TicketError CheckedSignal := do
  let fingerprint ← signalFingerprint platform signal.fingerprint
  let digest ← snapshotDigest platform signal.snapshotSha256
  let signalType ← requiredText "Tipo segnale" 64 signal.signalType
  let sourceId ← optionalText 512 (evidenceText platform signal.evidence "source_id")
  let sourceRecordId ←
    optionalText 1024 (evidenceText platform signal.evidence "source_record_id")
  let severity ← requiredText "Severità" 32 signal.severity
  let title ← requiredText "Titolo" 1024 signal.title
  let description ← requiredText "Descrizione" 16384 signal.description
  let occurredAt ← optionalText 64 signal.occurredAt
  let observedAt ← requiredText "Timestamp osservazione" 64 signal.observedAt
  let assetIds ← signal.assetIds.mapM (requiredText "Asset ID" 1024)
  let recommendedAction ← optionalText 16384 signal.recommendedAction
  .ok {
    fingerprint := fingerprint
    signalType := signalType
    snapshotSha256 := digest
    sourceId := sourceId
    sourceRecordId := sourceRecordId
    evidence := signal.evidence
    severity := platform.lower severity
    title := title
    description := description
    occurredAt := occurredAt
    observedAt := observedAt
    assetIds := sortedDistinct assetIds
    recommendedAction := recommendedAction
    payload := signal.payload }

variable {platform} in
/-- What the checks keep of a signal. -/
theorem checkSignal_fields {signal : SignalInput} {checked : CheckedSignal}
    (returned : checkSignal platform signal = .ok checked) :
    signalFingerprint platform signal.fingerprint = .ok checked.fingerprint ∧
      snapshotDigest platform signal.snapshotSha256 = .ok checked.snapshotSha256 ∧
      requiredText "Tipo segnale" 64 signal.signalType = .ok checked.signalType ∧
      optionalText 512 (evidenceText platform signal.evidence "source_id") =
        .ok checked.sourceId ∧
      checked.severity = platform.lower (strip signal.severity) ∧
      checked.title = strip signal.title ∧ checked.description = strip signal.description ∧
      checked.payload = signal.payload := by
  simp only [checkSignal, bind_eq_ok] at returned
  obtain ⟨fingerprint, hasFingerprint, digest, hasDigest, signalType, hasType, sourceId, hasSource,
    _, _, severity, hasSeverity, title, hasTitle, description, hasDescription, _, _, _, _, _, _,
    _, _, same⟩ := returned
  obtain rfl := Except.ok.inj same
  obtain ⟨rfl, _⟩ := requiredText_eq_ok.mp hasSeverity
  obtain ⟨rfl, _⟩ := requiredText_eq_ok.mp hasTitle
  obtain ⟨rfl, _⟩ := requiredText_eq_ok.mp hasDescription
  exact ⟨hasFingerprint, hasDigest, hasType, hasSource, rfl, rfl, rfl, rfl⟩

/-- A signal whose texts are as the store keeps them. -/
structure SignalInput.Plain (signal : SignalInput) : Prop where
  fingerprint : isDigestBody signal.fingerprint.toList = true
  snapshotSha256 : isDigestBody signal.snapshotSha256.toList = true
  signalType : requiredText "Tipo segnale" 64 signal.signalType = .ok signal.signalType
  sourceId : optionalText 512 (evidenceText platform signal.evidence "source_id") =
    .ok (evidenceText platform signal.evidence "source_id")
  sourceRecordId : optionalText 1024 (evidenceText platform signal.evidence "source_record_id") =
    .ok (evidenceText platform signal.evidence "source_record_id")
  severity : requiredText "Severità" 32 signal.severity = .ok signal.severity
  lowered : platform.lower signal.severity = signal.severity
  title : requiredText "Titolo" 1024 signal.title = .ok signal.title
  description : requiredText "Descrizione" 16384 signal.description = .ok signal.description
  occurredAt : optionalText 64 signal.occurredAt = .ok signal.occurredAt
  observedAt : requiredText "Timestamp osservazione" 64 signal.observedAt = .ok signal.observedAt
  assetIds : ∀ id ∈ signal.assetIds, requiredText "Asset ID" 1024 id = .ok id
  recommendedAction : optionalText 16384 signal.recommendedAction = .ok signal.recommendedAction

/-- What the checks make of a signal whose texts are as the store keeps them. -/
def SignalInput.kept (signal : SignalInput) : CheckedSignal where
  fingerprint := signal.fingerprint
  signalType := signal.signalType
  snapshotSha256 := signal.snapshotSha256
  sourceId := evidenceText platform signal.evidence "source_id"
  sourceRecordId := evidenceText platform signal.evidence "source_record_id"
  evidence := signal.evidence
  severity := signal.severity
  title := signal.title
  description := signal.description
  occurredAt := signal.occurredAt
  observedAt := signal.observedAt
  assetIds := sortedDistinct signal.assetIds
  recommendedAction := signal.recommendedAction
  payload := signal.payload

variable {platform} in
/-- A signal that is plain passes the checks. -/
theorem checkSignal_of_plain {signal : SignalInput} (plain : signal.Plain platform) :
    checkSignal platform signal = .ok (signal.kept platform) := by
  have fingerprint : signalFingerprint platform signal.fingerprint = .ok signal.fingerprint :=
    requiredDigest_of_digest _ _ _ plain.fingerprint (by decide)
  have snapshot : snapshotDigest platform signal.snapshotSha256 = .ok signal.snapshotSha256 :=
    requiredDigest_of_digest _ _ _ plain.snapshotSha256 (by decide)
  have assetIds := mapM_self plain.assetIds
  simp [checkSignal, SignalInput.kept, fingerprint, snapshot, plain.signalType, plain.sourceId,
    plain.sourceRecordId, plain.severity, plain.lowered, plain.title, plain.description,
    plain.occurredAt, plain.observedAt, assetIds, plain.recommendedAction, bind, Except.bind]

/-! ## Rows of a signal -/

namespace CheckedSignal

/-- The row that a new signal gets. -/
def insertedRow (signal : CheckedSignal) (now : τ) : SignalRow τ where
  fingerprint := signal.fingerprint
  signalType := signal.signalType
  snapshotSha256 := signal.snapshotSha256
  sourceId := signal.sourceId
  sourceRecordId := signal.sourceRecordId
  evidence := signal.evidence
  severity := signal.severity
  title := signal.title
  description := signal.description
  occurredAt := signal.occurredAt
  firstObservedAt := signal.observedAt
  lastObservedAt := signal.observedAt
  assetIds := signal.assetIds
  recommendedAction := signal.recommendedAction
  payload := signal.payload
  occurrenceCount := 1
  createdAt := now
  updatedAt := now

/-- What a signal makes of the row it meets; `changed` says that the payloads differ in what
they mean. -/
def updatedRow (signal : CheckedSignal) (changed : Bool) (now : τ) (row : SignalRow τ) :
    SignalRow τ where
  fingerprint := row.fingerprint
  signalType := row.signalType
  snapshotSha256 := signal.snapshotSha256
  sourceId := signal.sourceId
  sourceRecordId := signal.sourceRecordId
  evidence := signal.evidence
  severity := signal.severity
  title := signal.title
  description := signal.description
  occurredAt := signal.occurredAt
  firstObservedAt := min row.firstObservedAt signal.observedAt
  lastObservedAt := max row.lastObservedAt signal.observedAt
  assetIds := signal.assetIds
  recommendedAction := signal.recommendedAction
  payload := signal.payload
  occurrenceCount := row.occurrenceCount + 1
  createdAt := row.createdAt
  updatedAt := if changed then now else row.updatedAt

/-- The occurrence of a signal. -/
def occurrence (signal : CheckedSignal) (now : τ) : OccurrenceRow τ where
  signalId := signalIdOf signal.fingerprint
  snapshotSha256 := signal.snapshotSha256
  observedAt := signal.observedAt
  occurredAt := signal.occurredAt
  payloadHash := payloadHash platform signal.payload
  payload := signal.payload
  createdAt := now

end CheckedSignal

/-- What `UNIQUE(signal_id, snapshot_sha256, payload_hash)` compares. -/
def OccurrenceRow.key (row : OccurrenceRow τ) : String × String × String :=
  (row.signalId, row.snapshotSha256, row.payloadHash)

/-- `INSERT OR IGNORE INTO signal_occurrences`. -/
def insertOrIgnore (rows : List (OccurrenceRow τ)) (row : OccurrenceRow τ) :
    List (OccurrenceRow τ) :=
  if (rows.map OccurrenceRow.key).contains row.key then rows else rows ++ [row]

namespace TicketStore

/-- The row of a fingerprint. -/
def signalOf (store : TicketStore τ) (fingerprint : String) : Option (SignalRow τ) :=
  Table.row? SignalRow.fingerprint store.signals fingerprint

/-- `_upsert_signal` behind its checks: the store, whether the signal is new, and whether it was
observed. -/
def upsertChecked (store : TicketStore τ) (now : τ) (signal : CheckedSignal) :
    TicketStore τ × Bool × Bool :=
  match store.signalOf signal.fingerprint with
  | none =>
    ({ store with
        signals := store.signals ++ [signal.insertedRow now]
        occurrences := insertOrIgnore store.occurrences (signal.occurrence platform now) },
      true, true)
  | some row =>
    if row.snapshotSha256 = signal.snapshotSha256 then (store, false, false)
    else
      let changed := payloadHash platform signal.payload != payloadHash platform row.payload
      ({ store with
          signals := Table.update SignalRow.id (signalIdOf signal.fingerprint)
            (signal.updatedRow changed now) store.signals
          occurrences :=
            if changed then insertOrIgnore store.occurrences (signal.occurrence platform now)
            else store.occurrences },
        false, true)

/-- `_upsert_signal`. -/
def upsertSignal (store : TicketStore τ) (now : τ) (signal : SignalInput) :
    Except TicketError (TicketStore τ × Bool × Bool) :=
  (checkSignal platform signal).map (store.upsertChecked platform now)

end TicketStore

/-- `IngestStats`. -/
structure IngestStats where
  signalsSeen : Nat
  signalsCreated : Nat
  occurrencesCreated : Nat
  deriving DecidableEq

/-- One round of the loop over a batch: the store and what was created so far. -/
def upsertRound (now : τ) (state : TicketStore τ × Nat × Nat) (signal : SignalInput) :
    Except TicketError (TicketStore τ × Nat × Nat) :=
  (state.1.upsertSignal platform now signal).map fun (store, created, observed) =>
    (store, state.2.1 + created.toNat, state.2.2 + observed.toNat)

namespace TicketStore

/-- The loop over a batch, with what it created. -/
def upsertBatch (store : TicketStore τ) (now : τ) (batch : List SignalInput) :
    Except TicketError (IngestStats × TicketStore τ) :=
  (batch.foldlM (upsertRound platform now) (store, 0, 0)).map fun (store, created, observed) =>
    (⟨batch.length, created, observed⟩, store)

/-- `ingest_signals`. -/
def ingestSignals (store : TicketStore τ) (now : τ) (batch : List SignalInput) :
    Except TicketError (IngestStats × TicketStore τ) :=
  if batch = [] then .ok (⟨0, 0, 0⟩, store) else store.upsertBatch platform now batch

variable {platform} in
/-- What `ingest_signals` does with one signal that passes its checks. -/
theorem ingestSignals_single {signal : SignalInput} {checked : CheckedSignal}
    (store : TicketStore τ) (now : τ) (passed : checkSignal platform signal = .ok checked) :
    store.ingestSignals platform now [signal] =
      .ok (⟨1, (store.upsertChecked platform now checked).2.1.toNat,
        (store.upsertChecked platform now checked).2.2.toNat⟩,
        (store.upsertChecked platform now checked).1) := by
  simp [ingestSignals, upsertBatch, upsertRound, upsertSignal, passed, Except.map, bind,
    Except.bind, pure, Except.pure]

/-- `ingest_snapshot_signals`. -/
def ingestSnapshotSignals (store : TicketStore τ) (now : τ) (batch : List SignalInput)
    (snapshotSha256 snapshotId generatedAt : String) :
    Except TicketError (IngestStats × TicketStore τ) := do
  let digest ← snapshotDigest platform snapshotSha256
  let snapshotId ← requiredText "Snapshot ID" 1024 snapshotId
  let generatedAt ← requiredText "Timestamp snapshot" 64 generatedAt
  if batch.any fun signal => platform.lower signal.snapshotSha256 != digest then
    .error (.validation "Tutti i segnali devono appartenere allo snapshot dichiarato.")
  else if (store.snapshotIngests.map SnapshotIngestRow.snapshotSha256).contains digest then
    .ok (⟨0, 0, 0⟩, store)
  else do
    let (stats, store) ← store.upsertBatch platform now batch
    .ok (stats, { store with
      snapshotIngests :=
        store.snapshotIngests ++ [⟨digest, snapshotId, generatedAt, batch.length, now⟩] })

/-- `get_signal`. -/
def getSignal (store : TicketStore τ) (signalId : String) : Except TicketError (SignalRow τ) := do
  let id ← requiredText "Signal ID" 128 signalId
  match Table.row? SignalRow.id store.signals id with
  | some row => .ok row
  | none => .error (.signalNotFound ("Segnale non trovato: " ++ signalId))

/-! ## Batches write signals only -/

/-- Two stores that differ in their signals and occurrences only. -/
structure SignalsOnly (store later : TicketStore τ) : Prop where
  snapshotIngests : later.snapshotIngests = store.snapshotIngests
  tickets : later.tickets = store.tickets
  comments : later.comments = store.comments
  tasks : later.tasks = store.tasks
  auditEvents : later.auditEvents = store.auditEvents

/-- Nothing at all changes no more than the signals. -/
theorem SignalsOnly.refl (store : TicketStore τ) : store.SignalsOnly store :=
  ⟨rfl, rfl, rfl, rfl, rfl⟩

/-- Two such changes are one. -/
theorem SignalsOnly.trans {store between later : TicketStore τ}
    (first : store.SignalsOnly between) (second : between.SignalsOnly later) :
    store.SignalsOnly later :=
  ⟨second.snapshotIngests.trans first.snapshotIngests, second.tickets.trans first.tickets,
    second.comments.trans first.comments, second.tasks.trans first.tasks,
    second.auditEvents.trans first.auditEvents⟩

variable {platform} {store : TicketStore τ} {now : τ}

/-- The write of a signal changes no more. -/
theorem upsertChecked_signalsOnly (signal : CheckedSignal) :
    store.SignalsOnly (store.upsertChecked platform now signal).1 := by
  rw [upsertChecked]
  split
  · exact ⟨rfl, rfl, rfl, rfl, rfl⟩
  · split_ifs
    · exact SignalsOnly.refl store
    · exact ⟨rfl, rfl, rfl, rfl, rfl⟩

/-- Nor does a batch. -/
theorem upsertBatch_signalsOnly {batch : List SignalInput}
    {result : IngestStats × TicketStore τ}
    (returned : store.upsertBatch platform now batch = .ok result) :
    store.SignalsOnly result.2 := by
  rw [upsertBatch, map_eq_ok] at returned
  obtain ⟨final, rounds, rfl⟩ := returned
  have keeps : ∀ (state : TicketStore τ × Nat × Nat) (signal : SignalInput)
      (next : TicketStore τ × Nat × Nat), signal ∈ batch → store.SignalsOnly state.1 →
      upsertRound platform now state signal = .ok next → store.SignalsOnly next.1 := by
    intro state signal next _ before round
    rw [upsertRound, map_eq_ok] at round
    obtain ⟨upserted, checked, rfl⟩ := round
    rw [upsertSignal, map_eq_ok] at checked
    obtain ⟨signal', _, rfl⟩ := checked
    exact before.trans (upsertChecked_signalsOnly signal')
  exact foldlM_keeps keeps (SignalsOnly.refl store) rounds

/-- The digests of the ingested snapshots. -/
def ingestedDigests (store : TicketStore τ) : List String :=
  store.snapshotIngests.map SnapshotIngestRow.snapshotSha256

/-- What `ingest_snapshot_signals` does where it returns: nothing on a repeated snapshot, else
the whole batch and the marker of the snapshot. -/
theorem ingestSnapshotSignals_cases {batch : List SignalInput}
    {snapshotSha256 snapshotId generatedAt : String} {result : IngestStats × TicketStore τ}
    (returned : store.ingestSnapshotSignals platform now batch snapshotSha256 snapshotId
      generatedAt = .ok result) :
    ∃ digest, snapshotDigest platform snapshotSha256 = .ok digest ∧
      (∀ signal ∈ batch, platform.lower signal.snapshotSha256 = digest) ∧
      ((digest ∈ store.ingestedDigests ∧ result.2 = store) ∨
        digest ∉ store.ingestedDigests ∧ ∃ stats later,
          store.upsertBatch platform now batch = .ok (stats, later) ∧
          result.2 = { later with snapshotIngests := store.snapshotIngests ++
            [⟨digest, strip snapshotId, strip generatedAt, batch.length, now⟩] }) := by
  simp only [ingestSnapshotSignals, bind_eq_ok] at returned
  obtain ⟨digest, digestChecked, id, idChecked, generated, generatedChecked, returned⟩ := returned
  obtain ⟨rfl, _⟩ := requiredText_eq_ok.mp idChecked
  obtain ⟨rfl, _⟩ := requiredText_eq_ok.mp generatedChecked
  split_ifs at returned with foreign repeated
  · have own : ∀ signal ∈ batch, platform.lower signal.snapshotSha256 = digest := by
      simpa using foreign
    obtain rfl := Except.ok.inj returned
    exact ⟨digest, digestChecked, own, Or.inl ⟨List.contains_iff_mem.mp repeated, rfl⟩⟩
  · have own : ∀ signal ∈ batch, platform.lower signal.snapshotSha256 = digest := by
      simpa using foreign
    rw [bind_eq_ok] at returned
    obtain ⟨⟨stats, later⟩, ingested, returned⟩ := returned
    obtain rfl := Except.ok.inj returned
    have only := upsertBatch_signalsOnly ingested
    refine ⟨digest, digestChecked, own, Or.inr ⟨?_, stats, later, ingested, ?_⟩⟩
    · exact fun member => repeated (List.contains_iff_mem.mpr member)
    · rw [← only.snapshotIngests]

end TicketStore

end DTLab
