import DTLab.Receiver.Document
import DTLab.Tickets.Calls
import DTLab.Tickets.Ledger
import DTLab.Tickets.Sightings

/-!
# Ingesting an event

`ingest_host_ot_event` as the sequence of its transactions: the revision guard reads the stored
signal, `ingest_signals` writes, and the ticket policy follows call by call. Anything may happen
to the store between two of them.
-/

namespace DTLab

open Library (Json)
open Library.Attempt (map_eq_ok)

variable {τ : Type}

/-- `HostOtIngestResult`. -/
structure HostOtIngestResult where
  documentSha256 : String
  eventType : String
  signalId : Option String
  ticketId : Option String
  signalsSeen : Nat
  signalsCreated : Nat
  occurrencesCreated : Nat
  ticketCreated : Bool
  ticketEscalated : Bool
  tasksAdded : Nat
  deriving DecidableEq

/-- The result for a heartbeat. -/
def heartbeatResult (digest : String) : HostOtIngestResult where
  documentSha256 := digest
  eventType := "heartbeat"
  signalId := none
  ticketId := none
  signalsSeen := 0
  signalsCreated := 0
  occurrencesCreated := 0
  ticketCreated := false
  ticketEscalated := false
  tasksAdded := 0

/-- A call of `ingest_host_ot_event` between two transactions. -/
inductive IngestRun (τ : Type) where
  /-- `get_signal` is next. -/
  | guarding
  /-- `ingest_signals` is next. -/
  | ingesting
  /-- A call of the policy is next. -/
  | applying (stats : IngestStats) (policy : PolicyRun τ)
  | returned (result : HostOtIngestResult)
  | raised (fault : ReceiverFault)

variable (platform : ReceiverPlatform)

/-- The id of the signal of an event. -/
def hostOtSignalId (document : Json) : String := signalIdOf (hostOtFingerprint platform document)

/-- The revision of the event in a stored signal, where it is an `int`. -/
def SignalRow.storedRevision (row : SignalRow τ) : Option Int :=
  instanceInt (row.event.bind (memberOf "revision"))

/-- The revision of a document. -/
def documentRevision (document : Json) : Option ℚ :=
  (document.get "revision").bind (Json.number platform.dialect)

/-- The guard of `ingest_host_ot_event` against the stored signal. -/
def revisionErrors (row : SignalRow τ) (document : Json) : List String :=
  match row.storedRevision with
  | none => []
  | some existing =>
    let incoming := (documentRevision platform document).getD 0
    if incoming < existing then
      ["revision: precedente alla revisione già acquisita per l'episodio"]
    else if incoming = existing ∧ row.snapshotSha256 ≠ documentSha256 platform document then
      ["revision: documento diverso per una revisione episodio già acquisita"]
    else []

namespace IngestRun

/-- A call at its first transaction, or where it has ended before. -/
def start (document : Json) (documentSha256 : Option String) : IngestRun τ :=
  match signalFromHostOtEvent platform document documentSha256 with
  | .error fault => .raised fault
  | .ok (digest, none) => .returned (heartbeatResult digest)
  | .ok (_, some _) => .guarding

/-- A call behind a call of its policy. -/
def ofPolicy (document : Json) (stats : IngestStats) : PolicyRun τ → IngestRun τ
  | .returned result => .returned {
      documentSha256 := documentSha256 platform document
      eventType := "modbus_write"
      signalId := some (hostOtSignalId platform document)
      ticketId := some result.ticket.id
      signalsSeen := stats.signalsSeen
      signalsCreated := stats.signalsCreated
      occurrencesCreated := stats.occurrencesCreated
      ticketCreated := result.created
      ticketEscalated := result.escalated
      tasksAdded := result.tasksAdded }
  | .raised fault => .raised (.store fault)
  | policy => .applying stats policy

/-- The next transaction of a call, and the store behind it. -/
def step (context : CallContext τ) (store : TicketStore τ) (document : Json) :
    IngestRun τ → IngestRun τ × TicketStore τ
  | .guarding =>
    match store.getSignal (hostOtSignalId platform document) with
    | .ok row =>
      if revisionErrors platform row document = [] then (.ingesting, store)
      else (.raised (.event (revisionErrors platform row document)), store)
    | .error (.signalNotFound _) => (.ingesting, store)
    | .error fault => (.raised (.store fault), store)
  | .ingesting =>
    match store.ingestSignals platform.store context.now [hostOtSignal platform document] with
    | .ok (stats, later) => (.applying stats .reading, later)
    | .error fault => (.raised (.store fault), store)
  | .applying stats policy =>
    let (next, later) := policy.step platform.store context store
      (hostOtSignalId platform document) hostOtPolicyActor
    (ofPolicy platform document stats next, later)
  | .returned result => (.returned result, store)
  | .raised fault => (.raised fault, store)

/-- The transactions of a call one behind the other, each with its context. -/
def steps (document : Json) (contexts : List (CallContext τ)) (run : IngestRun τ)
    (store : TicketStore τ) : IngestRun τ × TicketStore τ :=
  contexts.foldl (fun state context => state.1.step platform context state.2 document)
    (run, store)

end IngestRun

/-! ## What a transaction writes -/

variable {platform} {context : CallContext τ} {store : TicketStore τ} {document : Json}

/-- A call of the policy writes as an operation of the store does, or not at all. -/
theorem PolicyRun.step_call [DecidableEq τ] (platform : StorePlatform) (run : PolicyRun τ)
    (signalId actor : String) :
    (run.step platform context store signalId actor).2 = store ∨
      (∃ desired created, run = .creating desired created ∧
        (StoreCall.createTicketWithTasks (policyRequest signalId actor desired)
          hostModbusWriteTasks).commit platform context store =
            .ok (run.step platform context store signalId actor).2) ∨
      ∃ desired created ticket added, run = .escalating desired created ticket added ∧
        (StoreCall.setTicketPriority ticket.id desired.text actor).commit platform context store =
          .ok (run.step platform context store signalId actor).2 := by
  cases run with
  | reading =>
    left
    rw [step]
    split
    · rfl
    · split_ifs <;> rfl
  | looking desired =>
    left
    rw [step]
    split <;> rfl
  | creating desired created =>
    rw [step]
    split
    · exact Or.inl rfl
    · rename_i ticket added later returned
      have committed : (StoreCall.createTicketWithTasks (policyRequest signalId actor desired)
          hostModbusWriteTasks).commit platform context store = .ok later := by
        rw [StoreCall.commit, returned]
        rfl
      refine Or.inr (Or.inl ⟨desired, created, rfl, ?_⟩)
      split_ifs <;> exact committed
  | escalating desired created ticket added =>
    rw [step]
    split
    · exact Or.inl rfl
    · rename_i next later returned
      refine Or.inr (Or.inr ⟨desired, created, ticket, added, rfl, ?_⟩)
      rw [StoreCall.commit, returned]
      rfl
  | returned result => exact Or.inl rfl
  | raised fault => exact Or.inl rfl

/-- The guard writes nothing. -/
theorem IngestRun.step_guarding (platform : ReceiverPlatform) (context : CallContext τ)
    (store : TicketStore τ) (document : Json) :
    ((IngestRun.guarding : IngestRun τ).step platform context store document).2 = store := by
  rw [step]
  split
  · split_ifs <;> rfl
  · rfl
  · rfl

/-- A transaction writes what one operation of the store writes, or nothing. -/
theorem IngestRun.step_call [DecidableEq τ] (run : IngestRun τ) (document : Json) :
    (run.step platform context store document).2 = store ∨
      ∃ call : StoreCall, call.commit platform.store context store =
        .ok (run.step platform context store document).2 := by
  cases run with
  | guarding => exact Or.inl (step_guarding platform context store document)
  | ingesting =>
    rw [step]
    split
    · rename_i stats later returned
      refine Or.inr ⟨.ingestSignals [hostOtSignal platform document], ?_⟩
      rw [StoreCall.commit, returned]
      rfl
    · exact Or.inl rfl
  | applying stats policy =>
    have written := @PolicyRun.step_call τ context store _ platform.store policy
      (hostOtSignalId platform document) hostOtPolicyActor
    rcases written with same | ⟨_, _, _, committed⟩ | ⟨_, _, _, _, _, committed⟩
    · exact Or.inl same
    · exact Or.inr ⟨_, committed⟩
    · exact Or.inr ⟨_, committed⟩
  | returned result => exact Or.inl rfl
  | raised fault => exact Or.inl rfl

/-- Only the transaction of the ingest writes signals. -/
theorem IngestRun.step_signals [DecidableEq τ] (sound : store.Sound) {run : IngestRun τ}
    (other : run ≠ .ingesting) (document : Json) :
    (run.step platform context store document).2.signals = store.signals := by
  cases run with
  | guarding => rw [step_guarding]
  | ingesting => exact absurd rfl other
  | applying stats policy =>
    have written := @PolicyRun.step_call τ context store _ platform.store policy
      (hostOtSignalId platform document) hostOtPolicyActor
    rcases written with same | ⟨_, _, _, committed⟩ | ⟨_, _, _, _, _, committed⟩
    · exact congrArg TicketStore.signals same
    · have statements := StoreCall.commit_statements _ sound committed
      exact signals_of_statements statements
    · have statements := StoreCall.commit_statements _ sound committed
      exact signals_of_statements statements
  | returned result => rfl
  | raised fault => rfl

/-! ## The signal of a write -/

/-- A fingerprint is a digest. -/
theorem hostOtFingerprint_hex (platform : ReceiverPlatform) (document : Json) :
    isDigestBody (hostOtFingerprint platform document).toList = true := by
  rw [hostOtFingerprint]
  exact platform.sha256_hex _

/-- The id of a signal passes its check. -/
theorem requiredText_hostOtSignalId (platform : ReceiverPlatform) (document : Json) :
    requiredText "Signal ID" 128 (hostOtSignalId platform document) =
      .ok (hostOtSignalId platform document) :=
  requiredText_signalIdOf (hostOtFingerprint_hex platform document)

/-- The id of a signal is its own strip. -/
theorem strip_hostOtSignalId (platform : ReceiverPlatform) (document : Json) :
    strip (hostOtSignalId platform document) = hostOtSignalId platform document :=
  (requiredText_eq_ok.mp (requiredText_hostOtSignalId platform document)).1

variable {checked : CheckedSignal}

/-- What the checks of the store keep of the signal of a write. -/
structure CheckedSignal.IsOf (checked : CheckedSignal) (platform : ReceiverPlatform)
    (document : Json) : Prop where
  fingerprint : checked.fingerprint = hostOtFingerprint platform document
  snapshotSha256 : checked.snapshotSha256 = documentSha256 platform document
  signalType : checked.signalType = hostOtSignalType
  sourceId : checked.sourceId = some hostOtSourceId
  payload : checked.payload = eventPayload document

/-- The signal of an event that passes the checks of the store is one of the event. -/
theorem checkSignal_hostOtSignal
    (passed : checkSignal platform.store (hostOtSignal platform document) = .ok checked) :
    checked.IsOf platform document := by
  obtain ⟨fingerprint, digest, type, source, _, _, _, payload⟩ := checkSignal_fields passed
  have own : signalFingerprint platform.store (hostOtFingerprint platform document) =
      .ok (hostOtFingerprint platform document) :=
    requiredDigest_of_digest _ _ _ (platform.sha256_hex _) (by decide)
  have document : snapshotDigest platform.store (documentSha256 platform document) =
      .ok (documentSha256 platform document) :=
    requiredDigest_of_digest _ _ _ (platform.sha256_hex _) (by decide)
  have evidence : evidenceText platform.store (eventEvidence platform ‹Json›) "source_id" =
      some hostOtSourceId := by
    simp [evidenceText, eventEvidence, List.lookup_cons, jsonText, platform.store.str_text]
  refine ⟨Except.ok.inj (fingerprint.symm.trans own), Except.ok.inj (digest.symm.trans document),
    Except.ok.inj (type.symm.trans requiredText_hostOtSignalType), ?_, payload⟩
  have named := source.symm.trans (congrArg (optionalText 512) evidence)
  exact Except.ok.inj (named.trans optionalText_hostOtSourceId)

/-- What the receiver makes of a document that it validates, under its own digest. -/
theorem signalFromHostOtEvent_validated (valid : Validated platform document) :
    signalFromHostOtEvent platform document (some (documentSha256 platform document)) =
      .ok (documentSha256 platform document,
        if textAt ["event_type"] document = "heartbeat" then none
        else some (hostOtSignal platform document)) := by
  have hex : isDigestBody (documentSha256 platform document).toList = true :=
    platform.sha256_hex _
  have same : platform.store.lower (strip (documentSha256 platform document)) =
      documentSha256 platform document := by
    rw [strip_of_digest hex, lower_of_digest platform.store hex]
  have validated := validateHostOtEvent_eq_ok.mpr valid
  by_cases heartbeat : textAt ["event_type"] document = "heartbeat" <;>
    simp [signalFromHostOtEvent, validated, same, hex, heartbeat, bind, Except.bind]

/-- The ingest of a write starts at its guard. -/
theorem IngestRun.start_write (valid : Validated platform document)
    (write : textAt ["event_type"] document ≠ "heartbeat") :
    (IngestRun.start platform document (some (documentSha256 platform document)) :
      IngestRun τ) = .guarding := by
  rw [start, signalFromHostOtEvent_validated valid, if_neg write]

/-- The write of a call: the store refuses the signal, or the signal is upserted. -/
theorem IngestRun.step_ingesting (platform : ReceiverPlatform) (context : CallContext τ)
    (store : TicketStore τ) (document : Json) :
    (∃ fault, checkSignal platform.store (hostOtSignal platform document) = .error fault ∧
      (IngestRun.ingesting : IngestRun τ).step platform context store document =
        (.raised (.store fault), store)) ∨
    ∃ checked stats, checkSignal platform.store (hostOtSignal platform document) = .ok checked ∧
      (IngestRun.ingesting : IngestRun τ).step platform context store document =
        (.applying stats .reading,
          (store.upsertChecked platform.store context.now checked).1) := by
  cases passed : checkSignal platform.store (hostOtSignal platform document) with
  | error fault =>
    have refused : store.ingestSignals platform.store context.now
        [hostOtSignal platform document] = .error fault := by
      simp [TicketStore.ingestSignals, TicketStore.upsertBatch, upsertRound,
        TicketStore.upsertSignal, passed, Except.map, bind, Except.bind]
    exact Or.inl ⟨fault, rfl, by simp only [step, refused]⟩
  | ok checked =>
    have written := TicketStore.ingestSignals_single store context.now passed
    exact Or.inr ⟨checked, _, rfl, by simp only [step, written]; rfl⟩

/-! ## The guard -/

/-- The signal of an event is looked up by its fingerprint. -/
theorem getSignal_hostOtSignalId (platform : ReceiverPlatform) (store : TicketStore τ)
    (document : Json) : store.getSignal (hostOtSignalId platform document) =
      match store.signalOf (hostOtFingerprint platform document) with
      | some row => .ok row
      | none => .error
        (.signalNotFound ("Segnale non trovato: " ++ hostOtSignalId platform document)) := by
  simp only [TicketStore.getSignal, requiredText_hostOtSignalId, bind, Except.bind]
  rw [TicketStore.signalOf_eq]
  rfl

/-- An episode that is not there passes the guard. -/
theorem IngestRun.step_guarding_absent {context : CallContext τ} {store : TicketStore τ}
    (absent : store.signalOf (hostOtFingerprint platform document) = none) :
    (IngestRun.guarding : IngestRun τ).step platform context store document =
      (.ingesting, store) := by
  simp only [step, getSignal_hostOtSignalId, absent]

/-- A revision without errors against the stored one passes the guard. -/
theorem IngestRun.step_guarding_passes {context : CallContext τ} {store : TicketStore τ}
    {row : SignalRow τ} (found : store.signalOf (hostOtFingerprint platform document) = some row)
    (passes : revisionErrors platform row document = []) :
    (IngestRun.guarding : IngestRun τ).step platform context store document =
      (.ingesting, store) := by
  simp only [step, getSignal_hostOtSignalId, found, passes, if_true]

/-- A revision with errors against the stored one is refused. -/
theorem IngestRun.step_guarding_refused {context : CallContext τ} {store : TicketStore τ}
    {row : SignalRow τ} (found : store.signalOf (hostOtFingerprint platform document) = some row)
    (errors : revisionErrors platform row document ≠ []) :
    (IngestRun.guarding : IngestRun τ).step platform context store document =
      (.raised (.event (revisionErrors platform row document)), store) := by
  simp only [step, getSignal_hostOtSignalId, found, errors, if_false]

end DTLab
