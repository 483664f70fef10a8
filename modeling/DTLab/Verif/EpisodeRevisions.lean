import DTLab.Verif.SensorIsolation

/-!
# Revisions of an episode

The guard of an ingest and its write are two transactions. The revision that the signal of an
episode shows rises as long as every write still finds a lower one, or its own document; where two
requests pass the guard before either of them writes, the later write wins whatever its revision.
-/

namespace DTLab

open Library (Json Dict System.Keeps System.run)

variable {τ : Type} (platform : ReceiverPlatform)

/-- The revision that a stored signal shows. -/
def SignalRow.revisionNumber (row : SignalRow τ) : Option ℚ :=
  (row.event.bind (memberOf "revision")).bind (Json.number platform.dialect)

/-- A row that shows the document of an earlier one, or a higher revision. -/
def SignalRow.Supersedes (next row : SignalRow τ) : Prop :=
  (next.snapshotSha256 = row.snapshotSha256 ∧ next.payload = row.payload) ∨
    ∃ old new, row.revisionNumber platform = some old ∧
      next.revisionNumber platform = some new ∧ old < new

variable {platform}

/-- Every row supersedes itself. -/
theorem SignalRow.Supersedes.refl (row : SignalRow τ) : row.Supersedes platform row :=
  Or.inl ⟨rfl, rfl⟩

/-- A row with the payload of another one shows its revision. -/
theorem SignalRow.revisionNumber_congr {row other : SignalRow τ}
    (payload : row.payload = other.payload) :
    row.revisionNumber platform = other.revisionNumber platform := by
  rw [revisionNumber, SignalRow.event, payload]
  rfl

/-- What supersedes a row that supersedes another one supersedes that one. -/
theorem SignalRow.Supersedes.trans {first second third : SignalRow τ}
    (later : third.Supersedes platform second) (earlier : second.Supersedes platform first) :
    third.Supersedes platform first := by
  rcases earlier with ⟨digest, payload⟩ | ⟨old, between, start, middle, rises⟩
  · rcases later with ⟨digest', payload'⟩ | ⟨old, new, start, last, rises⟩
    · exact Or.inl ⟨digest'.trans digest, payload'.trans payload⟩
    · rw [revisionNumber_congr payload] at start
      exact Or.inr ⟨old, new, start, last, rises⟩
  · rcases later with ⟨_, payload⟩ | ⟨other, new, also, last, onwards⟩
    · rw [← revisionNumber_congr payload] at middle
      exact Or.inr ⟨old, between, start, middle, rises⟩
    · obtain rfl := Option.some.inj (middle.symm.trans also)
      exact Or.inr ⟨old, new, start, last, rises.trans onwards⟩

/-- A row with the payload of an event shows its revision. -/
theorem SignalRow.revisionNumber_event {row : SignalRow τ} {document : Json}
    (payload : row.payload = eventPayload document) :
    row.revisionNumber platform = documentRevision platform document := by
  rw [revisionNumber, SignalRow.event, payload]
  rfl

/-! ## Steps -/

variable [DecidableEq τ] (platform : IngressPlatform) (config : IngressConfig)
  (keys : Dict String SensorKey) (fingerprint : String)

/-- Where a request writes the signal of a fingerprint, the signal is new, shows the same document
or shows a lower revision. No other caller of the store writes it. -/
def IngressWorld.OrderedWrites (world : IngressWorld τ) (action : IngressAction τ) : Prop :=
  match action with
  | .operate context call =>
    ∀ signal ∈ call.upserts platform.receiver.store context world.store,
      signal.fingerprint ≠ fingerprint
  | .advance index _ _ => ∀ call ∈ world.calls[index]?,
    match call.run with
    | .ingesting _ .ingesting =>
      hostOtFingerprint platform.receiver call.event = fingerprint →
        ∀ row ∈ world.store.signalOf fingerprint,
          row.snapshotSha256 = documentSha256 platform.receiver call.event ∨
            ∃ old new, row.revisionNumber platform.receiver = some old ∧
              documentRevision platform.receiver call.event = some new ∧ old < new
    | _ => True
  | _ => True

/-- Along a run the signal of a fingerprint shows one document until it shows a higher revision. -/
def RevisionsAdvance (start : IngressWorld τ) (actions : List (IngressAction τ)) : Prop :=
  ∀ before after, actions = before ++ after →
    ∀ middle ∈ System.run (IngressWorld.step platform config keys) start before,
      ∀ final ∈ System.run (IngressWorld.step platform config keys) middle after,
        ∀ row ∈ middle.store.signalOf fingerprint, ∃ next ∈ final.store.signalOf fingerprint,
          next.Supersedes platform.receiver row

variable {platform config keys fingerprint} {world next : IngressWorld τ}
  {row : SignalRow τ}

/-- A transaction of an ordered request leaves a row that supersedes the one before it. -/
theorem IngestRun.step_supersedes {context : CallContext τ} {call : IngressCall τ}
    {run : IngestRun τ} {stored : Bool} {index : Nat} {receivedAt : String}
    (built : world.Built platform) (waits : world.calls[index]? = some call)
    (ingesting : call.run = .ingesting stored run)
    (ordered : world.OrderedWrites platform fingerprint (.advance index context receivedAt))
    (found : world.store.signalOf fingerprint = some row) :
    ∃ later, (run.step platform.receiver context world.store call.event).2.signalOf fingerprint =
      some later ∧ later.Supersedes platform.receiver row := by
  by_cases writes : run = .ingesting
  · subst writes
    have meets := ordered call waits
    rw [ingesting] at meets
    rcases IngestRun.step_ingesting platform.receiver context world.store call.event with
      ⟨fault, _, refused⟩ | ⟨checked, stats, passed, upserted⟩
    · rw [refused]
      exact ⟨row, found, .refl row⟩
    · rw [upserted]
      have fields := checkSignal_hostOtSignal passed
      by_cases own : checked.fingerprint = fingerprint
      · rw [← own] at found ⊢
        rw [fields.fingerprint] at own
        obtain ⟨later, behind, digest, same | ⟨sights, payload⟩⟩ :=
          TicketStore.signalOf_upsertChecked_self world.store context.now checked
        · obtain rfl := Option.some.inj (found.symm.trans same)
          exact ⟨row, behind, .refl row⟩
        · refine ⟨later, behind, ?_⟩
          have shown := sights.2
          rw [found, fields.snapshotSha256] at shown
          rw [fields.fingerprint, own] at found
          rcases meets own row found with same | ⟨old, new, before, incoming, rises⟩
          · exact absurd (congrArg some same) shown
          · rw [← SignalRow.revisionNumber_event (payload.trans fields.payload)] at incoming
            exact Or.inr ⟨old, new, before, incoming, rises⟩
      · have ledger : (world.store.upsertChecked platform.receiver.store context.now
            checked).1.ledger fingerprint = world.store.ledger fingerprint :=
          TicketStore.ledger_upsertChecked_ne (Ne.symm own)
        exact ⟨row, (congrArg SignalLedger.row ledger).trans found, .refl row⟩
  · have same := @IngestRun.step_signals τ platform.receiver context world.store _ built.sound run
      writes call.event
    refine ⟨row, ?_, .refl row⟩
    rw [TicketStore.signalOf, same]
    exact found

/-- An ordered action leaves a row that supersedes the one before it. -/
theorem IngressWorld.step_supersedes {action : IngressAction τ} (built : world.Built platform)
    (ordered : world.OrderedWrites platform fingerprint action)
    (taken : world.step platform config keys action = some next)
    (found : world.store.signalOf fingerprint = some row) :
    ∃ later, next.store.signalOf fingerprint = some later ∧
      later.Supersedes platform.receiver row := by
  cases action with
  | operate context call =>
    obtain rfl := Option.some.inj taken
    refine ⟨row, ?_, .refl row⟩
    rw [call.signalOf_apply context built.sound, TicketStore.sighted_eq_nil ordered]
    exact found
  | request now request =>
    refine ⟨row, ?_, .refl row⟩
    simp only [IngressWorld.step] at taken
    split at taken
    · rw [← Option.some.inj taken]
      exact found
    · rw [← Option.some.inj taken]
      exact found
  | advance index context receivedAt =>
    obtain ⟨call, waits, store⟩ := IngressWorld.step_advance taken
    rw [store]
    rcases AcceptRun.step_store platform world context receivedAt call with
      same | ⟨stored, run, ingesting, written⟩
    · rw [same]
      exact ⟨row, found, .refl row⟩
    · rw [written]
      exact IngestRun.step_supersedes built waits ingesting ordered found
  | fail index message =>
    obtain ⟨call, _, rfl⟩ := Option.map_eq_some_iff.mp taken
    exact ⟨row, found, .refl row⟩
  | crash =>
    obtain rfl := Option.some.inj taken
    exact ⟨row, found, .refl row⟩

/-! ## Runs -/

/-- The second revision of the write that the east of the bench reports. -/
def eastRevision : Json := (benchEvent "b" "sensor-east" 2).toJson

/-- Two requests of the east of which both pass the guard before either writes, and the second one
writes first. -/
def eastRaces : List (IngressAction Nat) :=
  [.request 0 (benchRequest eastKey (benchEvent "a" "sensor-east" 1)),
    .advance 0 (shiftContext 0) "now", .advance 0 (shiftContext 0) "now",
    .request 0 (benchRequest eastKey (benchEvent "b" "sensor-east" 2)),
    .advance 1 (shiftContext 1) "now", .advance 1 (shiftContext 1) "now",
    .advance 1 (shiftContext 1) "now", .advance 0 (shiftContext 2) "now"]

/-- The receiver validates the second revision. -/
theorem eastRevision_validated : Validated benchReceiver eastRevision :=
  benchReports_validated (by simp [benchReports])

/-- The second revision is no heartbeat. -/
theorem eastRevision_type : textAt ["event_type"] eastRevision ≠ "heartbeat" := by
  have type : textAt ["event_type"] eastRevision = "modbus_write" := rfl
  rw [type]
  decide

/-- The two revisions have different digests. -/
theorem revisions_differ :
    documentSha256 benchReceiver eastWrite ≠ documentSha256 benchReceiver eastRevision :=
  List.ne_of_not_mem_cons (List.not_mem_of_not_mem_cons benchReports_sound.2)

/-- The request of the second revision is admitted. -/
theorem admission_eastRevision : admission benchIngress benchConfig benchKeys 0
    (benchRequest eastKey (benchEvent "b" "sensor-east" 2)) =
      .ok (eastKey, eastRevision) :=
  admission_bench (by simp) eastRevision_validated

end DTLab
