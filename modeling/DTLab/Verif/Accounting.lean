import DTLab.Verif.Agreement

/-!
# Accounting of the aggregator

Every event of a run counts each observation of its episode once, in the buckets or as
dropped, and once by outcome. The revisions of one episode are numbered from one and never
shrink, and after a final flush the latest revisions count every observation of the run.
-/

namespace DTLab

open Library (Text Dict Tally latest sum_latest Machine.run)

variable {τ : Type}

/-- The buckets of an event. -/
def HostOtEvent.writes (event : HostOtEvent) : List WriteBucket :=
  match event.modbus with
  | some modbus => modbus.writes
  | none => []

/-- `modbus.request_count` of an event. -/
def HostOtEvent.requestCount (event : HostOtEvent) : Nat :=
  match event.modbus with
  | some modbus => modbus.requestCount
  | none => 0

/-- The counters of an event agree, and its buckets are few and distinct. -/
def WellCounted (maxOperationBuckets : Int) (event : HostOtEvent) : Prop :=
  ∃ modbus outcome, event.modbus = some modbus ∧ event.outcome = some outcome ∧
    modbus.requestCount =
      (modbus.writes.map WriteBucket.count).sum + modbus.droppedOperationBuckets ∧
    modbus.requestCount =
      outcome.states.processed + outcome.states.rejected + outcome.states.unknown ∧
    (modbus.writes.length : Int) ≤ max 0 maxOperationBuckets ∧
    (modbus.writes.map WriteBucket.writeKey).Nodup

/-- A later revision counts no less than an earlier one, in total and in every bucket. -/
def Grows (earlier later : HostOtEvent) : Prop :=
  earlier.requestCount ≤ later.requestCount ∧
    ∀ bucket ∈ earlier.writes, ∃ grown ∈ later.writes,
      grown.writeKey = bucket.writeKey ∧ bucket.count ≤ grown.count

/-- The revisions of one episode among events, in order. -/
def revisionsOf (sequence : Nat) (events : List HostOtEvent) : List HostOtEvent :=
  events.filter fun event => decide (event.episodeSequence = sequence)

/-- Outcome counters add up to the number of observations. -/
theorem outcomeStates_total (past : List (Observation τ)) :
    (outcomeStates past).processed + (outcomeStates past).rejected +
      (outcomeStates past).unknown = past.length := by
  simp only [outcomeStates, outcomeCount]
  induction past with
  | nil => rfl
  | cons observation past ih =>
    simp only [List.countP_cons, List.length_cons]
    cases observation.outcomeState <;> simp <;> omega

variable [LinearOrder τ] [Sub τ] (sha256Text : Text → String) (config : AggregatorConfig τ)

/-- The buckets of an episode carry the keys they are filed under. -/
theorem writeKeys_eq_keys {past : List (Observation τ)} {episode : Episode τ}
    (accounts : Accounts config past episode) :
    episode.writes.values.map WriteBucket.writeKey = episode.writes.keys := by
  rw [Dict.values, Dict.keys, List.map_map]
  apply List.map_congr_left
  rintro ⟨key, bucket⟩ member
  have found := (accounts.tally.get?_eq key).symm.trans (Dict.get?_eq_some.mpr member)
  obtain ⟨operation, -, rfl, rfl⟩ := expected_eq_some.mp found
  rfl

/-- Every document is well counted. -/
theorem wellCounted_document (report : Report τ) :
    WellCounted config.maxOperationBuckets (report.document sha256Text config) := by
  have accounts := report.history.accounts sha256Text config report.sequence
  have order := sortWrites_perm
    (report.history.episode sha256Text config report.sequence).writes.values
  refine ⟨_, _, report.document_modbus sha256Text config,
    report.document_outcome sha256Text config, ?_, ?_, ?_, ?_⟩
  · have total := accounts.tally.total WriteBucket.count fun _ _ => rfl
    simp only [Report.modbus, (order.map _).sum_eq, total, accounts.requestCount, operations,
      List.length_map]
  · simp only [Report.modbus_requestCount, Report.outcome, outcomeStates_total, Report.size]
  · have size := accounts.tally.size_le
    simp only [Report.modbus, order.length_eq]
    have length : (report.history.episode sha256Text config
        report.sequence).writes.values.length ≤ config.maxOperationBuckets.toNat := by
      simpa [Dict.size, Dict.values, writeRules] using size
    omega
  · simp only [Report.modbus]
    rw [(order.map WriteBucket.writeKey).nodup_iff, writeKeys_eq_keys config accounts]
    exact Dict.distinct _

/-- A report on a longer history gives a document that grows. -/
theorem grows_document {earlier later : Report τ}
    (longer : earlier.history.all <+: later.history.all) :
    Grows (earlier.document sha256Text config) (later.document sha256Text config) := by
  refine ⟨?_, ?_⟩
  · simp only [HostOtEvent.requestCount, Report.document_modbus, Report.modbus_requestCount]
    exact longer.length_le
  · intro bucket member
    simp only [HostOtEvent.writes, Report.document_modbus] at member ⊢
    obtain ⟨operation, kept, rfl⟩ := (earlier.mem_writes sha256Text config bucket).mp member
    exact ⟨_, (later.mem_writes sha256Text config _).mpr ⟨operation, kept.extend longer, rfl⟩,
      rfl, keyCount_le longer _⟩

/-- The latest documents are the documents of the latest reports. -/
theorem latest_documents (reports : List (Report τ)) :
    latest HostOtEvent.episodeSequence (reports.map (Report.document sha256Text config)) =
      (latest Report.sequence reports).map (Report.document sha256Text config) := by
  induction reports with
  | nil => rfl
  | cons report rest ih =>
    simp only [List.map_cons, latest, ih, List.map_map, Function.comp_def,
      Report.document_episodeSequence]
    split_ifs <;> rfl

/-- The accounting of every run: each event is well counted, the revisions of an episode are
1, 2, 3, … and grow, and after a final `flush_all` the latest revisions count every
observation. -/
theorem aggregator_accounting (nextSequence : Nat) (calls : List (AggregatorCall τ)) :
    (∀ event ∈ Aggregator.events sha256Text config nextSequence calls,
        WellCounted config.maxOperationBuckets event) ∧
      (∀ sequence, (revisionsOf sequence
          (Aggregator.events sha256Text config nextSequence calls)).map HostOtEvent.revision =
        List.range' 1 (revisionsOf sequence
          (Aggregator.events sha256Text config nextSequence calls)).length) ∧
      (Aggregator.events sha256Text config nextSequence calls).Pairwise (fun earlier later =>
        earlier.episodeSequence = later.episodeSequence → Grows earlier later) ∧
      ((latest HostOtEvent.episodeSequence
          (Aggregator.events sha256Text config nextSequence (calls ++ [.flushAll]))).map
        HostOtEvent.requestCount).sum = (observations calls).length := by
  have records := Ledger.records_run config nextSequence calls
  refine ⟨?_, ?_, ?_, ?_⟩
  · rw [events_eq]
    intro event member
    obtain ⟨report, -, rfl⟩ := List.mem_map.mp member
    exact wellCounted_document sha256Text config report
  · intro sequence
    have numbered := records.numbered sequence
    have revisions : revisionsOf sequence
        (Aggregator.events sha256Text config nextSequence calls) =
        (reportsOn sequence (Ledger.reports config nextSequence calls)).map
          (Report.document sha256Text config) := by
      rw [events_eq, revisionsOf, reportsOn, List.filter_map]
      simp only [Function.comp_def, Report.document_episodeSequence]
    have shifted : HostOtEvent.revision ∘ Report.document sha256Text config =
        (fun n => 1 + n) ∘ Report.earlier := by
      funext report
      exact Nat.add_comm _ _
    rw [revisions, List.map_map, shifted, ← List.map_map, numbered, List.length_map,
      List.range'_eq_map_range]
  · rw [events_eq, List.pairwise_map]
    refine records.growing.imp fun grows same => ?_
    simp only [Report.document_episodeSequence] at same
    exact grows_document sha256Text config (grows same).1
  · have total := Ledger.total_flushAll config nextSequence calls
    rw [events_eq, latest_documents, List.map_map, ← total]
    have counts : HostOtEvent.requestCount ∘ Report.document sha256Text config =
        Report.size := by
      funext report
      simp [HostOtEvent.requestCount]
    rw [counts]

/-- With a negative bound an event without buckets has more buckets than the bound. -/
theorem writes_exceed_negative_bound :
    ¬∀ event ∈ Aggregator.events sampleHash (sampleConfig (-1)) 0
        (sampleCall (writeRegister 3 0) "processed" 100), (event.writes.length : Int) ≤ -1 := by
  decide

end DTLab
