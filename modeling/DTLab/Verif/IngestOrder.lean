import DTLab.Verif.SignalLedger
import DTLab.Verif.TicketHistory
import Mathlib.Data.String.Basic

/-!
# The order of ingestion

An upsert overwrites the row of a signal with what it was given, whenever that was generated. So
the row shows the snapshot that was committed last, which is the newest one exactly when no older
snapshot with the fingerprint was ingested behind it.
-/

namespace DTLab

variable {τ κ : Type} {platform : StorePlatform}

/-! ## What a row shows -/

/-- A row shows what a signal of a snapshot says. -/
structure SignalRow.Shows (row : SignalRow τ) (signal : CheckedSignal) : Prop where
  severity : row.severity = signal.severity
  title : row.title = signal.title
  description : row.description = signal.description
  payload : row.payload = signal.payload
  snapshotSha256 : row.snapshotSha256 = signal.snapshotSha256

/-- Behind a sighting the row shows its signal. -/
theorem SignalLedger.observe_shows (platform : StorePlatform) (ledger : SignalLedger τ)
    (sighting : Sighting τ) :
    ∃ row, (ledger.observe platform sighting).row = some row ∧ row.Shows sighting.signal := by
  rcases observe_cases platform ledger sighting with
    ⟨_, same⟩ | ⟨row, _, _, same⟩ | ⟨row, _, _, same⟩
  all_goals
    rw [same]
    exact ⟨_, rfl, rfl, rfl, rfl, rfl, rfl⟩

/-- The batches that have a fingerprint, in the order in which they were committed. -/
def containing (done : List (CheckedBatch τ)) (fingerprint : String) : List (CheckedBatch τ) :=
  done.filter fun batch => (batch.signalOf fingerprint).isSome

/-- The last sighting of a fingerprint is that of the last batch that has it. -/
theorem getLast?_sightings (done : List (CheckedBatch τ)) (fingerprint : String) :
    (sightings done fingerprint).getLast? = (containing done fingerprint).getLast?.bind
      fun batch => (batch.signalOf fingerprint).map fun signal => ⟨signal, batch.now⟩ := by
  induction done using List.reverseRecOn with
  | nil => rfl
  | append_singleton done batch ih =>
    rw [sightings, containing, List.filterMap_append, List.filter_append]
    cases found : batch.signalOf fingerprint with
    | none =>
      simp only [List.filterMap_cons, found, Option.map_none, List.filterMap_nil, List.append_nil,
        List.filter_cons, Option.isSome_none, Bool.false_eq_true, if_false, List.filter_nil]
      exact ih
    | some signal => simp [found]

/-- The row of a signal shows the last committed batch that has it. -/
theorem row_shows_last (batches : List (SnapshotBatch τ)) {fingerprint : String}
    {batch : CheckedBatch τ} {signal : CheckedSignal}
    (last : (containing (committed platform batches) fingerprint).getLast? = some batch)
    (found : batch.signalOf fingerprint = some signal) :
    ∃ row, (TicketStore.ingested platform batches).signalOf fingerprint = some row ∧
      row.Shows signal := by
  have kept := (ledgerOf_ingested platform batches).ledger fingerprint
  have behind := getLast?_sightings (committed platform batches) fingerprint
  rw [last, Option.bind_some, found, Option.map_some] at behind
  obtain ⟨earlier, split⟩ := List.getLast?_eq_some_iff.mp behind
  rw [split, SignalLedger.of_concat] at kept
  obtain ⟨row, present, shows'⟩ := SignalLedger.observe_shows platform
    (SignalLedger.of platform earlier) ⟨signal, batch.now⟩
  exact ⟨row, (congrArg SignalLedger.row kept).trans present, shows'⟩

/-! ## The newest snapshot -/

variable [LinearOrder κ] (instantOf : String → κ)

/-- The newest of the batches that have a fingerprint. -/
structure Newest (done : List (CheckedBatch τ)) (fingerprint : String)
    (batch : CheckedBatch τ) : Prop where
  member : batch ∈ containing done fingerprint
  greatest : ∀ other ∈ containing done fingerprint,
    instantOf other.generatedAt ≤ instantOf batch.generatedAt

/-- In the order of their instants, the newest batch with a fingerprint is the last one. -/
theorem getLast?_of_sorted {done : List (CheckedBatch τ)} {fingerprint : String}
    {batch : CheckedBatch τ} (newest : Newest instantOf done fingerprint batch)
    (sorted : done.Pairwise fun early late =>
      instantOf early.generatedAt < instantOf late.generatedAt) :
    (containing done fingerprint).getLast? = some batch := by
  have ordered : (containing done fingerprint).Pairwise fun early late =>
      instantOf early.generatedAt < instantOf late.generatedAt := sorted.filter _
  obtain ⟨early, late, split⟩ := List.append_of_mem newest.member
  cases late with
  | nil => rw [split, List.getLast?_concat]
  | cons next late =>
    rw [split] at ordered
    have inside : next ∈ containing done fingerprint := by
      rw [split]
      simp
    have before := (List.pairwise_append.mp ordered).2.1
    have behind := (List.pairwise_cons.mp before).1 next List.mem_cons_self
    exact absurd (newest.greatest next inside) (not_le.mpr behind)

/-- Snapshots that are committed in the order of their instants leave the newest one in the row. -/
theorem shows_newest_of_sorted (batches : List (SnapshotBatch τ)) {fingerprint : String}
    {batch : CheckedBatch τ} {signal : CheckedSignal}
    (newest : Newest instantOf (committed platform batches) fingerprint batch)
    (found : batch.signalOf fingerprint = some signal)
    (sorted : (committed platform batches).Pairwise fun early late =>
      instantOf early.generatedAt < instantOf late.generatedAt) :
    ∃ row, (TicketStore.ingested platform batches).signalOf fingerprint = some row ∧
      row.Shows signal :=
  row_shows_last batches (getLast?_of_sorted instantOf newest sorted) found

/-! ## Two days -/

/-- The snapshot of a day, with a finding. -/
def dayBatch (digest generatedAt : String) : SnapshotBatch Nat where
  now := 0
  signals := [shiftSignal digest]
  snapshotSha256 := digest
  snapshotId := "snapshot"
  generatedAt := generatedAt

/-- The snapshot of a day behind its checks. -/
def dayChecked (digest generatedAt : String) : CheckedBatch Nat where
  now := 0
  digest := digest
  snapshotId := "snapshot"
  generatedAt := generatedAt
  signals := [shiftChecked digest]

/-- The snapshot of a day passes its checks. -/
theorem check_day {digest generatedAt : String} (isDigest : isDigestBody digest.toList = true)
    (instant : requiredText "Timestamp snapshot" 64 generatedAt = .ok generatedAt) :
    (dayBatch digest generatedAt).check shiftPlatform = .ok (dayChecked digest generatedAt) := by
  have snapshot : snapshotDigest shiftPlatform digest = .ok digest :=
    requiredDigest_of_digest _ _ _ isDigest (by decide)
  have snapshotId : requiredText "Snapshot ID" 1024 "snapshot" = .ok "snapshot" := by
    decide
  have own : ([shiftSignal digest].any fun signal =>
      shiftPlatform.lower signal.snapshotSha256 != digest) = false := by
    have lowered := lower_of_digest shiftPlatform isDigest
    simp [shiftSignal, lowered]
  simp only [SnapshotBatch.check, dayBatch, snapshot, snapshotId, instant, own, bind, Except.bind,
    Bool.false_eq_true, if_false]
  simp [checkSignal_shift isDigest, bind, Except.bind, pure, Except.pure, dayChecked]

/-- The snapshots of two days, each with the finding. -/
theorem committed_days {first second firstDay secondDay : String}
    (firstDigest : isDigestBody first.toList = true)
    (secondDigest : isDigestBody second.toList = true) (different : first ≠ second)
    (firstInstant : requiredText "Timestamp snapshot" 64 firstDay = .ok firstDay)
    (secondInstant : requiredText "Timestamp snapshot" 64 secondDay = .ok secondDay) :
    committed shiftPlatform [dayBatch first firstDay, dayBatch second secondDay] =
      [dayChecked first firstDay, dayChecked second secondDay] := by
  simp [committed, check_day firstDigest firstInstant, check_day secondDigest secondInstant,
    dayChecked, different]

/-- Both snapshots have the finding. -/
theorem containing_days (first second firstDay secondDay : String) :
    containing [dayChecked first firstDay, dayChecked second secondDay] (plainDigest '0') =
      [dayChecked first firstDay, dayChecked second secondDay] := by
  simp [containing, CheckedBatch.signalOf, dayChecked, shiftChecked]

/-- The digest of ones is one. -/
theorem ones_isDigest : isDigestBody (plainDigest '1').toList = true :=
  plainDigest_isDigest (by decide)

/-- The days of the two snapshots are texts that the store takes. -/
theorem days_required :
    requiredText "Timestamp snapshot" 64 "2026-01-01" = .ok "2026-01-01" ∧
      requiredText "Timestamp snapshot" 64 "2026-01-02" = .ok "2026-01-02" := by
  decide

/-- In the order of the two days. -/
theorem committed_inOrder :
    committed shiftPlatform [dayBatch (plainDigest '0') "2026-01-01",
        dayBatch (plainDigest '1') "2026-01-02"] =
      [dayChecked (plainDigest '0') "2026-01-01", dayChecked (plainDigest '1') "2026-01-02"] :=
  committed_days zeros_isDigest ones_isDigest (by decide) days_required.1 days_required.2

/-- The older snapshot behind the newer one. -/
theorem committed_backfilled :
    committed shiftPlatform [dayBatch (plainDigest '1') "2026-01-02",
        dayBatch (plainDigest '0') "2026-01-01"] =
      [dayChecked (plainDigest '1') "2026-01-02", dayChecked (plainDigest '0') "2026-01-01"] :=
  committed_days ones_isDigest zeros_isDigest (by decide) days_required.2 days_required.1

/-- The snapshot of the second day is the newest. -/
theorem newest_inOrder :
    Newest id [dayChecked (plainDigest '0') "2026-01-01",
      dayChecked (plainDigest '1') "2026-01-02"] (plainDigest '0')
      (dayChecked (plainDigest '1') "2026-01-02") := by
  constructor
  · simp [containing_days]
  · intro other member
    rw [containing_days, List.mem_pair] at member
    rcases member with rfl | rfl <;> decide

/-- So it is where it is committed first. -/
theorem newest_backfilled :
    Newest id [dayChecked (plainDigest '1') "2026-01-02",
      dayChecked (plainDigest '0') "2026-01-01"] (plainDigest '0')
      (dayChecked (plainDigest '1') "2026-01-02") := by
  constructor
  · simp [containing_days]
  · intro other member
    rw [containing_days, List.mem_pair] at member
    rcases member with rfl | rfl <;> decide

/-- A snapshot of a day has the finding. -/
theorem signalOf_day (digest generatedAt : String) :
    (dayChecked digest generatedAt).signalOf (plainDigest '0') = some (shiftChecked digest) := by
  simp [CheckedBatch.signalOf, dayChecked, shiftChecked]

/-! ## The row shows the newest snapshot -/

/-- The row of a signal shows the newest of the ingested snapshots that have it exactly when that
one was committed last of them. -/
theorem shows_newest_iff_last (platform : StorePlatform) (batches : List (SnapshotBatch τ))
    (fingerprint : String) (batch : CheckedBatch τ) (signal : CheckedSignal)
    (newest : Newest instantOf (committed platform batches) fingerprint batch)
    (found : batch.signalOf fingerprint = some signal) :
    (∃ row, (TicketStore.ingested platform batches).signalOf fingerprint = some row ∧
      row.Shows signal) ↔
      (containing (committed platform batches) fingerprint).getLast? = some batch := by
  constructor
  · rintro ⟨row, present, shows'⟩
    cases last : (containing (committed platform batches) fingerprint).getLast? with
    | none =>
      have member := newest.member
      rw [List.getLast?_eq_none_iff.mp last] at member
      exact absurd member List.not_mem_nil
    | some final =>
      have kept := ledgerOf_ingested platform batches
      have inside := List.mem_filter.mp (List.mem_of_getLast? last)
      obtain ⟨other, seen⟩ := Option.isSome_iff_exists.mp inside.2
      obtain ⟨row', present', shown⟩ := row_shows_last batches last seen
      obtain rfl := Option.some.inj (present.symm.trans present')
      have there : batch ∈ committed platform batches := (List.mem_filter.mp newest.member).1
      have same : final.digest = batch.digest := by
        calc final.digest = other.snapshotSha256 :=
              (kept.own final inside.1 other (List.mem_of_find?_eq_some seen)).symm
          _ = signal.snapshotSha256 := shown.snapshotSha256.symm.trans shows'.snapshotSha256
          _ = batch.digest := kept.own batch there signal (List.mem_of_find?_eq_some found)
      exact congrArg some (List.inj_on_of_nodup_map kept.distinct inside.1 there same)
  · intro last
    exact row_shows_last batches last found

/-- Where the second day is committed last, the row shows it. -/
theorem shows_newest_inOrder :
    ∃ row, (TicketStore.ingested shiftPlatform [dayBatch (plainDigest '0') "2026-01-01",
      dayBatch (plainDigest '1') "2026-01-02"]).signalOf (plainDigest '0') = some row ∧
        row.Shows (shiftChecked (plainDigest '1')) := by
  refine (shows_newest_iff_last id shiftPlatform _ (plainDigest '0')
    (dayChecked (plainDigest '1') "2026-01-02") _ ?_ (signalOf_day _ _)).mpr ?_
  · rw [committed_inOrder]
    exact newest_inOrder
  · rw [committed_inOrder, containing_days]
    rfl

/-- The snapshot of the second day is ingested, then that of the first: the row shows the
first. -/
theorem older_snapshot_shown :
    ∃ batch signal, Newest id (committed shiftPlatform
        [dayBatch (plainDigest '1') "2026-01-02", dayBatch (plainDigest '0') "2026-01-01"])
        (plainDigest '0') batch ∧ batch.signalOf (plainDigest '0') = some signal ∧
      ¬ ∃ row, (TicketStore.ingested shiftPlatform
        [dayBatch (plainDigest '1') "2026-01-02",
          dayBatch (plainDigest '0') "2026-01-01"]).signalOf (plainDigest '0') = some row ∧
        row.Shows signal := by
  refine ⟨dayChecked (plainDigest '1') "2026-01-02", shiftChecked (plainDigest '1'), ?_,
    signalOf_day _ _, ?_⟩
  · rw [committed_backfilled]
    exact newest_backfilled
  · rintro ⟨row, present, shows'⟩
    have last : (containing (committed shiftPlatform
        [dayBatch (plainDigest '1') "2026-01-02", dayBatch (plainDigest '0') "2026-01-01"])
        (plainDigest '0')).getLast? = some (dayChecked (plainDigest '0') "2026-01-01") := by
      rw [committed_backfilled, containing_days]
      rfl
    obtain ⟨other, present', older⟩ := row_shows_last _ last (signalOf_day _ _)
    obtain rfl := Option.some.inj (present.symm.trans present')
    have same : plainDigest '1' = plainDigest '0' :=
      shows'.snapshotSha256.symm.trans older.snapshotSha256
    exact absurd same (by decide)

end DTLab
