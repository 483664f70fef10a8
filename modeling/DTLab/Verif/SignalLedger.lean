import DTLab.Tickets.Ledger
import DTLab.Verif.TicketHistory
import Mathlib.Data.List.Chain

/-!
# The signal ledger is exact

A store that snapshot batches build keeps, for each signal, the ledger of its sightings in the
committed batches. So its count is the number of committed snapshots that have it, its newest
occurrence is of its current payload and of its last change, and no occurrence repeats the payload
before it.
-/

namespace DTLab

open Library (Table.Keyed)
open Library.Attempt (bind_eq_ok)

variable {τ : Type} {platform : StorePlatform}

/-! ## Facts about ledgers -/

namespace SignalLedger

/-- A ledger is exact when it counts its sightings and its last occurrence is of its row. -/
structure Exact (platform : StorePlatform) (ledger : SignalLedger τ) (row : SignalRow τ)
    (count : Nat) : Prop where
  count : row.occurrenceCount = count
  newest : ledger.occurrences.getLast?.map OccurrenceRow.payloadHash =
    some (payloadHash platform row.payload)
  changes : (ledger.occurrences.map OccurrenceRow.payloadHash).IsChain (· ≠ ·)
  changedAt : ledger.occurrences.getLast?.map OccurrenceRow.createdAt = some row.updatedAt

/-- The ledger of no sightings has no row, and that of some has one, which is exact. -/
theorem of_exact (platform : StorePlatform) (sightings : List (Sighting τ)) :
    (sightings = [] ∧ of platform sightings = ⟨none, []⟩) ∨
      ∃ row, (of platform sightings).row = some row ∧
        (of platform sightings).Exact platform row sightings.length := by
  induction sightings using List.reverseRecOn with
  | nil => exact Or.inl ⟨rfl, rfl⟩
  | append_singleton sightings sighting ih =>
    right
    rw [of_concat, List.length_append, List.length_singleton]
    rcases observe_cases platform (of platform sightings) sighting with
      ⟨absent, same⟩ | ⟨row, found, changed, same⟩ | ⟨row, found, kept, same⟩
    · obtain ⟨rfl, empty⟩ | ⟨row, present, _⟩ := ih
      · rw [same, empty]
        exact ⟨_, rfl, rfl, rfl, List.isChain_singleton _, rfl⟩
      · rw [present] at absent
        cases absent
    · obtain ⟨rfl, empty⟩ | ⟨before, present, exact'⟩ := ih
      · rw [empty] at found
        cases found
      · rw [found] at present
        obtain rfl := Option.some.inj present
        rw [same]
        refine ⟨_, rfl, congrArg (· + 1) exact'.count, ?_, ?_, ?_⟩
        · simp [CheckedSignal.occurrence, CheckedSignal.updatedRow]
        · rw [List.map_append, List.map_singleton, List.isChain_append]
          refine ⟨exact'.changes, List.isChain_singleton _, ?_⟩
          intro last isLast next isNext
          rw [List.getLast?_map, exact'.newest] at isLast
          obtain rfl := Option.some.inj isLast
          obtain rfl := Option.some.inj isNext
          exact Ne.symm changed
        · simp [CheckedSignal.occurrence, CheckedSignal.updatedRow]
    · obtain ⟨rfl, empty⟩ | ⟨before, present, exact'⟩ := ih
      · rw [empty] at found
        cases found
      · rw [found] at present
        obtain rfl := Option.some.inj present
        rw [same]
        refine ⟨_, rfl, congrArg (· + 1) exact'.count, ?_, exact'.changes, exact'.changedAt⟩
        rw [exact'.newest]
        exact congrArg some kept.symm

end SignalLedger

/-! ## Stores built by batches -/

/-- A store keeps the ledgers of committed batches, and their markers. -/
structure TicketStore.LedgerOf (platform : StorePlatform) (store : TicketStore τ)
    (done : List (CheckedBatch τ)) : Prop where
  keyed : Table.Keyed SignalRow.fingerprint store.signals
  digests : store.ingestedDigests = done.map CheckedBatch.digest
  distinct : (done.map CheckedBatch.digest).Nodup
  own : ∀ batch ∈ done, ∀ signal ∈ batch.signals, signal.snapshotSha256 = batch.digest
  ledger : ∀ fingerprint,
    store.ledger fingerprint = SignalLedger.of platform (sightings done fingerprint)

/-- A sighting is of a signal of one of the batches. -/
theorem exists_of_mem_sightings {done : List (CheckedBatch τ)} {fingerprint : String}
    {sighting : Sighting τ} (member : sighting ∈ sightings done fingerprint) :
    ∃ batch ∈ done, batch.signalOf fingerprint = some sighting.signal ∧
      sighting.now = batch.now := by
  obtain ⟨batch, inside, seen⟩ := List.mem_filterMap.mp member
  obtain ⟨signal, found, rfl⟩ := Option.map_eq_some_iff.mp seen
  exact ⟨batch, inside, found, rfl⟩

/-- The digest of the snapshot of a sighting is that of its batch. -/
theorem TicketStore.LedgerOf.sighting_digest {store : TicketStore τ}
    {done : List (CheckedBatch τ)} (kept : store.LedgerOf platform done) {fingerprint : String}
    {sighting : Sighting τ} (member : sighting ∈ sightings done fingerprint) :
    sighting.signal.snapshotSha256 ∈ done.map CheckedBatch.digest := by
  obtain ⟨batch, inside, found, _⟩ := exists_of_mem_sightings member
  rw [kept.own batch inside sighting.signal (List.mem_of_find?_eq_some found)]
  exact List.mem_map_of_mem inside

/-- A committed batch adds one sighting to the ledger of each of its fingerprints. -/
theorem TicketStore.LedgerOf.commit {store : TicketStore τ} {done : List (CheckedBatch τ)}
    (kept : store.LedgerOf platform done) {batch : CheckedBatch τ} (seen : Nat)
    (own : ∀ signal ∈ batch.signals, signal.snapshotSha256 = batch.digest)
    (fresh : batch.digest ∉ done.map CheckedBatch.digest) :
    (store.commitBatch platform batch seen).LedgerOf platform (done ++ [batch]) := by
  refine ⟨upsertAll_keyed kept.keyed, ?_, ?_, ?_, fun fingerprint => ?_⟩
  · rw [ingestedDigests, commitBatch, List.map_append, List.map_append]
    exact congrArg (· ++ [batch.digest]) kept.digests
  · rw [List.map_append]
    exact List.Nodup.append kept.distinct (List.nodup_singleton _)
      (List.disjoint_singleton.mpr fresh)
  · intro other member
    rcases List.mem_append.mp member with inside | last
    · exact kept.own other inside
    · rw [List.mem_singleton.mp last]
      exact own
  · have before : (store.ledger fingerprint).Before batch.digest := by
      rw [kept.ledger fingerprint]
      apply SignalLedger.of_before
      intro sighting member same
      exact fresh (same ▸ kept.sighting_digest member)
    have behind : (store.commitBatch platform batch seen).ledger fingerprint =
        (store.upsertAll platform batch.now batch.signals).ledger fingerprint := rfl
    rw [behind, ledger_upsertAll own before, kept.ledger, sightings, sightings,
      List.filterMap_append]
    cases found : batch.signalOf fingerprint with
    | none =>
      rw [CheckedBatch.signalOf] at found
      simp [found, CheckedBatch.signalOf]
    | some signal =>
      rw [CheckedBatch.signalOf] at found
      simp only [found, CheckedBatch.signalOf, List.filterMap_cons, List.filterMap_nil,
        Option.map_some]
      rw [SignalLedger.of_concat]

theorem committed_concat (batches : List (SnapshotBatch τ)) (batch : SnapshotBatch τ) :
    committed platform (batches ++ [batch]) =
      match batch.check platform with
      | .ok checked =>
        if checked.digest ∈ (committed platform batches).map CheckedBatch.digest then
          committed platform batches
        else committed platform batches ++ [checked]
      | .error _ => committed platform batches := by
  rw [committed, List.foldl_append]
  rfl

/-- Every store that batches build keeps the ledgers of the committed ones. -/
theorem ledgerOf_ingested (platform : StorePlatform) (batches : List (SnapshotBatch τ)) :
    (TicketStore.ingested platform batches).LedgerOf platform (committed platform batches) := by
  induction batches using List.reverseRecOn with
  | nil =>
    exact ⟨List.nodup_nil, rfl, List.nodup_nil, fun _ member => absurd member List.not_mem_nil,
      fun _ => rfl⟩
  | append_singleton batches batch ih =>
    have behind : TicketStore.ingested platform (batches ++ [batch]) =
        (TicketStore.ingested platform batches).ingest platform batch := by
      rw [TicketStore.ingested, List.foldl_append]
      rfl
    rw [behind, TicketStore.ingest_eq, committed_concat]
    cases passed : batch.check platform with
    | error fault => exact ih
    | ok checked =>
      simp only [ih.digests]
      split_ifs with repeated
      · exact ih
      · exact ih.commit batch.signals.length (SnapshotBatch.check_own passed) repeated

/-! ## Exactness -/

/-- There are as many sightings of a fingerprint as batches that have it. -/
theorem length_sightings (done : List (CheckedBatch τ)) (fingerprint : String) :
    (sightings done fingerprint).length =
      (done.filter fun batch => (batch.signalOf fingerprint).isSome).length := by
  induction done with
  | nil => rfl
  | cons batch done ih =>
    rw [sightings, List.filterMap_cons, List.filter_cons]
    cases found : batch.signalOf fingerprint with
    | none => exact ih
    | some signal => exact congrArg (· + 1) ih

/-- A batch that raises or repeats a snapshot leaves the store as it was. -/
theorem ingest_unchanged {store : TicketStore τ} (batch : SnapshotBatch τ)
    (idle : (∃ fault, store.ingestCall platform batch = .error fault) ∨
      ∃ digest ∈ store.ingestedDigests,
        snapshotDigest platform batch.snapshotSha256 = .ok digest) :
    store.ingest platform batch = store := by
  rcases idle with ⟨fault, raised⟩ | ⟨digest, repeated, hasDigest⟩
  · rw [TicketStore.ingest, raised]
  · rw [TicketStore.ingest_eq]
    cases passed : batch.check platform with
    | error fault => rfl
    | ok checked =>
      have same : checked.digest = digest := by
        simp only [SnapshotBatch.check, bind_eq_ok, hasDigest] at passed
        obtain ⟨digest', hasDigest', _, _, _, _, passed⟩ := passed
        obtain rfl := Except.ok.inj hasDigest'
        split_ifs at passed
        rw [bind_eq_ok] at passed
        obtain ⟨signals, _, passed⟩ := passed
        obtain rfl := Except.ok.inj passed
        rfl
      exact if_pos (same ▸ repeated)

/-- Every fingerprint of a committed batch has a row. -/
theorem TicketStore.LedgerOf.exists_row {store : TicketStore τ} {done : List (CheckedBatch τ)}
    (kept : store.LedgerOf platform done) {batch : CheckedBatch τ} (member : batch ∈ done)
    {fingerprint : String} (seen : (batch.signalOf fingerprint).isSome) :
    ∃ row ∈ store.signals, row.fingerprint = fingerprint := by
  have some' : 0 < (sightings done fingerprint).length := by
    rw [length_sightings]
    exact List.length_pos_of_mem (List.mem_filter.mpr ⟨member, seen⟩)
  have same := congrArg SignalLedger.row (kept.ledger fingerprint)
  rcases SignalLedger.of_exact platform (sightings done fingerprint) with
    ⟨none', _⟩ | ⟨row, present, _⟩
  · rw [none'] at some'
    exact absurd some' (lt_irrefl 0)
  · have found : store.signalOf fingerprint = some row := same.trans present
    exact ⟨row, Library.Table.mem_of_row? found, Library.Table.key_of_row? found⟩

/-- In every store that snapshot batches build: every fingerprint of a committed batch has a signal,
a signal counts the committed snapshots that have it, its newest occurrence has the hash of its
payload and the instant of its last change, no two adjacent occurrences have one hash, the markers
are the committed digests, each once, and a batch that raises or repeats changes nothing. -/
theorem signal_ledger_exact (platform : StorePlatform) (batches : List (SnapshotBatch τ)) :
    (∀ batch ∈ committed platform batches, ∀ fingerprint,
      (batch.signalOf fingerprint).isSome →
        ∃ row ∈ (TicketStore.ingested platform batches).signals,
          row.fingerprint = fingerprint) ∧
    (∀ row ∈ (TicketStore.ingested platform batches).signals,
      row.occurrenceCount = ((committed platform batches).filter fun batch =>
        (batch.signalOf row.fingerprint).isSome).length ∧
      ((TicketStore.ingested platform batches).occurrencesOf row.id).getLast?.map
        OccurrenceRow.payloadHash = some (payloadHash platform row.payload) ∧
      (((TicketStore.ingested platform batches).occurrencesOf row.id).map
        OccurrenceRow.payloadHash).IsChain (· ≠ ·) ∧
      ((TicketStore.ingested platform batches).occurrencesOf row.id).getLast?.map
        OccurrenceRow.createdAt = some row.updatedAt) ∧
    (TicketStore.ingested platform batches).ingestedDigests =
      (committed platform batches).map CheckedBatch.digest ∧
    ((committed platform batches).map CheckedBatch.digest).Nodup ∧
    ∀ batch, ((∃ fault, (TicketStore.ingested platform batches).ingestCall platform batch =
        .error fault) ∨
      ∃ digest ∈ (committed platform batches).map CheckedBatch.digest,
        snapshotDigest platform batch.snapshotSha256 = .ok digest) →
      (TicketStore.ingested platform batches).ingest platform batch =
        TicketStore.ingested platform batches := by
  have kept := ledgerOf_ingested platform batches
  refine ⟨fun batch member fingerprint seen => kept.exists_row member seen,
    fun row member => ?_, kept.digests, kept.distinct, fun batch idle => ?_⟩
  · have found : (TicketStore.ingested platform batches).signalOf row.fingerprint = some row :=
      Library.Table.row?_of_mem kept.keyed member
    have ledger := kept.ledger row.fingerprint
    have same := congrArg SignalLedger.row ledger
    rcases SignalLedger.of_exact platform
      (sightings (committed platform batches) row.fingerprint) with
      ⟨_, empty⟩ | ⟨other, present, exact'⟩
    · rw [empty] at same
      exact absurd (found.symm.trans same) (by simp)
    · have equal : other = row := Option.some.inj (present.symm.trans (same.symm.trans found))
      subst equal
      rw [← ledger, length_sightings] at exact'
      exact ⟨exact'.count, exact'.newest, exact'.changes, exact'.changedAt⟩
  · rw [← kept.digests] at idle
    exact ingest_unchanged batch idle

/-! ## A level that changes and changes back -/

/-- The hash of a level. -/
def levelHash (level : String) : String := payloadHash textPlatform [("level", .str level)]

/-- A snapshot in which the finding has a level. -/
def levelBatch (digit : Char) (level : String) : SnapshotBatch Nat where
  now := 0
  signals := [payloadSignal (plainDigest digit) [("level", .str level)]]
  snapshotSha256 := plainDigest digit
  snapshotId := "turno"
  generatedAt := "2026-01-01"

/-- The snapshot behind its checks. -/
def levelChecked (digit : Char) (level : String) : CheckedBatch Nat where
  now := 0
  digest := plainDigest digit
  snapshotId := "turno"
  generatedAt := "2026-01-01"
  signals := [payloadChecked (plainDigest digit) [("level", .str level)]]

/-- The level changes, and changes back. -/
def levelBatches : List (SnapshotBatch Nat) :=
  [levelBatch '0' "alto", levelBatch '1' "basso", levelBatch '2' "alto"]

/-- The snapshots behind their checks. -/
def levelsChecked : List (CheckedBatch Nat) :=
  [levelChecked '0' "alto", levelChecked '1' "basso", levelChecked '2' "alto"]

theorem check_level {digit : Char} (hex : isDigestBody (List.replicate 64 digit) = true)
    (level : String) :
    (levelBatch digit level).check textPlatform = .ok (levelChecked digit level) := by
  have isDigest : isDigestBody (plainDigest digit).toList = true := plainDigest_isDigest hex
  have snapshot : snapshotDigest textPlatform (plainDigest digit) = .ok (plainDigest digit) :=
    requiredDigest_of_digest _ _ _ isDigest (by decide)
  have texts : requiredText "Snapshot ID" 1024 "turno" = .ok "turno" ∧
      requiredText "Timestamp snapshot" 64 "2026-01-01" = .ok "2026-01-01" := by
    decide
  have lowered := lower_of_digest textPlatform isDigest
  have own : ([payloadSignal (plainDigest digit) [("level", .str level)]].any fun signal =>
      textPlatform.lower signal.snapshotSha256 != plainDigest digit) = false := by
    simp [payloadSignal, shiftSignal, lowered]
  simp only [SnapshotBatch.check, levelBatch, snapshot, texts, own, bind, Except.bind,
    Bool.false_eq_true, if_false]
  simp [checkSignal_payload _ isDigest, bind, Except.bind, pure, Except.pure, levelChecked]

theorem digits_isDigest : isDigestBody (List.replicate 64 '0') = true ∧
    isDigestBody (List.replicate 64 '1') = true ∧
    isDigestBody (List.replicate 64 '2') = true := by
  decide

/-- The digests of the snapshots are distinct. -/
theorem digests_apart : plainDigest '0' ≠ plainDigest '1' ∧ plainDigest '0' ≠ plainDigest '2' ∧
    plainDigest '1' ≠ plainDigest '2' := by
  decide

/-- The batch of a new snapshot is committed behind the others. -/
theorem committed_fresh (batches : List (SnapshotBatch τ)) {batch : SnapshotBatch τ}
    {checked : CheckedBatch τ} (passed : batch.check platform = .ok checked)
    (fresh : checked.digest ∉ (committed platform batches).map CheckedBatch.digest) :
    committed platform (batches ++ [batch]) = committed platform batches ++ [checked] := by
  rw [committed_concat, passed]
  exact if_neg fresh

/-- All three snapshots are committed. -/
theorem committed_levels : committed textPlatform levelBatches = levelsChecked := by
  obtain ⟨zeros, ones, twos⟩ := digits_isDigest
  obtain ⟨first, second, third⟩ := digests_apart
  have one : committed textPlatform [levelBatch '0' "alto"] = [levelChecked '0' "alto"] :=
    committed_fresh [] (check_level zeros "alto") List.not_mem_nil
  have two : committed textPlatform [levelBatch '0' "alto", levelBatch '1' "basso"] =
      [levelChecked '0' "alto", levelChecked '1' "basso"] := by
    have both := committed_fresh [levelBatch '0' "alto"] (check_level ones "basso")
      (by rw [one]; exact fun member => first (List.mem_singleton.mp member).symm)
    rw [one] at both
    exact both
  have three := committed_fresh [levelBatch '0' "alto", levelBatch '1' "basso"]
    (check_level twos "alto") (by
      rw [two]
      intro member
      rcases List.mem_pair.mp member with same | same
      · exact second same.symm
      · exact third same.symm)
  rw [two] at three
  exact three

/-- The markers behind a committed batch. -/
theorem ingestedDigests_commitBatch (store : TicketStore τ) (batch : CheckedBatch τ) (seen : Nat) :
    (store.commitBatch platform batch seen).ingestedDigests =
      store.ingestedDigests ++ [batch.digest] := by
  rw [TicketStore.ingestedDigests, TicketStore.commitBatch, List.map_append]
  rfl

/-- A batch of a new snapshot is committed. -/
theorem ingest_fresh {store : TicketStore τ} {batch : SnapshotBatch τ} {checked : CheckedBatch τ}
    (passed : batch.check platform = .ok checked) (fresh : checked.digest ∉ store.ingestedDigests) :
    store.ingest platform batch = store.commitBatch platform checked batch.signals.length := by
  rw [TicketStore.ingest_eq, passed]
  exact if_neg fresh

/-- The store that they build. -/
theorem ingested_levels : TicketStore.ingested textPlatform levelBatches =
    levelsChecked.foldl (fun store batch => store.commitBatch textPlatform batch 1) .empty := by
  obtain ⟨zeros, ones, twos⟩ := digits_isDigest
  obtain ⟨first, second, third⟩ := digests_apart
  have single : ∀ digit level, (levelBatch digit level).signals.length = 1 := fun _ _ => rfl
  rw [TicketStore.ingested, levelBatches, List.foldl_cons, List.foldl_cons, List.foldl_cons,
    List.foldl_nil, ingest_fresh (check_level zeros _) List.not_mem_nil,
    ingest_fresh (check_level ones _), ingest_fresh (check_level twos _)]
  · rw [single, single, single, levelsChecked, List.foldl_cons, List.foldl_cons,
      List.foldl_cons, List.foldl_nil]
  · simp [ingestedDigests_commitBatch, levelChecked, second.symm, third.symm]
    exact List.not_mem_nil
  · simp [ingestedDigests_commitBatch, levelChecked, first.symm]
    exact List.not_mem_nil

/-- The finding has one row, and its occurrences show each change. -/
theorem occurrences_levels :
    (TicketStore.ingested textPlatform levelBatches).signals.map SignalRow.id =
        [signalIdOf (plainDigest '0')] ∧
      ((TicketStore.ingested textPlatform levelBatches).occurrencesOf
        (signalIdOf (plainDigest '0'))).map OccurrenceRow.payloadHash =
        [levelHash "alto", levelHash "basso", levelHash "alto"] := by
  rw [ingested_levels]
  decide

/-- The finding is counted three times, and its last occurrence is as its first. -/
theorem signal_ledger_exact_back :
    ∃ row ∈ (TicketStore.ingested textPlatform levelBatches).signals,
      row.fingerprint = plainDigest '0' ∧ row.occurrenceCount = 3 ∧
        ((TicketStore.ingested textPlatform levelBatches).occurrencesOf row.id).map
          OccurrenceRow.payloadHash = [levelHash "alto", levelHash "basso", levelHash "alto"] ∧
        payloadHash textPlatform row.payload = levelHash "alto" ∧
        levelHash "alto" ≠ levelHash "basso" := by
  have ⟨present, exact', _⟩ := signal_ledger_exact textPlatform levelBatches
  rw [committed_levels] at present exact'
  have seen : ∀ batch ∈ levelsChecked, (batch.signalOf (plainDigest '0')).isSome := by
    simp [levelsChecked, levelChecked, CheckedBatch.signalOf, payloadChecked, shiftChecked]
  have first : levelChecked '0' "alto" ∈ levelsChecked := List.mem_cons_self
  obtain ⟨row, isRow, named⟩ := present _ first (plainDigest '0') (seen _ first)
  obtain ⟨counted, newest, _⟩ := exact' row isRow
  have id : row.id = signalIdOf (plainDigest '0') := by
    have listed : row.id ∈ (TicketStore.ingested textPlatform levelBatches).signals.map
        SignalRow.id := List.mem_map_of_mem isRow
    rw [occurrences_levels.1] at listed
    exact List.mem_singleton.mp listed
  rw [named, List.filter_eq_self.mpr seen] at counted
  rw [id, ← List.getLast?_map, occurrences_levels.2] at newest
  refine ⟨row, isRow, named, counted, ?_, (Option.some.inj newest).symm, by decide⟩
  rw [id]
  exact occurrences_levels.2

end DTLab
