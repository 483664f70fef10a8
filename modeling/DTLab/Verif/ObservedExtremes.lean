import DTLab.Library.Timestamp
import DTLab.Tickets.Sightings
import DTLab.Verif.TicketHistory
import Mathlib.Order.WithBot

/-!
# The extremes of the observations

`first_observed_at` and `last_observed_at` are kept by comparing texts. They are the first and the
last observation exactly when each new text stands to the two stored ones as its instant does to
theirs, which texts of different zones or precisions need not.
-/

namespace DTLab

open Library (Text readTimestamp DateTime)
open SignalLedger (rowBehind rowOf rowOf_concat rowBehind_none rowBehind_some)

/-! ## Extremes by a measure -/

section Extremes

variable {α κ : Type} [LinearOrder α] [LinearOrder κ] {measure : α → κ} {item : α}
  {items : List α}

/-- An item of a list whose measure is the least one. -/
def Lowest (measure : α → κ) (item : α) (items : List α) : Prop :=
  item ∈ items ∧ ∀ other ∈ items, measure item ≤ measure other

/-- An item of a list whose measure is the greatest one. -/
def Highest (measure : α → κ) (item : α) (items : List α) : Prop :=
  item ∈ items ∧ ∀ other ∈ items, measure other ≤ measure item

/-- The lesser of the lowest item and a further one is the lowest item exactly when the two are
ordered as their measures. -/
theorem lowest_min_iff (lowest : Lowest measure item items) (other : α) :
    Lowest measure (min item other) (items ++ [other]) ↔
      (other < item → measure other ≤ measure item) ∧
        (item ≤ other → measure item ≤ measure other) := by
  obtain ⟨member, least⟩ := lowest
  have last : other ∈ items ++ [other] := List.mem_append_right items List.mem_cons_self
  rcases le_or_gt item other with later | earlier
  · rw [min_eq_left later]
    constructor
    · rintro ⟨_, below⟩
      exact ⟨fun earlier => absurd later (not_le.mpr earlier), fun _ => below other last⟩
    · rintro ⟨_, below⟩
      refine ⟨List.mem_append_left [other] member, ?_⟩
      intro any inside
      rcases List.mem_append.mp inside with old | new
      · exact least any old
      · rw [List.mem_singleton.mp new]
        exact below later
  · rw [min_eq_right earlier.le]
    constructor
    · rintro ⟨_, below⟩
      exact ⟨fun _ => below item (List.mem_append_left [other] member),
        fun later => absurd earlier (not_lt.mpr later)⟩
    · rintro ⟨below, _⟩
      refine ⟨last, ?_⟩
      intro any inside
      rcases List.mem_append.mp inside with old | new
      · exact (below earlier).trans (least any old)
      · rw [List.mem_singleton.mp new]

/-- The greater of the highest item and a further one is the highest item exactly when the two
are ordered as their measures. -/
theorem highest_max_iff (highest : Highest measure item items) (other : α) :
    Highest measure (max item other) (items ++ [other]) ↔
      (item < other → measure item ≤ measure other) ∧
        (other ≤ item → measure other ≤ measure item) :=
  lowest_min_iff (α := αᵒᵈ) (κ := κᵒᵈ) highest other

end Extremes

variable {τ κ : Type} [LinearOrder κ] {platform : StorePlatform}

/-- The texts of the observations. -/
def observedTexts (sightings : List (Sighting τ)) : List String :=
  sightings.map fun sighting => sighting.signal.observedAt

/-- The extremes of a row are the first and the last of its observations. -/
structure TrueExtremes (instantOf : String → κ) (row : SignalRow τ)
    (sightings : List (Sighting τ)) : Prop where
  first : Lowest instantOf row.firstObservedAt (observedTexts sightings)
  last : Highest instantOf row.lastObservedAt (observedTexts sightings)

/-- A text stands to the extremes of a row as its instant does to theirs. -/
structure ComparesWith (instantOf : String → κ) (row : SignalRow τ) (text : String) : Prop where
  first : (text < row.firstObservedAt → instantOf text ≤ instantOf row.firstObservedAt) ∧
    (row.firstObservedAt ≤ text → instantOf row.firstObservedAt ≤ instantOf text)
  last : (row.lastObservedAt < text → instantOf row.lastObservedAt ≤ instantOf text) ∧
    (text ≤ row.lastObservedAt → instantOf text ≤ instantOf row.lastObservedAt)

variable {instantOf : String → κ} {sightings : List (Sighting τ)} {row : SignalRow τ}

/-- The extremes of a row stay true behind a further sighting exactly when its text compares as
its instant. -/
theorem TrueExtremes.updated_iff (extremes : TrueExtremes instantOf row sightings)
    (sighting : Sighting τ) (changed : Bool) :
    TrueExtremes instantOf (sighting.signal.updatedRow changed sighting.now row)
        (sightings ++ [sighting]) ↔
      ComparesWith instantOf row sighting.signal.observedAt := by
  have texts : observedTexts (sightings ++ [sighting]) =
      observedTexts sightings ++ [sighting.signal.observedAt] := List.map_append
  have first := lowest_min_iff extremes.first sighting.signal.observedAt
  have last := highest_max_iff extremes.last sighting.signal.observedAt
  rw [← texts] at first last
  constructor
  · intro true
    exact ⟨first.mp true.first, last.mp true.last⟩
  · intro compares
    exact ⟨first.mpr compares.first, last.mpr compares.last⟩

/-- A first sighting is both extremes. -/
theorem trueExtremes_inserted (instantOf : String → κ) (sighting : Sighting τ) :
    TrueExtremes instantOf (sighting.signal.insertedRow sighting.now) [sighting] := by
  constructor
  · refine ⟨List.mem_singleton_self _, ?_⟩
    intro other member
    rw [List.mem_singleton.mp member]
    rfl
  · refine ⟨List.mem_singleton_self _, ?_⟩
    intro other member
    rw [List.mem_singleton.mp member]
    rfl

/-- Behind every sighting the extremes of the row are true. -/
def AlwaysTrue (platform : StorePlatform) (instantOf : String → κ)
    (sightings : List (Sighting τ)) : Prop :=
  ∀ past rest, sightings = past ++ rest → ∀ row ∈ rowOf platform past,
    TrueExtremes instantOf row past

/-- The text of every further sighting compares with the extremes of the row as its instant. -/
def ComparedInOrder (platform : StorePlatform) (instantOf : String → κ)
    (sightings : List (Sighting τ)) : Prop :=
  ∀ past sighting rest, sightings = past ++ sighting :: rest → ∀ row ∈ rowOf platform past,
    ComparesWith instantOf row sighting.signal.observedAt

/-- Sightings that compare in order give true extremes. -/
theorem trueExtremes_of_compared
    (compared : ComparedInOrder platform instantOf sightings)
    (found : rowOf platform sightings = some row) : TrueExtremes instantOf row sightings := by
  induction sightings using List.reverseRecOn generalizing row with
  | nil => cases found
  | append_singleton sightings sighting ih =>
    rw [rowOf_concat] at found
    have before : ComparedInOrder platform instantOf sightings := by
      intro past other rest split
      apply compared past other (rest ++ [sighting])
      rw [split, List.append_assoc, List.cons_append]
    cases kept : rowOf platform sightings with
    | none =>
      have first : sightings = [] := by
        cases sightings using List.reverseRecOn with
        | nil => rfl
        | append_singleton earlier last =>
          rw [rowOf_concat] at kept
          cases earlier' : rowOf platform earlier with
          | none =>
            rw [earlier', rowBehind_none] at kept
            cases kept
          | some old =>
            rw [earlier', rowBehind_some] at kept
            cases kept
      rw [kept, rowBehind_none] at found
      obtain rfl := Option.some.inj found
      rw [first]
      exact trueExtremes_inserted instantOf sighting
    | some old =>
      rw [kept, rowBehind_some] at found
      obtain rfl := Option.some.inj found
      apply ((ih before kept).updated_iff sighting _).mpr
      exact compared sightings sighting [] rfl old kept

/-- The extremes of the row of a signal are true behind every sighting exactly when the text of
every further one compares with them as its instant. -/
theorem alwaysTrue_iff (platform : StorePlatform) (instantOf : String → κ)
    (sightings : List (Sighting τ)) :
    AlwaysTrue platform instantOf sightings ↔ ComparedInOrder platform instantOf sightings := by
  constructor
  · intro always past sighting rest split row found
    have before := always past (sighting :: rest) split row found
    have behind : sightings = (past ++ [sighting]) ++ rest := by
      rw [split, List.append_assoc]
      rfl
    apply (before.updated_iff sighting _).mp
    apply always (past ++ [sighting]) rest behind
    rw [rowOf_concat, Option.mem_def.mp found, rowBehind_some]
    exact rfl
  · intro compared past rest split row found
    apply trueExtremes_of_compared _ found
    intro earlier sighting between splitPast
    apply compared earlier sighting (between ++ rest)
    rw [split, splitPast, List.append_assoc, List.cons_append]

/-! ## Texts of one precision -/

/-- The extremes of a row are observations of it. -/
theorem extremes_mem (found : rowOf platform sightings = some row) :
    row.firstObservedAt ∈ observedTexts sightings ∧
      row.lastObservedAt ∈ observedTexts sightings := by
  induction sightings using List.reverseRecOn generalizing row with
  | nil => cases found
  | append_singleton sightings sighting ih =>
    have texts : observedTexts (sightings ++ [sighting]) =
        observedTexts sightings ++ [sighting.signal.observedAt] := List.map_append
    have new : sighting.signal.observedAt ∈
        observedTexts sightings ++ [sighting.signal.observedAt] :=
      List.mem_append_right _ List.mem_cons_self
    rw [rowOf_concat] at found
    rw [texts]
    cases kept : rowOf platform sightings with
    | none =>
      rw [kept, rowBehind_none] at found
      obtain rfl := Option.some.inj found
      exact ⟨new, new⟩
    | some old =>
      rw [kept, rowBehind_some] at found
      obtain rfl := Option.some.inj found
      obtain ⟨first, last⟩ := ih kept
      constructor
      · show min old.firstObservedAt sighting.signal.observedAt ∈ _
        rcases min_choice old.firstObservedAt sighting.signal.observedAt with same | same
        · rw [same]
          exact List.mem_append_left _ first
        · rw [same]
          exact new
      · show max old.lastObservedAt sighting.signal.observedAt ∈ _
        rcases max_choice old.lastObservedAt sighting.signal.observedAt with same | same
        · rw [same]
          exact List.mem_append_left _ last
        · rw [same]
          exact new

/-- The instant that a timestamp denotes. -/
def observedInstant (text : String) : WithBot Int := readTimestamp text.toList

/-- The instant of a text that the store's own clock could have written. -/
theorem observedInstant_utcText {time : DateTime} (valid : time.Valid) :
    observedInstant (String.ofList time.utcText) = (time.instant : WithBot Int) := by
  rw [observedInstant, String.toList_ofList, Library.readTimestamp_utcText valid]
  rfl

/-- Texts in UTC that all show microseconds, or none, compare as their instants. -/
theorem compared_of_utcText {whole : Bool}
    (written : ∀ text ∈ observedTexts sightings, ∃ time : DateTime, time.Valid ∧
      decide (time.microsecond = 0) = whole ∧ text = String.ofList time.utcText) :
    ComparedInOrder platform observedInstant sightings := by
  have ordered : ∀ left ∈ observedTexts sightings, ∀ right ∈ observedTexts sightings,
      (left < right ↔ observedInstant left < observedInstant right) := by
    intro left leftMember right rightMember
    obtain ⟨first, firstValid, firstWhole, rfl⟩ := written left leftMember
    obtain ⟨second, secondValid, secondWhole, rfl⟩ := written right rightMember
    rw [observedInstant_utcText firstValid, observedInstant_utcText secondValid,
      WithBot.coe_lt_coe, String.lt_iff, String.toList_ofList, String.toList_ofList]
    apply (DateTime.utcText_lt_iff_instant firstValid secondValid).mpr
    rintro ⟨_, apart⟩
    have same : first.microsecond = 0 ↔ second.microsecond = 0 :=
      decide_eq_decide.mp (firstWhole.trans secondWhole.symm)
    omega
  intro past sighting rest split row found
  have inside : ∀ text ∈ observedTexts past, text ∈ observedTexts sightings := by
    intro text member
    rw [split, observedTexts, List.map_append]
    exact List.mem_append_left _ member
  have new : sighting.signal.observedAt ∈ observedTexts sightings := by
    rw [split, observedTexts, List.map_append]
    exact List.mem_append_right _ List.mem_cons_self
  obtain ⟨first, last⟩ := extremes_mem (Option.mem_def.mp found)
  have beforeFirst := ordered _ new _ (inside _ first)
  have behindLast := ordered _ (inside _ last) _ new
  constructor
  · exact ⟨fun less => (beforeFirst.mp less).le,
      fun less => not_lt.mp fun more => not_lt.mpr less (beforeFirst.mpr more)⟩
  · exact ⟨fun less => (behindLast.mp less).le,
      fun less => not_lt.mp fun more => not_lt.mpr less (behindLast.mpr more)⟩

/-! ## Two zones -/

/-- A finding with the text of its observation. -/
def zoneSignal (digest observedAt : String) : SignalInput :=
  { shiftSignal digest with observedAt := observedAt }

/-- The finding behind its checks. -/
def zoneChecked (digest observedAt : String) : CheckedSignal :=
  { shiftChecked digest with observedAt := observedAt }

theorem checkSignal_zone {digest observedAt : String}
    (isDigest : isDigestBody digest.toList = true)
    (kept : requiredText "Timestamp osservazione" 64 observedAt = .ok observedAt) :
    checkSignal shiftPlatform (zoneSignal digest observedAt) =
      .ok (zoneChecked digest observedAt) := by
  have plain : (zoneSignal digest observedAt).Plain shiftPlatform := by
    have shift := shiftSignal_plain isDigest
    exact { shift with observedAt := kept }
  rw [checkSignal_of_plain plain]
  simp [SignalInput.kept, zoneSignal, shiftSignal, zoneChecked, shiftChecked, evidenceText,
    jsonText, sortedDistinct]

/-- A finding is observed at eleven in UTC, and then at noon two hours east of it. -/
def zoneCalls : List (CallContext Nat × StoreCall) :=
  [(shiftContext 0, .ingestSignals [zoneSignal (plainDigest '0') "2026-01-01T11:00:00Z"]),
    (shiftContext 1, .ingestSignals [zoneSignal (plainDigest '1') "2026-01-01T12:00:00+02:00"])]

/-- The observations of the two findings. -/
theorem observationsOf_zone : observationsOf shiftPlatform zoneCalls (plainDigest '0') =
    [⟨zoneChecked (plainDigest '0') "2026-01-01T11:00:00Z", 0⟩,
      ⟨zoneChecked (plainDigest '1') "2026-01-01T12:00:00+02:00", 1⟩] := by
  have ones : isDigestBody (plainDigest '1').toList = true :=
    plainDigest_isDigest (by decide)
  have first := checkSignal_zone zeros_isDigest
    (by decide : requiredText "Timestamp osservazione" 64 "2026-01-01T11:00:00Z" = _)
  have second := checkSignal_zone ones
    (by decide : requiredText "Timestamp osservazione" 64 "2026-01-01T12:00:00+02:00" = _)
  have upserts : ∀ (signal : SignalInput) (checked : CheckedSignal) (context : CallContext Nat)
      (store : TicketStore Nat), checkSignal shiftPlatform signal = .ok checked →
      (StoreCall.ingestSignals [signal]).upserts shiftPlatform context store = [checked] := by
    intro signal checked context store passed
    rw [StoreCall.upserts, List.mapM_cons, passed]
    rfl
  rw [observationsOf, zoneCalls, TicketStore.observationsFrom, TicketStore.observationsFrom,
    upserts _ _ _ _ first, upserts _ _ _ _ second]
  have behind : (StoreCall.ingestSignals
      [zoneSignal (plainDigest '0') "2026-01-01T11:00:00Z"]).apply shiftPlatform (shiftContext 0)
        TicketStore.empty = (TicketStore.empty.upsertChecked shiftPlatform 0
          (zoneChecked (plainDigest '0') "2026-01-01T11:00:00Z")).1 :=
    StoreCall.apply_ingestSignals first (shiftContext 0) .empty
  have sightsFirst : (zoneChecked (plainDigest '0') "2026-01-01T11:00:00Z").Sights
      (TicketStore.empty : TicketStore Nat) (plainDigest '0') :=
        ⟨rfl, fun found => (by cases found)⟩
  have sightsSecond : (zoneChecked (plainDigest '1') "2026-01-01T12:00:00+02:00").Sights
      (TicketStore.empty.upsertChecked shiftPlatform 0
        (zoneChecked (plainDigest '0') "2026-01-01T11:00:00Z")).1 (plainDigest '0') := by
    refine ⟨rfl, ?_⟩
    rw [TicketStore.signalOf_upsertChecked, if_pos sightsFirst]
    exact fun same => absurd (Option.some.inj same)
      (by decide : plainDigest '0' ≠ plainDigest '1')
  rw [behind, TicketStore.sighted, TicketStore.sighted, TicketStore.sighted, TicketStore.sighted,
    if_pos sightsFirst, if_pos sightsSecond]
  rfl

/-- At any run of the store: the row of a signal is what its observations make of it, and its
extremes are true behind each of them exactly when the text of every further one stands to the
stored ones as its instant does to theirs. -/
theorem observed_extremes_iff [DecidableEq τ] (platform : StorePlatform) (instantOf : String → κ)
    (calls : List (CallContext τ × StoreCall)) (fingerprint : String) :
    (TicketStore.after platform calls).signalOf fingerprint =
        rowOf platform (observationsOf platform calls fingerprint) ∧
      (AlwaysTrue platform instantOf (observationsOf platform calls fingerprint) ↔
        ComparedInOrder platform instantOf (observationsOf platform calls fingerprint)) :=
  ⟨signalOf_after calls fingerprint, alwaysTrue_iff platform instantOf _⟩

/-- The row says that the finding was first observed at eleven, though it was at ten. -/
theorem observed_extremes_zone : ∃ row,
    (TicketStore.after shiftPlatform zoneCalls).signalOf (plainDigest '0') = some row ∧
      (∀ text ∈ observedTexts (observationsOf shiftPlatform zoneCalls (plainDigest '0')),
        (readTimestamp text.toList).isSome) ∧
      ¬ TrueExtremes observedInstant row
        (observationsOf shiftPlatform zoneCalls (plainDigest '0')) := by
  rw [signalOf_after, observationsOf_zone]
  refine ⟨_, rfl, by decide, ?_⟩
  intro extremes
  have least := extremes.first.2 "2026-01-01T12:00:00+02:00" (by simp [observedTexts, zoneChecked])
  revert least
  decide

end DTLab
