import DTLab.Sensor.Ledger

/-!
# Accounting of an episode

`Accounts` says of every field of an episode which function of its observations it is.
`updateEpisode` keeps it, and escalates exactly when the correlation starts to hold.
-/

namespace DTLab

open Library (Text Dict Tally TallyRules)

variable {τ : Type}

/-! ## Buckets -/

/-- A bucket with one more write. -/
def WriteBucket.increment (bucket : WriteBucket) : WriteBucket :=
  { bucket with count := bucket.count + 1 }

theorem Operation.increment_bucket (operation : Operation) (count : Nat) :
    (operation.bucket count).increment = operation.bucket (count + 1) := rfl

/-- Counting an operation adds it to the tally of the buckets. -/
theorem countOperation_eq (maxOperationBuckets : Int) (writes : Dict WriteKey WriteBucket)
    (dropped : Nat) (operation : Operation) :
    Tally.mk (countOperation maxOperationBuckets writes dropped operation).1
        (countOperation maxOperationBuckets writes dropped operation).2 =
      Tally.add (writeRules maxOperationBuckets) WriteBucket.increment ⟨writes, dropped⟩
        operation := by
  unfold countOperation Tally.add
  cases held : writes.get? operation.writeKey with
  | some bucket => simp only [writeRules, held, WriteBucket.increment]
  | none =>
    by_cases full : maxOperationBuckets ≤ writes.size <;> simp [writeRules, held, full]

/-! ## The shutdown correlation -/

/-- The shutdown times after one more observation. -/
theorem shutdownTime_concat (past : List (Observation τ)) (observation : Observation τ)
    (register : Int) :
    shutdownTime (past ++ [observation]) register =
      if observation.operation.isShutdownWrite ∧ observation.operation.address = register then
        some observation.observedEpoch
      else shutdownTime past register := by
  simp only [shutdownTime, List.filter_append, List.filter_cons, List.filter_nil,
    Bool.and_eq_true, decide_eq_true_eq]
  split_ifs <;> simp

/-- Only the three registers have shutdown times. -/
theorem mem_shutdownRegisters_of_time {past : List (Observation τ)} {register : Int} {time : τ}
    (found : shutdownTime past register = some time) : register ∈ shutdownRegisters := by
  obtain ⟨observation, last, -⟩ := Option.map_eq_some_iff.mp found
  have kept := (List.mem_filter.mp (List.mem_of_getLast? last)).2
  simp only [Operation.isShutdownWrite, Bool.and_eq_true, decide_eq_true_eq] at kept
  exact kept.2 ▸ kept.1.2

/-- A dictionary of shutdown times has all three registers exactly when all three times are
known. -/
theorem keys_eq_shutdownRegisters {seen : Dict Int τ} {past : List (Observation τ)}
    (times : ∀ register, seen.get? register = shutdownTime past register) :
    seen.keys.toFinset = shutdownRegisters ↔
      ∀ register ∈ shutdownRegisters, shutdownTime past register ≠ none := by
  have known : ∀ register, register ∈ seen.keys ↔ shutdownTime past register ≠ none := by
    intro register
    rw [← times, Ne, Dict.get?_eq_none, not_not]
  constructor
  · intro same register member
    rw [← known, ← List.mem_toFinset, same]
    exact member
  · intro all
    ext register
    rw [List.mem_toFinset, known]
    constructor
    · intro found
      obtain ⟨time, found⟩ := Option.ne_none_iff_exists'.mp found
      exact mem_shutdownRegisters_of_time found
    · exact all register

variable [LinearOrder τ] [Sub τ]

/-- Nothing correlates while one of the three times is missing. -/
theorem withinWindow_of_missing {window : τ} {time : Int → Option τ} {register : Int}
    (member : register ∈ shutdownRegisters) (missing : time register = none) :
    withinWindow window time = false := by
  simp only [shutdownRegisters, Finset.mem_insert, Finset.mem_singleton] at member
  unfold withinWindow
  rcases member with rfl | rfl | rfl
  · simp [missing]
  · cases time 3 <;> simp [missing]
  · cases time 3 <;> cases time 4 <;> simp [missing]

/-- What the correlation returns: the times and the verdict with the further observation, and
whether the verdict changed to true. -/
theorem updateShutdownCorrelation_spec (window : τ) {seen : Dict Int τ}
    {past : List (Observation τ)} (observation : Observation τ)
    (times : ∀ register, seen.get? register = shutdownTime past register) :
    let updated := updateShutdownCorrelation window seen (correlated window past)
      observation.operation observation.observedEpoch
    (∀ register, updated.shutdownSeen.get? register =
        shutdownTime (past ++ [observation]) register) ∧
      updated.shutdown = correlated window (past ++ [observation]) ∧
      updated.escalated =
        (correlated window (past ++ [observation]) && !correlated window past) := by
  simp only [updateShutdownCorrelation]
  by_cases counts : observation.operation.isShutdownWrite = true
  · have next : ∀ register,
        (seen.set observation.operation.address observation.observedEpoch).get? register =
          shutdownTime (past ++ [observation]) register := by
      intro register
      rw [Dict.get?_set, shutdownTime_concat, times]
      simp [counts, eq_comm]
    rw [if_pos counts]
    by_cases complete : (seen.set observation.operation.address
        observation.observedEpoch).keys.toFinset = shutdownRegisters
    · rw [if_pos complete]
      refine ⟨next, ?_, ?_⟩ <;> simp only [correlated, funext next]
    · rw [if_neg complete]
      rw [keys_eq_shutdownRegisters next] at complete
      push Not at complete
      obtain ⟨register, member, missing⟩ := complete
      -- A time that is missing afterwards was missing before.
      have before : shutdownTime past register = none := by
        rw [shutdownTime_concat] at missing
        split_ifs at missing
        exact missing
      simp [correlated, withinWindow_of_missing member missing,
        withinWindow_of_missing member before, next]
  · have same : shutdownTime (past ++ [observation]) = shutdownTime past := by
      funext register
      rw [shutdownTime_concat, if_neg fun both => counts both.1]
    rw [if_neg counts]
    simp [correlated, same, times]

/-! ## The whole episode -/

/-- The outcome counters of observations. -/
def outcomeStates (past : List (Observation τ)) : OutcomeStates where
  processed := outcomeCount past .processed
  rejected := outcomeCount past .rejected
  unknown := outcomeCount past .unknown

omit [LinearOrder τ] [Sub τ] in
/-- The outcome counters after one more observation. -/
theorem outcomeStates_concat (past : List (Observation τ)) (observation : Observation τ) :
    outcomeStates (past ++ [observation]) =
      (outcomeStates past).increment observation.outcomeState := by
  simp only [outcomeStates, outcomeCount, List.countP_append, List.countP_singleton]
  cases observation.outcomeState <;> simp [OutcomeStates.increment]

/-- What the fields of an episode say about its observations. -/
structure Accounts (config : AggregatorConfig τ) (past : List (Observation τ))
    (episode : Episode τ) : Prop where
  requestCount : episode.requestCount = past.length
  functionCodes : episode.functionCodes =
    ((operations past).map Operation.functionCode).toFinset
  outcomeStates : episode.outcomeStates = outcomeStates past
  tally : Tally.Correct (writeRules config.maxOperationBuckets) (operations past)
    ⟨episode.writes, episode.droppedOperationBuckets⟩
  shutdownSeen : ∀ register, episode.shutdownSeen.get? register = shutdownTime past register
  shutdown : episode.shutdown = correlated config.shutdownWindow past

/-- A new episode accounts for no observations. -/
theorem accounts_new (sha256Text : Text → String) (config : AggregatorConfig τ) (sequence : Nat)
    (observation : Observation τ) :
    Accounts config [] (newEpisode sha256Text config sequence observation) where
  requestCount := rfl
  functionCodes := rfl
  outcomeStates := rfl
  tally := Tally.empty_correct _
  shutdownSeen _ := rfl
  shutdown := rfl

/-- An update accounts for one more observation. -/
theorem Accounts.update {config : AggregatorConfig τ} {past : List (Observation τ)}
    {episode : Episode τ} (accounts : Accounts config past episode)
    (observation : Observation τ) :
    Accounts config (past ++ [observation]) (updateEpisode config episode observation).1 where
  requestCount := by simp [updateEpisode, accounts.requestCount]
  functionCodes := by
    ext code
    simp [updateEpisode, accounts.functionCodes, operations, eq_comm]
  outcomeStates := by simp only [updateEpisode, outcomeStates_concat, accounts.outcomeStates]
  tally := by
    have added := accounts.tally.add Operation.increment_bucket observation.operation
    rw [← countOperation_eq] at added
    simpa [operations, updateEpisode] using added
  shutdownSeen := by
    simp only [updateEpisode, accounts.shutdown]
    exact (updateShutdownCorrelation_spec _ observation accounts.shutdownSeen).1
  shutdown := by
    simp only [updateEpisode, accounts.shutdown]
    exact (updateShutdownCorrelation_spec _ observation accounts.shutdownSeen).2.1

/-- An update escalates exactly when the correlation starts to hold. -/
theorem Accounts.escalated {config : AggregatorConfig τ} {past : List (Observation τ)}
    {episode : Episode τ} (accounts : Accounts config past episode)
    (observation : Observation τ) :
    (updateEpisode config episode observation).2 =
      (correlated config.shutdownWindow (past ++ [observation]) &&
        !correlated config.shutdownWindow past) := by
  simp only [updateEpisode, accounts.shutdown]
  exact (updateShutdownCorrelation_spec _ observation accounts.shutdownSeen).2.2

end DTLab
