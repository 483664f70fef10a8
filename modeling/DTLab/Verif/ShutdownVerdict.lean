import DTLab.Verif.Agreement

/-!
# The shutdown verdict

The aggregator keeps the time of the last zero write to each register of the shutdown sequence, and
sets its verdict anew with each of them. The verdict is that of all writes of the episode as long
as a zero write behind a complete sequence comes within the window of the last ones to the other
registers; otherwise the verdict is withdrawn.
-/

namespace DTLab

open Library (Text Dict Machine.run)

variable {τ : Type}

/-! ## Sequences -/

/-- An observation of the zero write to a register of the sequence. -/
def Zeroes (register : Int) (observation : Observation τ) : Prop :=
  observation.operation.isShutdownWrite = true ∧ observation.operation.address = register

/-- The register of a zero write is one of the sequence. -/
theorem Zeroes.mem {register : Int} {observation : Observation τ}
    (zeroes : Zeroes register observation) : register ∈ shutdownRegisters := by
  have written := zeroes.1
  simp only [Operation.isShutdownWrite, Bool.and_eq_true, decide_eq_true_eq] at written
  rw [← zeroes.2]
  exact written.2

/-- Differences of clock readings are monotone, as they are for floats. -/
def MonotoneSpans (τ : Type) [LinearOrder τ] [Sub τ] : Prop :=
  ∀ early early' late late' : τ, early' ≤ early → late ≤ late' → late - early ≤ late' - early'

/-- A known time is that of a zero write. -/
theorem exists_of_shutdownTime {past : List (Observation τ)} {register : Int} {time : τ}
    (known : shutdownTime past register = some time) :
    ∃ observation ∈ past, Zeroes register observation ∧ observation.observedEpoch = time := by
  obtain ⟨observation, last, epoch⟩ := Option.map_eq_some_iff.mp known
  obtain ⟨member, kept⟩ := List.mem_filter.mp (List.mem_of_getLast? last)
  rw [Bool.and_eq_true, decide_eq_true_eq] at kept
  exact ⟨observation, member, kept, epoch⟩

/-- What holds of each register of the sequence. -/
theorem forall_shutdownRegisters {holds : Int → Prop} :
    (∀ register ∈ shutdownRegisters, holds register) ↔ holds 3 ∧ holds 4 ∧ holds 16 := by
  simp [shutdownRegisters]

section Sequences

variable [LinearOrder τ]

/-- Observations in the order of their times. -/
def Ordered (past : List (Observation τ)) : Prop :=
  past.Pairwise fun earlier later => earlier.observedEpoch ≤ later.observedEpoch

/-- The last observation in order is the latest. -/
theorem Ordered.le_last {past : List (Observation τ)} {observation : Observation τ}
    (ordered : Ordered (past ++ [observation])) {earlier : Observation τ}
    (member : earlier ∈ past) : earlier.observedEpoch ≤ observation.observedEpoch := by
  have across := (List.pairwise_append.mp ordered).2.2
  exact across earlier member observation List.mem_cons_self

/-- The known time of a register is that of its latest zero write. -/
theorem le_shutdownTime {past : List (Observation τ)} (ordered : Ordered past) {register : Int}
    {observation : Observation τ} (member : observation ∈ past)
    (zeroes : Zeroes register observation) :
    ∃ time, shutdownTime past register = some time ∧ observation.observedEpoch ≤ time := by
  induction past using List.reverseRecOn with
  | nil => cases member
  | append_singleton past last ih =>
    have before : Ordered past := (List.pairwise_append.mp ordered).1
    rw [shutdownTime_concat]
    by_cases written : last.operation.isShutdownWrite ∧ last.operation.address = register
    · rw [if_pos written]
      refine ⟨last.observedEpoch, rfl, ?_⟩
      rcases List.mem_append.mp member with earlier | same
      · exact ordered.le_last earlier
      · rw [List.mem_singleton.mp same]
    · rw [if_neg written]
      rcases List.mem_append.mp member with earlier | same
      · exact ih before earlier
      · rw [List.mem_singleton.mp same] at zeroes
        exact absurd zeroes written

/-- The greatest of three times is one of them. -/
theorem max_three (first second third : τ) :
    max (max first second) third = first ∨ max (max first second) third = second ∨
      max (max first second) third = third := by
  rcases max_choice (max first second) third with same | same <;> rw [same]
  · rcases max_choice first second with first | second
    · exact Or.inl first
    · exact Or.inr (Or.inl second)
  · exact Or.inr (Or.inr rfl)

/-- The least of three times is one of them. -/
theorem min_three (first second third : τ) :
    min (min first second) third = first ∨ min (min first second) third = second ∨
      min (min first second) third = third := by
  rcases min_choice (min first second) third with same | same <;> rw [same]
  · rcases min_choice first second with first | second
    · exact Or.inl first
    · exact Or.inr (Or.inl second)
  · exact Or.inr (Or.inr rfl)

variable [Sub τ]

/-- There are zero writes to registers 3, 4 and 16 whose times span at most the window. -/
def Triple (window : τ) (past : List (Observation τ)) : Prop :=
  ∃ time : Int → τ,
    (∀ register ∈ shutdownRegisters, ∃ observation ∈ past,
      Zeroes register observation ∧ observation.observedEpoch = time register) ∧
    ∀ register ∈ shutdownRegisters, ∀ other ∈ shutdownRegisters,
      time register - time other ≤ window

/-- A zero write comes within the window of the last ones to the other registers. -/
def Prolongs (window : τ) (past : List (Observation τ)) (observation : Observation τ) : Prop :=
  observation.operation.isShutdownWrite = true → ∀ register ∈ shutdownRegisters,
    register ≠ observation.operation.address → ∀ time ∈ shutdownTime past register,
      observation.observedEpoch - time ≤ window

/-- Each zero write behind a complete sequence comes within the window of the last ones to the other
registers. -/
def Sustained (window : τ) (past : List (Observation τ)) : Prop :=
  ∀ before observation after, past = before ++ observation :: after → Triple window before →
    Prolongs window before observation

/-- The verdict on observations is that of all their writes. -/
def Exact (window : τ) (past : List (Observation τ)) : Prop :=
  correlated window past = true ↔ Triple window past

/-- A sequence stays in longer observations. -/
theorem Triple.mono {window : τ} {shorter past : List (Observation τ)}
    (triple : Triple window shorter) (prefixed : shorter <+: past) : Triple window past := by
  obtain ⟨rest, rfl⟩ := prefixed
  obtain ⟨time, written, within⟩ := triple
  refine ⟨time, fun register member => ?_, within⟩
  obtain ⟨write, inside, zeroes⟩ := written register member
  exact ⟨write, List.mem_append_left _ inside, zeroes⟩

/-- The verdict on no observations is exact. -/
theorem exact_nil (window : τ) : Exact window ([] : List (Observation τ)) := by
  refine ⟨nofun, ?_⟩
  rintro ⟨_, written, _⟩
  obtain ⟨_, impossible, _⟩ := written 3 (by decide)
  cases impossible

/-- The times of the registers lie within the window. -/
theorem withinWindow_iff (spans : MonotoneSpans τ) {window : τ} {time : Int → Option τ} :
    withinWindow window time = true ↔
      ∃ known : Int → τ, (∀ register ∈ shutdownRegisters, time register = some (known register)) ∧
        ∀ register ∈ shutdownRegisters, ∀ other ∈ shutdownRegisters,
          known register - known other ≤ window := by
  simp only [forall_shutdownRegisters]
  constructor
  · intro within
    unfold withinWindow at within
    split at within
    · rename_i first second third three four sixteen
      let known : Int → τ := fun register =>
        if register = 3 then first else if register = 4 then second else third
      have least : ∀ time, time = first ∨ time = second ∨ time = third →
          min (min first second) third ≤ time ∧ time ≤ max (max first second) third := by
        rintro time (same | same | same) <;> simp [same]
      have below : ∀ late early, (late = first ∨ late = second ∨ late = third) →
          (early = first ∨ early = second ∨ early = third) → late - early ≤ window := by
        intro late early isLate isEarly
        apply le_trans (spans _ _ _ _ (least early isEarly).1 (least late isLate).2)
        exact of_decide_eq_true within
      refine ⟨known, ⟨three, four, sixteen⟩, ?_⟩
      refine ⟨⟨?_, ?_, ?_⟩, ⟨?_, ?_, ?_⟩, ⟨?_, ?_, ?_⟩⟩ <;>
      · apply below <;> simp [known]
    · cases within
  · rintro ⟨known, ⟨three, four, sixteen⟩, spans⟩
    unfold withinWindow
    simp only [three, four, sixteen, decide_eq_true_eq]
    rcases max_three (known 3) (known 4) (known 16) with latest | latest | latest <;>
      rcases min_three (known 3) (known 4) (known 16) with earliest | earliest | earliest <;>
      rw [latest, earliest]
    all_goals simp only [spans]

/-- Whether the last zero writes correlate, by their times. -/
theorem correlated_iff (spans : MonotoneSpans τ) {window : τ} {past : List (Observation τ)} :
    correlated window past = true ↔
      ∃ known : Int → τ,
        (∀ register ∈ shutdownRegisters, shutdownTime past register = some (known register)) ∧
        ∀ register ∈ shutdownRegisters, ∀ other ∈ shutdownRegisters,
          known register - known other ≤ window :=
  withinWindow_iff spans

/-- A verdict is founded on a sequence. -/
theorem triple_of_correlated (spans : MonotoneSpans τ) {window : τ} {past : List (Observation τ)}
    (matched : correlated window past = true) : Triple window past := by
  obtain ⟨known, times, within⟩ := (correlated_iff spans).mp matched
  exact ⟨known, fun register member => exists_of_shutdownTime (times register member), within⟩

/-! ## One more observation -/

section Step

variable {window : τ} {past : List (Observation τ)} {observation : Observation τ}

/-- An observation that is no zero write changes neither the verdict nor the sequences. -/
theorem correlated_concat_of_not (other : ¬observation.operation.isShutdownWrite = true) :
    correlated window (past ++ [observation]) = correlated window past := by
  have same : shutdownTime (past ++ [observation]) = shutdownTime past := by
    funext register
    rw [shutdownTime_concat, if_neg fun both => other both.1]
  rw [correlated, correlated, same]

theorem triple_concat_of_not (other : ¬observation.operation.isShutdownWrite = true) :
    Triple window (past ++ [observation]) ↔ Triple window past := by
  refine ⟨fun triple => ?_, fun triple => triple.mono (List.prefix_append _ _)⟩
  obtain ⟨time, written, within⟩ := triple
  refine ⟨time, fun register member => ?_, within⟩
  obtain ⟨write, inside, zeroes, epoch⟩ := written register member
  rcases List.mem_append.mp inside with earlier | same
  · exact ⟨write, earlier, zeroes, epoch⟩
  · rw [List.mem_singleton.mp same] at zeroes
    exact absurd zeroes.1 other

/-- A zero write within the window of known last writes to the other registers completes a
sequence. -/
theorem correlated_concat (spans : MonotoneSpans τ) (ordered : Ordered (past ++ [observation]))
    (written : observation.operation.isShutdownWrite = true)
    (near : ∀ register ∈ shutdownRegisters, register ≠ observation.operation.address →
      ∃ time, shutdownTime past register = some time ∧
        observation.observedEpoch - time ≤ window) :
    correlated window (past ++ [observation]) = true := by
  let own := observation.operation.address
  let now := observation.observedEpoch
  let known : Int → τ := fun register =>
    if register = own then now else (shutdownTime past register).getD now
  have others : ∀ register ∈ shutdownRegisters, register ≠ own →
      shutdownTime past register = some (known register) ∧ now - known register ≤ window ∧
        known register ≤ now := by
    intro register member other
    obtain ⟨time, last, close⟩ := near register member other
    have same : known register = time := by
      simp only [known, if_neg other, last, Option.getD_some]
    obtain ⟨write, inside, _, epoch⟩ := exists_of_shutdownTime last
    rw [same, ← epoch]
    refine ⟨last.trans (congrArg some epoch.symm), ?_, ordered.le_last inside⟩
    rw [epoch]
    exact close
  have latest : ∀ register ∈ shutdownRegisters, known register ≤ now := by
    intro register member
    by_cases same : register = own
    · exact le_of_eq (if_pos same)
    · exact (others register member same).2.2
  -- Another register of the sequence.
  obtain ⟨partner, member, other⟩ : ∃ partner ∈ shutdownRegisters, partner ≠ own := by
    by_cases three : own = 3
    · exact ⟨4, by decide, by rw [three]; decide⟩
    · exact ⟨3, by decide, Ne.symm three⟩
  apply (correlated_iff spans).mpr
  refine ⟨known, fun register member => ?_, fun late isLate early isEarly => ?_⟩
  · rw [shutdownTime_concat]
    by_cases same : own = register
    · rw [if_pos ⟨written, same⟩]
      exact congrArg some (if_pos same.symm).symm
    · rw [if_neg fun both => same both.2]
      exact (others register member (Ne.symm same)).1
  · by_cases same : early = own
    · have equal : known early = now := if_pos same
      rw [equal]
      apply le_trans (spans _ _ _ _ (latest partner member) (latest late isLate))
      exact (others partner member other).2.1
    · apply le_trans (spans _ _ _ _ (le_refl (known early)) (latest late isLate))
      exact (others early isEarly same).2.1

/-- The verdict stays exact exactly where a zero write behind a complete sequence comes within the
window. -/
theorem exact_concat_iff (spans : MonotoneSpans τ) (ordered : Ordered (past ++ [observation]))
    (exactBefore : Exact window past) :
    Exact window (past ++ [observation]) ↔
      (Triple window past → Prolongs window past observation) := by
  by_cases written : observation.operation.isShutdownWrite = true
  · have before : Ordered past := (List.pairwise_append.mp ordered).1
    constructor
    · intro exactBehind triple _ register member other time last
      have matched := exactBehind.mpr (triple.mono (List.prefix_append _ _))
      obtain ⟨known, times, within⟩ := (correlated_iff spans).mp matched
      have own : observation.operation.address ∈ shutdownRegisters := by
        have zeroes : Zeroes observation.operation.address observation := ⟨written, rfl⟩
        exact zeroes.mem
      have now := times _ own
      have there := times register member
      rw [shutdownTime_concat, if_pos ⟨written, rfl⟩] at now
      rw [shutdownTime_concat, if_neg fun both => other both.2.symm, last] at there
      rw [Option.some.inj now, Option.some.inj there]
      exact within _ own register member
    · intro prolongs
      refine ⟨triple_of_correlated spans, fun triple => ?_⟩
      by_cases complete : Triple window past
      · have prolongs := prolongs complete written
        obtain ⟨time, writes, _⟩ := complete
        apply correlated_concat spans ordered written
        intro register member other
        obtain ⟨write, inside, zeroes, _⟩ := writes register member
        obtain ⟨last, known, _⟩ := le_shutdownTime before inside zeroes
        exact ⟨last, known, prolongs register member other last known⟩
      · -- The sequence is completed by the observation itself.
        obtain ⟨time, writes, within⟩ := triple
        have earlier : ∀ register ∈ shutdownRegisters, register ≠ observation.operation.address →
            ∃ write ∈ past, Zeroes register write ∧ write.observedEpoch = time register := by
          intro register member other
          obtain ⟨write, inside, zeroes, epoch⟩ := writes register member
          rcases List.mem_append.mp inside with inPast | same
          · exact ⟨write, inPast, zeroes, epoch⟩
          · rw [List.mem_singleton.mp same] at zeroes
            exact absurd zeroes.2.symm other
        have own : observation.operation.address ∈ shutdownRegisters := by
          have zeroes : Zeroes observation.operation.address observation := ⟨written, rfl⟩
          exact zeroes.mem
        have now : observation.observedEpoch = time observation.operation.address := by
          obtain ⟨write, inside, zeroes, epoch⟩ := writes _ own
          rcases List.mem_append.mp inside with inPast | same
          · refine absurd ⟨time, fun register member => ?_, within⟩ complete
            by_cases equal : register = observation.operation.address
            · rw [equal]
              exact ⟨write, inPast, zeroes, epoch⟩
            · exact earlier register member equal
          · rw [List.mem_singleton.mp same] at epoch
            exact epoch
        apply correlated_concat spans ordered written
        intro register member other
        obtain ⟨write, inPast, zeroes, epoch⟩ := earlier register member other
        obtain ⟨last, known, later⟩ := le_shutdownTime before inPast zeroes
        refine ⟨last, known, ?_⟩
        apply le_trans (spans _ _ _ _ later (le_refl _))
        rw [now, epoch]
        exact within _ own register member
  · rw [Exact, correlated_concat_of_not written, triple_concat_of_not written]
    exact iff_of_true exactBefore fun _ impossible => absurd impossible written

end Step

/-- The verdict is exact on an episode all along exactly where the sequences are sustained. -/
theorem exact_prefixes_iff (spans : MonotoneSpans τ) {window : τ} {past : List (Observation τ)}
    (ordered : Ordered past) :
    (∀ before, before <+: past → Exact window before) ↔ Sustained window past := by
  induction past using List.reverseRecOn with
  | nil =>
    refine iff_of_true (fun before prefixed => ?_) fun before observation after same => ?_
    · rw [List.prefix_nil.mp prefixed]
      exact exact_nil window
    · have impossible := congrArg List.length same
      simp at impossible
  | append_singleton past observation ih =>
    have before : Ordered past := (List.pairwise_append.mp ordered).1
    constructor
    · intro all earlier write after same
      have shorter := (ih before).mp fun prior prefixed =>
        all prior (prefixed.trans (List.prefix_append _ _))
      rcases List.eq_nil_or_concat after with rfl | ⟨rest, last, rfl⟩
      · obtain ⟨rfl, rfl⟩ := List.append_inj' same rfl |>.imp id List.singleton_inj.mp
        have exactBefore := all past (List.prefix_append _ _)
        exact (exact_concat_iff spans ordered exactBefore).mp (all _ (List.prefix_refl _))
      · have split : past = earlier ++ write :: rest := by
          have whole : past ++ [observation] = (earlier ++ write :: rest) ++ [last] := by
            rw [same, List.concat_eq_append, List.append_assoc, List.cons_append]
          exact (List.append_inj' whole rfl).1
        exact shorter earlier write rest split
    · intro sustained prior prefixed
      have shorter : Sustained window past := by
        intro earlier write after same
        apply sustained earlier write (after ++ [observation])
        rw [same, List.append_assoc, List.cons_append]
      have exactBefore := (ih before).mpr shorter
      rcases List.prefix_concat_iff.mp prefixed with same | inside
      · rw [same]
        apply (exact_concat_iff spans ordered (exactBefore past (List.prefix_refl _))).mpr
        exact sustained past observation [] rfl
      · exact exactBefore prior inside

end Sequences

/-! ## Runs -/

namespace Ledger

/-- What a flush leaves was there. -/
theorem get?_of_flush {selected : EpisodeKey × EpisodeLog τ → Bool} {ledger : Ledger τ}
    {key : EpisodeKey} {log : EpisodeLog τ}
    (found : (ledger.flush selected).1.logs.get? key = some log) :
    ledger.logs.get? key = some log := by
  have kept := Dict.get?_eq_some.mp found
  exact Dict.get?_eq_some.mpr ((Dict.mem_filter _ _ _).mp kept).1

/-- What a flush reports was there. -/
theorem get?_of_mem_flush {selected : EpisodeKey × EpisodeLog τ → Bool} {ledger : Ledger τ}
    {report : Report τ} (member : report ∈ (ledger.flush selected).2) :
    ∃ key log, ledger.logs.get? key = some log ∧ report.history = log.history := by
  obtain ⟨⟨key, log⟩, kept, rfl⟩ := List.mem_map.mp member
  exact ⟨key, log, Dict.get?_eq_some.mpr (List.mem_filter.mp kept).1, rfl⟩

/-- The history of a recorded observation is new, or one that was there with the observation. -/
theorem recorded_history (ledger : Ledger τ) (observation : Observation τ) :
    (ledger.recorded observation).1.history = .opened observation ∨
      ∃ earlier, ledger.logs.get? observation.episodeKey = some earlier ∧
        (ledger.recorded observation).1.history = earlier.history.record observation := by
  rw [recorded]
  cases held : ledger.logs.get? observation.episodeKey with
  | none => exact Or.inl rfl
  | some earlier => exact Or.inr ⟨earlier, rfl, rfl⟩

section Steps

variable [LinearOrder τ] [Sub τ] (config : AggregatorConfig τ)

/-- The log of an observation behind `observe`, and what `observe` reports. -/
theorem observe_cases (observation : Observation τ) (ledger : Ledger τ) :
    let flushed := ledger.flushExpired config observation.observedEpoch
    ∃ log, log.history = (flushed.1.recorded observation).1.history ∧
      (observe config observation ledger).1.logs =
        flushed.1.logs.set observation.episodeKey log ∧
      ∀ report ∈ (observe config observation ledger).2,
        report ∈ flushed.2 ∨ report.history = log.history := by
  intro flushed
  rw [observe]
  split_ifs
  · refine ⟨(flushed.1.recorded observation).1.reported, rfl, rfl, fun report member => ?_⟩
    rcases List.mem_append.mp member with earlier | last
    · exact Or.inl earlier
    · rw [List.mem_singleton.mp last]
      exact Or.inr rfl
  · exact ⟨(flushed.1.recorded observation).1, rfl, rfl, fun report member => Or.inl member⟩

variable {config}

/-- A log behind a call was there before it, or has the observation of the call. -/
theorem mem_logs_step {ledger : Ledger τ} {call : AggregatorCall τ} {key : EpisodeKey}
    {log : EpisodeLog τ} (found : (ledger.step config call).1.logs.get? key = some log) :
    ledger.logs.get? key = some log ∨ ∃ observation, call = .observe observation ∧
      (log.history = .opened observation ∨ ∃ earlier, ledger.logs.get? key = some earlier ∧
        log.history = earlier.history.record observation) := by
  cases call with
  | observe observation =>
    obtain ⟨recorded, same, logs, _⟩ := observe_cases config observation ledger
    rw [show (ledger.step config (.observe observation)).1.logs = _ from logs,
      Dict.get?_set] at found
    split_ifs at found with own
    · obtain rfl := Option.some.inj found
      refine Or.inr ⟨observation, rfl, ?_⟩
      rw [same, own]
      rcases recorded_history (ledger.flushExpired config observation.observedEpoch).1 observation
        with opened | ⟨earlier, held, longer⟩
      · exact Or.inl opened
      · exact Or.inr ⟨earlier, get?_of_flush held, longer⟩
    · exact Or.inl (get?_of_flush found)
  | flushExpired nowEpoch => exact Or.inl (get?_of_flush found)
  | flushSource sourceIp sourcePort => exact Or.inl (get?_of_flush found)
  | flushAll => exact Or.inl (get?_of_flush found)

/-- A report of a call is on a log that is there before the call or behind it. -/
theorem mem_reports_step {ledger : Ledger τ} {call : AggregatorCall τ} {report : Report τ}
    (member : report ∈ (ledger.step config call).2) :
    (∃ key log, ledger.logs.get? key = some log ∧ report.history = log.history) ∨
      ∃ key log, (ledger.step config call).1.logs.get? key = some log ∧
        report.history = log.history := by
  cases call with
  | observe observation =>
    obtain ⟨recorded, _, logs, reports⟩ := observe_cases config observation ledger
    rcases reports report member with flushed | same
    · exact Or.inl (get?_of_mem_flush flushed)
    · refine Or.inr ⟨observation.episodeKey, recorded, ?_, same⟩
      rw [show (ledger.step config (.observe observation)).1.logs = _ from logs, Dict.get?_set,
        if_pos rfl]
  | flushExpired nowEpoch => exact Or.inl (get?_of_mem_flush member)
  | flushSource sourceIp sourcePort => exact Or.inl (get?_of_mem_flush member)
  | flushAll => exact Or.inl (get?_of_mem_flush member)

end Steps

end Ledger

section Runs

variable [LinearOrder τ] [Sub τ]

/-- An episode that is open behind calls, with its observations. -/
def OpenEpisode (config : AggregatorConfig τ) (nextSequence : Nat)
    (calls : List (AggregatorCall τ)) (key : EpisodeKey) (history : History τ) : Prop :=
  ∃ log, (Machine.run (Ledger.step config) (Ledger.start nextSequence) calls).1.logs.get? key =
    some log ∧ log.history = history

variable {config : AggregatorConfig τ} {nextSequence : Nat}

/-- No episode is open at the start. -/
theorem not_openEpisode_nil (key : EpisodeKey) (history : History τ) :
    ¬OpenEpisode config nextSequence [] key history := by
  rintro ⟨log, found, _⟩
  cases found

/-- An episode that is open behind one more call was open, or has the observation of the call. -/
theorem OpenEpisode.concat {calls : List (AggregatorCall τ)} {call : AggregatorCall τ}
    {key : EpisodeKey} {history : History τ}
    (isOpen : OpenEpisode config nextSequence (calls ++ [call]) key history) :
    OpenEpisode config nextSequence calls key history ∨
      ∃ observation, call = .observe observation ∧ (history = .opened observation ∨
        ∃ earlier, OpenEpisode config nextSequence calls key earlier ∧
          history = earlier.record observation) := by
  obtain ⟨log, found, rfl⟩ := isOpen
  rw [Library.Machine.run_concat] at found
  rcases Ledger.mem_logs_step found with left |
    ⟨observation, same, opened | ⟨earlier, held, longer⟩⟩
  · exact Or.inl ⟨log, left, rfl⟩
  · exact Or.inr ⟨observation, same, Or.inl opened⟩
  · exact Or.inr ⟨observation, same, Or.inr ⟨earlier.history, ⟨earlier, held, rfl⟩, longer⟩⟩

/-- The observations of an open episode are among those of the calls, in their order. -/
theorem OpenEpisode.sublist {calls : List (AggregatorCall τ)} {key : EpisodeKey}
    {history : History τ} (isOpen : OpenEpisode config nextSequence calls key history) :
    history.all.Sublist (observations calls) := by
  induction calls using List.reverseRecOn generalizing history with
  | nil => exact absurd isOpen (not_openEpisode_nil key history)
  | append_singleton calls call ih =>
    have split : observations (calls ++ [call]) = observations calls ++ observations [call] :=
      List.filterMap_append
    rw [split]
    rcases isOpen.concat with left | ⟨observation, rfl, rfl | ⟨earlier, held, rfl⟩⟩
    · exact (ih left).trans (List.sublist_append_left _ _)
    · exact List.sublist_append_right _ _
    · exact (ih held).append (List.Sublist.refl _)

/-- The beginnings of an open episode were open episodes. -/
theorem OpenEpisode.of_prefix {calls : List (AggregatorCall τ)} {key : EpisodeKey}
    {history : History τ} (isOpen : OpenEpisode config nextSequence calls key history)
    {shorter : List (Observation τ)} (prefixed : shorter <+: history.all) (some : shorter ≠ []) :
    ∃ before earlier, before <+: calls ∧ OpenEpisode config nextSequence before key earlier ∧
      earlier.all = shorter := by
  induction calls using List.reverseRecOn generalizing history with
  | nil => exact absurd isOpen (not_openEpisode_nil key history)
  | append_singleton calls call ih =>
    have within : (∃ before earlier, before <+: calls ∧
        OpenEpisode config nextSequence before key earlier ∧ earlier.all = shorter) →
        ∃ before earlier, before <+: calls ++ [call] ∧
          OpenEpisode config nextSequence before key earlier ∧ earlier.all = shorter := by
      rintro ⟨before, earlier, inside, held, same⟩
      exact ⟨before, earlier, inside.trans (List.prefix_append _ _), held, same⟩
    rcases isOpen.concat with left | ⟨observation, rfl, rfl | ⟨earlier, held, rfl⟩⟩
    · exact within (ih left prefixed)
    · rw [History.all_opened] at prefixed
      rcases List.prefix_concat_iff.mp (show shorter <+: [] ++ [observation] from prefixed) with
        whole | none
      · exact ⟨_, _, List.prefix_refl _, isOpen, whole.symm⟩
      · exact absurd (List.prefix_nil.mp none) some
    · rw [History.all_record] at prefixed
      rcases List.prefix_concat_iff.mp prefixed with whole | inside
      · exact ⟨_, _, List.prefix_refl _, isOpen, whole.symm⟩
      · exact within (ih held inside)

/-- A report of a run is on an episode that was open. -/
theorem openEpisode_of_report {calls : List (AggregatorCall τ)} {report : Report τ}
    (member : report ∈ Ledger.reports config nextSequence calls) :
    ∃ before key, before <+: calls ∧
      OpenEpisode config nextSequence before key report.history := by
  induction calls using List.reverseRecOn with
  | nil => cases member
  | append_singleton calls call ih =>
    rw [Ledger.reports, Library.Machine.run_concat] at member
    rcases List.mem_append.mp member with earlier | last
    · obtain ⟨before, key, inside, isOpen⟩ := ih earlier
      exact ⟨before, key, inside.trans (List.prefix_append _ _), isOpen⟩
    · rcases Ledger.mem_reports_step last with ⟨key, log, found, same⟩ | ⟨key, log, found, same⟩
      · exact ⟨calls, key, List.prefix_append _ _, log, found, same.symm⟩
      · refine ⟨calls ++ [call], key, List.prefix_refl _, log, ?_, same.symm⟩
        rw [Library.Machine.run_concat]
        exact found

/-- A later revision is classified no lower, and is no less severe or urgent. -/
def NotLower (earlier later : HostOtEvent) : Prop :=
  (earlier.detection.map Detection.classification = some .processShutdownSequence →
    later.detection.map Detection.classification = some .processShutdownSequence) ∧
  (earlier.detection.map Detection.severity = some .critical →
    later.detection.map Detection.severity = some .critical) ∧
  (earlier.detection.map Detection.priority = some .p1 →
    later.detection.map Detection.priority = some .p1)

instance (earlier later : HostOtEvent) : Decidable (NotLower earlier later) :=
  inferInstanceAs (Decidable (_ ∧ _ ∧ _))

/-- After each call the verdict on each open episode is that of all its writes, and no later
revision of an episode is lower than an earlier one. -/
structure VerdictsHold (sha256Text : Text → String) (config : AggregatorConfig τ)
    (nextSequence : Nat) (calls : List (AggregatorCall τ)) : Prop where
  exact : ∀ before key history, before <+: calls →
    OpenEpisode config nextSequence before key history →
      ∃ episode, (Machine.run (Aggregator.step sha256Text config) (Aggregator.start nextSequence)
          before).1.episodes.get? key = some episode ∧
        (episode.shutdown = true ↔ Triple config.shutdownWindow history.all)
  kept : (Aggregator.events sha256Text config nextSequence calls).Pairwise fun earlier later =>
    earlier.episodeSequence = later.episodeSequence → NotLower earlier later

/-- The episode of the aggregator for an open one, and its verdict. -/
theorem OpenEpisode.episode (sha256Text : Text → String) {calls : List (AggregatorCall τ)}
    {key : EpisodeKey} {history : History τ}
    (isOpen : OpenEpisode config nextSequence calls key history) :
    ∃ episode, (Machine.run (Aggregator.step sha256Text config) (Aggregator.start nextSequence)
        calls).1.episodes.get? key = some episode ∧
      episode.shutdown = correlated config.shutdownWindow history.all := by
  obtain ⟨log, found, rfl⟩ := isOpen
  refine ⟨log.episode sha256Text config, ?_, ?_⟩
  · have runs := Library.Machine.run_map (Ledger.aggregator sha256Text config)
      (Report.document sha256Text config) (step_aggregator sha256Text config)
      (Ledger.start nextSequence) calls
    have state := congrArg Prod.fst runs
    have start : (Ledger.start nextSequence).aggregator sha256Text config =
        Aggregator.start nextSequence := rfl
    rw [← start, state]
    show (Dict.mapValues _ _).get? key = _
    rw [Dict.get?_mapValues, found]
    rfl
  · exact (log.history.accounts sha256Text config log.sequence).shutdown

/-- A detection that is rendered for a verdict that is kept is not lower. -/
theorem notLower_document (sha256Text : Text → String) {earlier later : Report τ}
    (kept : correlated config.shutdownWindow earlier.history.all = true →
      correlated config.shutdownWindow later.history.all = true) :
    NotLower (earlier.document sha256Text config) (later.document sha256Text config) := by
  simp only [NotLower, Report.document_detection, Option.map_some]
  cases before : correlated config.shutdownWindow earlier.history.all with
  | false => exact ⟨nofun, nofun, nofun⟩
  | true =>
    rw [kept before]
    exact ⟨id, id, id⟩

/-- For observations in the order of their times, the verdicts are those of all the writes seen and
are never taken back exactly where in each episode each zero write behind a complete sequence comes
within the window of the last ones to the other two registers. -/
theorem shutdown_verdict_exact_iff (spans : MonotoneSpans τ) (sha256Text : Text → String)
    (config : AggregatorConfig τ) (nextSequence : Nat) (calls : List (AggregatorCall τ))
    (ordered : Ordered (observations calls)) :
    VerdictsHold sha256Text config nextSequence calls ↔
      ∀ before key history, before <+: calls →
        OpenEpisode config nextSequence before key history →
          Sustained config.shutdownWindow history.all := by
  have inOrder : ∀ {before key history}, before <+: calls →
      OpenEpisode config nextSequence before key history → Ordered history.all := by
    intro before key history prefixed isOpen
    apply List.Pairwise.sublist _ ordered
    apply isOpen.sublist.trans
    exact (prefixed.sublist).filterMap _
  constructor
  · intro holds before key history prefixed isOpen
    apply (exact_prefixes_iff spans (inOrder prefixed isOpen)).mp
    intro shorter within
    by_cases none : shorter = []
    · rw [none]
      exact exact_nil _
    · obtain ⟨prior, earlier, inside, wasOpen, rfl⟩ := isOpen.of_prefix within none
      obtain ⟨episode, found, shutdown⟩ := wasOpen.episode sha256Text
      obtain ⟨other, same, verdict⟩ := holds.exact prior key earlier (inside.trans prefixed) wasOpen
      rw [found] at same
      obtain rfl := Option.some.inj same
      rw [Exact, ← shutdown]
      exact verdict
  · intro sustained
    have exactOpen : ∀ {before key history}, before <+: calls →
        OpenEpisode config nextSequence before key history →
          Exact config.shutdownWindow history.all := by
      intro before key history prefixed isOpen
      have all := (exact_prefixes_iff spans (inOrder prefixed isOpen)).mpr
        (sustained before key history prefixed isOpen)
      exact all history.all (List.prefix_refl _)
    refine ⟨fun before key history prefixed isOpen => ?_, ?_⟩
    · obtain ⟨episode, found, shutdown⟩ := isOpen.episode sha256Text
      refine ⟨episode, found, ?_⟩
      rw [shutdown]
      exact exactOpen prefixed isOpen
    · have records := Ledger.records_run config nextSequence calls
      rw [events_eq, List.pairwise_map]
      apply records.growing.imp_of_mem
      intro earlier later first second grows same
      simp only [Report.document_episodeSequence] at same
      obtain ⟨before, key, prefixed, wasOpen⟩ := openEpisode_of_report first
      obtain ⟨behind, other, prefixed', isOpen⟩ := openEpisode_of_report second
      apply notLower_document sha256Text
      intro matched
      have triple := (exactOpen prefixed wasOpen).mp matched
      exact (exactOpen prefixed' isOpen).mpr (triple.mono (grows same).1)

end Runs

/-- Differences of whole seconds are monotone. -/
theorem monotoneSpans_int : MonotoneSpans Int := by
  intro early early' late late' earlier later
  omega

/-- The three zero writes of the shutdown sequence, within two seconds. -/
def sampleSequence : List (AggregatorCall Int) :=
  sampleCall (writeRegister 3 0) "processed" 100 ++
    sampleCall (writeRegister 4 0) "processed" 101 ++
    sampleCall (writeRegister 16 0) "processed" 102

/-- The shutdown sequence alone. -/
theorem shutdown_verdict_exact_sample :
    VerdictsHold sampleHash (sampleConfig 64) 0 sampleSequence ↔
      ∀ before key history, before <+: sampleSequence →
        OpenEpisode (sampleConfig 64) 0 before key history →
          Sustained (sampleConfig 64).shutdownWindow history.all := by
  have ordered : Ordered (observations sampleSequence) := by
    unfold Ordered
    decide
  exact shutdown_verdict_exact_iff monotoneSpans_int sampleHash (sampleConfig 64) 0 sampleSequence
    ordered

/-- A further zero write eight seconds behind the sequence takes the verdict back. -/
theorem shutdown_verdict_withdrawn :
    Ordered (observations (sampleSequence ++ sampleCall (writeRegister 3 0) "processed" 110)) ∧
      ¬VerdictsHold sampleHash (sampleConfig 64) 0
        (sampleSequence ++ sampleCall (writeRegister 3 0) "processed" 110) := by
  refine ⟨?_, fun holds => ?_⟩
  · unfold Ordered
    decide
  · have withdrawn : ¬(Aggregator.events sampleHash (sampleConfig 64) 0
        (sampleSequence ++ sampleCall (writeRegister 3 0) "processed" 110)).Pairwise
          fun earlier later =>
            earlier.episodeSequence = later.episodeSequence → NotLower earlier later := by
      decide
    exact withdrawn holds.kept

end DTLab
