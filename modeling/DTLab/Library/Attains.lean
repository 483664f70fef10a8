import DTLab.Library.Program

/-!
# Programs where every command has one outcome

A program comes to an end where every command has the same outcome, however many there are. What it
attains there is composed like the program, and a long enough run with that outcome ends with it.
-/

namespace DTLab.Library.Program

variable {κ : Type} {ρ : κ → Type} {ε ε' α β ι σ ω : Type}

/-- The end of a program where every command has one outcome, and the state behind it. -/
def follow (respond : ω → (command : κ) → σ → ρ command × σ) (outcome : ω) :
    Program κ ρ ε α → σ → Except ε α × σ
  | .returned value, state => (.ok value, state)
  | .raised fault, state => (.error fault, state)
  | .call command next, state =>
    (next (respond outcome command state).1).follow respond outcome
      (respond outcome command state).2

/-- A program returns a value where every command has one outcome. -/
def Attains (respond : ω → (command : κ) → σ → ρ command × σ) (outcome : ω)
    (program : Program κ ρ ε α) (state : σ) (value : α) (later : σ) : Prop :=
  program.follow respond outcome state = (.ok value, later)

variable {respond : ω → (command : κ) → σ → ρ command × σ} {outcome : ω} {state middle later : σ}

/-- A run with enough outcomes of one kind ends as the program does where they never run out. -/
theorem run_follow (program : Program κ ρ ε α) (state : σ) :
    ∃ count, ∀ rest, program.run respond (List.replicate count outcome ++ rest) state =
      (some (program.follow respond outcome state).1, rest,
        (program.follow respond outcome state).2) := by
  induction program generalizing state with
  | returned value => exact ⟨0, fun _ => rfl⟩
  | raised fault => exact ⟨0, fun _ => rfl⟩
  | call command next ih =>
    obtain ⟨count, ran⟩ := ih (respond outcome command state).1 (respond outcome command state).2
    exact ⟨count + 1, fun rest => ran rest⟩

/-- What a program ensures holds of what it attains. -/
theorem Ensures.attained {always : σ → Prop} {after : Except ε α → σ → Prop}
    {program : Program κ ρ ε α} {value : α}
    (ensures : program.Ensures respond always after state)
    (attains : program.Attains respond outcome state value later) : after (.ok value) later := by
  obtain ⟨count, ran⟩ := @run_follow κ ρ ε α σ ω respond outcome program state
  have ended := ran []
  rw [show program.follow respond outcome state = (.ok value, later) from attains] at ended
  exact Ensures.ends ended ensures

/-- What a program attains, it returns in a run that is long enough. -/
theorem Attains.run {program : Program κ ρ ε α} {value : α}
    (attains : program.Attains respond outcome state value later) :
    ∃ count, program.run respond (List.replicate count outcome) state =
      (some (.ok value), [], later) := by
  obtain ⟨count, ran⟩ := @run_follow κ ρ ε α σ ω respond outcome program state
  have ended := ran []
  rw [List.append_nil,
    show program.follow respond outcome state = (.ok value, later) from attains] at ended
  exact ⟨count, ended⟩

theorem attains_returned (value : α) :
    (returned value : Program κ ρ ε α).Attains respond outcome state value state := rfl

/-- A computation without commands attains its value. -/
theorem attains_lift {result : Except ε α} {value : α} (returns : result = .ok value) :
    (lift result : Program κ ρ ε α).Attains respond outcome state value state := by
  rw [returns]
  exact attains_returned value

/-- Two programs in a sequence. -/
theorem Attains.bind {program : Program κ ρ ε α} {next : α → Program κ ρ ε β} {value : α}
    {result : β} (first : program.Attains respond outcome state value middle)
    (rest : (next value).Attains respond outcome middle result later) :
    (program >>= next).Attains respond outcome state result later := by
  induction program generalizing state with
  | returned other =>
    obtain ⟨same, left⟩ := Prod.mk.inj first
    rw [← Except.ok.inj same, ← left] at rest
    exact rest
  | raised fault => cases first
  | call command more ih => exact ih _ first

/-- A program whose end is taken as a value. -/
theorem Attains.attempt {program : Program κ ρ ε α} {value : α}
    (attains : program.Attains respond outcome state value later) :
    (program.attempt : Program κ ρ ε' (Except ε α)).Attains respond outcome state (.ok value)
      later := by
  induction program generalizing state with
  | returned other =>
    obtain ⟨same, left⟩ := Prod.mk.inj attains
    rw [← same, ← left]
    exact attains_returned _
  | raised fault => cases attains
  | call command next ih => exact ih _ attains

/-- A program with an `except` clause that is not needed. -/
theorem Attains.handle {program : Program κ ρ ε α} {handler : ε → Program κ ρ ε α} {value : α}
    (attains : program.Attains respond outcome state value later) :
    (program.handle handler).Attains respond outcome state value later :=
  Attains.bind attains.attempt (attains_returned value)

/-- A program with a `finally` clause that returns. -/
theorem Attains.andFinally {program : Program κ ρ ε α} {cleanup : Program κ ρ ε Unit} {value : α}
    (attains : program.Attains respond outcome state value middle)
    (cleans : cleanup.Attains respond outcome middle () later) :
    (program.andFinally cleanup).Attains respond outcome state value later :=
  Attains.bind attains.attempt (Attains.bind cleans (attains_returned value))

/-- A loop whose rounds leave the state. -/
theorem attains_forEach {body : ι → Program κ ρ ε Unit} {items : List ι}
    (each : ∀ item ∈ items, (body item).Attains respond outcome state () state) :
    (forEach body items).Attains respond outcome state () state := by
  induction items with
  | nil => exact attains_returned ()
  | cons item items ih =>
    apply Attains.bind (each item List.mem_cons_self)
    exact ih fun other member => each other (List.mem_cons_of_mem item member)

/-- A loop with an accumulator whose rounds leave the state. -/
theorem attains_accumulate {body : α → ι → Program κ ρ ε α} (holds : α → List ι → Prop)
    (round : ∀ value item items, holds value (item :: items) →
      ∃ next, (body value item).Attains respond outcome state next state ∧ holds next items)
    {value : α} {items : List ι} (start : holds value items) :
    ∃ last, (accumulate body value items).Attains respond outcome state last state ∧
      holds last [] := by
  induction items generalizing value with
  | nil => exact ⟨value, attains_returned value, start⟩
  | cons item items ih =>
    obtain ⟨next, first, kept⟩ := round value item items start
    obtain ⟨last, rest, done⟩ := ih kept
    exact ⟨last, Attains.bind first rest, done⟩

/-- A loop whose rounds leave the accumulator and the state. -/
theorem attains_accumulate_same {body : α → ι → Program κ ρ ε α} {value : α} {items : List ι}
    (each : ∀ item ∈ items, (body value item).Attains respond outcome state value state) :
    (accumulate body value items).Attains respond outcome state value state := by
  induction items with
  | nil => exact attains_returned value
  | cons item items ih =>
    apply Attains.bind (each item List.mem_cons_self)
    exact ih fun other member => each other (List.mem_cons_of_mem item member)

/-- A loop with an accumulator whose rounds keep a condition. -/
theorem attains_accumulate_keeps {body : α → ι → Program κ ρ ε α} {holds : σ → Prop}
    {items : List ι}
    (round : ∀ value, ∀ item ∈ items, ∀ state, holds state → ∃ next later,
      (body value item).Attains respond outcome state next later ∧ holds later)
    {value : α} (start : holds state) :
    ∃ last later, (accumulate body value items).Attains respond outcome state last later ∧
      holds later := by
  induction items generalizing value state with
  | nil => exact ⟨value, state, attains_returned value, start⟩
  | cons item items ih =>
    obtain ⟨next, middle, first, kept⟩ := round value item List.mem_cons_self state start
    obtain ⟨last, later, rest, done⟩ := ih (fun value other member =>
      round value other (List.mem_cons_of_mem item member)) kept
    exact ⟨last, later, Attains.bind first rest, done⟩

/-- A program that reads tells all that it tells. -/
theorem Reads.and {program : Program κ ρ ε α} {tells told : α → Prop}
    (reads : program.Reads respond state tells) (also : program.Reads respond state told) :
    program.Reads respond state fun value => tells value ∧ told value := by
  apply (Ensures.and reads also).mono
  · exact fun _ same => same.1
  · intro result later ends
    cases result with
    | ok value => exact ⟨ends.1.1, ends.1.2, ends.2.2⟩
    | error fault => exact ends.1

/-- What is read is told of what a program attains. -/
theorem Reads.attained {program : Program κ ρ ε α} {tells : α → Prop} {value : α}
    (reads : program.Reads respond state tells)
    (attains : program.Attains respond outcome state value later) : tells value :=
  (Ensures.attained reads attains).2

/-- What every command keeps, a program keeps. -/
theorem ensures_invariant {holds : σ → Prop}
    (keeps : ∀ outcome command state, holds state → holds (respond outcome command state).2)
    (program : Program κ ρ ε α) (start : holds state) :
    program.Ensures respond holds (fun _ => holds) state := by
  induction program generalizing state with
  | returned value => exact start
  | raised fault => exact start
  | call command next ih =>
    exact ⟨start, fun outcome => ih _ (keeps outcome command state start)⟩

/-- What a program ensures at its end of each of several, it ensures of all. -/
theorem ensures_forall {always : ι → σ → Prop} {after : ι → Except ε α → σ → Prop}
    {program : Program κ ρ ε α}
    (each : ∀ item, program.Ensures respond (always item) (after item) state) :
    program.Ensures respond (fun _ => True) (fun result later => ∀ item, after item result later)
      state := by
  induction program generalizing state with
  | returned value => exact each
  | raised fault => exact each
  | call command next ih =>
    exact ⟨trivial, fun outcome => ih _ fun item => (each item).2 outcome⟩

end DTLab.Library.Program
