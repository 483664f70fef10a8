import Mathlib.Data.List.Induction

/-!
# Machines with outputs

A machine is a step function from a state and an input to the next state and the outputs of
the step. A run feeds it a list of inputs and collects the outputs in order. Facts about
whole runs are proved by `run_induction`, whose motive sees the inputs consumed and the
outputs produced so far, and carried between machines by `run_map`.
-/

namespace DTLab.Library.Machine

variable {σ τ α ω ε : Type*}

/-- Feed inputs one by one, collecting the outputs in order. -/
def run (step : σ → α → σ × List ω) : σ → List α → σ × List ω
  | state, [] => (state, [])
  | state, input :: inputs =>
    ((run step (step state input).1 inputs).1,
      (step state input).2 ++ (run step (step state input).1 inputs).2)

/-- A run over two input lists is the second run after the first. -/
theorem run_append (step : σ → α → σ × List ω) (state : σ) (first second : List α) :
    run step state (first ++ second) =
      ((run step (run step state first).1 second).1,
        (run step state first).2 ++ (run step (run step state first).1 second).2) := by
  induction first generalizing state with
  | nil => simp [run]
  | cons input inputs ih => simp [run, ih, List.append_assoc]

/-- A run with one more input. -/
theorem run_concat (step : σ → α → σ × List ω) (state : σ) (inputs : List α) (input : α) :
    run step state (inputs ++ [input]) =
      ((step (run step state inputs).1 input).1,
        (run step state inputs).2 ++ (step (run step state inputs).1 input).2) := by
  simp [run_append, run]

/-- A fact about the inputs consumed, the state and the outputs of a run holds of every run
when it holds at the start and each step keeps it. -/
theorem run_induction {step : σ → α → σ × List ω} {start : σ}
    {motive : List α → σ → List ω → Prop} (initial : motive [] start [])
    (next : ∀ past state out input, motive past state out →
      motive (past ++ [input]) (step state input).1 (out ++ (step state input).2))
    (inputs : List α) : motive inputs (run step start inputs).1 (run step start inputs).2 := by
  induction inputs using List.reverseRecOn with
  | nil => exact initial
  | append_singleton inputs input ih =>
    rw [run_concat]
    exact next _ _ _ _ ih

/-- A machine whose steps project to the steps of another has runs that project to its runs. -/
theorem run_map {step : σ → α → σ × List ω} {step' : τ → α → τ × List ε} (f : τ → σ) (g : ε → ω)
    (simulates : ∀ state input,
      step (f state) input = (f (step' state input).1, (step' state input).2.map g))
    (start : τ) (inputs : List α) :
    run step (f start) inputs =
      (f (run step' start inputs).1, (run step' start inputs).2.map g) := by
  induction inputs generalizing start with
  | nil => rfl
  | cons input inputs ih => simp [run, simulates, ih]

end DTLab.Library.Machine
