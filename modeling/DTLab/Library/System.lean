import Mathlib.Data.List.Basic

/-!
# Systems with guarded actions

A system takes an action in a state or refuses it. A run takes a list of actions, all of which
must be enabled. `Keeps` says that every state-action pair along a run meets a condition, and
`run_invariant` proves an invariant of the states that such runs reach.
-/

namespace DTLab.Library.System

variable {σ α : Type*}

/-- The state after a list of actions, if each of them is enabled. -/
def run (step : σ → α → Option σ) (state : σ) : List α → Option σ
  | [] => some state
  | action :: actions => (step state action).bind fun next => run step next actions

/-- Every action of a run is taken in a state that meets a condition. -/
def Keeps (step : σ → α → Option σ) (condition : σ → α → Prop) (state : σ) : List α → Prop
  | [] => True
  | action :: actions => condition state action ∧
      ∀ next ∈ step state action, Keeps step condition next actions

instance decidableKeeps (step : σ → α → Option σ) (condition : σ → α → Prop)
    [∀ state action, Decidable (condition state action)] (state : σ) :
    ∀ actions, Decidable (Keeps step condition state actions)
  | [] => isTrue trivial
  | action :: actions =>
    have _rest := fun next => decidableKeeps step condition next actions
    inferInstanceAs (Decidable (_ ∧ ∀ next ∈ step state action, _))

/-- A run whose first action is taken. -/
theorem run_cons {step : σ → α → Option σ} {state next : σ} {action : α}
    (taken : step state action = some next) (actions : List α) :
    run step state (action :: actions) = run step next actions := by
  rw [run, taken, Option.bind_some]

/-- A run over two lists of actions is the second run behind the first. -/
theorem run_append (step : σ → α → Option σ) (state : σ) (first second : List α) :
    run step state (first ++ second) =
      (run step state first).bind fun next => run step next second := by
  induction first generalizing state with
  | nil => rfl
  | cons action actions ih =>
    rw [List.cons_append, run, run, Option.bind_assoc]
    congr 1
    funext next
    exact ih next

/-- An action that is taken in a state that meets the condition, and the rest of a run. -/
theorem Keeps.cons {step : σ → α → Option σ} {condition : σ → α → Prop} {state next : σ}
    {action : α} {actions : List α} (meets : condition state action)
    (taken : step state action = some next) (rest : Keeps step condition next actions) :
    Keeps step condition state (action :: actions) := by
  refine ⟨meets, fun other also => ?_⟩
  rw [Option.mem_def, taken] at also
  rw [← Option.some.inj also]
  exact rest

/-- A run that meets a condition, and another one from the state that it reaches. -/
theorem Keeps.append {step : σ → α → Option σ} {condition : σ → α → Prop} {state next : σ}
    {first second : List α} (meets : Keeps step condition state first)
    (reached : run step state first = some next) (rest : Keeps step condition next second) :
    Keeps step condition state (first ++ second) := by
  induction first generalizing state with
  | nil =>
    obtain rfl := Option.some.inj reached
    exact rest
  | cons action actions ih =>
    obtain ⟨between, taken, onwards⟩ := Option.bind_eq_some_iff.mp reached
    exact Keeps.cons meets.1 taken (ih (meets.2 between taken) onwards)

/-- What a run meets is met behind each of its beginnings. -/
theorem Keeps.behind {step : σ → α → Option σ} {condition : σ → α → Prop} {state next : σ}
    {first second : List α} (meets : Keeps step condition state (first ++ second))
    (reached : run step state first = some next) : Keeps step condition next second := by
  induction first generalizing state with
  | nil =>
    obtain rfl := Option.some.inj reached
    exact meets
  | cons action actions ih =>
    obtain ⟨between, taken, onwards⟩ := Option.bind_eq_some_iff.mp reached
    exact ih (meets.2 between taken) onwards

/-- Every action keeps the trivial condition. -/
theorem keeps_trivial (step : σ → α → Option σ) (state : σ) (actions : List α) :
    Keeps step (fun _ _ => True) state actions := by
  induction actions generalizing state with
  | nil => trivial
  | cons action actions ih => exact ⟨trivial, fun next _ => ih next⟩

/-- Two conditions that are the same in every state with an invariant are the same of runs. -/
theorem keeps_iff {step : σ → α → Option σ} {first second : σ → α → Prop} {invariant : σ → Prop}
    (keeps : ∀ state action next, invariant state → step state action = some next →
      invariant next)
    (same : ∀ state action, invariant state → (first state action ↔ second state action))
    {state : σ} (initial : invariant state) (actions : List α) :
    Keeps step first state actions ↔ Keeps step second state actions := by
  induction actions generalizing state with
  | nil => exact Iff.rfl
  | cons action actions ih =>
    apply and_congr (same state action initial)
    apply forall_congr'
    intro next
    apply imp_congr_right
    intro taken
    exact ih (keeps state action next initial taken)

/-- A condition that follows from another one in every state with an invariant is met by every run
that meets the other one. -/
theorem Keeps.imp {step : σ → α → Option σ} {first second : σ → α → Prop} {invariant : σ → Prop}
    (keeps : ∀ state action next, invariant state → step state action = some next →
      invariant next)
    (implies : ∀ state action, invariant state → first state action → second state action)
    {state : σ} {actions : List α} (initial : invariant state)
    (meets : Keeps step first state actions) : Keeps step second state actions := by
  induction actions generalizing state with
  | nil => trivial
  | cons action actions ih =>
    refine ⟨implies state action initial meets.1, fun next taken => ?_⟩
    exact ih (keeps state action next initial taken) (meets.2 next taken)

/-- What every conditioned step keeps holds of every state that a conditioned run reaches. -/
theorem run_invariant {step : σ → α → Option σ} {condition : σ → α → Prop}
    {invariant : σ → Prop}
    (keeps : ∀ state action next, invariant state → condition state action →
      step state action = some next → invariant next)
    {state final : σ} {actions : List α} (initial : invariant state)
    (meets : Keeps step condition state actions)
    (reached : run step state actions = some final) : invariant final := by
  induction actions generalizing state with
  | nil =>
    obtain rfl := Option.some.inj reached
    exact initial
  | cons action actions ih =>
    obtain ⟨next, taken, rest⟩ := Option.bind_eq_some_iff.mp reached
    exact ih (keeps state action next initial meets.1 taken) (meets.2 next taken) rest

end DTLab.Library.System
