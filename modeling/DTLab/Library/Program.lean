import Mathlib.Data.List.Basic

/-!
# Programs that issue commands

A program issues commands to a world that it does not control and goes on with the replies. The
world takes an outcome for each command, and a program whose outcomes run out is interrupted.
`Ensures` says what holds before every command and at the end, whatever the outcomes are, and has
one rule for each way to build a program.
-/

namespace DTLab.Library

/-- A program that issues commands of `κ` with replies in `ρ`, raises an `ε` or returns an `α`. -/
inductive Program (κ : Type) (ρ : κ → Type) (ε α : Type) where
  | returned (value : α)
  | raised (fault : ε)
  | call (command : κ) (next : ρ command → Program κ ρ ε α)

namespace Program

variable {κ : Type} {ρ : κ → Type} {ε ε' α β ι σ ω : Type}

/-- A program and the program behind its value. -/
def bind : Program κ ρ ε α → (α → Program κ ρ ε β) → Program κ ρ ε β
  | .returned value, next => next value
  | .raised fault, _ => .raised fault
  | .call command rest, next => .call command fun reply => (rest reply).bind next

/-- A program goes on with what it returns. -/
instance : Monad (Program κ ρ ε) where
  pure := returned
  bind := bind

/-- A single command. -/
def issue (command : κ) : Program κ ρ ε (ρ command) := .call command .returned

/-- The end of a program as its value. -/
def attempt : Program κ ρ ε α → Program κ ρ ε' (Except ε α)
  | .returned value => .returned (.ok value)
  | .raised fault => .returned (.error fault)
  | .call command rest => .call command fun reply => (rest reply).attempt

/-- A computation without commands. -/
def lift : Except ε α → Program κ ρ ε α
  | .ok value => .returned value
  | .error fault => .raised fault

/-- `try` with an `except` clause. -/
def handle (program : Program κ ρ ε α) (handler : ε → Program κ ρ ε α) : Program κ ρ ε α := do
  match ← program.attempt with
  | .ok value => .returned value
  | .error fault => handler fault

/-- `try` with a `finally` clause. -/
def andFinally (program : Program κ ρ ε α) (cleanup : Program κ ρ ε Unit) : Program κ ρ ε α := do
  let result ← program.attempt
  cleanup
  lift result

/-- A loop over items. -/
def forEach (body : ι → Program κ ρ ε Unit) : List ι → Program κ ρ ε Unit
  | [] => .returned ()
  | item :: items => do
    body item
    forEach body items

/-- A loop over items with an accumulator. -/
def accumulate (body : α → ι → Program κ ρ ε α) : α → List ι → Program κ ρ ε α
  | value, [] => .returned value
  | value, item :: items => do
    let next ← body value item
    accumulate body next items

/-! ## Runs -/

variable (respond : ω → (command : κ) → σ → ρ command × σ)

/-- The end of a run, if it is not interrupted, with the outcomes that are left and the state. -/
def run : Program κ ρ ε α → List ω → σ → Option (Except ε α) × List ω × σ
  | .returned value, outcomes, state => (some (.ok value), outcomes, state)
  | .raised fault, outcomes, state => (some (.error fault), outcomes, state)
  | .call _ _, [], state => (none, [], state)
  | .call command next, outcome :: outcomes, state =>
    (next (respond outcome command state).1).run outcomes (respond outcome command state).2

/-- Before every command the state meets a condition, and the end and its state meet another. -/
def Ensures (always : σ → Prop) (after : Except ε α → σ → Prop) : Program κ ρ ε α → σ → Prop
  | .returned value, state => after (.ok value) state
  | .raised fault, state => after (.error fault) state
  | .call command next, state => always state ∧ ∀ outcome,
      (next (respond outcome command state).1).Ensures always after
        (respond outcome command state).2

variable {respond} {always : σ → Prop}

/-- A condition on the end of a program: one where it returns, and one where it raises. -/
def Ends (returns : α → σ → Prop) (raises : ε → σ → Prop) : Except ε α → σ → Prop
  | .ok value => returns value
  | .error fault => raises fault

/-- The end of a program that returns. -/
@[simp] theorem ends_ok (returns : α → σ → Prop) (raises : ε → σ → Prop) (value : α) :
    Ends returns raises (.ok value) = returns value := rfl

/-- The end of a program that raises. -/
@[simp] theorem ends_error (returns : α → σ → Prop) (raises : ε → σ → Prop) (fault : ε) :
    Ends returns raises (.error fault) = raises fault := rfl

/-- What a program ensures holds at the end of its runs, and where they are interrupted. -/
theorem Ensures.run {after : Except ε α → σ → Prop} {program : Program κ ρ ε α} {state : σ}
    (ensures : program.Ensures respond always after state) (outcomes : List ω) :
    match program.run respond outcomes state with
    | (some result, _, later) => after result later
    | (none, _, later) => always later := by
  induction program generalizing outcomes state with
  | returned value => exact ensures
  | raised fault => exact ensures
  | call command next ih =>
    cases outcomes with
    | nil => exact ensures.1
    | cons outcome outcomes => exact ih _ (ensures.2 outcome) outcomes

/-- What a program ensures at the end of a run. -/
theorem Ensures.ends {after : Except ε α → σ → Prop} {program : Program κ ρ ε α}
    {outcomes left : List ω} {state later : σ} {result : Except ε α}
    (ran : program.run respond outcomes state = (some result, left, later))
    (ensures : program.Ensures respond always after state) : after result later := by
  have holds := ensures.run outcomes
  rw [ran] at holds
  exact holds

/-- What a program ensures where a run is interrupted. -/
theorem Ensures.interrupted {after : Except ε α → σ → Prop} {program : Program κ ρ ε α}
    {outcomes left : List ω} {state later : σ}
    (ran : program.run respond outcomes state = (none, left, later))
    (ensures : program.Ensures respond always after state) : always later := by
  have holds := ensures.run outcomes
  rw [ran] at holds
  exact holds

/-- A program ensures less than it ensures. -/
theorem Ensures.mono {later : σ → Prop} {after after' : Except ε α → σ → Prop}
    {program : Program κ ρ ε α} {state : σ}
    (ensures : program.Ensures respond always after state)
    (keeps : ∀ state, always state → later state)
    (implies : ∀ result state, after result state → after' result state) :
    program.Ensures respond later after' state := by
  induction program generalizing state with
  | returned value => exact implies _ _ ensures
  | raised fault => exact implies _ _ ensures
  | call command next ih =>
    exact ⟨keeps state ensures.1, fun outcome => ih _ (ensures.2 outcome)⟩

/-- A program ensures less at its end than it ensures. -/
theorem Ensures.weaken {after after' : Except ε α → σ → Prop} {program : Program κ ρ ε α}
    {state : σ} (ensures : program.Ensures respond always after state)
    (implies : ∀ result state, after result state → after' result state) :
    program.Ensures respond always after' state :=
  ensures.mono (fun _ holds => holds) implies

/-- A program ensures nothing in particular. -/
theorem ensures_trivial (program : Program κ ρ ε α) (state : σ) :
    program.Ensures respond (fun _ => True) (fun _ _ => True) state := by
  induction program generalizing state with
  | returned value => exact trivial
  | raised fault => exact trivial
  | call command next ih => exact ⟨trivial, fun outcome => ih _ _⟩

/-- A program ensures together what it ensures. -/
theorem Ensures.and {always' : σ → Prop} {after after' : Except ε α → σ → Prop}
    {program : Program κ ρ ε α} {state : σ}
    (first : program.Ensures respond always after state)
    (second : program.Ensures respond always' after' state) :
    program.Ensures respond (fun state => always state ∧ always' state)
      (fun result state => after result state ∧ after' result state) state := by
  induction program generalizing state with
  | returned value => exact ⟨first, second⟩
  | raised fault => exact ⟨first, second⟩
  | call command next ih =>
    exact ⟨⟨first.1, second.1⟩, fun outcome => ih _ (first.2 outcome) (second.2 outcome)⟩

/-- Equivalent conditions at the end are ensured alike. -/
theorem ensures_congr {after after' : Except ε α → σ → Prop} {program : Program κ ρ ε α}
    {state : σ} (same : ∀ result state, after result state ↔ after' result state) :
    program.Ensures respond always after state ↔ program.Ensures respond always after' state :=
  ⟨fun ensures => ensures.weaken fun result state => (same result state).mp,
    fun ensures => ensures.weaken fun result state => (same result state).mpr⟩

/-- What two programs in a sequence ensure. -/
theorem ensures_bind {after : Except ε β → σ → Prop} {program : Program κ ρ ε α}
    {next : α → Program κ ρ ε β} {state : σ} :
    (program >>= next).Ensures respond always after state ↔
      program.Ensures respond always
        (Ends (fun value => (next value).Ensures respond always after)
          fun fault => after (.error fault)) state := by
  induction program generalizing state with
  | returned value => exact Iff.rfl
  | raised fault => exact Iff.rfl
  | call command rest ih =>
    exact and_congr_right fun _ => forall_congr' fun outcome => ih _

/-- The rule of a sequence: what the first program ensures is what the second one starts from. -/
theorem Ensures.bind {middle : Except ε α → σ → Prop} {after : Except ε β → σ → Prop}
    {program : Program κ ρ ε α} {next : α → Program κ ρ ε β} {state : σ}
    (first : program.Ensures respond always middle state)
    (rest : ∀ value later, middle (.ok value) later →
      (next value).Ensures respond always after later)
    (faults : ∀ fault later, middle (.error fault) later → after (.error fault) later) :
    (program >>= next).Ensures respond always after state := by
  apply ensures_bind.mpr
  apply first.weaken
  intro result later holds
  cases result with
  | ok value => exact rest value later holds
  | error fault => exact faults fault later holds

/-- What a program ensures whose end is taken as a value. -/
theorem ensures_attempt {after : Except ε' (Except ε α) → σ → Prop} {program : Program κ ρ ε α}
    {state : σ} :
    program.attempt.Ensures respond always after state ↔
      program.Ensures respond always (fun result state => after (.ok result) state) state := by
  induction program generalizing state with
  | returned value => exact Iff.rfl
  | raised fault => exact Iff.rfl
  | call command rest ih =>
    exact and_congr_right fun _ => forall_congr' fun outcome => ih _

/-- What a computation without commands ensures. -/
@[simp] theorem ensures_lift {after : Except ε α → σ → Prop} {result : Except ε α} {state : σ} :
    (lift result : Program κ ρ ε α).Ensures respond always after state ↔ after result state := by
  cases result <;> exact Iff.rfl

/-- What a program with an `except` clause ensures. -/
theorem ensures_handle {after : Except ε α → σ → Prop} {program : Program κ ρ ε α}
    {handler : ε → Program κ ρ ε α} {state : σ} :
    (program.handle handler).Ensures respond always after state ↔
      program.Ensures respond always
        (Ends (fun value => after (.ok value))
          fun fault => (handler fault).Ensures respond always after) state := by
  rw [handle, ensures_bind, ensures_attempt]
  apply ensures_congr
  intro result state
  cases result <;> exact Iff.rfl

/-- What a program with a `finally` clause ensures. -/
theorem ensures_andFinally {after : Except ε α → σ → Prop} {program : Program κ ρ ε α}
    {cleanup : Program κ ρ ε Unit} {state : σ} :
    (program.andFinally cleanup).Ensures respond always after state ↔
      program.Ensures respond always (fun result state =>
        cleanup.Ensures respond always
          (Ends (fun _ => after result) fun fault => after (.error fault)) state) state := by
  rw [andFinally, ensures_bind, ensures_attempt]
  apply ensures_congr
  intro result state
  apply ensures_bind.trans
  apply ensures_congr
  intro cleaned state
  cases cleaned with
  | ok _ => exact ensures_lift
  | error fault => exact Iff.rfl

/-- The rule of a `finally` clause: the cleanup starts from what the program ensures. -/
theorem Ensures.andFinally {middle after : Except ε α → σ → Prop} {program : Program κ ρ ε α}
    {cleanup : Program κ ρ ε Unit} {state : σ}
    (first : program.Ensures respond always middle state)
    (cleans : ∀ result later, middle result later →
      cleanup.Ensures respond always
        (Ends (fun _ => after result) fun fault => after (.error fault)) later) :
    (program.andFinally cleanup).Ensures respond always after state :=
  ensures_andFinally.mpr (first.weaken cleans)

/-- The rule of a loop: a condition on the items that are left, which each round keeps. -/
theorem ensures_forEach {after : Except ε Unit → σ → Prop} {body : ι → Program κ ρ ε Unit}
    (holds : List ι → σ → Prop)
    (round : ∀ item items state, holds (item :: items) state →
      (body item).Ensures respond always
        (Ends (fun _ => holds items) fun fault => after (.error fault)) state)
    (done : ∀ state, holds [] state → after (.ok ()) state)
    {items : List ι} {state : σ} (start : holds items state) :
    (forEach body items).Ensures respond always after state := by
  induction items generalizing state with
  | nil => exact done state start
  | cons item items ih =>
    rw [forEach, ensures_bind]
    apply (round item items state start).weaken
    intro result state holds
    cases result with
    | ok _ => exact ih holds
    | error fault => exact holds

/-- The rule of a loop with an accumulator. -/
theorem ensures_accumulate {after : Except ε α → σ → Prop} {body : α → ι → Program κ ρ ε α}
    (holds : α → List ι → σ → Prop)
    (round : ∀ value item items state, holds value (item :: items) state →
      (body value item).Ensures respond always
        (Ends (fun next => holds next items) fun fault => after (.error fault)) state)
    (done : ∀ value state, holds value [] state → after (.ok value) state)
    {value : α} {items : List ι} {state : σ} (start : holds value items state) :
    (accumulate body value items).Ensures respond always after state := by
  induction items generalizing value state with
  | nil => exact done value state start
  | cons item items ih =>
    rw [accumulate, ensures_bind]
    apply (round value item items state start).weaken
    intro result state holds
    cases result with
    | ok next => exact ih holds
    | error fault => exact holds

/-- A run of two programs in a sequence. -/
theorem run_bind (program : Program κ ρ ε α) (next : α → Program κ ρ ε β) (outcomes : List ω)
    (state : σ) :
    (program >>= next).run respond outcomes state =
      match program.run respond outcomes state with
      | (some (.ok value), left, later) => (next value).run respond left later
      | (some (.error fault), left, later) => (some (.error fault), left, later)
      | (none, left, later) => (none, left, later) := by
  induction program generalizing outcomes state with
  | returned value => rfl
  | raised fault => rfl
  | call command rest ih =>
    cases outcomes with
    | nil => rfl
    | cons outcome outcomes => exact ih _ outcomes _

/-- A sequence raises where its first program does, or the second one behind it. -/
theorem run_bind_eq_error {program : Program κ ρ ε α} {next : α → Program κ ρ ε β}
    {outcomes left : List ω} {state later : σ} {fault : ε}
    (raised : (program >>= next).run respond outcomes state = (some (.error fault), left, later)) :
    program.run respond outcomes state = (some (.error fault), left, later) ∨
      ∃ value rest middle, program.run respond outcomes state = (some (.ok value), rest, middle) ∧
        (next value).run respond rest middle = (some (.error fault), left, later) := by
  rw [run_bind] at raised
  split at raised
  · rename_i value rest middle first
    exact Or.inr ⟨value, rest, middle, first, raised⟩
  · rename_i other rest middle first
    obtain ⟨same, rfl, rfl⟩ := Prod.mk.inj raised |>.imp id Prod.mk.inj
    rw [Except.error.inj (Option.some.inj same)] at first
    exact Or.inl first
  · cases raised

/-- A sequence returns where both of its programs do. -/
theorem run_bind_eq_ok {program : Program κ ρ ε α} {next : α → Program κ ρ ε β}
    {outcomes left : List ω} {state later : σ} {result : β}
    (returned : (program >>= next).run respond outcomes state = (some (.ok result), left, later)) :
    ∃ value rest middle, program.run respond outcomes state = (some (.ok value), rest, middle) ∧
      (next value).run respond rest middle = (some (.ok result), left, later) := by
  rw [run_bind] at returned
  split at returned
  · rename_i value rest middle first
    exact ⟨value, rest, middle, first, returned⟩
  · cases returned
  · cases returned

/-- The end of a program that is taken as a value is the end of the program. -/
theorem run_attempt_eq_ok {program : Program κ ρ ε α} {outcomes left : List ω} {state later : σ}
    {result : Except ε α}
    (returned : (program.attempt : Program κ ρ ε' (Except ε α)).run respond outcomes state =
      (some (.ok result), left, later)) :
    program.run respond outcomes state = (some result, left, later) := by
  induction program generalizing outcomes state with
  | returned value =>
    obtain ⟨same, rest⟩ := Prod.mk.inj returned
    rw [← Except.ok.inj (Option.some.inj same), ← rest]
    rfl
  | raised fault =>
    obtain ⟨same, rest⟩ := Prod.mk.inj returned
    rw [← Except.ok.inj (Option.some.inj same), ← rest]
    rfl
  | call command next ih =>
    cases outcomes with
    | nil => cases returned
    | cons outcome outcomes => exact ih _ returned

/-- A program whose end is taken as a value does not raise. -/
theorem run_attempt_ne_error {program : Program κ ρ ε α} {outcomes left : List ω}
    {state later : σ} {fault : ε'} :
    (program.attempt : Program κ ρ ε' (Except ε α)).run respond outcomes state ≠
      (some (.error fault), left, later) := by
  induction program generalizing outcomes state with
  | returned value => exact nofun
  | raised fault => exact nofun
  | call command next ih =>
    cases outcomes with
    | nil => exact nofun
    | cons outcome outcomes => exact ih _

/-! ## Commands of a program -/

/-- Whatever is replied, the commands of a program are among those that are allowed, and its end
meets a condition. -/
def Uses (allowed : κ → Prop) (after : Except ε α → Prop) : Program κ ρ ε α → Prop
  | .returned value => after (.ok value)
  | .raised fault => after (.error fault)
  | .call command next => allowed command ∧ ∀ reply, (next reply).Uses allowed after

/-- An end that raises nothing but faults of a kind. -/
def OnlyRaises (raises : ε → Prop) : Except ε α → Prop
  | .ok _ => True
  | .error fault => raises fault

section Uses

variable {allowed : κ → Prop} {raises : ε → Prop}

/-- A sequence of computations raises what each of them raises. -/
theorem OnlyRaises.bind {first : Except ε α} {next : α → Except ε β}
    (only : OnlyRaises raises first) (rest : ∀ value, OnlyRaises raises (next value)) :
    OnlyRaises raises (first >>= next) := by
  cases first with
  | ok value => exact rest value
  | error fault => exact only

/-- A loop of computations raises what its rounds raise. -/
theorem onlyRaises_foldlM {body : α → ι → Except ε α}
    (each : ∀ value item, OnlyRaises raises (body value item)) (items : List ι) (value : α) :
    OnlyRaises raises (items.foldlM body value) := by
  induction items generalizing value with
  | nil => exact trivial
  | cons item items ih =>
    rw [List.foldlM_cons]
    exact (each value item).bind ih

/-- A computation on each item raises what those on the items raise. -/
theorem onlyRaises_mapM {body : ι → Except ε α} (each : ∀ item, OnlyRaises raises (body item))
    (items : List ι) : OnlyRaises raises (items.mapM body) := by
  induction items with
  | nil => exact trivial
  | cons item items ih =>
    rw [List.mapM_cons]
    apply (each item).bind
    intro value
    apply ih.bind
    intro values
    exact trivial

/-- A program uses what it uses with a weaker condition at its end. -/
theorem Uses.weaken {after after' : Except ε α → Prop} {program : Program κ ρ ε α}
    (uses : program.Uses allowed after) (implies : ∀ result, after result → after' result) :
    program.Uses allowed after' := by
  induction program with
  | returned value => exact implies _ uses
  | raised fault => exact implies _ uses
  | call command next ih => exact ⟨uses.1, fun reply => ih reply (uses.2 reply)⟩

/-- A program uses no more than what more allows. -/
theorem Uses.mono {more : κ → Prop} {after : Except ε α → Prop} {program : Program κ ρ ε α}
    (uses : program.Uses allowed after) (permits : ∀ command, allowed command → more command) :
    program.Uses more after := by
  induction program with
  | returned value => exact uses
  | raised fault => exact uses
  | call command next ih => exact ⟨permits command uses.1, fun reply => ih reply (uses.2 reply)⟩

/-- What two programs in a sequence use. -/
theorem uses_bind {after : Except ε β → Prop} {program : Program κ ρ ε α}
    {next : α → Program κ ρ ε β} :
    (program >>= next).Uses allowed after ↔
      program.Uses allowed fun result => match result with
        | .ok value => (next value).Uses allowed after
        | .error fault => after (.error fault) := by
  induction program with
  | returned value => exact Iff.rfl
  | raised fault => exact Iff.rfl
  | call command rest ih => exact and_congr_right fun _ => forall_congr' ih

/-- What a program uses whose end is taken as a value. -/
theorem uses_attempt {after : Except ε' (Except ε α) → Prop} {program : Program κ ρ ε α} :
    program.attempt.Uses allowed after ↔
      program.Uses allowed fun result => after (.ok result) := by
  induction program with
  | returned value => exact Iff.rfl
  | raised fault => exact Iff.rfl
  | call command rest ih => exact and_congr_right fun _ => forall_congr' ih

/-- A computation without commands. -/
@[simp] theorem uses_lift {after : Except ε α → Prop} {result : Except ε α} :
    (lift result : Program κ ρ ε α).Uses allowed after ↔ after result := by
  cases result <;> exact Iff.rfl

/-- Two programs in a sequence, where the condition at the end admits the faults of the first. -/
theorem Uses.andThen {after : Except ε β → Prop} {program : Program κ ρ ε α}
    {next : α → Program κ ρ ε β} (uses : program.Uses allowed (OnlyRaises raises))
    (rest : ∀ value, (next value).Uses allowed after)
    (admits : ∀ fault, raises fault → after (.error fault)) :
    (program >>= next).Uses allowed after := by
  rw [uses_bind]
  apply uses.weaken
  intro result holds
  cases result with
  | ok value => exact rest value
  | error fault => exact admits fault holds

/-- Two programs in a sequence raise what each of them raises. -/
theorem Uses.bind {program : Program κ ρ ε α} {next : α → Program κ ρ ε β}
    (uses : program.Uses allowed (OnlyRaises raises))
    (rest : ∀ value, (next value).Uses allowed (OnlyRaises raises)) :
    (program >>= next).Uses allowed (OnlyRaises raises) :=
  uses.andThen rest fun _ raised => raised

/-- A program and its cleanup raise what each of them raises. -/
theorem Uses.andFinally {program : Program κ ρ ε α} {cleanup : Program κ ρ ε Unit}
    (uses : program.Uses allowed (OnlyRaises raises))
    (cleans : cleanup.Uses allowed (OnlyRaises raises)) :
    (program.andFinally cleanup).Uses allowed (OnlyRaises raises) := by
  rw [Program.andFinally, uses_bind, uses_attempt]
  apply uses.weaken
  intro result holds
  apply cleans.bind
  intro _
  exact uses_lift.mpr holds

/-- A loop raises what its rounds raise. -/
theorem uses_forEach {body : ι → Program κ ρ ε Unit} {items : List ι}
    (each : ∀ item ∈ items, (body item).Uses allowed (OnlyRaises raises)) :
    (forEach body items).Uses allowed (OnlyRaises raises) := by
  induction items with
  | nil => exact trivial
  | cons item items ih =>
    apply (each item List.mem_cons_self).bind
    intro _
    exact ih fun other member => each other (List.mem_cons_of_mem item member)

/-- A loop with an accumulator raises what its rounds raise. -/
theorem uses_accumulate {body : α → ι → Program κ ρ ε α} {items : List ι} {value : α}
    (each : ∀ value, ∀ item ∈ items, (body value item).Uses allowed (OnlyRaises raises)) :
    (accumulate body value items).Uses allowed (OnlyRaises raises) := by
  induction items generalizing value with
  | nil => exact trivial
  | cons item items ih =>
    apply (each value item List.mem_cons_self).bind
    intro next
    exact ih fun value other member => each value other (List.mem_cons_of_mem item member)

/-- What every command that a program uses keeps, the program keeps. -/
theorem Uses.ensures {after : Except ε α → Prop} {program : Program κ ρ ε α}
    (uses : program.Uses allowed after)
    (respond : ω → (command : κ) → σ → ρ command × σ) (holds : σ → Prop)
    (keeps : ∀ command, allowed command → ∀ outcome state, holds state →
      holds (respond outcome command state).2) {state : σ} (start : holds state) :
    program.Ensures respond holds (fun result state => after result ∧ holds state) state := by
  induction program generalizing state with
  | returned value => exact ⟨uses, start⟩
  | raised fault => exact ⟨uses, start⟩
  | call command next ih =>
    exact ⟨start, fun outcome =>
      ih _ (uses.2 _) (keeps command uses.1 outcome state start)⟩

end Uses

/-! ## Programs that read -/

/-- A program that leaves the state, and what its value tells of it. -/
def Reads (respond : ω → (command : κ) → σ → ρ command × σ) (program : Program κ ρ ε α) (state : σ)
    (tells : α → Prop) : Prop :=
  program.Ensures respond (· = state)
    (Ends (fun value later => later = state ∧ tells value) fun _ later => later = state) state

section Reads

variable {state : σ} {tells : α → Prop}

/-- A program that reads ensures what holds of the state. -/
theorem Reads.ensures {program : Program κ ρ ε α} (reads : program.Reads respond state tells)
    (holds : always state) :
    program.Ensures respond always
      (Ends (fun value later => later = state ∧ tells value) fun _ later => later = state) state :=
  reads.mono (fun _ same => same ▸ holds) fun _ _ ends => ends

/-- A value tells what is known of it. -/
theorem reads_returned {value : α} (told : tells value) :
    (returned value : Program κ ρ ε α).Reads respond state tells :=
  ⟨rfl, told⟩

/-- A program that raises tells nothing. -/
theorem reads_raised {fault : ε} : (raised fault : Program κ ρ ε α).Reads respond state tells := rfl

/-- A computation without commands tells what is known of its result. -/
theorem reads_lift {result : Except ε α} (told : ∀ value, result = .ok value → tells value) :
    (lift result : Program κ ρ ε α).Reads respond state tells := by
  cases result with
  | ok value => exact reads_returned (told value rfl)
  | error fault => exact reads_raised

/-- Two programs that read, in a sequence. -/
theorem Reads.bind {told : β → Prop} {program : Program κ ρ ε α} {next : α → Program κ ρ ε β}
    (first : program.Reads respond state tells)
    (rest : ∀ value, tells value → (next value).Reads respond state told) :
    (program >>= next).Reads respond state told := by
  apply Ensures.bind first
  · intro value later holds
    rw [holds.1]
    exact rest value holds.2
  · exact fun _ _ same => same

/-- A program that reads, whose end is taken as a value. -/
theorem Reads.attempt {program : Program κ ρ ε α} (reads : program.Reads respond state tells) :
    (program.attempt : Program κ ρ ε' (Except ε α)).Reads respond state fun result =>
      ∀ value, result = .ok value → tells value := by
  apply ensures_attempt.mpr
  apply Ensures.weaken reads
  intro result later ends
  cases result with
  | ok value => exact ⟨ends.1, fun other same => Except.ok.inj same ▸ ends.2⟩
  | error fault => exact ⟨ends, nofun⟩

/-- What is read tells less. -/
theorem Reads.weaken {told : α → Prop} {program : Program κ ρ ε α}
    (reads : program.Reads respond state tells) (implies : ∀ value, tells value → told value) :
    program.Reads respond state told := by
  apply Ensures.weaken reads
  intro result later ends
  cases result with
  | ok value => exact ⟨ends.1, implies value ends.2⟩
  | error fault => exact ends

/-- A loop that reads. -/
theorem reads_forEach {body : ι → Program κ ρ ε Unit} {told : ι → Prop} {items : List ι}
    (each : ∀ item ∈ items, (body item).Reads respond state fun _ => told item) :
    (forEach body items).Reads respond state fun _ => ∀ item ∈ items, told item := by
  induction items with
  | nil => exact reads_returned nofun
  | cons item items ih =>
    apply Reads.bind (each item List.mem_cons_self)
    intro _ first
    apply (ih fun other member => each other (List.mem_cons_of_mem item member)).weaken
    intro _ rest
    exact List.forall_mem_cons.mpr ⟨first, rest⟩

/-- A loop with an accumulator that reads. -/
theorem reads_accumulate {body : α → ι → Program κ ρ ε α} (holds : α → List ι → Prop)
    (round : ∀ value item items, holds value (item :: items) →
      (body value item).Reads respond state fun next => holds next items)
    {value : α} {items : List ι} (start : holds value items) :
    (accumulate body value items).Reads respond state fun value => holds value [] := by
  induction items generalizing value with
  | nil => exact reads_returned start
  | cons item items ih => exact Reads.bind (round value item items start) fun next told => ih told

end Reads

/-! ## Records of a run -/

/-- A command and its reply. -/
abbrev Event (κ : Type) (ρ : κ → Type) := (command : κ) × ρ command

/-- A world that keeps a record of the commands and the replies. -/
def recorded (respond : ω → (command : κ) → σ → ρ command × σ) (outcome : ω) (command : κ)
    (state : σ × List (Event κ ρ)) : ρ command × σ × List (Event κ ρ) :=
  ((respond outcome command state.1).1, (respond outcome command state.1).2,
    state.2 ++ [⟨command, (respond outcome command state.1).1⟩])

/-- What a program ensures in a world, it ensures where the world keeps a record. -/
theorem Ensures.recorded {after : Except ε α → σ → Prop} {program : Program κ ρ ε α} {state : σ}
    (ensures : program.Ensures respond always after state) (record : List (Event κ ρ)) :
    program.Ensures (recorded respond) (fun later => always later.1)
      (fun result later => after result later.1) (state, record) := by
  induction program generalizing state record with
  | returned value => exact ensures
  | raised fault => exact ensures
  | call command next ih => exact ⟨ensures.1, fun outcome => ih _ (ensures.2 outcome) _⟩

end Program

end DTLab.Library
