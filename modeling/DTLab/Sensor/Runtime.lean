import DTLab.Sensor.Aggregator

/-!
# The audit runtime

`runtime.AuditRuntime` calls the aggregator and appends the events it returns to the spool, in
order. An append that raises leaves the call with an exception, so the later events of the
same call are not appended either. Which appends succeed is a parameter; requests that are no
writes never reach the aggregator.
-/

namespace DTLab

open Library (Text Machine.run)

/-- An event that a call of the aggregator returned, and whether the spool has it. -/
structure Attempt where
  event : HostOtEvent
  spooled : Bool
  deriving DecidableEq

/-- `_append_events`, where the next call of `append` has a number: the number afterwards, and
what became of the events. -/
def appendEvents (appendOk : Nat → Bool) (number : Nat) : List HostOtEvent → Nat × List Attempt
  | [] => (number, [])
  | event :: rest =>
    if appendOk number then
      let (later, attempts) := appendEvents appendOk (number + 1) rest
      (later, ⟨event, true⟩ :: attempts)
    else (number + 1, (event :: rest).map fun lost => ⟨lost, false⟩)

/-- The aggregator of a runtime and the number of its next append. -/
structure Runtime (τ : Type) where
  aggregator : Aggregator τ
  appends : Nat

namespace Runtime

variable {τ : Type} [LinearOrder τ] [Sub τ]

/-- `observe`, `flush_expired`, `flush_peer` and `flush_all`: the call of the aggregator, then
the appends. -/
def step (sha256Text : Text → String) (config : AggregatorConfig τ) (appendOk : Nat → Bool)
    (runtime : Runtime τ) (call : AggregatorCall τ) : Runtime τ × List Attempt :=
  let returned := runtime.aggregator.step sha256Text config call
  let appended := appendEvents appendOk runtime.appends returned.2
  (⟨returned.1, appended.1⟩, appended.2)

/-- What became of the events of a run, in order. -/
def attempts (sha256Text : Text → String) (config : AggregatorConfig τ) (appendOk : Nat → Bool)
    (nextSequence : Nat) (calls : List (AggregatorCall τ)) : List Attempt :=
  (Machine.run (step sha256Text config appendOk) ⟨.start nextSequence, 0⟩ calls).2

end Runtime

/-- The events of attempts that reached the spool, in order. -/
def spooledEvents (attempts : List Attempt) : List HostOtEvent :=
  (attempts.filter Attempt.spooled).map Attempt.event

/-- Appending tries the events in order and leaves none out. -/
theorem map_event_appendEvents (appendOk : Nat → Bool) (number : Nat)
    (events : List HostOtEvent) :
    (appendEvents appendOk number events).2.map Attempt.event = events := by
  induction events generalizing number with
  | nil => rfl
  | cons event rest ih =>
    by_cases ok : appendOk number = true
    · simp [appendEvents, ok, ih]
    · simp [appendEvents, ok, Function.comp_def]

/-- The attempts of a run are about the events of the aggregator's run. -/
theorem Runtime.map_event_attempts {τ : Type} [LinearOrder τ] [Sub τ]
    (sha256Text : Text → String) (config : AggregatorConfig τ) (appendOk : Nat → Bool)
    (nextSequence : Nat) (calls : List (AggregatorCall τ)) :
    (Runtime.attempts sha256Text config appendOk nextSequence calls).map Attempt.event =
      Aggregator.events sha256Text config nextSequence calls := by
  have runs := Library.Machine.run_map Runtime.aggregator Attempt.event
    (fun runtime call => Prod.ext rfl
      (map_event_appendEvents appendOk (Runtime.appends runtime) _).symm :
      ∀ runtime call, Aggregator.step sha256Text config (Runtime.aggregator runtime) call =
        (Runtime.aggregator (Runtime.step sha256Text config appendOk runtime call).1,
          (Runtime.step sha256Text config appendOk runtime call).2.map Attempt.event))
    ⟨.start nextSequence, 0⟩ calls
  exact (congrArg Prod.snd runs).symm

end DTLab
