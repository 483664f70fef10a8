import DTLab.Library.Machine
import DTLab.Sensor.Episode

/-!
# The episode aggregator

The state machine `core.EpisodeAggregator`. `allocate_sequence` is the counter that
`StateStore` provides; the dictionary of open episodes keeps Python's insertion order, which
is the order in which a flush renders them.
-/

namespace DTLab

open Library (Json Text Dict Machine.run)

/-- `_episode_key`. -/
structure EpisodeKey where
  sourceIp : String
  sourcePort : Option Int
  destinationIp : String
  destinationPort : Int
  unitId : Int
  deriving DecidableEq

/-- `_episode_key` of an observation. -/
def Observation.episodeKey {τ : Type} (observation : Observation τ) : EpisodeKey where
  sourceIp := observation.source.ip
  sourcePort := observation.source.port
  destinationIp := observation.destination.ip
  destinationPort := observation.destination.port
  unitId := observation.destination.unitId

/-- The state of an aggregator and of its sequence counter. -/
structure Aggregator (τ : Type) where
  episodes : Dict EpisodeKey (Episode τ)
  nextSequence : Nat

/-- An aggregator without episodes, for a counter that starts at some number. -/
def Aggregator.start {τ : Type} (nextSequence : Nat) : Aggregator τ := ⟨.empty, nextSequence⟩

/-- A call of the aggregator. -/
inductive AggregatorCall (τ : Type) where
  | observe (observation : Observation τ)
  | flushExpired (nowEpoch : τ)
  | flushSource (sourceIp : String) (sourcePort : Option Int)
  | flushAll

namespace Aggregator

variable {τ : Type} [LinearOrder τ] [Sub τ]

/-- Render the dirty episodes among the selected ones, in order, and remove the selected. -/
def flush (config : AggregatorConfig τ) (selected : EpisodeKey × Episode τ → Bool)
    (aggregator : Aggregator τ) : Aggregator τ × List HostOtEvent :=
  ({ aggregator with episodes := aggregator.episodes.filter fun entry => !selected entry },
    (aggregator.episodes.entries.filter fun entry => selected entry && entry.2.dirty).map
      fun entry => (render config entry.2).2)

/-- Whether an episode was quiet for the configured window. -/
def expired (config : AggregatorConfig τ) (nowEpoch : τ) (entry : EpisodeKey × Episode τ) :
    Bool :=
  !decide (nowEpoch - entry.2.lastEpoch < config.quietWindow)

/-- `flush_expired`. -/
def flushExpired (config : AggregatorConfig τ) (nowEpoch : τ) (aggregator : Aggregator τ) :
    Aggregator τ × List HostOtEvent :=
  flush config (expired config nowEpoch) aggregator

/-- `flush_source`. -/
def flushSource (config : AggregatorConfig τ) (sourceIp : String) (sourcePort : Option Int)
    (aggregator : Aggregator τ) : Aggregator τ × List HostOtEvent :=
  flush config
    (fun entry => decide (entry.1.sourceIp = sourceIp ∧ entry.1.sourcePort = sourcePort))
    aggregator

/-- `flush_all`. -/
def flushAll (config : AggregatorConfig τ) (aggregator : Aggregator τ) :
    Aggregator τ × List HostOtEvent :=
  flush config (fun _ => true) aggregator

/-- The episode of an observation: the open one of its key, or a new one with the next
sequence number. -/
def openEpisode (sha256Text : Text → String) (config : AggregatorConfig τ)
    (aggregator : Aggregator τ) (observation : Observation τ) : Episode τ × Nat :=
  match aggregator.episodes.get? observation.episodeKey with
  | some episode => (episode, aggregator.nextSequence)
  | none =>
    (newEpisode sha256Text config aggregator.nextSequence observation,
      aggregator.nextSequence + 1)

/-- Whether a revision is due: none yet, or the emission interval has passed. -/
def due (config : AggregatorConfig τ) (nowEpoch : τ) (lastEmitEpoch : Option τ) : Bool :=
  match lastEmitEpoch with
  | none => true
  | some last => decide (config.emitInterval ≤ nowEpoch - last)

/-- `observe`. -/
def observe (sha256Text : Text → String) (config : AggregatorConfig τ)
    (observation : Observation τ) (aggregator : Aggregator τ) :
    Aggregator τ × List HostOtEvent :=
  let flushed := flushExpired config observation.observedEpoch aggregator
  let opened := openEpisode sha256Text config flushed.1 observation
  let updated := updateEpisode config opened.1 observation
  if due config observation.observedEpoch updated.1.lastEmitEpoch || updated.2 then
    let rendered := render config updated.1
    (⟨flushed.1.episodes.set observation.episodeKey rendered.1, opened.2⟩,
      flushed.2 ++ [rendered.2])
  else (⟨flushed.1.episodes.set observation.episodeKey updated.1, opened.2⟩, flushed.2)

/-- One call of the aggregator: its new state and the events it returns. -/
def step (sha256Text : Text → String) (config : AggregatorConfig τ) (aggregator : Aggregator τ) :
    AggregatorCall τ → Aggregator τ × List HostOtEvent
  | .observe observation => observe sha256Text config observation aggregator
  | .flushExpired nowEpoch => flushExpired config nowEpoch aggregator
  | .flushSource sourceIp sourcePort => flushSource config sourceIp sourcePort aggregator
  | .flushAll => flushAll config aggregator

/-- The events that a list of calls returns, in order. -/
def events (sha256Text : Text → String) (config : AggregatorConfig τ) (nextSequence : Nat)
    (calls : List (AggregatorCall τ)) : List HostOtEvent :=
  (Machine.run (step sha256Text config) (start nextSequence) calls).2

end Aggregator

/-- The observations among calls, in order. -/
def observations {τ : Type} (calls : List (AggregatorCall τ)) : List (Observation τ) :=
  calls.filterMap fun call =>
    match call with
    | .observe observation => some observation
    | _ => none

end DTLab
