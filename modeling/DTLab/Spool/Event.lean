import DTLab.Spool.Envelope

/-!
# Contract events in the spool

Every document of the event contract is an event that the spool takes: its members are in key
order at every level and it holds no float.
-/

namespace DTLab

open Library (Json FloatLiteral)
open Library.Json (WellFormed WellFormedMembers FixedBy FixedMembers keys)

variable {rounding : FloatLiteral → FloatLiteral}

/-- A document that reads back as itself. -/
def Storable (rounding : FloatLiteral → FloatLiteral) (document : Json) : Prop :=
  WellFormed document ∧ FixedBy rounding document

/-- `null` reads back. -/
@[simp] theorem storable_null : Storable rounding .null := ⟨trivial, trivial⟩

/-- A boolean reads back. -/
@[simp] theorem storable_bool (value : Bool) : Storable rounding (.bool value) := ⟨trivial, trivial⟩

/-- An integer reads back. -/
@[simp] theorem storable_int (value : Int) : Storable rounding (.int value) := ⟨trivial, trivial⟩

/-- A text reads back. -/
@[simp] theorem storable_str (value : String) : Storable rounding (.str value) :=
  ⟨trivial, trivial⟩

/-- An object with sorted keys is storable when its members are. -/
theorem storable_obj {fields : List (String × Json)} (sorted : (keys fields).Pairwise (· < ·))
    (each : ∀ field ∈ fields, Storable rounding field.2) : Storable rounding (.obj fields) := by
  have members : WellFormedMembers fields ∧ FixedMembers rounding fields := by
    clear sorted
    induction fields with
    | nil => exact ⟨trivial, trivial⟩
    | cons field fields ih =>
      have first := each field List.mem_cons_self
      have rest := ih fun field member => each field (List.mem_cons_of_mem _ member)
      exact ⟨⟨first.1, rest.1⟩, first.2, rest.2⟩
  exact ⟨⟨sorted, members.1⟩, members.2⟩

/-- A list of storable documents is storable. -/
@[simp] theorem storable_arr {α : Type} {render : α → Json}
    (each : ∀ value, Storable rounding (render value)) (values : List α) :
    Storable rounding (.arr (values.map render)) := by
  induction values with
  | nil => exact ⟨trivial, trivial⟩
  | cons value values ih => exact ⟨⟨(each value).1, ih.1⟩, (each value).2, ih.2⟩

/-- An optional document is storable when the document is. -/
@[simp] theorem storable_nullable {α : Type} {render : α → Json}
    (each : ∀ value, Storable rounding (render value)) (value : Option α) :
    Storable rounding (nullable render value) := by
  cases value with
  | none => exact storable_null
  | some value => exact each value

/-- A destination reads back. -/
@[simp] theorem storable_destination (destination : Destination) :
    Storable rounding destination.toJson := by
  have sorted : ["asset_id", "ip", "port", "unit_id"].Pairwise (· < ·) := by decide
  exact storable_obj sorted (by simp)

/-- A detection reads back. -/
@[simp] theorem storable_detection (detection : Detection) :
    Storable rounding detection.toJson := by
  have sorted : ["classification", "policy_decision", "priority", "reason", "rule_id",
      "severity"].Pairwise (· < ·) := by decide
  exact storable_obj sorted (by simp)

/-- Evidence reads back. -/
@[simp] theorem storable_evidence (evidence : Evidence) : Storable rounding evidence.toJson := by
  have sorted : ["notes", "source_id", "source_record_id", "truth"].Pairwise (· < ·) := by decide
  exact storable_obj sorted (by simp)

/-- A bucket reads back. -/
@[simp] theorem storable_bucket (bucket : WriteBucket) : Storable rounding bucket.toJson := by
  have sorted : ["address", "count", "function_code", "quantity", "values", "values_sha256",
      "values_truncated"].Pairwise (· < ·) := by decide
  exact storable_obj sorted (by simp)

/-- Evidence of writes reads back. -/
@[simp] theorem storable_modbus (modbus : ModbusEvidence) : Storable rounding modbus.toJson := by
  have sorted : ["dropped_operation_buckets", "function_codes", "operation", "request_count",
      "writes"].Pairwise (· < ·) := by decide
  exact storable_obj sorted (by simp)

/-- An outcome reads back. -/
@[simp] theorem storable_outcome (outcome : Outcome) : Storable rounding outcome.toJson := by
  have inner : ["processed", "rejected", "unknown"].Pairwise (· < ·) := by decide
  have outer : ["last_state", "states"].Pairwise (· < ·) := by decide
  have states : Storable rounding outcome.states.toJson := storable_obj inner (by simp)
  exact storable_obj outer (by simp [states])

/-- A process reads back. -/
@[simp] theorem storable_process (process : ProcessIdentity) :
    Storable rounding process.toJson := by
  have sorted : ["executable", "pid", "script"].Pairwise (· < ·) := by decide
  exact storable_obj sorted (by simp)

/-- A sensor reads back. -/
@[simp] theorem storable_sensor (sensor : SensorIdentity) : Storable rounding sensor.toJson := by
  have sorted : ["capture_kind", "id", "version"].Pairwise (· < ·) := by decide
  exact storable_obj sorted (by simp)

/-- A source reads back. -/
@[simp] theorem storable_source (source : Source) : Storable rounding source.toJson := by
  have sorted : ["classification", "ip", "port"].Pairwise (· < ·) := by decide
  exact storable_obj sorted (by simp)

/-- The document of a contract event is storable. -/
theorem storable_event (event : HostOtEvent) : Storable rounding event.toJson := by
  have sorted : ["boot_id", "destination", "detection", "episode_id", "episode_sequence",
      "event_id", "event_type", "evidence", "first_observed_at", "last_observed_at", "modbus",
      "outcome", "process", "revision", "schema_version", "sensor", "source",
      "timestamp_basis"].Pairwise (· < ·) := by decide
  exact storable_obj sorted (by simp)

/-- The members of the document of a contract event. -/
def HostOtEvent.fields (event : HostOtEvent) : List (String × Json) :=
  match event.toJson with
  | .obj fields => fields
  | _ => []

/-- A contract event as an event of the spool. -/
def HostOtEvent.eventDocument (rounding : FloatLiteral → FloatLiteral) (event : HostOtEvent) :
    EventDocument rounding where
  fields := event.fields
  formed := (storable_event event : Storable rounding event.toJson).1
  fixed := (storable_event event).2
  eventId := event.eventId
  hasEventId := rfl
  revision := event.revision
  hasRevision := rfl

/-- The spool keeps the document of a contract event. -/
@[simp] theorem HostOtEvent.toJson_eventDocument (event : HostOtEvent) :
    (event.eventDocument rounding).toJson = event.toJson := rfl

end DTLab
