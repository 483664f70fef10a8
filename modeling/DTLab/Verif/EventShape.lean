import DTLab.Receiver.Limits
import DTLab.Sensor.Pymodbus
import DTLab.Verif.Accounting

/-!
# Shape of emitted events

Every event of a run over decoded write requests meets the schema, the limit on its bytes and the
order of its times exactly when its numbers can be written, the wall clock did not step back
within its episode, and no kept write declares more than the schema allows. A run with a clock
that steps back shows that the second condition can fail.
-/

namespace DTLab

open Library (Text SchemaDialect AmongFirst)

variable {τ : Type} (dialect : SchemaDialect) (other : Text → ParsedTime)
  (sha256Text : Text → String)

/-! ## Deployments -/

/-- A peer with a valid address, and a valid port where the port is known. -/
def Endpoint.Valid (endpoint : Endpoint) : Prop :=
  IsAddress dialect endpoint.ip ∧ ∀ port ∈ endpoint.port, 1 ≤ port ∧ port ≤ 65535

/-- An observation of a decoded request from a peer with a valid address, at some readings of
the two clocks. -/
def Decoded (settings : ObservationConfig) (observation : Observation τ) : Prop :=
  ∃ (unitId : Fin 256) (request : WriteRequest) (source destination : Endpoint)
    (outcome : String) (now : WallClock) (epoch : τ),
    source.Valid dialect ∧
    IsAddress dialect
      (if settings.destinationIp = "" then destination.ip else settings.destinationIp) ∧
    makeObservation sha256Text settings (request.attributes unitId) source destination outcome
      (utcNowText now) epoch = some observation

/-- Default bounds, identifiers that match the schema, digests in hexadecimal, and what the
checks of formats do on the texts of times and addresses. -/
structure Deployed (config : AggregatorConfig τ) (settings : ObservationConfig) : Prop where
  buckets : config.maxOperationBuckets = defaultMaxOperationBuckets
  values : settings.maxValuesPerWrite = defaultMaxValues
  sensorId : IsIdentifier config.sensorId
  sensorVersion : LengthIn 1 64 config.sensorVersion
  bootId : IsIdentifier config.bootId
  assetId : LengthIn 1 1024 settings.destinationAssetId
  digest : ∀ text, isDigestBody (sha256Text text).toList = true
  dateTime : ∀ now, dialect.format "date-time" (utcNowText now) = true
  address : ∀ text, IsAddress dialect text → text.length ≤ 45

/-! ## Conditions on an episode -/

/-- The sequence number of the episode, the revision and the number of observations can be
written. -/
def Report.Writable (report : Report τ) : Prop :=
  DTLab.Writable report.sequence ∧ DTLab.Writable (report.earlier + 1) ∧
    DTLab.Writable report.size

/-- The wall clock read no earlier at the latest observation than at the first. -/
def InOrder (history : History τ) : Prop :=
  ∀ first last : WallClock, history.first.observedAt = utcNowText first →
    history.last.observedAt = utcNowText last → first.time.instant ≤ last.time.instant

/-- No kept write has more than 1968 coils or registers. -/
def WithinQuantity (maxOperationBuckets : Int) (past : List (Observation τ)) : Prop :=
  ∀ operation, KeptOperation maxOperationBuckets past operation → operation.quantity ≤ 1968

/-! ## Decoded observations -/

/-- A digest in hexadecimal matches the pattern. -/
theorem digestPattern_of_body {text : String} (body : isDigestBody text.toList = true) :
    digestPattern text = true := by
  rw [digestPattern, endsLine, body, Bool.true_or]

/-- A character of a digest is one of identifiers. -/
theorem isIdentifierChar_of_hex {c : Char}
    (hex : (c.isDigit || decide ('a'.toNat ≤ c.toNat ∧ c.toNat ≤ 'f'.toNat)) = true) :
    isIdentifierChar c = true := by
  have alphanumeric : c.isAlphanum = true := by
    have low : 'a'.toNat = 97 := by decide
    have high : 'f'.toNat = 102 := by decide
    rw [Bool.or_eq_true, decide_eq_true_eq, low, high] at hex
    rcases hex with digit | letter
    · exact Bool.or_eq_true_iff.mpr (Or.inr digit)
    · have lower : c.isLower = true := by
        have most : c.toNat ≤ 122 := by omega
        exact Bool.and_eq_true_iff.mpr ⟨decide_eq_true (UInt32.le_iff_toNat_le.mpr letter.1),
          decide_eq_true (UInt32.le_iff_toNat_le.mpr most)⟩
      have alphabetic : c.isAlpha = true := Bool.or_eq_true_iff.mpr (Or.inr lower)
      exact Bool.or_eq_true_iff.mpr (Or.inl alphabetic)
  rw [isIdentifierChar, alphanumeric]
  rfl

/-- An identifier goes on with characters of identifiers. -/
theorem isIdentifierBody_append {front rest : Text} (body : isIdentifierBody front = true)
    (inside : rest.all isIdentifierChar = true) : isIdentifierBody (front ++ rest) = true := by
  cases front with
  | nil => cases body
  | cons c front =>
    rw [isIdentifierBody, Bool.and_eq_true] at body
    rw [List.cons_append, isIdentifierBody, List.all_append, body.1, body.2, inside]
    rfl

/-- A prefix in front of a digest is an identifier. -/
theorem isIdentifier_digest {front digest : String} (short : front.length ≤ 192)
    (body : isIdentifierBody front.toList = true) (hex : isDigestBody digest.toList = true) :
    IsIdentifier (front ++ digest) := by
  rw [isDigestBody, Bool.and_eq_true, decide_eq_true_eq, String.length_toList] at hex
  obtain ⟨length, digits⟩ := hex
  have inside : digest.toList.all isIdentifierChar = true := by
    rw [List.all_eq_true] at digits ⊢
    exact fun c member => isIdentifierChar_of_hex (digits c member)
  have total : (front ++ digest).length = front.length + digest.length := String.length_append _ _
  refine ⟨⟨by omega, by omega⟩, ?_⟩
  rw [identifierPattern, endsLine, String.toList_append, isIdentifierBody_append body inside]
  rfl

/-- The parts of a decoded observation are in the ranges of the schema, apart from the quantity
that its request declares. -/
theorem Decoded.parts {config : AggregatorConfig τ} {settings : ObservationConfig}
    (deployed : Deployed dialect sha256Text config settings) {observation : Observation τ}
    (decoded : Decoded dialect sha256Text settings observation) :
    observation.source.Shaped dialect ∧ observation.destination.Shaped dialect ∧
      observation.operation.InRange ∧
      digestPattern observation.operation.valuesSha256 = true ∧
      ∃ now, observation.observedAt = utcNowText now := by
  obtain ⟨unitId, request, source, destination, outcome, now, epoch, valid, address, made⟩ :=
    decoded
  obtain ⟨operation, extracted, built⟩ := Option.bind_eq_some_iff.mp made
  obtain rfl := Option.some.inj built
  rw [deployed.values] at extracted
  obtain ⟨inRange, -⟩ := extract_inRange extracted
  obtain ⟨-, -, -, -, -, -, -, text, digest⟩ := extractModbusWrite_parts extracted
  have hex := digestPattern_of_body (deployed.digest text)
  rw [← digest] at hex
  exact ⟨valid, ⟨deployed.assetId, address, rfl, inRange.unitId⟩, inRange, hex, now, rfl⟩

/-- Two times that parse are accepted exactly when they are in order. -/
theorem timeErrors_eq_nil {parseTime : String → ParsedTime} {event : HostOtEvent}
    {first last : Int} (firstTime : parseTime event.firstObservedAt = .instant first)
    (lastTime : parseTime event.lastObservedAt = .instant last) :
    timeErrors parseTime event = [] ↔ first ≤ last := by
  rw [timeErrors, firstTime, lastTime]
  simp only [ParsedTime.errors, ParsedTime.instant?, List.nil_append]
  split_ifs with before
  · simp [before]
  · simpa using before

/-- A text of the wall clock determines the instant it was read at. -/
theorem instant_unique {now same : WallClock} (texts : utcNowText now = utcNowText same) :
    now.time.instant = same.time.instant := by
  have parsed : parseTime (fun _ => .invalid) (utcNowText now) = .instant same.time.instant := by
    rw [texts]
    exact parseTime_utcNowText _ same
  rw [parseTime_utcNowText] at parsed
  exact ParsedTime.instant.inj parsed

/-! ## Documents -/

/-- The notes of a document are two short texts. -/
theorem document_notes [LinearOrder τ] [Sub τ] (config : AggregatorConfig τ) (report : Report τ) :
    (report.document sha256Text config).evidence.notes.length = 2 ∧
      ∀ note ∈ (report.document sha256Text config).evidence.notes, LengthIn 1 256 note := by
  have short : ∀ note ∈ ["Evidenza prodotta dal sensore endpoint PLC, non da Cisco Cyber Vision.",
      "L'indirizzo IP non identifica il processo o l'intento dell'operatore."],
      LengthIn 1 256 note := by decide
  exact ⟨rfl, short⟩

section

variable [LinearOrder τ] [Sub τ] {config : AggregatorConfig τ} {settings : ObservationConfig}
  (deployed : Deployed dialect sha256Text config settings) (report : Report τ)
include deployed

omit [LinearOrder τ] [Sub τ] in
/-- The first write of an episode is kept. -/
theorem first_kept :
    KeptOperation config.maxOperationBuckets report.history.all
      report.history.first.operation := by
  have among : AmongFirst config.maxOperationBuckets report.history.first.operation.writeKey
      ((operations report.history.all).map Operation.writeKey) := by
    rw [deployed.buckets]
    simp [AmongFirst, operations, History.all, defaultMaxOperationBuckets]
  refine ⟨among, ?_⟩
  simp [operations, History.all]

/-- The writes of a document are shaped exactly when none has too large a quantity. -/
theorem writes_shaped_iff (drawn : ∀ observation ∈ report.history.all,
      Decoded dialect sha256Text settings observation) :
    (∀ bucket ∈ (report.modbus sha256Text config).writes, bucket.Shaped) ↔
      WithinQuantity config.maxOperationBuckets report.history.all := by
  constructor
  · intro shaped operation kept
    have bucket := shaped _ ((report.mem_writes sha256Text config _).mpr ⟨operation, kept, rfl⟩)
    exact bucket.2.1.2
  · intro within bucket member
    obtain ⟨operation, kept, rfl⟩ := (report.mem_writes sha256Text config bucket).mp member
    obtain ⟨observation, inside, same⟩ := List.mem_map.mp kept.mem
    obtain ⟨-, -, inRange, digest, -⟩ :=
      (drawn observation inside).parts dialect sha256Text deployed
    rw [same] at inRange digest
    have few := inRange.few
    have counted : 1 ≤ keyCount report.history.all operation.writeKey := by
      rw [keyCount, Nat.succ_le_iff, List.countP_pos_iff]
      exact ⟨operation, kept.mem, decide_eq_true rfl⟩
    exact ⟨inRange.address, ⟨operation.one_le_quantity, within operation kept⟩,
      few.trans (by decide),
      inRange.values, digest, counted⟩

/-- The `modbus` part of a document is shaped exactly when its writes are. -/
theorem modbus_shaped_iff :
    (report.modbus sha256Text config).Shaped ↔
      ∀ bucket ∈ (report.modbus sha256Text config).writes, bucket.Shaped := by
  constructor
  · exact fun shaped => shaped.2.2.1.2.2
  · intro writes
    have first := first_kept dialect sha256Text deployed report
    have codes : 1 ≤ (report.modbus sha256Text config).functionCodes.length := by
      rw [Nat.succ_le_iff, List.length_pos_iff_exists_mem]
      exact ⟨_, (report.mem_functionCodes sha256Text config _).mpr ⟨_, first.mem, rfl⟩⟩
    have some : 1 ≤ (report.modbus sha256Text config).writes.length := by
      rw [Nat.succ_le_iff, List.length_pos_iff_exists_mem]
      exact ⟨_, (report.mem_writes sha256Text config _).mpr ⟨_, first, rfl⟩⟩
    have few : (report.modbus sha256Text config).writes.length ≤ 64 := by
      obtain ⟨modbus, -, held, -, -, -, size, -⟩ := wellCounted_document sha256Text config report
      rw [Report.document_modbus, Option.some.injEq] at held
      rw [← held, deployed.buckets] at size
      exact Int.ofNat_le.mp size
    have requests : 1 ≤ (report.modbus sha256Text config).requestCount := by
      rw [Report.modbus_requestCount]
      exact report.history.all_length_pos
    exact ⟨rfl, ⟨codes, sortedCodes_nodup _⟩, ⟨some, few.trans (by decide), writes⟩, requests⟩

/-- A document is shaped exactly when no kept write has too large a quantity. -/
theorem document_shaped_iff (drawn : ∀ observation ∈ report.history.all,
      Decoded dialect sha256Text settings observation) :
    (report.document sha256Text config).Shaped dialect ↔
      WithinQuantity config.maxOperationBuckets report.history.all := by
  rw [← writes_shaped_iff dialect sha256Text deployed report drawn,
    ← modbus_shaped_iff dialect sha256Text deployed report]
  constructor
  · exact fun shaped => shaped.modbus _ (report.document_modbus sha256Text config)
  · intro modbus
    have id : IsIdentifier
        (episodeId sha256Text config.sensorId config.bootId report.sequence) :=
      isIdentifier_digest (by decide) (by decide) (deployed.digest _)
    obtain ⟨episode, -, first, source, destination⟩ := report.document_identity sha256Text config
    have named : IsIdentifier (report.document sha256Text config).episodeId := by
      rw [episode]
      exact id
    obtain ⟨sourceShaped, destinationShaped, -, -, firstNow, firstText⟩ :=
      (drawn _ List.mem_cons_self).parts dialect sha256Text deployed
    obtain ⟨-, -, -, -, lastNow, lastText⟩ :=
      (drawn _ report.history.last_mem).parts dialect sha256Text deployed
    obtain ⟨two, short⟩ := document_notes sha256Text config report
    have reason (shutdown : Bool) : (renderDetection shutdown).Shaped := by
      cases shutdown <;> exact ⟨⟨by decide, by decide⟩, rfl, by decide⟩
    exact {
      schemaVersion := rfl
      eventId := named
      episodeId := named
      revision := Nat.succ_pos _
      bootId := deployed.bootId
      firstObservedAt := by rw [first, firstText]; exact deployed.dateTime firstNow
      lastObservedAt := by
        rw [Report.document_lastObservedAt, lastText]
        exact deployed.dateTime lastNow
      timestampBasis := rfl
      sensor := ⟨deployed.sensorId, deployed.sensorVersion, List.mem_cons_self⟩
      source := by rw [source]; exact sourceShaped
      destination := by
        rw [destination]
        rintro _ ⟨⟩
        exact destinationShaped
      modbus := by
        rw [Report.document_modbus]
        rintro _ ⟨⟩
        exact modbus
      detection := by
        rw [Report.document_detection]
        rintro _ ⟨⟩
        exact reason _
      evidence := ⟨rfl, named, two.le.trans (by decide), fun note member =>
        ⟨(short note member).1, (short note member).2.trans (by decide)⟩⟩
      process := fun _ given => by cases given
      byType := by
        refine ⟨rfl, rfl, rfl, rfl, ?_⟩
        rw [Report.document_truth]
        cases report.history.last.outcomeState <;> decide }

/-- A document is compact. -/
theorem document_compact (drawn : ∀ observation ∈ report.history.all,
      Decoded dialect sha256Text settings observation)
    (shaped : (report.document sha256Text config).Shaped dialect) :
    (report.document sha256Text config).Compact := by
  have few : (report.modbus sha256Text config).writes.length ≤ 64 := by
    obtain ⟨modbus, -, held, -, -, -, size, -⟩ := wellCounted_document sha256Text config report
    rw [Report.document_modbus, Option.some.injEq] at held
    rw [← held, deployed.buckets] at size
    exact Int.ofNat_le.mp size
  obtain ⟨two, short⟩ := document_notes sha256Text config report
  have text (now : WallClock) : (utcNowText now).length ≤ 64 := by
    have zulu : "Z".length = 1 := rfl
    simp [utcNowText, zulu]
  obtain ⟨-, -, -, -, firstNow, firstText⟩ :=
    (drawn _ List.mem_cons_self).parts dialect sha256Text deployed
  obtain ⟨-, -, -, -, lastNow, lastText⟩ :=
    (drawn _ report.history.last_mem).parts dialect sha256Text deployed
  refine
    { writes := ?_
      functionCodes := ?_
      reason := ?_
      notes := ⟨two.le, fun note member => (short note member).2⟩
      times := ?_
      addresses := ?_
      process := rfl }
  · rw [Report.document_modbus]
    rintro _ ⟨⟩
    refine ⟨few, fun bucket member => ?_⟩
    obtain ⟨operation, kept, rfl⟩ := (report.mem_writes sha256Text config bucket).mp member
    obtain ⟨observation, inside, same⟩ := List.mem_map.mp kept.mem
    obtain ⟨-, -, inRange, -⟩ := (drawn observation inside).parts dialect sha256Text deployed
    rw [same] at inRange
    exact inRange.few
  · rw [Report.document_modbus]
    rintro _ ⟨⟩
    exact List.length_filter_le _ _
  · rw [Report.document_detection]
    rintro _ ⟨⟩
    cases correlated config.shutdownWindow report.history.all <;> decide
  · rw [Report.document_firstObservedAt, Report.document_lastObservedAt, firstText, lastText]
    exact ⟨text _, text _⟩
  · refine ⟨(deployed.address _ shaped.source.1).trans (by decide), fun destination given => ?_⟩
    exact (deployed.address _ (shaped.destination destination given).2.1).trans (by decide)

/-- The times of a document are accepted exactly when they are in order, and neither is outside of
the calendar. -/
theorem document_times (drawn : ∀ observation ∈ report.history.all,
      Decoded dialect sha256Text settings observation) :
    ¬ TimesOverflow (parseTime other) (report.document sha256Text config) ∧
      (timeErrors (parseTime other) (report.document sha256Text config) = [] ↔
        InOrder report.history) := by
  obtain ⟨-, -, -, -, firstNow, firstText⟩ :=
    (drawn _ List.mem_cons_self).parts dialect sha256Text deployed
  obtain ⟨-, -, -, -, lastNow, lastText⟩ :=
    (drawn _ report.history.last_mem).parts dialect sha256Text deployed
  have order : InOrder report.history ↔ firstNow.time.instant ≤ lastNow.time.instant := by
    constructor
    · exact fun inOrder => inOrder firstNow lastNow firstText lastText
    · intro least first last firstSame lastSame
      rw [← instant_unique (firstText.symm.trans firstSame),
        ← instant_unique (lastText.symm.trans lastSame)]
      exact least
  have first : parseTime other (report.document sha256Text config).firstObservedAt =
      .instant firstNow.time.instant := by
    rw [Report.document_firstObservedAt, firstText]
    exact parseTime_utcNowText other firstNow
  have last : parseTime other (report.document sha256Text config).lastObservedAt =
      .instant lastNow.time.instant := by
    rw [Report.document_lastObservedAt, lastText]
    exact parseTime_utcNowText other lastNow
  constructor
  · rw [TimesOverflow, first, last]
    exact fun overflow => overflow.elim ParsedTime.noConfusion ParsedTime.noConfusion
  · rw [order]
    exact timeErrors_eq_nil first last

omit deployed in
/-- The numbers of a shaped document can be written exactly when those of its report can. -/
theorem document_numbers
    (shaped : (report.document sha256Text config).Shaped dialect) :
    (report.document sha256Text config).toJson.IntegersBelow (10 ^ maxIntegerDigits) ↔
      report.Writable := by
  obtain ⟨modbus, outcome, held, states, requests, total, -, -⟩ :=
    wellCounted_document sha256Text config report
  have size : modbus.requestCount = report.size := by
    rw [Report.document_modbus, Option.some.injEq] at held
    rw [← held, Report.modbus_requestCount]
  have below {number : Nat} (least : number ≤ report.size) (written : report.Writable) :
      DTLab.Writable number := lt_of_le_of_lt least written.2.2
  rw [integersBelow_event shaped held states rfl, Report.document_episodeSequence,
    Report.document_revision]
  constructor
  · rintro ⟨sequence, revision, ⟨-, counted, -⟩, -⟩
    exact ⟨sequence, revision, size ▸ counted⟩
  · intro written
    refine ⟨written.1, written.2.1, ⟨below (by omega) written, below (by omega) written, ?_⟩,
      below (by omega) written, below (by omega) written, below (by omega) written⟩
    intro bucket member
    have least := List.single_le_sum (fun count _ => Nat.zero_le count) bucket.count
      (List.mem_map_of_mem member)
    exact below (by omega) written

/-- The shape and times of a document are accepted exactly under the three conditions. -/
theorem shapeAccepted_document (drawn : ∀ observation ∈ report.history.all,
      Decoded dialect sha256Text settings observation) :
    ShapeAccepted dialect other (report.document sha256Text config) ↔
      report.Writable ∧ InOrder report.history ∧
        WithinQuantity config.maxOperationBuckets report.history.all := by
  have shapes := document_shaped_iff dialect sha256Text deployed report drawn
  obtain ⟨converted, times⟩ := document_times dialect other sha256Text deployed report drawn
  constructor
  · intro accepted
    have shaped := (accepts_event dialect _).mp accepted.schema
    have numbers := document_numbers dialect sha256Text report shaped
    exact ⟨numbers.mp accepted.serialisable, times.mp accepted.ordered, shapes.mp shaped⟩
  · rintro ⟨written, inOrder, within⟩
    have shaped := shapes.mpr within
    have numbers := (document_numbers dialect sha256Text report shaped).mpr written
    have compact := document_compact dialect sha256Text deployed report drawn shaped
    obtain ⟨-, -, -, -, destination⟩ := report.document_identity sha256Text config
    exact
      { serialisable := numbers
        within := documentBytes_le shaped compact (report.document_modbus sha256Text config)
          (report.document_outcome sha256Text config) destination
          (report.document_detection sha256Text config) numbers
        schema := (accepts_event dialect _).mpr shaped
        converted := converted
        ordered := times.mpr inOrder }

/-- The shape and times of each event of a run over decoded requests are accepted exactly when
its numbers can be written, the wall clock did not step back within its episode so far, and no
kept write has too large a quantity. -/
theorem shapeAccepted_iff_inOrder (nextSequence : Nat) (calls : List (AggregatorCall τ))
    (decoded : ∀ observation ∈ observations calls,
      Decoded dialect sha256Text settings observation) :
    List.Forall₂ (fun report event =>
        ShapeAccepted dialect other event ↔
          report.Writable ∧ InOrder report.history ∧
            WithinQuantity config.maxOperationBuckets report.history.all)
      (Ledger.reports config nextSequence calls)
      (Aggregator.events sha256Text config nextSequence calls) := by
  rw [events_eq, List.forall₂_map_right_iff, List.forall₂_same]
  intro report member
  have records := Ledger.records_run config nextSequence calls
  have drawn : ∀ observation ∈ report.history.all,
      Decoded dialect sha256Text settings observation := fun observation inside =>
    decoded observation (records.reports_drawn report member observation inside)
  exact shapeAccepted_document dialect other sha256Text deployed report drawn

end

/-! ## Runs of a sample plant -/

/-- The digests of the texts that the sample runs hash. -/
def plantDigest (text : Text) : String :=
  if text = "[0]".toList then
    "d0bca111f8628137adc4c16f123496dcdd1d590d06cb5d9acd68b39fe656fb97"
  else if text = "[0,5]".toList then
    "f5750294f8a1785ce1f95f294d731e272e53b5c440fcfceb08f2dfa54be9a816"
  else if text = "[true]".toList then
    "1c28f2eb0958c3d15db1f0f0e7f2b8998ca2b8f67ab426a1fbb3d561fe76fad9"
  else "c6ca46f0edd509978bfdeb26eb6ebcf6e78edb98cf7890b01aa29caf37baf961"

/-- A check of formats that knows the addresses of the sample plant and takes every date. -/
def plantDialect : SchemaDialect where
  format name text :=
    if name = "ipv4" then decide (text ∈ ["172.16.10.10", "172.16.10.20", "172.16.10.30"])
    else decide (name = "date-time")
  floatValue _ := none

/-- The wall clock in the first minute of a day, at a second. -/
def plantClock (second : Fin 60) : WallClock where
  time := ⟨2026, 9, 1, 10, 0, second, 0⟩
  valid := by
    revert second
    decide
  since := Nat.le_add_left 1970 56

/-- The call that observes a write with an outcome at readings of the two clocks. -/
def plantWrite (request : WriteRequest) (outcome : String) (now : WallClock) (epoch : Int) :
    List (AggregatorCall Int) :=
  ((makeObservation plantDigest sampleSettings (request.attributes 1) ⟨"172.16.10.20", some 41000⟩
    ⟨"172.16.10.10", some 502⟩ outcome (utcNowText now) epoch).map .observe).toList

/-- The zero write of register 3. -/
def plantCall (now : WallClock) (epoch : Int) : List (AggregatorCall Int) :=
  plantWrite (.writeSingleRegister 3 0) "processed" now epoch

/-- Writes with three function codes and three outcomes, the last one behind the first revision. -/
def plantWrites : List (AggregatorCall Int) :=
  plantCall (plantClock 0) 100 ++
    plantWrite (.writeMultipleRegisters 3 [0, 5] (by decide)) "rejected" (plantClock 1) 101 ++
    plantWrite (.writeSingleCoil 7 true) "unknown" (plantClock 8) 108 ++ [.flushAll]

/-- The sample plant is deployed. -/
theorem plant_deployed :
    Deployed plantDialect plantDigest (sampleConfig defaultMaxOperationBuckets) sampleSettings
    where
  buckets := rfl
  values := rfl
  sensorId := by decide
  sensorVersion := by decide
  bootId := by decide
  assetId := by decide
  digest text := by
    unfold plantDigest
    split_ifs <;> decide
  dateTime _ := rfl
  address text address := by
    have known : text ∈ ["172.16.10.10", "172.16.10.20", "172.16.10.30"] := by
      by_contra unknown
      exact address (by simp only [plantDialect, unknown]; decide)
    have short : ∀ known ∈ ["172.16.10.10", "172.16.10.20", "172.16.10.30"],
        known.length ≤ 45 := by decide
    exact short text known

/-- The observations of the sample calls are decoded. -/
theorem plantWrite_decoded (request : WriteRequest) (outcome : String) (now : WallClock)
    (epoch : Int) : ∀ observation ∈ observations (plantWrite request outcome now epoch),
      Decoded plantDialect plantDigest sampleSettings observation := by
  intro observation member
  refine ⟨1, request, ⟨"172.16.10.20", some 41000⟩, ⟨"172.16.10.10", some 502⟩, outcome, now, epoch,
    ⟨by decide, by rintro _ ⟨⟩; decide⟩, by decide, ?_⟩
  rw [plantWrite] at member
  cases made : makeObservation plantDigest sampleSettings (request.attributes 1)
      ⟨"172.16.10.20", some 41000⟩ ⟨"172.16.10.10", some 502⟩ outcome (utcNowText now) epoch with
  | none =>
    rw [made] at member
    cases member
  | some observed =>
    rw [made] at member
    rw [List.mem_singleton.mp member]

/-- The observations of calls in a row. -/
theorem observations_append {τ : Type} (calls more : List (AggregatorCall τ)) :
    observations (calls ++ more) = observations calls ++ observations more :=
  List.filterMap_append

/-- Two revisions of the three writes. -/
theorem plant_accepted :
    (Aggregator.events plantDigest
    (sampleConfig defaultMaxOperationBuckets) 0 plantWrites).length = 2 ∧
      List.Forall₂ (fun report event =>
          ShapeAccepted plantDialect (fun _ => .invalid) event ↔
            report.Writable ∧ InOrder report.history ∧
              WithinQuantity defaultMaxOperationBuckets report.history.all)
        (Ledger.reports (sampleConfig defaultMaxOperationBuckets) 0 plantWrites)
        (Aggregator.events plantDigest
          (sampleConfig defaultMaxOperationBuckets) 0 plantWrites) := by
  have decoded : ∀ observation ∈ observations plantWrites,
      Decoded plantDialect plantDigest sampleSettings observation := by
    intro observation member
    rw [plantWrites, observations_append, observations_append, observations_append, List.mem_append,
      List.mem_append, List.mem_append] at member
    obtain ((first | second) | third) | none := member
    · exact plantWrite_decoded _ _ _ _ observation first
    · exact plantWrite_decoded _ _ _ _ observation second
    · exact plantWrite_decoded _ _ _ _ observation third
    · cases none
  exact ⟨by decide, shapeAccepted_iff_inOrder plantDialect (fun _ => .invalid) plantDigest
    plant_deployed 0 plantWrites decoded⟩

/-- A write at one second past ten, and the same write when the clock was set back to ten: the
last revision ends before it begins. -/
theorem last_precedes_first :
    (∀ observation ∈ observations (plantCall (plantClock 1) 100 ++ plantCall (plantClock 0) 101 ++
        [.flushAll]), Decoded plantDialect plantDigest sampleSettings observation) ∧
      ¬∀ event ∈ Aggregator.events plantDigest (sampleConfig defaultMaxOperationBuckets) 0
        (plantCall (plantClock 1) 100 ++ plantCall (plantClock 0) 101 ++ [.flushAll]),
        ∃ other, ShapeAccepted plantDialect other event := by
  constructor
  · intro observation member
    have split : observation ∈ observations (plantCall (plantClock 1) 100) ∨
        observation ∈ observations (plantCall (plantClock 0) 101) := by
      simpa [observations, List.filterMap_append] using member
    rcases split with early | late
    · exact plantWrite_decoded _ _ (plantClock 1) 100 observation early
    · exact plantWrite_decoded _ _ (plantClock 0) 101 observation late
  · intro accepted
    have found : ∃ event ∈ Aggregator.events plantDigest
        (sampleConfig defaultMaxOperationBuckets) 0
        (plantCall (plantClock 1) 100 ++ plantCall (plantClock 0) 101 ++ [.flushAll]),
        event.firstObservedAt = utcNowText (plantClock 1) ∧
          event.lastObservedAt = utcNowText (plantClock 0) := by
      decide
    obtain ⟨event, member, first, last⟩ := found
    obtain ⟨other, shape⟩ := accepted event member
    have firstTime := parseTime_utcNowText other (plantClock 1)
    have lastTime := parseTime_utcNowText other (plantClock 0)
    rw [← first] at firstTime
    rw [← last] at lastTime
    have order := (timeErrors_eq_nil firstTime lastTime).mp shape.ordered
    revert order
    decide

end DTLab
