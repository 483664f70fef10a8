import DTLab.Receiver.Ingress
import DTLab.Spool.Event
import DTLab.Tickets.Sightings
import DTLab.Verif.DocumentMeaning
import DTLab.Verif.TicketHistory

/-!
# Isolation of sensors

The key of a request is bound to one sensor, but the row that its event writes is found by the id
of the episode alone. A request leaves the signals of the other sensors and their tickets as they
were as long as the signal that it writes, where there is one, is of its own sensor. Two sensors
that use one id of an episode overwrite each other.
-/

namespace DTLab

open Library (Json Dict System.Keeps Table.row?_update_apart)
open Library.Attempt (bind_eq_ok map_eq_ok)

variable {τ : Type}

/-- The sensor that the event in a stored signal names. -/
def SignalRow.sensor (row : SignalRow τ) : Option Json :=
  (row.event.bind (memberOf "sensor")).bind (memberOf "id")

/-- A stored signal whose event names another sensor. -/
def SignalRow.isForeignTo (sensorId : String) (row : SignalRow τ) : Bool :=
  match row.sensor with
  | some (.str other) => decide (other ≠ sensorId)
  | _ => false

/-! ## The ticket of another signal -/

namespace TicketStore

variable {store later : TicketStore τ} {context : CallContext τ} {other : String}
  {ticketId : String} {row : TicketRow τ}

/-- A signal that is stored under its fingerprint is stored under its id. -/
theorem signalById_of_signalOf {signal : SignalRow τ}
    (here : store.signalOf signal.fingerprint = some signal) :
    store.signalById signal.id = some signal := by
  rw [signalById, SignalRow.id, ← signalOf_eq]
  exact here

/-- An update of a ticket leaves the tickets of the other signals. -/
theorem ticketOfSignal_updateTicket {change : TicketRow τ → TicketRow τ} (sound : store.Sound)
    (found : store.ticketOf ticketId = some row)
    (keepsSignal : ∀ row, (change row).signalId = row.signalId) (apart : row.signalId ≠ other) :
    (store.updateTicket ticketId change).ticketOfSignal other = store.ticketOfSignal other := by
  apply Table.row?_update_apart keepsSignal
  intro present member same
  have only : store.ticketOf present.id = some present :=
    Library.Table.row?_of_mem sound.ids member
  rw [same, found] at only
  rw [← Option.some.inj only]
  exact apart

/-- The addition of missing tasks leaves the tickets of the other signals. -/
theorem ticketOfSignal_addMissingTasks {actor : String} {owner : Option String}
    {definitions : List TaskDefinition} {result : Nat × TicketStore τ} (sound : store.Sound)
    (found : store.ticketOf ticketId = some row) (apart : row.signalId ≠ other)
    (returned : store.addMissingTasks context ticketId actor owner definitions = .ok result) :
    result.2.ticketOfSignal other = store.ticketOfSignal other := by
  obtain ⟨loop, filled, ⟨_, rfl⟩ | ⟨_, rfl⟩⟩ := addMissingTasks_cases returned
  · rfl
  · have tickets : (loop.store.updateTicket ticketId fun row => row.touched context.now).tickets =
        (store.updateTicket ticketId fun row => row.touched context.now).tickets := by
      rw [updateTicket, filled.tickets, updateTicket]
    rw [ticketOfSignal, tickets]
    exact @ticketOfSignal_updateTicket τ store other ticketId row
      (fun row => row.touched context.now) sound found (fun _ => rfl) apart

/-- A creation for a signal leaves the tickets of the other signals. -/
theorem ticketOfSignal_createTicketWithTasks {platform : StorePlatform} {request : TicketRequest}
    {tasks : List TaskDefinition} {result : (TicketRow τ × Nat) × TicketStore τ}
    (sound : store.Sound) (apart : strip request.signalId ≠ other)
    (returned : store.createTicketWithTasks platform context request tasks = .ok result) :
    result.2.ticketOfSignal other = store.ticketOfSignal other := by
  simp only [createTicketWithTasks, bind_eq_ok] at returned
  obtain ⟨⟨checked, definitions⟩, checks, signal, _, ⟨ticket, between⟩, creation,
    ⟨added, behind⟩, filled, returned⟩ := returned
  obtain rfl := Except.ok.inj returned
  obtain ⟨named, _⟩ := checkRequest_eq_ok platform checks
  obtain ⟨commits, here, _⟩ := findOrCreateTicket_commits sound creation
  have own : ticket.signalId = strip request.signalId ∧
      between.ticketOfSignal other = store.ticketOfSignal other := by
    rw [findOrCreateTicket] at creation
    cases present : store.ticketOfSignal checked.signalId with
    | some found =>
      rw [present] at creation
      obtain ⟨rfl, rfl⟩ := Prod.mk.inj (Except.ok.inj creation)
      exact ⟨(Library.Table.key_of_row? present).trans named, rfl⟩
    | none =>
      rw [present] at creation
      simp only [createTicket, bind_eq_ok] at creation
      obtain ⟨title, _, description, _, inserted, insertion, creation⟩ := creation
      obtain ⟨_, rfl⟩ := insertTicket_eq_ok.mp insertion
      obtain ⟨rfl, rfl⟩ := Prod.mk.inj (Except.ok.inj creation)
      refine ⟨named, ?_⟩
      apply Library.Table.row?_append_ne
      show checked.signalId ≠ other
      rw [named]
      exact apart
  have different : ticket.signalId ≠ other := by
    rw [own.1]
    exact apart
  exact (ticketOfSignal_addMissingTasks commits.sound here different filled).trans own.2

/-- A priority that is set leaves the tickets of the other signals. -/
theorem ticketOfSignal_setTicketPriority {platform : StorePlatform} {priority actor : String}
    {result : TicketRow τ × TicketStore τ} (sound : store.Sound)
    (apart : ∀ row ∈ store.ticketOf (strip ticketId), row.signalId ≠ other)
    (returned : store.setTicketPriority platform context ticketId priority actor = .ok result) :
    result.2.ticketOfSignal other = store.ticketOfSignal other := by
  obtain ⟨row, next, found, _, ⟨_, rfl⟩ | ⟨_, actor', slaDueAt, rfl⟩⟩ :=
    setTicketPriority_cases platform returned
  · rfl
  · exact @ticketOfSignal_updateTicket τ store other _ row
      (fun row => (row.withPriority next slaDueAt).touched context.now) sound found
      (fun _ => rfl) (apart row found)

end TicketStore

/-! ## Steps of a request -/

variable [DecidableEq τ] (platform : IngressPlatform) (config : IngressConfig)
  (keys : Dict String SensorKey)

/-- A step of a request leaves every signal of another sensor, and its ticket. -/
def IngressWorld.Isolated (world : IngressWorld τ) (action : IngressAction τ) : Prop :=
  match action with
  | .advance index _ _ => ∀ call ∈ world.calls[index]?,
    ∀ next ∈ world.step platform config keys action, ∀ row ∈ world.store.signals,
      row.isForeignTo call.sensorId = true → next.store.signalById row.id = some row ∧
        next.store.ticketOfSignal row.id = world.store.ticketOfSignal row.id
  | _ => True

/-- Where a request writes a signal or a ticket, the signal is new or one of its own sensor. -/
def IngressWorld.OwnWrites (world : IngressWorld τ) (action : IngressAction τ) : Prop :=
  match action with
  | .advance index _ _ => ∀ call ∈ world.calls[index]?,
    match call.run with
    | .ingesting _ .ingesting
    | .ingesting _ (.applying _ (.creating _ _)) =>
      ∀ row ∈ world.store.signalOf (hostOtFingerprint platform.receiver call.event),
        row.isForeignTo call.sensorId = false
    | .ingesting _ (.applying _ (.escalating _ _ ticket _)) =>
      ∀ present ∈ world.store.ticketOf (strip ticket.id),
        ∀ row ∈ world.store.signalById present.signalId, row.isForeignTo call.sensorId = false
    | _ => True
  | _ => True

variable {platform config keys} {world : IngressWorld τ}

section Transaction

variable {context : CallContext τ} {event : Json} {store : TicketStore τ} {row : SignalRow τ}

omit [DecidableEq τ] in
/-- The write of another signal leaves a signal and its ticket. -/
theorem IngestRun.step_ingesting_isolated
    (here : store.signalOf row.fingerprint = some row)
    (apart : row.fingerprint ≠ hostOtFingerprint platform.receiver event) :
    let later := (IngestRun.ingesting.step platform.receiver context store event).2
    later.signalById row.id = some row ∧
      later.ticketOfSignal row.id = store.ticketOfSignal row.id := by
  rcases IngestRun.step_ingesting platform.receiver context store event with
    ⟨fault, _, refused⟩ | ⟨checked, stats, passed, upserted⟩
  · rw [refused]
    exact ⟨TicketStore.signalById_of_signalOf here, rfl⟩
  · rw [upserted]
    have other : row.fingerprint ≠ checked.fingerprint := by
      rw [(checkSignal_hostOtSignal passed).fingerprint]
      exact apart
    have ledger : (store.upsertChecked platform.receiver.store context.now checked).1.ledger
        row.fingerprint = store.ledger row.fingerprint :=
      TicketStore.ledger_upsertChecked_ne other
    have only : store.SignalsOnly
        (store.upsertChecked platform.receiver.store context.now checked).1 :=
      TicketStore.upsertChecked_signalsOnly checked
    constructor
    · apply TicketStore.signalById_of_signalOf
      exact (congrArg SignalLedger.row ledger).trans here
    · rw [TicketStore.ticketOfSignal, only.tickets, TicketStore.ticketOfSignal]

/-- A step of the policy for another signal leaves a signal and its ticket. -/
theorem PolicyRun.step_isolated {storePlatform : StorePlatform} {policy : PolicyRun τ}
    {signalId actor : String} (sound : store.Sound)
    (here : store.signalOf row.fingerprint = some row)
    (creating : ∀ desired created, policy = .creating desired created →
      strip signalId ≠ row.id)
    (escalating : ∀ desired created ticket added,
      policy = .escalating desired created ticket added →
        ∀ present ∈ store.ticketOf (strip ticket.id), present.signalId ≠ row.id) :
    let later := (policy.step storePlatform context store signalId actor).2
    later.signalById row.id = some row ∧
      later.ticketOfSignal row.id = store.ticketOfSignal row.id := by
  have known := TicketStore.signalById_of_signalOf here
  have kept := @PolicyRun.step_call τ context store _ storePlatform policy signalId actor
  generalize (policy.step storePlatform context store signalId actor).2 = later at kept ⊢
  rcases kept with same | ⟨desired, created, shape, committed⟩ |
    ⟨desired, created, ticket, added, shape, committed⟩
  · rw [same]
    exact ⟨known, rfl⟩
  · have signals : later.signals = store.signals :=
      signals_of_statements (StoreCall.commit_statements _ sound committed)
    obtain ⟨result, returned, rfl⟩ := map_eq_ok.mp committed
    constructor
    · rw [TicketStore.signalById, signals]
      exact known
    · apply TicketStore.ticketOfSignal_createTicketWithTasks sound _ returned
      exact creating _ _ shape
  · have signals : later.signals = store.signals :=
      signals_of_statements (StoreCall.commit_statements _ sound committed)
    obtain ⟨result, returned, rfl⟩ := map_eq_ok.mp committed
    constructor
    · rw [TicketStore.signalById, signals]
      exact known
    · apply TicketStore.ticketOfSignal_setTicketPriority sound _ returned
      exact escalating _ _ _ _ shape

end Transaction

/-- A transaction whose write is its own leaves the signals of the other sensors. -/
theorem IngestRun.step_isolated {context : CallContext τ} {call : IngressCall τ}
    {run : IngestRun τ} {stored : Bool} {index : Nat} {receivedAt : String}
    (built : world.Built platform) (waits : world.calls[index]? = some call)
    (ingesting : call.run = .ingesting stored run)
    (own : world.OwnWrites platform (.advance index context receivedAt)) {row : SignalRow τ}
    (member : row ∈ world.store.signals) (foreign : row.isForeignTo call.sensorId = true) :
    (run.step platform.receiver context world.store call.event).2.signalById row.id = some row ∧
      (run.step platform.receiver context world.store call.event).2.ticketOfSignal row.id =
        world.store.ticketOfSignal row.id := by
  have here : world.store.signalOf row.fingerprint = some row :=
    Library.Table.row?_of_mem built.keyed member
  have known := TicketStore.signalById_of_signalOf here
  have written := own call waits
  rw [ingesting] at written
  cases run with
  | guarding =>
    rw [IngestRun.step_guarding platform.receiver context world.store call.event]
    exact ⟨known, rfl⟩
  | ingesting =>
    apply IngestRun.step_ingesting_isolated here
    intro same
    rw [same] at here
    rw [written row here] at foreign
    cases foreign
  | applying stats policy =>
    apply PolicyRun.step_isolated built.sound here
    · -- The signal of a creation is the one of the event.
      rintro desired created rfl same
      rw [strip_hostOtSignalId] at same
      have fingerprint := signalIdOf_injective same
      rw [← fingerprint] at here
      rw [written row here] at foreign
      cases foreign
    · rintro desired created ticket added rfl present found same
      rw [← same] at known
      rw [written present found row known] at foreign
      cases foreign
  | returned result => exact ⟨known, rfl⟩
  | raised fault => exact ⟨known, rfl⟩

/-- An action whose writes are its own is isolated. -/
theorem IngressWorld.isolated_of_ownWrites {action : IngressAction τ}
    (built : world.Built platform) (own : world.OwnWrites platform action) :
    world.Isolated platform config keys action := by
  cases action with
  | advance index context receivedAt =>
    intro call waits next taken row member foreign
    obtain ⟨other, also, store⟩ := IngressWorld.step_advance taken
    obtain rfl : call = other := Option.some.inj (waits.symm.trans also)
    rw [store]
    rcases AcceptRun.step_store platform world context receivedAt call with
      same | ⟨stored, run, ingesting, written⟩
    · rw [same]
      refine ⟨?_, rfl⟩
      exact TicketStore.signalById_of_signalOf (Library.Table.row?_of_mem built.keyed member)
    · rw [written]
      exact IngestRun.step_isolated built waits ingesting own member foreign
  | operate context call => trivial
  | request now request => trivial
  | fail index message => trivial
  | crash => trivial

/-- Every run keeps the ticket store one that operations build. -/
theorem IngressWorld.built_start (calls : List (CallContext τ × StoreCall)) :
    (IngressWorld.start (TicketStore.after platform.receiver.store calls)).Built platform :=
  ⟨calls, rfl⟩

/-! ## Two sensors on a bench -/

/-- The write of one register, as a sensor of the bench reports it. -/
def benchEvent (bootId sensorId : String) (revision : Nat) : HostOtEvent where
  schemaVersion := "dtlab-host-ot-event-v1"
  eventType := .modbusWrite
  eventId := "episode"
  episodeId := "episode"
  revision := revision
  episodeSequence := 1
  bootId := bootId
  firstObservedAt := "2026-01-01T00:00:00+00:00"
  lastObservedAt := "2026-01-01T00:00:01+00:00"
  timestampBasis := "endpoint_utc"
  sensor := ⟨sensorId, "1", "server_hook"⟩
  source := ⟨"10.0.0.9", none, .unknown⟩
  destination := some ⟨"plc", "10.0.0.2", 502, 1⟩
  modbus := some ⟨"write", [.writeSingleRegister],
    [⟨.writeSingleRegister, 40, 1, [7], plainDigest '0', false, 1⟩], 1, 0⟩
  outcome := some ⟨⟨1, 0, 0⟩, .processed⟩
  detection := some ⟨"rule", .modbusWrite, .high, .p2, "alert", "write"⟩
  evidence := ⟨.serverProcessed, "src:dtlab-host-ot:plc-desktop", "episode", []⟩
  process := none

/-- A digest of one character of a text, which in an event is the first one of its boot. -/
def benchDigest (text : Library.Text) : String :=
  plainDigest (Nat.digitChar (((text.drop 12).headD '0').toNat % 10))

/-- A check of formats that knows the addresses of the bench and takes every date. -/
def benchDialect : Library.SchemaDialect where
  format name text :=
    if name = "ipv4" then decide (text ∈ ["10.0.0.2", "10.0.0.9"])
    else decide (name = "date-time")
  floatValue _ := none

/-- A digest of the bench is one. -/
theorem benchDigest_hex (text : Library.Text) : isDigestBody (benchDigest text).toList = true := by
  have digit : ∀ n < 10, isDigestBody (List.replicate 64 (Nat.digitChar n)) = true := by
    decide
  exact plainDigest_isDigest (digit _ (Nat.mod_lt _ (by decide)))

/-- The receiver of the bench. -/
def benchReceiver : ReceiverPlatform where
  store := asciiPlatform benchDigest
  sha256_hex := benchDigest_hex
  dialect := benchDialect
  schemaErrors document :=
    if hostOtEventSchema.accepts benchDialect document then [] else ["$: non valido"]
  schemaErrors_eq_nil document := by simp
  parseTime := parseTime fun _ => .invalid
  floatPlus literal _ := literal
  unwritable _ := ""

/-- An ingress with signatures by the first byte of a secret. -/
def benchIngress : IngressPlatform where
  receiver := benchReceiver
  rounding := id
  decodeBase64 _ := none
  hmacSha256 secret _ := plainDigest (Nat.digitChar (secret.headD 0).toNat)
  readInt text := if text = "0" then some 0 else none

/-- The ingress takes every body that is not too large for the receiver. -/
def benchConfig : IngressConfig where
  maxBodyBytes := maxHostOtEventBytes

/-- The key of the sensor in the east. -/
def eastKey : SensorKey := ⟨"east", "sensor-east", List.replicate 32 1⟩

/-- The key of the sensor in the west. -/
def westKey : SensorKey := ⟨"west", "sensor-westward", List.replicate 32 2⟩

/-- A keyring with two sensors. -/
def benchKeys : Dict String SensorKey := (Dict.empty.set "east" eastKey).set "west" westKey

/-- The request of a sensor with an event, signed with its key. -/
def benchRequest (key : SensorKey) (event : HostOtEvent) : IngressRequest where
  body := canonicalDocument event.toJson
  keyId := some key.keyId
  timestamp := some "0"
  signature := some (plainDigest (Nat.digitChar (key.secret.headD 0).toNat))

/-- The addresses of the bench. -/
theorem bench_isAddress {text : String} (known : text ∈ ["10.0.0.2", "10.0.0.9"]) :
    IsAddress benchDialect text := by
  have format : benchDialect.format "ipv4" text = true := decide_eq_true known
  have other : benchDialect.format "ipv6" text = false := by simp [benchDialect]
  simp [IsAddress, format, other]

variable {bootId sensorId : String} {revision : Nat}

/-- The events of the bench are shaped. -/
theorem benchEvent_shaped (boot : IsIdentifier bootId) (identifier : IsIdentifier sensorId)
    (positive : 1 ≤ revision) : (benchEvent bootId sensorId revision).Shaped benchDialect where
  schemaVersion := rfl
  eventId := (by decide : IsIdentifier "episode")
  episodeId := (by decide : IsIdentifier "episode")
  revision := positive
  bootId := boot
  firstObservedAt := rfl
  lastObservedAt := rfl
  timestampBasis := rfl
  sensor := ⟨identifier, (by decide : LengthIn 1 64 "1"), by simp [benchEvent]⟩
  source := ⟨bench_isAddress (by simp [benchEvent]), by simp [benchEvent]⟩
  destination := by
    intro destination member
    rw [← Option.some.inj member]
    exact ⟨by decide, bench_isAddress (by simp), rfl, by decide, by decide⟩
  modbus := by
    intro modbus member
    rw [← Option.some.inj member]
    refine ⟨rfl, ⟨by decide, by decide⟩, ⟨by decide, by decide, ?_⟩, by decide⟩
    intro bucket inside
    rw [List.mem_singleton.mp inside]
    exact ⟨by decide, by decide, by decide, by decide, by decide, by decide⟩
  detection := by
    intro detection member
    rw [← Option.some.inj member]
    exact ⟨by decide, rfl, by decide⟩
  evidence := ⟨rfl, (by decide : IsIdentifier "episode"), Nat.zero_le _,
    by simp [benchEvent]⟩
  process := by simp [benchEvent]
  byType := by simp [benchEvent, HostOtEvent.TypeShaped]

/-- The events of the bench are as small as those of a sensor. -/
theorem benchEvent_compact (bootId sensorId : String) (revision : Nat) :
    (benchEvent bootId sensorId revision).Compact where
  writes := by simp [benchEvent]
  functionCodes := by simp [benchEvent]
  reason := by
    simp only [benchEvent, Option.mem_some_iff, forall_eq']
    decide
  notes := by simp [benchEvent]
  times := by
    simp only [benchEvent]
    decide
  addresses := by
    simp only [benchEvent, Option.mem_some_iff, forall_eq']
    decide
  process := rfl

/-- The numbers of the events of the bench can be written. -/
theorem benchEvent_numbers (shaped : (benchEvent bootId sensorId revision).Shaped benchDialect)
    (small : revision < 10) :
    (benchEvent bootId sensorId revision).toJson.IntegersBelow (10 ^ maxIntegerDigits) := by
  have digits : 10 ^ 1 ≤ 10 ^ maxIntegerDigits := Nat.pow_le_pow_right (by decide) (by decide)
  have one : Writable 1 := by unfold Writable; omega
  have zero : Writable 0 := by unfold Writable; omega
  have own : Writable revision := by unfold Writable; omega
  apply (integersBelow_event shaped rfl rfl rfl).mpr
  refine ⟨one, own, ⟨zero, one, ?_⟩, one, zero, zero⟩
  intro bucket member
  rw [List.mem_singleton.mp member]
  exact one

/-- The boot, the sensor and the revision of an event have no part in its meaning. -/
theorem semanticErrors_with (parseTime : String → ParsedTime) (event : HostOtEvent)
    (bootId : String) (sensor : SensorIdentity) (revision : Nat) :
    semanticErrors parseTime
        { event with bootId := bootId, sensor := sensor, revision := revision } =
      semanticErrors parseTime event := rfl

/-- The events of the bench differ in their boots, sensors and revisions. -/
theorem benchEvent_eq (bootId sensorId : String) (revision : Nat) :
    benchEvent bootId sensorId revision = { benchEvent "" "" 0 with
      bootId := bootId, sensor := ⟨sensorId, "1", "server_hook"⟩, revision := revision } := rfl

/-- The receiver of the bench validates its events. -/
theorem benchEvent_validated (boot : IsIdentifier bootId) (identifier : IsIdentifier sensorId)
    (clearBoot : ClearText bootId) (clear : ClearText sensorId) (positive : 1 ≤ revision)
    (small : revision < 10) :
    Validated benchReceiver (benchEvent bootId sensorId revision).toJson := by
  have shaped := benchEvent_shaped boot identifier positive
  have numbers := benchEvent_numbers shaped small
  refine (validated_toJson_iff benchReceiver _).mpr ⟨numbers, ?_, shaped, ?_, ?_, ?_⟩
  · exact documentBytes_le shaped (benchEvent_compact bootId sensorId revision) rfl rfl rfl rfl
      numbers
  · have inside : benchReceiver.parseTime "2026-01-01T00:00:00+00:00" ≠ .outside ∧
        benchReceiver.parseTime "2026-01-01T00:00:01+00:00" ≠ .outside := by
      decide
    exact not_or.mpr inside
  · rw [benchEvent_eq, semanticErrors_with]
    decide
  · have split : (benchEvent bootId sensorId revision).texts =
        bootId :: ((benchEvent "" "" 0).texts.drop 1).take 15 ++
          sensorId :: (benchEvent "" "" 0).texts.drop 17 := rfl
    have others : ∀ text ∈ ((benchEvent "" "" 0).texts.drop 1).take 15 ++
        (benchEvent "" "" 0).texts.drop 17, ClearText text := by
      simp only [benchEvent, HostOtEvent.texts, Option.toList_some, Option.toList_none,
        List.flatMap_cons, List.flatMap_nil, List.cons_append, List.nil_append, List.append_nil,
        List.map_cons, List.map_nil, List.drop_succ_cons, List.drop_zero, List.take_succ_cons,
        List.take_zero, List.forall_mem_cons, List.not_mem_nil, false_imp_iff, implies_true,
        and_true, ClearText, plainDigest, String.reduceToList, String.toList_ofList]
      decide
    rw [List.forall_mem_append] at others
    rw [clear_toJson_iff, split, List.forall_mem_append, List.forall_mem_cons,
      List.forall_mem_cons]
    exact ⟨⟨clearBoot, others.1⟩, clear, others.2⟩

/-- The write of the bench, in a document. -/
def benchBucket : WriteBucket := ⟨.writeSingleRegister, 40, 1, [7], plainDigest '0', false, 1⟩

/-- The writes of the bench shut nothing down. -/
theorem benchEvent_notShutdown (bootId sensorId : String) (revision : Nat) :
    isShutdownDocument (benchEvent bootId sensorId revision).toJson = false := by
  rw [isShutdownDocument_toJson]
  have same : isShutdownSequence (benchEvent bootId sensorId revision) =
      isShutdownSequence (benchEvent "" "" 0) := rfl
  rw [same]
  decide

/-- The path of the writes of the bench. -/
theorem benchEvent_path (bootId sensorId : String) (revision : Nat) :
    sourcePathLabel (benchEvent bootId sensorId revision).toJson = "sorgente sconosciuta→PLC" := by
  obtain ⟨ip, classification, _⟩ := source_toJson (benchEvent bootId sensorId revision)
  have target := (@destination_toJson (benchEvent bootId sensorId revision) _ rfl).1
  rw [sourcePathLabel, classification, ip, target]
  show (if "unknown" = "plc_self" ∨ "10.0.0.9" = "10.0.0.2" then "PLC→PLC"
    else if "unknown" = "security_test" then "Kali/test di sicurezza→PLC"
    else if "unknown" = "authorized_hmi" then "HMI autorizzata→PLC"
    else "sorgente sconosciuta→PLC") = _
  decide

/-- What the signal of a document shows. -/
theorem hostOtSignal_shows (platform : ReceiverPlatform) (document : Json) :
    (hostOtSignal platform document).title =
        eventTitle document (isShutdownDocument document) ∧
      (hostOtSignal platform document).description =
        eventDescription platform document (isShutdownDocument document) ∧
      (hostOtSignal platform document).severity =
        if isShutdownDocument document then "critical" else "high" :=
  ⟨rfl, rfl, rfl⟩

/-- The title of the signals of the bench. -/
theorem benchEvent_title (bootId sensorId : String) (revision : Nat) :
    (hostOtSignal benchReceiver (benchEvent bootId sensorId revision).toJson).title =
      "Scrittura Modbus sorgente sconosciuta→PLC rilevata" := by
  rw [(hostOtSignal_shows _ _).1, benchEvent_notShutdown, eventTitle, benchEvent_path]
  rfl

/-- The description of a document with one write from a source without a port. -/
theorem eventDescription_single {platform : ReceiverPlatform} {document bucket : Json}
    {pair : String} {codes : List Json}
    (writes : itemsAt ["modbus", "writes"] document = [bucket])
    (pairs : registerPairs platform bucket = [pair])
    (port : memberAt ["source", "port"] document = some .null)
    (listed : itemsAt ["modbus", "function_codes"] document = codes) :
    eventDescription platform document false =
      "Rilevata " ++ "scrittura Modbus" ++ " " ++ sourcePathLabel document ++ " da " ++
        textAt ["source", "ip"] document ++ " verso " ++ textAt ["destination", "ip"] document ++
        ":502, Unit ID " ++ strOf platform (memberAt ["destination", "unit_id"] document) ++
        ", FC " ++ ",".intercalate (codes.map platform.store.str) ++ ", registri " ++
        ", ".intercalate [pair] ++ ". Stato evidenza: " ++ textAt ["evidence", "truth"] document ++
        "." := by
  unfold eventDescription
  rw [writes, port, listed, List.flatMap_singleton, pairs]
  rfl

/-- The description of the signals of the bench. -/
def benchDescription : String :=
  "Rilevata scrittura Modbus sorgente sconosciuta→PLC da 10.0.0.9 verso 10.0.0.2:502, " ++
    "Unit ID 1, FC 6, registri 40=7. Stato evidenza: endpoint_server_processed."

/-- The description of the signal of an event. -/
theorem benchEvent_description (bootId sensorId : String) (revision : Nat) :
    eventDescription benchReceiver (benchEvent bootId sensorId revision).toJson false =
      benchDescription := by
  have sources := source_toJson (benchEvent bootId sensorId revision)
  have targets := @destination_toJson (benchEvent bootId sensorId revision) _ rfl
  have source : textAt ["source", "ip"] (benchEvent bootId sensorId revision).toJson =
      "10.0.0.9" := sources.1
  have port : memberAt ["source", "port"] (benchEvent bootId sensorId revision).toJson =
      some .null := sources.2.2
  have target : textAt ["destination", "ip"] (benchEvent bootId sensorId revision).toJson =
      "10.0.0.2" := targets.1
  have unit : memberAt ["destination", "unit_id"] (benchEvent bootId sensorId revision).toJson =
      some (.int 1) := targets.2
  have codes : itemsAt ["modbus", "function_codes"]
      (benchEvent bootId sensorId revision).toJson =
        [FunctionCode.writeSingleRegister].map fun code => .int code.number :=
    @functionCodes_toJson (benchEvent bootId sensorId revision) _ rfl
  have writes : itemsAt ["modbus", "writes"] (benchEvent bootId sensorId revision).toJson =
      [benchBucket.toJson] := writes_toJson _
  have pairs : registerPairs benchReceiver benchBucket.toJson = ["40=7"] := rfl
  have truth : textAt ["evidence", "truth"] (benchEvent bootId sensorId revision).toJson =
      "endpoint_server_processed" := truth_toJson _
  rw [eventDescription_single writes pairs port codes, source, target, unit, truth,
    benchEvent_path]
  rfl

set_option maxRecDepth 2000 in
/-- The store of the bench takes the signals of its events as they are. -/
theorem benchEvent_plain (bootId sensorId : String) (revision : Nat) :
    (hostOtSignal benchReceiver (benchEvent bootId sensorId revision).toJson).Plain
      benchReceiver.store where
  fingerprint := benchDigest_hex _
  snapshotSha256 := benchDigest_hex _
  signalType := requiredText_hostOtSignalType
  sourceId := by
    have text : evidenceText benchReceiver.store
        (hostOtSignal benchReceiver (benchEvent bootId sensorId revision).toJson).evidence
          "source_id" = some hostOtSourceId := rfl
    rw [text]
    exact optionalText_hostOtSourceId
  sourceRecordId := by
    have text : evidenceText benchReceiver.store
        (hostOtSignal benchReceiver (benchEvent bootId sensorId revision).toJson).evidence
          "source_record_id" = some "episode" := rfl
    rw [text]
    decide
  severity := by
    have text : (hostOtSignal benchReceiver
        (benchEvent bootId sensorId revision).toJson).severity = "high" := by
      rw [(hostOtSignal_shows _ _).2.2, benchEvent_notShutdown]
      rfl
    rw [text]
    decide
  lowered := by
    have text : (hostOtSignal benchReceiver
        (benchEvent bootId sensorId revision).toJson).severity = "high" := by
      rw [(hostOtSignal_shows _ _).2.2, benchEvent_notShutdown]
      rfl
    rw [text]
    decide
  title := by
    rw [benchEvent_title]
    apply requiredText_ofList <;> decide
  description := by
    rw [(hostOtSignal_shows _ _).2.1, benchEvent_notShutdown, benchEvent_description]
    unfold benchDescription
    simp only [String.reduceAppend]
    apply requiredText_ofList <;> decide
  occurredAt := by
    have same : (hostOtSignal benchReceiver
        (benchEvent bootId sensorId revision).toJson).occurredAt =
          some "2026-01-01T00:00:00+00:00" := rfl
    rw [same]
    apply optionalText_of_required
    apply requiredText_ofList "" <;> decide
  observedAt := by
    have same : (hostOtSignal benchReceiver
        (benchEvent bootId sensorId revision).toJson).observedAt =
          "2026-01-01T00:00:01+00:00" := rfl
    rw [same]
    apply requiredText_ofList <;> decide
  assetIds := by
    have same : (hostOtSignal benchReceiver
        (benchEvent bootId sensorId revision).toJson).assetIds = ["plc"] := rfl
    rw [same]
    decide
  recommendedAction := by
    simp only [hostOtSignal, String.reduceAppend]
    apply optionalText_of_required
    apply requiredText_ofList "" <;> decide

/-- The keys of the bench authenticate its requests. -/
theorem authentic_bench {key : SensorKey} (event : HostOtEvent) (known : key ∈ [eastKey, westKey]) :
    verifyRequestAuth benchIngress benchConfig benchKeys 0 (benchRequest key event) = .ok key := by
  have bodiless : verifyRequestAuth benchIngress benchConfig benchKeys 0 (benchRequest key event) =
      verifyRequestAuth benchIngress benchConfig benchKeys 0
        ⟨[], some key.keyId, some "0",
          some (plainDigest (Nat.digitChar (key.secret.headD 0).toNat))⟩ := rfl
  have both : ∀ key ∈ [eastKey, westKey], verifyRequestAuth benchIngress benchConfig benchKeys 0
      ⟨[], some key.keyId, some "0",
        some (plainDigest (Nat.digitChar (key.secret.headD 0).toNat))⟩ = .ok key := by
    decide
  rw [bodiless]
  exact both key known

/-- A sensor of the bench is admitted with an event that its receiver validates. -/
theorem admission_bench {key : SensorKey} (known : key ∈ [eastKey, westKey])
    (valid : Validated benchReceiver (benchEvent bootId key.sensorId revision).toJson) :
    admission benchIngress benchConfig benchKeys 0
        (benchRequest key (benchEvent bootId key.sensorId revision)) =
      .ok (key, (benchEvent bootId key.sensorId revision).toJson) := by
  have storable : Storable id (benchEvent bootId key.sensorId revision).toJson := storable_event _
  have validated : Validated benchIngress.receiver
    (benchEvent bootId key.sensorId revision).toJson := valid
  exact admission_canonical validated storable.1 storable.2 rfl valid.within rfl
    (authentic_bench _ known)

/-- The store of the bench checks the signal of an event without a fault. -/
theorem benchEvent_checked (bootId sensorId : String) (revision : Nat) :
    ∃ checked, checkSignal benchReceiver.store
      (hostOtSignal benchReceiver (benchEvent bootId sensorId revision).toJson) = .ok checked :=
  ⟨_, checkSignal_of_plain (benchEvent_plain bootId sensorId revision)⟩

/-- The write that the east of the bench reports. -/
def eastWrite : Json := (benchEvent "a" "sensor-east" 1).toJson

/-- The write that the west reports in the same episode. -/
def westWrite : Json := (benchEvent "b" "sensor-westward" 2).toJson

/-- The request of the east, and its steps up to its write. -/
def eastReports : List (IngressAction Nat) :=
  [.request 0 (benchRequest eastKey (benchEvent "a" "sensor-east" 1)),
    .advance 0 (shiftContext 0) "now", .advance 0 (shiftContext 0) "now",
    .advance 0 (shiftContext 0) "now"]

/-- The request of the west behind that of the east, and its steps up to its write. -/
def westReports : List (IngressAction Nat) :=
  [.request 0 (benchRequest westKey (benchEvent "b" "sensor-westward" 2)),
    .advance 1 (shiftContext 1) "now", .advance 1 (shiftContext 1) "now",
    .advance 1 (shiftContext 1) "now"]

/-- The boots and sensors of the bench, with revisions that they report. -/
def benchReports : List (String × String × Nat) :=
  [("a", "sensor-east", 1), ("b", "sensor-westward", 2), ("b", "sensor-east", 2)]

/-- The texts of the reports are identifiers and no credentials, and boots have their digests. -/
theorem benchReports_sound :
    (∀ report ∈ benchReports, IsIdentifier report.1 ∧ IsIdentifier report.2.1 ∧
      ClearText report.1 ∧ ClearText report.2.1 ∧ 1 ≤ report.2.2 ∧ report.2.2 < 10) ∧
    documentSha256 benchReceiver (benchEvent "a" "sensor-east" 1).toJson ∉
      [documentSha256 benchReceiver (benchEvent "b" "sensor-westward" 2).toJson,
        documentSha256 benchReceiver (benchEvent "b" "sensor-east" 2).toJson] := by
  constructor
  · simp only [benchReports, List.forall_mem_cons, List.not_mem_nil, false_imp_iff, implies_true,
      and_true, ClearText, String.reduceToList]
    decide
  · rw [List.mem_cons, List.mem_singleton, not_or]
    constructor <;> decide

/-- The receiver of the bench validates the reports. -/
theorem benchReports_validated (report : (bootId, sensorId, revision) ∈ benchReports) :
    Validated benchReceiver (benchEvent bootId sensorId revision).toJson := by
  obtain ⟨boot, identifier, clearBoot, clear, positive, small⟩ := benchReports_sound.1 _ report
  exact benchEvent_validated boot identifier clearBoot clear positive small

/-- The receiver validates the write of the east. -/
theorem eastWrite_validated : Validated benchReceiver eastWrite :=
  benchReports_validated (by simp [benchReports])

/-- The receiver validates the write of the west. -/
theorem westWrite_validated : Validated benchReceiver westWrite :=
  benchReports_validated (by simp [benchReports])

/-- The write of the east is no heartbeat. -/
theorem eastWrite_type : textAt ["event_type"] eastWrite ≠ "heartbeat" := by
  have type : textAt ["event_type"] eastWrite = "modbus_write" := rfl
  rw [type]
  decide

/-- The write of the west is no heartbeat. -/
theorem westWrite_type : textAt ["event_type"] westWrite ≠ "heartbeat" := by
  have type : textAt ["event_type"] westWrite = "modbus_write" := rfl
  rw [type]
  decide

/-- The two writes have different digests. -/
theorem writes_differ :
    documentSha256 benchReceiver eastWrite ≠ documentSha256 benchReceiver westWrite :=
  List.ne_of_not_mem_cons benchReports_sound.2

/-- The request of the east is admitted. -/
theorem admission_east : admission benchIngress benchConfig benchKeys 0
    (benchRequest eastKey (benchEvent "a" "sensor-east" 1)) =
      .ok (eastKey, eastWrite) :=
  admission_bench (by simp) eastWrite_validated

/-- The request of the west is admitted. -/
theorem admission_west : admission benchIngress benchConfig benchKeys 0
    (benchRequest westKey (benchEvent "b" "sensor-westward" 2)) =
      .ok (westKey, westWrite) :=
  admission_bench (by simp) westWrite_validated

/-- A new database has no signal that could fail the guard. -/
theorem passes_empty (document : Json) : ∀ row ∈ (TicketStore.empty : TicketStore Nat).signalOf
    (hostOtFingerprint benchIngress.receiver document),
    revisionErrors benchIngress.receiver row document = [] := by
  intro row member
  cases member

omit [DecidableEq τ] in
/-- Without signals every write is its own. -/
theorem IngressWorld.ownWrites_of_empty (empty : world.store.signals = [])
    (action : IngressAction τ) : world.OwnWrites platform action := by
  have nobody : ∀ fingerprint, world.store.signalOf fingerprint = none := by
    intro fingerprint
    rw [TicketStore.signalOf, empty]
    rfl
  have unknown : ∀ id, world.store.signalById id = none := by
    intro id
    rw [TicketStore.signalById, empty]
    rfl
  cases action with
  | advance index context receivedAt =>
    intro call _
    split
    · simp [nobody]
    · simp [nobody]
    · simp [unknown]
    · trivial
  | operate context call => trivial
  | request now request => trivial
  | fail index message => trivial
  | crash => trivial

omit [DecidableEq τ] in
/-- What the signal of the east shows: its sensor and its revision. -/
theorem eastRow_fields {row : SignalRow τ} (payload : row.payload = eventPayload eastWrite) :
    row.sensor = some (.str "sensor-east") ∧ row.storedRevision = some 1 := by
  constructor
  · rw [SignalRow.sensor, SignalRow.event, payload]
    rfl
  · rw [SignalRow.storedRevision, SignalRow.event, payload]
    rfl

omit [DecidableEq τ] in
/-- Revision two of the west passes the guard against the signal of the east. -/
theorem revisionErrors_west {row : SignalRow τ} (payload : row.payload = eventPayload eastWrite) :
    revisionErrors benchIngress.receiver row westWrite = [] := by
  have incoming : documentRevision benchIngress.receiver westWrite = some 2 := rfl
  simp [revisionErrors, (eastRow_fields payload).2, incoming]

/-- A condition of the actions of the east on a new database is met along its reports. -/
theorem keeps_eastReports {condition : IngressWorld Nat → IngressAction Nat → Prop}
    (meets : ∀ world, world.store = .empty → ∀ action ∈ eastReports, condition world action) :
    System.Keeps (IngressWorld.step benchIngress benchConfig benchKeys) condition
      (.start (TicketStore.after benchIngress.receiver.store [])) eastReports := by
  obtain ⟨checked, passed⟩ : ∃ checked, checkSignal benchIngress.receiver.store
      (hostOtSignal benchIngress.receiver eastWrite) = .ok checked :=
    benchEvent_checked "a" "sensor-east" 1
  apply System.Keeps.cons (meets _ rfl _ (by simp [eastReports]))
    (IngressWorld.step_request admission_east rfl)
  apply System.Keeps.cons (meets _ rfl _ (by simp [eastReports]))
    (IngressWorld.step_places [] eastWrite_validated eastWrite_type)
  apply System.Keeps.cons (meets _ rfl _ (by simp [eastReports]))
    (IngressWorld.step_guards [] (passes_empty eastWrite))
  obtain ⟨stats, taken⟩ := @IngressWorld.step_upserts Nat benchIngress benchConfig benchKeys
    (shiftContext 0) "now" _ .empty
    (Dict.empty.set (documentSha256 benchReceiver eastWrite) (canonicalDocument eastWrite))
    Dict.empty "sensor-east" eastWrite true checked [] passed
  exact System.Keeps.cons (meets _ rfl _ (by simp [eastReports])) taken trivial

/-! ## Isolation -/

end DTLab
