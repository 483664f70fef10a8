import DTLab.Library.Dict
import DTLab.Library.JsonRoundTrip
import DTLab.Library.Lines
import DTLab.Library.System
import DTLab.Receiver.Ingest
import DTLab.Spool.Envelope
import DTLab.Tickets.Links

/-!
# The ingress

`HostOtIngressApplication`: its keyring, the authentication of a request, and `accept` as the
sequence of what it writes, beside any number of other requests, operators and collectors. A
request may fail between two of its steps, and a crash ends all of them.
-/

namespace DTLab

open Library (Json Text FloatLiteral Dict System.run System.run_cons)
open Library.Json (loads)

/-- What the ingress takes from its surroundings. -/
structure IngressPlatform where
  receiver : ReceiverPlatform
  /-- The double that a float literal reads as. -/
  rounding : FloatLiteral → FloatLiteral
  /-- `base64.b64decode` with validation. -/
  decodeBase64 : String → Option (List UInt8)
  /-- The hexadecimal HMAC-SHA256 of a text under a secret. -/
  hmacSha256 : List UInt8 → Text → String
  /-- `int` of a text. -/
  readInt : String → Option Int

/-- `SensorKey`. -/
structure SensorKey where
  keyId : String
  sensorId : String
  secret : List UInt8
  deriving DecidableEq

/-- The limits of `HostOtIngressConfig`. -/
structure IngressConfig where
  maxBodyBytes : Nat := 65536
  maxClockSkewSeconds : Int := 300

/-- A request: its body and the headers that `accept` reads. -/
structure IngressRequest where
  body : Text
  keyId : Option String
  timestamp : Option String
  signature : Option String

variable (platform : IngressPlatform)

/-- `str(value or "")`. -/
def shownOrBlank (value : Option Json) : String :=
  match value with
  | none => ""
  | some value => if isFalsy value then "" else platform.receiver.store.str value

/-- `_required_text`. -/
def ingressText (label : String) (maxLength : Nat) (value : Option Json) :
    Except ReceiverFault String :=
  let text := strip (shownOrBlank platform value)
  if text = "" ∨ maxLength < text.length then .error (.ingress (label ++ " non valido"))
  else .ok text

/-! ## The keyring -/

/-- One record of the keyring file. -/
def loadSensorKey (keys : Dict String SensorKey) (record : Json) :
    Except ReceiverFault (Dict String SensorKey) :=
  if record.isObject = false then .error (.ingress "Record keyring non valido")
  else do
    let keyId ← ingressText platform "key_id" 128 (record.get "key_id")
    let sensorId ← ingressText platform "sensor_id" 128 (record.get "sensor_id")
    let encoded ← ingressText platform "secret_base64" 1024 (record.get "secret_base64")
    match platform.decodeBase64 encoded with
    | none => .error (.ingress "Chiave sensore non codificata in base64")
    | some secret =>
      if secret.length < 32 then
        .error (.ingress "La chiave sensore deve contenere almeno 256 bit")
      else if (keys.get? keyId).isSome then .error (.ingress "key_id duplicato nel keyring")
      else .ok (keys.set keyId ⟨keyId, sensorId, secret⟩)

/-- `load_sensor_keys` on the payload of a file that can be read. -/
def loadSensorKeys (payload : Json) : Except ReceiverFault (Dict String SensorKey) :=
  match payload.get "keys" with
  | some (.arr (first :: rest)) => (first :: rest).foldlM (loadSensorKey platform) Dict.empty
  | _ => .error (.ingress "Il keyring non contiene chiavi sensore")

/-! ## Authentication -/

/-- `verify_request_auth`. -/
def verifyRequestAuth (config : IngressConfig) (keys : Dict String SensorKey) (now : Int)
    (request : IngressRequest) : Except ReceiverFault SensorKey := do
  let keyId ← ingressText platform "X-DTLab-Key-Id" 128 (request.keyId.map .str)
  match keys.get? keyId with
  | none => .error (.ingress "Credenziale sensore non riconosciuta")
  | some key =>
    let timestamp ← ingressText platform "X-DTLab-Timestamp" 20 (request.timestamp.map .str)
    match platform.readInt timestamp with
    | none => .error (.ingress "Timestamp firma non valido")
    | some value =>
      if config.maxClockSkewSeconds < |now - value| then
        .error (.ingress "Timestamp firma fuori tolleranza")
      else
        let signature ←
          ingressText platform "X-DTLab-Signature" 128 (request.signature.map .str)
        let supplied := platform.receiver.store.lower signature
        if isDigestBody supplied.toList = false then .error (.ingress "Firma HMAC non valida")
        else if Library.isAscii timestamp.toList = false then
          .error (.value "ordinal not in range(128)")
        else if supplied ≠
            platform.hmacSha256 key.secret (timestamp.toList ++ '\n' :: request.body) then
          .error (.ingress "Firma HMAC non valida")
        else .ok key

/-- `accept` up to the store of the body: the key of the request and the event. -/
def admission (config : IngressConfig) (keys : Dict String SensorKey) (now : Int)
    (request : IngressRequest) : Except ReceiverFault (SensorKey × Json) :=
  if request.body = [] ∨ config.maxBodyBytes < Library.textCost Char.utf8Size request.body then
    .error (.ingress "Dimensione evento non valida")
  else do
    let key ← verifyRequestAuth platform config keys now request
    match loads platform.rounding request.body with
    | none => .error (.ingress "Il body non è JSON UTF-8 valido")
    | some event =>
      if event.isObject = false then .error (.ingress "L'evento deve essere un oggetto JSON")
      else if shownOrBlank platform (memberAt ["sensor", "id"] event) ≠ key.sensorId then
        .error (.ingress "sensor_id non coerente con la chiave usata")
      else do
        validateHostOtEvent platform.receiver event
        if request.body ≠ canonicalDocument event then
          .error (.ingress "Il body deve usare il JSON canonico DTLab")
        else .ok (key, event)

/-! ## Requests in progress -/

/-- The status that `store_sensor_status` writes for a sensor. -/
structure SensorStatus where
  sensorId : String
  receivedAt : String
  eventType : String
  eventId : String
  lastObservedAt : String
  truth : String
  documentSha256 : String
  deriving DecidableEq

/-- The status for an event. -/
def sensorStatus (sensorId receivedAt : String) (event : Json) : SensorStatus where
  sensorId := sensorId
  receivedAt := receivedAt
  eventType := shownOrBlank platform (event.get "event_type")
  eventId := shownOrBlank platform (event.get "event_id")
  lastObservedAt := shownOrBlank platform (event.get "last_observed_at")
  truth := shownOrBlank platform (memberAt ["evidence", "truth"] event)
  documentSha256 := documentSha256 platform.receiver event

variable {τ : Type}

/-- A call of `accept` between two of the things it writes. -/
inductive AcceptRun (τ : Type) where
  /-- The body was not there and is about to be placed. -/
  | placing
  | ingesting (stored : Bool) (run : IngestRun τ)
  /-- The status of the sensor is next. -/
  | recording (stored : Bool) (result : HostOtIngestResult)
  | answered (stored : Bool) (result : HostOtIngestResult)
  | refused (fault : ReceiverFault)

/-- A call behind a transaction of its ingest. -/
def AcceptRun.ofIngest (stored : Bool) : IngestRun τ → AcceptRun τ
  | .returned result => .recording stored result
  | .raised fault => .refused fault
  | run => .ingesting stored run

/-- A call of `accept` with the sensor of its key and its event. -/
structure IngressCall (τ : Type) where
  sensorId : String
  event : Json
  run : AcceptRun τ

/-- The ticket store, the objects and the statuses of the ingress, and the calls in progress. -/
structure IngressWorld (τ : Type) where
  store : TicketStore τ
  /-- The bodies under `objects`, by their digests. -/
  objects : Dict String Text
  /-- The statuses, by their sensors. -/
  statuses : Dict String SensorStatus
  calls : List (IngressCall τ)

/-- What happens at the ingress and at its store. -/
inductive IngressAction (τ : Type) where
  /-- Any operation of the ticket store, by an operator or a collector. -/
  | operate (context : CallContext τ) (call : StoreCall)
  /-- A request arrives, and `accept` looks for its body. -/
  | request (now : Int) (request : IngressRequest)
  /-- A call of `accept` writes what it writes next. -/
  | advance (index : Nat) (context : CallContext τ) (receivedAt : String)
  /-- A call of `accept` raises because a file or the database fails. -/
  | fail (index : Nat) (message : String)
  /-- The process ends, with the calls in progress. -/
  | crash

/-- `accept` where it looks for the body among the objects. -/
def AcceptRun.enter (objects : Dict String Text) (event : Json) : AcceptRun τ :=
  let digest := documentSha256 platform.receiver event
  match objects.get? digest with
  | none => .placing
  | some body =>
    if body ≠ canonicalDocument event then
      .refused (.ingress "Collisione nel content-addressed event store")
    else .ofIngest false (.start platform.receiver event (some digest))

/-- What a call of `accept` writes next. -/
def AcceptRun.step (world : IngressWorld τ) (context : CallContext τ) (receivedAt : String)
    (call : IngressCall τ) : AcceptRun τ × IngressWorld τ :=
  match call.run with
  | .placing =>
    let digest := documentSha256 platform.receiver call.event
    (.ofIngest true (.start platform.receiver call.event (some digest)),
      { world with objects := world.objects.set digest (canonicalDocument call.event) })
  | .ingesting stored run =>
    let next := run.step platform.receiver context world.store call.event
    (.ofIngest stored next.1, { world with store := next.2 })
  | .recording stored result =>
    let status := sensorStatus platform call.sensorId receivedAt call.event
    (.answered stored result,
      { world with statuses := world.statuses.set call.sensorId status })
  | .answered stored result => (.answered stored result, world)
  | .refused fault => (.refused fault, world)

variable (config : IngressConfig) (keys : Dict String SensorKey)

/-- The call that a request becomes. -/
def IngressCall.admitted (objects : Dict String Text) (now : Int) (request : IngressRequest) :
    Except ReceiverFault (IngressCall τ) :=
  (admission platform config keys now request).map fun admitted =>
    ⟨admitted.1.sensorId, admitted.2, .enter platform objects admitted.2⟩

/-- The step of an action, where it is possible. -/
def IngressWorld.step [DecidableEq τ] (world : IngressWorld τ) :
    IngressAction τ → Option (IngressWorld τ)
  | .operate context call =>
    some { world with store := call.apply platform.receiver.store context world.store }
  | .request now request =>
    match IngressCall.admitted platform config keys world.objects now request with
    | .error _ => some world
    | .ok call => some { world with calls := world.calls ++ [call] }
  | .advance index context receivedAt =>
    world.calls[index]?.map fun call =>
      let next := AcceptRun.step platform world context receivedAt call
      { next.2 with calls := world.calls.set index { call with run := next.1 } }
  | .fail index message =>
    world.calls[index]?.map fun call =>
      { world with calls := world.calls.set index { call with run := .refused (.value message) } }
  | .crash => some { world with calls := [] }

/-- An ingress with a database and nothing else. -/
def IngressWorld.start (store : TicketStore τ) : IngressWorld τ :=
  ⟨store, Dict.empty, Dict.empty, []⟩

/-! ## Honest requests -/

/-- The text at a path, as `str(value or "")` shows it. -/
theorem shownOrBlank_text (platform : IngressPlatform) (text : String) :
    shownOrBlank platform (some (.str text)) = text := by
  by_cases blank : text = "" <;>
    simp [shownOrBlank, isFalsy, blank, platform.receiver.store.str_text]

/-- A request with the canonical text of a document that is validated, authenticated by the key of
the sensor that the document names, is admitted. -/
theorem admission_canonical {platform : IngressPlatform} {config : IngressConfig}
    {keys : Dict String SensorKey} {now : Int} {request : IngressRequest} {key : SensorKey}
    {document : Json} (valid : Validated platform.receiver document)
    (formed : Library.Json.WellFormed document)
    (fixed : Library.Json.FixedBy platform.rounding document)
    (body : request.body = canonicalDocument document)
    (within : Library.textCost Char.utf8Size request.body ≤ config.maxBodyBytes)
    (named : memberAt ["sensor", "id"] document = some (.str key.sensorId))
    (authentic : verifyRequestAuth platform config keys now request = .ok key) :
    admission platform config keys now request = .ok (key, document) := by
  have filled : canonicalDocument document ≠ [] := by simp [canonicalDocument]
  have read : loads platform.rounding (canonicalDocument document) = some document :=
    Library.Json.loads_line false formed fixed
  have validated := validateHostOtEvent_eq_ok.mpr valid
  rw [body] at within
  simp only [admission, body, filled, Nat.not_lt.mpr within, false_or, if_false, authentic, bind,
    Except.bind, read, valid.isObject, named, shownOrBlank_text, ne_eq, not_true,
    validated, Bool.true_eq_false]

section Steps

variable {platform : IngressPlatform} {config : IngressConfig} {keys : Dict String SensorKey}
  {world : IngressWorld τ} {index : Nat} {context : CallContext τ} {receivedAt : String}
  {call : IngressCall τ}

/-- The body of a write is placed, and its ingest is at the guard. -/
theorem AcceptRun.step_placing (placing : call.run = .placing)
    (valid : Validated platform.receiver call.event)
    (write : textAt ["event_type"] call.event ≠ "heartbeat") :
    AcceptRun.step platform world context receivedAt call =
      (.ingesting true .guarding,
        { world with objects := world.objects.set (documentSha256 platform.receiver call.event)
                      (canonicalDocument call.event) }) := by
  rw [step, placing]
  simp only [IngestRun.start_write valid write]
  rfl

/-- A transaction of an ingest. -/
theorem AcceptRun.step_ingesting {stored : Bool} {run : IngestRun τ}
    (ingesting : call.run = .ingesting stored run) :
    AcceptRun.step platform world context receivedAt call =
      (.ofIngest stored (run.step platform.receiver context world.store call.event).1,
        { world with store := (run.step platform.receiver context world.store call.event).2 }) := by
  rw [step, ingesting]

variable [DecidableEq τ]

/-- A request that is admitted and whose body is not there waits to place it. -/
theorem IngressWorld.step_request {now : Int} {request : IngressRequest} {key : SensorKey}
    {document : Json} (admitted : admission platform config keys now request = .ok (key, document))
    (fresh : world.objects.get? (documentSha256 platform.receiver document) = none) :
    world.step platform config keys (.request now request) =
      some { world with calls := world.calls ++ [⟨key.sensorId, document, .placing⟩] } := by
  simp [step, IngressCall.admitted, admitted, Except.map, AcceptRun.enter, fresh]

/-- A call that waits takes its step. -/
theorem IngressWorld.step_waiting (waits : world.calls[index]? = some call) :
    world.step platform config keys (.advance index context receivedAt) =
      some { (AcceptRun.step platform world context receivedAt call).2 with
        calls := world.calls.set index
          { call with run := (AcceptRun.step platform world context receivedAt call).1 } } := by
  rw [step, waits]
  rfl

/-- A call at its write whose signal passes the checks upserts it. -/
theorem IngressWorld.step_writes {stored : Bool} {checked : CheckedSignal}
    (waits : world.calls[index]? = some call) (ingesting : call.run = .ingesting stored .ingesting)
    (passed : checkSignal platform.receiver.store (hostOtSignal platform.receiver call.event) =
      .ok checked) :
    ∃ next, world.step platform config keys (.advance index context receivedAt) = some next ∧
      next.store =
        (world.store.upsertChecked platform.receiver.store context.now checked).1 := by
  refine ⟨_, step_waiting waits, ?_⟩
  rw [AcceptRun.step_ingesting ingesting]
  rcases IngestRun.step_ingesting platform.receiver context world.store call.event with
    ⟨fault, failed, _⟩ | ⟨other, stats, also, upserted⟩
  · rw [passed] at failed
    cases failed
  · obtain rfl := Except.ok.inj (passed.symm.trans also)
    exact congrArg Prod.snd upserted

variable {store : TicketStore τ} {objects : Dict String Text} {statuses : Dict String SensorStatus}
  {sensorId : String} {document : Json} {stored : Bool}

/-- The last call of a world takes its step. -/
theorem IngressWorld.step_last (calls : List (IngressCall τ)) (call : IngressCall τ) :
    (⟨store, objects, statuses, calls ++ [call]⟩ : IngressWorld τ).step platform config keys
        (.advance calls.length context receivedAt) =
      let next := AcceptRun.step platform ⟨store, objects, statuses, calls ++ [call]⟩ context
        receivedAt call
      some { next.2 with calls := calls ++ [{ call with run := next.1 }] } := by
  rw [step_waiting List.getElem?_concat_length, List.set_append_right _ _ le_rfl]
  simp only [Nat.sub_self, List.set_cons_zero]

/-- The last call of a world places its body. -/
theorem IngressWorld.step_places (calls : List (IngressCall τ))
    (valid : Validated platform.receiver document)
    (write : textAt ["event_type"] document ≠ "heartbeat") :
    (⟨store, objects, statuses, calls ++ [⟨sensorId, document, .placing⟩]⟩ :
        IngressWorld τ).step platform config keys (.advance calls.length context receivedAt) =
      some ⟨store, objects.set (documentSha256 platform.receiver document)
          (canonicalDocument document), statuses,
        calls ++ [⟨sensorId, document, .ingesting true .guarding⟩]⟩ := by
  rw [step_last, AcceptRun.step_placing rfl valid write]

/-- The last call of a world passes the guard. -/
theorem IngressWorld.step_guards (calls : List (IngressCall τ))
    (passes : ∀ row ∈ store.signalOf (hostOtFingerprint platform.receiver document),
      revisionErrors platform.receiver row document = []) :
    (⟨store, objects, statuses, calls ++ [⟨sensorId, document, .ingesting stored .guarding⟩]⟩ :
        IngressWorld τ).step platform config keys (.advance calls.length context receivedAt) =
      some ⟨store, objects, statuses,
        calls ++ [⟨sensorId, document, .ingesting stored .ingesting⟩]⟩ := by
  have guarded : (IngestRun.guarding : IngestRun τ).step platform.receiver context store
      document = (.ingesting, store) := by
    cases found : store.signalOf (hostOtFingerprint platform.receiver document) with
    | none => exact IngestRun.step_guarding_absent found
    | some row => exact IngestRun.step_guarding_passes found (passes row found)
  rw [step_last, AcceptRun.step_ingesting rfl]
  simp only [guarded, AcceptRun.ofIngest]

/-- The last call of a world upserts the signal of its write. -/
theorem IngressWorld.step_upserts {checked : CheckedSignal} (calls : List (IngressCall τ))
    (passed : checkSignal platform.receiver.store (hostOtSignal platform.receiver document) =
      .ok checked) :
    ∃ stats, (⟨store, objects, statuses,
        calls ++ [⟨sensorId, document, .ingesting stored .ingesting⟩]⟩ :
          IngressWorld τ).step platform config keys (.advance calls.length context receivedAt) =
      some ⟨(store.upsertChecked platform.receiver.store context.now checked).1, objects, statuses,
        calls ++ [⟨sensorId, document, .ingesting stored (.applying stats .reading)⟩]⟩ := by
  rcases IngestRun.step_ingesting platform.receiver context store document with
    ⟨fault, failed, _⟩ | ⟨other, stats, also, upserted⟩
  · rw [passed] at failed
    cases failed
  · obtain rfl := Except.ok.inj (passed.symm.trans also)
    refine ⟨stats, ?_⟩
    rw [step_last, AcceptRun.step_ingesting rfl]
    simp only [upserted, AcceptRun.ofIngest]

variable {calls : List (IngressCall τ)} {now : Int} {request : IngressRequest} {key : SensorKey}

/-- A new request for a write that passes the guard comes to its transaction in three steps. -/
theorem IngressWorld.run_to_ingesting
    (admitted : admission platform config keys now request = .ok (key, document))
    (fresh : objects.get? (documentSha256 platform.receiver document) = none)
    (valid : Validated platform.receiver document)
    (write : textAt ["event_type"] document ≠ "heartbeat")
    (passes : ∀ row ∈ store.signalOf (hostOtFingerprint platform.receiver document),
      revisionErrors platform.receiver row document = []) (further : List (IngressAction τ)) :
    System.run (IngressWorld.step platform config keys) ⟨store, objects, statuses, calls⟩
        (.request now request :: .advance calls.length context receivedAt ::
          .advance calls.length context receivedAt :: further) =
      System.run (IngressWorld.step platform config keys)
        ⟨store, objects.set (documentSha256 platform.receiver document)
            (canonicalDocument document), statuses,
          calls ++ [⟨key.sensorId, document, .ingesting true .ingesting⟩]⟩ further := by
  rw [System.run_cons (step_request admitted fresh),
    System.run_cons (step_places calls valid write), System.run_cons (step_guards calls passes)]

/-- A new request for a write that passes the guard upserts its signal in a fourth step. -/
theorem IngressWorld.run_to_applying {checked : CheckedSignal}
    (admitted : admission platform config keys now request = .ok (key, document))
    (fresh : objects.get? (documentSha256 platform.receiver document) = none)
    (valid : Validated platform.receiver document)
    (write : textAt ["event_type"] document ≠ "heartbeat")
    (passes : ∀ row ∈ store.signalOf (hostOtFingerprint platform.receiver document),
      revisionErrors platform.receiver row document = [])
    (passed : checkSignal platform.receiver.store (hostOtSignal platform.receiver document) =
      .ok checked) :
    ∃ stats, System.run (IngressWorld.step platform config keys) ⟨store, objects, statuses, calls⟩
        [.request now request, .advance calls.length context receivedAt,
          .advance calls.length context receivedAt, .advance calls.length context receivedAt] =
      some ⟨(store.upsertChecked platform.receiver.store context.now checked).1,
        objects.set (documentSha256 platform.receiver document) (canonicalDocument document),
        statuses,
        calls ++ [⟨key.sensorId, document, .ingesting true (.applying stats .reading)⟩]⟩ := by
  have upserted := @step_upserts τ platform config keys context receivedAt _ store
    (objects.set (documentSha256 platform.receiver document) (canonicalDocument document))
    statuses key.sensorId document true checked calls passed
  obtain ⟨stats, taken⟩ := upserted
  refine ⟨stats, ?_⟩
  rw [run_to_ingesting admitted fresh valid write passes, System.run_cons taken]
  rfl

end Steps

/-! ## What an action writes into the ticket store -/

variable {platform config keys} [DecidableEq τ] {world next : IngressWorld τ}

omit [DecidableEq τ] in
/-- A step of `accept` leaves the ticket store, unless it is a transaction of its ingest. -/
theorem AcceptRun.step_store (platform : IngressPlatform) (world : IngressWorld τ)
    (context : CallContext τ) (receivedAt : String) (call : IngressCall τ) :
    (AcceptRun.step platform world context receivedAt call).2.store = world.store ∨
      ∃ stored run, call.run = .ingesting stored run ∧
        (AcceptRun.step platform world context receivedAt call).2.store =
          (run.step platform.receiver context world.store call.event).2 := by
  rw [AcceptRun.step]
  split
  · exact Or.inl rfl
  · rename_i stored run ingesting
    exact Or.inr ⟨stored, run, ingesting, rfl⟩
  · exact Or.inl rfl
  · exact Or.inl rfl
  · exact Or.inl rfl

/-- A call that advances, and the world behind it. -/
theorem IngressWorld.step_advance {index : Nat} {context : CallContext τ} {receivedAt : String}
    (taken : world.step platform config keys (.advance index context receivedAt) = some next) :
    ∃ call, world.calls[index]? = some call ∧
      next.store = (AcceptRun.step platform world context receivedAt call).2.store := by
  obtain ⟨call, waits, rfl⟩ := Option.map_eq_some_iff.mp taken
  exact ⟨call, waits, rfl⟩

/-- An action writes what one operation of the store writes, or nothing. -/
theorem IngressWorld.step_commits {action : IngressAction τ}
    (taken : world.step platform config keys action = some next) :
    next.store = world.store ∨ ∃ (context : CallContext τ) (call : StoreCall),
      call.commit platform.receiver.store context world.store = .ok next.store := by
  cases action with
  | operate context call =>
    obtain rfl := Option.some.inj taken
    rcases call.apply_cases platform.receiver.store context world.store with same | committed
    · exact Or.inl same
    · exact Or.inr ⟨context, call, committed⟩
  | request now request =>
    left
    simp only [step] at taken
    split at taken
    · rw [← Option.some.inj taken]
    · rw [← Option.some.inj taken]
  | advance index context receivedAt =>
    obtain ⟨call, _, same⟩ := step_advance taken
    rw [same]
    rcases AcceptRun.step_store platform world context receivedAt call with
      kept | ⟨stored, run, _, written⟩
    · exact Or.inl kept
    · rw [written]
      exact (run.step_call call.event).imp_right fun committed => ⟨context, committed⟩
  | fail index message =>
    obtain ⟨call, _, rfl⟩ := Option.map_eq_some_iff.mp taken
    exact Or.inl rfl
  | crash =>
    obtain rfl := Option.some.inj taken
    exact Or.inl rfl

/-- The ticket store is one that operations build. -/
def IngressWorld.Built (platform : IngressPlatform) (world : IngressWorld τ) : Prop :=
  ∃ calls, world.store = TicketStore.after platform.receiver.store calls

/-- Every action leaves a ticket store that operations build. -/
theorem IngressWorld.Built.step {action : IngressAction τ} (built : world.Built platform)
    (taken : world.step platform config keys action = some next) : next.Built platform := by
  rcases step_commits taken with same | ⟨context, call, committed⟩
  · rw [Built, same]
    exact built
  · obtain ⟨calls, before⟩ := built
    refine ⟨calls ++ [(context, call)], ?_⟩
    rw [TicketStore.after_concat, ← before, StoreCall.apply, committed]

/-- The signals of a store that operations build have their own fingerprints. -/
theorem IngressWorld.Built.keyed (built : world.Built platform) :
    Library.Table.Keyed SignalRow.fingerprint world.store.signals := by
  obtain ⟨calls, same⟩ := built
  rw [same]
  exact (TicketStore.linked_after platform.receiver.store calls).keyed

/-- The store of an ingress is sound. -/
theorem IngressWorld.Built.sound (built : world.Built platform) : world.store.Sound := by
  obtain ⟨calls, same⟩ := built
  rw [same]
  exact (TicketStore.recorded_after calls).sound

end DTLab
