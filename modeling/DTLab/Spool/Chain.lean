import DTLab.Spool.Envelope
import DTLab.Library.JsonLoads

/-!
# The chain of records

The record that `SignedSpool` appends for an event, the hash it leaves behind, and what a
successful `verify_envelope` says about an envelope. `chainHash` is the hash that a spool holds
after a list of events; the verifier accepts every record that was built and, from any envelope
it accepts, recomputes the signed message of the event inside.
-/

namespace DTLab

open Library (Text Json HashChain.tip)
open Library.Json (WellFormed WellFormedMembers FixedBy FixedMembers loads loads_dumps
  lookup_cons_eq)

variable (settings : SpoolSettings)

/-! ## The record of an event -/

/-- The text that the signature of a record covers. -/
def signedText (previousHash : String) (event : EventDocument settings.rounding) : Text :=
  canonicalJson (unsignedEnvelope settings event.toJson settings.keyId previousHash)

/-- The unsigned envelope with its signature. -/
def withSignature (event : Json) (keyId previousHash signature : String) : Json :=
  .obj [("event", event),
    ("integrity", .obj [("algorithm", .str "HMAC-SHA256"), ("key_id", .str keyId),
      ("payload_sha256", .str (settings.sha256Text (canonicalJson event))),
      ("previous_record_sha256", .str previousHash), ("signature", .str signature)]),
    ("schema_version", .str envelopeSchemaVersion)]

/-- `record_sha256` of the record of an event behind a hash. -/
def recordHash (previousHash : String) (event : EventDocument settings.rounding) : String :=
  settings.sha256Text (canonicalJson (withSignature settings event.toJson settings.keyId
    previousHash (settings.hmacSha256 (signedText settings previousHash event))))

/-- The envelope that `append` writes. -/
def signedEnvelope (previousHash : String) (event : EventDocument settings.rounding) : Json :=
  .obj [("event", event.toJson),
    ("integrity", .obj [("algorithm", .str "HMAC-SHA256"), ("key_id", .str settings.keyId),
      ("payload_sha256", .str (settings.sha256Text (canonicalJson event.toJson))),
      ("previous_record_sha256", .str previousHash),
      ("record_sha256", .str (recordHash settings previousHash event)),
      ("signature", .str (settings.hmacSha256 (signedText settings previousHash event)))]),
    ("record_id", .str (recordId event.eventId (pyStr settings (.int event.revision))
      (recordHash settings previousHash event))),
    ("schema_version", .str envelopeSchemaVersion)]

/-- The hash that a spool holds after a list of events. -/
def chainHash (events : List (EventDocument settings.rounding)) : String :=
  HashChain.tip (recordHash settings) zeroHash events

/-- The unsigned envelope of a document is a document. -/
theorem unsignedEnvelope_wellFormed {event : Json} (formed : WellFormed event)
    (keyId previousHash : String) :
    WellFormed (unsignedEnvelope settings event keyId previousHash) := by
  have outer : ["event", "integrity", "schema_version"].Pairwise (· < ·) := by decide
  have inner : ["algorithm", "key_id", "payload_sha256", "previous_record_sha256"].Pairwise
      (· < ·) := by decide
  exact ⟨outer, formed, ⟨inner, trivial, trivial, trivial, trivial, trivial⟩, trivial, trivial⟩

/-- Reading keeps the floats of an unsigned envelope when it keeps those of the event. -/
theorem unsignedEnvelope_fixed {event : Json} (fixed : FixedBy settings.rounding event)
    (keyId previousHash : String) :
    FixedBy settings.rounding (unsignedEnvelope settings event keyId previousHash) := by
  simp only [unsignedEnvelope, FixedBy, FixedMembers, fixed, and_true]

/-- The copy of an unsigned envelope through its text is the envelope. -/
theorem loads_unsignedEnvelope {event : Json} (formed : WellFormed event)
    (fixed : FixedBy settings.rounding event) (keyId previousHash : String) :
    loads settings.rounding (canonicalJson (unsignedEnvelope settings event keyId previousHash)) =
      some (unsignedEnvelope settings event keyId previousHash) :=
  loads_dumps true (unsignedEnvelope_wellFormed settings formed keyId previousHash)
    (unsignedEnvelope_fixed settings fixed keyId previousHash)

/-- A signature that is set signs the message. -/
@[simp] theorem setIntegrity_signature (event : Json) (keyId previousHash signature : String) :
    setIntegrity "signature" (.str signature)
        (unsignedEnvelope settings event keyId previousHash) =
      withSignature settings event keyId previousHash signature := rfl

/-- The signed message of a document is a document. -/
theorem withSignature_wellFormed {event : Json} (formed : WellFormed event)
    (keyId previousHash signature : String) :
    WellFormed (withSignature settings event keyId previousHash signature) := by
  have outer : ["event", "integrity", "schema_version"].Pairwise (· < ·) := by decide
  have inner : ["algorithm", "key_id", "payload_sha256", "previous_record_sha256",
      "signature"].Pairwise (· < ·) := by decide
  exact ⟨outer, formed, ⟨inner, trivial, trivial, trivial, trivial, trivial, trivial⟩, trivial,
    trivial⟩

/-- Building succeeds for every event and gives its signed envelope. -/
theorem buildEnvelope_eq (previousHash : String) (event : EventDocument settings.rounding) :
    buildEnvelope settings previousHash event =
      some (signedEnvelope settings previousHash event) := by
  have copy : loads settings.rounding (canonicalJson (unsignedEnvelope settings event.toJson
      settings.keyId previousHash)) =
      some (unsignedEnvelope settings event.toJson settings.keyId previousHash) :=
    loads_unsignedEnvelope settings event.formed event.fixed settings.keyId previousHash
  simp only [buildEnvelope, copy, Option.map_some, setIntegrity_signature]
  rfl

/-- The envelope of an event is a document. -/
theorem signedEnvelope_wellFormed (previousHash : String)
    (event : EventDocument settings.rounding) :
    WellFormed (signedEnvelope settings previousHash event) := by
  have outer : ["event", "integrity", "record_id", "schema_version"].Pairwise (· < ·) := by
    decide
  have inner : ["algorithm", "key_id", "payload_sha256", "previous_record_sha256",
      "record_sha256", "signature"].Pairwise (· < ·) := by decide
  exact ⟨outer, event.formed, ⟨inner, trivial, trivial, trivial, trivial, trivial, trivial,
    trivial⟩, trivial, trivial, trivial⟩

/-- Reading keeps the floats of the envelope of an event. -/
theorem signedEnvelope_fixed (previousHash : String)
    (event : EventDocument settings.rounding) :
    FixedBy settings.rounding (signedEnvelope settings previousHash event) := by
  have inside : FixedBy settings.rounding event.toJson := event.fixed
  simp only [signedEnvelope, FixedBy, FixedMembers, inside, and_true]

/-! ## Verifying -/

/-- A missing field is null. -/
@[simp] theorem getField_nil (key : String) : getField key [] = .null := rfl

/-- A field is the first of its key. -/
@[simp] theorem getField_cons (key k : String) (value : Json) (fields : List (String × Json)) :
    getField key ((k, value) :: fields) = if key = k then value else getField key fields := by
  simp only [getField, lookup_cons_eq]
  split_ifs <;> rfl

/-- A text is itself. -/
@[simp] theorem strOrEmpty_str (text : String) : strOrEmpty settings (.str text) = text := by
  by_cases empty : text = ""
  · simp [strOrEmpty, isFalsy, empty]
  · simp [strOrEmpty, isFalsy, empty, pyStr]

/-- The verifier accepts the record of an event behind the hash it was built for, and refuses it
behind any other. -/
theorem verifyEnvelope_signedEnvelope (previousHash : String)
    (event : EventDocument settings.rounding) (expected : Option String) :
    verifyEnvelope settings (signedEnvelope settings previousHash event) expected =
      if expected.any fun hash => previousHash ≠ hash then
        .error (.envelopeValidationError "Catena spool interrotta.")
      else .ok (recordHash settings previousHash event) := by
  have message : canonicalJson (unsignedEnvelope settings (.obj event.fields) settings.keyId
      previousHash) = signedText settings previousHash event := rfl
  have hash : settings.sha256Text (canonicalJson (withSignature settings (.obj event.fields)
      settings.keyId previousHash (settings.hmacSha256 (signedText settings previousHash event)))) =
      recordHash settings previousHash event := rfl
  have copy : loads settings.rounding (signedText settings previousHash event) =
      some (unsignedEnvelope settings (.obj event.fields) settings.keyId previousHash) :=
    loads_unsignedEnvelope settings event.formed event.fixed settings.keyId previousHash
  have eventId : getField "event_id" event.fields = .str event.eventId := by
    simp [getField, event.hasEventId]
  have revision : getField "revision" event.fields = .int event.revision := by
    simp [getField, event.hasRevision]
  simp [signedEnvelope, verifyEnvelope, verifyIntegrity, EventDocument.toJson, isText, pyStr,
    message, hash, copy, eventId, revision]

/-- `envelope["event"]`. -/
def envelopeEvent : Json → Json
  | .obj fields => getField "event" fields
  | _ => .null

/-- The message that the verifier recomputes from the fields of an envelope, and the signature
that the envelope presents for it. -/
def presentedPair : Json → Option (Text × String)
  | .obj fields =>
    match getField "event" fields, getField "integrity" fields with
    | .obj event, .obj integrity =>
      some (canonicalJson (unsignedEnvelope settings (.obj event)
          (pyStr settings (getField "key_id" integrity))
          (strOrEmpty settings (getField "previous_record_sha256" integrity))),
        strOrEmpty settings (getField "signature" integrity))
    | _, _ => none
  | _ => none

/-- What an accepted envelope says: the message recomputed from it names the expected
predecessor, the envelope presents the signature of that message, and the hash returned is that
of the signed message. -/
theorem verifyEnvelope_ok {envelope : Json} {previousHash hash : String}
    (verified : verifyEnvelope settings envelope (some previousHash) = .ok hash) :
    ∃ keyId copy, let message := canonicalJson (unsignedEnvelope settings
        (envelopeEvent envelope) keyId previousHash)
      presentedPair settings envelope = some (message, settings.hmacSha256 message) ∧
        (∃ event, envelopeEvent envelope = .obj event) ∧
        loads settings.rounding message = some copy ∧
        hash = settings.sha256Text (canonicalJson (setIntegrity "signature"
          (.str (settings.hmacSha256 message)) copy)) := by
  unfold verifyEnvelope at verified
  split at verified
  case h_2 => cases verified
  case h_1 fields =>
    split_ifs at verified
    split at verified
    case h_2 => cases verified
    case h_1 event integrity eventField integrityField =>
      have inside : envelopeEvent (.obj fields) = .obj event := eventField
      simp only [verifyIntegrity] at verified
      split_ifs at verified with _ _ chain signature
      have linked : strOrEmpty settings (getField "previous_record_sha256" integrity) =
          previousHash := by simpa using chain
      rw [linked] at signature verified
      split at verified
      case h_1 => cases verified
      case h_2 copy copied =>
        split_ifs at verified
        have returned := Except.ok.inj verified
        have signed := not_not.mp signature
        refine ⟨pyStr settings (getField "key_id" integrity), copy, ?_, ⟨event, inside⟩, ?_, ?_⟩
        · simp only [presentedPair, eventField, integrityField, linked, inside, signed]
        · rw [inside]
          exact copied
        · rw [inside]
          exact returned.symm

end DTLab
