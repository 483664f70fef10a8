import DTLab.Library.HashChain
import DTLab.Sensor.Observation

/-!
# Signed envelopes

`spool.build_envelope` and `spool.verify_envelope`. The SHA-256 of a text and its HMAC under
the key of the spool are parameters; so are the text that Python gives a list or a dictionary
and the float that a literal is read as. An event is a JSON object with the two fields the
envelope reads, closed under writing and reading.
-/

namespace DTLab

open Library (Text Json FloatLiteral)
open Library.Json (WellFormed FixedBy setField loads loads_dumps)

/-- `ENVELOPE_SCHEMA_VERSION`. -/
def envelopeSchemaVersion : String := "dtlab-plc-endpoint-envelope-v1"
/-- `ZERO_HASH`. -/
def zeroHash : String := String.ofList (List.replicate 64 '0')

/-- What a spool and its readers share. -/
structure SpoolSettings where
  /-- `sha256_text`. -/
  sha256Text : Text → String
  /-- A digest has digits. -/
  sha256Text_ne : ∀ text, sha256Text text ≠ ""
  /-- The hexadecimal HMAC-SHA256 of a text under the key. -/
  hmacSha256 : Text → String
  keyId : String
  maxBytes : Int
  /-- What `json.loads` reads a literal as that is no integer. -/
  rounding : FloatLiteral → FloatLiteral
  /-- `str` of a list or a dictionary. -/
  containerText : Json → String
  /-- What the decoders say about a line they refuse. -/
  decoderMessage : Text → String
  /-- `int` of a value that is neither an integer nor a truth value, where it does not raise. -/
  otherInt : Json → Option Int

/-- What an operation of the spool or of its readers raises. -/
inductive SpoolFault where
  | spoolError (message : String)
  | spoolFullError (message : String)
  | envelopeValidationError (message : String)
  /-- A method of dictionaries called on another value. -/
  | attributeError
  /-- Bytes that are no text, or text that is no JSON, where nothing catches it. -/
  | valueError
  /-- A negative position in a file. -/
  | osError
  deriving DecidableEq

/-- An event as the spool takes it: a document with a text `event_id` and an integer
`revision`, whose floats read back as themselves. -/
structure EventDocument (rounding : FloatLiteral → FloatLiteral) where
  fields : List (String × Json)
  formed : WellFormed (.obj fields)
  fixed : FixedBy rounding (.obj fields)
  eventId : String
  hasEventId : fields.lookup "event_id" = some (.str eventId)
  revision : Int
  hasRevision : fields.lookup "revision" = some (.int revision)

/-- The document of an event. -/
def EventDocument.toJson {rounding : FloatLiteral → FloatLiteral}
    (event : EventDocument rounding) : Json := .obj event.fields

/-- An event is determined by its document. -/
theorem EventDocument.toJson_injective {rounding : FloatLiteral → FloatLiteral} :
    Function.Injective fun event : EventDocument rounding => event.toJson := by
  intro left right same
  obtain ⟨fields, formed, fixed, eventId, hasEventId, revision, hasRevision⟩ := left
  obtain ⟨fields', formed', fixed', eventId', hasEventId', revision', hasRevision'⟩ := right
  obtain rfl : fields = fields' := Json.obj.inj same
  obtain rfl : eventId = eventId' :=
    Json.str.inj (Option.some.inj (hasEventId.symm.trans hasEventId'))
  obtain rfl : revision = revision' :=
    Json.int.inj (Option.some.inj (hasRevision.symm.trans hasRevision'))
  rfl

/-! ## Python values -/

/-- `str(value)`. -/
def pyStr (settings : SpoolSettings) : Json → String
  | .null => "None"
  | .bool true => "True"
  | .bool false => "False"
  | .int n => String.ofList (Library.integerText n)
  | .float literal =>
    if literal.text = "NaN".toList then "nan"
    else if literal.text = "Infinity".toList then "inf"
    else if literal.text = "-Infinity".toList then "-inf"
    else String.ofList literal.text
  | .str s => s
  | .arr items => settings.containerText (.arr items)
  | .obj fields => settings.containerText (.obj fields)

/-- A value that Python takes for false. -/
def isFalsy : Json → Bool
  | .null => true
  | .bool value => !value
  | .int n => n == 0
  | .float literal => literal.text == "0.0".toList || literal.text == "-0.0".toList
  | .str s => s == ""
  | .arr items => items.isEmpty
  | .obj fields => fields.isEmpty

/-- `int(value)`. -/
def pyInt (settings : SpoolSettings) : Json → Option Int
  | .int n => some n
  | .bool value => some (if value then 1 else 0)
  | other => settings.otherInt other

/-- `fields.get(key)`. -/
def getField (key : String) (fields : List (String × Json)) : Json :=
  (fields.lookup key).getD .null

/-- `str(value or "")`. -/
def strOrEmpty (settings : SpoolSettings) (value : Json) : String :=
  if isFalsy value then "" else pyStr settings value

/-- A member that equals a text. -/
def isText (text : String) : Json → Bool
  | .str s => s == text
  | _ => false

/-- `envelope["integrity"][key] = value`. -/
def setIntegrity (key : String) (value : Json) : Json → Json
  | .obj fields =>
    match fields.lookup "integrity" with
    | some (.obj integrity) =>
      .obj (setField "integrity" (.obj (setField key value integrity)) fields)
    | _ => .obj fields
  | other => other

/-- `envelope[key] = value`. -/
def setItem (key : String) (value : Json) : Json → Json
  | .obj fields => .obj (setField key value fields)
  | other => other

/-! ## Building and verifying -/

/-- `_unsigned_envelope`. -/
def unsignedEnvelope (settings : SpoolSettings) (event : Json) (keyId previousHash : String) :
    Json :=
  .obj [("event", event),
    ("integrity", .obj [("algorithm", .str "HMAC-SHA256"), ("key_id", .str keyId),
      ("payload_sha256", .str (settings.sha256Text (canonicalJson event))),
      ("previous_record_sha256", .str previousHash)]),
    ("schema_version", .str envelopeSchemaVersion)]

/-- `"%s:r%s:%s" % (event_id, revision, record_hash[:16])`. -/
def recordId (eventId revision recordHash : String) : String :=
  eventId ++ ":r" ++ revision ++ ":" ++ String.ofList (recordHash.toList.take 16)

/-- `build_envelope`, or nothing where the copy through JSON fails. -/
def buildEnvelope (settings : SpoolSettings) (previousHash : String)
    (event : EventDocument settings.rounding) : Option Json :=
  let unsigned := unsignedEnvelope settings event.toJson settings.keyId previousHash
  let signature := settings.hmacSha256 (canonicalJson unsigned)
  (loads settings.rounding (canonicalJson unsigned)).map fun copy =>
    let withSignature := setIntegrity "signature" (.str signature) copy
    let recordHash := settings.sha256Text (canonicalJson withSignature)
    let withHash := setIntegrity "record_sha256" (.str recordHash) withSignature
    setItem "record_id"
      (.str (recordId event.eventId (pyStr settings (.int event.revision)) recordHash)) withHash

/-- `verify_envelope` behind the checks of the version and of the two objects. -/
def verifyIntegrity (settings : SpoolSettings)
    (envelope event integrity : List (String × Json)) (expectedPreviousHash : Option String) :
    Except SpoolFault String :=
  if !isText "HMAC-SHA256" (getField "algorithm" integrity) then
    .error (.envelopeValidationError "Algoritmo envelope non supportato.")
  else if settings.sha256Text (canonicalJson (.obj event)) ≠
      pyStr settings (getField "payload_sha256" integrity) then
    .error (.envelopeValidationError "Hash payload non valido.")
  else
    let previousHash := strOrEmpty settings (getField "previous_record_sha256" integrity)
    if expectedPreviousHash.any fun expected => previousHash ≠ expected then
      .error (.envelopeValidationError "Catena spool interrotta.")
    else
      let unsigned := unsignedEnvelope settings (.obj event)
        (pyStr settings (getField "key_id" integrity)) previousHash
      let expectedSignature := settings.hmacSha256 (canonicalJson unsigned)
      if expectedSignature ≠ strOrEmpty settings (getField "signature" integrity) then
        .error (.envelopeValidationError "Firma HMAC non valida.")
      else
        match loads settings.rounding (canonicalJson unsigned) with
        | none => .error .valueError
        | some copy =>
          let withSignature := setIntegrity "signature" (.str expectedSignature) copy
          let expectedRecordHash := settings.sha256Text (canonicalJson withSignature)
          if expectedRecordHash ≠ strOrEmpty settings (getField "record_sha256" integrity) then
            .error (.envelopeValidationError "Hash record non valido.")
          else if strOrEmpty settings (getField "record_id" envelope) ≠
              recordId (pyStr settings (getField "event_id" event))
                (pyStr settings (getField "revision" event)) expectedRecordHash then
            .error (.envelopeValidationError "Record ID envelope non valido.")
          else .ok expectedRecordHash

/-- `verify_envelope`. -/
def verifyEnvelope (settings : SpoolSettings) (envelope : Json)
    (expectedPreviousHash : Option String) : Except SpoolFault String :=
  match envelope with
  | .obj fields =>
    if !isText envelopeSchemaVersion (getField "schema_version" fields) then
      .error (.envelopeValidationError "Schema envelope non supportato.")
    else
      match getField "event" fields, getField "integrity" fields with
      | .obj event, .obj integrity =>
        verifyIntegrity settings fields event integrity expectedPreviousHash
      | _, _ => .error (.envelopeValidationError "Envelope incompleto.")
  | _ => .error .attributeError

end DTLab
