import DTLab.Spool.Event
import DTLab.Spool.Reader

/-!
# Tamper evidence of the signed spool

Whatever was done to the spool file, a read of pending envelopes raises or returns a contiguous
run of the genuine history behind the record of its cursor. The SHA-256 is assumed to lose
nothing and to give no genuine record the hash that starts a chain, and the HMAC to be
unforgeable: a pair of message and tag that the file presents and that verifies is one that
`build_envelope` made for an appended event. The verifier recomputes the message from the
parsed event, key id and predecessor, so equal messages mean equal events and predecessors;
what the message does not cover never reaches the events returned.
-/

namespace DTLab

open Library (Text Json linesOf linesOf_line)
open Library.HashChain (tip tip_nil tip_cons tip_concat Lossless Departs Linked
  contiguous_of_linked)
open Library.Json (WellFormed WellFormedMembers loads loads_wellFormed dumps_injective)

variable (settings : SpoolSettings)

/-- No genuine record has the hash that starts a chain. -/
def NoRecordIsZero (history : List (EventDocument settings.rounding)) : Prop :=
  Departs (recordHash settings) zeroHash history

/-- Every message that verifies under the tag a line presents for it was signed when an event
of the history was appended. -/
def Unforged (history : List (EventDocument settings.rounding)) (lines : List Text) : Prop :=
  ∀ line ∈ lines, ∀ envelope ∈ loads settings.rounding line,
    ∀ message, presentedPair settings envelope = some (message, settings.hmacSha256 message) →
      ∃ before event, before ++ [event] <+: history ∧
        message = signedText settings (chainHash settings before) event

/-- The members of a document are documents. -/
theorem wellFormed_getField {fields : List (String × Json)} (members : WellFormedMembers fields)
    (key : String) : WellFormed (getField key fields) := by
  induction fields with
  | nil => trivial
  | cons field fields ih =>
    obtain ⟨k, value⟩ := field
    rw [getField_cons]
    split_ifs
    · exact members.1
    · exact ih members.2

/-- The event of a document that was read is a document. -/
theorem wellFormed_envelopeEvent {line : Text} {envelope : Json}
    (read : loads settings.rounding line = some envelope) :
    WellFormed (envelopeEvent envelope) := by
  have formed := loads_wellFormed read
  cases envelope with
  | obj fields => exact wellFormed_getField formed.2 "event"
  | _ => trivial

/-- Equal messages are about equal events behind equal hashes. -/
theorem unsignedEnvelope_injective {left right : Json} (leftFormed : WellFormed left)
    (rightFormed : WellFormed right) {leftKey rightKey leftHash rightHash : String}
    (same : canonicalJson (unsignedEnvelope settings left leftKey leftHash) =
      canonicalJson (unsignedEnvelope settings right rightKey rightHash)) :
    left = right ∧ leftKey = rightKey ∧ leftHash = rightHash := by
  have documents := dumps_injective true
    (unsignedEnvelope_wellFormed settings leftFormed leftKey leftHash)
    (unsignedEnvelope_wellFormed settings rightFormed rightKey rightHash) same
  simp only [unsignedEnvelope, Json.obj.injEq, List.cons.injEq, Prod.mk.injEq, Json.str.injEq,
    true_and, and_true] at documents
  exact ⟨documents.1, documents.2.1, documents.2.2.2⟩

/-- An accepted envelope carries a genuine event behind the expected hash, and the verifier
returns the hash of its genuine record. -/
theorem verified_genuine {history : List (EventDocument settings.rounding)} {lines : List Text}
    (unforged : Unforged settings history lines) {line : Text} (inside : line ∈ lines)
    {envelope : Json} (read : loads settings.rounding line = some envelope)
    {previousHash hash : String}
    (verified : verifyEnvelope settings envelope (some previousHash) = .ok hash) :
    ∃ before event, before ++ [event] <+: history ∧ chainHash settings before = previousHash ∧
      envelopeEvent envelope = event.toJson ∧ hash = recordHash settings previousHash event := by
  obtain ⟨keyId, copy, presented, -, copied, returned⟩ := verifyEnvelope_ok settings verified
  obtain ⟨before, event, genuine, message⟩ :=
    unforged line inside envelope read _ presented
  have formed := wellFormed_envelopeEvent settings read
  obtain ⟨sameEvent, sameKey, sameHash⟩ :=
    unsignedEnvelope_injective settings formed event.formed message
  refine ⟨before, event, genuine, sameHash.symm, sameEvent, ?_⟩
  rw [sameEvent, sameKey] at copied returned
  rw [loads_unsignedEnvelope settings event.formed event.fixed, Option.some.injEq] at copied
  rw [returned, ← copied, setIntegrity_signature]
  rfl

/-- The events that a read returns are genuine, each of them behind the hash that the ones
before it lead to. -/
theorem pendingRecords_linked {history : List (EventDocument settings.rounding)}
    {lines : List Text} (unforged : Unforged settings history lines) {limit offset : Nat}
    {previousHash : String} {records : List PendingRecord}
    (read : pendingRecords settings limit offset previousHash lines = .ok records) :
    ∃ events : List (EventDocument settings.rounding),
      records.map (fun record => envelopeEvent record.envelope) =
        events.map EventDocument.toJson ∧
      Linked (recordHash settings) zeroHash history previousHash events := by
  induction lines generalizing limit offset previousHash records with
  | nil =>
    have empty : records = [] := by
      cases limit <;> simpa [pendingRecords] using read.symm
    exact ⟨[], by simp [empty], trivial⟩
  | cons line lines ih =>
    have later : Unforged settings history lines := fun line inside =>
      unforged line (List.mem_cons_of_mem _ inside)
    rcases pendingRecords_cons_ok settings read with
      rfl | ⟨limit, envelope, hash, rest, rfl, loaded, verified, readRest, rfl⟩
    · exact ⟨[], rfl, trivial⟩
    · obtain ⟨before, event, genuine, position, sameEvent, rfl⟩ :=
        verified_genuine settings unforged List.mem_cons_self loaded verified
      obtain ⟨events, sameEvents, linked⟩ := ih later readRest
      refine ⟨event :: events, ?_, ⟨before, genuine, position⟩, linked⟩
      simp [sameEvent, sameEvents]

/-- Where the SHA-256 loses nothing, a record hash tells the predecessor and the event. -/
theorem recordHash_lossless (injective : Function.Injective settings.sha256Text) :
    Lossless (recordHash settings) := by
  intro before before' event event' same
  have texts := injective same
  have documents := dumps_injective true
    (withSignature_wellFormed settings event.formed settings.keyId before _)
    (withSignature_wellFormed settings event'.formed settings.keyId before' _) texts
  simp only [withSignature, Json.obj.injEq, List.cons.injEq, Prod.mk.injEq, Json.str.injEq,
    true_and, and_true] at documents
  exact ⟨documents.2.2.1, EventDocument.toJson_injective (congrArg Json.obj documents.1)⟩

/-- Verifying the envelope built for an event succeeds behind the hash it was built for. -/
theorem verify_build (previousHash : String) (event : EventDocument settings.rounding) :
    ∃ envelope, buildEnvelope settings previousHash event = some envelope ∧
      verifyEnvelope settings envelope (some previousHash) =
        .ok (recordHash settings previousHash event) := by
  refine ⟨_, buildEnvelope_eq settings previousHash event, ?_⟩
  rw [verifyEnvelope_signedEnvelope]
  simp

/-- Every envelope that was built verifies, and a read of any file behind a genuine cursor that
does not raise returns the events of a contiguous run of the history behind the cursor. -/
theorem pending_contiguous (injective : Function.Injective settings.sha256Text)
    {history : List (EventDocument settings.rounding)} (departs : NoRecordIsZero settings history)
    {file : Text} {cursor : SenderCursor} {limit : Int}
    (unforged : Unforged settings history (linesOf (file.drop cursor.offset.toNat)))
    (genuine : ∃ before, before <+: history ∧
      chainHash settings before = cursor.previousRecordSha256) :
    (∀ previousHash event, ∃ envelope, buildEnvelope settings previousHash event = some envelope ∧
      verifyEnvelope settings envelope (some previousHash) =
        .ok (recordHash settings previousHash event)) ∧
    ∀ records, pendingEnvelopes settings file cursor limit = .ok records →
      ∃ before events, before ++ events <+: history ∧
        chainHash settings before = cursor.previousRecordSha256 ∧
        records.map (fun record => envelopeEvent record.envelope) =
          events.map EventDocument.toJson := by
  refine ⟨verify_build settings, fun records read => ?_⟩
  obtain ⟨before, inside, position⟩ := genuine
  unfold pendingEnvelopes at read
  split_ifs at read
  obtain ⟨events, same, linked⟩ := pendingRecords_linked settings unforged read
  rw [← position] at linked
  have contiguous :=
    contiguous_of_linked (recordHash_lossless settings injective) departs inside linked
  exact ⟨before, events, contiguous, position, same⟩

/-- The file that genuine appends leave presents only what they signed. -/
theorem unforged_spoolText (before events : List (EventDocument settings.rounding)) :
    Unforged settings (before ++ events)
      (linesOf (spoolText settings (chainHash settings before) events)) := by
  induction events generalizing before with
  | nil => simp [Unforged]
  | cons event events ih =>
    intro line inside envelope loaded message presented
    have single : '\n' ∉ recordText settings (chainHash settings before) event :=
      notMem_recordText settings _ event (by decide)
    rw [spoolText, linesOf_line single, List.mem_cons] at inside
    rcases inside with rfl | later
    · rw [loads_recordText, Option.mem_some_iff] at loaded
      subst loaded
      refine ⟨before, event, by simp, ?_⟩
      have pair : presentedPair settings
          (signedEnvelope settings (chainHash settings before) event) =
            some (signedText settings (chainHash settings before) event,
              settings.hmacSha256 (signedText settings (chainHash settings before) event)) := by
        simp [presentedPair, signedEnvelope, signedText, EventDocument.toJson, pyStr]
      rw [pair, Option.some.injEq, Prod.mk.injEq] at presented
      exact presented.1.symm
    · have rest := ih (before ++ [event])
      rw [chainHash, tip_concat, List.append_assoc] at rest
      exact rest line later envelope loaded message presented

/-! ## A spool with one heartbeat -/

/-- A heartbeat of the sample plant. -/
def sampleHeartbeat : HostOtEvent where
  schemaVersion := eventSchemaVersion
  eventType := .heartbeat
  eventId :=
    "episode:dtlab-host-ot:7614bb4bb6fb81bfe7ec0fd95f420079b494bdd9cc088e5826ba078e5a195baa"
  episodeId :=
    "episode:dtlab-host-ot:7614bb4bb6fb81bfe7ec0fd95f420079b494bdd9cc088e5826ba078e5a195baa"
  revision := 1
  episodeSequence := 1
  bootId := "boot-test"
  firstObservedAt := "2026-09-01T10:00:00.000000Z"
  lastObservedAt := "2026-09-01T10:00:00.000000Z"
  timestampBasis := "endpoint_utc"
  sensor := ⟨"sensor:plc", "1.0.0", "server_hook"⟩
  source := ⟨"172.16.10.10", none, .plcSelf⟩
  destination := none
  modbus := none
  outcome := none
  detection := none
  evidence := ⟨.heartbeat, sourceId,
    "episode:dtlab-host-ot:7614bb4bb6fb81bfe7ec0fd95f420079b494bdd9cc088e5826ba078e5a195baa",
    ["Heartbeat del sensore endpoint PLC; non è un evento Cisco."]⟩
  process := none

/-- The SHA-256 of the heartbeat. -/
def samplePayloadSha : String :=
  "52b285b8314a2cd4115eeb6abfc56b8046566716215830a2b1569d9349f0774a"

/-- The signature of the first record, under a key of 32 bytes `k`. -/
def sampleSignature : String :=
  "c236d8caa973fcfe3ed6d2aa48d251636ecb341c88fb09523651085bcb878cd4"

/-- The hash of the first record. -/
def sampleRecordSha : String :=
  "69a193e4357afe9e64c641077c78b9cbe50d033fab74d637548009a2773fcfdc"

/-- The envelope of the first record with some members of `integrity` behind the covered ones. -/
def sampleEnvelope (more : List (String × Json)) : Json :=
  .obj [("event", sampleHeartbeat.toJson),
    ("integrity", .obj ([("algorithm", .str "HMAC-SHA256"), ("key_id", .str "key-v1"),
      ("payload_sha256", .str samplePayloadSha), ("previous_record_sha256", .str zeroHash)] ++
        more)),
    ("schema_version", .str envelopeSchemaVersion)]

/-- A spool whose hash and signature are the real ones on the texts of its first record. On
other texts the hash marks the text, which keeps it injective. -/
def sampleSpool : SpoolSettings where
  sha256Text text :=
    if text = canonicalJson sampleHeartbeat.toJson then samplePayloadSha
    else if text = canonicalJson (sampleEnvelope [("signature", .str sampleSignature)]) then
      sampleRecordSha
    else String.ofList ('#' :: text)
  sha256Text_ne text := by
    split_ifs
    · decide
    · decide
    · intro empty
      exact absurd (String.ofList_injective (empty : _ = String.ofList [])) (by simp)
  hmacSha256 text := if text = canonicalJson (sampleEnvelope []) then sampleSignature else ""
  keyId := "key-v1"
  maxBytes := 50 * 1024 * 1024
  rounding := id
  containerText _ := ""
  decoderMessage _ := ""
  otherInt _ := none

/-- The heartbeat as the spool takes it. -/
def sampleEvent : EventDocument sampleSpool.rounding := sampleHeartbeat.eventDocument _

/-- The hash of the sample loses nothing. -/
theorem sampleSpool_injective : Function.Injective sampleSpool.sha256Text := by
  have unmarked : ∀ text : Text, samplePayloadSha ≠ String.ofList ('#' :: text) ∧
      sampleRecordSha ≠ String.ofList ('#' :: text) := by
    intro text
    constructor <;> intro same <;> have first := congrArg (·.toList.head?) same <;>
      simp [samplePayloadSha, sampleRecordSha] at first
  have distinct : samplePayloadSha ≠ sampleRecordSha := by decide
  intro left right same
  simp only [sampleSpool] at same
  split_ifs at same with l1 r1 r2 l2 r1 r2 r1 r2
  · exact l1.trans r1.symm
  · exact absurd same distinct
  · exact absurd same (unmarked right).1
  · exact absurd same.symm distinct
  · exact l2.trans r2.symm
  · exact absurd same (unmarked right).2
  · exact absurd same.symm (unmarked left).1
  · exact absurd same.symm (unmarked left).2
  · have marked : '#' :: left = '#' :: right := String.ofList_injective same
    exact (List.cons.inj marked).2

/-- The hash of the sample, by the text. -/
theorem sampleSpool_sha256Text (text : Text) : sampleSpool.sha256Text text =
    if text = canonicalJson sampleHeartbeat.toJson then samplePayloadSha
    else if text = canonicalJson (sampleEnvelope [("signature", .str sampleSignature)]) then
      sampleRecordSha
    else String.ofList ('#' :: text) := rfl

/-- The payload hash of the first record. -/
theorem sampleSpool_payload :
    sampleSpool.sha256Text (canonicalJson sampleEvent.toJson) = samplePayloadSha := by
  have document : canonicalJson sampleEvent.toJson = canonicalJson sampleHeartbeat.toJson :=
    congrArg canonicalJson (HostOtEvent.toJson_eventDocument sampleHeartbeat)
  rw [sampleSpool_sha256Text, if_pos document]

/-- The signature of the first record. -/
theorem sampleSpool_signature :
    sampleSpool.hmacSha256 (signedText sampleSpool zeroHash sampleEvent) = sampleSignature := by
  have tagged (text : Text) : sampleSpool.hmacSha256 text =
      if text = canonicalJson (sampleEnvelope []) then sampleSignature else "" := rfl
  have unsigned : unsignedEnvelope sampleSpool sampleEvent.toJson sampleSpool.keyId zeroHash =
      sampleEnvelope [] := by
    simp only [unsignedEnvelope, sampleSpool_payload]
    rfl
  have message : signedText sampleSpool zeroHash sampleEvent =
      canonicalJson (sampleEnvelope []) := congrArg canonicalJson unsigned
  rw [tagged, if_pos message]

/-- The hash of the first record. -/
theorem sampleSpool_recordHash :
    recordHash sampleSpool zeroHash sampleEvent = sampleRecordSha := by
  have signed : withSignature sampleSpool sampleEvent.toJson sampleSpool.keyId zeroHash
      sampleSignature = sampleEnvelope [("signature", .str sampleSignature)] := by
    simp only [withSignature, sampleSpool_payload]
    rfl
  have other : canonicalJson (sampleEnvelope [("signature", .str sampleSignature)]) ≠
      canonicalJson sampleHeartbeat.toJson := by
    intro same
    have third := congrArg (fun text => text[2]?) same
    exact absurd third (by decide)
  rw [recordHash, sampleSpool_signature, signed, sampleSpool_sha256Text, if_neg other, if_pos rfl]

/-- No hash of the sample is the one that starts a chain. -/
theorem sampleSpool_departs (history : List (EventDocument sampleSpool.rounding)) :
    NoRecordIsZero sampleSpool history := by
  have apart : ∀ text, sampleSpool.sha256Text text ≠ zeroHash := by
    intro text
    rw [sampleSpool_sha256Text]
    split_ifs
    · decide
    · decide
    · intro same
      have first := congrArg (fun hash => hash.toList.head?) same
      rw [String.toList_ofList, List.head?_cons] at first
      exact absurd first (by decide)
  intro before _ some'
  cases before using List.reverseRecOn with
  | nil => exact absurd rfl some'
  | append_singleton front event =>
    rw [tip_concat]
    exact apart _

/-- The heartbeat in a later revision. -/
def laterEvent (revision : Nat) : EventDocument sampleSpool.rounding :=
  ({ sampleHeartbeat with revision := revision } : HostOtEvent).eventDocument _

/-- Three revisions of the heartbeat. -/
def threeEvents : List (EventDocument sampleSpool.rounding) :=
  [sampleEvent, laterEvent 2, laterEvent 3]

/-- Their spool, in which the second record is repeated. -/
def repeatedText : Text :=
  spoolText sampleSpool zeroHash [sampleEvent, laterEvent 2] ++
    spoolText sampleSpool (chainHash sampleSpool [sampleEvent]) [laterEvent 2, laterEvent 3]

/-- The repeated record presents nothing new. -/
theorem unforged_repeatedText : Unforged sampleSpool threeEvents (linesOf repeatedText) := by
  have front := unforged_spoolText sampleSpool [] [sampleEvent, laterEvent 2]
  have behind := unforged_spoolText sampleSpool [sampleEvent] [laterEvent 2, laterEvent 3]
  intro line inside envelope loaded message presented
  rw [repeatedText, Library.linesOf_append (complete_spoolText sampleSpool _ _),
    List.mem_append] at inside
  rcases inside with early | late
  · obtain ⟨before, event, known, same⟩ := front line early envelope loaded message presented
    have longer : [] ++ [sampleEvent, laterEvent 2] <+: threeEvents := ⟨[laterEvent 3], rfl⟩
    exact ⟨before, event, known.trans longer, same⟩
  · exact behind line late envelope loaded message presented

/-- A read of the sample spool goes on behind its first two records. -/
theorem repeatedText_read (limit : Nat) :
    pendingEnvelopes sampleSpool repeatedText .start (limit + 2 : Nat) =
      (pendingRecords sampleSpool limit
        (0 + (spoolText sampleSpool zeroHash [sampleEvent, laterEvent 2]).length)
        (chainHash sampleSpool [sampleEvent, laterEvent 2])
        (linesOf (spoolText sampleSpool (chainHash sampleSpool [sampleEvent])
          [laterEvent 2, laterEvent 3]))).map fun records =>
            pendingOf sampleSpool 0 zeroHash [sampleEvent, laterEvent 2] ++ records := by
  have start : pendingEnvelopes sampleSpool repeatedText .start (limit + 2 : Nat) =
      pendingRecords sampleSpool (limit + 2) 0 zeroHash (linesOf repeatedText) := by
    rw [pendingEnvelopes, if_neg (by decide), Int.toNat_natCast]
    rfl
  have lines := pendingRecords_spoolText sampleSpool (limit + 2) 0 zeroHash
    [sampleEvent, laterEvent 2]
    (spoolText sampleSpool (chainHash sampleSpool [sampleEvent]) [laterEvent 2, laterEvent 3])
  have left : limit + 2 - [sampleEvent, laterEvent 2].length = limit := Nat.add_sub_cancel limit 2
  have all : [sampleEvent, laterEvent 2].take (limit + 2) = [sampleEvent, laterEvent 2] :=
    List.take_of_length_le (Nat.le_add_left 2 limit)
  rw [left, all] at lines
  rw [start, repeatedText, lines]
  rfl

/-- The record behind the first two is refused: its hash of the record before is that of the first
one. -/
theorem repeatedText_refused :
    pendingEnvelopes sampleSpool repeatedText .start 3 =
      .error (.envelopeValidationError "Catena spool interrotta.") := by
  have apart : chainHash sampleSpool [sampleEvent] ≠
      chainHash sampleSpool [sampleEvent, laterEvent 2] := by
    intro same
    have lossless := recordHash_lossless sampleSpool sampleSpool_injective
    have departs := sampleSpool_departs threeEvents
    have equal := Library.HashChain.eq_of_tip_eq lossless departs
      ⟨[laterEvent 2, laterEvent 3], rfl⟩
      ⟨[laterEvent 3], rfl⟩ same
    have lengths := congrArg List.length equal
    exact absurd lengths (by decide)
  have third := pendingRecords_record sampleSpool 0
    (0 + (spoolText sampleSpool zeroHash [sampleEvent, laterEvent 2]).length)
    (chainHash sampleSpool [sampleEvent, laterEvent 2]) (chainHash sampleSpool [sampleEvent])
    (laterEvent 2) (spoolText sampleSpool (recordHash sampleSpool
      (chainHash sampleSpool [sampleEvent]) (laterEvent 2)) [laterEvent 3])
  have line : spoolText sampleSpool (chainHash sampleSpool [sampleEvent])
      [laterEvent 2, laterEvent 3] = recordText sampleSpool (chainHash sampleSpool [sampleEvent])
        (laterEvent 2) ++ '\n' :: spoolText sampleSpool (recordHash sampleSpool
          (chainHash sampleSpool [sampleEvent]) (laterEvent 2)) [laterEvent 3] := by
    rw [spoolText]
  have read := repeatedText_read 1
  rw [line, third, if_neg apart] at read
  exact read

/-- The first two records are read, the repeated one is refused, and whatever is read is a run of
the three events. -/
theorem pending_contiguous_repeated :
    pendingEnvelopes sampleSpool repeatedText .start 2 =
      .ok (pendingOf sampleSpool 0 zeroHash [sampleEvent, laterEvent 2]) ∧
    pendingEnvelopes sampleSpool repeatedText .start 3 =
      .error (.envelopeValidationError "Catena spool interrotta.") ∧
    (∀ previousHash event, ∃ envelope,
      buildEnvelope sampleSpool previousHash event = some envelope ∧
      verifyEnvelope sampleSpool envelope (some previousHash) =
        .ok (recordHash sampleSpool previousHash event)) ∧
    ∀ limit records, pendingEnvelopes sampleSpool repeatedText .start limit = .ok records →
      ∃ before events, before ++ events <+: threeEvents ∧
        chainHash sampleSpool before = zeroHash ∧
        records.map (fun record => envelopeEvent record.envelope) =
          events.map EventDocument.toJson := by
  have holds := fun limit : Int => @pending_contiguous sampleSpool sampleSpool_injective
    threeEvents (sampleSpool_departs threeEvents) repeatedText .start limit unforged_repeatedText
    ⟨[], List.nil_prefix, rfl⟩
  have two := repeatedText_read 0
  rw [pendingRecords] at two
  exact ⟨two, repeatedText_refused, (holds 0).1, fun limit => (holds limit).2⟩

end DTLab
