import DTLab.Library.JsonLoads
import DTLab.Library.Lines
import DTLab.Spool.Chain

/-!
# Reading the spool

The two readers of the spool file: `sender.pending_envelopes`, which reads complete lines behind
a cursor and verifies each of them, and `SignedSpool._last_record_hash`, which reads the whole
file in text mode when the spool is opened. A file is the text of its bytes, one character a
byte. `spoolText` is the file that a list of events leaves when every append succeeds.
-/

namespace DTLab

open Library (Text Json linesOf linesOf_line linesOf_tail linesOf_append linesOf_drop Complete
  universalNewlines universalNewlines_eq isBlank isAscii)
open Library.HashChain (tip tip_cons tip_concat)
open Library.Json (loads loads_line printable_dumps)

/-- What `pending_envelopes` returns for one record: the position behind its line, its hash and
its envelope. -/
structure PendingRecord where
  offset : Nat
  recordHash : String
  envelope : Json

/-- `SenderCursor`: a position in the spool and the hash of the record before it. -/
structure SenderCursor where
  offset : Int
  previousRecordSha256 : String
  deriving DecidableEq

/-- The cursor of a sender that has no cursor file. -/
def SenderCursor.start : SenderCursor := ⟨0, zeroHash⟩

variable (settings : SpoolSettings)

/-- The loop of `pending_envelopes` over the lines behind a position. Lines are those without the
escape of a lone surrogate, which `json.loads` keeps and this reader refuses. -/
def pendingRecords : Nat → Nat → String → List Text →
    Except SpoolFault (List PendingRecord)
  | 0, _, _, _ => .ok []
  | _, _, _, [] => .ok []
  | limit + 1, offset, previousHash, line :: lines =>
    if line.getLast? ≠ some '\n' then .ok []
    else
      match if isAscii line then loads settings.rounding line else none with
      | none => .error (.envelopeValidationError
          ("JSON spool non valido: " ++ settings.decoderMessage line))
      | some envelope =>
        match verifyEnvelope settings envelope (some previousHash) with
        | .error fault => .error fault
        | .ok recordHash =>
          (pendingRecords limit (offset + line.length) recordHash lines).map fun records =>
            ⟨offset + line.length, recordHash, envelope⟩ :: records

/-- `pending_envelopes`. -/
def pendingEnvelopes (file : Text) (cursor : SenderCursor) (limit : Int) :
    Except SpoolFault (List PendingRecord) :=
  if cursor.offset < 0 then .error .osError
  else
    pendingRecords settings limit.toNat cursor.offset.toNat cursor.previousRecordSha256
      (linesOf (file.drop cursor.offset.toNat))

/-- `envelope["integrity"]["record_sha256"]` as text, or nothing where Python raises. -/
def recordHashField : Json → Option String
  | .obj fields =>
    match getField "integrity" fields with
    | .obj integrity => (integrity.lookup "record_sha256").map (pyStr settings)
    | _ => none
  | _ => none

/-- A record holds its own hash. -/
theorem recordHashField_signedEnvelope (hash : String) (event : EventDocument settings.rounding) :
    recordHashField settings (signedEnvelope settings hash event) =
      some (recordHash settings hash event) := rfl

/-- The hash that the last line of a spool holds, which has no escape of a lone surrogate. -/
def storedHash (line : Text) : Except SpoolFault String :=
  match (loads settings.rounding line).bind (recordHashField settings) with
  | none => .error (.spoolError "Ultimo record spool non valido; append rifiutato.")
  | some hash => .ok hash

/-- `_last_record_hash`. -/
def lastRecordHash (file : Text) : Except SpoolFault String :=
  if !isAscii file then .error .valueError
  else
    match ((linesOf (universalNewlines file)).filter fun line => !line.all isBlank).getLast? with
    | none => .ok zeroHash
    | some line => storedHash settings line

/-! ## The file of a list of events -/

/-- The text of the record of an event, without its newline. -/
def recordText (previousHash : String) (event : EventDocument settings.rounding) : Text :=
  canonicalJson (signedEnvelope settings previousHash event)

/-- The lines of a list of events behind a hash. -/
def spoolText : String → List (EventDocument settings.rounding) → Text
  | _, [] => []
  | hash, event :: events =>
    recordText settings hash event ++ '\n' :: spoolText (recordHash settings hash event) events

/-- What the sender reads for a list of events behind a position and a hash. -/
def pendingOf : Nat → String → List (EventDocument settings.rounding) → List PendingRecord
  | _, _, [] => []
  | offset, hash, event :: events =>
    let next := offset + (recordText settings hash event).length + 1
    ⟨next, recordHash settings hash event, signedEnvelope settings hash event⟩ ::
      pendingOf next (recordHash settings hash event) events

/-! ## Lines of records -/

/-- A record is printable ASCII. -/
theorem recordText_printable (hash : String) (event : EventDocument settings.rounding) :
    Library.Printable (recordText settings hash event) :=
  printable_dumps (signedEnvelope settings hash event)

/-- No character below the space occurs in a record. -/
theorem notMem_recordText (hash : String) (event : EventDocument settings.rounding) {c : Char}
    (control : c.toNat < 0x20) : c ∉ recordText settings hash event := by
  intro member
  have printable := recordText_printable settings hash event c member
  simp only [Library.isPrintable, decide_eq_true_eq] at printable
  omega

/-- What is written of a line that is not complete is the beginning of its record. -/
theorem notMem_of_unfinished {hash : String} {event : EventDocument settings.rounding}
    {written unwritten : Text} (more : unwritten ≠ [])
    (line : written ++ unwritten = recordText settings hash event ++ ['\n']) :
    '\n' ∉ written ∧ written <+: recordText settings hash event := by
  obtain ⟨init, last, rfl⟩ := List.eq_nil_or_concat' unwritten |>.resolve_left more
  rw [← List.append_assoc] at line
  have bodies := List.append_inj_left' line (by simp)
  have inside : '\n' ∉ recordText settings hash event :=
    notMem_recordText settings hash event (by decide)
  rw [← bodies] at inside ⊢
  exact ⟨fun member => inside (List.mem_append_left init member), List.prefix_append _ _⟩

/-- A record is an object. -/
theorem recordText_eq_cons (hash : String) (event : EventDocument settings.rounding) :
    ∃ rest, recordText settings hash event = '{' :: rest := ⟨_, rfl⟩

/-- The line of a record reads as its envelope. -/
theorem loads_recordText (hash : String) (event : EventDocument settings.rounding) :
    loads settings.rounding (recordText settings hash event ++ ['\n']) =
      some (signedEnvelope settings hash event) :=
  loads_line true (signedEnvelope_wellFormed settings hash event)
    (signedEnvelope_fixed settings hash event)

/-- The line of a record is text. -/
theorem isAscii_line (hash : String) (event : EventDocument settings.rounding) :
    isAscii (recordText settings hash event ++ ['\n']) = true := by
  have printable := recordText_printable settings hash event
  simp only [isAscii, List.all_append, Bool.and_eq_true, List.all_eq_true, decide_eq_true_eq]
  refine ⟨fun c member => ?_, by simp⟩
  have bounds := printable c member
  simp only [Library.isPrintable, decide_eq_true_eq] at bounds
  omega

@[simp] theorem spoolText_nil (hash : String) : spoolText settings hash [] = [] := rfl

/-- The lines of two lists of events, one after the other. -/
theorem spoolText_append (hash : String) (first second : List (EventDocument settings.rounding)) :
    spoolText settings hash (first ++ second) =
      spoolText settings hash first ++
        spoolText settings (tip (recordHash settings) hash first) second := by
  induction first generalizing hash with
  | nil => rfl
  | cons event first ih => simp [spoolText, ih]

/-- Every event has one line. -/
theorem length_linesOf_spoolText (hash : String) (events : List (EventDocument settings.rounding)) :
    (linesOf (spoolText settings hash events)).length = events.length := by
  induction events generalizing hash with
  | nil => rfl
  | cons event events ih =>
    have inside : '\n' ∉ recordText settings hash event :=
      notMem_recordText settings hash event (by decide)
    rw [spoolText, linesOf_line inside, List.length_cons, List.length_cons, ih]

/-- What a successful read of a line and the lines behind it has done: it stopped there, or it
accepted the line and read on. -/
theorem pendingRecords_cons_ok {limit offset : Nat} {previousHash : String} {line : Text}
    {lines : List Text} {records : List PendingRecord}
    (read : pendingRecords settings limit offset previousHash (line :: lines) = .ok records) :
    records = [] ∨ ∃ limit' envelope hash later, limit = limit' + 1 ∧
      loads settings.rounding line = some envelope ∧
      verifyEnvelope settings envelope (some previousHash) = .ok hash ∧
      pendingRecords settings limit' (offset + line.length) hash lines = .ok later ∧
      records = ⟨offset + line.length, hash, envelope⟩ :: later := by
  cases limit with
  | zero => exact Or.inl (by simpa [pendingRecords] using read.symm)
  | succ limit =>
    rw [pendingRecords] at read
    by_cases partial' : line.getLast? ≠ some '\n'
    · rw [if_pos partial', Except.ok.injEq] at read
      exact Or.inl read.symm
    · rw [if_neg partial'] at read
      cases parsed : if isAscii line then loads settings.rounding line else none with
      | none => simp [parsed] at read
      | some envelope =>
        have loaded : loads settings.rounding line = some envelope := by
          split_ifs at parsed
          exact parsed
        cases verified : verifyEnvelope settings envelope (some previousHash) with
        | error fault => simp [parsed, verified] at read
        | ok hash =>
          cases rest : pendingRecords settings limit (offset + line.length) hash lines with
          | error fault => simp [parsed, verified, rest, Except.map] at read
          | ok later =>
            simp only [parsed, verified, rest, Except.map, Except.ok.injEq] at read
            exact Or.inr ⟨limit, envelope, hash, later, rfl, loaded, verified, rest, read.symm⟩

/-- The loop reads one record and goes on behind it. -/
theorem pendingRecords_succ (limit offset : Nat) (previousHash : String) (lines : List Text) :
    pendingRecords settings (limit + 1) offset previousHash lines =
      match pendingRecords settings 1 offset previousHash lines with
      | .error fault => .error fault
      | .ok [] => .ok []
      | .ok (record :: _) =>
        (pendingRecords settings limit record.offset record.recordHash lines.tail).map
          fun records => record :: records := by
  cases lines with
  | nil => rfl
  | cons line lines =>
    simp only [pendingRecords]
    by_cases partial' : line.getLast? ≠ some '\n'
    · simp [if_pos partial']
    · simp only [if_neg partial']
      cases if isAscii line then loads settings.rounding line else none with
      | none => rfl
      | some envelope =>
        dsimp only
        cases verifyEnvelope settings envelope (some previousHash) <;> rfl

/-- `pending_envelopes` reads one record and goes on behind it. -/
theorem pendingEnvelopes_succ (file : Text) (cursor : SenderCursor) (limit : Nat) :
    pendingEnvelopes settings file cursor (limit + 1) =
      match pendingEnvelopes settings file cursor 1 with
      | .error fault => .error fault
      | .ok [] => .ok []
      | .ok (record :: _) =>
        (pendingEnvelopes settings file ⟨record.offset, record.recordHash⟩ limit).map
          fun records => record :: records := by
  have count : ((limit : Int) + 1).toNat = limit + 1 := by omega
  have one : (1 : Int).toNat = 1 := rfl
  by_cases negative : cursor.offset < 0
  · simp [pendingEnvelopes, negative]
  · simp only [pendingEnvelopes, if_neg negative, count, one, pendingRecords_succ settings limit]
    cases lines : linesOf (file.drop cursor.offset.toNat) with
    | nil => rfl
    | cons line lines' =>
      cases first : pendingRecords settings 1 cursor.offset.toNat cursor.previousRecordSha256
          (line :: lines') with
      | error fault => rfl
      | ok records =>
        rcases pendingRecords_cons_ok settings first with
          rfl | ⟨limit', envelope, hash, later, -, -, -, -, rfl⟩
        · rfl
        · have behind := linesOf_drop lines
          have inside : ¬((cursor.offset.toNat + line.length : Nat) : Int) < 0 := by omega
          rw [List.drop_drop] at behind
          simp only [if_neg inside, Int.toNat_natCast, behind, List.tail_cons]

/-- The reader's step over the line of a record. -/
theorem pendingRecords_record (limit offset : Nat) (expected hash : String)
    (event : EventDocument settings.rounding) (rest : Text) :
    pendingRecords settings (limit + 1) offset expected
        (linesOf (recordText settings hash event ++ '\n' :: rest)) =
      if hash = expected then
        (pendingRecords settings limit (offset + (recordText settings hash event).length + 1)
          (recordHash settings hash event) (linesOf rest)).map fun records =>
            pendingOf settings offset hash [event] ++ records
      else .error (.envelopeValidationError "Catena spool interrotta.") := by
  have inside : '\n' ∉ recordText settings hash event :=
    notMem_recordText settings hash event (by decide)
  have verified := verifyEnvelope_signedEnvelope settings hash event (some expected)
  simp only [linesOf_line inside, pendingRecords, List.getLast?_concat, ne_eq,
    not_true_eq_false, ↓reduceIte, isAscii_line, loads_recordText, verified, List.length_append,
    List.length_singleton]
  by_cases same : hash = expected
  · simp [same, pendingOf, Nat.add_assoc]
  · simp [same]

/-- The reader returns the records of the lines in front, up to its limit, and goes on behind
them. -/
theorem pendingRecords_spoolText (limit offset : Nat) (hash : String)
    (events : List (EventDocument settings.rounding)) (rest : Text) :
    pendingRecords settings limit offset hash
        (linesOf (spoolText settings hash events ++ rest)) =
      (pendingRecords settings (limit - events.length)
        (offset + (spoolText settings hash events).length)
        (tip (recordHash settings) hash events) (linesOf rest)).map fun records =>
          pendingOf settings offset hash (events.take limit) ++ records := by
  have unchanged (result : Except SpoolFault (List PendingRecord)) :
      result.map (fun records => [] ++ records) = result := by cases result <;> rfl
  induction events generalizing limit offset hash with
  | nil => simpa [pendingOf] using (unchanged _).symm
  | cons event events ih =>
    cases limit with
    | zero => simp [pendingRecords, pendingOf, Except.map]
    | succ limit =>
      have step := pendingRecords_record settings limit offset hash hash event
        (spoolText settings (recordHash settings hash event) events ++ rest)
      have later := ih limit (offset + (recordText settings hash event).length + 1)
        (recordHash settings hash event)
      have length : (recordText settings hash event).length + 1 +
          (spoolText settings (recordHash settings hash event) events).length =
          (spoolText settings hash (event :: events)).length := by
        simp only [spoolText, List.length_append, List.length_cons]
        omega
      have count : limit + 1 - (event :: events).length = limit - events.length := by simp
      have text : spoolText settings hash (event :: events) ++ rest =
          recordText settings hash event ++
            '\n' :: (spoolText settings (recordHash settings hash event) events ++ rest) := by
        simp [spoolText]
      rw [if_pos rfl, later, Nat.add_assoc offset, Nat.add_assoc offset, length] at step
      rw [text, step, count, tip_cons]
      cases pendingRecords settings (limit - events.length) _ _ _ with
      | error fault => rfl
      | ok records => simp [Except.map, pendingOf, Nat.add_assoc]

/-- A line without its newline is left for later. -/
theorem pendingRecords_tail (limit offset : Nat) (hash : String) {tail : Text}
    (inside : '\n' ∉ tail) :
    pendingRecords settings limit offset hash (linesOf tail) = .ok [] := by
  cases limit with
  | zero => simp [pendingRecords]
  | succ limit =>
    by_cases empty : tail = []
    · simp [empty, pendingRecords]
    · have last : tail.getLast? ≠ some '\n' := fun same =>
        inside (List.mem_of_getLast? same)
      simp [linesOf_tail inside, empty, pendingRecords, last]

@[simp] theorem length_pendingOf (offset : Nat) (hash : String)
    (events : List (EventDocument settings.rounding)) :
    (pendingOf settings offset hash events).length = events.length := by
  induction events generalizing offset hash with
  | nil => rfl
  | cons event events ih => simp [pendingOf, ih]

/-- The envelopes read are those of the events. -/
theorem map_event_pendingOf (offset : Nat) (hash : String)
    (events : List (EventDocument settings.rounding)) :
    (pendingOf settings offset hash events).map (fun record => envelopeEvent record.envelope) =
      events.map EventDocument.toJson := by
  induction events generalizing offset hash with
  | nil => rfl
  | cons event events ih =>
    simp only [pendingOf, List.map_cons, ih, List.cons.injEq, and_true]
    rfl

/-- What the sender reads for two lists of events, one after the other. -/
theorem pendingOf_append (offset : Nat) (hash : String)
    (first second : List (EventDocument settings.rounding)) :
    pendingOf settings offset hash (first ++ second) =
      pendingOf settings offset hash first ++
        pendingOf settings (offset + (spoolText settings hash first).length)
          (tip (recordHash settings) hash first) second := by
  induction first generalizing offset hash with
  | nil => rfl
  | cons event first ih =>
    simp only [List.cons_append, pendingOf, spoolText, tip_cons, ih, List.length_append,
      List.length_cons]
    congr 3
    omega

/-- The position behind a list of events, with the hash there. -/
def cursorAt (events : List (EventDocument settings.rounding)) : SenderCursor :=
  ⟨(spoolText settings zeroHash events).length, chainHash settings events⟩

/-- A hash of the chain has digits. -/
theorem chainHash_ne (events : List (EventDocument settings.rounding)) :
    chainHash settings events ≠ "" := by
  cases events using List.reverseRecOn with
  | nil => exact (by decide : zeroHash ≠ "")
  | append_singleton events event =>
    rw [chainHash, tip_concat]
    exact settings.sha256Text_ne _

/-- Behind a list of events the reader is in front of what follows it. -/
theorem pendingEnvelopes_cursorAt (before : List (EventDocument settings.rounding)) (rest : Text)
    (limit : Int) :
    pendingEnvelopes settings (spoolText settings zeroHash before ++ rest)
        (cursorAt settings before) limit =
      pendingRecords settings limit.toNat (spoolText settings zeroHash before).length
        (chainHash settings before) (linesOf rest) := by
  have inside : ¬(((spoolText settings zeroHash before).length : Int) < 0) := by omega
  simp only [pendingEnvelopes, cursorAt, if_neg inside, Int.toNat_natCast, List.drop_left]

/-! ## Opening the spool -/

/-- Printable lines are ASCII text without carriage returns. -/
theorem plain_of_printable {text : Text}
    (lines : ∀ c ∈ text, c = '\n' ∨ Library.isPrintable c = true) :
    isAscii text = true ∧ '\r' ∉ text := by
  constructor
  · simp only [isAscii, List.all_eq_true, decide_eq_true_eq]
    intro c member
    rcases lines c member with rfl | printable
    · decide
    · simp only [Library.isPrintable, decide_eq_true_eq] at printable
      omega
  · intro member
    exact absurd (lines '\r' member) (by decide)

/-- The lines of events are printable. -/
theorem spoolText_printable (hash : String) (events : List (EventDocument settings.rounding)) :
    ∀ c ∈ spoolText settings hash events, c = '\n' ∨ Library.isPrintable c = true := by
  induction events generalizing hash with
  | nil => simp
  | cons event events ih =>
    intro c member
    simp only [spoolText, List.mem_append, List.mem_cons] at member
    rcases member with first | newline | later
    · exact Or.inr (recordText_printable settings hash event c first)
    · exact Or.inl newline
    · exact ih (recordHash settings hash event) c later

/-- The lines of events are complete. -/
theorem complete_spoolText (hash : String) (events : List (EventDocument settings.rounding)) :
    Complete (spoolText settings hash events) := by
  cases events using List.reverseRecOn with
  | nil => simp [Complete]
  | append_singleton events event => simp [spoolText_append, spoolText, Complete]

/-- The hash that opening finds is the one in the last line that is not blank. -/
theorem lastRecordHash_line {front line : Text}
    (printable : ∀ c ∈ front ++ line, c = '\n' ∨ Library.isPrintable c = true)
    (complete : Complete front) (single : linesOf line = [line])
    (shown : line.all isBlank = false) :
    lastRecordHash settings (front ++ line) = storedHash settings line := by
  obtain ⟨ascii, noReturn⟩ := plain_of_printable printable
  simp [lastRecordHash, ascii, universalNewlines_eq noReturn, linesOf_append complete, single,
    shown]

/-- The line of a record is not blank. -/
theorem recordText_shown (hash : String) (event : EventDocument settings.rounding)
    (rest : Text) : (recordText settings hash event ++ rest).all isBlank = false := by
  obtain ⟨later, object⟩ := recordText_eq_cons settings hash event
  rw [object]
  rfl

/-- The line of a record holds its hash. -/
theorem storedHash_record (hash : String) (event : EventDocument settings.rounding) :
    storedHash settings (recordText settings hash event ++ ['\n']) =
      .ok (recordHash settings hash event) := by
  simp only [storedHash, loads_recordText, Option.bind_some]
  rfl

/-- Opening the spool of a list of events finds the hash behind the last of them. -/
theorem lastRecordHash_spoolText (events : List (EventDocument settings.rounding)) :
    lastRecordHash settings (spoolText settings zeroHash events) =
      .ok (chainHash settings events) := by
  cases events using List.reverseRecOn with
  | nil => rfl
  | append_singleton events event =>
    have inside : '\n' ∉ recordText settings (chainHash settings events) event :=
      notMem_recordText settings _ event (by decide)
    have single := linesOf_line inside []
    have text : spoolText settings zeroHash (events ++ [event]) =
        spoolText settings zeroHash events ++
          (recordText settings (chainHash settings events) event ++ ['\n']) :=
      spoolText_append settings zeroHash events [event]
    have found := lastRecordHash_line settings
      (text ▸ spoolText_printable settings zeroHash (events ++ [event]))
      (complete_spoolText settings zeroHash events) single (recordText_shown settings _ event _)
    rw [text, found, storedHash_record, chainHash, chainHash, tip_concat]

/-- A read from the start of complete lines and a torn one returns the records of the lines, up
to its limit. -/
theorem pendingEnvelopes_start (limit : Int) (events : List (EventDocument settings.rounding))
    {tail : Text} (inside : '\n' ∉ tail) :
    pendingEnvelopes settings (spoolText settings zeroHash events ++ tail) .start limit =
      .ok (pendingOf settings 0 zeroHash (events.take limit.toNat)) := by
  have lines := pendingRecords_spoolText settings limit.toNat 0 zeroHash events tail
  rw [pendingRecords_tail settings _ _ _ inside] at lines
  simpa [pendingEnvelopes, SenderCursor.start, Except.map] using lines

end DTLab
