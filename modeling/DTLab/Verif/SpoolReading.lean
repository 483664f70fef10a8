import DTLab.Library.JsonSize
import DTLab.Spool.Append
import DTLab.Verif.Tamper

/-!
# Reading the spool after failed appends

After every failure, crash and continuation the file is whole lines followed by a torn one, as
long as no whole line reaches the file behind a torn line or behind a record whose hash the
process does not hold. Then a reader from the start finds every record whose append returned.
-/

namespace DTLab

open Library (Text FloatLiteral linesOf linesOf_line linesOf_append Complete System.run System.Keeps
  System.run_invariant)
open Library.Json (loads length_dumps_le)

variable {settings : SpoolSettings}

/-- Later appends are refused: no process holds the spool, and opening it raises. -/
def AppendRefused (world : SpoolWorld settings) : Prop :=
  (∃ fault, lastRecordHash settings world.file = .error fault) ∧
    match world.process with
    | .down => True
    | _ => False

/-- A read from the start, with a limit that the file does not reach, returns in order every
record whose append returned. -/
def Readable (world : SpoolWorld settings) : Prop :=
  ∀ limit : Int, (linesOf world.file).length ≤ limit →
    ∃ records, pendingEnvelopes settings world.file .start limit = .ok records ∧
      (world.returned.map EventDocument.toJson).Sublist
        (records.map fun record => envelopeEvent record.envelope)

/-- Appends are crash-atomic for the reader. -/
def CrashAtomic (world : SpoolWorld settings) : Prop := AppendRefused world ∨ Readable world

/-- A step that completes a line does so behind complete lines, the last of which has the hash
that the process holds. -/
def Settled (world : SpoolWorld settings) : SpoolAction settings → Prop
  | .write count =>
    match world.process with
    | .appending previousHash _ currentSize unwritten =>
      unwritten.length ≤ count →
        Complete (world.file.take currentSize) ∧
          lastRecordHash settings (world.file.take currentSize) = .ok previousHash
    | _ => True
  | _ => True

/-- The file is the lines of the appended events and a torn line. -/
structure SpoolSound (world : SpoolWorld settings) : Prop where
  file : ∃ torn, '\n' ∉ torn ∧ world.file = spoolText settings zeroHash world.appended ++ torn
  /-- An append that has not written its newline yet is behind those lines. -/
  writing : ∀ previousHash event currentSize unwritten,
    world.process = .appending previousHash event currentSize unwritten → unwritten ≠ [] →
    ∃ torn written, '\n' ∉ torn ∧
      world.file = spoolText settings zeroHash world.appended ++ torn ++ written ∧
      currentSize = (spoolText settings zeroHash world.appended ++ torn).length ∧
      written ++ unwritten = recordText settings previousHash event ++ ['\n']
  /-- An append that has written its line is about the last appended event. -/
  written : ∀ previousHash event currentSize,
    world.process = .appending previousHash event currentSize [] →
    (world.returned ++ [event]).Sublist world.appended
  returned : world.returned.Sublist world.appended

/-- A sound file is readable. -/
theorem SpoolSound.readable {world : SpoolWorld settings} (sound : SpoolSound world) :
    Readable world := by
  intro limit enough
  obtain ⟨torn, inside, file⟩ := sound.file
  have lines : world.appended.length ≤ (linesOf world.file).length := by
    rw [file, linesOf_append (complete_spoolText settings zeroHash world.appended),
      List.length_append, length_linesOf_spoolText]
    exact Nat.le_add_right _ _
  have all : world.appended.take limit.toNat = world.appended :=
    List.take_of_length_le (by omega)
  refine ⟨pendingOf settings 0 zeroHash world.appended, ?_, ?_⟩
  · rw [file, pendingEnvelopes_start settings limit world.appended inside, all]
  · rw [map_event_pendingOf]
    exact sound.returned.map EventDocument.toJson

/-- A complete text of complete lines and a torn line has nothing torn. -/
theorem torn_eq_nil {front torn : Text} (inside : '\n' ∉ torn)
    (complete : Complete (front ++ torn)) :
    torn = [] := by
  cases torn using List.reverseRecOn with
  | nil => rfl
  | append_singleton torn c =>
    have newline : c = '\n' := complete c (by simp)
    exact absurd (by simp [newline]) inside

namespace SpoolSound

variable {world next : SpoolWorld settings}

theorem start : SpoolSound (SpoolWorld.start settings) where
  file := ⟨[], by simp, rfl⟩
  writing := by intro _ _ _ _ appending; cases appending
  written := by intro _ _ _ appending; cases appending
  returned := List.Sublist.slnil

/-- A step that leaves the file and no append keeps the file readable. -/
theorem quiet (sound : SpoolSound world) {process : SpoolProcess settings}
    (idle : ∀ previousHash event currentSize unwritten,
      process ≠ .appending previousHash event currentSize unwritten)
    {returned : List (EventDocument settings.rounding)}
    (order : returned.Sublist world.appended) :
    SpoolSound { world with process := process, returned := returned } where
  file := sound.file
  writing := fun _ _ _ _ appending => absurd appending (idle _ _ _ _)
  written := fun _ _ _ appending => absurd appending (idle _ _ _ _)
  returned := order

/-- An append that begins has its whole line to write behind the file. -/
theorem begin (sound : SpoolSound world) (previousHash : String)
    (event : EventDocument settings.rounding) :
    SpoolSound { world with
      process := .appending previousHash event world.file.length
        (recordText settings previousHash event ++ ['\n']) } where
  file := sound.file
  writing := by
    intro _ _ _ _ appending _
    obtain ⟨torn, inside, file⟩ := sound.file
    injection appending with hash same size unwritten
    subst hash same size unwritten
    exact ⟨torn, [], inside, by simpa using file, by rw [file], rfl⟩
  written := by
    intro _ _ _ appending
    injection appending with _ _ _ unwritten
    exact absurd unwritten (by simp)
  returned := sound.returned

/-- A chunk that does not complete its line tears it. -/
theorem writePart (sound : SpoolSound world) {previousHash : String}
    {event : EventDocument settings.rounding} {currentSize count : Nat} {unwritten : Text}
    (appending : world.process = .appending previousHash event currentSize unwritten)
    (part : count < unwritten.length)
    (file : next.file = world.file ++ unwritten.take count)
    (process : next.process = .appending previousHash event currentSize (unwritten.drop count))
    (returned : next.returned = world.returned) (appended : next.appended = world.appended) :
    SpoolSound next := by
  have left : unwritten.drop count ≠ [] := by
    intro empty
    have length := congrArg List.length empty
    simp at length
    omega
  have some' : unwritten ≠ [] := by
    rintro rfl
    simp at part
  obtain ⟨torn, written, inside, text, size, line⟩ := sound.writing _ _ _ _ appending some'
  have longer : (written ++ unwritten.take count) ++ unwritten.drop count =
      recordText settings previousHash event ++ ['\n'] := by
    rw [List.append_assoc, List.take_append_drop, line]
  have behind : '\n' ∉ written ++ unwritten.take count :=
    (notMem_of_unfinished settings left longer).1
  have whole : next.file = spoolText settings zeroHash next.appended ++ torn ++
      (written ++ unwritten.take count) := by
    rw [file, text, appended, List.append_assoc _ written]
  refine ⟨⟨torn ++ (written ++ unwritten.take count), ?_, ?_⟩, ?_, ?_, ?_⟩
  · simp only [List.mem_append, not_or] at behind ⊢
    exact ⟨inside, behind⟩
  · rw [whole, List.append_assoc]
  · intro hash' event' size' unwritten' appending' _
    rw [process] at appending'
    injection appending' with hash same size'' rest
    subst hash same size'' rest
    exact ⟨torn, _, inside, whole, by rw [appended]; exact size, longer⟩
  · intro hash' event' size' appending'
    rw [process] at appending'
    injection appending' with _ _ _ rest
    exact absurd rest left
  · rw [returned, appended]
    exact sound.returned

/-- A line that is completed in a settled state is the next line of the file. -/
theorem writeWhole (sound : SpoolSound world) {previousHash : String}
    {event : EventDocument settings.rounding} {currentSize count : Nat} {unwritten : Text}
    (appending : world.process = .appending previousHash event currentSize unwritten)
    (some' : unwritten ≠ []) (whole : unwritten.length ≤ count)
    (settled : Complete (world.file.take currentSize) ∧
      lastRecordHash settings (world.file.take currentSize) = .ok previousHash)
    (file : next.file = world.file ++ unwritten.take count)
    (process : next.process = .appending previousHash event currentSize (unwritten.drop count))
    (returned : next.returned = world.returned)
    (appended : next.appended = world.appended ++ [event]) : SpoolSound next := by
  obtain ⟨torn, written, inside, text, size, line⟩ := sound.writing _ _ _ _ appending some'
  have before : world.file.take currentSize =
      spoolText settings zeroHash world.appended ++ torn := by
    rw [text, size, List.take_left']
    rfl
  obtain ⟨complete, last⟩ := settled
  rw [before] at complete last
  obtain rfl := torn_eq_nil inside complete
  rw [List.append_nil] at last text
  rw [lastRecordHash_spoolText, Except.ok.injEq] at last
  have done : unwritten.drop count = [] := List.drop_of_length_le whole
  have lines : next.file = spoolText settings zeroHash next.appended := by
    rw [file, text, List.take_of_length_le whole, List.append_assoc, line, appended,
      spoolText_append, ← chainHash, last]
    rfl
  refine ⟨⟨[], by simp, by rw [lines, List.append_nil]⟩, ?_, ?_, ?_⟩
  · intro hash' event' size' unwritten' appending' more
    rw [process] at appending'
    injection appending' with _ _ _ rest
    exact absurd (rest.symm.trans done) more
  · intro hash' event' size' appending'
    rw [process] at appending'
    injection appending' with _ same _ _
    subst same
    rw [returned, appended]
    exact sound.returned.append (List.Sublist.refl _)
  · rw [returned, appended]
    exact sound.returned.trans (List.sublist_append_left _ _)

/-- Every settled step keeps the file sound. -/
theorem step (sound : SpoolSound world) (action : SpoolAction settings)
    (settled : Settled world action) (taken : world.step action = some next) :
    SpoolSound next := by
  cases action with
  | openSpool =>
    obtain ⟨-, ⟨previousHash, -, rfl⟩ | rfl⟩ := SpoolWorld.step_openSpool taken
    · exact sound.quiet (by simp) sound.returned
    · exact sound
  | beginAppend event =>
    obtain ⟨previousHash, -, rfl | rfl⟩ := SpoolWorld.step_beginAppend taken
    · exact sound
    · exact sound.begin previousHash event
  | write count =>
    obtain ⟨previousHash, event, currentSize, unwritten, appending, some', file, process, returned,
      appended⟩ := SpoolWorld.step_write taken
    by_cases whole : unwritten.length ≤ count
    · simp only [Settled, appending] at settled
      rw [if_pos whole] at appended
      exact sound.writeWhole appending some' whole (settled whole) file process returned appended
    · rw [if_neg whole] at appended
      exact sound.writePart appending (by omega) file process returned appended
  | returnAppend =>
    obtain ⟨previousHash, event, currentSize, appending, rfl⟩ :=
      SpoolWorld.step_returnAppend taken
    exact sound.quiet (by simp) (sound.written _ _ _ appending)
  | raiseAppend =>
    obtain ⟨previousHash, event, currentSize, unwritten, appending, rfl⟩ :=
      SpoolWorld.step_raiseAppend taken
    exact sound.quiet (by simp) sound.returned
  | crash =>
    obtain rfl := Option.some.inj taken
    exact sound.quiet (by simp) sound.returned

end SpoolSound

variable (settings)

/-- Appends are crash-atomic in every state of a run whose steps are settled. -/
theorem crashAtomic_of_settled (actions : List (SpoolAction settings))
    (settled : System.Keeps SpoolWorld.step Settled (SpoolWorld.start settings) actions)
    (world : SpoolWorld settings)
    (reached : System.run SpoolWorld.step (SpoolWorld.start settings) actions = some world) :
    CrashAtomic world := by
  have sound : SpoolSound world := System.run_invariant
    (fun state action next sound settled taken => SpoolSound.step sound action settled taken)
    SpoolSound.start settled reached
  exact Or.inr sound.readable

/-! ## Going on behind a torn line -/

variable {settings}

/-- An object does not begin with another one. -/
theorem loads_open_twice (rounding : FloatLiteral → FloatLiteral) (rest : Text) :
    loads rounding ('{' :: '{' :: rest) = none := by
  have object (fuel : Nat) : Library.Json.readObject rounding (fuel + 1) ('{' :: rest) = none := by
    cases fuel <;> simp [Library.Json.readObject, Library.Json.readMember]
  have fuel : 3 * ('{' :: '{' :: rest).length + 3 = (3 * rest.length + 7) + 1 + 1 := by
    simp only [List.length_cons]
    omega
  have first : Library.skipSpace ('{' :: '{' :: rest) = '{' :: '{' :: rest := rfl
  have second : Library.skipSpace ('{' :: rest) = '{' :: rest := rfl
  rw [loads, fuel, first, Library.Json.readValue, second, object]

/-- A line that begins with a torn brace is refused. -/
theorem pendingEnvelopes_torn (hash : String) (event : EventDocument settings.rounding)
    {limit : Int} (positive : 0 < limit) :
    ∃ fault, pendingEnvelopes settings ('{' :: (recordText settings hash event ++ ['\n']))
      .start limit = .error fault := by
  obtain ⟨rest, object⟩ := recordText_eq_cons settings hash event
  have inside : '\n' ∉ '{' :: recordText settings hash event := by
    have record := notMem_recordText settings hash event (c := '\n') (by decide)
    simpa using record
  have lines := linesOf_line inside []
  obtain ⟨count, counted⟩ : ∃ count, limit.toNat = count + 1 := ⟨limit.toNat - 1, by omega⟩
  have refused : loads settings.rounding ('{' :: (recordText settings hash event ++ ['\n'])) =
      none := by
    rw [object]
    exact loads_open_twice settings.rounding _
  have last : ('{' :: (recordText settings hash event ++ ['\n'])).getLast? = some '\n' := by
    rw [← List.cons_append, List.getLast?_concat]
  have start : pendingEnvelopes settings ('{' :: (recordText settings hash event ++ ['\n'])) .start
      limit = pendingRecords settings (count + 1) 0 zeroHash
        ['{' :: (recordText settings hash event ++ ['\n'])] := by
    rw [List.cons_append, Library.linesOf_nil] at lines
    simp [pendingEnvelopes, SenderCursor.start, counted, lines]
  rw [start, pendingRecords, if_neg (by simp [last]), refused, ite_self]
  exact ⟨_, rfl⟩

/-- A process that goes on behind one torn character: its next append returns, and no reader gets
past the torn line. -/
theorem torn_append_unreadable (event : EventDocument settings.rounding) {count : Nat}
    (whole : (recordText settings zeroHash event).length + 1 ≤ count)
    (fits : ((recordText settings zeroHash event).length + 2 : Nat) ≤ settings.maxBytes) :
    ∃ world, System.run SpoolWorld.step (SpoolWorld.start settings)
        [.openSpool, .beginAppend event, .write 1, .raiseAppend, .beginAppend event, .write count,
          .returnAppend] = some world ∧ ¬CrashAtomic world := by
  have opened : lastRecordHash settings [] = .ok zeroHash := rfl
  have hash := recordHashField_signedEnvelope settings zeroHash event
  obtain ⟨rest, object⟩ := recordText_eq_cons settings zeroHash event
  have line : canonicalJson (signedEnvelope settings zeroHash event) = '{' :: rest := object
  rw [object, List.length_cons] at fits whole
  have first : ¬settings.maxBytes < (rest.length : Int) + 1 + 1 := by omega
  have second : ¬settings.maxBytes < 1 + ((rest.length : Int) + 1 + 1) := by omega
  have all : ('{' :: (rest ++ ['\n'])).length ≤ count := by simpa using whole
  have taken := List.take_of_length_le all
  have dropped := List.drop_of_length_le all
  refine ⟨⟨'{' :: (recordText settings zeroHash event ++ ['\n']),
    .idle (recordHash settings zeroHash event), [event], [event]⟩, ?_, ?_⟩
  · simp [System.run, SpoolWorld.step, SpoolWorld.start, opened, buildEnvelope_eq, line, object,
      hash, first, second, taken, dropped]
    omega
  · rintro (⟨-, down⟩ | readable)
    · exact down
    · obtain ⟨records, read, -⟩ := readable
        ((linesOf ('{' :: (recordText settings zeroHash event ++ ['\n']))).length + 1)
        (Int.le_add_of_nonneg_right (by decide))
      have positive : 0 <
          ((linesOf ('{' :: (recordText settings zeroHash event ++ ['\n']))).length : Int) + 1 := by
        omega
      obtain ⟨fault, raised⟩ := pendingEnvelopes_torn zeroHash event positive
      rw [raised] at read
      cases read

/-- The record of the heartbeat is short. -/
theorem sampleEvent_fits : (recordText sampleSpool zeroHash sampleEvent).length ≤ 100000 := by
  have bounded := length_dumps_le true (signedEnvelope sampleSpool zeroHash sampleEvent)
  have sized : (signedEnvelope sampleSpool zeroHash sampleEvent).bound
      (fun s => 12 * s.utf8ByteSize) ≤ 100000 := by
    simp only [signedEnvelope, sampleSpool_payload, sampleSpool_signature, sampleSpool_recordHash]
    decide +kernel
  exact bounded.trans sized

/-- Two short records fit in the sample spool. -/
theorem sampleSpool_room {event : EventDocument sampleSpool.rounding}
    (short : (recordText sampleSpool zeroHash event).length ≤ 100000) {more : Nat}
    (few : more ≤ 100) :
    ((recordText sampleSpool zeroHash event).length + more : Nat) ≤ sampleSpool.maxBytes := by
  have maxBytes : sampleSpool.maxBytes = 52428800 := rfl
  omega

/-- The spool of the sample plant after one torn character and an append that returned. -/
theorem append_behind_torn_line :
    ∃ world, System.run SpoolWorld.step (SpoolWorld.start sampleSpool)
        [.openSpool, .beginAppend sampleEvent, .write 1, .raiseAppend, .beginAppend sampleEvent,
          .write 1000000, .returnAppend] = some world ∧ ¬CrashAtomic world := by
  have whole : (recordText sampleSpool zeroHash sampleEvent).length + 1 ≤ 1000000 :=
    (Nat.add_le_add_right sampleEvent_fits 1).trans (by decide)
  exact torn_append_unreadable sampleEvent whole (sampleSpool_room sampleEvent_fits (by decide))

/-- The steps of an append whose line reaches the file in two chunks, with a crash behind it. -/
def chunkedAppend (event : EventDocument settings.rounding) : List (SpoolAction settings) :=
  [.openSpool, .beginAppend event, .write 1, .write 1000000, .returnAppend, .crash]

/-- The chunks of a record that fits settle and leave its line. -/
theorem chunkedAppend_run (event : EventDocument settings.rounding)
    (short : (recordText settings zeroHash event).length ≤ 100000)
    (fits : ((recordText settings zeroHash event).length + 1 : Nat) ≤ settings.maxBytes) :
    System.Keeps SpoolWorld.step Settled (SpoolWorld.start settings) (chunkedAppend event) ∧
      System.run SpoolWorld.step (SpoolWorld.start settings) (chunkedAppend event) =
        some ⟨recordText settings zeroHash event ++ ['\n'], .down, [event], [event]⟩ := by
  have opened : lastRecordHash settings [] = .ok zeroHash := rfl
  have hash := recordHashField_signedEnvelope settings zeroHash event
  obtain ⟨rest, object⟩ := recordText_eq_cons settings zeroHash event
  have line : canonicalJson (signedEnvelope settings zeroHash event) = '{' :: rest := object
  rw [object, List.length_cons] at short fits
  have first : ¬settings.maxBytes < (rest.length : Int) + 1 + 1 := by omega
  obtain ⟨c, more, tail⟩ := List.exists_cons_of_ne_nil
    (List.append_ne_nil_of_right_ne_nil rest (List.cons_ne_nil '\n' []))
  have length := congrArg List.length tail
  simp only [List.length_append, List.length_cons, List.length_nil] at length
  have all : more.length ≤ 999999 := by omega
  have taken := List.take_of_length_le all
  have dropped := List.drop_of_length_le all
  constructor
  · simp [chunkedAppend, System.Keeps, Settled, SpoolWorld.step, SpoolWorld.start, opened,
      buildEnvelope_eq, line, first, tail, Complete]
  · simp [chunkedAppend, System.run, SpoolWorld.step, SpoolWorld.start, opened, buildEnvelope_eq,
      line, object, hash, first, tail, taken, dropped]
    omega

/-- The steps of an append that fails before a character reaches the file, of the same append in two
chunks, of a crash, and of a process that opens the spool again and crashes within its first
line. -/
def reopenedAppend (event next : EventDocument settings.rounding) : List (SpoolAction settings) :=
  [.openSpool, .beginAppend event, .raiseAppend] ++
    ([.beginAppend event, .write 1, .write (recordText settings zeroHash event).length,
      .returnAppend, .crash] ++ [.openSpool, .beginAppend next, .write 1, .crash])

/-- A settled step in front of settled ones. -/
theorem settled_cons {state between final : SpoolWorld settings} {action : SpoolAction settings}
    {actions : List (SpoolAction settings)} (settled : Settled state action)
    (taken : state.step action = some between)
    (rest : System.Keeps SpoolWorld.step Settled between actions ∧
      System.run SpoolWorld.step between actions = some final) :
    System.Keeps SpoolWorld.step Settled state (action :: actions) ∧
      System.run SpoolWorld.step state (action :: actions) = some final := by
  refine ⟨Library.System.Keeps.cons settled taken rest.1, ?_⟩
  rw [Library.System.run_cons taken]
  exact rest.2

/-- The spool is opened behind its last record. -/
theorem step_open {file : Text} {hash : String} (found : lastRecordHash settings file = .ok hash)
    (appended returned : List (EventDocument settings.rounding)) :
    SpoolWorld.step ⟨file, .down, appended, returned⟩ .openSpool =
      some ⟨file, .idle hash, appended, returned⟩ := by
  rw [SpoolWorld.step, found]

/-- An append begins where its line fits. -/
theorem step_begin {file : Text} {hash : String} {event : EventDocument settings.rounding}
    (fits : ((file.length + ((recordText settings hash event).length + 1) : Nat) : Int) ≤
      settings.maxBytes) (appended returned : List (EventDocument settings.rounding)) :
    SpoolWorld.step ⟨file, .idle hash, appended, returned⟩ (.beginAppend event) =
      some ⟨file, .appending hash event file.length (recordText settings hash event ++ ['\n']),
        appended, returned⟩ := by
  have length : (recordText settings hash event ++ ['\n']).length =
      (recordText settings hash event).length + 1 := by
    rw [List.length_append, List.length_singleton]
  have room : ¬ settings.maxBytes <
      (file.length : Int) + ((recordText settings hash event ++ ['\n']).length : Int) := by
    rw [length]
    omega
  simp only [SpoolWorld.step, buildEnvelope_eq, Option.map_some]
  exact congrArg some (if_neg room)

/-- Two characters are more than one. -/
theorem not_whole (c d : Char) (rest : Text) : ¬ (c :: d :: rest).length ≤ 1 := by
  rw [List.length_cons, List.length_cons]
  omega

/-- The first character of a line reaches the file. -/
theorem step_writeOne {file : Text} {hash : String} {event : EventDocument settings.rounding}
    (size : Nat) (c d : Char) (rest : Text)
    (appended returned : List (EventDocument settings.rounding)) :
    SpoolWorld.step ⟨file, .appending hash event size (c :: d :: rest), appended, returned⟩
      (.write 1) = some
        ⟨file ++ [c], .appending hash event size (d :: rest), appended, returned⟩ := by
  simp only [SpoolWorld.step, if_neg (not_whole c d rest)]
  rfl

/-- The rest of a line reaches the file. -/
theorem step_writeRest {file : Text} {hash : String} {event : EventDocument settings.rounding}
    (size : Nat) (d : Char) (rest : Text)
    (appended returned : List (EventDocument settings.rounding)) :
    SpoolWorld.step ⟨file, .appending hash event size (d :: rest), appended, returned⟩
      (.write (d :: rest).length) =
        some ⟨file ++ d :: rest, .appending hash event size [], appended ++ [event], returned⟩ := by
  simp only [SpoolWorld.step, if_pos (le_refl (d :: rest).length), List.take_length,
    List.drop_length]

/-- A whole line is returned. -/
theorem step_return {file : Text} {hash : String} {event : EventDocument settings.rounding}
    (size : Nat) (appended returned : List (EventDocument settings.rounding)) :
    SpoolWorld.step ⟨file, .appending hash event size [], appended, returned⟩ .returnAppend =
      some ⟨file, .idle (recordHash settings hash event), appended, returned ++ [event]⟩ := by
  simp only [SpoolWorld.step, buildEnvelope_eq, Option.bind_some, recordHashField_signedEnvelope,
    Option.map_some]

/-- Where two records fit, these steps settle and leave the first line and a torn one. -/
theorem reopenedAppend_run (event next : EventDocument settings.rounding)
    (fits : ((spoolText settings zeroHash [event, next]).length : Int) ≤ settings.maxBytes) :
    System.Keeps SpoolWorld.step Settled (SpoolWorld.start settings) (reopenedAppend event next) ∧
      System.run SpoolWorld.step (SpoolWorld.start settings) (reopenedAppend event next) =
        some ⟨recordText settings zeroHash event ++ ['\n'] ++ ['{'], .down, [event], [event]⟩ := by
  have opened : lastRecordHash settings [] = .ok zeroHash := rfl
  have reopened : lastRecordHash settings (recordText settings zeroHash event ++ ['\n']) =
      .ok (recordHash settings zeroHash event) := lastRecordHash_spoolText settings [event]
  simp only [spoolText, List.length_append, List.length_cons, List.length_nil] at fits
  have first : (((([] : Text).length + ((recordText settings zeroHash event).length + 1) : Nat)) :
      Int) ≤ settings.maxBytes := by
    rw [List.length_nil]
    omega
  have second : (((recordText settings zeroHash event ++ ['\n']).length +
      ((recordText settings (recordHash settings zeroHash event) next).length + 1) : Nat) : Int) ≤
        settings.maxBytes := by
    rw [List.length_append, List.length_singleton]
    omega
  obtain ⟨rest, object⟩ := recordText_eq_cons settings zeroHash event
  obtain ⟨behind, further⟩ := recordText_eq_cons settings (recordHash settings zeroHash event) next
  obtain ⟨c, more, tail⟩ := List.exists_cons_of_ne_nil
    (List.append_ne_nil_of_right_ne_nil rest (List.cons_ne_nil '\n' []))
  obtain ⟨d, later, front⟩ := List.exists_cons_of_ne_nil
    (List.append_ne_nil_of_right_ne_nil behind (List.cons_ne_nil '\n' []))
  have begins : recordText settings zeroHash event ++ ['\n'] = '{' :: c :: more := by
    rw [object, List.cons_append, tail]
  have continues : recordText settings (recordHash settings zeroHash event) next ++ ['\n'] =
      '{' :: d :: later := by
    rw [further, List.cons_append, front]
  have length : (recordText settings zeroHash event).length = (c :: more).length := by
    rw [object, ← tail, List.length_append, List.length_singleton, List.length_cons]
  -- An append fails, is repeated in two chunks, and the process crashes.
  refine settled_cons trivial (step_open opened _ _) ?_
  refine settled_cons trivial (step_begin first _ _) ?_
  refine settled_cons trivial rfl ?_
  refine settled_cons trivial (step_begin first _ _) ?_
  rw [begins, length]
  refine settled_cons (fun whole => absurd whole (not_whole _ _ _)) (step_writeOne _ _ _ _ _ _) ?_
  refine settled_cons (fun _ => ⟨fun _ last => (by cases last), opened⟩)
    (step_writeRest _ _ _ _ _) ?_
  refine settled_cons trivial (step_return _ _ _) ?_
  refine settled_cons trivial rfl ?_
  -- The next process finds the line, and crashes behind the first character of its own.
  have line : [] ++ ['{'] ++ c :: more = recordText settings zeroHash event ++ ['\n'] := begins.symm
  rw [line]
  refine settled_cons trivial (step_open reopened _ _) ?_
  refine settled_cons trivial (step_begin second _ _) ?_
  rw [continues]
  refine settled_cons (fun whole => absurd whole (not_whole _ _ _)) (step_writeOne _ _ _ _ _ _) ?_
  refine settled_cons trivial rfl ⟨trivial, ?_⟩
  rw [← begins]
  rfl

/-- A spool with another bound on its size. -/
def SpoolSettings.bounded (settings : SpoolSettings) (maxBytes : Int) : SpoolSettings :=
  { settings with maxBytes := maxBytes }

/-- The lines of a spool do not depend on its bound. -/
theorem spoolText_bounded (maxBytes : Int) (hash : String)
    (events : List (EventDocument settings.rounding)) :
    spoolText (settings.bounded maxBytes) hash events = spoolText settings hash events := by
  induction events generalizing hash with
  | nil => rfl
  | cons event events ih =>
    exact congrArg (fun rest => recordText settings hash event ++ '\n' :: rest) (ih _)

/-- A spool that is bounded by the lines of events has room for them. -/
theorem spoolText_fits (events : List (EventDocument settings.rounding)) :
    ((spoolText (settings.bounded (spoolText settings zeroHash events).length) zeroHash
      events).length : Int) ≤
        (settings.bounded (spoolText settings zeroHash events).length).maxBytes := by
  rw [spoolText_bounded]
  exact le_refl _

/-- A sample spool with room for exactly two revisions of the heartbeat. -/
def narrowSpool : SpoolSettings :=
  sampleSpool.bounded (spoolText sampleSpool zeroHash [sampleEvent, laterEvent 2]).length

/-- A failed append, one in two chunks, a crash, and a reopened spool whose next line is torn. -/
theorem crashAtomic_reopened :
    System.run SpoolWorld.step (SpoolWorld.start narrowSpool)
      (reopenedAppend sampleEvent (laterEvent 2)) =
        some ⟨recordText narrowSpool zeroHash sampleEvent ++ ['\n'] ++ ['{'], .down, [sampleEvent],
          [sampleEvent]⟩ ∧
    CrashAtomic (⟨recordText narrowSpool zeroHash sampleEvent ++ ['\n'] ++ ['{'], .down,
      [sampleEvent], [sampleEvent]⟩ : SpoolWorld narrowSpool) := by
  have fits := @spoolText_fits sampleSpool [sampleEvent, laterEvent 2]
  obtain ⟨settled, reached⟩ := @reopenedAppend_run narrowSpool sampleEvent (laterEvent 2) fits
  exact ⟨reached, crashAtomic_of_settled narrowSpool (reopenedAppend sampleEvent (laterEvent 2))
    settled _ reached⟩

end DTLab
