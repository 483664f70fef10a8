import DTLab.Siem.Cef

/-!
# Reading events in the Common Event Format back

A reader splits a line at the pipes that are not escaped, and the extension behind the header at
the equals signs that are not. What stands before an equals sign is the value before it and, behind
the last space, the next key. It gives every line back as the header and the extension of its event.
-/

namespace DTLab.Siem

open Library (Text linesOf)
open Library.Escape

/-! ## The reader -/

/-- What stands before the last space, and the word behind it. -/
def lastWord (text : Text) : Text × Text :=
  (((text.reverse.dropWhile fun c => decide (c ≠ ' ')).drop 1).reverse,
    (text.reverse.takeWhile fun c => decide (c ≠ ' ')).reverse)

/-- The pairs of an extension that starts with a key, of which the parts between the equals signs
follow. -/
def readPairs (key : Text) : List Text → List (Text × Text)
  | [] => []
  | [value] => [(key, cefCodes.unescape value)]
  | part :: parts => (key, cefCodes.unescape (lastWord part).1) :: readPairs (lastWord part).2 parts

/-- The pairs of an extension. -/
def readExtension (text : Text) : List (Text × Text) :=
  match splitAt '=' text with
  | [] => []
  | first :: parts => readPairs (lastWord first).2 parts

/-- The fields of the header of a line, and the pairs of its extension. -/
def readLine (line : Text) : Option (List Text × List (Text × Text)) :=
  match splitAt '|' line with
  | [version, vendor, product, release, signature, title, severity, extension] =>
    some ([version, vendor, product, release, signature, title, severity].map cefCodes.unescape,
      readExtension extension)
  | _ => none

/-- A line that ends with a newline, read without it. -/
def readTerminated (line : Text) : Option (List Text × List (Text × Text)) :=
  if line.getLast? = some '\n' then readLine line.dropLast else none

/-! ## Extensions -/

/-- A word: neither spaces nor characters that are escaped. -/
def IsWord (word : Text) : Prop := ∀ c ∈ word, c ≠ ' ' ∧ cefCodes.code c = none

instance (word : Text) : Decidable (IsWord word) :=
  List.decidableBAll (fun c => c ≠ ' ' ∧ cefCodes.code c = none) word

/-- The word behind the last space. -/
theorem lastWord_append {word : Text} (isWord : IsWord word) (text : Text) :
    lastWord (text ++ ' ' :: word) = (text, word) := by
  have inside : ∀ c ∈ word.reverse, decide (c ≠ ' ') = true :=
    fun c member => decide_eq_true (isWord c (List.mem_reverse.mp member)).1
  have turned : (text ++ ' ' :: word).reverse = word.reverse ++ ' ' :: text.reverse := by simp
  rw [lastWord, turned, List.dropWhile_append_of_pos inside, List.takeWhile_append_of_pos inside,
    List.dropWhile_cons_of_neg (by decide), List.takeWhile_cons_of_neg (by decide), List.append_nil,
    List.reverse_reverse, List.drop_succ_cons, List.drop_zero, List.reverse_reverse]

/-- A word alone. -/
theorem lastWord_self {word : Text} (isWord : IsWord word) : (lastWord word).2 = word := by
  have inside : ∀ c ∈ word.reverse, decide (c ≠ ' ') = true :=
    fun c member => decide_eq_true (isWord c (List.mem_reverse.mp member)).1
  have whole : (word.reverse ++ []).takeWhile (fun c => decide (c ≠ ' ')) = word.reverse ++ [] :=
    List.takeWhile_append_of_pos inside
  rw [List.append_nil] at whole
  rw [lastWord, whole, List.reverse_reverse]

/-- A word is sealed against the marks. -/
theorem sealed_word {mark : Char} (special : cefCodes.code mark ≠ none) {word : Text}
    (isWord : IsWord word) : Sealed mark word := by
  apply Sealed.of_plain
  · exact fun member => cefCodes.backslash (isWord '\\' member).2
  · exact fun member => special (isWord mark member).2

/-- A value and the next key stand between two equals signs. -/
theorem sealed_between {word : Text} (isWord : IsWord word) (value : Text) :
    Sealed '=' (cefEscape value ++ ' ' :: word) := by
  rw [cefEscape_eq]
  apply (cefCodes.sealed_escape (by decide) value).append
  exact .plain (by decide) (by decide) (sealed_word (by decide) isWord)

/-- The parts behind the key of an extension. -/
theorem readPairs_join (key value : Text) (pairs : List (Text × Text))
    (words : ∀ pair ∈ pairs, IsWord pair.1) :
    readPairs key (splitAt '=' (joinSpaces (cefEscape value :: pairs.map writePair))) =
      (key, value) :: pairs := by
  induction pairs generalizing key value with
  | nil =>
    rw [List.map_nil, joinSpaces, cefEscape_eq,
      (cefCodes.sealed_escape (by decide) value).splitAt_self, readPairs,
      cefCodes.unescape_escape]
  | cons pair pairs ih =>
    have isWord := words pair List.mem_cons_self
    have next := ih pair.1 pair.2 fun other member => words other (List.mem_cons_of_mem pair member)
    have split : joinSpaces (cefEscape value :: (pair :: pairs).map writePair) =
        (cefEscape value ++ ' ' :: pair.1) ++ '=' ::
          joinSpaces (cefEscape pair.2 :: pairs.map writePair) := by
      cases pairs with
      | nil => simp [joinSpaces, writePair]
      | cons other rest => simp [joinSpaces, writePair]
    rw [split, (sealed_between isWord value).splitAt_append (by decide)]
    cases parts : splitAt '=' (joinSpaces (cefEscape pair.2 :: pairs.map writePair)) with
    | nil => exact absurd parts (splitAt_ne_nil _ _)
    | cons part rest =>
      rw [parts] at next
      show (key, cefCodes.unescape (lastWord (cefEscape value ++ ' ' :: pair.1)).1) ::
        readPairs (lastWord (cefEscape value ++ ' ' :: pair.1)).2 (part :: rest) = _
      rw [lastWord_append isWord, next, cefEscape_eq, cefCodes.unescape_escape]

/-- An extension is read back. -/
theorem readExtension_join {pairs : List (Text × Text)} (words : ∀ pair ∈ pairs, IsWord pair.1)
    (nonempty : pairs ≠ []) : readExtension (joinSpaces (pairs.map writePair)) = pairs := by
  cases pairs with
  | nil => exact absurd rfl nonempty
  | cons pair pairs =>
    have isWord := words pair List.mem_cons_self
    have split : joinSpaces ((pair :: pairs).map writePair) =
        pair.1 ++ '=' :: joinSpaces (cefEscape pair.2 :: pairs.map writePair) := by
      cases pairs with
      | nil => simp [joinSpaces, writePair]
      | cons other rest => simp [joinSpaces, writePair]
    rw [readExtension, split, (sealed_word (by decide) isWord).splitAt_append (by decide)]
    show readPairs (lastWord pair.1).2 _ = _
    rw [lastWord_self isWord, readPairs_join]
    exact fun other member => words other (List.mem_cons_of_mem pair member)

/-- Every key of an extension is a word. -/
theorem isWord_extensionOf (event : SiemEvent) (rt : Int) :
    ∀ pair ∈ extensionOf event rt, IsWord pair.1 := by
  simp only [extensionOf, List.forall_mem_cons, List.not_mem_nil, false_implies, implies_true,
    and_true]
  decide

/-! ## Lines -/

/-- A pair is sealed against the pipe. -/
theorem sealed_writePair {pair : Text × Text} (isWord : IsWord pair.1) :
    Sealed '|' (writePair pair) := by
  rw [writePair, cefEscape_eq]
  apply (sealed_word (by decide) isWord).append
  exact .plain (by decide) (by decide) (cefCodes.sealed_escape (by decide) _)

/-- An extension is sealed against the pipe. -/
theorem sealed_join {texts : List Text} (sealed : ∀ text ∈ texts, Sealed '|' text) :
    Sealed '|' (joinSpaces texts) := by
  induction texts with
  | nil => exact .nil
  | cons text texts ih =>
    have first := sealed text List.mem_cons_self
    have rest := ih fun other member => sealed other (List.mem_cons_of_mem text member)
    cases texts with
    | nil => exact first
    | cons other texts => exact first.append (.plain (by decide) (by decide) rest)

/-- The fields of the header of an event. -/
def headerOf (event : SiemEvent) (severity : Nat) : List Text :=
  ["CEF:0".toList, "DTLab".toList, "Control Center".toList, "2.0".toList, signatureOf event,
    event.title.toList, Nat.toDigits 10 severity]

/-- The numbers of severities are words. -/
theorem isWord_severity {severity : String} {number : Nat}
    (known : cefSeverity severity = some number) : IsWord (Nat.toDigits 10 number) := by
  unfold cefSeverity at known
  split at known
  all_goals cases known
  all_goals decide

/-- A word stands for itself. -/
theorem unescape_word {word : Text} (isWord : IsWord word) : cefCodes.unescape word = word := by
  apply cefCodes.unescape_of_plain
  exact fun member => cefCodes.backslash (isWord '\\' member).2

/-- The constant fields in front of a line. -/
theorem constantFields (rest : Text) : "CEF:0|DTLab|Control Center|2.0|".toList ++ rest =
    "CEF:0".toList ++ '|' :: ("DTLab".toList ++ '|' :: ("Control Center".toList ++ '|' ::
      ("2.0".toList ++ '|' :: rest))) := by
  have front : "CEF:0|DTLab|Control Center|2.0|".toList = "CEF:0".toList ++ '|' ::
      ("DTLab".toList ++ '|' :: ("Control Center".toList ++ '|' :: ("2.0".toList ++ ['|']))) := by
    decide
  have moved : ∀ a b c d : Text, (a ++ '|' :: (b ++ '|' :: (c ++ '|' :: (d ++ ['|'])))) ++ rest =
      a ++ '|' :: (b ++ '|' :: (c ++ '|' :: (d ++ '|' :: rest))) := by
    intro a b c d
    simp
  exact (congrArg (· ++ rest) front).trans (moved _ _ _ _)

/-- A line is read back. -/
theorem readLine_cefLine (event : SiemEvent) (rt : Int) {severity : Nat}
    (isWord : IsWord (Nat.toDigits 10 severity)) :
    readLine (cefLine event rt severity) =
      some (headerOf event severity, extensionOf event rt) := by
  have line : cefLine event rt severity = "CEF:0".toList ++ '|' :: ("DTLab".toList ++ '|' ::
      ("Control Center".toList ++ '|' :: ("2.0".toList ++ '|' ::
        (cefEscape (signatureOf event) ++ '|' :: (cefEscape event.title.toList ++ '|' ::
          (Nat.toDigits 10 severity ++ '|' ::
            joinSpaces ((extensionOf event rt).map writePair))))))) := by
    exact constantFields _
  have constant : ∀ text : Text, lacks ['\\', '|'] text = true → Sealed '|' text :=
    fun text plain => Sealed.of_plain (not_mem_of_lacks plain (by simp))
      (not_mem_of_lacks plain (by simp))
  have escaped : ∀ text : Text, Sealed '|' (cefEscape text) := fun text => by
    rw [cefEscape_eq]
    exact cefCodes.sealed_escape (by decide) text
  have pairs : Sealed '|' (joinSpaces ((extensionOf event rt).map writePair)) := by
    apply sealed_join
    intro text member
    obtain ⟨pair, listed, rfl⟩ := List.mem_map.mp member
    exact sealed_writePair (isWord_extensionOf event rt pair listed)
  have split : splitAt '|' (cefLine event rt severity) = ["CEF:0".toList, "DTLab".toList,
      "Control Center".toList, "2.0".toList, cefEscape (signatureOf event),
      cefEscape event.title.toList, Nat.toDigits 10 severity,
      joinSpaces ((extensionOf event rt).map writePair)] := by
    have special : '|' ≠ '\\' := by decide
    have version := constant "CEF:0".toList (by decide)
    have vendor := constant "DTLab".toList (by decide)
    have product := constant "Control Center".toList (by decide)
    have release := constant "2.0".toList (by decide)
    have number := sealed_word (by decide : cefCodes.code '|' ≠ none) isWord
    rw [line, version.splitAt_append special, vendor.splitAt_append special,
      product.splitAt_append special, release.splitAt_append special,
      (escaped (signatureOf event)).splitAt_append special,
      (escaped event.title.toList).splitAt_append special, number.splitAt_append special,
      pairs.splitAt_self]
  have undone : ∀ text : Text, cefCodes.unescape (cefEscape text) = text := fun text => by
    rw [cefEscape_eq, cefCodes.unescape_escape]
  have plain : ∀ text : Text, lacks ['\\'] text = true → cefCodes.unescape text = text :=
    fun text inside => cefCodes.unescape_of_plain (not_mem_of_lacks inside List.mem_cons_self)
  rw [readLine, split]
  simp only [List.map_cons, List.map_nil, undone, unescape_word isWord]
  rw [plain "CEF:0".toList (by decide), plain "DTLab".toList (by decide),
    plain "Control Center".toList (by decide), plain "2.0".toList (by decide),
    readExtension_join (isWord_extensionOf event rt) (List.cons_ne_nil _ _)]
  rfl

/-- An escaped text holds no newline. -/
theorem newline_not_mem_cefEscape (text : Text) : '\n' ∉ cefEscape text := by
  rw [cefEscape_eq]
  apply cefCodes.not_mem_escape (by decide) _ (by decide)
  intro d special
  simp only [cefCodes] at special
  split at special <;> cases special

/-- A word holds no newline. -/
theorem newline_not_mem_word {word : Text} (isWord : IsWord word) : '\n' ∉ word := by
  intro member
  exact absurd (isWord '\n' member).2 (by decide)

/-- Texts without newlines are joined to one. -/
theorem newline_not_mem_joinSpaces {texts : List Text} (inside : ∀ text ∈ texts, '\n' ∉ text) :
    '\n' ∉ joinSpaces texts := by
  induction texts with
  | nil => exact List.not_mem_nil
  | cons text texts ih =>
    have first := inside text List.mem_cons_self
    have rest := ih fun other member => inside other (List.mem_cons_of_mem text member)
    cases texts with
    | nil => exact first
    | cons other texts =>
      show '\n' ∉ text ++ ' ' :: joinSpaces (other :: texts)
      rw [List.mem_append, List.mem_cons]
      rintro (member | space | behind)
      · exact first member
      · exact absurd space (by decide)
      · exact rest behind

/-- A pair holds no newline. -/
theorem newline_not_mem_writePair {pair : Text × Text} (isWord : IsWord pair.1) :
    '\n' ∉ writePair pair := by
  rw [writePair, List.mem_append, List.mem_cons]
  rintro (key | equals | value)
  · exact newline_not_mem_word isWord key
  · exact absurd equals (by decide)
  · exact newline_not_mem_cefEscape _ value

/-- A line holds no newline. -/
theorem newline_not_mem_cefLine (event : SiemEvent) (rt : Int) {severity : Nat}
    (isWord : IsWord (Nat.toDigits 10 severity)) : '\n' ∉ cefLine event rt severity := by
  have pairs : '\n' ∉ joinSpaces ((extensionOf event rt).map writePair) := by
    apply newline_not_mem_joinSpaces
    intro text member
    obtain ⟨pair, listed, rfl⟩ := List.mem_map.mp member
    exact newline_not_mem_writePair (isWord_extensionOf event rt pair listed)
  have piped : ∀ front rest : Text, '\n' ∉ front → '\n' ∉ rest → '\n' ∉ front ++ '|' :: rest := by
    intro front rest noFront noRest member
    rcases List.mem_append.mp member with inside | behind
    · exact noFront inside
    · rcases List.mem_cons.mp behind with mark | inside
      · exact absurd mark (by decide)
      · exact noRest inside
  have constant : '\n' ∉ "CEF:0|DTLab|Control Center|2.0|".toList :=
    not_mem_of_lacks (by decide : lacks ['\n'] _ = true) List.mem_cons_self
  have fields := piped _ _ (newline_not_mem_cefEscape (signatureOf event)) (piped _ _
    (newline_not_mem_cefEscape event.title.toList) (piped _ _ (newline_not_mem_word isWord) pairs))
  intro member
  exact (List.mem_append.mp member).elim constant fields

/-! ## Texts -/

/-- Lines are joined by putting a newline behind each. -/
theorem joinLines_eq (lines : List Text) : joinLines lines = lines.flatMap (· ++ ['\n']) := by
  rw [joinLines]
  split
  case isTrue empty =>
    rw [empty]
    rfl
  case isFalse nonempty =>
    induction lines with
    | nil => exact absurd rfl nonempty
    | cons line lines ih =>
      cases lines with
      | nil => simp
      | cons other rest =>
        have behind := ih (List.cons_ne_nil _ _)
        rw [List.flatMap_cons, ← behind]
        simp [List.intercalate]

/-- The lines of joined lines, which hold no newlines. -/
theorem linesOf_joinLines {lines : List Text} (inside : ∀ line ∈ lines, '\n' ∉ line) :
    linesOf (joinLines lines) = lines.map (· ++ ['\n']) := by
  rw [joinLines_eq]
  induction lines with
  | nil => rfl
  | cons line lines ih =>
    have behind := ih fun other member => inside other (List.mem_cons_of_mem line member)
    rw [List.flatMap_cons, List.append_assoc, List.singleton_append,
      Library.linesOf_line (inside line List.mem_cons_self), behind, List.map_cons]

/-- Can an event be written? -/
def Writable (millis : String → Option Int) (event : SiemEvent) : Prop :=
  ∃ rt severity, millis event.timestamp = some rt ∧ cefSeverity event.severity = some severity

/-- What a reader finds of an event. -/
def contentOf (millis : String → Option Int) (event : SiemEvent) :
    Option (List Text × List (Text × Text)) := do
  let rt ← millis event.timestamp
  let severity ← cefSeverity event.severity
  some (headerOf event severity, extensionOf event rt)

/-- Events are written as one line each, in order, that ends with a newline, and each line is read
back as the header and the extension of its event. -/
theorem cef_round_trip {millis : String → Option Int} {events : List SiemEvent}
    (writable : ∀ event ∈ events, Writable millis event) :
    ∃ text, cefText millis events = some text ∧
      (linesOf text).map readTerminated = events.map (contentOf millis) := by
  have written : ∃ lines, events.mapM (lineOf millis) = some lines ∧
      (∀ line ∈ lines, '\n' ∉ line) ∧ lines.map readLine = events.map (contentOf millis) := by
    induction events with
    | nil => exact ⟨[], rfl, fun _ none => absurd none List.not_mem_nil, rfl⟩
    | cons event events ih =>
      obtain ⟨lines, written, inside, read⟩ :=
        ih fun other member => writable other (List.mem_cons_of_mem event member)
      obtain ⟨rt, severity, timed, known⟩ := writable event List.mem_cons_self
      have isWord := isWord_severity known
      have line : lineOf millis event = some (cefLine event rt severity) := by
        rw [lineOf, timed, known]
        rfl
      have content : contentOf millis event =
          some (headerOf event severity, extensionOf event rt) := by
        rw [contentOf, timed, known]
        rfl
      have all : (event :: events).mapM (lineOf millis) =
          some (cefLine event rt severity :: lines) := by
        rw [List.mapM_cons, line, written]
        rfl
      have none : ∀ other ∈ cefLine event rt severity :: lines, '\n' ∉ other :=
        List.forall_mem_cons.mpr ⟨newline_not_mem_cefLine event rt isWord, inside⟩
      have back : (cefLine event rt severity :: lines).map readLine =
          (event :: events).map (contentOf millis) := by
        rw [List.map_cons, List.map_cons, read, readLine_cefLine event rt isWord, content]
      exact ⟨_, all, none, back⟩
  obtain ⟨lines, written, inside, read⟩ := written
  have text : cefText millis events = some (joinLines lines) := by
    rw [cefText, written, Option.map_some]
  refine ⟨joinLines lines, text, ?_⟩
  rw [linesOf_joinLines inside, List.map_map, ← read]
  apply List.map_congr_left
  intro line _
  show readTerminated (line ++ ['\n']) = readLine line
  rw [readTerminated, if_pos List.getLast?_concat, List.dropLast_concat]

/-- An event whose texts hold every special character. -/
def awkwardEvent : SiemEvent where
  eventId := "id"
  timestamp := "1970-01-01T00:00:00Z"
  dataset := "events"
  kind := "a|b=c"
  severity := "high"
  title := "x\\"
  description := "tail\\n\r\n msg=1 cs1"
  assetIds := ["plc|1"]
  sourceId := none
  sourceRecordId := some "r"
  snapshotId := "s"
  snapshotSha256 := "0"

/-- Such an event is read back. -/
theorem cef_round_trip_awkward : ∃ text, cefText (fun _ => some 0) [awkwardEvent] = some text ∧
    (linesOf text).map readTerminated = [contentOf (fun _ => some 0) awkwardEvent] :=
  cef_round_trip fun _ member => by
    rw [List.mem_singleton.mp member]
    exact ⟨0, 8, rfl, rfl⟩

end DTLab.Siem
