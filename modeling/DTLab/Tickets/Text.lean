import DTLab.Library.Attempt
import DTLab.Receiver.Schema

/-!
# Texts of the ticket store

`_required_text`, `_optional_text` and the checks of digests, with the messages of the errors they
raise. What Python does with characters beyond ASCII when it lowers a text, the text it gives a
value that is no string, and SHA-256 are parameters.
-/

namespace DTLab

open Library (Text Json)

/-- What an operation of the ticket store raises. -/
inductive TicketError where
  /-- `TicketValidationError`. -/
  | validation (message : String)
  /-- `SignalNotFoundError`. -/
  | signalNotFound (message : String)
  /-- `TicketNotFoundError`. -/
  | ticketNotFound (message : String)
  /-- `TaskNotFoundError`. -/
  | taskNotFound (message : String)
  /-- `InvalidTransitionError`. -/
  | invalidTransition (message : String)
  /-- `sqlite3.IntegrityError`: an inserted row repeats a key. -/
  | integrity
  /-- What reading the business hours or computing a deadline with them raises. -/
  | calendar (message : String)
  deriving DecidableEq

/-! ## White space -/

/-- A character that `str.strip` removes. -/
def isSpace (c : Char) : Bool :=
  decide (9 ≤ c.toNat ∧ c.toNat ≤ 13) || decide (28 ≤ c.toNat ∧ c.toNat ≤ 32) ||
    decide (8192 ≤ c.toNat ∧ c.toNat ≤ 8202) ||
    [133, 160, 5760, 8232, 8233, 8239, 8287, 12288].contains c.toNat

/-- `str.strip` on the characters of a text. -/
def stripText (text : Text) : Text :=
  ((text.dropWhile isSpace).reverse.dropWhile isSpace).reverse

/-- `text.strip()`. -/
def strip (text : String) : String := String.ofList (stripText text.toList)

/-- A text without white space is its own strip. -/
theorem stripText_of_plain {text : Text} (plain : ∀ c ∈ text, isSpace c = false) :
    stripText text = text := by
  have whole : ∀ chars : Text, (∀ c ∈ chars, isSpace c = false) →
    chars.dropWhile isSpace = chars := by
    intro chars none
    cases chars with
    | nil => rfl
    | cons c rest =>
      have first : isSpace c = false := none c List.mem_cons_self
      rw [List.dropWhile_cons, first]
      rfl
  have reversed : ∀ c ∈ text.reverse, isSpace c = false :=
    fun c member => plain c (List.mem_reverse.mp member)
  rw [stripText, whole text plain, whole text.reverse reversed, List.reverse_reverse]

/-- Stripping commutes with a map that keeps the white space apart. -/
theorem stripText_map {f : Char → Char} (keeps : ∀ c, isSpace (f c) = isSpace c) (text : Text) :
    stripText (text.map f) = (stripText text).map f := by
  have same : isSpace ∘ f = isSpace := funext keeps
  rw [stripText, stripText, List.dropWhile_map, same, ← List.map_reverse, List.dropWhile_map, same,
    ← List.map_reverse]

/-! ## What the platform does -/

/-- What the ticket store takes from Python. -/
structure StorePlatform where
  /-- The hexadecimal SHA-256 of a text. -/
  sha256Text : Text → String
  /-- `str.lower`. -/
  lower : String → String
  /-- Lowering keeps the characters that are white space, and makes no others. -/
  lower_strip : ∀ text, lower (strip text) = strip (lower text)
  /-- On ASCII texts the characters are lowered one by one. -/
  lower_ascii : ∀ text : String, (∀ c ∈ text.toList, c.toNat < 128) →
    lower text = String.ofList (text.toList.map Char.toLower)
  /-- `str` of a JSON value. -/
  str : Json → String
  /-- A text is its own `str`. -/
  str_text : ∀ text, str (.str text) = text

/-- Lowering an ASCII letter neither makes nor removes white space. -/
theorem isSpace_toLower (c : Char) : isSpace c.toLower = isSpace c := by
  by_cases upper : c.val ≥ 'A'.val ∧ c.val ≤ 'Z'.val
  · have letter : 65 ≤ c.toNat ∧ c.toNat ≤ 90 := upper
    have lowered : c.toLower.toNat = c.toNat + 32 := by
      delta Char.toLower
      rw [dif_pos upper]
      show (c.val + ('a'.val - 'A'.val)).toNat = c.toNat + 32
      rw [UInt32.toNat_add]
      show (c.toNat + 32) % 2 ^ 32 = c.toNat + 32
      omega
    simp only [isSpace, lowered, List.contains_eq_mem, List.mem_cons, List.not_mem_nil, or_false]
    rw [Bool.eq_iff_iff]
    simp only [Bool.or_eq_true, decide_eq_true_eq]
    omega
  · have same : c.toLower = c := by
      delta Char.toLower
      exact dif_neg upper
    rw [same]

/-- A platform that lowers ASCII letters only and writes every other value as JSON. -/
def asciiPlatform (sha256Text : Text → String) : StorePlatform where
  sha256Text := sha256Text
  lower text := String.ofList (text.toList.map Char.toLower)
  lower_strip text := by
    rw [strip, strip, String.toList_ofList, String.toList_ofList,
      ← stripText_map isSpace_toLower]
  lower_ascii _ _ := rfl
  str
    | .str text => text
    | other => String.ofList (other.dumps true)
  str_text _ := rfl

/-- The code points of the hexadecimal digits of a digest. -/
theorem digestChar_range {c : Char}
    (digit : (c.isDigit || decide ('a'.toNat ≤ c.toNat ∧ c.toNat ≤ 'f'.toNat)) = true) :
    (48 ≤ c.toNat ∧ c.toNat ≤ 57) ∨ (97 ≤ c.toNat ∧ c.toNat ≤ 102) := by
  rw [Bool.or_eq_true, decide_eq_true_eq] at digit
  apply digit.imp_left
  intro numeral
  simp only [Char.isDigit, Bool.and_eq_true, decide_eq_true_eq] at numeral
  exact ⟨numeral.1, numeral.2⟩

/-- A hexadecimal digit of a digest is no white space. -/
theorem isSpace_of_digestChar {c : Char}
    (digit : (c.isDigit || decide ('a'.toNat ≤ c.toNat ∧ c.toNat ≤ 'f'.toNat)) = true) :
    isSpace c = false := by
  have range := digestChar_range digit
  simp only [isSpace, Bool.or_eq_false_iff, decide_eq_false_iff_not, List.contains_eq_mem,
    List.mem_cons, List.not_mem_nil, or_false]
  omega

/-- A digest is its own strip. -/
theorem strip_of_digest {text : String} (digest : isDigestBody text.toList = true) :
    strip text = text := by
  have plain : ∀ c ∈ text.toList, isSpace c = false := by
    intro c member
    rw [isDigestBody, Bool.and_eq_true] at digest
    exact isSpace_of_digestChar (List.all_eq_true.mp digest.2 c member)
  rw [strip, stripText_of_plain plain, String.ofList_toList]

/-! ## Required and optional texts -/

/-- `_required_text`. -/
def requiredText (label : String) (maxLength : Nat) (value : String) :
    Except TicketError String :=
  let text := strip value
  if text = "" then .error (.validation (label ++ " obbligatorio."))
  else if maxLength < text.length then
    .error (.validation (label ++ " supera " ++ toString maxLength ++ " caratteri."))
  else .ok text

/-- `_optional_text`. -/
def optionalText (maxLength : Nat) : Option String → Except TicketError (Option String)
  | none => .ok none
  | some value =>
    let text := strip value
    if text = "" then .ok none
    else if maxLength < text.length then
      .error (.validation ("Valore testuale oltre " ++ toString maxLength ++ " caratteri."))
    else .ok (some text)

/-- What `_optional_text` takes a JSON value for. -/
def jsonText (platform : StorePlatform) : Json → Option String
  | .null => none
  | value => some (platform.str value)

/-- The check of a digest behind `_required_text` and `lower`. -/
def requiredDigest (platform : StorePlatform) (label : String) (maxLength : Nat) (message : String)
    (value : String) : Except TicketError String := do
  let text ← requiredText label maxLength value
  if isDigestBody (platform.lower text).toList then .ok (platform.lower text)
  else .error (.validation message)

/-- The message about a snapshot digest that is none. -/
def snapshotDigestMessage : String := "Lo SHA dello snapshot deve essere SHA-256 esadecimale."

/-- The digest of a snapshot. -/
def snapshotDigest (platform : StorePlatform) (value : String) : Except TicketError String :=
  requiredDigest platform "SHA snapshot" 64 snapshotDigestMessage value

/-- The fingerprint of a signal. -/
def signalFingerprint (platform : StorePlatform) (value : String) : Except TicketError String :=
  requiredDigest platform "Fingerprint" 128
    "La fingerprint del segnale deve essere SHA-256 esadecimale." value

variable {platform : StorePlatform} {label message value text : String} {maxLength : Nat}

/-- A required text is the stripped one, which is within bounds. -/
theorem requiredText_eq_ok :
    requiredText label maxLength value = .ok text ↔
      strip value = text ∧ text ≠ "" ∧ text.length ≤ maxLength := by
  rw [requiredText]
  by_cases empty : strip value = ""
  · simp only [empty, if_true]
    constructor
    · intro impossible
      cases impossible
    · rintro ⟨rfl, nonempty, _⟩
      exact absurd rfl nonempty
  · by_cases long : maxLength < (strip value).length
    · simp only [empty, long, if_true, if_false]
      constructor
      · intro impossible
        cases impossible
      · rintro ⟨rfl, _, short⟩
        omega
    · simp only [empty, long, if_false]
      constructor
      · intro same
        obtain rfl := Except.ok.inj same
        exact ⟨rfl, empty, by omega⟩
      · rintro ⟨rfl, _, _⟩
        rfl

/-- A text of characters that are their own strip is required as it is. -/
theorem requiredText_ofList {chars : Text} (label : String) (stripped : stripText chars = chars)
    (nonempty : chars ≠ []) (short : chars.length ≤ maxLength) :
    requiredText label maxLength (String.ofList chars) = .ok (String.ofList chars) := by
  rw [requiredText_eq_ok, strip, String.toList_ofList, stripped, String.length_ofList]
  refine ⟨rfl, fun empty => nonempty ?_, short⟩
  have same := congrArg String.toList empty
  rwa [String.toList_ofList] at same

/-- A required text is an optional one. -/
theorem optionalText_of_required (required : requiredText label maxLength value = .ok text) :
    optionalText maxLength (some value) = .ok (some text) := by
  obtain ⟨rfl, nonempty, short⟩ := requiredText_eq_ok.mp required
  rw [optionalText]
  simp only [nonempty, if_false, not_lt.mpr short]

/-- An accepted digest is the lowered text, and it is a digest. -/
theorem requiredDigest_eq_ok :
    requiredDigest platform label maxLength message value = .ok text ↔
      requiredText label maxLength value = .ok (strip value) ∧
        platform.lower (strip value) = text ∧ isDigestBody text.toList = true := by
  rw [requiredDigest, Library.Attempt.bind_eq_ok]
  constructor
  · rintro ⟨stripped, required, checked⟩
    obtain ⟨rfl, _⟩ := requiredText_eq_ok.mp required
    split_ifs at checked with digest
    obtain rfl := Except.ok.inj checked
    exact ⟨required, rfl, digest⟩
  · rintro ⟨required, rfl, digest⟩
    exact ⟨strip value, required, if_pos digest⟩

/-- A digest is its own lower case. -/
theorem lower_of_digest (platform : StorePlatform) (digest : isDigestBody text.toList = true) :
    platform.lower text = text := by
  have chars : ∀ c ∈ text.toList, (48 ≤ c.toNat ∧ c.toNat ≤ 57) ∨
    (97 ≤ c.toNat ∧ c.toNat ≤ 102) := by
    intro c member
    rw [isDigestBody, Bool.and_eq_true] at digest
    exact digestChar_range (List.all_eq_true.mp digest.2 c member)
  have ascii : ∀ c ∈ text.toList, c.toNat < 128 := by
    intro c member
    have range := chars c member
    omega
  have same : text.toList.map Char.toLower = text.toList.map id := by
    apply List.map_congr_left
    intro c member
    have range := chars c member
    have lower : ¬ (c.val ≥ 'A'.val ∧ c.val ≤ 'Z'.val) := by
      intro upper
      have letter : 65 ≤ c.toNat ∧ c.toNat ≤ 90 := upper
      omega
    delta Char.toLower
    exact dif_neg lower
  rw [platform.lower_ascii text ascii, same, List.map_id, String.ofList_toList]

/-- A digest passes its check. -/
theorem requiredDigest_of_digest (platform : StorePlatform) (label message : String)
    (digest : isDigestBody text.toList = true) (room : 64 ≤ maxLength) :
    requiredDigest platform label maxLength message text = .ok text := by
  have stripped := strip_of_digest digest
  have length : text.length = 64 := by
    rw [isDigestBody, Bool.and_eq_true, decide_eq_true_eq] at digest
    rw [← String.length_toList]
    exact digest.1
  have nonempty : text ≠ "" := by
    rintro rfl
    exact absurd length (by decide)
  have lowered := lower_of_digest platform digest
  rw [requiredDigest_eq_ok, requiredText_eq_ok, stripped]
  exact ⟨⟨rfl, nonempty, by omega⟩, lowered, digest⟩

end DTLab
