import DTLab.Library.JsonReader
import Mathlib.Data.List.TakeWhile
import Mathlib.Tactic.IntervalCases

/-!
# Written documents read back

A well-formed document whose literals `rounding` keeps is read back from its compact text,
whatever delimiter follows it (`readValue_dumps`), and so from the text alone (`loads_dumps`).
Two well-formed documents with one text are therefore equal (`dumps_injective`).
-/

namespace DTLab.Library

/-! ## Strings -/

/-- A written hexadecimal digit has its value. -/
theorem hexValue_digitChar {n : Nat} (small : n < 16) : hexValue (Nat.digitChar n) = some n := by
  interval_cases n <;> decide

/-- Four written digits are read back. -/
theorem readHex4_hex4 {n : Nat} (small : n < 0x10000) (rest : Text) :
    readHex4 (hex4 n ++ rest) = some (n, rest) := by
  have digit (k : Nat) : hexValue (Nat.digitChar (k % 16)) = some (k % 16) :=
    hexValue_digitChar (Nat.mod_lt _ (by decide))
  simp only [hex4, List.cons_append, List.nil_append, readHex4, digit, Option.some.injEq,
    Prod.mk.injEq, and_true]
  omega

/-- A code point that is no surrogate has a character. -/
theorem char_not_surrogate (c : Char) : c.toNat < 0xD800 ∨ 0xE000 ≤ c.toNat := by
  have valid := c.valid
  have same : c.toNat = c.val.toNat := rfl
  rcases valid with low | high
  · exact Or.inl (by omega)
  · exact Or.inr (by omega)

/-- The characters end below the end of the last plane. -/
theorem char_toNat_lt (c : Char) : c.toNat < 0x110000 := by
  have valid := c.valid
  have same : c.toNat = c.val.toNat := rfl
  rcases valid with low | high
  · have bound : c.val.toNat < 0xD800 := low
    omega
  · omega

/-- The escape of a character is read back as the character. -/
theorem readUnicode_codePoint (c : Char) (rest : Text) :
    ∃ tail, codePointEscape c.toNat ++ rest = '\\' :: 'u' :: tail ∧
      readUnicode tail = some (c, rest) := by
  have bound := char_toNat_lt c
  have gap := char_not_surrogate c
  by_cases basic : c.toNat < 0x10000
  · refine ⟨hex4 c.toNat ++ rest, by simp [codePointEscape, basic, unicodeEscape], ?_⟩
    simp only [readUnicode, readHex4_hex4 basic]
    rw [if_neg (by omega), if_neg (by omega), Char.ofNat_toNat]
  · obtain ⟨high, highEq⟩ : ∃ high, high = 0xD800 + (c.toNat - 0x10000) / 0x400 := ⟨_, rfl⟩
    obtain ⟨low, lowEq⟩ : ∃ low, low = 0xDC00 + (c.toNat - 0x10000) % 0x400 := ⟨_, rfl⟩
    have highRange : 0xD800 ≤ high ∧ high < 0xDC00 := by omega
    have lowRange : 0xDC00 ≤ low ∧ low < 0xE000 := by omega
    have total : 0x10000 + (high - 0xD800) * 0x400 + (low - 0xDC00) = c.toNat := by omega
    refine ⟨hex4 high ++ ('\\' :: 'u' :: (hex4 low ++ rest)), ?_, ?_⟩
    · simp only [codePointEscape, basic, ↓reduceIte, unicodeEscape, ← highEq, ← lowEq,
        List.cons_append, List.append_assoc]
    · have highRead := readHex4_hex4 (show high < 0x10000 by omega)
        ('\\' :: 'u' :: (hex4 low ++ rest))
      have lowRead := readHex4_hex4 (show low < 0x10000 by omega) rest
      simp only [readUnicode, highRead, lowRead, highRange, lowRange, and_self, ↓reduceIte, total,
        Char.ofNat_toNat]

/-- An escaped character is read back. -/
theorem readChar_escapeChar (ascii : Bool) (c : Char) (rest : Text) :
    readChar (escapeChar ascii c ++ rest) = some (some c, rest) := by
  unfold escapeChar
  split_ifs with quote slash newline carriage tab feed back control wide
  · subst quote; rfl
  · subst slash; rfl
  · subst newline; rfl
  · subst carriage; rfl
  · subst tab; rfl
  · subst feed; rfl
  · subst back; rfl
  · obtain ⟨tail, written, read⟩ := readUnicode_codePoint c rest
    have unit : codePointEscape c.toNat = unicodeEscape c.toNat := by
      rw [codePointEscape, if_pos (by omega)]
    rw [← unit, written]
    simp [readChar, read]
  · obtain ⟨tail, written, read⟩ := readUnicode_codePoint c rest
    rw [written]
    simp [readChar, read]
  · simp [readChar, quote, slash, control]

/-- An escaped character takes at least one place. -/
theorem escapeChar_length_pos (ascii : Bool) (c : Char) : 0 < (escapeChar ascii c).length := by
  unfold escapeChar codePointEscape unicodeEscape
  split_ifs <;> simp

/-- A string literal is read back from behind its opening quote. -/
theorem readString_escape (ascii : Bool) (s rest : Text) (fuel : Nat) (enough : s.length < fuel) :
    readString fuel (escape ascii s ++ '"' :: rest) = some (s, rest) := by
  induction s generalizing fuel with
  | nil =>
    obtain ⟨fuel, rfl⟩ := Nat.exists_eq_add_of_lt enough
    simp [escape, readString, readChar]
  | cons c s ih =>
    cases fuel with
    | zero => simp at enough
    | succ fuel =>
      have more : s.length < fuel := by simpa using enough
      have split : escape ascii (c :: s) ++ '"' :: rest =
          escapeChar ascii c ++ (escape ascii s ++ '"' :: rest) := by
        simp [escape]
      rw [split, readString, readChar_escapeChar]
      simp [ih fuel more]

/-- Escaping does not shorten a string. -/
theorem length_le_escape (ascii : Bool) (s : Text) : s.length ≤ (escape ascii s).length := by
  induction s with
  | nil => simp
  | cons c s ih =>
    have positive := escapeChar_length_pos ascii c
    simp only [escape, List.flatMap_cons, List.length_append, List.length_cons] at ih ⊢
    omega

/-- A quoted string is read back with the fuel that the text after its quote gives. -/
theorem readString_quote (ascii : Bool) (s : String) (rest : Text) :
    readString ((escape ascii s.toList ++ '"' :: rest).length + 1)
      (escape ascii s.toList ++ '"' :: rest) = some (s.toList, rest) := by
  apply readString_escape
  have grows := length_le_escape ascii s.toList
  simp only [List.length_append, List.length_cons]
  omega

/-! ## Numbers -/

/-- A text that does not go on with a number literal. -/
def Delimited (rest : Text) : Prop := ∀ c ∈ rest.head?, isNumberChar c = false

/-- The end of a text delimits a number. -/
@[simp] theorem delimited_nil : Delimited [] := by simp [Delimited]

/-- So does a character that is in no number. -/
@[simp] theorem delimited_cons (c : Char) (rest : Text) :
    Delimited (c :: rest) ↔ isNumberChar c = false := by
  simp [Delimited]

/-- A literal before a delimiter is cut off exactly. -/
theorem takeWhile_number {token rest : Text} (number : ∀ c ∈ token, isNumberChar c = true)
    (stop : Delimited rest) :
    (token ++ rest).takeWhile isNumberChar = token ∧
      (token ++ rest).dropWhile isNumberChar = rest := by
  rw [List.takeWhile_append_of_pos number, List.dropWhile_append_of_pos number]
  cases rest with
  | nil => simp
  | cons c rest =>
    have ends : isNumberChar c = false := by simpa using stop
    simp [ends]

/-- The decimal digits of a natural form a literal. -/
theorem isNatural_toDigits (n : Nat) : isNatural (Nat.toDigits 10 n) = true := by
  have digits : ∀ c ∈ Nat.toDigits 10 n, c.isDigit = true := fun c member =>
    Nat.isDigit_of_mem_toDigits (by decide) (by decide) member
  have leading : n = 0 ∨ ∀ c ∈ (Nat.toDigits 10 n).head?, c ≠ '0' := by
    induction n using Nat.strong_induction_on with
    | _ n ih =>
      by_cases small : n < 10
      · rw [Nat.toDigits_of_lt_base small]
        by_cases zero : n = 0
        · exact Or.inl zero
        · right
          interval_cases n <;> simp at zero ⊢
      · right
        rw [Nat.toDigits_of_base_le (by decide) (by omega)]
        have previous := ih (n / 10) (by omega)
          (fun c member => Nat.isDigit_of_mem_toDigits (by decide) (by decide) member)
        rcases previous with zero | nonzero
        · omega
        · cases shown : Nat.toDigits 10 (n / 10) with
          | nil => exact absurd shown Nat.toDigits_ne_nil
          | cons d ds => simpa [shown] using nonzero
  rcases leading with rfl | leading
  · decide
  · cases shown : Nat.toDigits 10 n with
    | nil => exact absurd shown Nat.toDigits_ne_nil
    | cons d ds =>
      rw [shown] at digits leading
      have first : d ≠ '0' := leading d (by simp)
      have rest : ds.all Char.isDigit = true :=
        List.all_eq_true.mpr fun c member => digits c (List.mem_cons_of_mem _ member)
      unfold isNatural
      split
      · rename_i empty; cases empty
      · rfl
      · rename_i same
        cases same
        simp [first, digits, rest]

/-- A natural literal does not begin with a minus sign. -/
theorem toDigits_head_ne_minus (n : Nat) (rest : Text) : Nat.toDigits 10 n ≠ '-' :: rest := by
  intro same
  have digit := Nat.isDigit_of_mem_toDigits (b := 10) (n := n) (c := '-') (by decide) (by decide)
    (by rw [same]; exact List.mem_cons_self)
  exact absurd digit (by decide)

/-- A written integer is an integer literal. -/
theorem isInteger_integerText (n : Int) : isInteger (integerText n) = true := by
  cases n with
  | ofNat n =>
    unfold integerText isInteger
    split
    · rename_i same
      exact absurd same (toDigits_head_ne_minus n _)
    · exact isNatural_toDigits n
  | negSucc n => exact isNatural_toDigits (n + 1)

/-- A written integer has its value. -/
theorem integerValue_integerText (n : Int) : integerValue (integerText n) = n := by
  cases n with
  | ofNat n =>
    unfold integerText integerValue
    split
    · rename_i same
      exact absurd same (toDigits_head_ne_minus n _)
    · rw [Nat.ofDigitChars_ten_toDigits]
      rfl
  | negSucc n =>
    simp only [integerText, integerValue, Nat.ofDigitChars_ten_toDigits]
    rfl

/-- Digits belong to number literals. -/
theorem isNumberChar_of_isDigit {c : Char} (digit : c.isDigit = true) : isNumberChar c = true := by
  simp [isNumberChar, digit]

/-- A written integer has only characters of number literals. -/
theorem integerText_number (n : Int) : ∀ c ∈ integerText n, isNumberChar c = true := by
  have digits (n : Nat) : ∀ c ∈ Nat.toDigits 10 n, isNumberChar c = true := fun c member =>
    isNumberChar_of_isDigit (Nat.isDigit_of_mem_toDigits (by decide) (by decide) member)
  cases n with
  | ofNat n => exact digits n
  | negSucc n =>
    intro c member
    rcases List.mem_cons.mp member with rfl | member
    · decide
    · exact digits (n + 1) c member

/-- An exponent has only characters of number literals. -/
theorem isExponent_number {text : Text} (shape : isExponent text = true) :
    ∀ c ∈ text, isNumberChar c = true := by
  cases text with
  | nil => simp
  | cons letter rest =>
    simp only [isExponent, Bool.and_eq_true, List.all_eq_true] at shape
    obtain ⟨⟨sign, _⟩, digits⟩ := shape
    have tail : ∀ c ∈ rest, isNumberChar c = true := by
      intro c member
      unfold exponentDigits at digits
      split at digits
      · rcases List.mem_cons.mp member with rfl | member
        · decide
        · exact isNumberChar_of_isDigit (digits c member)
      · rcases List.mem_cons.mp member with rfl | member
        · decide
        · exact isNumberChar_of_isDigit (digits c member)
      · exact isNumberChar_of_isDigit (digits c member)
    intro c member
    rcases List.mem_cons.mp member with rfl | member
    · simp only [Bool.or_eq_true] at sign
      rcases sign with e | e <;> simp [isNumberChar, e]
    · exact tail c member

/-- What follows the whole part has only characters of number literals. -/
theorem isFractional_number {text : Text} (shape : isFractional text = true) :
    ∀ c ∈ text, isNumberChar c = true := by
  unfold isFractional at shape
  split at shape
  · rename_i rest
    simp only [Bool.and_eq_true, Bool.or_eq_true] at shape
    intro c member
    rcases List.mem_cons.mp member with rfl | member
    · decide
    · rw [← List.takeWhile_append_dropWhile (p := Char.isDigit) (l := rest)] at member
      rcases List.mem_append.mp member with digit | other
      · exact isNumberChar_of_isDigit (List.mem_takeWhile_imp digit)
      · rcases shape.2 with empty | exponent
        · rw [List.isEmpty_iff.mp empty] at other
          cases other
        · exact isExponent_number exponent c other
  · exact isExponent_number shape

/-- An unsigned fractional literal has only characters of number literals and is no natural. -/
theorem isUnsignedFloat_number {text : Text} (shape : isUnsignedFloat text = true) :
    (∀ c ∈ text, isNumberChar c = true) ∧ isNatural text = false := by
  simp only [isUnsignedFloat, Bool.and_eq_true] at shape
  constructor
  · intro c member
    rw [← List.takeWhile_append_dropWhile (p := Char.isDigit) (l := text)] at member
    rcases List.mem_append.mp member with digit | other
    · exact isNumberChar_of_isDigit (List.mem_takeWhile_imp digit)
    · exact isFractional_number shape.2 c other
  · cases natural : isNatural text with
    | false => rfl
    | true =>
      have digits : ∀ c ∈ text, c.isDigit = true := by
        unfold isNatural at natural
        split at natural
        · cases natural
        · exact List.forall_mem_singleton.mpr rfl
        · rename_i first rest _
          simp only [Bool.and_eq_true, List.all_eq_true] at natural
          intro c member
          rcases List.mem_cons.mp member with rfl | member
          · exact natural.1.2
          · exact natural.2 c member
      have nothing : text.dropWhile Char.isDigit = [] := by
        rw [List.dropWhile_eq_nil_iff]
        exact digits
      rw [nothing] at shape
      exact absurd shape.2 (by decide)

/-- A finite fractional literal has only characters of number literals and is no integer. -/
theorem isFiniteFloat_number {text : Text} (shape : isFiniteFloat text = true) :
    (∀ c ∈ text, isNumberChar c = true) ∧ isInteger text = false := by
  unfold isFiniteFloat at shape
  split at shape
  · rename_i rest
    obtain ⟨number, natural⟩ := isUnsignedFloat_number shape
    refine ⟨fun c member => ?_, natural⟩
    rcases List.mem_cons.mp member with rfl | member
    · decide
    · exact number c member
  · rename_i signed
    obtain ⟨number, natural⟩ := isUnsignedFloat_number shape
    refine ⟨number, ?_⟩
    unfold isInteger
    split
    · exact absurd rfl (signed _)
    · exact natural

/-- A written integer is read back. -/
theorem readScalar_integer (rounding : FloatLiteral → FloatLiteral) (n : Int) {rest : Text}
    (stop : Delimited rest) :
    readScalar rounding (integerText n ++ rest) = some (.int n, rest) := by
  obtain ⟨token, remaining⟩ := takeWhile_number (integerText_number n) stop
  simp only [readScalar, token, remaining, isInteger_integerText, integerValue_integerText,
    ↓reduceIte]

/-- A literal that rounding keeps is read back. -/
theorem readScalar_float {rounding : FloatLiteral → FloatLiteral} {literal : FloatLiteral}
    (fixed : rounding literal = literal) {rest : Text} (stop : Delimited rest) :
    readScalar rounding (literal.text ++ rest) = some (.float literal, rest) := by
  obtain ⟨text, shape⟩ := literal
  have cases : isFiniteFloat text = true ∨ text ∈ nonFinite := by
    simpa [isFloat] using shape
  rcases cases with finite | named
  · obtain ⟨number, integer⟩ := isFiniteFloat_number finite
    obtain ⟨token, remaining⟩ := takeWhile_number number stop
    simp [readScalar, token, remaining, integer, shape, fixed]
  · simp only [nonFinite, List.mem_cons, List.not_mem_nil, or_false] at named
    rcases named with rfl | rfl | rfl
    · change some (Json.float (rounding ⟨_, _⟩), rest) = _
      rw [fixed]
    · change some (Json.float (rounding ⟨_, _⟩), rest) = _
      rw [fixed]
    · change some (Json.float (rounding ⟨_, _⟩), rest) = _
      rw [fixed]

/-- The words are read back. -/
theorem readScalar_word (rounding : FloatLiteral → FloatLiteral) (rest : Text) :
    readScalar rounding ('n' :: 'u' :: 'l' :: 'l' :: rest) = some (.null, rest) ∧
    readScalar rounding ('t' :: 'r' :: 'u' :: 'e' :: rest) = some (.bool true, rest) ∧
    readScalar rounding ('f' :: 'a' :: 'l' :: 's' :: 'e' :: rest) =
      some (.bool false, rest) :=
  ⟨rfl, rfl, rfl⟩

/-! ## Documents -/

namespace Json

mutual

/-- The fuel that reading a document takes. -/
def weight : Json → Nat
  | .arr [] => 2
  | .arr (v :: vs) => 2 + weight v + weightItems vs
  | .obj [] => 2
  | .obj ((_, v) :: rest) => 3 + weight v + weightMembers rest
  | _ => 1
termination_by structural document => document

/-- The fuel that reading the items after one takes. -/
def weightItems : List Json → Nat
  | [] => 1
  | v :: vs => 1 + weight v + weightItems vs
termination_by structural items => items

/-- The fuel that reading the members after one takes. -/
def weightMembers : List (String × Json) → Nat
  | [] => 1
  | (_, v) :: rest => 2 + weight v + weightMembers rest
termination_by structural fields => fields

end

/-- A character that begins a value. -/
def opensValue (c : Char) : Bool := !isSpace c && c != ']' && c != '}'

/-- The first character of a number literal begins a value. -/
theorem opensValue_of_number {c : Char} (number : isNumberChar c = true) :
    opensValue c = true := by
  have distinct : ∀ d ∈ [' ', '\t', '\n', '\r', ']', '}'], c ≠ d := by
    rintro d member rfl
    revert number
    revert member
    simp only [List.mem_cons, List.not_mem_nil, or_false]
    rintro (rfl | rfl | rfl | rfl | rfl | rfl) <;> decide
  simp only [List.mem_cons, List.not_mem_nil, or_false, forall_eq_or_imp, forall_eq] at distinct
  obtain ⟨space, tab, newline, carriage, bracket, brace⟩ := distinct
  simp [opensValue, isSpace, space, tab, newline, carriage, bracket, brace]

/-- A literal with a fraction, an exponent or no digits is not empty, and its first character
begins a value but no container or string. -/
theorem floatLiteral_head (literal : FloatLiteral) :
    ∃ c rest, literal.text = c :: rest ∧ opensValue c = true ∧
      c ≠ '"' ∧ c ≠ '[' ∧ c ≠ '{' := by
  obtain ⟨text, shape⟩ := literal
  have cases : isFiniteFloat text = true ∨ text ∈ nonFinite := by
    simpa [isFloat] using shape
  rcases cases with finite | named
  · cases text with
    | nil => exact absurd finite (by decide)
    | cons c rest =>
      have number := (isFiniteFloat_number finite).1 c List.mem_cons_self
      refine ⟨c, rest, rfl, opensValue_of_number number, ?_, ?_, ?_⟩ <;>
        (rintro rfl; exact absurd number (by decide))
  · simp only [nonFinite, List.mem_cons, List.not_mem_nil, or_false] at named
    rcases named with rfl | rfl | rfl
    all_goals exact ⟨_, _, rfl, by decide, by decide, by decide, by decide⟩

/-- A written integer is not empty, and its first character begins a value but no container
or string. -/
theorem integerText_head (n : Int) :
    ∃ c rest, integerText n = c :: rest ∧ opensValue c = true ∧
      c ≠ '"' ∧ c ≠ '[' ∧ c ≠ '{' := by
  have number := integerText_number n
  have integer := isInteger_integerText n
  cases shown : integerText n with
  | nil =>
    rw [shown] at integer
    exact absurd integer (by decide)
  | cons c rest =>
    rw [shown] at number
    have first := number c List.mem_cons_self
    refine ⟨c, rest, rfl, opensValue_of_number first, ?_, ?_, ?_⟩ <;>
      (rintro rfl; exact absurd first (by decide))

/-- The text of a document begins with a character that begins a value. -/
theorem dumps_head (ascii : Bool) (document : Json) :
    ∃ c rest, dumps ascii document = c :: rest ∧ opensValue c = true := by
  cases document with
  | null => exact ⟨_, _, rfl, by decide⟩
  | bool value => cases value <;> exact ⟨_, _, rfl, by decide⟩
  | int n =>
    obtain ⟨c, rest, shown, opens, _⟩ := integerText_head n
    exact ⟨c, rest, shown, opens⟩
  | float literal =>
    obtain ⟨c, rest, shown, opens, _⟩ := floatLiteral_head literal
    exact ⟨c, rest, shown, opens⟩
  | str s => exact ⟨_, _, rfl, by decide⟩
  | arr items => cases items <;> exact ⟨_, _, rfl, by decide⟩
  | obj fields =>
    cases fields with
    | nil => exact ⟨_, _, rfl, by decide⟩
    | cons field rest => exact ⟨_, _, rfl, by decide⟩

/-- No white space is skipped before a document. -/
theorem skipSpace_dumps (ascii : Bool) (document : Json) (rest : Text) :
    skipSpace (dumps ascii document ++ rest) = dumps ascii document ++ rest := by
  obtain ⟨c, tail, shown, opens⟩ := dumps_head ascii document
  have space : isSpace c = false := by
    simp only [opensValue, Bool.and_eq_true, Bool.not_eq_true'] at opens
    exact opens.1.1
  rw [shown, List.cons_append, skipSpace, List.dropWhile_cons_of_neg (by simp [space])]

/-- A value that is no string, array or object is read as a scalar. -/
theorem readValue_scalar (rounding : FloatLiteral → FloatLiteral) (fuel : Nat) {c : Char}
    (rest : Text) (string : c ≠ '"') (array : c ≠ '[') (object : c ≠ '{') :
    readValue rounding (fuel + 1) (c :: rest) = readScalar rounding (c :: rest) := by
  rw [readValue]
  · rintro _ ⟨rfl, _⟩; exact string rfl
  · rintro _ ⟨rfl, _⟩; exact array rfl
  · rintro _ ⟨rfl, _⟩; exact object rfl

/-- The items after the first begin with a delimiter. -/
theorem dumpsItems_stop (ascii : Bool) (items : List Json) (rest : Text) :
    Delimited (dumpsItems ascii items ++ rest) ∧
      skipSpace (dumpsItems ascii items ++ rest) = dumpsItems ascii items ++ rest := by
  cases items with
  | nil => exact ⟨by simp [dumpsItems]; decide, rfl⟩
  | cons v vs => exact ⟨by simp [dumpsItems]; decide, rfl⟩

/-- The members after the first begin with a delimiter. -/
theorem dumpsMembers_stop (ascii : Bool) (fields : List (String × Json)) (rest : Text) :
    Delimited (dumpsMembers ascii fields ++ rest) ∧
      skipSpace (dumpsMembers ascii fields ++ rest) = dumpsMembers ascii fields ++ rest := by
  cases fields with
  | nil => exact ⟨by simp [dumpsMembers]; decide, rfl⟩
  | cons field fields => exact ⟨by simp [dumpsMembers]; decide, rfl⟩

/-- A member whose key precedes the later ones is put in front of them. -/
theorem addFirst_eq_cons {key : String} {later : List (String × Json)} (value : Json)
    (before : ∀ k ∈ keys later, key < k) : addFirst key value later = (key, value) :: later := by
  have absent : key ∉ keys later := fun member => lt_irrefl _ (before key member)
  rw [addFirst, if_neg absent]
  cases later with
  | nil => rfl
  | cons field later =>
    obtain ⟨k, v⟩ := field
    have first : key < k := before k (by simp)
    simp [setField, first]

/-- A read array that does not close at once begins with a value. -/
theorem readArray_value (rounding : FloatLiteral → FloatLiteral) (fuel : Nat) {c : Char}
    (rest : Text) (open' : c ≠ ']') :
    readArray rounding (fuel + 1) (c :: rest) =
      match readValue rounding fuel (c :: rest) with
      | none => none
      | some (v, rest) =>
        (readItems rounding fuel (skipSpace rest)).map fun (vs, rest) =>
          (.arr (v :: vs), rest) := by
  unfold readArray
  split
  · rename_i closed
    exact absurd (List.cons.inj closed).1 open'
  · rfl

/-- A read object that begins with a quote begins with a member. -/
theorem readObject_member (rounding : FloatLiteral → FloatLiteral) (fuel : Nat) (rest : Text) :
    readObject rounding (fuel + 1) ('"' :: rest) =
      match readMember rounding fuel ('"' :: rest) with
      | none => none
      | some ((k, v), rest) =>
        (readMembers rounding fuel (skipSpace rest)).map fun (later, rest) =>
          (.obj (addFirst k v later), rest) := by
  unfold readObject
  split
  · rename_i closed
    exact absurd (List.cons.inj closed).1 (by decide)
  · rfl

section

variable {rounding : FloatLiteral → FloatLiteral} (ascii : Bool)

mutual

/-- A well-formed document is read back from its text, before any delimiter. -/
theorem readValue_dumps : ∀ (document : Json) (fuel : Nat) (rest : Text),
    WellFormed document → FixedBy rounding document → weight document ≤ fuel → Delimited rest →
    readValue rounding fuel (dumps ascii document ++ rest) = some (document, rest)
  | document, 0, _, _, _, enough, _ => by
    cases document with
    | arr items => cases items <;> simp [weight] at enough
    | obj fields => cases fields <;> simp [weight] at enough
    | _ => simp [weight] at enough
  | .null, fuel + 1, rest, _, _, _, _ => by
    rw [dumps, List.cons_append, readValue_scalar _ _ _ (by decide) (by decide) (by decide)]
    exact (readScalar_word rounding rest).1
  | .bool true, fuel + 1, rest, _, _, _, _ => by
    rw [dumps, List.cons_append, readValue_scalar _ _ _ (by decide) (by decide) (by decide)]
    exact (readScalar_word rounding rest).2.1
  | .bool false, fuel + 1, rest, _, _, _, _ => by
    rw [dumps, List.cons_append, readValue_scalar _ _ _ (by decide) (by decide) (by decide)]
    exact (readScalar_word rounding rest).2.2
  | .int n, fuel + 1, rest, _, _, _, stop => by
    obtain ⟨c, tail, shown, _, string, array, object⟩ := integerText_head n
    rw [dumps, shown, List.cons_append, readValue_scalar _ _ _ string array object,
      ← List.cons_append, ← shown]
    exact readScalar_integer rounding n stop
  | .float literal, fuel + 1, rest, _, fixed, _, stop => by
    obtain ⟨c, tail, shown, _, string, array, object⟩ := floatLiteral_head literal
    rw [dumps, shown, List.cons_append, readValue_scalar _ _ _ string array object,
      ← List.cons_append, ← shown]
    exact readScalar_float fixed stop
  | .str s, fuel + 1, rest, _, _, _, _ => by
    simp only [dumps, quote, List.cons_append, List.append_assoc, List.nil_append, readValue,
      readString_quote, Option.map_some, String.ofList_toList]
  | .arr [], 1, _, _, _, enough, _ => by simp [weight] at enough
  | .arr [], fuel + 2, rest, _, _, _, _ => rfl
  | .arr (v :: vs), 1, _, _, _, enough, _ => by
    simp only [weight] at enough
    omega
  | .arr (v :: vs), fuel + 2, rest, formed, fixed, enough, stop => by
    simp only [WellFormed, WellFormedItems, FixedBy, FixedItems, weight] at formed fixed enough
    obtain ⟨delimited, noSpace⟩ := dumpsItems_stop ascii vs rest
    have first := readValue_dumps v fuel (dumpsItems ascii vs ++ rest) formed.1 fixed.1
      (by omega) delimited
    have others := readItems_dumps vs fuel rest formed.2 fixed.2 (by omega) stop
    obtain ⟨c, tail, shown, opens⟩ := dumps_head ascii v
    have open' : c ≠ ']' := by rintro rfl; exact absurd opens (by decide)
    have text : dumps ascii (.arr (v :: vs)) ++ rest =
        '[' :: (dumps ascii v ++ (dumpsItems ascii vs ++ rest)) := by simp [dumps]
    rw [text, readValue, skipSpace_dumps]
    rw [shown, List.cons_append] at first ⊢
    rw [readArray_value rounding fuel _ open', first]
    simp only [noSpace, others, Option.map_some]
  | .obj [], 1, _, _, _, enough, _ => by simp [weight] at enough
  | .obj [], fuel + 2, rest, _, _, _, _ => rfl
  | .obj ((k, v) :: fields), 1, _, _, _, enough, _ => by
    simp only [weight] at enough
    omega
  | .obj ((k, v) :: fields), fuel + 2, rest, formed, fixed, enough, stop => by
    simp only [WellFormed, WellFormedMembers, FixedBy, FixedMembers, weight, keys, List.map_cons,
      List.pairwise_cons] at formed fixed enough
    obtain ⟨delimited, noSpace⟩ := dumpsMembers_stop ascii fields rest
    have first := readMember_dumps k v fuel (dumpsMembers ascii fields ++ rest) formed.2.1
      fixed.1 (by omega) delimited
    have others := readMembers_dumps fields fuel rest formed.1.2 formed.2.2 fixed.2 (by omega) stop
    have text : dumps ascii (.obj ((k, v) :: fields)) ++ rest =
        '{' :: (quote ascii k ++
          ':' :: (dumps ascii v ++ (dumpsMembers ascii fields ++ rest))) := by
      simp [dumps]
    rw [text, readValue]
    have object : skipSpace (quote ascii k ++ ':' ::
        (dumps ascii v ++ (dumpsMembers ascii fields ++ rest))) = quote ascii k ++ ':' ::
        (dumps ascii v ++ (dumpsMembers ascii fields ++ rest)) := rfl
    rw [object]
    rw [show quote ascii k ++ ':' :: (dumps ascii v ++ (dumpsMembers ascii fields ++ rest)) =
      '"' :: (escape ascii k.toList ++ '"' :: ':' ::
        (dumps ascii v ++ (dumpsMembers ascii fields ++ rest))) by simp [quote]] at first ⊢
    rw [readObject_member, first]
    simp only [noSpace, others, Option.map_some, addFirst_eq_cons v formed.1.1]
termination_by document => (sizeOf document, 1)

/-- Items are read back through the closing bracket. -/
theorem readItems_dumps : ∀ (items : List Json) (fuel : Nat) (rest : Text),
    WellFormedItems items → FixedItems rounding items → weightItems items ≤ fuel →
    Delimited rest →
    readItems rounding fuel (dumpsItems ascii items ++ rest) = some (items, rest)
  | items, 0, _, _, _, enough, _ => by
    cases items <;> simp [weightItems] at enough
  | [], fuel + 1, rest, _, _, _, _ => rfl
  | v :: vs, fuel + 1, rest, formed, fixed, enough, stop => by
    simp only [WellFormedItems, FixedItems, weightItems] at formed fixed enough
    obtain ⟨delimited, noSpace⟩ := dumpsItems_stop ascii vs rest
    have first := readValue_dumps v fuel (dumpsItems ascii vs ++ rest) formed.1 fixed.1
      (by omega) delimited
    have others := readItems_dumps vs fuel rest formed.2 fixed.2 (by omega) stop
    have text : dumpsItems ascii (v :: vs) ++ rest =
        ',' :: (dumps ascii v ++ (dumpsItems ascii vs ++ rest)) := by simp [dumpsItems]
    rw [text]
    simp only [readItems, skipSpace_dumps, first, noSpace, others, Option.map_some]
termination_by items => (sizeOf items, 0)

/-- A member is read back. -/
theorem readMember_dumps : ∀ (k : String) (v : Json) (fuel : Nat) (rest : Text),
    WellFormed v → FixedBy rounding v → weight v + 1 ≤ fuel → Delimited rest →
    readMember rounding fuel (quote ascii k ++ ':' :: (dumps ascii v ++ rest)) =
      some ((k, v), rest)
  | _, _, 0, _, _, _, enough, _ => by omega
  | k, v, fuel + 1, rest, formed, fixed, enough, stop => by
    have value := readValue_dumps v fuel rest formed fixed (by omega) stop
    have text : quote ascii k ++ ':' :: (dumps ascii v ++ rest) =
        '"' :: (escape ascii k.toList ++ '"' :: (':' :: (dumps ascii v ++ rest))) := by
      simp [quote]
    have colon : skipSpace (':' :: (dumps ascii v ++ rest)) = ':' :: (dumps ascii v ++ rest) := rfl
    rw [text]
    simp only [readMember, readString_quote, colon, skipSpace_dumps, value, Option.map_some,
      String.ofList_toList]
termination_by _ v => (sizeOf v, 2)

/-- Members are read back through the closing brace. -/
theorem readMembers_dumps : ∀ (fields : List (String × Json)) (fuel : Nat) (rest : Text),
    (keys fields).Pairwise (· < ·) → WellFormedMembers fields → FixedMembers rounding fields →
    weightMembers fields ≤ fuel → Delimited rest →
    readMembers rounding fuel (dumpsMembers ascii fields ++ rest) = some (fields, rest)
  | fields, 0, _, _, _, _, enough, _ => by
    cases fields <;> simp [weightMembers] at enough
  | [], fuel + 1, rest, _, _, _, _, _ => rfl
  | (k, v) :: fields, fuel + 1, rest, sorted, formed, fixed, enough, stop => by
    simp only [WellFormedMembers, FixedMembers, weightMembers, keys, List.map_cons,
      List.pairwise_cons] at sorted formed fixed enough
    obtain ⟨delimited, noSpace⟩ := dumpsMembers_stop ascii fields rest
    have first := readMember_dumps k v fuel (dumpsMembers ascii fields ++ rest) formed.1 fixed.1
      (by omega) delimited
    have others := readMembers_dumps fields fuel rest sorted.2 formed.2 fixed.2 (by omega) stop
    have text : dumpsMembers ascii ((k, v) :: fields) ++ rest =
        ',' :: (quote ascii k ++
          ':' :: (dumps ascii v ++ (dumpsMembers ascii fields ++ rest))) := by
      simp [dumpsMembers]
    have key : skipSpace (quote ascii k ++ ':' ::
        (dumps ascii v ++ (dumpsMembers ascii fields ++ rest))) = quote ascii k ++ ':' ::
        (dumps ascii v ++ (dumpsMembers ascii fields ++ rest)) := rfl
    rw [text]
    simp only [readMembers, key, first, noSpace, others, Option.map_some,
      addFirst_eq_cons v sorted.1]
termination_by fields => (sizeOf fields, 0)

end

end

/-! ## Whole texts -/

mutual

/-- The fuel of a document is at most three times the length of its text. -/
theorem weight_le (ascii : Bool) : ∀ document : Json,
    weight document ≤ 3 * (dumps ascii document).length
  | .null => by simp [weight, dumps]
  | .bool true => by simp [weight, dumps]
  | .bool false => by simp [weight, dumps]
  | .int n => by
    obtain ⟨c, rest, shown, _⟩ := integerText_head n
    simp only [weight, dumps, shown, List.length_cons]
    omega
  | .float literal => by
    obtain ⟨c, rest, shown, _⟩ := floatLiteral_head literal
    simp only [weight, dumps, shown, List.length_cons]
    omega
  | .str s => by
    simp only [weight, dumps, quote, List.length_cons]
    omega
  | .arr [] => by simp [weight, dumps]
  | .arr (v :: vs) => by
    have first := weight_le ascii v
    have others := weightItems_le ascii vs
    simp only [weight, dumps, List.length_cons, List.length_append]
    omega
  | .obj [] => by simp [weight, dumps]
  | .obj ((k, v) :: fields) => by
    have first := weight_le ascii v
    have others := weightMembers_le ascii fields
    simp only [weight, dumps, List.length_cons, List.length_append]
    omega

/-- `weight_le` for the items after one. -/
theorem weightItems_le (ascii : Bool) : ∀ items : List Json,
    weightItems items ≤ 3 * (dumpsItems ascii items).length
  | [] => by simp [weightItems, dumpsItems]
  | v :: vs => by
    have first := weight_le ascii v
    have others := weightItems_le ascii vs
    simp only [weightItems, dumpsItems, List.length_cons, List.length_append]
    omega

/-- `weight_le` for the members after one. -/
theorem weightMembers_le (ascii : Bool) : ∀ fields : List (String × Json),
    weightMembers fields ≤ 3 * (dumpsMembers ascii fields).length
  | [] => by simp [weightMembers, dumpsMembers]
  | (k, v) :: fields => by
    have first := weight_le ascii v
    have others := weightMembers_le ascii fields
    simp only [weightMembers, dumpsMembers, List.length_cons, List.length_append]
    omega

end

/-- A well-formed document is read from its text and any white space that does not go on with
a number literal. -/
theorem loads_dumps_append {rounding : FloatLiteral → FloatLiteral} (ascii : Bool)
    {document : Json} (formed : WellFormed document) (fixed : FixedBy rounding document)
    {rest : Text} (blank : skipSpace rest = []) (stop : Delimited rest) :
    loads rounding (dumps ascii document ++ rest) = some document := by
  have enough : weight document ≤ 3 * (dumps ascii document ++ rest).length + 3 := by
    have bound := weight_le ascii document
    simp only [List.length_append]
    omega
  simp only [loads, skipSpace_dumps, readValue_dumps ascii document _ rest formed fixed enough stop,
    blank, ↓reduceIte]

/-- A well-formed document is read from its text. -/
theorem loads_dumps {rounding : FloatLiteral → FloatLiteral} (ascii : Bool) {document : Json}
    (formed : WellFormed document) (fixed : FixedBy rounding document) :
    loads rounding (dumps ascii document) = some document := by
  have whole := loads_dumps_append ascii formed fixed rfl delimited_nil
  rwa [List.append_nil] at whole

/-- A well-formed document is read from its text as one line. -/
theorem loads_line {rounding : FloatLiteral → FloatLiteral} (ascii : Bool) {document : Json}
    (formed : WellFormed document) (fixed : FixedBy rounding document) :
    loads rounding (dumps ascii document ++ ['\n']) = some document :=
  loads_dumps_append ascii formed fixed rfl (by simp; decide)

/-- A text with more than white space behind a document is refused. -/
theorem loads_extra {rounding : FloatLiteral → FloatLiteral} (ascii : Bool) {document : Json}
    (formed : WellFormed document) (fixed : FixedBy rounding document) {rest : Text}
    (extra : skipSpace rest ≠ []) (stop : Delimited rest) :
    loads rounding (dumps ascii document ++ rest) = none := by
  have enough : weight document ≤ 3 * (dumps ascii document ++ rest).length + 3 := by
    have bound := weight_le ascii document
    simp only [List.length_append]
    omega
  simp only [loads, skipSpace_dumps, readValue_dumps ascii document _ rest formed fixed enough stop,
    extra, ↓reduceIte]

mutual

/-- The identity keeps every literal. -/
theorem fixedBy_id : ∀ document : Json, FixedBy id document
  | .null => trivial
  | .bool _ => trivial
  | .int _ => trivial
  | .float _ => rfl
  | .str _ => trivial
  | .arr items => fixedItems_id items
  | .obj fields => fixedMembers_id fields

/-- `fixedBy_id` for items. -/
theorem fixedItems_id : ∀ items : List Json, FixedItems id items
  | [] => trivial
  | v :: vs => ⟨fixedBy_id v, fixedItems_id vs⟩

/-- `fixedBy_id` for members. -/
theorem fixedMembers_id : ∀ fields : List (String × Json), FixedMembers id fields
  | [] => trivial
  | (_, v) :: fields => ⟨fixedBy_id v, fixedMembers_id fields⟩

end

/-- Two well-formed documents with one text are equal. -/
theorem dumps_injective (ascii : Bool) {left right : Json} (leftFormed : WellFormed left)
    (rightFormed : WellFormed right) (same : dumps ascii left = dumps ascii right) :
    left = right := by
  have leftRead := loads_dumps ascii leftFormed (fixedBy_id left)
  have rightRead := loads_dumps ascii rightFormed (fixedBy_id right)
  rw [same, rightRead] at leftRead
  exact (Option.some.inj leftRead).symm

/-! ## The characters of an ASCII text -/

end Json

/-- A character of the printable ASCII range. -/
def isPrintable (c : Char) : Bool := decide (0x20 ≤ c.toNat ∧ c.toNat < 0x7F)

/-- A text of printable ASCII characters. -/
def Printable (text : Text) : Prop := ∀ c ∈ text, isPrintable c = true

/-- Whether a text is printable can be decided. -/
instance (text : Text) : Decidable (Printable text) :=
  List.decidableBAll (fun c => isPrintable c = true) text

/-- The empty text is printable. -/
@[simp] theorem printable_nil : Printable [] := by simp [Printable]

/-- A text is printable character by character. -/
@[simp] theorem printable_cons (c : Char) (text : Text) :
    Printable (c :: text) ↔ isPrintable c = true ∧ Printable text := by
  simp [Printable]

/-- Two texts are printable where both are. -/
@[simp] theorem printable_append (left right : Text) :
    Printable (left ++ right) ↔ Printable left ∧ Printable right := by
  simp only [Printable, List.mem_append]
  constructor
  · exact fun all => ⟨fun c member => all c (Or.inl member), fun c member => all c (Or.inr member)⟩
  · rintro ⟨first, second⟩ c (member | member)
    · exact first c member
    · exact second c member

/-- Four hexadecimal digits are printable. -/
theorem printable_hex4 (n : Nat) : Printable (hex4 n) := by
  have digit (k : Nat) : isPrintable (Nat.digitChar (k % 16)) = true := by
    have small : k % 16 < 16 := Nat.mod_lt _ (by decide)
    interval_cases k % 16 <;> decide
  simp [hex4, digit]

/-- An escaped character is printable. -/
theorem printable_escapeChar (c : Char) : Printable (escapeChar true c) := by
  have unit (n : Nat) : Printable (unicodeEscape n) := by
    simp only [unicodeEscape, printable_cons, printable_hex4, and_true]
    decide
  unfold escapeChar
  split_ifs with _ _ _ _ _ _ _ control wide
  any_goals decide
  · exact unit _
  · unfold codePointEscape
    split_ifs
    · exact unit _
    · exact (printable_append _ _).mpr ⟨unit _, unit _⟩
  · simp only [Bool.true_and, decide_eq_true_eq] at wide
    simp only [printable_cons, printable_nil, and_true, isPrintable, decide_eq_true_eq]
    omega

/-- A quoted string is printable. -/
theorem printable_quote (s : String) : Printable (quote true s) := by
  have body : Printable (escape true s.toList) := by
    intro c member
    obtain ⟨d, _, inside⟩ := List.mem_flatMap.mp member
    exact printable_escapeChar d c inside
  simp only [quote, printable_cons, printable_append, body, printable_nil]
  decide

/-- The characters of number literals are printable. -/
theorem isPrintable_of_number {c : Char} (number : isNumberChar c = true) :
    isPrintable c = true := by
  simp only [isNumberChar, Bool.or_eq_true, beq_iff_eq] at number
  rcases number with ((((digit | rfl) | rfl) | rfl) | rfl) | rfl
  · have range : 48 ≤ c.toNat ∧ c.toNat ≤ 57 := by
      simp only [Char.isDigit, Bool.and_eq_true, decide_eq_true_eq, ge_iff_le,
        UInt32.le_iff_toNat_le] at digit
      exact digit
    simp only [isPrintable, decide_eq_true_eq]
    omega
  all_goals decide

/-- A number literal is printable. -/
theorem printable_float (literal : FloatLiteral) : Printable literal.text := by
  obtain ⟨text, shape⟩ := literal
  have cases : isFiniteFloat text = true ∨ text ∈ nonFinite := by
    simpa [isFloat] using shape
  rcases cases with finite | named
  · exact fun c member => isPrintable_of_number ((isFiniteFloat_number finite).1 c member)
  · simp only [nonFinite, List.mem_cons, List.not_mem_nil, or_false] at named
    rcases named with rfl | rfl | rfl
    · exact (by decide : Printable "NaN".toList)
    · exact (by decide : Printable "Infinity".toList)
    · exact (by decide : Printable "-Infinity".toList)

namespace Json

mutual

/-- The ASCII text of a document is printable. -/
theorem printable_dumps : ∀ document : Json, Printable (dumps true document)
  | .null => by decide
  | .bool true => by decide
  | .bool false => by decide
  | .int n => fun c member => isPrintable_of_number (integerText_number n c member)
  | .float literal => printable_float literal
  | .str s => printable_quote s
  | .arr [] => by decide
  | .arr (v :: vs) => by
    simp only [dumps, printable_cons, printable_append, printable_dumps v,
      printable_dumpsItems vs]
    decide
  | .obj [] => by decide
  | .obj ((k, v) :: fields) => by
    simp only [dumps, printable_cons, printable_append, printable_quote, printable_dumps v,
      printable_dumpsMembers fields]
    decide

/-- `printable_dumps` for items. -/
theorem printable_dumpsItems : ∀ items : List Json, Printable (dumpsItems true items)
  | [] => by decide
  | v :: vs => by
    simp only [dumpsItems, printable_cons, printable_append, printable_dumps v,
      printable_dumpsItems vs]
    decide

/-- `printable_dumps` for members. -/
theorem printable_dumpsMembers : ∀ fields : List (String × Json),
    Printable (dumpsMembers true fields)
  | [] => by decide
  | (k, v) :: fields => by
    simp only [dumpsMembers, printable_cons, printable_append, printable_quote, printable_dumps v,
      printable_dumpsMembers fields]
    decide

end

end Json

end DTLab.Library
