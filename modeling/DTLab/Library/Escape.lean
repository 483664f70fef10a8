import DTLab.Library.Json

/-!
# Escaped texts

A text is escaped by putting a backslash and a code in place of each special character. Marks that
are special then occur between escaped texts only, and a reader can split at them before it undoes
the escapes. The backslash must be special itself.
-/

namespace DTLab.Library.Escape

/-- The codes of special characters, and the characters they stand for. -/
structure Codes where
  /-- The code of a special character. -/
  code : Char → Option Char
  /-- The character of a code. -/
  char : Char → Char
  /-- Reading a code gives the character back. -/
  char_code : ∀ c d, code c = some d → char d = c
  /-- The backslash is special. -/
  backslash : code '\\' ≠ none

/-- Does a text lack some characters? -/
def lacks (marks : List Char) (text : Text) : Bool := text.all fun c => !marks.contains c

/-- A text lacks the characters that are not in it. -/
theorem not_mem_of_lacks {marks : List Char} {text : Text} (plain : lacks marks text = true)
    {c : Char} (listed : c ∈ marks) : c ∉ text := by
  intro member
  have other := List.all_eq_true.mp plain c member
  rw [Bool.not_eq_true', List.contains_eq_mem, decide_eq_false_iff_not] at other
  exact other listed

namespace Codes

variable (codes : Codes)

/-- A character as it is written. -/
def escapeChar (c : Char) : Text :=
  match codes.code c with
  | some d => ['\\', d]
  | none => [c]

/-- A text as it is written. -/
def escape (text : Text) : Text := text.flatMap codes.escapeChar

/-- Undo the escapes of a text. -/
def unescape : Text → Text
  | '\\' :: d :: rest => codes.char d :: unescape rest
  | c :: rest => c :: unescape rest
  | [] => []

/-- A character that is no backslash stands for itself. -/
theorem unescape_cons {c : Char} (plain : c ≠ '\\') (rest : Text) :
    codes.unescape (c :: rest) = c :: codes.unescape rest := by
  rw [unescape]
  intro d tail same
  exact absurd same plain

/-- Undoing the escapes gives a text back. -/
theorem unescape_escape (text : Text) : codes.unescape (codes.escape text) = text := by
  induction text with
  | nil => rfl
  | cons c text ih =>
    rw [escape, List.flatMap_cons, escapeChar]
    rw [escape] at ih
    cases special : codes.code c with
    | some d =>
      show codes.char d :: codes.unescape (text.flatMap codes.escapeChar) = c :: text
      rw [ih, codes.char_code c d special]
    | none =>
      have plain : c ≠ '\\' := by
        rintro rfl
        exact codes.backslash special
      show codes.unescape (c :: text.flatMap codes.escapeChar) = c :: text
      rw [codes.unescape_cons plain, ih]

/-- A text without backslashes stands for itself. -/
theorem unescape_of_plain {text : Text} (plain : '\\' ∉ text) : codes.unescape text = text := by
  induction text with
  | nil => rfl
  | cons c text ih =>
    rw [List.mem_cons, not_or] at plain
    rw [codes.unescape_cons (Ne.symm plain.1), ih plain.2]

end Codes

/-! ## Splitting at marks -/

/-- Put characters in front of the first part. -/
def ontoFirst (front : Text) : List Text → List Text
  | [] => [front]
  | part :: parts => (front ++ part) :: parts

/-- The parts between the marks that are not escaped. -/
def splitAt (mark : Char) : Text → List Text
  | '\\' :: d :: rest => ontoFirst ['\\', d] (splitAt mark rest)
  | c :: rest => if c = mark then [] :: splitAt mark rest else ontoFirst [c] (splitAt mark rest)
  | [] => [[]]

/-- There is always a part. -/
theorem splitAt_ne_nil (mark : Char) (text : Text) : splitAt mark text ≠ [] := by
  have onto : ∀ front parts, ontoFirst front parts ≠ [] := by
    intro front parts
    cases parts with
    | nil => exact List.cons_ne_nil _ _
    | cons part parts => exact List.cons_ne_nil _ _
  unfold splitAt
  split
  · exact onto _ _
  · split
    · exact List.cons_ne_nil _ _
    · exact onto _ _
  · exact List.cons_ne_nil _ _

/-- A text in which every mark is escaped. -/
inductive Sealed (mark : Char) : Text → Prop
  | nil : Sealed mark []
  | escaped (d : Char) {rest : Text} : Sealed mark rest → Sealed mark ('\\' :: d :: rest)
  | plain {c : Char} {rest : Text} : c ≠ '\\' → c ≠ mark → Sealed mark rest →
      Sealed mark (c :: rest)

variable {mark : Char}

/-- A character that is neither a backslash nor the mark is part of what is split. -/
theorem splitAt_cons {c : Char} (plain : c ≠ '\\') (other : c ≠ mark) (rest : Text) :
    splitAt mark (c :: rest) = ontoFirst [c] (splitAt mark rest) := by
  rw [splitAt, if_neg other]
  intro d tail same
  exact absurd same plain

/-- A mark splits. -/
theorem splitAt_mark (special : mark ≠ '\\') (rest : Text) :
    splitAt mark (mark :: rest) = [] :: splitAt mark rest := by
  rw [splitAt, if_pos rfl]
  intro d tail same
  exact absurd same special

/-- A sealed text is a part up to the next mark. -/
theorem Sealed.splitAt_append {text : Text} (sealed : Sealed mark text) (special : mark ≠ '\\')
    (rest : Text) : splitAt mark (text ++ mark :: rest) = text :: splitAt mark rest := by
  induction sealed with
  | nil => exact splitAt_mark special rest
  | escaped d _ ih =>
    show ontoFirst ['\\', d] (splitAt mark (_ ++ mark :: rest)) = _
    rw [ih]
    rfl
  | plain notBackslash other _ ih =>
    rw [List.cons_append, splitAt_cons notBackslash other, ih]
    rfl

/-- A sealed text is one part. -/
theorem Sealed.splitAt_self {text : Text} (sealed : Sealed mark text) :
    splitAt mark text = [text] := by
  induction sealed with
  | nil => rfl
  | escaped d _ ih =>
    show ontoFirst ['\\', d] (splitAt mark _) = _
    rw [ih]
    rfl
  | plain notBackslash other _ ih =>
    rw [splitAt_cons notBackslash other, ih]
    rfl

/-- Sealed texts in a row are sealed. -/
theorem Sealed.append {left right : Text} (first : Sealed mark left) (second : Sealed mark right) :
    Sealed mark (left ++ right) := by
  induction first with
  | nil => exact second
  | escaped d _ ih => exact .escaped d ih
  | plain notBackslash other _ ih => exact .plain notBackslash other ih

/-- A text without backslashes and marks is sealed. -/
theorem Sealed.of_plain {text : Text} (plain : '\\' ∉ text) (other : mark ∉ text) :
    Sealed mark text := by
  induction text with
  | nil => exact .nil
  | cons c text ih =>
    rw [List.mem_cons, not_or] at plain other
    exact .plain (Ne.symm plain.1) (Ne.symm other.1) (ih plain.2 other.2)

/-- An escaped text is sealed against every special mark. -/
theorem Codes.sealed_escape (codes : Codes) (special : codes.code mark ≠ none) (text : Text) :
    Sealed mark (codes.escape text) := by
  induction text with
  | nil => exact .nil
  | cons c text ih =>
    rw [Codes.escape, List.flatMap_cons, Codes.escapeChar]
    cases found : codes.code c with
    | some d => exact .escaped d ih
    | none =>
      refine .plain ?_ ?_ ih
      · rintro rfl
        exact codes.backslash found
      · rintro rfl
        exact special found

/-- No character of a text that is special and no code is left in an escaped text. -/
theorem Codes.not_mem_escape (codes : Codes) {c : Char} (special : codes.code c ≠ none)
    (noCode : ∀ d, codes.code d ≠ some c) (notBackslash : c ≠ '\\') (text : Text) :
    c ∉ codes.escape text := by
  intro member
  obtain ⟨d, _, inside⟩ := List.mem_flatMap.mp member
  rw [Codes.escapeChar] at inside
  cases found : codes.code d with
  | some code =>
    rw [found] at inside
    rcases List.mem_cons.mp inside with same | last
    · exact notBackslash same
    · rw [List.mem_singleton.mp last] at noCode
      exact noCode d found
  | none =>
    rw [found] at inside
    rw [List.mem_singleton.mp inside] at special
    exact special found

end DTLab.Library.Escape
