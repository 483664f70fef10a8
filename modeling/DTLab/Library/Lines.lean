import DTLab.Library.Json
import Mathlib.Data.List.Induction

/-!
# Lines of a file

A file is the text of its bytes, one character a byte. `linesOf` splits it as reading line by
line does: every line keeps its newline, and what follows the last newline is a line without
one. Text mode first turns every line ending into a newline.
-/

namespace DTLab.Library

/-- The lines of a file in order; only the last one may lack its newline. -/
def linesOf : Text → List Text
  | [] => []
  | c :: rest =>
    if c = '\n' then ['\n'] :: linesOf rest
    else
      match linesOf rest with
      | [] => [[c]]
      | line :: lines => (c :: line) :: lines

/-- The line endings of text mode: a carriage return, alone or before a newline, is a newline. -/
def universalNewlines : Text → Text
  | [] => []
  | '\r' :: '\n' :: rest => '\n' :: universalNewlines rest
  | '\r' :: rest => '\n' :: universalNewlines rest
  | c :: rest => c :: universalNewlines rest

/-- An ASCII character that `str.strip` removes. -/
def isBlank (c : Char) : Bool :=
  decide (0x09 ≤ c.toNat ∧ c.toNat ≤ 0x0D ∨ 0x1C ≤ c.toNat ∧ c.toNat ≤ 0x20)

/-- A text of ASCII bytes. -/
def isAscii (text : Text) : Bool := text.all fun c => decide (c.toNat < 0x80)

@[simp] theorem linesOf_nil : linesOf [] = [] := rfl

/-- A character is a line of its own or goes in front of the first line behind it. -/
theorem linesOf_cons (c : Char) (rest : Text) :
    linesOf (c :: rest) =
      if c = '\n' then ['\n'] :: linesOf rest
      else
        match linesOf rest with
        | [] => [[c]]
        | line :: lines => (c :: line) :: lines := rfl

/-- A text with its newline is the first line. -/
theorem linesOf_line {body : Text} (inside : '\n' ∉ body) (rest : Text) :
    linesOf (body ++ '\n' :: rest) = (body ++ ['\n']) :: linesOf rest := by
  induction body with
  | nil => simp [linesOf_cons]
  | cons c body ih =>
    have other : c ≠ '\n' := fun same => inside (same ▸ List.mem_cons_self)
    have later := ih fun member => inside (List.mem_cons_of_mem c member)
    simp [linesOf_cons, other, later]

/-- A text without a newline is one line, unless it is empty. -/
theorem linesOf_tail {body : Text} (inside : '\n' ∉ body) :
    linesOf body = if body = [] then [] else [body] := by
  induction body with
  | nil => rfl
  | cons c body ih =>
    have other : c ≠ '\n' := fun same => inside (same ▸ List.mem_cons_self)
    have later := ih fun member => inside (List.mem_cons_of_mem c member)
    by_cases last : body = []
    · simp [linesOf_cons, other, last]
    · simp [linesOf_cons, other, later, last]

/-- Behind its first line a text goes on with the other lines. -/
theorem linesOf_drop {text line : Text} {lines : List Text} (split : linesOf text = line :: lines) :
    linesOf (text.drop line.length) = lines := by
  induction text generalizing line lines with
  | nil => cases split
  | cons c rest ih =>
    rw [linesOf_cons] at split
    split_ifs at split
    · obtain ⟨rfl, rfl⟩ := List.cons.inj split
      rfl
    · cases later : linesOf rest with
      | nil =>
        rw [later] at split
        obtain ⟨rfl, rfl⟩ := List.cons.inj split
        exact later
      | cons first others =>
        rw [later] at split
        obtain ⟨rfl, rfl⟩ := List.cons.inj split
        exact ih later

/-- A file whose last line, if any, has its newline. -/
def Complete (file : Text) : Prop := ∀ c ∈ file.getLast?, c = '\n'

instance : DecidablePred Complete := fun file =>
  inferInstanceAs (Decidable (∀ c ∈ file.getLast?, c = '\n'))

/-- A newline ends a line whatever stands before it. -/
theorem linesOf_append_newline (front rest : Text) :
    linesOf (front ++ '\n' :: rest) = linesOf (front ++ ['\n']) ++ linesOf rest := by
  induction front with
  | nil => simp [linesOf_cons]
  | cons c front ih =>
    by_cases newline : c = '\n'
    · simp [linesOf_cons, newline, ih]
    · cases lines : linesOf (front ++ ['\n']) with
      | nil =>
        have shown : linesOf (front ++ ['\n']) ≠ [] := by
          cases front with
          | nil => simp [linesOf_cons]
          | cons d front =>
            by_cases first : d = '\n'
            · simp [linesOf_cons, first]
            · simp only [List.cons_append, linesOf_cons, first, ↓reduceIte]
              split <;> simp
        exact absurd lines shown
      | cons line lines' => simp [linesOf_cons, newline, ih, lines]

/-- What follows complete lines is split on its own. -/
theorem linesOf_append {front : Text} (complete : Complete front) (rest : Text) :
    linesOf (front ++ rest) = linesOf front ++ linesOf rest := by
  cases front using List.reverseRecOn with
  | nil => rfl
  | append_singleton front c =>
    obtain rfl : c = '\n' := complete c (by simp)
    simpa using linesOf_append_newline front rest

/-- A carriage return before a newline is dropped in text mode. -/
theorem universalNewlines_crlf (rest : Text) :
    universalNewlines ('\r' :: '\n' :: rest) = '\n' :: universalNewlines rest := rfl

/-- A carriage return alone becomes a newline in text mode. -/
theorem universalNewlines_cr {rest : Text} (single : ∀ next, rest = '\n' :: next → False) :
    universalNewlines ('\r' :: rest) = '\n' :: universalNewlines rest := by
  rw [universalNewlines]
  exact single

/-- A character other than a carriage return stays in text mode. -/
theorem universalNewlines_cons {c : Char} (other : c ≠ '\r') (rest : Text) :
    universalNewlines (c :: rest) = c :: universalNewlines rest := by
  rw [universalNewlines]
  · exact fun _ same _ => other same
  · exact other

/-- A text without carriage returns is the same in text mode. -/
theorem universalNewlines_eq {text : Text} (inside : '\r' ∉ text) :
    universalNewlines text = text := by
  induction text using universalNewlines.induct with
  | case1 => rfl
  | case2 rest ih => exact absurd List.mem_cons_self inside
  | case3 rest other ih => exact absurd List.mem_cons_self inside
  | case4 c rest other crlf ih =>
    have later := ih fun member => inside (List.mem_cons_of_mem c member)
    rw [universalNewlines_cons crlf, later]

end DTLab.Library
