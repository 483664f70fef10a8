import DTLab.Library.Json
import Mathlib.Data.List.Infix

/-!
# Reading JSON text

The reader accepts the texts of the usual libraries: white space between tokens, every
escape, the literals without digits, and objects that repeat a key (the last value counts).
A literal with a fraction or an exponent passes through `rounding`, the one step at which an
implementation may change it. A lone surrogate escape has no character and is refused.
Recursion is on a fuel that the length of the text bounds.
-/

namespace DTLab.Library

/-- White space between tokens. -/
def isSpace (c : Char) : Bool := c == ' ' || c == '\t' || c == '\n' || c == '\r'

/-- Skip white space. -/
def skipSpace (text : Text) : Text := text.dropWhile isSpace

/-- The value of a hexadecimal digit. -/
def hexValue (c : Char) : Option Nat :=
  if c.isDigit then some (c.toNat - 48)
  else if 'a' ≤ c ∧ c ≤ 'f' then some (c.toNat - 87)
  else if 'A' ≤ c ∧ c ≤ 'F' then some (c.toNat - 55)
  else none

/-- Four hexadecimal digits. -/
def readHex4 : Text → Option (Nat × Text)
  | a :: b :: c :: d :: rest =>
    match hexValue a, hexValue b, hexValue c, hexValue d with
    | some a, some b, some c, some d => some (a * 4096 + b * 256 + c * 16 + d, rest)
    | _, _, _, _ => none
  | _ => none

/-- The character of a unit escape, or of the pair that a high surrogate opens. The escape of a lone
surrogate is refused, as no character has it. -/
def readUnicode (text : Text) : Option (Char × Text) :=
  match readHex4 text with
  | none => none
  | some (unit, rest) =>
    if 0xD800 ≤ unit ∧ unit < 0xDC00 then
      match rest with
      | '\\' :: 'u' :: rest =>
        match readHex4 rest with
        | none => none
        | some (low, rest) =>
          if 0xDC00 ≤ low ∧ low < 0xE000 then
            some (Char.ofNat (0x10000 + (unit - 0xD800) * 0x400 + (low - 0xDC00)), rest)
          else none
      | _ => none
    else if 0xDC00 ≤ unit ∧ unit < 0xE000 then none
    else some (Char.ofNat unit, rest)

/-- The character of a two-character escape. -/
def simpleEscape (c : Char) : Option Char :=
  if c = '"' then some '"'
  else if c = '\\' then some '\\'
  else if c = '/' then some '/'
  else if c = 'b' then some '\x08'
  else if c = 'f' then some '\x0c'
  else if c = 'n' then some '\n'
  else if c = 'r' then some '\r'
  else if c = 't' then some '\t'
  else none

/-- One step inside a string literal: its next character, or its closing quote. -/
def readChar : Text → Option (Option Char × Text)
  | [] => none
  | c :: rest =>
    if c = '"' then some (none, rest)
    else if c = '\\' then
      match rest with
      | [] => none
      | e :: rest =>
        if e = 'u' then (readUnicode rest).map fun (c, rest) => (some c, rest)
        else (simpleEscape e).map fun c => (some c, rest)
    else if c.toNat < 0x20 then none
    else some (some c, rest)

/-- The characters of a string literal, from behind its opening quote. -/
def readString : Nat → Text → Option (Text × Text)
  | 0, _ => none
  | fuel + 1, text =>
    match readChar text with
    | none => none
    | some (none, rest) => some ([], rest)
    | some (some c, rest) => (readString fuel rest).map fun (s, rest) => (c :: s, rest)

/-- The value of an integer literal. -/
def integerValue : Text → Int
  | '-' :: rest => -(Nat.ofDigitChars 10 rest 0 : Int)
  | text => Nat.ofDigitChars 10 text 0

/-- The literals that are words. -/
def keywords : List (Text × Json) :=
  [(['n', 'u', 'l', 'l'], .null), (['t', 'r', 'u', 'e'], .bool true),
    (['f', 'a', 'l', 's', 'e'], .bool false), ("NaN".toList, .float ⟨"NaN".toList, by decide⟩),
    ("Infinity".toList, .float ⟨"Infinity".toList, by decide⟩),
    ("-Infinity".toList, .float ⟨"-Infinity".toList, by decide⟩)]

/-- A word at the front. -/
def readKeyword (text : Text) : Option (Json × Text) :=
  keywords.findSome? fun (word, value) =>
    if word.isPrefixOf text then some (value, text.drop word.length) else none

/-- A value without parts. -/
def readScalar (rounding : FloatLiteral → FloatLiteral) (text : Text) : Option (Json × Text) :=
  let token := text.takeWhile isNumberChar
  if isInteger token then some (.int (integerValue token), text.dropWhile isNumberChar)
  else if shape : isFloat token = true then
    some (.float (rounding ⟨token, shape⟩), text.dropWhile isNumberChar)
  else
    match readKeyword text with
    | some (.float literal, rest) => some (.float (rounding literal), rest)
    | found => found

namespace Json

/-- Put a member before the members read after it: a later member of the same key wins. -/
def addFirst (key : String) (value : Json) (later : List (String × Json)) :
    List (String × Json) :=
  if key ∈ keys later then later else setField key value later

mutual

/-- A value at the front of a text. -/
def readValue (rounding : FloatLiteral → FloatLiteral) : Nat → Text → Option (Json × Text)
  | 0, _ => none
  | fuel + 1, text =>
    match text with
    | '"' :: rest =>
      (readString (rest.length + 1) rest).map fun (s, rest) => (.str (String.ofList s), rest)
    | '[' :: rest => readArray rounding fuel (skipSpace rest)
    | '{' :: rest => readObject rounding fuel (skipSpace rest)
    | text => readScalar rounding text

/-- An array from behind its opening bracket. -/
def readArray (rounding : FloatLiteral → FloatLiteral) : Nat → Text → Option (Json × Text)
  | 0, _ => none
  | fuel + 1, text =>
    match text with
    | ']' :: rest => some (.arr [], rest)
    | text =>
      match readValue rounding fuel text with
      | none => none
      | some (v, rest) =>
        (readItems rounding fuel (skipSpace rest)).map fun (vs, rest) => (.arr (v :: vs), rest)

/-- The items after one, through the closing bracket. -/
def readItems (rounding : FloatLiteral → FloatLiteral) : Nat → Text → Option (List Json × Text)
  | 0, _ => none
  | fuel + 1, text =>
    match text with
    | ']' :: rest => some ([], rest)
    | ',' :: rest =>
      match readValue rounding fuel (skipSpace rest) with
      | none => none
      | some (v, rest) =>
        (readItems rounding fuel (skipSpace rest)).map fun (vs, rest) => (v :: vs, rest)
    | _ => none

/-- A member from its opening quote. -/
def readMember (rounding : FloatLiteral → FloatLiteral) :
    Nat → Text → Option ((String × Json) × Text)
  | 0, _ => none
  | fuel + 1, text =>
    match text with
    | '"' :: rest =>
      match readString (rest.length + 1) rest with
      | none => none
      | some (key, rest) =>
        match skipSpace rest with
        | ':' :: rest =>
          (readValue rounding fuel (skipSpace rest)).map fun (v, rest) =>
            ((String.ofList key, v), rest)
        | _ => none
    | _ => none

/-- An object from behind its opening brace. -/
def readObject (rounding : FloatLiteral → FloatLiteral) : Nat → Text → Option (Json × Text)
  | 0, _ => none
  | fuel + 1, text =>
    match text with
    | '}' :: rest => some (.obj [], rest)
    | text =>
      match readMember rounding fuel text with
      | none => none
      | some ((k, v), rest) =>
        (readMembers rounding fuel (skipSpace rest)).map fun (later, rest) =>
          (.obj (addFirst k v later), rest)

/-- The members after one, through the closing brace. -/
def readMembers (rounding : FloatLiteral → FloatLiteral) :
    Nat → Text → Option (List (String × Json) × Text)
  | 0, _ => none
  | fuel + 1, text =>
    match text with
    | '}' :: rest => some ([], rest)
    | ',' :: rest =>
      match readMember rounding fuel (skipSpace rest) with
      | none => none
      | some ((k, v), rest) =>
        (readMembers rounding fuel (skipSpace rest)).map fun (later, rest) =>
          (addFirst k v later, rest)
    | _ => none

end

/-- A whole text as one document, with white space around it. -/
def loads (rounding : FloatLiteral → FloatLiteral) (text : Text) : Option Json :=
  match readValue rounding (3 * text.length + 3) (skipSpace text) with
  | none => none
  | some (document, rest) => if skipSpace rest = [] then some document else none

end Json

end DTLab.Library
