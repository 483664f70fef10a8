import Mathlib.Data.String.Basic
import Mathlib.Data.List.Pairwise

/-!
# JSON documents and their compact text

A document keeps the members of every object in increasing key order, which stands for a
dictionary up to the order of its keys and is the order in which the compact writer prints
them. The writer has the two escaping rules of the usual libraries: with `ascii` every
character outside the printable ASCII range is escaped, without it only the characters that
JSON does not admit in a string. Literals with a fraction or an exponent stay text: no
arithmetic is done on them, so nothing here depends on a floating-point format.
-/

namespace DTLab.Library

/-- Text as the list of its characters. -/
abbrev Text := List Char

/-- The characters of a number literal. -/
def isNumberChar (c : Char) : Bool :=
  c.isDigit || c == '-' || c == '+' || c == '.' || c == 'e' || c == 'E'

/-- Digits without a superfluous leading zero. -/
def isNatural : Text → Bool
  | [] => false
  | ['0'] => true
  | c :: rest => c != '0' && c.isDigit && rest.all Char.isDigit

/-- An integer literal: an optional minus sign before a natural. -/
def isInteger : Text → Bool
  | '-' :: rest => isNatural rest
  | text => isNatural text

/-- The digits of an exponent after its optional sign. -/
def exponentDigits : Text → Text
  | '+' :: rest => rest
  | '-' :: rest => rest
  | rest => rest

/-- An exponent: its letter, an optional sign and at least one digit. -/
def isExponent : Text → Bool
  | [] => false
  | c :: rest =>
    (c == 'e' || c == 'E') && !(exponentDigits rest).isEmpty &&
      (exponentDigits rest).all Char.isDigit

/-- What follows the whole part of a fractional literal. -/
def isFractional : Text → Bool
  | '.' :: rest =>
    !(rest.takeWhile Char.isDigit).isEmpty &&
      ((rest.dropWhile Char.isDigit).isEmpty || isExponent (rest.dropWhile Char.isDigit))
  | text => isExponent text

/-- An unsigned literal with a fraction or an exponent. -/
def isUnsignedFloat (text : Text) : Bool :=
  isNatural (text.takeWhile Char.isDigit) && isFractional (text.dropWhile Char.isDigit)

/-- A finite literal with a fraction or an exponent. -/
def isFiniteFloat : Text → Bool
  | '-' :: rest => isUnsignedFloat rest
  | text => isUnsignedFloat text

/-- The names of the values that have no digits. -/
def nonFinite : List Text := ["NaN".toList, "Infinity".toList, "-Infinity".toList]

/-- A number literal that denotes no integer. -/
def isFloat (text : Text) : Bool := isFiniteFloat text || decide (text ∈ nonFinite)

/-- A number literal that denotes no integer, kept as its text. -/
structure FloatLiteral where
  /-- The characters of the literal. -/
  text : Text
  /-- The characters form such a literal. -/
  shape : isFloat text = true
  deriving DecidableEq

/-- A document. -/
inductive Json where
  | null
  | bool (value : Bool)
  | int (value : Int)
  | float (literal : FloatLiteral)
  | str (value : String)
  | arr (items : List Json)
  | obj (fields : List (String × Json))

/-! ## The writer -/

/-- Decimal digits of an integer. -/
def integerText : Int → Text
  | .ofNat n => Nat.toDigits 10 n
  | .negSucc n => '-' :: Nat.toDigits 10 (n + 1)

/-- Four lower-case hexadecimal digits. -/
def hex4 (n : Nat) : Text :=
  [Nat.digitChar (n / 4096 % 16), Nat.digitChar (n / 256 % 16), Nat.digitChar (n / 16 % 16),
    Nat.digitChar (n % 16)]

/-- A sixteen-bit unit written as an escape. -/
def unicodeEscape (n : Nat) : Text := '\\' :: 'u' :: hex4 n

/-- The escape of a code point: one unit, or a surrogate pair above the basic plane. -/
def codePointEscape (n : Nat) : Text :=
  if n < 0x10000 then unicodeEscape n
  else unicodeEscape (0xD800 + (n - 0x10000) / 0x400) ++
    unicodeEscape (0xDC00 + (n - 0x10000) % 0x400)

/-- One character inside a string literal. -/
def escapeChar (ascii : Bool) (c : Char) : Text :=
  if c = '"' then ['\\', '"']
  else if c = '\\' then ['\\', '\\']
  else if c = '\n' then ['\\', 'n']
  else if c = '\r' then ['\\', 'r']
  else if c = '\t' then ['\\', 't']
  else if c = '\x0c' then ['\\', 'f']
  else if c = '\x08' then ['\\', 'b']
  else if c.toNat < 0x20 then unicodeEscape c.toNat
  else if ascii && decide (0x7E < c.toNat) then codePointEscape c.toNat
  else [c]

/-- The characters of a string literal, without its quotes. -/
def escape (ascii : Bool) (s : Text) : Text := s.flatMap (escapeChar ascii)

/-- A string literal. -/
def quote (ascii : Bool) (s : String) : Text := '"' :: (escape ascii s.toList ++ ['"'])

namespace Json

mutual

/-- The compact text of a document: no spaces, members in the order kept. -/
def dumps (ascii : Bool) : Json → Text
  | .null => ['n', 'u', 'l', 'l']
  | .bool true => ['t', 'r', 'u', 'e']
  | .bool false => ['f', 'a', 'l', 's', 'e']
  | .int n => integerText n
  | .float literal => literal.text
  | .str s => quote ascii s
  | .arr [] => ['[', ']']
  | .arr (v :: vs) => '[' :: (dumps ascii v ++ dumpsItems ascii vs)
  | .obj [] => ['{', '}']
  | .obj ((k, v) :: rest) =>
    '{' :: (quote ascii k ++ ':' :: (dumps ascii v ++ dumpsMembers ascii rest))
termination_by structural document => document

/-- The items after the first, up to the closing bracket. -/
def dumpsItems (ascii : Bool) : List Json → Text
  | [] => [']']
  | v :: vs => ',' :: (dumps ascii v ++ dumpsItems ascii vs)
termination_by structural items => items

/-- The members after the first, up to the closing brace. -/
def dumpsMembers (ascii : Bool) : List (String × Json) → Text
  | [] => ['}']
  | (k, v) :: rest => ',' :: (quote ascii k ++ ':' :: (dumps ascii v ++ dumpsMembers ascii rest))
termination_by structural fields => fields

end

/-! ## Well-formed documents -/

/-- The keys of a list of members. -/
abbrev keys (fields : List (String × Json)) : List String := fields.map Prod.fst

mutual

/-- Every object lists its members in strictly increasing key order. -/
def WellFormed : Json → Prop
  | .arr items => WellFormedItems items
  | .obj fields => (keys fields).Pairwise (· < ·) ∧ WellFormedMembers fields
  | _ => True
termination_by structural document => document

/-- Every item is well formed. -/
def WellFormedItems : List Json → Prop
  | [] => True
  | v :: vs => WellFormed v ∧ WellFormedItems vs
termination_by structural items => items

/-- Every member is well formed. -/
def WellFormedMembers : List (String × Json) → Prop
  | [] => True
  | (_, v) :: rest => WellFormed v ∧ WellFormedMembers rest
termination_by structural fields => fields

end

mutual

/-- Every literal without an integer value is one that `rounding` keeps. -/
def FixedBy (rounding : FloatLiteral → FloatLiteral) : Json → Prop
  | .float literal => rounding literal = literal
  | .arr items => FixedItems rounding items
  | .obj fields => FixedMembers rounding fields
  | _ => True
termination_by structural document => document

/-- `FixedBy` for every item. -/
def FixedItems (rounding : FloatLiteral → FloatLiteral) : List Json → Prop
  | [] => True
  | v :: vs => FixedBy rounding v ∧ FixedItems rounding vs
termination_by structural items => items

/-- `FixedBy` for every member. -/
def FixedMembers (rounding : FloatLiteral → FloatLiteral) : List (String × Json) → Prop
  | [] => True
  | (_, v) :: rest => FixedBy rounding v ∧ FixedMembers rounding rest
termination_by structural fields => fields

end

/-- Set one member, keeping the key order; a key that is present gets the new value. -/
def setField (key : String) (value : Json) : List (String × Json) → List (String × Json)
  | [] => [(key, value)]
  | (k, v) :: rest =>
    if key < k then (key, value) :: (k, v) :: rest
    else if key = k then (key, value) :: rest
    else (k, v) :: setField key value rest

end Json

end DTLab.Library
