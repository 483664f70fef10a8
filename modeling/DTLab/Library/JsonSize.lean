import DTLab.Library.JsonRoundTrip

/-!
# Sizes of JSON texts

A bound on the size of the text that the writer produces, from bounds on its strings. The size
of a text is the sum of a cost of its characters, such as one each or the bytes of an encoding;
the characters of the grammar cost one.
-/

namespace DTLab.Library

/-- The size of a text under a cost of its characters. -/
def textCost (cost : Char → Nat) (text : Text) : Nat := (text.map cost).sum

/-- A cost under which an ASCII character counts one. -/
def AsciiUnit (cost : Char → Nat) : Prop := ∀ c, c.toNat < 0x80 → cost c = 1

variable {cost : Char → Nat}

/-- The empty text has no size. -/
@[simp] theorem textCost_nil : textCost cost [] = 0 := rfl

/-- The size of a text is that of its characters. -/
@[simp] theorem textCost_cons (c : Char) (text : Text) :
    textCost cost (c :: text) = cost c + textCost cost text := by
  simp [textCost]

/-- The size of two texts is that of both. -/
@[simp] theorem textCost_append (front rest : Text) :
    textCost cost (front ++ rest) = textCost cost front + textCost cost rest := by
  simp [textCost]

/-- An ASCII text costs its length. -/
theorem textCost_ascii (unit : AsciiUnit cost) {text : Text}
    (ascii : ∀ c ∈ text, c.toNat < 0x80) : textCost cost text = text.length := by
  induction text with
  | nil => rfl
  | cons c text ih =>
    have first := unit c (ascii c List.mem_cons_self)
    have rest := ih fun d member => ascii d (List.mem_cons_of_mem c member)
    simp only [textCost_cons, first, rest, List.length_cons]
    omega

namespace Json

mutual

/-- A bound on the size of the text of a document, where `size` bounds the characters of a
string literal. -/
def bound (size : String → Nat) : Json → Nat
  | .null => 4
  | .bool _ => 5
  | .int n => (integerText n).length
  | .float literal => literal.text.length
  | .str s => size s + 2
  | .arr items => boundItems size items + 2
  | .obj fields => boundMembers size fields + 2
termination_by structural document => document

/-- `bound` for the items of an array, with a separator each. -/
def boundItems (size : String → Nat) : List Json → Nat
  | [] => 0
  | v :: vs => bound size v + 1 + boundItems size vs
termination_by structural items => items

/-- `bound` for the members of an object, with the key and the separators of each. -/
def boundMembers (size : String → Nat) : List (String × Json) → Nat
  | [] => 0
  | (k, v) :: rest => size k + bound size v + 4 + boundMembers size rest
termination_by structural fields => fields

end

variable {size : String → Nat} {ascii : Bool}

/-- A printable text costs its length. -/
theorem textCost_printable (unit : AsciiUnit cost) {text : Text} (printable : Printable text) :
    textCost cost text = text.length := by
  apply textCost_ascii unit
  intro c member
  have bounds := printable c member
  simp only [isPrintable, decide_eq_true_eq] at bounds
  omega

/-- A written integer costs its length. -/
theorem textCost_integerText (unit : AsciiUnit cost) (n : Int) :
    textCost cost (integerText n) = (integerText n).length :=
  textCost_printable unit fun c member => isPrintable_of_number (integerText_number n c member)

/-- Every string literal costs at most its size and two quotes. -/
def Sized (cost : Char → Nat) (ascii : Bool) (size : String → Nat) : Prop :=
  ∀ s, textCost cost (escape ascii s.toList) ≤ size s

/-- A string literal costs its characters and two quotes. -/
theorem textCost_quote (unit : AsciiUnit cost) (strings : Sized cost ascii size) (s : String) :
    textCost cost (quote ascii s) ≤ size s + 2 := by
  have mark : cost '"' = 1 := unit '"' (by decide)
  have inside := strings s
  simp only [quote, textCost_cons, textCost_append, textCost_nil, mark]
  omega

mutual

/-- The text of a document costs at most its bound. -/
theorem textCost_dumps_le (unit : AsciiUnit cost) (strings : Sized cost ascii size) :
    ∀ document : Json, textCost cost (dumps ascii document) ≤ bound size document
  | .null => by
    have word : Printable ['n', 'u', 'l', 'l'] := by decide
    exact (textCost_printable unit word).le
  | .bool true => by
    have word : Printable ['t', 'r', 'u', 'e'] := by decide
    rw [dumps, textCost_printable unit word]
    exact Nat.le_succ 4
  | .bool false => by
    have word : Printable ['f', 'a', 'l', 's', 'e'] := by decide
    exact (textCost_printable unit word).le
  | .int n => (textCost_integerText unit n).le
  | .float literal => (textCost_printable unit (printable_float literal)).le
  | .str s => textCost_quote unit strings s
  | .arr [] => by
    have brackets : Printable ['[', ']'] := by decide
    exact (textCost_printable unit brackets).le
  | .arr (v :: vs) => by
    have mark : cost '[' = 1 := unit '[' (by decide)
    have first := textCost_dumps_le unit strings v
    have rest := textCost_dumpsItems_le unit strings vs
    simp only [dumps, textCost_cons, textCost_append, mark, bound, boundItems]
    omega
  | .obj [] => by
    have braces : Printable ['{', '}'] := by decide
    exact (textCost_printable unit braces).le
  | .obj ((k, v) :: rest) => by
    have mark : cost '{' = 1 := unit '{' (by decide)
    have colon : cost ':' = 1 := unit ':' (by decide)
    have key := textCost_quote unit strings k
    have first := textCost_dumps_le unit strings v
    have later := textCost_dumpsMembers_le unit strings rest
    simp only [dumps, textCost_cons, textCost_append, mark, colon, bound, boundMembers]
    omega
termination_by structural document => document

/-- `textCost_dumps_le` for the items after the first. -/
theorem textCost_dumpsItems_le (unit : AsciiUnit cost) (strings : Sized cost ascii size) :
    ∀ items : List Json, textCost cost (dumpsItems ascii items) ≤ boundItems size items + 1
  | [] => by
    have bracket : Printable [']'] := by decide
    exact (textCost_printable unit bracket).le
  | v :: vs => by
    have mark : cost ',' = 1 := unit ',' (by decide)
    have first := textCost_dumps_le unit strings v
    have rest := textCost_dumpsItems_le unit strings vs
    simp only [dumpsItems, textCost_cons, textCost_append, mark, boundItems]
    omega
termination_by structural items => items

/-- `textCost_dumps_le` for the members after the first. -/
theorem textCost_dumpsMembers_le (unit : AsciiUnit cost) (strings : Sized cost ascii size) :
    ∀ fields : List (String × Json), textCost cost (dumpsMembers ascii fields) ≤
      boundMembers size fields + 1
  | [] => by
    have brace : Printable ['}'] := by decide
    exact (textCost_printable unit brace).le
  | (k, v) :: rest => by
    have mark : cost ',' = 1 := unit ',' (by decide)
    have colon : cost ':' = 1 := unit ':' (by decide)
    have key := textCost_quote unit strings k
    have first := textCost_dumps_le unit strings v
    have later := textCost_dumpsMembers_le unit strings rest
    simp only [dumpsMembers, textCost_cons, textCost_append, mark, colon, boundMembers]
    omega
termination_by structural fields => fields

end

/-! ## Characters and bytes -/

/-- A string literal costs at most the greatest cost of an escape for each character. -/
theorem textCost_escape_le {most : Nat}
    (each : ∀ c, textCost cost (escapeChar ascii c) ≤ most) (s : Text) :
    textCost cost (escape ascii s) ≤ most * s.length := by
  induction s with
  | nil => simp [escape]
  | cons c s ih =>
    have first := each c
    have split : escape ascii (c :: s) = escapeChar ascii c ++ escape ascii s := rfl
    rw [split, textCost_append, List.length_cons, Nat.mul_succ]
    omega

/-- The length of a text is its size with one for each character. -/
theorem textCost_one (text : Text) : textCost (fun _ => 1) text = text.length := by
  simp [textCost]

/-- An escape has at most twelve characters, and at most six unless it is for a character beyond
ASCII. -/
theorem escapeChar_length_le (ascii : Bool) (c : Char) :
    (escapeChar ascii c).length ≤ 12 ∧
      ((ascii && decide (0x7E < c.toNat)) = false → (escapeChar ascii c).length ≤ 6) := by
  have unit (n : Nat) : (unicodeEscape n).length = 6 := rfl
  have point : (codePointEscape c.toNat).length ≤ 12 := by
    unfold codePointEscape
    split_ifs
    · rw [unit]
      omega
    · rw [List.length_append, unit, unit]
  have pair (d e : Char) : [d, e].length ≤ 12 ∧
      ((ascii && decide (0x7E < c.toNat)) = false → [d, e].length ≤ 6) :=
    ⟨Nat.le_add_left 2 10, fun _ => Nat.le_add_left 2 4⟩
  unfold escapeChar
  split_ifs with quote slash newline carriage tab feed back control wide
  · exact pair _ _
  · exact pair _ _
  · exact pair _ _
  · exact pair _ _
  · exact pair _ _
  · exact pair _ _
  · exact pair _ _
  · rw [unit]
    exact ⟨Nat.le_add_left 6 6, fun _ => Nat.le_refl 6⟩
  · exact ⟨point, fun narrow => absurd wide (by simp [narrow])⟩
  · exact ⟨Nat.le_add_left 1 11, fun _ => Nat.le_add_left 1 5⟩

/-- A string has at most as many characters as bytes. -/
theorem length_le_utf8ByteSize (s : String) : s.length ≤ s.utf8ByteSize := by
  induction s using String.push_induction with
  | empty => exact Nat.le_refl 0
  | push s c ih =>
    have positive := Char.utf8Size_pos c
    rw [String.length_push, String.utf8ByteSize_push]
    omega

/-- The length of an ASCII text of a document, from the bytes of its strings. -/
theorem length_dumps_le (ascii : Bool) (document : Json) :
    (dumps ascii document).length ≤ bound (fun s => 12 * s.utf8ByteSize) document := by
  have unit : AsciiUnit fun _ => 1 := fun _ _ => rfl
  have strings : Sized (fun _ => 1) ascii fun s => 12 * s.utf8ByteSize := by
    intro s
    have escaped := textCost_escape_le (fun c => (textCost_one _).trans_le
      (escapeChar_length_le ascii c).1) s.toList
    have bytes := length_le_utf8ByteSize s
    rw [String.length_toList] at escaped
    exact escaped.trans (Nat.mul_le_mul_left 12 bytes)
  have bounded := textCost_dumps_le unit strings document
  rwa [textCost_one] at bounded

/-- An ASCII character is one byte. -/
theorem asciiUnit_utf8Size : AsciiUnit Char.utf8Size := by
  intro c ascii
  rw [Char.utf8Size_eq_one_iff, UInt32.le_iff_toNat_le]
  have same : c.val.toNat = c.toNat := rfl
  rw [same]
  exact Nat.le_of_lt_succ ascii

/-- An escape that keeps the characters beyond ASCII has at most six bytes. -/
theorem escapeChar_bytes_le (c : Char) : textCost Char.utf8Size (escapeChar false c) ≤ 6 := by
  by_cases narrow : c.toNat ≤ 0x7E
  · have same : escapeChar false c = escapeChar true c := by
      have wide : decide (0x7E < c.toNat) = false := by simpa using narrow
      simp only [escapeChar, wide, Bool.and_false]
    rw [same, textCost_printable asciiUnit_utf8Size (printable_escapeChar c)]
    exact (escapeChar_length_le true c).2 (by simpa using narrow)
  · have kept : escapeChar false c = [c] := by
      have other : ∀ d : Char, d.toNat ≤ 0x7E → c ≠ d := by
        rintro d low rfl
        exact narrow low
      have high : ¬c.toNat < 0x20 := by omega
      simp [escapeChar, other, high]
    have bytes := Char.utf8Size_le_four c
    rw [kept, textCost_cons, textCost_nil]
    omega

/-- The bytes of the text of a document, from the characters of its strings. -/
theorem bytes_dumps_le (document : Json) :
    textCost Char.utf8Size (dumps false document) ≤ bound (fun s => 6 * s.length) document := by
  have strings : Sized Char.utf8Size false fun s => 6 * s.length := by
    intro s
    have escaped := textCost_escape_le escapeChar_bytes_le s.toList
    rwa [String.length_toList] at escaped
  exact textCost_dumps_le asciiUnit_utf8Size strings document

/-! ## Bounds of parts -/

/-- The digits of a number below a power of ten. -/
theorem length_integerText_le {n : Int} {width : Nat} (positive : 0 < width) (sign : 0 ≤ n)
    (small : n.natAbs < 10 ^ width) : (integerText n).length ≤ width := by
  obtain ⟨value, rfl⟩ := Int.eq_ofNat_of_zero_le sign
  exact (Nat.length_toDigits_le_iff (by decide) positive).mpr small

/-- Items that are each bounded. -/
theorem boundItems_le {most : Nat} {items : List Json}
    (each : ∀ item ∈ items, bound size item ≤ most) :
    boundItems size items ≤ items.length * (most + 1) := by
  induction items with
  | nil => exact Nat.zero_le _
  | cons item items ih =>
    have first := each item List.mem_cons_self
    have rest := ih fun other member => each other (List.mem_cons_of_mem _ member)
    simp only [boundItems, List.length_cons, Nat.succ_mul]
    omega

/-- Members whose keys are each bounded. -/
theorem boundMembers_le {most : Nat} {fields : List (String × Json)}
    (keys : ((fields.map Prod.fst).all fun key => decide (size key ≤ most)) = true) :
    boundMembers size fields ≤ (fields.map fun field => bound size field.2 + (most + 4)).sum := by
  induction fields with
  | nil => exact Nat.zero_le _
  | cons field fields ih =>
    simp only [List.map_cons, List.all_cons, Bool.and_eq_true, decide_eq_true_eq] at keys
    have rest := ih keys.2
    have first := keys.1
    simp only [boundMembers, List.map_cons, List.sum_cons]
    omega

mutual

/-- Every integer of a document has an absolute value below a limit. -/
def IntegersBelow (limit : Nat) : Json → Prop
  | .int n => n.natAbs < limit
  | .arr items => ItemsBelow limit items
  | .obj fields => MembersBelow limit fields
  | _ => True
termination_by structural document => document

/-- `IntegersBelow` for the items of an array. -/
def ItemsBelow (limit : Nat) : List Json → Prop
  | [] => True
  | v :: vs => IntegersBelow limit v ∧ ItemsBelow limit vs
termination_by structural items => items

/-- `IntegersBelow` for the members of an object. -/
def MembersBelow (limit : Nat) : List (String × Json) → Prop
  | [] => True
  | (_, v) :: rest => IntegersBelow limit v ∧ MembersBelow limit rest
termination_by structural fields => fields

end

/-- The integers of an array are those of its items. -/
theorem itemsBelow_iff {limit : Nat} {items : List Json} :
    ItemsBelow limit items ↔ ∀ item ∈ items, IntegersBelow limit item := by
  induction items with
  | nil => simp [ItemsBelow]
  | cons item items ih => simp [ItemsBelow, ih]

mutual

/-- Whether the integers of a document are below a limit can be decided. -/
instance decidableIntegersBelow (limit : Nat) :
    ∀ document, Decidable (IntegersBelow limit document)
  | .null => isTrue (by simp [IntegersBelow])
  | .bool _ => isTrue (by simp [IntegersBelow])
  | .int n => decidable_of_iff (n.natAbs < limit) (by rw [IntegersBelow])
  | .float _ => isTrue (by simp [IntegersBelow])
  | .str _ => isTrue (by simp [IntegersBelow])
  | .arr items =>
    have := decidableItemsBelow limit items
    decidable_of_iff (ItemsBelow limit items) (by rw [IntegersBelow])
  | .obj fields =>
    have := decidableMembersBelow limit fields
    decidable_of_iff (MembersBelow limit fields) (by rw [IntegersBelow])

/-- So it can for the items of an array. -/
instance decidableItemsBelow (limit : Nat) : ∀ items, Decidable (ItemsBelow limit items)
  | [] => isTrue (by simp [ItemsBelow])
  | item :: items =>
    have := decidableIntegersBelow limit item
    have := decidableItemsBelow limit items
    decidable_of_iff (IntegersBelow limit item ∧ ItemsBelow limit items) (by rw [ItemsBelow])

/-- So it can for the members of an object. -/
instance decidableMembersBelow (limit : Nat) : ∀ fields, Decidable (MembersBelow limit fields)
  | [] => isTrue (by simp [MembersBelow])
  | (_, value) :: fields =>
    have := decidableIntegersBelow limit value
    have := decidableMembersBelow limit fields
    decidable_of_iff (IntegersBelow limit value ∧ MembersBelow limit fields) (by
      rw [MembersBelow])

end

end Json

end DTLab.Library
