import DTLab.Library.JsonLoads
import DTLab.Library.Lines

/-!
# Reading JSON in text mode

Text mode changes the line endings of a text, and in a document these stand between tokens alone.
So what is read in text mode is read of the text as it is (`loads_of_universalNewlines`).
-/

namespace DTLab.Library

/-! ## Texts in text mode -/

/-- A character other than a newline in text mode is one of the text. -/
theorem eq_cons_of_universalNewlines {raw clean : Text} {c : Char}
    (same : universalNewlines raw = c :: clean) (other : c ≠ '\n') :
    ∃ left, raw = c :: left ∧ universalNewlines left = clean := by
  induction raw using universalNewlines.induct with
  | case1 => cases same
  | case2 rest ih =>
    rw [universalNewlines_crlf] at same
    exact absurd (List.cons.inj same).1.symm other
  | case3 rest single ih =>
    rw [universalNewlines_cr single] at same
    exact absurd (List.cons.inj same).1.symm other
  | case4 d rest crlf plain ih =>
    rw [universalNewlines_cons plain] at same
    obtain ⟨rfl, rfl⟩ := List.cons.inj same
    exact ⟨rest, rfl, rfl⟩

/-- White space is skipped alike in text mode. -/
theorem skipSpace_universalNewlines (raw : Text) :
    skipSpace (universalNewlines raw) = universalNewlines (skipSpace raw) := by
  induction raw using universalNewlines.induct with
  | case1 => rfl
  | case2 rest ih =>
    rw [universalNewlines_crlf]
    exact ih
  | case3 rest single ih =>
    rw [universalNewlines_cr single]
    exact ih
  | case4 c rest crlf plain ih =>
    rw [universalNewlines_cons plain]
    by_cases space : isSpace c = true
    · rw [skipSpace, skipSpace, List.dropWhile_cons_of_pos space, List.dropWhile_cons_of_pos space]
      exact ih
    · rw [skipSpace, skipSpace, List.dropWhile_cons_of_neg space,
        List.dropWhile_cons_of_neg space, universalNewlines_cons plain]

/-- A number is cut off alike in text mode. -/
theorem number_universalNewlines (raw : Text) :
    (universalNewlines raw).takeWhile isNumberChar = raw.takeWhile isNumberChar ∧
      (universalNewlines raw).dropWhile isNumberChar =
        universalNewlines (raw.dropWhile isNumberChar) := by
  induction raw using universalNewlines.induct with
  | case1 => exact ⟨rfl, rfl⟩
  | case2 rest ih => exact ⟨rfl, rfl⟩
  | case3 rest single ih =>
    have clean : universalNewlines ('\r' :: rest) = '\n' :: universalNewlines rest :=
      universalNewlines_cr single
    rw [clean]
    exact ⟨rfl, clean.symm⟩
  | case4 c rest crlf plain ih =>
    rw [universalNewlines_cons plain]
    by_cases number : isNumberChar c = true
    · rw [List.takeWhile_cons_of_pos number, List.takeWhile_cons_of_pos number,
        List.dropWhile_cons_of_pos number, List.dropWhile_cons_of_pos number, ih.1, ih.2]
      exact ⟨rfl, rfl⟩
    · rw [List.takeWhile_cons_of_neg number, List.takeWhile_cons_of_neg number,
        List.dropWhile_cons_of_neg number, List.dropWhile_cons_of_neg number,
        universalNewlines_cons plain]
      exact ⟨rfl, rfl⟩

/-- A word that begins a text in text mode begins the text. -/
theorem eq_append_of_universalNewlines (word : Text) {raw clean : Text} (plain : '\n' ∉ word)
    (same : universalNewlines raw = word ++ clean) :
    ∃ left, raw = word ++ left ∧ universalNewlines left = clean := by
  induction word generalizing raw with
  | nil => exact ⟨raw, rfl, same⟩
  | cons c word ih =>
    have other : c ≠ '\n' := fun equal => plain (equal ▸ List.mem_cons_self)
    obtain ⟨rest, rfl, behind⟩ := eq_cons_of_universalNewlines same other
    obtain ⟨left, rfl, ends⟩ := ih (fun member => plain (List.mem_cons_of_mem c member)) behind
    exact ⟨left, rfl, ends⟩

/-! ## Readers in text mode -/

/-- What a reader makes of a text in text mode it makes of the text. -/
def ReadsThrough {α : Type} (reader : Text → Option (α × Text)) : Prop :=
  ∀ raw value rest, reader (universalNewlines raw) = some (value, rest) →
    ∃ left, reader raw = some (value, left) ∧ universalNewlines left = rest

/-- A hexadecimal digit is no newline. -/
theorem hexValue_newline {c : Char} {v : Nat} (value : hexValue c = some v) : c ≠ '\n' := by
  rintro rfl
  exact absurd value (by decide +revert)

/-- Four hexadecimal digits. -/
theorem readsThrough_readHex4 : ReadsThrough readHex4 := by
  intro raw value rest read
  generalize same : universalNewlines raw = clean at read
  unfold readHex4 at read
  split at read
  · rename_i a b c d tail
    split at read
    · rename_i va vb vc vd ha hb hc hd
      obtain ⟨rfl, rfl⟩ := Prod.mk.inj (Option.some.inj read)
      have plain : '\n' ∉ [a, b, c, d] := by
        simp only [List.mem_cons, List.not_mem_nil, or_false, not_or]
        exact ⟨(hexValue_newline ha).symm, (hexValue_newline hb).symm, (hexValue_newline hc).symm,
          (hexValue_newline hd).symm⟩
      obtain ⟨left, rfl, ends⟩ := eq_append_of_universalNewlines [a, b, c, d] plain same
      refine ⟨left, ?_, ends⟩
      show readHex4 (a :: b :: c :: d :: left) = _
      simp only [readHex4, ha, hb, hc, hd]
    · contradiction
  · contradiction

/-- The units of a character. -/
theorem readsThrough_readUnicode : ReadsThrough readUnicode := by
  intro raw value rest read
  unfold readUnicode at read
  split at read
  · contradiction
  · rename_i unit tail first
    obtain ⟨middle, first', clean⟩ := readsThrough_readHex4 raw unit tail first
    split_ifs at read with high low
    · split at read
      · rename_i tail'
        split at read
        · contradiction
        · rename_i unit' last second
          have plain : '\n' ∉ ['\\', 'u'] := by decide
          obtain ⟨after, rfl, clean'⟩ :=
            eq_append_of_universalNewlines ['\\', 'u'] plain clean
          rw [← clean'] at second
          obtain ⟨left, second', ends⟩ := readsThrough_readHex4 after unit' last second
          split_ifs at read with paired
          obtain ⟨rfl, rfl⟩ := Prod.mk.inj (Option.some.inj read)
          refine ⟨left, ?_, ends⟩
          simp only [readUnicode, first', high, and_self, ↓reduceIte, List.cons_append,
            List.nil_append, second', paired]
      · contradiction
    · obtain ⟨rfl, rfl⟩ := Prod.mk.inj (Option.some.inj read)
      refine ⟨middle, ?_, clean⟩
      simp only [readUnicode, first', high, low, ↓reduceIte]

/-- One step inside of a string literal. -/
theorem readsThrough_readChar : ReadsThrough readChar := by
  intro raw value rest read
  generalize same : universalNewlines raw = text at read
  cases text with
  | nil => simp [readChar] at read
  | cons c text =>
    have plain : c ≠ '\n' := by
      rintro rfl
      exact absurd read (by simp [readChar])
    obtain ⟨tail, rfl, clean⟩ := eq_cons_of_universalNewlines same plain
    simp only [readChar] at read ⊢
    split_ifs at read ⊢ with quote slash control
    · obtain ⟨rfl, rfl⟩ := Prod.mk.inj (Option.some.inj read)
      exact ⟨tail, rfl, clean⟩
    · cases text with
      | nil => simp at read
      | cons e text =>
        have escape : e ≠ '\n' := by
          rintro rfl
          exact absurd read (by simp [simpleEscape])
        obtain ⟨after, rfl, clean'⟩ := eq_cons_of_universalNewlines clean escape
        simp only at read ⊢
        split_ifs at read ⊢ with unicode
        · obtain ⟨⟨d, last⟩, found, pair⟩ := Option.map_eq_some_iff.mp read
          obtain ⟨rfl, rfl⟩ := Prod.mk.inj pair
          rw [← clean'] at found
          obtain ⟨left, read', ends⟩ := readsThrough_readUnicode after d last found
          exact ⟨left, by rw [read']; rfl, ends⟩
        · obtain ⟨d, found, pair⟩ := Option.map_eq_some_iff.mp read
          obtain ⟨rfl, rfl⟩ := Prod.mk.inj pair
          exact ⟨after, by rw [found]; rfl, clean'⟩
    · obtain ⟨rfl, rfl⟩ := Prod.mk.inj (Option.some.inj read)
      exact ⟨tail, rfl, clean⟩

/-- A string literal, with any fuel that is enough. -/
theorem readString_of_universalNewlines {fuel more : Nat} (enough : fuel ≤ more) {raw s rest : Text}
    (read : readString fuel (universalNewlines raw) = some (s, rest)) :
    ∃ left, readString more raw = some (s, left) ∧ universalNewlines left = rest := by
  induction fuel generalizing more raw s rest with
  | zero => simp [readString] at read
  | succ fuel ih =>
    obtain ⟨more, rfl⟩ : ∃ k, more = k + 1 := ⟨more - 1, by omega⟩
    simp only [readString] at read ⊢
    split at read
    · contradiction
    · rename_i tail step
      obtain ⟨rfl, rfl⟩ := Prod.mk.inj (Option.some.inj read)
      obtain ⟨left, step', ends⟩ := readsThrough_readChar raw none tail step
      exact ⟨left, by rw [step'], ends⟩
    · rename_i c tail step
      obtain ⟨⟨later, last⟩, found, pair⟩ := Option.map_eq_some_iff.mp read
      obtain ⟨rfl, rfl⟩ := Prod.mk.inj pair
      obtain ⟨middle, step', clean⟩ := readsThrough_readChar raw (some c) tail step
      rw [← clean] at found
      obtain ⟨left, found', ends⟩ := ih (Nat.le_of_succ_le_succ enough) found
      refine ⟨left, ?_, ends⟩
      rw [step']
      show (readString more middle).map _ = _
      rw [found']
      rfl

/-- Text mode makes no text longer. -/
theorem length_universalNewlines (raw : Text) : (universalNewlines raw).length ≤ raw.length := by
  induction raw using universalNewlines.induct with
  | case1 => exact Nat.le_refl _
  | case2 rest ih =>
    rw [universalNewlines_crlf, List.length_cons, List.length_cons, List.length_cons]
    omega
  | case3 rest single ih =>
    rw [universalNewlines_cr single, List.length_cons, List.length_cons]
    omega
  | case4 c rest crlf plain ih =>
    rw [universalNewlines_cons plain, List.length_cons, List.length_cons]
    omega

/-- A value without parts. -/
theorem readsThrough_readScalar (rounding : FloatLiteral → FloatLiteral) :
    ReadsThrough (readScalar rounding) := by
  intro raw value rest read
  obtain ⟨token, remaining⟩ := number_universalNewlines raw
  have whole := read
  simp only [readScalar, token, remaining] at read
  split_ifs at read with integer float
  · obtain ⟨rfl, rfl⟩ := Prod.mk.inj (Option.some.inj read)
    exact ⟨_, by simp only [readScalar, integer, ↓reduceIte], rfl⟩
  · obtain ⟨rfl, rfl⟩ := Prod.mk.inj (Option.some.inj read)
    exact ⟨_, by simp [readScalar, integer, float], rfl⟩
  · have found : ∃ word, readKeyword (universalNewlines raw) = some (word, rest) := by
      split at read
      · rename_i shown
        obtain ⟨_, rfl⟩ := Prod.mk.inj (Option.some.inj read)
        exact ⟨_, shown⟩
      · exact ⟨_, read⟩
    obtain ⟨word, found⟩ := found
    obtain ⟨entry, member, ⟨tail, same⟩, behind⟩ := readKeyword_prefix found
    have plain : ∀ entry ∈ keywords, '\n' ∉ entry.1 := by decide
    obtain ⟨left, rfl, ends⟩ := eq_append_of_universalNewlines _ (plain entry member) same.symm
    obtain ⟨document, reads⟩ := readScalar_keyword rounding entry member
    rw [← same, reads] at whole
    obtain ⟨rfl, rfl⟩ := Prod.mk.inj (Option.some.inj whole)
    exact ⟨left, reads left, ends⟩

/-- A string literal is written without a carriage return. -/
theorem return_not_mem_quote (ascii : Bool) (s : String) : '\r' ∉ quote ascii s := by
  have digits : ∀ n, '\r' ∉ unicodeEscape n := by
    intro n member
    have printable : Printable (unicodeEscape n) := by
      simp only [unicodeEscape, printable_cons, printable_hex4, and_true]
      decide
    exact absurd (printable '\r' member) (by decide)
  have character : ∀ c, '\r' ∉ escapeChar ascii c := by
    intro c
    unfold escapeChar
    split_ifs with _ _ _ carriage
    any_goals decide
    · exact digits _
    · unfold codePointEscape
      split_ifs
      · exact digits _
      · rw [List.mem_append, not_or]
        exact ⟨digits _, digits _⟩
    · rw [List.mem_singleton]
      exact fun same => carriage same.symm
  have body : '\r' ∉ escape ascii s.toList := by
    intro member
    obtain ⟨c, _, inside⟩ := List.mem_flatMap.mp member
    exact character c inside
  simp [quote, body]

namespace Json

/-! ## Documents in text mode -/

/-- What a reader with some fuel makes of a text in text mode it makes of the text, with any fuel
that is enough. -/
def FuelThrough {α : Type} (reader : Nat → Text → Option (α × Text)) (fuel : Nat) : Prop :=
  ∀ more, fuel ≤ more → ∀ raw value rest, reader fuel (universalNewlines raw) = some (value, rest) →
    ∃ left, reader more raw = some (value, left) ∧ universalNewlines left = rest

variable {rounding : FloatLiteral → FloatLiteral} {fuel : Nat}

/-- Behind white space. -/
theorem FuelThrough.spaced {α : Type} {reader : Nat → Text → Option (α × Text)}
    (through : FuelThrough reader fuel) {more : Nat} (enough : fuel ≤ more) {raw clean rest : Text}
    {value : α} (behind : universalNewlines raw = clean)
    (read : reader fuel (skipSpace clean) = some (value, rest)) :
    ∃ left, reader more (skipSpace raw) = some (value, left) ∧ universalNewlines left = rest := by
  rw [← behind, skipSpace_universalNewlines] at read
  exact through more enough (skipSpace raw) value rest read

/-- Nothing is read from the empty text. -/
theorem readValue_nil (fuel : Nat) : readValue rounding fuel [] = none := by
  cases fuel <;> rfl

/-- A member that is read begins with a quote. -/
theorem readMember_quote {text rest : Text} {field : String × Json}
    (read : readMember rounding fuel text = some (field, rest)) : ∃ tail, text = '"' :: tail := by
  cases fuel with
  | zero => simp [readMember] at read
  | succ fuel =>
    unfold readMember at read
    split at read
    · exact ⟨_, rfl⟩
    · contradiction

/-- A value. -/
theorem fuelThrough_readValue (array : FuelThrough (readArray rounding) fuel)
    (object : FuelThrough (readObject rounding) fuel) :
    FuelThrough (readValue rounding) (fuel + 1) := by
  intro more enough raw value rest read
  obtain ⟨more, rfl⟩ : ∃ k, more = k + 1 := ⟨more - 1, by omega⟩
  have less : fuel ≤ more := Nat.le_of_succ_le_succ enough
  generalize same : universalNewlines raw = text at read
  unfold readValue at read
  split at read
  · obtain ⟨tail, rfl, clean⟩ := eq_cons_of_universalNewlines same (by decide)
    obtain ⟨⟨s, last⟩, string, pair⟩ := Option.map_eq_some_iff.mp read
    obtain ⟨rfl, rfl⟩ := Prod.mk.inj pair
    have longer : (universalNewlines tail).length + 1 ≤ tail.length + 1 :=
      Nat.succ_le_succ (length_universalNewlines tail)
    rw [← clean] at string
    obtain ⟨left, string', ends⟩ := readString_of_universalNewlines longer string
    exact ⟨left, by simp only [readValue, string', Option.map_some], ends⟩
  · obtain ⟨tail, rfl, clean⟩ := eq_cons_of_universalNewlines same (by decide)
    obtain ⟨left, read', ends⟩ := array.spaced less clean read
    exact ⟨left, by simp only [readValue, read'], ends⟩
  · obtain ⟨tail, rfl, clean⟩ := eq_cons_of_universalNewlines same (by decide)
    obtain ⟨left, read', ends⟩ := object.spaced less clean read
    exact ⟨left, by simp only [readValue, read'], ends⟩
  · rename_i string array object
    rw [← same] at read
    obtain ⟨left, read', ends⟩ := readsThrough_readScalar rounding raw value rest read
    refine ⟨left, ?_, ends⟩
    cases raw with
    | nil => exact read'
    | cons c raw =>
      rw [readValue_scalar rounding more raw]
      · exact read'
      · rintro rfl
        exact string _ (same.symm.trans (universalNewlines_cons (by decide) raw))
      · rintro rfl
        exact array _ (same.symm.trans (universalNewlines_cons (by decide) raw))
      · rintro rfl
        exact object _ (same.symm.trans (universalNewlines_cons (by decide) raw))

/-- An array. -/
theorem fuelThrough_readArray (first : FuelThrough (readValue rounding) fuel)
    (items : FuelThrough (readItems rounding) fuel) :
    FuelThrough (readArray rounding) (fuel + 1) := by
  intro more enough raw value rest read
  obtain ⟨more, rfl⟩ : ∃ k, more = k + 1 := ⟨more - 1, by omega⟩
  have less : fuel ≤ more := Nat.le_of_succ_le_succ enough
  generalize same : universalNewlines raw = text at read
  unfold readArray at read
  split at read
  · obtain ⟨tail, rfl, clean⟩ := eq_cons_of_universalNewlines same (by decide)
    obtain ⟨rfl, rfl⟩ := Prod.mk.inj (Option.some.inj read)
    exact ⟨tail, rfl, clean⟩
  · rename_i closed
    split at read
    · contradiction
    · rename_i v middle found
      obtain ⟨⟨vs, last⟩, others, pair⟩ := Option.map_eq_some_iff.mp read
      obtain ⟨rfl, rfl⟩ := Prod.mk.inj pair
      rw [← same] at found
      obtain ⟨after, found', clean⟩ := first more less raw v middle found
      obtain ⟨left, others', ends⟩ := items.spaced less clean others
      refine ⟨left, ?_, ends⟩
      cases raw with
      | nil =>
        rw [readValue_nil] at found'
        cases found'
      | cons c raw =>
        rw [readArray_value rounding more raw, found']
        · simp only [others', Option.map_some]
        · rintro rfl
          exact closed _ (same.symm.trans (universalNewlines_cons (by decide) raw))

/-- The items behind one. -/
theorem fuelThrough_readItems (first : FuelThrough (readValue rounding) fuel)
    (items : FuelThrough (readItems rounding) fuel) :
    FuelThrough (readItems rounding) (fuel + 1) := by
  intro more enough raw value rest read
  obtain ⟨more, rfl⟩ : ∃ k, more = k + 1 := ⟨more - 1, by omega⟩
  have less : fuel ≤ more := Nat.le_of_succ_le_succ enough
  generalize same : universalNewlines raw = text at read
  unfold readItems at read
  split at read
  · obtain ⟨tail, rfl, clean⟩ := eq_cons_of_universalNewlines same (by decide)
    obtain ⟨rfl, rfl⟩ := Prod.mk.inj (Option.some.inj read)
    exact ⟨tail, rfl, clean⟩
  · obtain ⟨tail, rfl, clean⟩ := eq_cons_of_universalNewlines same (by decide)
    split at read
    · contradiction
    · rename_i v middle found
      obtain ⟨⟨vs, last⟩, others, pair⟩ := Option.map_eq_some_iff.mp read
      obtain ⟨rfl, rfl⟩ := Prod.mk.inj pair
      obtain ⟨after, found', behind⟩ := first.spaced less clean found
      obtain ⟨left, others', ends⟩ := items.spaced less behind others
      exact ⟨left, by simp only [readItems, found', others', Option.map_some], ends⟩
  · contradiction

/-- A member. -/
theorem fuelThrough_readMember (first : FuelThrough (readValue rounding) fuel) :
    FuelThrough (readMember rounding) (fuel + 1) := by
  intro more enough raw value rest read
  obtain ⟨more, rfl⟩ : ∃ k, more = k + 1 := ⟨more - 1, by omega⟩
  have less : fuel ≤ more := Nat.le_of_succ_le_succ enough
  generalize same : universalNewlines raw = text at read
  unfold readMember at read
  split at read
  · obtain ⟨tail, rfl, clean⟩ := eq_cons_of_universalNewlines same (by decide)
    split at read
    · contradiction
    · rename_i key middle string
      have longer : (universalNewlines tail).length + 1 ≤ tail.length + 1 :=
        Nat.succ_le_succ (length_universalNewlines tail)
      rw [← clean] at string
      obtain ⟨after, string', behind⟩ := readString_of_universalNewlines longer string
      split at read
      · rename_i last colon
        obtain ⟨⟨v, rest⟩, found, pair⟩ := Option.map_eq_some_iff.mp read
        obtain ⟨rfl, rfl⟩ := Prod.mk.inj pair
        rw [← behind, skipSpace_universalNewlines] at colon
        obtain ⟨inner, spaced, clean'⟩ := eq_cons_of_universalNewlines colon (by decide)
        obtain ⟨left, found', ends⟩ := first.spaced less clean' found
        exact ⟨left, by simp only [readMember, string', spaced, found', Option.map_some], ends⟩
      · contradiction
  · contradiction

/-- An object. -/
theorem fuelThrough_readObject (first : FuelThrough (readMember rounding) fuel)
    (members : FuelThrough (readMembers rounding) fuel) :
    FuelThrough (readObject rounding) (fuel + 1) := by
  intro more enough raw value rest read
  obtain ⟨more, rfl⟩ : ∃ k, more = k + 1 := ⟨more - 1, by omega⟩
  have less : fuel ≤ more := Nat.le_of_succ_le_succ enough
  generalize same : universalNewlines raw = text at read
  unfold readObject at read
  split at read
  · obtain ⟨tail, rfl, clean⟩ := eq_cons_of_universalNewlines same (by decide)
    obtain ⟨rfl, rfl⟩ := Prod.mk.inj (Option.some.inj read)
    exact ⟨tail, rfl, clean⟩
  · split at read
    · contradiction
    · rename_i k v middle found
      obtain ⟨⟨later, last⟩, others, pair⟩ := Option.map_eq_some_iff.mp read
      obtain ⟨rfl, rfl⟩ := Prod.mk.inj pair
      rw [← same] at found
      obtain ⟨after, found', clean⟩ := first more less raw (k, v) middle found
      obtain ⟨left, others', ends⟩ := members.spaced less clean others
      obtain ⟨tail, rfl⟩ := readMember_quote found'
      refine ⟨left, ?_, ends⟩
      rw [readObject_member, found']
      simp only [others', Option.map_some]

/-- The members behind one. -/
theorem fuelThrough_readMembers (first : FuelThrough (readMember rounding) fuel)
    (members : FuelThrough (readMembers rounding) fuel) :
    FuelThrough (readMembers rounding) (fuel + 1) := by
  intro more enough raw value rest read
  obtain ⟨more, rfl⟩ : ∃ k, more = k + 1 := ⟨more - 1, by omega⟩
  have less : fuel ≤ more := Nat.le_of_succ_le_succ enough
  generalize same : universalNewlines raw = text at read
  unfold readMembers at read
  split at read
  · obtain ⟨tail, rfl, clean⟩ := eq_cons_of_universalNewlines same (by decide)
    obtain ⟨rfl, rfl⟩ := Prod.mk.inj (Option.some.inj read)
    exact ⟨tail, rfl, clean⟩
  · obtain ⟨tail, rfl, clean⟩ := eq_cons_of_universalNewlines same (by decide)
    split at read
    · contradiction
    · rename_i k v middle found
      obtain ⟨⟨later, last⟩, others, pair⟩ := Option.map_eq_some_iff.mp read
      obtain ⟨rfl, rfl⟩ := Prod.mk.inj pair
      obtain ⟨after, found', behind⟩ := first.spaced less clean found
      obtain ⟨left, others', ends⟩ := members.spaced less behind others
      exact ⟨left, by simp only [readMembers, found', others', Option.map_some], ends⟩
  · contradiction

/-- Every reader of parts of a document reads in text mode what it reads of the text. -/
theorem fuelThrough_all (rounding : FloatLiteral → FloatLiteral) (fuel : Nat) :
    FuelThrough (readValue rounding) fuel ∧ FuelThrough (readArray rounding) fuel ∧
      FuelThrough (readItems rounding) fuel ∧ FuelThrough (readMember rounding) fuel ∧
        FuelThrough (readObject rounding) fuel ∧ FuelThrough (readMembers rounding) fuel := by
  induction fuel with
  | zero =>
    refine ⟨?_, ?_, ?_, ?_, ?_, ?_⟩ <;>
    · intro more _ raw value rest read
      simp [readValue, readArray, readItems, readMember, readObject, readMembers] at read
  | succ fuel ih =>
    obtain ⟨value, array, items, member, object, members⟩ := ih
    exact ⟨fuelThrough_readValue array object, fuelThrough_readArray value items,
      fuelThrough_readItems value items, fuelThrough_readMember value,
      fuelThrough_readObject member members, fuelThrough_readMembers member members⟩

/-- The document that is read of a text in text mode is that of the text. -/
theorem loads_of_universalNewlines {raw : Text} {document : Json}
    (read : loads rounding (universalNewlines raw) = some document) :
    loads rounding raw = some document := by
  rw [loads] at read
  split at read
  · cases read
  · rename_i value rest found
    have enough : 3 * (universalNewlines raw).length + 3 ≤ 3 * raw.length + 3 := by
      have shorter := length_universalNewlines raw
      omega
    obtain ⟨left, found', ends⟩ :=
      (fuelThrough_all rounding _).1.spaced enough rfl found
    split_ifs at read with blank
    rw [← ends, skipSpace_universalNewlines] at blank
    have nothing : skipSpace left = [] := by
      cases tail : skipSpace left with
      | nil => rfl
      | cons c tail' =>
        rw [tail] at blank
        unfold universalNewlines at blank
        split at blank <;> contradiction
    rw [loads, found']
    exact (if_pos nothing).trans read

/-! ## Texts that are written -/

mutual

/-- A document is written without a carriage return. -/
theorem return_not_mem_dumps (ascii : Bool) : ∀ document : Json, '\r' ∉ dumps ascii document
  | .null => by
    rw [dumps]
    decide
  | .bool true => by
    rw [dumps]
    decide
  | .bool false => by
    rw [dumps]
    decide
  | .int n => fun member => absurd (integerText_number n '\r' member) (by decide)
  | .float literal => fun member => absurd (printable_float literal '\r' member) (by decide)
  | .str s => return_not_mem_quote ascii s
  | .arr [] => by
    rw [dumps]
    decide
  | .arr (v :: vs) => by
    simp [dumps, return_not_mem_dumps ascii v, return_not_mem_dumpsItems ascii vs]
  | .obj [] => by
    rw [dumps]
    decide
  | .obj ((k, v) :: fields) => by
    simp [dumps, return_not_mem_quote ascii k, return_not_mem_dumps ascii v,
      return_not_mem_dumpsMembers ascii fields]

/-- So are the items behind one. -/
theorem return_not_mem_dumpsItems (ascii : Bool) : ∀ items : List Json,
    '\r' ∉ dumpsItems ascii items
  | [] => by
    rw [dumpsItems]
    decide
  | v :: vs => by
    simp [dumpsItems, return_not_mem_dumps ascii v, return_not_mem_dumpsItems ascii vs]

/-- And the members behind one. -/
theorem return_not_mem_dumpsMembers (ascii : Bool) : ∀ fields : List (String × Json),
    '\r' ∉ dumpsMembers ascii fields
  | [] => by
    rw [dumpsMembers]
    decide
  | (k, v) :: fields => by
    simp [dumpsMembers, return_not_mem_quote ascii k, return_not_mem_dumps ascii v,
      return_not_mem_dumpsMembers ascii fields]

end

end Json

end DTLab.Library
