import DTLab.Library.JsonLoads

/-!
# Open brackets of JSON texts

A scan of a text counts the brackets that are open outside of string literals. Whatever the
reader accepts leaves as many open as before and never closes one it has not opened, so a text
with an open bracket at its end is refused. A torn object leaves a bracket open, and so does
any object text that follows it: outside of a string it closes only what it opens itself, and
inside of one its first quote ends the string where no reader goes on.
-/

namespace DTLab.Library

/-- Where a scan is, with the number of open brackets. -/
inductive Scan where
  | outside (depth : Nat)
  | inString (depth : Nat)
  /-- Behind a backslash in a string. -/
  | escaped (depth : Nat)
  /-- Behind a closing quote. -/
  | afterString (depth : Nat)
  /-- Behind something that no reader accepts. -/
  | bad
  deriving DecidableEq

namespace Scan

/-- Close one bracket. -/
def close : Nat → Scan
  | 0 => bad
  | depth + 1 => outside depth

/-- The scan behind one more character. -/
def step : Scan → Char → Scan
  | outside depth, c =>
    if c = '"' then inString depth
    else if c = '{' ∨ c = '[' then outside (depth + 1)
    else if c = '}' ∨ c = ']' then close depth
    else outside depth
  | inString depth, c =>
    if c = '"' then afterString depth
    else if c = '\\' then escaped depth
    else inString depth
  | escaped depth, _ => inString depth
  | afterString depth, c =>
    if isSpace c then afterString depth
    else if c = ',' ∨ c = ':' then outside depth
    else if c = '}' ∨ c = ']' then close depth
    else bad
  | bad, _ => bad

/-- The scan behind a text. -/
def run (scan : Scan) (text : Text) : Scan := text.foldl step scan

/-- At least a number of brackets is open, where the scan is not bad. -/
def AtLeast (low : Nat) : Scan → Prop
  | outside depth => low ≤ depth
  | inString depth => low ≤ depth
  | escaped depth => low ≤ depth
  | afterString depth => low ≤ depth
  | bad => True

/-- The scan is behind a whole value. -/
def Settled (depth : Nat) (scan : Scan) : Prop := scan = outside depth ∨ scan = afterString depth

/-- Never fewer brackets are open along a text. -/
def Stays (low : Nat) (scan : Scan) (text : Text) : Prop :=
  ∀ front, front <+: text → AtLeast low (scan.run front)

/-- The empty text leaves a scan as it is. -/
@[simp] theorem run_nil (scan : Scan) : scan.run [] = scan := rfl

/-- A text is scanned from its first character on. -/
@[simp] theorem run_cons (scan : Scan) (c : Char) (text : Text) :
    scan.run (c :: text) = (scan.step c).run text := rfl

/-- Two texts are scanned one behind the other. -/
theorem run_append (scan : Scan) (first second : Text) :
    scan.run (first ++ second) = (scan.run first).run second := by
  simp [run]

/-- Behind a value as many brackets are open as its depth says. -/
theorem Settled.atLeast {depth : Nat} {scan : Scan} (settled : Settled depth scan) :
    AtLeast depth scan := by
  rcases settled with rfl | rfl
  · exact Nat.le_refl depth
  · exact Nat.le_refl depth

/-- Where that many are open, fewer are. -/
theorem AtLeast.weaken {low high : Nat} {scan : Scan} (least : AtLeast high scan)
    (lower : low ≤ high) : AtLeast low scan := by
  cases scan with
  | bad => trivial
  | _ depth => exact lower.trans least

/-- Nothing is open less along the empty text. -/
theorem stays_nil {low : Nat} {scan : Scan} (least : AtLeast low scan) : Stays low scan [] := by
  intro front inside
  rw [List.prefix_nil.mp inside]
  exact least

/-- A text stays where its first character and the rest behind it do. -/
theorem Stays.cons {low : Nat} {scan : Scan} {c : Char} {text : Text} (least : AtLeast low scan)
    (rest : Stays low (scan.step c) text) : Stays low scan (c :: text) := by
  intro front inside
  cases front with
  | nil => exact least
  | cons d front =>
    obtain ⟨rfl, later⟩ := List.cons_prefix_cons.mp inside
    exact rest front later

/-- Two texts stay one behind the other. -/
theorem Stays.append {low : Nat} {scan : Scan} {first second : Text}
    (head : Stays low scan first) (tail : Stays low (scan.run first) second) :
    Stays low scan (first ++ second) := by
  induction first generalizing scan with
  | nil => exact tail
  | cons c first ih =>
    have least := head [] List.nil_prefix
    refine Stays.cons least (ih ?_ tail)
    intro front inside
    exact head (c :: front) (List.cons_prefix_cons.mpr ⟨rfl, inside⟩)

/-! ## What the readers consume -/

/-- Outside of strings a text leaves as many brackets open as before, and never fewer. -/
def Balanced (text : Text) : Prop :=
  ∀ depth, Settled depth ((outside depth).run text) ∧ Stays depth (outside depth) text

/-- Behind a value a text leaves as many brackets open as before, and never fewer. -/
def Continues (text : Text) : Prop :=
  ∀ depth scan, Settled depth scan → Settled depth (scan.run text) ∧ Stays depth scan text

/-- The empty text is balanced. -/
theorem balanced_nil : Balanced [] := fun depth =>
  ⟨Or.inl rfl, stays_nil (Nat.le_refl depth)⟩

/-- The empty text continues a value. -/
theorem continues_nil : Continues [] := fun _ _ settled => ⟨settled, stays_nil settled.atLeast⟩

/-- A balanced text is balanced with what continues it. -/
theorem Balanced.continue {first second : Text} (head : Balanced first)
    (tail : Continues second) : Balanced (first ++ second) := by
  intro depth
  obtain ⟨settled, stays⟩ := head depth
  obtain ⟨settled', stays'⟩ := tail depth _ settled
  rw [run_append]
  exact ⟨settled', stays.append stays'⟩

/-- Two continuations are one. -/
theorem Continues.append {first second : Text} (head : Continues first)
    (tail : Continues second) : Continues (first ++ second) := by
  intro depth scan settled
  obtain ⟨settled', stays⟩ := head depth scan settled
  obtain ⟨settled'', stays'⟩ := tail depth _ settled'
  rw [run_append]
  exact ⟨settled'', stays.append stays'⟩

/-- A value behind white space. -/
theorem Balanced.after_spaces {spaces text : Text} (blank : ∀ c ∈ spaces, isSpace c = true)
    (balanced : Balanced text) : Balanced (spaces ++ text) := by
  induction spaces with
  | nil => exact balanced
  | cons c spaces ih =>
    have rest := ih fun d member => blank d (List.mem_cons_of_mem c member)
    have space := blank c List.mem_cons_self
    simp only [isSpace, Bool.or_eq_true, beq_iff_eq] at space
    intro depth
    have step : (outside depth).step c = outside depth := by
      rcases space with ((rfl | rfl) | rfl) | rfl <;> rfl
    obtain ⟨settled, stays⟩ := rest depth
    rw [List.cons_append, run_cons, step]
    exact ⟨settled, Stays.cons (Nat.le_refl depth) (by rwa [step])⟩

/-- White space behind a value. -/
theorem continues_spaces {spaces : Text} (blank : ∀ c ∈ spaces, isSpace c = true) :
    Continues spaces := by
  induction spaces with
  | nil => exact continues_nil
  | cons c spaces ih =>
    have rest := ih fun d member => blank d (List.mem_cons_of_mem c member)
    have space := blank c List.mem_cons_self
    intro depth scan settled
    have same : scan.step c = scan := by
      rcases settled with rfl | rfl
      · simp only [isSpace, Bool.or_eq_true, beq_iff_eq] at space
        rcases space with ((rfl | rfl) | rfl) | rfl <;> rfl
      · simp only [step, space, ↓reduceIte]
    obtain ⟨settled', stays⟩ := rest depth scan settled
    rw [run_cons, same]
    exact ⟨settled', Stays.cons settled.atLeast (by rwa [same])⟩

/-- A separator and a value behind another one. -/
theorem Balanced.after_separator {c : Char} {text : Text} (separator : c = ',' ∨ c = ':')
    (balanced : Balanced text) : Continues (c :: text) := by
  intro depth scan settled
  have step : scan.step c = outside depth := by
    rcases settled with rfl | rfl <;> rcases separator with rfl | rfl <;> rfl
  obtain ⟨settled', stays⟩ := balanced depth
  rw [run_cons, step]
  exact ⟨settled', Stays.cons settled.atLeast (by rwa [step])⟩

/-- The inside of brackets is one deeper throughout. -/
theorem Balanced.inside {c d : Char} {text : Text} (opening : c = '{' ∨ c = '[')
    (closing : d = '}' ∨ d = ']') (balanced : Balanced text) (depth : Nat) :
    (outside depth).run (c :: (text ++ [d])) = outside depth ∧
      (outside depth).step c = outside (depth + 1) ∧
        Stays (depth + 1) (outside (depth + 1)) text := by
  have opened : (outside depth).step c = outside (depth + 1) := by
    rcases opening with rfl | rfl <;> rfl
  obtain ⟨settled, stays⟩ := balanced (depth + 1)
  refine ⟨?_, opened, stays⟩
  rw [run_cons, opened, run_append]
  rcases settled with same | same <;> rw [same] <;> rcases closing with rfl | rfl <;> rfl

/-- A text in brackets. -/
theorem Balanced.bracket {c d : Char} {text : Text} (opening : c = '{' ∨ c = '[')
    (closing : d = '}' ∨ d = ']') (balanced : Balanced text) : Balanced (c :: (text ++ [d])) := by
  intro depth
  obtain ⟨closed, opened, stays⟩ := balanced.inside opening closing depth
  refine ⟨Or.inl closed, Stays.cons (Nat.le_refl depth) ?_⟩
  rw [opened]
  have deeper : Stays depth (outside (depth + 1)) text := fun front inside =>
    (stays front inside).weaken (Nat.le_succ depth)
  refine deeper.append (Stays.cons ?_ (stays_nil ?_))
  · exact deeper text (List.prefix_refl text)
  · rw [run_cons, opened, run_append] at closed
    have last : ((outside (depth + 1)).run text).step d = outside depth := closed
    rw [last]
    exact Nat.le_refl depth

/-! ## String literals and scalars -/

/-- Inside of a string a text stays inside. -/
def Inner (text : Text) : Prop :=
  ∀ depth, (inString depth).run text = inString depth ∧ Stays depth (inString depth) text

/-- The empty text stays inside. -/
theorem inner_nil : Inner [] := fun depth => ⟨rfl, stays_nil (Nat.le_refl depth)⟩

/-- Two texts that stay inside do so together. -/
theorem Inner.append {first second : Text} (head : Inner first) (tail : Inner second) :
    Inner (first ++ second) := by
  intro depth
  obtain ⟨same, stays⟩ := head depth
  obtain ⟨same', stays'⟩ := tail depth
  rw [run_append, same, same']
  exact ⟨rfl, stays.append (by rwa [same])⟩

/-- A character that is no quote and no backslash. -/
theorem inner_char {c : Char} (quote : c ≠ '"') (slash : c ≠ '\\') : Inner [c] := by
  intro depth
  have same : (inString depth).step c = inString depth := by simp [step, quote, slash]
  rw [run_cons, same, run_nil]
  refine ⟨rfl, Stays.cons (Nat.le_refl depth) ?_⟩
  rw [same]
  exact stays_nil (Nat.le_refl depth)

/-- A backslash with the character behind it. -/
theorem inner_escape (c : Char) : Inner ['\\', c] := fun depth =>
  ⟨rfl, Stays.cons (Nat.le_refl depth)
    (Stays.cons (Nat.le_refl depth) (stays_nil (Nat.le_refl depth)))⟩

/-- Four hexadecimal digits. -/
theorem inner_readHex4 {text rest : Text} {n : Nat} (read : readHex4 text = some (n, rest)) :
    ∃ used, text = used ++ rest ∧ Inner used := by
  have digit {c : Char} {v : Nat} (value : hexValue c = some v) : Inner [c] := by
    apply inner_char
    · rintro rfl
      exact absurd value (by decide +revert)
    · rintro rfl
      exact absurd value (by decide +revert)
  unfold readHex4 at read
  split at read
  · rename_i a b c d tail
    split at read
    · rename_i va vb vc vd ha hb hc hd
      simp only [Option.some.injEq, Prod.mk.injEq] at read
      refine ⟨[a, b, c, d], by simp [read.2], ?_⟩
      exact (digit ha).append ((digit hb).append ((digit hc).append (digit hd)))
    · contradiction
  · contradiction

/-- The units of a character behind a backslash and its `u`. -/
theorem inner_readUnicode {text rest : Text} {c : Char}
    (read : readUnicode text = some (c, rest)) : ∃ used, text = used ++ rest ∧ Inner used := by
  unfold readUnicode at read
  split at read
  · contradiction
  · rename_i unit tail first
    obtain ⟨used, rfl, inner⟩ := inner_readHex4 first
    split_ifs at read
    · split at read
      · rename_i tail
        split at read
        · contradiction
        · rename_i low after second
          obtain ⟨used', rfl, inner'⟩ := inner_readHex4 second
          split_ifs at read
          simp only [Option.some.injEq, Prod.mk.injEq] at read
          refine ⟨used ++ (['\\', 'u'] ++ used'), by simp [read.2], ?_⟩
          exact inner.append ((inner_escape 'u').append inner')
      · contradiction
    · simp only [Option.some.injEq, Prod.mk.injEq] at read
      exact ⟨used, by rw [read.2], inner⟩

/-- One step inside of a string literal stays inside, or closes it. -/
theorem inner_readChar {text rest : Text} {c : Option Char}
    (read : readChar text = some (c, rest)) :
    (c = none ∧ text = '"' :: rest) ∨
      ∃ used, c.isSome = true ∧ text = used ++ rest ∧ Inner used := by
  cases text with
  | nil => simp [readChar] at read
  | cons d text =>
    simp only [readChar] at read
    split_ifs at read with quote slash control
    · simp only [Option.some.injEq, Prod.mk.injEq] at read
      exact Or.inl ⟨read.1.symm, by rw [quote, read.2]⟩
    · subst slash
      split at read
      · contradiction
      · rename_i e tail
        split_ifs at read with unicode
        · simp only [Option.map_eq_some_iff, Prod.mk.injEq] at read
          obtain ⟨⟨c', last⟩, units, rfl, rfl⟩ := read
          obtain ⟨used, rfl, inner⟩ := inner_readUnicode units
          exact Or.inr ⟨['\\', e] ++ used, rfl, rfl, (inner_escape e).append inner⟩
        · simp only [Option.map_eq_some_iff, Prod.mk.injEq] at read
          obtain ⟨c', -, rfl, rfl⟩ := read
          exact Or.inr ⟨['\\', e], rfl, rfl, inner_escape e⟩
    · simp only [Option.some.injEq, Prod.mk.injEq] at read
      exact Or.inr ⟨[d], by rw [← read.1]; rfl, by rw [read.2]; rfl, inner_char quote slash⟩

/-- A string literal from behind its opening quote ends behind its closing one. -/
theorem run_readString {fuel : Nat} {text s rest : Text}
    (read : readString fuel text = some (s, rest)) :
    ∃ used, text = used ++ '"' :: rest ∧ Inner used := by
  induction fuel generalizing text s with
  | zero => simp [readString] at read
  | succ fuel ih =>
    rw [readString] at read
    cases first : readChar text with
    | none => simp [first] at read
    | some found =>
      obtain ⟨c, tail⟩ := found
      cases c with
      | none =>
        rcases inner_readChar first with ⟨-, same⟩ | ⟨used, shown, -⟩
        · simp only [first, Option.some.injEq, Prod.mk.injEq] at read
          exact ⟨[], by rw [same, read.2]; rfl, inner_nil⟩
        · simp at shown
      | some c =>
        simp only [first, Option.map_eq_some_iff, Prod.mk.injEq] at read
        obtain ⟨⟨s', last⟩, later, -, rfl⟩ := read
        rcases inner_readChar first with ⟨shown, -⟩ | ⟨used, -, rfl, inner⟩
        · simp at shown
        · obtain ⟨used', rfl, inner'⟩ := ih later
          exact ⟨used ++ used', by simp, inner.append inner'⟩

/-- A string literal is a value. -/
theorem balanced_string {used : Text} (inner : Inner used) : Balanced ('"' :: (used ++ ['"'])) := by
  intro depth
  obtain ⟨same, stays⟩ := inner depth
  have opened : (outside depth).step '"' = inString depth := rfl
  have closed : (inString depth).step '"' = afterString depth := rfl
  rw [run_cons, opened, run_append, same, run_cons, closed]
  refine ⟨Or.inr rfl, Stays.cons (Nat.le_refl depth) ?_⟩
  rw [opened]
  refine stays.append ?_
  rw [same]
  exact Stays.cons (Nat.le_refl depth) (stays_nil (Nat.le_refl depth))

/-- A text without quotes and brackets. -/
theorem balanced_plain {text : Text} (plain : ∀ c ∈ text, c ∉ ['"', '{', '[', '}', ']']) :
    Balanced text := by
  induction text with
  | nil => exact balanced_nil
  | cons c text ih =>
    have rest := ih fun d member => plain d (List.mem_cons_of_mem c member)
    have first := plain c List.mem_cons_self
    simp only [List.mem_cons, List.not_mem_nil, or_false, not_or] at first
    intro depth
    have same : (outside depth).step c = outside depth := by simp [step, first]
    obtain ⟨settled, stays⟩ := rest depth
    rw [run_cons, same]
    exact ⟨settled, Stays.cons (Nat.le_refl depth) (by rwa [same])⟩

/-- A scalar has no quotes and no brackets. -/
theorem balanced_readScalar {rounding : FloatLiteral → FloatLiteral} {text rest : Text}
    {document : Json} (read : readScalar rounding text = some (document, rest)) :
    ∃ used, text = used ++ rest ∧ Balanced used := by
  have number : Balanced (text.takeWhile isNumberChar) := by
    apply balanced_plain
    intro c member special
    have numeric := List.mem_takeWhile_imp member
    simp only [List.mem_cons, List.not_mem_nil, or_false] at special
    rcases special with rfl | rfl | rfl | rfl | rfl <;> exact absurd numeric (by decide)
  have cut : text = text.takeWhile isNumberChar ++ text.dropWhile isNumberChar :=
    (List.takeWhile_append_dropWhile).symm
  have words : ∀ entry ∈ keywords, Balanced entry.1 := by
    intro entry member
    apply balanced_plain
    simp only [keywords, List.mem_cons, List.not_mem_nil, or_false] at member
    rcases member with rfl | rfl | rfl | rfl | rfl | rfl <;> simp
  simp only [readScalar] at read
  split_ifs at read with integer float
  · simp only [Option.some.injEq, Prod.mk.injEq] at read
    exact ⟨_, by rw [← read.2]; exact cut, number⟩
  · simp only [Option.some.injEq, Prod.mk.injEq] at read
    exact ⟨_, by rw [← read.2]; exact cut, number⟩
  · have found : ∃ value, readKeyword text = some (value, rest) := by
      split at read
      · rename_i shown
        obtain ⟨-, rfl⟩ := Prod.mk.inj (Option.some.inj read)
        exact ⟨_, shown⟩
      · exact ⟨_, read⟩
    obtain ⟨value, found⟩ := found
    obtain ⟨entry, member, ⟨tail, rfl⟩, rfl⟩ := readKeyword_prefix found
    exact ⟨entry.1, by rw [List.drop_left], words entry member⟩

end Scan

namespace Json

open Scan (outside AtLeast Balanced Continues balanced_nil continues_nil continues_spaces
  balanced_string balanced_readScalar run_readString)

/-- What skipping white space leaves, and what it skips. -/
theorem exists_spaces (text : Text) :
    ∃ spaces, text = spaces ++ skipSpace text ∧ ∀ c ∈ spaces, isSpace c = true :=
  ⟨text.takeWhile isSpace, List.takeWhile_append_dropWhile.symm, fun _ member =>
    List.mem_takeWhile_imp member⟩

/-- The readers with one fuel consume texts that close what they open. -/
structure ReadsBalanced (rounding : FloatLiteral → FloatLiteral) (fuel : Nat) : Prop where
  value : ∀ text document rest, readValue rounding fuel text = some (document, rest) →
    ∃ used, text = used ++ rest ∧ Balanced used
  array : ∀ text document rest, readArray rounding fuel text = some (document, rest) →
    ∃ used, text = used ++ ']' :: rest ∧ Balanced used
  items : ∀ text items rest, readItems rounding fuel text = some (items, rest) →
    ∃ used, text = used ++ ']' :: rest ∧ Continues used
  member : ∀ text field rest, readMember rounding fuel text = some (field, rest) →
    ∃ used, text = used ++ rest ∧ Balanced used
  object : ∀ text document rest, readObject rounding fuel text = some (document, rest) →
    ∃ used, text = used ++ '}' :: rest ∧ Balanced used
  members : ∀ text fields rest, readMembers rounding fuel text = some (fields, rest) →
    ∃ used, text = used ++ '}' :: rest ∧ Continues used

variable {rounding : FloatLiteral → FloatLiteral} {fuel : Nat} {text rest : Text}

/-- A value one level deeper closes what it opens. -/
theorem ReadsBalanced.value_succ (ih : ReadsBalanced rounding fuel) {document : Json}
    (read : readValue rounding (fuel + 1) text = some (document, rest)) :
    ∃ used, text = used ++ rest ∧ Balanced used := by
  unfold readValue at read
  split at read
  · rename_i tail
    simp only [Option.map_eq_some_iff, Prod.mk.injEq] at read
    obtain ⟨⟨s, last⟩, string, -, rfl⟩ := read
    obtain ⟨used, rfl, inner⟩ := run_readString string
    exact ⟨'"' :: (used ++ ['"']), by simp, balanced_string inner⟩
  · rename_i tail
    obtain ⟨spaces, skipped, blank⟩ := exists_spaces tail
    obtain ⟨used, same, balanced⟩ := ih.array _ _ _ read
    rw [same] at skipped
    have inside := balanced.after_spaces blank
    exact ⟨'[' :: ((spaces ++ used) ++ [']']), by simp [skipped],
      inside.bracket (Or.inr rfl) (Or.inr rfl)⟩
  · rename_i tail
    obtain ⟨spaces, skipped, blank⟩ := exists_spaces tail
    obtain ⟨used, same, balanced⟩ := ih.object _ _ _ read
    rw [same] at skipped
    have inside := balanced.after_spaces blank
    exact ⟨'{' :: ((spaces ++ used) ++ ['}']), by simp [skipped],
      inside.bracket (Or.inl rfl) (Or.inl rfl)⟩
  · exact balanced_readScalar read

/-- An array does, up to the bracket that closes it. -/
theorem ReadsBalanced.array_succ (ih : ReadsBalanced rounding fuel) {document : Json}
    (read : readArray rounding (fuel + 1) text = some (document, rest)) :
    ∃ used, text = used ++ ']' :: rest ∧ Balanced used := by
  unfold readArray at read
  split at read
  · obtain ⟨-, rfl⟩ := Prod.mk.inj (Option.some.inj read)
    exact ⟨[], rfl, balanced_nil⟩
  · split at read
    · contradiction
    · rename_i v middle first
      simp only [Option.map_eq_some_iff, Prod.mk.injEq] at read
      obtain ⟨⟨vs, last⟩, others, -, rfl⟩ := read
      obtain ⟨used, rfl, balanced⟩ := ih.value _ _ _ first
      obtain ⟨spaces, skipped, blank⟩ := exists_spaces middle
      obtain ⟨more, same, continues⟩ := ih.items _ _ _ others
      rw [same] at skipped
      exact ⟨used ++ (spaces ++ more), by simp [skipped],
        balanced.continue ((continues_spaces blank).append continues)⟩

/-- The items behind the first one continue an open array. -/
theorem ReadsBalanced.items_succ (ih : ReadsBalanced rounding fuel) {items : List Json}
    (read : readItems rounding (fuel + 1) text = some (items, rest)) :
    ∃ used, text = used ++ ']' :: rest ∧ Continues used := by
  unfold readItems at read
  split at read
  · obtain ⟨-, rfl⟩ := Prod.mk.inj (Option.some.inj read)
    exact ⟨[], rfl, continues_nil⟩
  · rename_i tail
    split at read
    · contradiction
    · rename_i v middle first
      simp only [Option.map_eq_some_iff, Prod.mk.injEq] at read
      obtain ⟨⟨vs, last⟩, others, -, rfl⟩ := read
      obtain ⟨before, skippedBefore, blankBefore⟩ := exists_spaces tail
      obtain ⟨used, sameFirst, balanced⟩ := ih.value _ _ _ first
      obtain ⟨spaces, skipped, blank⟩ := exists_spaces middle
      obtain ⟨more, same, continues⟩ := ih.items _ _ _ others
      rw [same] at skipped
      rw [sameFirst, skipped] at skippedBefore
      have separated := (balanced.after_spaces blankBefore).after_separator (Or.inl rfl)
      exact ⟨',' :: (before ++ used) ++ (spaces ++ more), by simp [skippedBefore],
        separated.append ((continues_spaces blank).append continues)⟩
  · contradiction

/-- A member closes what it opens. -/
theorem ReadsBalanced.member_succ (ih : ReadsBalanced rounding fuel) {field : String × Json}
    (read : readMember rounding (fuel + 1) text = some (field, rest)) :
    ∃ used, text = used ++ rest ∧ Balanced used := by
  unfold readMember at read
  split at read
  · rename_i tail
    split at read
    · contradiction
    · rename_i key middle string
      split at read
      · rename_i after colon
        simp only [Option.map_eq_some_iff, Prod.mk.injEq] at read
        obtain ⟨⟨w, last⟩, value, -, rfl⟩ := read
        obtain ⟨name, rfl, inner⟩ := run_readString string
        obtain ⟨spaces, skipped, blank⟩ := exists_spaces middle
        obtain ⟨before, skippedBefore, blankBefore⟩ := exists_spaces after
        obtain ⟨used, same, balanced⟩ := ih.value _ _ _ value
        rw [same] at skippedBefore
        rw [colon, skippedBefore] at skipped
        have separated := (balanced.after_spaces blankBefore).after_separator (Or.inr rfl)
        exact ⟨'"' :: (name ++ ['"']) ++ (spaces ++ ':' :: (before ++ used)),
          by simp [skipped],
          (balanced_string inner).continue ((continues_spaces blank).append separated)⟩
      · contradiction
  · contradiction

/-- An object does, up to the brace that closes it. -/
theorem ReadsBalanced.object_succ (ih : ReadsBalanced rounding fuel) {document : Json}
    (read : readObject rounding (fuel + 1) text = some (document, rest)) :
    ∃ used, text = used ++ '}' :: rest ∧ Balanced used := by
  unfold readObject at read
  split at read
  · obtain ⟨-, rfl⟩ := Prod.mk.inj (Option.some.inj read)
    exact ⟨[], rfl, balanced_nil⟩
  · split at read
    · contradiction
    · rename_i k v middle first
      simp only [Option.map_eq_some_iff, Prod.mk.injEq] at read
      obtain ⟨⟨later, last⟩, others, -, rfl⟩ := read
      obtain ⟨used, rfl, balanced⟩ := ih.member _ _ _ first
      obtain ⟨spaces, skipped, blank⟩ := exists_spaces middle
      obtain ⟨more, same, continues⟩ := ih.members _ _ _ others
      rw [same] at skipped
      exact ⟨used ++ (spaces ++ more), by simp [skipped],
        balanced.continue ((continues_spaces blank).append continues)⟩

/-- The members behind the first one continue an open object. -/
theorem ReadsBalanced.members_succ (ih : ReadsBalanced rounding fuel)
    {fields : List (String × Json)}
    (read : readMembers rounding (fuel + 1) text = some (fields, rest)) :
    ∃ used, text = used ++ '}' :: rest ∧ Continues used := by
  unfold readMembers at read
  split at read
  · obtain ⟨-, rfl⟩ := Prod.mk.inj (Option.some.inj read)
    exact ⟨[], rfl, continues_nil⟩
  · rename_i tail
    split at read
    · contradiction
    · rename_i k v middle first
      simp only [Option.map_eq_some_iff, Prod.mk.injEq] at read
      obtain ⟨⟨later, last⟩, others, -, rfl⟩ := read
      obtain ⟨before, skippedBefore, blankBefore⟩ := exists_spaces tail
      obtain ⟨used, sameFirst, balanced⟩ := ih.member _ _ _ first
      obtain ⟨spaces, skipped, blank⟩ := exists_spaces middle
      obtain ⟨more, same, continues⟩ := ih.members _ _ _ others
      rw [same] at skipped
      rw [sameFirst, skipped] at skippedBefore
      have separated := (balanced.after_spaces blankBefore).after_separator (Or.inl rfl)
      exact ⟨',' :: (before ++ used) ++ (spaces ++ more), by simp [skippedBefore],
        separated.append ((continues_spaces blank).append continues)⟩
  · contradiction

/-- Every reader consumes texts that close what they open. -/
theorem reads_balanced (rounding : FloatLiteral → FloatLiteral) (fuel : Nat) :
    ReadsBalanced rounding fuel := by
  induction fuel with
  | zero => constructor <;> simp [readValue, readArray, readItems, readMember, readObject,
      readMembers]
  | succ fuel ih =>
    exact {
      value := fun _ _ _ read => ih.value_succ read
      array := fun _ _ _ read => ih.array_succ read
      items := fun _ _ _ read => ih.items_succ read
      member := fun _ _ _ read => ih.member_succ read
      object := fun _ _ _ read => ih.object_succ read
      members := fun _ _ _ read => ih.members_succ read }

/-! ## Torn objects -/

/-- A text that leaves a bracket open is refused. -/
theorem loads_open {rounding : FloatLiteral → FloatLiteral} {text : Text}
    (open' : AtLeast 1 ((outside 0).run text)) : loads rounding text = none := by
  cases read : loads rounding text with
  | none => rfl
  | some document =>
    unfold loads at read
    split at read
    · contradiction
    · rename_i found rest value
      split_ifs at read with blank
      obtain ⟨before, skipped, blankBefore⟩ := exists_spaces text
      obtain ⟨after, skippedAfter, blankAfter⟩ := exists_spaces rest
      obtain ⟨used, same, balanced⟩ := (reads_balanced rounding _).value _ _ _ value
      rw [blank, List.append_nil] at skippedAfter
      rw [same, ← List.append_assoc] at skipped
      have whole := (balanced.after_spaces blankBefore).continue
        (continues_spaces (skippedAfter ▸ blankAfter))
      rw [← skipped] at whole
      have closed : ¬AtLeast 1 ((outside 0).run text) := by
        rcases (whole 0).1 with settled | settled <;> rw [settled] <;> exact Nat.not_succ_le_zero 0
      exact absurd open' closed

/-- The text of an object is a balanced text in braces. -/
theorem dumps_object (ascii : Bool) {fields : List (String × Json)}
    (formed : WellFormed (.obj fields)) :
    ∃ inner, dumps ascii (.obj fields) = '{' :: (inner ++ ['}']) ∧ Balanced inner := by
  obtain ⟨tail, opening⟩ : ∃ tail, dumps ascii (.obj fields) = '{' :: tail := by
    cases fields with
    | nil => exact ⟨_, rfl⟩
    | cons field fields => exact ⟨_, rfl⟩
  have read := readValue_dumps ascii (.obj fields) (weight (.obj fields) + 1) [] formed
    (fixedBy_id _) (Nat.le_succ _) delimited_nil
  rw [opening, List.append_nil, readValue] at read
  obtain ⟨spaces, skipped, blank⟩ := exists_spaces tail
  obtain ⟨used, same, balanced⟩ := (reads_balanced id _).object _ _ _ read
  rw [same] at skipped
  exact ⟨spaces ++ used, by rw [opening, skipped, List.append_assoc],
    balanced.after_spaces blank⟩

/-- A torn object leaves its brace open. -/
theorem atLeast_torn (ascii : Bool) {fields : List (String × Json)}
    (formed : WellFormed (.obj fields)) {front missing : Text}
    (cut : dumps ascii (.obj fields) = front ++ missing) (begun : front ≠ [])
    (torn : missing ≠ []) : AtLeast 1 ((outside 0).run front) := by
  obtain ⟨inner, text, balanced⟩ := dumps_object ascii formed
  obtain ⟨-, opened, stays⟩ := balanced.inside (Or.inl rfl) (Or.inl rfl) 0
  rw [text] at cut
  cases front with
  | nil => exact absurd rfl begun
  | cons c front =>
    obtain ⟨rfl, rest⟩ := List.cons.inj cut
    have inside : front <+: inner ++ ['}'] := ⟨missing, rest.symm⟩
    rcases List.prefix_concat_iff.mp inside with whole | part
    · have same : inner ++ ['}'] = (inner ++ ['}']) ++ missing :=
        by rw [← whole]; exact whole ▸ rest
      exact absurd (List.self_eq_append_right.mp same) torn
    · rw [Scan.run_cons, opened]
      exact stays front part

/-- Behind an open bracket, an object text of which the first key begins with a letter, its
beginnings and its line leave one open. -/
theorem atLeast_more (ascii : Bool) {fields : List (String × Json)}
    (formed : WellFormed (.obj fields)) {c : Char} {rest front : Text}
    (key : dumps ascii (.obj fields) = '{' :: '"' :: c :: rest) (letter : c.isAlpha = true)
    (inside : front <+: dumps ascii (.obj fields) ++ ['\n']) {scan : Scan}
    (open' : AtLeast 1 scan) : AtLeast 1 (scan.run front) := by
  have bad (text : Text) : Scan.bad.run text = .bad := by
    induction text with
    | nil => rfl
    | cons d text ih => exact ih
  have refused (depth : Nat) : (Scan.afterString depth).step c = .bad := by
    have other : ∀ d ∈ [' ', '\t', '\n', '\r', ',', ':', '}', ']'], c ≠ d := by
      rintro d member rfl
      simp only [List.mem_cons, List.not_mem_nil, or_false] at member
      rcases member with rfl | rfl | rfl | rfl | rfl | rfl | rfl | rfl <;>
        exact absurd letter (by decide)
    simp [Scan.step, isSpace, other]
  -- In a string the first quote of the object closes it, and the key is refused.
  have closing {scan : Scan} {depth : Nat} (least : 1 ≤ depth) (first : scan.AtLeast 1)
      (brace : scan.step '{' = .inString depth) : AtLeast 1 (scan.run front) := by
    rw [key] at inside
    cases front with
    | nil => exact first
    | cons c₁ front =>
      obtain ⟨rfl, second⟩ := List.cons_prefix_cons.mp inside
      rw [Scan.run_cons, brace]
      cases front with
      | nil => exact least
      | cons c₂ front =>
        obtain ⟨rfl, third⟩ := List.cons_prefix_cons.mp second
        have quote : (Scan.inString depth).step '"' = .afterString depth := rfl
        rw [Scan.run_cons, quote]
        cases front with
        | nil => exact least
        | cons c₃ front =>
          obtain ⟨rfl, -⟩ := List.cons_prefix_cons.mp third
          rw [Scan.run_cons, refused, bad]
          trivial
  cases scan with
  | bad => rw [bad]; trivial
  | outside depth =>
    obtain ⟨inner, text, balanced⟩ := dumps_object ascii formed
    have stays := ((balanced.bracket (Or.inl rfl) (Or.inl rfl)) depth).2
    have whole := (balanced.inside (Or.inl rfl) (Or.inl rfl) depth).1
    rw [text] at inside
    rcases List.prefix_concat_iff.mp inside with line | part
    · rw [line, Scan.run_append, whole]
      exact open'
    · exact (stays front part).weaken open'
  | inString depth => exact closing open' open' rfl
  | escaped depth => exact closing open' open' rfl
  | afterString depth =>
    rw [key] at inside
    cases front with
    | nil => exact open'
    | cons c₁ front =>
      obtain ⟨rfl, -⟩ := List.cons_prefix_cons.mp inside
      have brace : (Scan.afterString depth).step '{' = .bad := rfl
      rw [Scan.run_cons, brace, bad]
      trivial

end Json

end DTLab.Library
