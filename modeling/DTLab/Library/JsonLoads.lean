import DTLab.Library.JsonRoundTrip

/-!
# What a reader of JSON text guarantees

Every document read is well formed (`loads_wellFormed`), and its literals are fixed by a rounding
that is done once (`loads_fixed`).
-/

namespace DTLab.Library

namespace Json

/-! ## Members kept in order -/

/-- Setting a member adds its key and no other. -/
theorem mem_keys_setField (key : String) (value : Json) (fields : List (String × Json))
    (k : String) : k ∈ keys (setField key value fields) ↔ k = key ∨ k ∈ keys fields := by
  induction fields with
  | nil => simp [setField]
  | cons field fields ih =>
    obtain ⟨k', v'⟩ := field
    unfold setField
    split_ifs with before same
    · simp
    · subst same
      simp
    · simp only [keys, List.map_cons, List.mem_cons] at ih ⊢
      rw [ih]
      tauto

/-- Setting a member keeps the keys in order. -/
theorem setField_sorted (key : String) (value : Json) {fields : List (String × Json)}
    (sorted : (keys fields).Pairwise (· < ·)) :
    (keys (setField key value fields)).Pairwise (· < ·) := by
  induction fields with
  | nil => simp [setField]
  | cons field fields ih =>
    obtain ⟨k', v'⟩ := field
    simp only [keys, List.map_cons, List.pairwise_cons] at sorted ih
    unfold setField
    split_ifs with before same
    · simp only [keys, List.map_cons, List.pairwise_cons, List.mem_cons, forall_eq_or_imp]
      exact ⟨⟨before, fun k member => before.trans (sorted.1 k member)⟩, sorted⟩
    · subst same
      simpa [keys] using sorted
    · have after : k' < key := lt_of_le_of_ne (not_lt.mp before) (Ne.symm same)
      simp only [keys, List.map_cons, List.pairwise_cons]
      refine ⟨fun k member => ?_, ih sorted.2⟩
      rcases (mem_keys_setField key value fields k).mp member with rfl | member
      · exact after
      · exact sorted.1 k member

/-- Looking a key up compares it with the first key. -/
theorem lookup_cons_eq (k key : String) (value : Json) (fields : List (String × Json)) :
    ((key, value) :: fields).lookup k = if k = key then some value else fields.lookup k := by
  by_cases same : k = key
  · simp [same]
  · have different : (k == key) = false := by simpa using same
    simp [List.lookup_cons, different, same]

/-! ## Every document read is well formed -/

variable {rounding : FloatLiteral → FloatLiteral}

/-- A scalar is well formed. -/
theorem readScalar_wellFormed {text rest : Text} {document : Json}
    (read : readScalar rounding text = some (document, rest)) : WellFormed document := by
  have words : ∀ entry ∈ keywords, WellFormed entry.2 := by
    simp only [keywords, List.mem_cons, List.not_mem_nil, or_false]
    rintro _ (rfl | rfl | rfl | rfl | rfl | rfl) <;> trivial
  simp only [readScalar] at read
  split_ifs at read with integer float
  · obtain ⟨rfl, rfl⟩ := Prod.mk.inj (Option.some.inj read)
    trivial
  · obtain ⟨rfl, rfl⟩ := Prod.mk.inj (Option.some.inj read)
    trivial
  · split at read
    · obtain ⟨rfl, rfl⟩ := Prod.mk.inj (Option.some.inj read)
      trivial
    · obtain ⟨entry, member, found⟩ := List.exists_of_findSome?_eq_some read
      obtain ⟨word, value⟩ := entry
      simp only [Option.ite_none_right_eq_some, Option.some.injEq, Prod.mk.injEq] at found
      obtain ⟨_, rfl, _⟩ := found
      exact words _ member

/-- A property of documents that every document read has: scalars have it, and documents whose
parts have it. -/
structure ReadsTo (rounding : FloatLiteral → FloatLiteral) (holds : Json → Prop) : Prop where
  str : ∀ text, holds (.str text)
  scalar : ∀ text document rest, readScalar rounding text = some (document, rest) → holds document
  arr : ∀ items, (∀ item ∈ items, holds item) → holds (.arr items)
  obj : ∀ fields, (keys fields).Pairwise (· < ·) → (∀ field ∈ fields, holds field.2) →
    holds (.obj fields)

/-- The readers with one fuel return parts with a property. -/
structure ReadsParts (rounding : FloatLiteral → FloatLiteral) (holds : Json → Prop) (fuel : Nat) :
    Prop where
  value : ∀ text document rest, readValue rounding fuel text = some (document, rest) →
    holds document
  array : ∀ text document rest, readArray rounding fuel text = some (document, rest) →
    holds document
  items : ∀ text items rest, readItems rounding fuel text = some (items, rest) →
    ∀ item ∈ items, holds item
  member : ∀ text k v rest, readMember rounding fuel text = some ((k, v), rest) → holds v
  object : ∀ text document rest, readObject rounding fuel text = some (document, rest) →
    holds document
  members : ∀ text fields rest, readMembers rounding fuel text = some (fields, rest) →
    (keys fields).Pairwise (· < ·) ∧ ∀ field ∈ fields, holds field.2

/-- A member that is set is the new one or an old one. -/
theorem mem_setField {key : String} {value : Json} {fields : List (String × Json)}
    {field : String × Json} (member : field ∈ setField key value fields) :
    field = (key, value) ∨ field ∈ fields := by
  induction fields with
  | nil => exact Or.inl (List.mem_singleton.mp member)
  | cons first fields ih =>
    obtain ⟨k, v⟩ := first
    unfold setField at member
    split_ifs at member
    · exact List.mem_cons.mp member
    · exact (List.mem_cons.mp member).imp_right (List.mem_cons_of_mem _)
    · rcases List.mem_cons.mp member with rfl | later
      · exact Or.inr List.mem_cons_self
      · exact (ih later).imp_right (List.mem_cons_of_mem _)

/-- Members put in front of later ones stay in order and keep a property. -/
theorem addFirst_holds (key : String) {value : Json} {holds : Json → Prop} (first : holds value)
    {later : List (String × Json)} (sorted : (keys later).Pairwise (· < ·))
    (each : ∀ field ∈ later, holds field.2) :
    (keys (addFirst key value later)).Pairwise (· < ·) ∧
      ∀ field ∈ addFirst key value later, holds field.2 := by
  unfold addFirst
  split_ifs
  · exact ⟨sorted, each⟩
  · refine ⟨setField_sorted key value sorted, fun field member => ?_⟩
    rcases mem_setField member with rfl | old
    · exact first
    · exact each field old

/-- Every reader returns parts with the property, at every fuel. -/
theorem ReadsTo.parts {holds : Json → Prop} (reads : ReadsTo rounding holds) (fuel : Nat) :
    ReadsParts rounding holds fuel := by
  induction fuel with
  | zero => constructor <;> simp [readValue, readArray, readItems, readMember, readObject,
      readMembers]
  | succ fuel ih =>
    constructor
    · intro text document rest read
      unfold readValue at read
      split at read
      · simp only [Option.map_eq_some_iff, Prod.mk.injEq] at read
        obtain ⟨_, _, rfl, _⟩ := read
        exact reads.str _
      · exact ih.array _ _ _ read
      · exact ih.object _ _ _ read
      · exact reads.scalar _ _ _ read
    · intro text document rest read
      unfold readArray at read
      split at read
      · obtain ⟨rfl, rfl⟩ := Prod.mk.inj (Option.some.inj read)
        exact reads.arr [] fun _ member => absurd member List.not_mem_nil
      · split at read
        · contradiction
        · rename_i v middle first
          simp only [Option.map_eq_some_iff, Prod.mk.injEq] at read
          obtain ⟨⟨vs, last⟩, others, rfl, _⟩ := read
          exact reads.arr _ (List.forall_mem_cons.mpr
            ⟨ih.value _ _ _ first, ih.items _ _ _ others⟩)
    · intro text items rest read
      unfold readItems at read
      split at read
      · obtain ⟨rfl, rfl⟩ := Prod.mk.inj (Option.some.inj read)
        exact fun _ member => absurd member List.not_mem_nil
      · split at read
        · contradiction
        · rename_i v middle first
          simp only [Option.map_eq_some_iff, Prod.mk.injEq] at read
          obtain ⟨⟨vs, last⟩, others, rfl, _⟩ := read
          exact List.forall_mem_cons.mpr ⟨ih.value _ _ _ first, ih.items _ _ _ others⟩
      · contradiction
    · intro text k v rest read
      unfold readMember at read
      split at read
      · split at read
        · contradiction
        · split at read
          · simp only [Option.map_eq_some_iff, Prod.mk.injEq] at read
            obtain ⟨⟨w, last⟩, value, ⟨_, rfl⟩, _⟩ := read
            exact ih.value _ _ _ value
          · contradiction
      · contradiction
    · intro text document rest read
      unfold readObject at read
      split at read
      · obtain ⟨rfl, rfl⟩ := Prod.mk.inj (Option.some.inj read)
        exact reads.obj [] List.Pairwise.nil fun _ member => absurd member List.not_mem_nil
      · split at read
        · contradiction
        · rename_i k v middle first
          simp only [Option.map_eq_some_iff, Prod.mk.injEq] at read
          obtain ⟨⟨later, last⟩, others, rfl, _⟩ := read
          obtain ⟨sorted, each⟩ := ih.members _ _ _ others
          have added := addFirst_holds k (ih.member _ _ _ _ first) sorted each
          exact reads.obj _ added.1 added.2
    · intro text fields rest read
      unfold readMembers at read
      split at read
      · obtain ⟨rfl, rfl⟩ := Prod.mk.inj (Option.some.inj read)
        exact ⟨List.Pairwise.nil, fun _ member => absurd member List.not_mem_nil⟩
      · split at read
        · contradiction
        · rename_i k v middle first
          simp only [Option.map_eq_some_iff, Prod.mk.injEq] at read
          obtain ⟨⟨later, last⟩, others, rfl, _⟩ := read
          obtain ⟨sorted, each⟩ := ih.members _ _ _ others
          exact addFirst_holds k (ih.member _ _ _ _ first) sorted each
      · contradiction

/-- Every document read has the property. -/
theorem ReadsTo.loads {holds : Json → Prop} (reads : ReadsTo rounding holds) {text : Text}
    {document : Json} (read : loads rounding text = some document) : holds document := by
  unfold Json.loads at read
  split at read
  · contradiction
  · rename_i found rest value
    split_ifs at read
    obtain rfl := Option.some.inj read
    exact (reads.parts _).value _ _ _ value

/-- Items that are well formed each. -/
theorem wellFormedItems_of_each {items : List Json} (each : ∀ item ∈ items, WellFormed item) :
    WellFormedItems items := by
  induction items with
  | nil => exact trivial
  | cons item items ih =>
    exact ⟨each item List.mem_cons_self, ih fun _ member => each _ (List.mem_cons_of_mem _ member)⟩

/-- Members that are well formed each. -/
theorem wellFormedMembers_of_each {fields : List (String × Json)}
    (each : ∀ field ∈ fields, WellFormed field.2) : WellFormedMembers fields := by
  induction fields with
  | nil => exact trivial
  | cons field fields ih =>
    exact ⟨each field List.mem_cons_self, ih fun _ member => each _ (List.mem_cons_of_mem _ member)⟩

/-- Items whose literals are fixed each. -/
theorem fixedItems_of_each {items : List Json} (each : ∀ item ∈ items, FixedBy rounding item) :
    FixedItems rounding items := by
  induction items with
  | nil => exact trivial
  | cons item items ih =>
    exact ⟨each item List.mem_cons_self, ih fun _ member => each _ (List.mem_cons_of_mem _ member)⟩

/-- Members whose literals are fixed each. -/
theorem fixedMembers_of_each {fields : List (String × Json)}
    (each : ∀ field ∈ fields, FixedBy rounding field.2) : FixedMembers rounding fields := by
  induction fields with
  | nil => exact trivial
  | cons field fields ih =>
    exact ⟨each field List.mem_cons_self, ih fun _ member => each _ (List.mem_cons_of_mem _ member)⟩

/-- Well-formedness is a property of every document read. -/
theorem readsTo_wellFormed (rounding : FloatLiteral → FloatLiteral) :
    ReadsTo rounding WellFormed where
  str _ := trivial
  scalar _ _ _ read := readScalar_wellFormed read
  arr _ each := wellFormedItems_of_each each
  obj _ sorted each := ⟨sorted, wellFormedMembers_of_each each⟩

/-- The literals of a scalar that is read are fixed by a rounding that is done once. -/
theorem readScalar_fixed (once : ∀ literal, rounding (rounding literal) = rounding literal)
    {text rest : Text} {document : Json}
    (read : readScalar rounding text = some (document, rest)) : FixedBy rounding document := by
  have words : ∀ entry ∈ keywords, (∀ literal, entry.2 ≠ .float literal) →
      FixedBy rounding entry.2 := by
    simp only [keywords, List.mem_cons, List.not_mem_nil, or_false]
    rintro _ (rfl | rfl | rfl | rfl | rfl | rfl) notFloat <;>
      first | exact trivial | exact absurd rfl (notFloat _)
  simp only [readScalar] at read
  split_ifs at read with integer float
  · obtain ⟨rfl, rfl⟩ := Prod.mk.inj (Option.some.inj read)
    trivial
  · obtain ⟨rfl, rfl⟩ := Prod.mk.inj (Option.some.inj read)
    exact once _
  · split at read
    · obtain ⟨rfl, rfl⟩ := Prod.mk.inj (Option.some.inj read)
      exact once _
    · rename_i notFloat
      obtain ⟨entry, member, found⟩ := List.exists_of_findSome?_eq_some read
      obtain ⟨word, value⟩ := entry
      simp only [Option.ite_none_right_eq_some, Option.some.injEq, Prod.mk.injEq] at found
      obtain ⟨_, rfl, _⟩ := found
      refine words _ member fun literal same => ?_
      exact notFloat literal rest (by rw [read, ← same])

/-- Fixed literals are a property of every document read. -/
theorem readsTo_fixed (once : ∀ literal, rounding (rounding literal) = rounding literal) :
    ReadsTo rounding (FixedBy rounding) where
  str _ := trivial
  scalar _ _ _ read := readScalar_fixed once read
  arr _ each := fixedItems_of_each each
  obj _ _ each := fixedMembers_of_each each

/-- Every document read is well formed. -/
theorem loads_wellFormed {text : Text} {document : Json}
    (read : loads rounding text = some document) : WellFormed document :=
  (readsTo_wellFormed rounding).loads read

/-- Every literal of a document read is fixed by a rounding that is done once. -/
theorem loads_fixed (once : ∀ literal, rounding (rounding literal) = rounding literal)
    {text : Text} {document : Json} (read : loads rounding text = some document) :
    FixedBy rounding document :=
  (readsTo_fixed once).loads read

end Json

/-! ## Words -/

/-- A word is read from every text that it begins. -/
theorem readScalar_keyword (rounding : FloatLiteral → FloatLiteral) :
    ∀ entry ∈ keywords, ∃ document, ∀ rest,
      readScalar rounding (entry.1 ++ rest) = some (document, rest) := by
  simp only [keywords, List.mem_cons, List.not_mem_nil, or_false]
  rintro _ (rfl | rfl | rfl | rfl | rfl | rfl) <;> exact ⟨_, fun _ => rfl⟩

/-- A word that is read stands at the front. -/
theorem readKeyword_prefix {text rest : Text} {value : Json}
    (read : readKeyword text = some (value, rest)) :
    ∃ entry ∈ keywords, entry.1 <+: text ∧ rest = text.drop entry.1.length := by
  obtain ⟨⟨word, value'⟩, member, found⟩ := List.exists_of_findSome?_eq_some read
  simp only [Option.ite_none_right_eq_some, Option.some.injEq, Prod.mk.injEq] at found
  exact ⟨_, member, List.isPrefixOf_iff_prefix.mp found.1, found.2.2.symm⟩

end DTLab.Library
