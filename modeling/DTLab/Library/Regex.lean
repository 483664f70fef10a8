import DTLab.Library.Json
import Mathlib.Computability.Language

/-!
# Regular expressions

Expressions over arbitrary items, their languages, and a search that tries every remainder behind
every start. The search finds an expression in a list exactly when the list has a part in its
language.
-/

namespace DTLab.Library

open Computability

variable {α : Type*}

/-- A regular expression. -/
inductive Regex (α : Type*) where
  /-- The empty list. -/
  | empty
  /-- One item that a predicate accepts. -/
  | one (accepts : α → Bool)
  | seq (first second : Regex α)
  | either (first second : Regex α)
  /-- Any number of repetitions. -/
  | many (inner : Regex α)

namespace Regex

/-- The lists that an expression describes. -/
def language : Regex α → Language α
  | .empty => 1
  | .one accepts => {text | ∃ item, accepts item = true ∧ text = [item]}
  | .seq first second => first.language * second.language
  | .either first second => first.language + second.language
  | .many inner => KStar.kstar inner.language

/-- At most one occurrence. -/
def optional (inner : Regex α) : Regex α := .either inner .empty

/-- At least one occurrence. -/
def some (inner : Regex α) : Regex α := .seq inner (.many inner)

/-- The alternatives of a list. -/
def anyOf : List (Regex α) → Regex α
  | [] => .one fun _ => false
  | first :: rest => rest.foldl .either first

/-- One expression behind the other. -/
def concat (parts : List (Regex α)) : Regex α := parts.foldr .seq .empty

/-! ## Remainders -/

/-- The remainders behind any number of repetitions of a step that consumes items. -/
def closure (step : List α → List (List α)) : Nat → List α → List (List α)
  | 0, text => [text]
  | fuel + 1, text =>
    text :: ((step text).filter fun rest => decide (rest.length < text.length)).flatMap
      (closure step fuel)

/-- What is left of a list behind each of its beginnings in the language. -/
def rests : Regex α → List α → List (List α)
  | .empty, text => [text]
  | .one _, [] => []
  | .one accepts, item :: rest => if accepts item then [rest] else []
  | .seq first second, text => (first.rests text).flatMap second.rests
  | .either first second, text => first.rests text ++ second.rests text
  | .many inner, text => closure inner.rests text.length text

/-- Whether some part of a list is in the language. -/
def search (regex : Regex α) (text : List α) : Bool :=
  text.tails.any fun suffix => !(regex.rests suffix).isEmpty

/-- The closure of a step that is exact is exact, where the fuel covers the list. -/
theorem mem_closure {step : List α → List (List α)} {language : Language α}
    (exact : ∀ text rest, rest ∈ step text ↔ ∃ found ∈ language, text = found ++ rest)
    {fuel : Nat} {text : List α} (enough : text.length ≤ fuel) (rest : List α) :
    rest ∈ closure step fuel text ↔ ∃ found ∈ KStar.kstar language, text = found ++ rest := by
  induction fuel generalizing text with
  | zero =>
    have nothing : text = [] := List.eq_nil_of_length_eq_zero (Nat.le_zero.mp enough)
    rw [closure, List.mem_singleton, nothing]
    constructor
    · intro same
      exact ⟨[], Language.nil_mem_kstar _, same.symm⟩
    · rintro ⟨found, _, split⟩
      exact (List.append_eq_nil_iff.mp split.symm).2
  | succ fuel ih =>
    simp only [closure, List.mem_cons, List.mem_flatMap, List.mem_filter, decide_eq_true_eq, exact]
    constructor
    · intro member
      rcases member with same | ⟨between, ⟨⟨first, inside, split⟩, shorter⟩, later⟩
      · exact ⟨[], Language.nil_mem_kstar _, same.symm⟩
      · have covered : between.length ≤ fuel := by omega
        obtain ⟨found, repeated, rfl⟩ := (ih covered).mp later
        refine ⟨first ++ found, ?_, by rw [split, List.append_assoc]⟩
        obtain ⟨pieces, rfl, each⟩ := Language.mem_kstar.mp repeated
        exact Language.mem_kstar.mpr ⟨first :: pieces, rfl,
          List.forall_mem_cons.mpr ⟨inside, each⟩⟩
    · rintro ⟨found, repeated, split⟩
      obtain ⟨pieces, rfl, each⟩ := Language.mem_kstar_iff_exists_nonempty.mp repeated
      cases pieces with
      | nil => exact Or.inl split.symm
      | cons first pieces =>
        -- The first piece is not empty, so what is left of the list is shorter.
        obtain ⟨inside, filled⟩ := each first List.mem_cons_self
        have positive : 0 < first.length := List.length_pos_iff.mpr filled
        have cut : text = first ++ (pieces.flatten ++ rest) := by
          rw [split, List.flatten_cons, List.append_assoc]
        have lengths : text.length = first.length + (pieces.flatten ++ rest).length := by
          rw [cut, List.length_append]
        refine Or.inr ⟨pieces.flatten ++ rest, ⟨⟨first, inside, cut⟩, by omega⟩, ?_⟩
        apply (ih (by omega)).mpr
        refine ⟨pieces.flatten, Language.mem_kstar.mpr ⟨pieces, rfl, ?_⟩, rfl⟩
        exact fun piece member => (each piece (List.mem_cons_of_mem _ member)).1

/-- The remainders are those behind the beginnings in the language. -/
theorem mem_rests (regex : Regex α) (text rest : List α) :
    rest ∈ regex.rests text ↔ ∃ found ∈ regex.language, text = found ++ rest := by
  induction regex generalizing text rest with
  | empty =>
    simp only [rests, List.mem_singleton, language]
    constructor
    · intro same
      exact ⟨[], Language.nil_mem_one, same.symm⟩
    · rintro ⟨found, inside, split⟩
      rw [split, (Language.mem_one found).mp inside, List.nil_append]
  | one accepts =>
    cases text with
    | nil =>
      simp only [rests, List.not_mem_nil, false_iff]
      rintro ⟨found, ⟨item, _, single⟩, split⟩
      rw [single] at split
      cases split
    | cons head tail =>
      constructor
      · intro member
        rw [rests] at member
        split_ifs at member with accepted
        · exact ⟨[head], ⟨head, accepted, rfl⟩, by rw [List.mem_singleton.mp member]; rfl⟩
        · exact absurd member List.not_mem_nil
      · rintro ⟨found, ⟨item, accepted, single⟩, split⟩
        rw [single] at split
        obtain ⟨rfl, rfl⟩ := List.cons.inj split
        rw [rests, if_pos accepted]
        exact List.mem_singleton_self _
  | seq first second firstIh secondIh =>
    simp only [rests, List.mem_flatMap, firstIh, secondIh, language, Language.mem_mul]
    constructor
    · rintro ⟨between, ⟨left, inLeft, split⟩, right, inRight, cut⟩
      exact ⟨left ++ right, ⟨left, inLeft, right, inRight, rfl⟩, by
        rw [split, cut, List.append_assoc]⟩
    · rintro ⟨found, ⟨left, inLeft, right, inRight, same⟩, split⟩
      exact ⟨right ++ rest, ⟨left, inLeft, by rw [split, ← same, List.append_assoc]⟩, right,
        inRight, rfl⟩
  | either first second firstIh secondIh =>
    simp only [rests, List.mem_append, firstIh, secondIh, language, Language.mem_add]
    constructor
    · intro member
      rcases member with ⟨found, inside, split⟩ | ⟨found, inside, split⟩
      · exact ⟨found, Or.inl inside, split⟩
      · exact ⟨found, Or.inr inside, split⟩
    · rintro ⟨found, inside, split⟩
      exact inside.imp (fun left => ⟨found, left, split⟩) fun right => ⟨found, right, split⟩
  | many inner ih => exact mem_closure ih le_rfl rest

/-- The search finds exactly the lists with a part in the language. -/
theorem search_iff (regex : Regex α) (text : List α) : regex.search text = true ↔
    ∃ before after, ∃ found ∈ regex.language, text = before ++ (found ++ after) := by
  simp only [search, List.any_eq_true, List.mem_tails, Bool.not_eq_true',
    List.isEmpty_eq_false_iff_exists_mem, mem_rests]
  constructor
  · rintro ⟨suffix, ⟨before, split⟩, rest, found, inside, cut⟩
    exact ⟨before, rest, found, inside, by rw [← split, cut]⟩
  · rintro ⟨before, after, found, inside, split⟩
    exact ⟨found ++ after, ⟨before, split.symm⟩, after, found, inside, rfl⟩

/-- A list around one that is found is found. -/
theorem search_append {regex : Regex α} {text : List α} (found : regex.search text = true)
    (before after : List α) : regex.search (before ++ (text ++ after)) = true := by
  obtain ⟨first, last, part, inside, split⟩ := (search_iff regex text).mp found
  apply (search_iff regex _).mpr
  exact ⟨before ++ first, last ++ after, part, inside, by simp [split, List.append_assoc]⟩

end Regex

end DTLab.Library
