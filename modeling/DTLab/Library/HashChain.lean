import Mathlib.Data.List.Infix

/-!
# Hash chains

A chain starts at a hash and every entry leads from the hash before it to the next one. The
tip of a list of entries is the hash behind its last entry. With a link that loses nothing and
a start that no entry leads back to, entries that continue the chain one after the other are a
contiguous run of it, wherever each of them was taken from.
-/

namespace DTLab.Library.HashChain

variable {α η : Type*}

/-- The hash behind the last of a list of entries. -/
def tip (link : η → α → η) (start : η) (entries : List α) : η := entries.foldl link start

variable {link : η → α → η} {start : η}

/-- The tip of no entries is the start. -/
@[simp] theorem tip_nil : tip link start [] = start := rfl

/-- The tip goes on from the first entry. -/
@[simp] theorem tip_cons (entry : α) (entries : List α) :
    tip link start (entry :: entries) = tip link (link start entry) entries := rfl

/-- The tip of two chains is that of the second behind the first. -/
theorem tip_append (first second : List α) :
    tip link start (first ++ second) = tip link (tip link start first) second := by
  simp [tip]

/-- The last entry makes the tip. -/
theorem tip_concat (entries : List α) (entry : α) :
    tip link start (entries ++ [entry]) = link (tip link start entries) entry := by
  simp [tip]

/-- A link from which the hash before and the entry can be told. -/
def Lossless (link : η → α → η) : Prop :=
  ∀ before before' entry entry', link before entry = link before' entry' →
    before = before' ∧ entry = entry'

/-- No entry of a history leads back to the start. -/
def Departs (link : η → α → η) (start : η) (history : List α) : Prop :=
  ∀ before, before <+: history → before ≠ [] → tip link start before ≠ start

/-- Two beginnings of a history with one tip are the same. -/
theorem eq_of_tip_eq (lossless : Lossless link) {history left right : List α}
    (departs : Departs link start history) (leftIn : left <+: history)
    (rightIn : right <+: history) (same : tip link start left = tip link start right) :
    left = right := by
  induction left using List.reverseRecOn generalizing right with
  | nil =>
    by_contra other
    exact departs right rightIn (Ne.symm other) same.symm
  | append_singleton left entry ih =>
    cases right using List.reverseRecOn with
    | nil => exact absurd same (departs _ leftIn (by simp))
    | append_singleton right entry' =>
      rw [tip_concat, tip_concat] at same
      obtain ⟨before, rfl⟩ := lossless _ _ _ _ same
      have leftPart := (List.prefix_append left [entry]).trans leftIn
      have rightPart := (List.prefix_append right [entry]).trans rightIn
      rw [ih leftPart rightPart before]

/-- Each entry of a list stands in the history behind the hash that the entries before it in
the list lead to. -/
def Linked (link : η → α → η) (start : η) (history : List α) : η → List α → Prop
  | _, [] => True
  | hash, entry :: entries =>
    (∃ before, before ++ [entry] <+: history ∧ tip link start before = hash) ∧
      Linked link start history (link hash entry) entries

/-- Linked entries behind a hash of the history continue it without a gap. -/
theorem contiguous_of_linked (lossless : Lossless link) {history : List α}
    (departs : Departs link start history) {before entries : List α}
    (inside : before <+: history)
    (linked : Linked link start history (tip link start before) entries) :
    before ++ entries <+: history := by
  induction entries generalizing before with
  | nil => simpa using inside
  | cons entry entries ih =>
    obtain ⟨⟨found, extended, same⟩, rest⟩ := linked
    have foundIn : found <+: history := (List.prefix_append found [entry]).trans extended
    have position : found = before := eq_of_tip_eq lossless departs foundIn inside same
    subst position
    have longer := ih extended (by rwa [tip_concat])
    simpa using longer

end DTLab.Library.HashChain
