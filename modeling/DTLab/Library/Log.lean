import Mathlib.Data.List.Induction

/-!
# Logs

Facts about lists that grow at their end: where an entry of a grown log can stand, and when a log
that was sorted stays so.
-/

namespace DTLab.Library.Log

variable {α : Type*}

/-- An entry of a log that grew by one is the new one, or it was there. -/
theorem split_concat {log past rest : List α} {last entry : α}
    (same : log ++ [last] = past ++ entry :: rest) :
    (past = log ∧ entry = last ∧ rest = []) ∨
      ∃ before, rest = before ++ [last] ∧ log = past ++ entry :: before := by
  induction rest using List.reverseRecOn with
  | nil =>
    obtain ⟨pasts, entries⟩ := List.append_inj' same rfl
    exact Or.inl ⟨pasts.symm, (List.singleton_inj.mp entries).symm, rfl⟩
  | append_singleton before final _ =>
    have regrouped : log ++ [last] = (past ++ entry :: before) ++ [final] := by
      rw [same, List.append_assoc, List.cons_append]
    obtain ⟨logs, finals⟩ := List.append_inj' regrouped rfl
    obtain rfl := List.singleton_inj.mp finals
    exact Or.inr ⟨before, rfl, logs⟩

/-- A sorted log stays sorted when sorted entries come behind its last one. -/
theorem pairwise_append_last {relation : α → α → Prop} (trans : ∀ a b c, relation a b →
    relation b c → relation a c) {log added : List α} (sorted : log.Pairwise relation)
    (ordered : added.Pairwise relation)
    (behind : ∀ final ∈ log.getLast?, ∀ entry ∈ added, relation final entry) :
    (log ++ added).Pairwise relation := by
  rw [List.pairwise_append]
  refine ⟨sorted, ordered, ?_⟩
  intro entry member next inside
  induction log using List.reverseRecOn with
  | nil => cases member
  | append_singleton before final _ =>
    have step : relation final next := behind final (by simp) next inside
    rcases List.mem_append.mp member with early | same
    · have earlier := (List.pairwise_append.mp sorted).2.2 entry early final
        (List.mem_singleton.mpr rfl)
      exact trans entry final next earlier step
    · rw [List.mem_singleton.mp same]
      exact step

end DTLab.Library.Log
