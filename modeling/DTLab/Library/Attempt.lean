import Mathlib.Data.List.Basic

/-!
# Computations that may fail

Inversion of a sequence of computations that returned, and the rule of a loop whose body may
fail: what every round that returns keeps holds behind the loop.
-/

namespace DTLab.Library.Attempt

universe u

variable {ε ι σ : Type*} {α β : Type u}

/-- A sequence returns when both of its parts do. -/
theorem bind_eq_ok {first : Except ε α} {next : α → Except ε β} {result : β} :
    (first >>= next) = .ok result ↔ ∃ value, first = .ok value ∧ next value = .ok result := by
  cases first with
  | error fault =>
    constructor
    · intro impossible
      cases impossible
    · rintro ⟨value, impossible, _⟩
      cases impossible
  | ok value =>
    constructor
    · intro returned
      exact ⟨value, rfl, returned⟩
    · rintro ⟨value', same, returned⟩
      cases same
      exact returned

/-- A mapped computation returns when the computation does. -/
theorem map_eq_ok {first : Except ε α} {f : α → β} {result : β} :
    first.map f = .ok result ↔ ∃ value, first = .ok value ∧ f value = result := by
  cases first with
  | error fault => simp [Except.map]
  | ok value => simp [Except.map]

/-- What a mapped list holds was computed from one of the items. -/
theorem exists_of_mem_mapM {f : ι → Except ε α} {items : List ι} {results : List α}
    (returned : items.mapM f = .ok results) {result : α} (member : result ∈ results) :
    ∃ item ∈ items, f item = .ok result := by
  induction items generalizing results with
  | nil =>
    obtain rfl := Except.ok.inj returned
    cases member
  | cons item items ih =>
    rw [List.mapM_cons, bind_eq_ok] at returned
    obtain ⟨first, computed, rest⟩ := returned
    rw [bind_eq_ok] at rest
    obtain ⟨others, mapped, same⟩ := rest
    obtain rfl := Except.ok.inj same
    rcases List.mem_cons.mp member with rfl | inside
    · exact ⟨item, List.mem_cons_self, computed⟩
    · obtain ⟨other, present, found⟩ := ih mapped inside
      exact ⟨other, List.mem_cons_of_mem item present, found⟩

/-- What was computed from an item is in the mapped list. -/
theorem exists_mem_of_mapM {f : ι → Except ε α} {items : List ι} {results : List α}
    (returned : items.mapM f = .ok results) {item : ι} (member : item ∈ items) :
    ∃ result ∈ results, f item = .ok result := by
  induction items generalizing results with
  | nil => cases member
  | cons first items ih =>
    rw [List.mapM_cons, bind_eq_ok] at returned
    obtain ⟨computed, found, rest⟩ := returned
    rw [bind_eq_ok] at rest
    obtain ⟨others, mapped, same⟩ := rest
    rw [← Except.ok.inj same]
    rcases List.mem_cons.mp member with head | later
    · rw [head]
      exact ⟨computed, List.mem_cons_self, found⟩
    · obtain ⟨result, inside, also⟩ := ih mapped later
      exact ⟨result, List.mem_cons_of_mem computed inside, also⟩

/-- What the results of a mapped list have in common with the items. -/
theorem map_of_mapM {γ : Type*} {f : ι → Except ε α} {ofResult : α → γ} {ofItem : ι → γ}
    {items : List ι}
    (agrees : ∀ item ∈ items, ∀ result, f item = .ok result → ofResult result = ofItem item)
    {results : List α} (returned : items.mapM f = .ok results) :
    results.map ofResult = items.map ofItem := by
  induction items generalizing results with
  | nil =>
    rw [← Except.ok.inj returned]
    rfl
  | cons item items ih =>
    rw [List.mapM_cons, bind_eq_ok] at returned
    obtain ⟨computed, found, rest⟩ := returned
    rw [bind_eq_ok] at rest
    obtain ⟨others, mapped, same⟩ := rest
    have later := ih (fun other member => agrees other (List.mem_cons_of_mem item member)) mapped
    rw [← Except.ok.inj same, List.map_cons, List.map_cons,
      agrees item List.mem_cons_self computed found, later]

/-- Steps that agree on the items of a list agree on the list. -/
theorem mapM_congr {f g : ι → Except ε α} {items : List ι}
    (same : ∀ item ∈ items, f item = g item) : items.mapM f = items.mapM g := by
  induction items with
  | nil => rfl
  | cons item items ih =>
    have rest := ih fun other member => same other (List.mem_cons_of_mem item member)
    rw [List.mapM_cons, List.mapM_cons, same item List.mem_cons_self, rest]

/-- A list of items that are their own results is its own result. -/
theorem mapM_self {α : Type u} {f : α → Except ε α} {items : List α}
    (fixed : ∀ item ∈ items, f item = .ok item) : items.mapM f = .ok items := by
  induction items with
  | nil => rfl
  | cons item items ih =>
    have rest := ih fun other member => fixed other (List.mem_cons_of_mem item member)
    rw [List.mapM_cons, fixed item List.mem_cons_self, rest]
    rfl

/-- A list is mapped where each of its items is. -/
theorem exists_mapM {f : ι → Except ε α} {items : List ι}
    (each : ∀ item ∈ items, ∃ result, f item = .ok result) :
    ∃ results, items.mapM f = .ok results := by
  induction items with
  | nil => exact ⟨[], rfl⟩
  | cons item items ih =>
    obtain ⟨result, first⟩ := each item List.mem_cons_self
    obtain ⟨results, rest⟩ := ih fun other member => each other (List.mem_cons_of_mem item member)
    refine ⟨result :: results, ?_⟩
    rw [List.mapM_cons, first, rest]
    rfl

/-- A loop returns where each of its rounds does and keeps what the next one needs. -/
theorem exists_foldlM {step : σ → ι → Except ε σ} {motive : σ → Prop} {items : List ι}
    (round : ∀ state, ∀ item ∈ items, motive state → ∃ next, step state item = .ok next ∧
      motive next)
    {state : σ} (initial : motive state) :
    ∃ final, items.foldlM step state = .ok final ∧ motive final := by
  induction items generalizing state with
  | nil => exact ⟨state, rfl, initial⟩
  | cons item items ih =>
    obtain ⟨next, taken, kept⟩ := round state item List.mem_cons_self initial
    obtain ⟨final, rest, holds⟩ := ih
      (fun state other member => round state other (List.mem_cons_of_mem item member)) kept
    refine ⟨final, ?_, holds⟩
    rw [List.foldlM_cons, taken]
    exact rest

/-- What every round of a loop keeps holds behind the loop. -/
theorem foldlM_keeps {step : σ → ι → Except ε σ} {motive : σ → Prop} {items : List ι}
    (keeps : ∀ state item next, item ∈ items → motive state → step state item = .ok next →
      motive next)
    {state final : σ} (initial : motive state)
    (returned : items.foldlM step state = .ok final) : motive final := by
  induction items generalizing state with
  | nil =>
    obtain rfl := Except.ok.inj returned
    exact initial
  | cons item items ih =>
    rw [List.foldlM_cons, bind_eq_ok] at returned
    obtain ⟨next, taken, rest⟩ := returned
    have inside : ∀ state other next, other ∈ items → motive state →
        step state other = .ok next → motive next := fun state other next member =>
      keeps state other next (List.mem_cons_of_mem item member)
    exact ih inside (keeps state item next List.mem_cons_self initial taken) rest

/-- What a round of a loop makes of its item, and the other rounds keep, holds of every item behind
the loop. -/
theorem foldlM_each {step : σ → ι → Except ε σ} (property : ι → σ → Prop)
    (makes : ∀ state item next, step state item = .ok next → property item next)
    (keeps : ∀ state item next, step state item = .ok next →
      ∀ other, property other state → property other next)
    {items : List ι} {state final : σ} (returned : items.foldlM step state = .ok final) :
    ∀ item ∈ items, property item final := by
  induction items generalizing state with
  | nil => exact nofun
  | cons item items ih =>
    rw [List.foldlM_cons, bind_eq_ok] at returned
    obtain ⟨next, taken, rest⟩ := returned
    have first : property item final :=
      foldlM_keeps (fun before other after _ holds done => keeps before other after done item holds)
        (makes state item next taken) rest
    exact List.forall_mem_cons.mpr ⟨first, ih rest⟩

end DTLab.Library.Attempt
