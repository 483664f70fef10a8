import Mathlib.Data.List.Nodup

/-!
# Tables with a key

A table is a list of rows in the order of their insertion, and one column of it is the key.
`row?` selects the row of a key and `update` applies a function to it, which leaves every other
row as it was. `Keyed` says that no two rows have one key; inserting a row with a new key and
updating rows without touching their keys keep it.
-/

namespace DTLab.Library.Table

variable {ρ κ : Type*} [DecidableEq κ] (key : ρ → κ)

/-- The row of a key. -/
def row? (rows : List ρ) (k : κ) : Option ρ := rows.find? fun row => decide (key row = k)

/-- Apply a function to the row of a key. -/
def update (k : κ) (f : ρ → ρ) (rows : List ρ) : List ρ :=
  rows.map fun row => if key row = k then f row else row

/-- No two rows have one key. -/
def Keyed (rows : List ρ) : Prop := (rows.map key).Nodup

variable {key} {rows : List ρ} {k other : κ} {row : ρ}

/-! ## Selecting -/

/-- A selected row is in the table. -/
theorem mem_of_row? (found : row? key rows k = some row) : row ∈ rows :=
  List.mem_of_find?_eq_some found

/-- A selected row has the key it was selected by. -/
theorem key_of_row? (found : row? key rows k = some row) : key row = k := by
  have holds := List.find?_some found
  exact of_decide_eq_true holds

/-- No row is selected exactly when no row has the key. -/
theorem row?_eq_none : row? key rows k = none ↔ ∀ row ∈ rows, key row ≠ k := by
  simp only [row?, List.find?_eq_none, decide_eq_true_eq, ne_eq]

/-- With distinct keys every row is the one that its key selects. -/
theorem row?_of_mem (keyed : Keyed key rows) (member : row ∈ rows) :
    row? key rows (key row) = some row := by
  cases found : row? key rows (key row) with
  | none => exact absurd rfl (row?_eq_none.mp found row member)
  | some selected =>
    have same : key selected = key row := key_of_row? found
    have equal : selected = row :=
      List.inj_on_of_nodup_map keyed (mem_of_row? found) member same
    rw [equal]

/-- With distinct keys no more than one row has a key. -/
theorem Keyed.filter_key (keyed : Keyed key rows) (k : κ) :
    (rows.filter fun row => decide (key row = k)) = (row? key rows k).toList := by
  induction rows with
  | nil => rfl
  | cons row rows ih =>
    have distinct := List.nodup_cons.mp keyed
    rw [row?, List.filter_cons, List.find?_cons]
    by_cases same : key row = k
    · have others : (rows.filter fun row => decide (key row = k)) = [] := by
        rw [List.filter_eq_nil_iff]
        intro other member found
        have repeated := List.mem_map_of_mem (f := key) member
        rw [of_decide_eq_true found, ← same] at repeated
        exact distinct.1 repeated
      rw [if_pos (decide_eq_true same), others, decide_eq_true same]
      rfl
    · rw [if_neg (by simpa using same), decide_eq_false same]
      exact ih distinct.2

/-! ## Inserting -/

/-- The row of a key behind an inserted row. -/
theorem row?_append (rows : List ρ) (row : ρ) (k : κ) :
    row? key (rows ++ [row]) k =
      (row? key rows k).or (if key row = k then some row else none) := by
  rw [row?, row?, List.find?_append]
  by_cases same : key row = k <;> simp [same]

/-- An inserted row with another key changes no selection. -/
theorem row?_append_ne (rows : List ρ) (different : key row ≠ k) :
    row? key (rows ++ [row]) k = row? key rows k := by
  rw [row?_append, if_neg different, Option.or_none]

/-- An inserted row is selected by its key when the key is new. -/
theorem row?_append_new (fresh : row? key rows (key row) = none) :
    row? key (rows ++ [row]) (key row) = some row := by
  rw [row?_append, fresh, if_pos rfl, Option.none_or]

/-- An inserted row leaves the rows that could be selected before. -/
theorem row?_append_of_some {found : ρ} (row : ρ) (before : row? key rows k = some found) :
    row? key (rows ++ [row]) k = some found := by
  rw [row?_append, before, Option.some_or]

/-- Inserting a row with a new key keeps the keys distinct. -/
theorem Keyed.append (keyed : Keyed key rows) (fresh : row? key rows (key row) = none) :
    Keyed key (rows ++ [row]) := by
  have absent : key row ∉ rows.map key := by
    intro member
    obtain ⟨present, inside, same⟩ := List.mem_map.mp member
    exact row?_eq_none.mp fresh present inside same
  rw [Keyed, List.map_append, List.map_singleton]
  exact List.Nodup.append keyed (List.nodup_singleton _) (List.disjoint_singleton.mpr absent)

/-! ## Updating -/

variable {f : ρ → ρ}

/-- An update that keeps a column keeps the list of its values. -/
theorem map_update {γ : Type*} {column : ρ → γ} (keeps : ∀ row, column (f row) = column row)
    (k : κ) (rows : List ρ) : (update key k f rows).map column = rows.map column := by
  rw [update, List.map_map]
  apply List.map_congr_left
  intro row _
  by_cases same : key row = k <;> simp [same, keeps]

/-- A column stays a key when the updates keep it. -/
theorem Keyed.update {γ : Type*} {column : ρ → γ} (keyed : Keyed column rows) (f : ρ → ρ)
    (keeps : ∀ row, column (f row) = column row) (k : κ) :
    Keyed column (update key k f rows) := by
  rw [Keyed, map_update keeps]
  exact keyed

/-- The row of the updated key. -/
theorem row?_update_self (keeps : ∀ row, key (f row) = key row) (rows : List ρ) (k : κ) :
    row? key (update key k f rows) k = (row? key rows k).map f := by
  induction rows with
  | nil => rfl
  | cons row rows ih =>
    simp only [row?, update, List.map_cons, List.find?_cons] at ih ⊢
    by_cases same : key row = k
    · simp [same, keeps]
    · simp only [same, ite_false, decide_false]
      exact ih

/-- An update leaves the rows of the other keys. -/
theorem row?_update_ne (keeps : ∀ row, key (f row) = key row) (rows : List ρ)
    (different : other ≠ k) :
    row? key (update key k f rows) other = row? key rows other := by
  induction rows with
  | nil => rfl
  | cons row rows ih =>
    simp only [row?, update, List.map_cons, List.find?_cons] at ih ⊢
    by_cases same : key row = k
    · have apart : k ≠ other := Ne.symm different
      simp only [same, if_true, keeps, apart, decide_false]
      exact ih
    · by_cases found : key row = other
      · simp [found, different]
      · simp only [same, if_false, found, decide_false]
        exact ih

/-- An update of a key leaves the lookup of another column, where no row of the key has the value
looked for. -/
theorem row?_update_apart {γ : Type*} [DecidableEq γ] {column : ρ → γ} {value : γ}
    (keeps : ∀ row, column (f row) = column row)
    (apart : ∀ row ∈ rows, key row = k → column row ≠ value) :
    row? column (update key k f rows) value = row? column rows value := by
  induction rows with
  | nil => rfl
  | cons row rows ih =>
    have rest := ih fun other member => apart other (List.mem_cons_of_mem row member)
    simp only [row?, update, List.map_cons, List.find?_cons] at rest ⊢
    by_cases same : key row = k
    · have different := apart row List.mem_cons_self same
      simp only [same, if_true, keeps, different, decide_false]
      exact rest
    · simp only [same, if_false]
      rw [rest]

/-- The rows after an update. -/
theorem mem_update : row ∈ update key k f rows ↔
    (row ∈ rows ∧ key row ≠ k) ∨ ∃ before ∈ rows, key before = k ∧ f before = row := by
  rw [update, List.mem_map]
  constructor
  · rintro ⟨before, member, rfl⟩
    by_cases same : key before = k
    · rw [if_pos same]
      exact Or.inr ⟨before, member, same, rfl⟩
    · rw [if_neg same]
      exact Or.inl ⟨member, same⟩
  · rintro (⟨member, different⟩ | ⟨before, member, same, rfl⟩)
    · exact ⟨row, member, if_neg different⟩
    · exact ⟨before, member, if_pos same⟩

/-- Two updates of one key are one update. -/
theorem update_update {g : ρ → ρ} (keeps : ∀ row, key (f row) = key row) (k : κ)
    (rows : List ρ) : update key k g (update key k f rows) = update key k (g ∘ f) rows := by
  rw [update, update, update, List.map_map]
  apply List.map_congr_left
  intro row _
  by_cases same : key row = k <;> simp [same, keeps]

end DTLab.Library.Table
