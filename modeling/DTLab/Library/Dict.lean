import Mathlib.Data.List.Nodup
import Mathlib.Data.Finset.Card
import Mathlib.Data.Finset.Dedup
import Mathlib.Algebra.BigOperators.Group.List.Basic

/-!
# Dictionaries in insertion order

A dictionary is a list of entries with distinct keys. Setting a present key changes its value
in place; setting an absent key appends an entry. The entries are listed in that order.
-/

namespace DTLab.Library

/-- A dictionary: entries in insertion order, no key twice. -/
structure Dict (κ ν : Type) where
  /-- The entries in insertion order. -/
  entries : List (κ × ν)
  /-- No key occurs twice. -/
  distinct : (entries.map Prod.fst).Nodup

namespace Dict

variable {κ ν : Type}

/-- The dictionary without entries. -/
def empty : Dict κ ν := ⟨[], List.nodup_nil⟩

/-- The empty dictionary. -/
instance : Inhabited (Dict κ ν) := ⟨empty⟩

/-- The keys in insertion order. -/
def keys (d : Dict κ ν) : List κ := d.entries.map Prod.fst

/-- The values in insertion order. -/
def values (d : Dict κ ν) : List ν := d.entries.map Prod.snd

/-- The number of entries. -/
def size (d : Dict κ ν) : Nat := d.entries.length

/-- Keep the entries that satisfy a predicate. -/
def filter (keep : κ × ν → Bool) (d : Dict κ ν) : Dict κ ν :=
  ⟨d.entries.filter keep, d.distinct.sublist (List.filter_sublist.map Prod.fst)⟩

/-- Dictionaries with the same entries are equal. -/
theorem ext_entries {left right : Dict κ ν} (same : left.entries = right.entries) :
    left = right := by
  cases left
  cases right
  simp only at same
  subst same
  rfl

/-- Apply a function to every value. -/
def mapValues {μ : Type} (f : ν → μ) (d : Dict κ ν) : Dict κ μ where
  entries := d.entries.map fun entry => (entry.1, f entry.2)
  distinct := by
    rw [List.map_map]
    exact d.distinct

/-- There are no values to map in the empty dictionary. -/
@[simp] theorem mapValues_empty {μ : Type} (f : ν → μ) :
    (empty : Dict κ ν).mapValues f = empty := rfl

/-- Filtering mapped values is mapping the filtered ones. -/
theorem filter_mapValues {μ : Type} (f : ν → μ) (keep : κ × μ → Bool) (d : Dict κ ν) :
    (d.mapValues f).filter keep = (d.filter fun entry => keep (entry.1, f entry.2)).mapValues f :=
  ext_entries List.filter_map

/-- The empty dictionary has no entries. -/
@[simp] theorem entries_empty : (empty : Dict κ ν).entries = [] := rfl

/-- The entries of a filtered dictionary are those that are kept. -/
@[simp] theorem mem_filter (keep : κ × ν → Bool) (d : Dict κ ν) (entry : κ × ν) :
    entry ∈ (d.filter keep).entries ↔ entry ∈ d.entries ∧ keep entry = true := by
  simp [filter]

variable [DecidableEq κ]

/-- The value of a key. -/
def get? (d : Dict κ ν) (key : κ) : Option ν :=
  (d.entries.find? fun entry => decide (entry.1 = key)).map Prod.snd

/-- A key has a value exactly when the two form an entry. -/
theorem get?_eq_some {d : Dict κ ν} {key : κ} {value : ν} :
    d.get? key = some value ↔ (key, value) ∈ d.entries := by
  obtain ⟨entries, distinct⟩ := d
  simp only [get?]
  induction entries with
  | nil => simp
  | cons entry entries ih =>
    obtain ⟨k, v⟩ := entry
    simp only [List.map_cons, List.nodup_cons] at distinct
    by_cases same : k = key
    · subst same
      have later : (k, value) ∉ entries := fun member =>
        distinct.1 (List.mem_map.mpr ⟨_, member, rfl⟩)
      simp [later, eq_comm]
    · simp only [List.find?_cons, same, decide_false, List.mem_cons, Prod.mk.injEq,
        Ne.symm same, false_and, false_or]
      exact ih distinct.2

/-- A key has no value exactly when it is not among the keys. -/
theorem get?_eq_none {d : Dict κ ν} {key : κ} : d.get? key = none ↔ key ∉ d.keys := by
  simp only [get?, Option.map_eq_none_iff, List.find?_eq_none, decide_eq_true_eq, keys,
    List.mem_map, not_exists, not_and]

/-- A dictionary has as many keys as entries. -/
theorem card_keys (d : Dict κ ν) : d.keys.toFinset.card = d.size :=
  (List.toFinset_card_of_nodup d.distinct).trans (List.length_map _)

/-- The value of a key after a function was applied to every value. -/
@[simp] theorem get?_mapValues {μ : Type} (f : ν → μ) (d : Dict κ ν) (key : κ) :
    (d.mapValues f).get? key = (d.get? key).map f := by
  simp only [get?, mapValues, List.find?_map, Option.map_map]
  rfl

/-- The value of a key has the key among the keys. -/
theorem mem_keys_of_get? {d : Dict κ ν} {key : κ} {value : ν} (found : d.get? key = some value) :
    key ∈ d.keys := List.mem_map.mpr ⟨_, get?_eq_some.mp found, rfl⟩

/-- The entries after setting a key. -/
def setEntries (key : κ) (value : ν) (entries : List (κ × ν)) : List (κ × ν) :=
  if key ∈ entries.map Prod.fst then
    entries.map fun entry => if entry.1 = key then (key, value) else entry
  else entries ++ [(key, value)]

/-- Setting a present key keeps the list of keys; setting an absent one appends it. -/
theorem keys_setEntries (key : κ) (value : ν) (entries : List (κ × ν)) :
    (setEntries key value entries).map Prod.fst =
      if key ∈ entries.map Prod.fst then entries.map Prod.fst
      else entries.map Prod.fst ++ [key] := by
  unfold setEntries
  split_ifs with present
  · rw [List.map_map]
    apply List.map_congr_left
    intro entry _
    by_cases same : entry.1 = key <;> simp [same]
  · simp

/-- Set a key to a value. -/
def set (d : Dict κ ν) (key : κ) (value : ν) : Dict κ ν where
  entries := setEntries key value d.entries
  distinct := by
    rw [keys_setEntries]
    split_ifs with present
    · exact d.distinct
    · exact List.nodup_append.mpr ⟨d.distinct, List.nodup_singleton _,
        fun k member k' single => by
          rw [List.mem_singleton.mp single]
          exact fun same => present (same ▸ member)⟩

/-- Setting a key among mapped values is mapping after setting it. -/
theorem set_mapValues {μ : Type} (f : ν → μ) (d : Dict κ ν) (key : κ) (value : ν) :
    (d.mapValues f).set key (f value) = (d.set key value).mapValues f := by
  apply ext_entries
  simp only [set, mapValues, setEntries, List.map_map, Function.comp_def]
  split_ifs with present
  · simp only [List.map_map, Function.comp_def]
    apply List.map_congr_left
    intro entry _
    split_ifs <;> rfl
  · simp

/-- Setting a key gives it the value and leaves the others. -/
theorem mem_set {d : Dict κ ν} {key : κ} {value : ν} {entry : κ × ν} :
    entry ∈ (d.set key value).entries ↔
      entry = (key, value) ∨ entry ∈ d.entries ∧ entry.1 ≠ key := by
  simp only [set, setEntries]
  split_ifs with present
  · simp only [List.mem_map]
    constructor
    · rintro ⟨old, member, shown⟩
      by_cases same : old.1 = key
      · rw [if_pos same] at shown
        exact Or.inl shown.symm
      · rw [if_neg same] at shown
        subst shown
        exact Or.inr ⟨member, same⟩
    · rintro (rfl | ⟨member, other⟩)
      · obtain ⟨old, member, same⟩ := List.mem_map.mp present
        exact ⟨old, member, if_pos same⟩
      · exact ⟨entry, member, if_neg other⟩
  · simp only [List.mem_append, List.mem_singleton]
    constructor
    · rintro (member | rfl)
      · refine Or.inr ⟨member, fun same => present ?_⟩
        exact List.mem_map.mpr ⟨entry, member, same⟩
      · exact Or.inl rfl
    · rintro (rfl | ⟨member, _⟩)
      · exact Or.inr rfl
      · exact Or.inl member

/-- What is found behind an assignment. -/
@[simp] theorem get?_set (d : Dict κ ν) (key : κ) (value : ν) (k : κ) :
    (d.set key value).get? k = if k = key then some value else d.get? k := by
  split_ifs with same
  · subst same
    exact get?_eq_some.mpr (mem_set.mpr (Or.inl rfl))
  · cases found : d.get? k with
    | none =>
      rw [get?_eq_none] at found ⊢
      intro member
      obtain ⟨entry, inside, rfl⟩ := List.mem_map.mp member
      rcases mem_set.mp inside with rfl | ⟨old, _⟩
      · exact same rfl
      · exact found (List.mem_map.mpr ⟨entry, old, rfl⟩)
    | some v =>
      exact get?_eq_some.mpr (mem_set.mpr (Or.inr ⟨get?_eq_some.mp found, same⟩))

/-- The keys after setting one. -/
theorem keys_set (d : Dict κ ν) (key : κ) (value : ν) :
    (d.set key value).keys = if key ∈ d.keys then d.keys else d.keys ++ [key] :=
  keys_setEntries key value d.entries

/-- The keys behind an assignment. -/
theorem mem_keys_set {d : Dict κ ν} {key : κ} {value : ν} {k : κ} :
    k ∈ (d.set key value).keys ↔ k = key ∨ k ∈ d.keys := by
  rw [keys_set]
  split_ifs with present
  · exact ⟨Or.inr, fun either => either.elim (fun same => same ▸ present) id⟩
  · rw [List.mem_append, List.mem_singleton, or_comm]

/-- The number of entries after setting a key. -/
theorem size_set (d : Dict κ ν) (key : κ) (value : ν) :
    (d.set key value).size = if key ∈ d.keys then d.size else d.size + 1 := by
  have lengths := congrArg List.length (keys_set d key value)
  split_ifs at lengths ⊢ with present
  · simpa [keys, size] using lengths
  · simpa [keys, size] using lengths

/-- Setting an absent key appends its value. -/
theorem values_append_of_absent {d : Dict κ ν} {key : κ} (value : ν)
    (absent : d.get? key = none) : (d.set key value).values = d.values ++ [value] := by
  have missing : key ∉ d.entries.map Prod.fst := get?_eq_none.mp absent
  simp only [values, set, setEntries, missing, ↓reduceIte, List.map_append, List.map_cons,
    List.map_nil]

/-- Setting an absent key adds its value. -/
theorem values_set_absent {d : Dict κ ν} {key : κ} (value : ν) (absent : d.get? key = none) :
    (d.set key value).values.Perm (value :: d.values) := by
  rw [values_append_of_absent value absent]
  exact List.perm_append_singleton value _

/-- Setting a present key replaces its value and leaves the others. -/
theorem values_set_present {d : Dict κ ν} {key : κ} {old : ν} (present : d.get? key = some old) :
    ∃ others, d.values.Perm (old :: others) ∧
      ∀ value, (d.set key value).values.Perm (value :: others) := by
  have member : key ∈ d.entries.map Prod.fst := mem_keys_of_get? present
  obtain ⟨before, after, split⟩ := List.append_of_mem (get?_eq_some.mp present)
  have distinct := d.distinct
  rw [split, List.map_append, List.map_cons, List.nodup_append, List.nodup_cons] at distinct
  have untouched : ∀ (value : ν) (part : List (κ × ν)), key ∉ part.map Prod.fst →
      part.map (fun entry => if entry.1 = key then (key, value) else entry) = part := by
    intro value part absent
    refine (List.map_congr_left fun entry inside => ?_).trans (List.map_id _)
    exact if_neg fun same => absent (List.mem_map.mpr ⟨entry, inside, same⟩)
  have notBefore : key ∉ before.map Prod.fst := fun inside =>
    distinct.2.2 key inside key List.mem_cons_self rfl
  refine ⟨before.map Prod.snd ++ after.map Prod.snd, ?_, fun value => ?_⟩
  · rw [values, split, List.map_append, List.map_cons]
    exact List.perm_middle
  · simp only [values, set, setEntries, member, ↓reduceIte]
    rw [split, List.map_append, List.map_cons, if_pos rfl, untouched value before notBefore,
      untouched value after distinct.2.1.1, List.map_append, List.map_cons]
    exact List.perm_middle

/-- The dictionary that setting pairs one after the other leaves. -/
def ofPairs (pairs : List (κ × ν)) : Dict κ ν :=
  pairs.foldl (fun d pair => d.set pair.1 pair.2) empty

/-- Setting pairs leaves entries that were there or are among the pairs. -/
theorem mem_foldl_set {pairs : List (κ × ν)} {d : Dict κ ν} {entry : κ × ν}
    (member : entry ∈ (pairs.foldl (fun d pair => d.set pair.1 pair.2) d).entries) :
    entry ∈ d.entries ∨ entry ∈ pairs := by
  induction pairs generalizing d with
  | nil => exact Or.inl member
  | cons pair pairs ih =>
    rcases ih member with here | later
    · rcases mem_set.mp here with rfl | ⟨old, _⟩
      · exact Or.inr List.mem_cons_self
      · exact Or.inl old
    · exact Or.inr (List.mem_cons_of_mem pair later)

/-- An entry of the dictionary of pairs is one of them. -/
theorem mem_ofPairs {pairs : List (κ × ν)} {entry : κ × ν}
    (member : entry ∈ (ofPairs pairs).entries) : entry ∈ pairs := by
  rcases mem_foldl_set member with none | listed
  · exact absurd none List.not_mem_nil
  · exact listed

/-! ## Erasing -/

/-- `d.pop(key, None)`. -/
def erase (d : Dict κ ν) (key : κ) : Dict κ ν := d.filter fun entry => decide (entry.1 ≠ key)

/-- What is found behind an erasure. -/
@[simp] theorem get?_erase (d : Dict κ ν) (key k : κ) :
    (d.erase key).get? k = if k = key then none else d.get? k := by
  split_ifs with same
  · rw [get?_eq_none]
    intro member
    obtain ⟨entry, inside, named⟩ := List.mem_map.mp member
    have kept := of_decide_eq_true ((mem_filter _ d entry).mp inside).2
    exact kept (named.trans same)
  · cases found : d.get? k with
    | none =>
      rw [get?_eq_none] at found ⊢
      intro member
      obtain ⟨entry, inside, rfl⟩ := List.mem_map.mp member
      exact found (List.mem_map.mpr ⟨entry, ((mem_filter _ d entry).mp inside).1, rfl⟩)
    | some value =>
      rw [get?_eq_some] at found ⊢
      exact (mem_filter _ d _).mpr ⟨found, decide_eq_true same⟩

end Dict

end DTLab.Library
