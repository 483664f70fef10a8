import DTLab.Library.Dict
import Mathlib.Algebra.GroupWithZero.Nat
import Mathlib.Data.List.TakeWhile

/-!
# Tallies with a bounded number of keys

A tally counts items by key in a dictionary that takes no new key once it holds `bound` of
them; items without a bucket are counted as dropped. `Tally.Correct` says what a tally of a
list of items holds: a bucket for each key that is among the first `bound` different keys of
the list, made from the first item with that key and the number of items with it.
-/

namespace DTLab.Library

variable {α κ ν : Type} [DecidableEq κ]

/-- Whether fewer than `bound` different keys stand before the first occurrence of a key. -/
def AmongFirst (bound : Int) (key : κ) (keys : List κ) : Prop :=
  key ∈ keys ∧ ((keys.takeWhile fun other => decide (other ≠ key)).toFinset.card : Int) < bound

instance (bound : Int) (key : κ) (keys : List κ) : Decidable (AmongFirst bound key keys) :=
  inferInstanceAs (Decidable (_ ∧ _))

namespace AmongFirst

/-- Later keys do not change whether an occurring key is among the first. -/
theorem append_of_mem {bound : Int} {key : κ} {keys : List κ} (present : key ∈ keys)
    (more : List κ) : AmongFirst bound key (keys ++ more) ↔ AmongFirst bound key keys := by
  have stopped : (keys.takeWhile fun other => decide (other ≠ key)).length ≠ keys.length := by
    intro whole
    have all := List.takeWhile_eq_self_iff.mp
      ((List.takeWhile_prefix fun other => decide (other ≠ key)).eq_of_length whole)
    exact absurd rfl (of_decide_eq_true (all key present))
  simp only [AmongFirst, List.takeWhile_append, stopped, ↓reduceIte, List.mem_append, present,
    true_or]

/-- A further key does not change whether another key is among the first. -/
theorem concat_of_ne {bound : Int} {key other : κ} (different : key ≠ other) (keys : List κ) :
    AmongFirst bound key (keys ++ [other]) ↔ AmongFirst bound key keys := by
  by_cases present : key ∈ keys
  · exact append_of_mem present _
  · constructor
    · intro among
      rcases List.mem_append.mp among.1 with inside | last
      · exact absurd inside present
      · exact absurd (List.mem_singleton.mp last) different
    · exact fun among => absurd among.1 present

/-- A new key is among the first exactly when there are fewer than `bound` so far. -/
theorem concat_new {bound : Int} {key : κ} {keys : List κ} (absent : key ∉ keys) :
    AmongFirst bound key (keys ++ [key]) ↔ (keys.toFinset.card : Int) < bound := by
  have others : ∀ other ∈ keys, decide (other ≠ key) = true := fun other member =>
    decide_eq_true fun same => absent (same ▸ member)
  simp only [AmongFirst, List.takeWhile_append_of_pos others]
  simp

end AmongFirst

/-- The buckets of the keys that found room, and the number of items that found none. -/
structure Tally (κ ν : Type) where
  buckets : Dict κ ν
  dropped : Nat

/-- How a tally builds its buckets: the key of an item, and the bucket made from an item and a
number of items. -/
structure TallyRules (α κ ν : Type) where
  bound : Int
  key : α → κ
  bucket : α → Nat → ν

namespace Tally

/-- The tally of no items. -/
def empty : Tally κ ν := ⟨.empty, 0⟩

/-- Count one more item, given how a bucket takes one more. -/
def add (rules : TallyRules α κ ν) (increment : ν → ν) (tally : Tally κ ν) (item : α) :
    Tally κ ν :=
  match tally.buckets.get? (rules.key item) with
  | some bucket => { tally with buckets := tally.buckets.set (rules.key item) (increment bucket) }
  | none =>
    if rules.bound ≤ tally.buckets.size then { tally with dropped := tally.dropped + 1 }
    else { tally with buckets := tally.buckets.set (rules.key item) (rules.bucket item 1) }

/-- The bucket of a key after a list of items. -/
def expected (rules : TallyRules α κ ν) (items : List α) (key : κ) : Option ν :=
  if AmongFirst rules.bound key (items.map rules.key) then
    (items.find? fun item => decide (rules.key item = key)).map fun item =>
      rules.bucket item (items.countP fun item => decide (rules.key item = key))
  else none

/-- What a tally of a list of items holds. -/
structure Correct (rules : TallyRules α κ ν) (items : List α) (tally : Tally κ ν) : Prop where
  get?_eq : ∀ key, tally.buckets.get? key = expected rules items key
  total : ∀ count : ν → Nat, (∀ item n, count (rules.bucket item n) = n) →
    (tally.buckets.values.map count).sum + tally.dropped = items.length
  size_le : tally.buckets.size ≤ rules.bound.toNat
  complete : (tally.buckets.size : Int) < rules.bound →
    ∀ item ∈ items, rules.key item ∈ tally.buckets.keys

/-- The tally of no items is correct. -/
theorem empty_correct (rules : TallyRules α κ ν) : Correct rules [] (empty : Tally κ ν) where
  get?_eq key := by
    have absent : ¬AmongFirst rules.bound key ([].map rules.key) := fun among => by
      cases among.1
    rw [expected, if_neg absent]
    rfl
  total count _ := rfl
  size_le := Nat.zero_le _
  complete _ item member := by cases member

/-- The bucket of a key that another item does not have. -/
theorem expected_concat_of_ne {rules : TallyRules α κ ν} {items : List α} {item : α} {key : κ}
    (different : key ≠ rules.key item) :
    expected rules (items ++ [item]) key = expected rules items key := by
  have unlike : ¬rules.key item = key := Ne.symm different
  simp only [expected, List.map_append, List.map_cons, List.map_nil,
    AmongFirst.concat_of_ne different, List.find?_append, List.countP_append]
  simp [unlike]

/-- A present key has an item that carries it first. -/
theorem find?_of_expected {rules : TallyRules α κ ν} {items : List α} {key : κ} {bucket : ν}
    (found : expected rules items key = some bucket) :
    AmongFirst rules.bound key (items.map rules.key) ∧
      ∃ item, items.find? (fun item => decide (rules.key item = key)) = some item ∧
        bucket = rules.bucket item (items.countP fun item => decide (rules.key item = key)) := by
  unfold expected at found
  split_ifs at found with among
  obtain ⟨item, first, rfl⟩ := Option.map_eq_some_iff.mp found
  exact ⟨among, item, first, rfl⟩

/-- The keys of a correct tally are keys of its items. -/
theorem Correct.keys_subset {rules : TallyRules α κ ν} {items : List α} {tally : Tally κ ν}
    (correct : Correct rules items tally) : tally.buckets.keys ⊆ items.map rules.key := by
  intro key member
  have held : tally.buckets.get? key ≠ none := fun none => Dict.get?_eq_none.mp none member
  obtain ⟨bucket, found⟩ := Option.ne_none_iff_exists'.mp held
  rw [correct.get?_eq] at found
  exact (find?_of_expected found).1.1

/-- A correct tally has at most as many buckets as its items have keys. -/
theorem Correct.size_le_card {rules : TallyRules α κ ν} {items : List α} {tally : Tally κ ν}
    (correct : Correct rules items tally) :
    tally.buckets.size ≤ (items.map rules.key).toFinset.card := by
  rw [← Dict.card_keys]
  exact Finset.card_le_card fun key member =>
    List.mem_toFinset.mpr (correct.keys_subset (List.mem_toFinset.mp member))

/-- One more item of a key with a bucket. -/
theorem Correct.add_held {rules : TallyRules α κ ν} {increment : ν → ν}
    (step : ∀ item n, increment (rules.bucket item n) = rules.bucket item (n + 1))
    {items : List α} {tally : Tally κ ν} (correct : Correct rules items tally) {item : α}
    {bucket : ν} (held : tally.buckets.get? (rules.key item) = some bucket) :
    Correct rules (items ++ [item]) (tally.add rules increment item) := by
  have present : rules.key item ∈ tally.buckets.keys := Dict.mem_keys_of_get? held
  obtain ⟨among, first, found, rfl⟩ := find?_of_expected ((correct.get?_eq _).symm.trans held)
  have added : tally.add rules increment item = { tally with
      buckets := tally.buckets.set (rules.key item) (rules.bucket first
        (items.countP (fun other => decide (rules.key other = rules.key item)) + 1)) } := by
    simp only [Tally.add, held, step]
  rw [added]
  refine ⟨fun key => ?_, fun count counts => ?_, ?_, fun room other member => ?_⟩
  · rw [Dict.get?_set]
    by_cases same : key = rules.key item
    · subst same
      have still : AmongFirst rules.bound (rules.key item) ((items ++ [item]).map rules.key) := by
        rw [List.map_append, AmongFirst.append_of_mem among.1]
        exact among
      rw [if_pos rfl, expected, if_pos still, List.find?_append, found]
      simp [List.countP_append]
    · rw [if_neg same, expected_concat_of_ne same, correct.get?_eq]
  · obtain ⟨others, values, replaced⟩ := Dict.values_set_present held
    have before := correct.total count counts
    rw [((values.map count).sum_eq)] at before
    rw [((replaced _).map count).sum_eq]
    simp only [List.map_cons, List.sum_cons, counts, List.length_append,
      List.length_singleton] at before ⊢
    omega
  · simpa [Dict.size_set, present] using correct.size_le
  · rw [Dict.keys_set, if_pos present]
    rw [Dict.size_set, if_pos present] at room
    rcases List.mem_append.mp member with before | last
    · exact correct.complete room other before
    · rw [List.mem_singleton.mp last]
      exact present

/-- One more item of a key without a bucket, where there is no room for one. -/
theorem Correct.add_full {rules : TallyRules α κ ν} (increment : ν → ν)
    {items : List α} {tally : Tally κ ν} (correct : Correct rules items tally) {item : α}
    (held : tally.buckets.get? (rules.key item) = none)
    (full : rules.bound ≤ tally.buckets.size) :
    Correct rules (items ++ [item]) (tally.add rules increment item) := by
  have unexpected : expected rules items (rules.key item) = none :=
    (correct.get?_eq _).symm.trans held
  have added : tally.add rules increment item = { tally with dropped := tally.dropped + 1 } := by
    simp only [Tally.add, held, full, ↓reduceIte]
  rw [added]
  refine ⟨fun key => ?_, fun count counts => ?_, correct.size_le,
    fun room => absurd full (not_le.mpr room)⟩
  · by_cases same : key = rules.key item
    · subst same
      -- The key is either an old one without a bucket or a new one that finds no room.
      have outside : ¬AmongFirst rules.bound (rules.key item)
          ((items ++ [item]).map rules.key) := by
        rw [List.map_append]
        by_cases old : rules.key item ∈ items.map rules.key
        · rw [AmongFirst.append_of_mem old]
          intro among
          obtain ⟨other, member, same⟩ := List.mem_map.mp old
          unfold expected at unexpected
          rw [if_pos among, Option.map_eq_none_iff, List.find?_eq_none] at unexpected
          exact unexpected other member (decide_eq_true same)
        · rw [List.map_singleton, AmongFirst.concat_new old]
          have sizes := correct.size_le_card
          omega
      rw [held, expected, if_neg outside]
    · rw [expected_concat_of_ne same, correct.get?_eq]
  · have before := correct.total count counts
    simp only [List.length_append, List.length_singleton]
    omega

/-- One more item of a key without a bucket, where there is room for one. -/
theorem Correct.add_new {rules : TallyRules α κ ν} (increment : ν → ν)
    {items : List α} {tally : Tally κ ν} (correct : Correct rules items tally) {item : α}
    (held : tally.buckets.get? (rules.key item) = none)
    (full : ¬ rules.bound ≤ tally.buckets.size) :
    Correct rules (items ++ [item]) (tally.add rules increment item) := by
  have absent : rules.key item ∉ tally.buckets.keys := Dict.get?_eq_none.mp held
  have added : tally.add rules increment item = { tally with
      buckets := tally.buckets.set (rules.key item) (rules.bucket item 1) } := by
    simp only [Tally.add, held, full, ↓reduceIte]
  have new : rules.key item ∉ items.map rules.key := by
    intro old
    obtain ⟨other, member, same⟩ := List.mem_map.mp old
    exact absent (same ▸ correct.complete (by omega) other member)
  have card : (items.map rules.key).toFinset.card ≤ tally.buckets.size := by
    have keys : (items.map rules.key).toFinset ⊆ tally.buckets.keys.toFinset := by
      intro key member
      obtain ⟨other, inside, rfl⟩ := List.mem_map.mp (List.mem_toFinset.mp member)
      exact List.mem_toFinset.mpr (correct.complete (by omega) other inside)
    exact (Finset.card_le_card keys).trans_eq (Dict.card_keys _)
  rw [added]
  refine ⟨fun key => ?_, fun count counts => ?_, ?_, fun room other member => ?_⟩
  · rw [Dict.get?_set]
    by_cases same : key = rules.key item
    · subst same
      have among : AmongFirst rules.bound (rules.key item)
          ((items ++ [item]).map rules.key) := by
        rw [List.map_append, List.map_singleton, AmongFirst.concat_new new]
        omega
      have unlike : ∀ other ∈ items, ¬rules.key other = rules.key item := fun other member same =>
        new (List.mem_map.mpr ⟨other, member, same⟩)
      have missing : items.find? (fun other => decide (rules.key other = rules.key item)) =
          none := by
        simpa [List.find?_eq_none] using unlike
      have none_counted : items.countP
          (fun other => decide (rules.key other = rules.key item)) = 0 := by
        simpa [List.countP_eq_zero] using unlike
      rw [if_pos rfl, expected, if_pos among, List.find?_append, missing]
      simp [List.countP_append, none_counted]
    · rw [if_neg same, expected_concat_of_ne same, correct.get?_eq]
  · have before := correct.total count counts
    rw [((Dict.values_set_absent (rules.bucket item 1) held).map count).sum_eq]
    simp only [List.map_cons, List.sum_cons, counts, List.length_append,
      List.length_singleton]
    omega
  · rw [Dict.size_set, if_neg absent]
    omega
  · rw [Dict.keys_set, if_neg absent]
    rcases List.mem_append.mp member with before | last
    · exact List.mem_append_left _ (correct.complete (by omega) other before)
    · rw [List.mem_singleton.mp last]
      exact List.mem_append_right _ (List.mem_singleton.mpr rfl)

/-- One more item keeps a tally correct. -/
theorem Correct.add {rules : TallyRules α κ ν} {increment : ν → ν}
    (step : ∀ item n, increment (rules.bucket item n) = rules.bucket item (n + 1))
    {items : List α} {tally : Tally κ ν} (correct : Correct rules items tally) (item : α) :
    Correct rules (items ++ [item]) (tally.add rules increment item) := by
  cases held : tally.buckets.get? (rules.key item) with
  | some bucket => exact correct.add_held step held
  | none =>
    by_cases full : rules.bound ≤ tally.buckets.size
    · exact correct.add_full increment held full
    · exact correct.add_new increment held full

end Tally

end DTLab.Library
