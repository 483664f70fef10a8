import Mathlib.Algebra.BigOperators.Group.Finset.Basic
import Mathlib.Algebra.BigOperators.Group.Finset.Piecewise
import Mathlib.Algebra.GroupWithZero.Nat
import Mathlib.Algebra.Order.BigOperators.Group.Finset
import Mathlib.Data.Finset.Dedup
import Mathlib.Data.List.Induction

/-!
# Latest revisions

In a list of revisions of several objects, the latest revision of each object is the one that
no later revision with the same key replaces. Sums over the latest revisions are sums over the
keys. The earliest items of a list are those that no earlier item with the same key precedes,
in order: what is left of a log when repetitions are dropped.
-/

namespace DTLab.Library

variable {ω κ : Type} [DecidableEq κ]

/-- The items that no later item with the same key replaces. -/
def latest (key : ω → κ) : List ω → List ω
  | [] => []
  | item :: rest =>
    if key item ∈ rest.map key then latest key rest else item :: latest key rest

/-- The measure of the latest item with a key, or zero. -/
def latestMeasure (key : ω → κ) (measure : ω → Nat) (items : List ω) (k : κ) : Nat :=
  (((items.filter fun item => decide (key item = k)).getLast?).map measure).getD 0

/-- No item has a key: nothing is measured. -/
theorem latestMeasure_of_notMem {key : ω → κ} {measure : ω → Nat} {items : List ω} {k : κ}
    (absent : k ∉ items.map key) : latestMeasure key measure items k = 0 := by
  have none : items.filter (fun item => decide (key item = k)) = [] := by
    rw [List.filter_eq_nil_iff]
    intro item member same
    exact absent (List.mem_map.mpr ⟨item, member, of_decide_eq_true same⟩)
  simp [latestMeasure, none]

/-- A further item is the latest of its key. -/
theorem latestMeasure_concat (key : ω → κ) (measure : ω → Nat) (items : List ω) (item : ω)
    (k : κ) :
    latestMeasure key measure (items ++ [item]) k =
      if key item = k then measure item else latestMeasure key measure items k := by
  by_cases same : key item = k <;> simp [latestMeasure, List.filter_append, same]

/-- An item in front counts only where no later item has its key. -/
theorem latestMeasure_cons (key : ω → κ) (measure : ω → Nat) (item : ω) (rest : List ω) (k : κ) :
    latestMeasure key measure (item :: rest) k =
      latestMeasure key measure rest k +
        if k = key item ∧ key item ∉ rest.map key then measure item else 0 := by
  by_cases same : key item = k
  · subst same
    by_cases later : key item ∈ rest.map key
    · have found : (rest.filter fun other => decide (key other = key item)) ≠ [] := by
        obtain ⟨other, member, equal⟩ := List.mem_map.mp later
        exact List.ne_nil_of_mem (List.mem_filter.mpr ⟨member, decide_eq_true equal⟩)
      have kept : (item :: rest).filter (fun other => decide (key other = key item)) =
          item :: rest.filter fun other => decide (key other = key item) :=
        List.filter_cons_of_pos (decide_eq_true rfl)
      rw [if_neg fun both => both.2 later, Nat.add_zero, latestMeasure, latestMeasure, kept,
        List.getLast?_cons_of_ne_nil found]
    · have zero : latestMeasure key measure rest (key item) = 0 :=
        latestMeasure_of_notMem later
      have none : (rest.filter fun other => decide (key other = key item)) = [] := by
        rw [List.filter_eq_nil_iff]
        intro other member equal
        exact later (List.mem_map.mpr ⟨other, member, of_decide_eq_true equal⟩)
      rw [zero]
      simp [latestMeasure, later, none]
  · have unlike : ¬(k = key item ∧ key item ∉ rest.map key) := fun both => same both.1.symm
    rw [if_neg unlike, Nat.add_zero]
    simp [latestMeasure, same]

/-- The sum over the latest items is the sum over any set with all the keys. -/
theorem sum_latest (key : ω → κ) (measure : ω → Nat) (items : List ω) {keys : Finset κ}
    (all : ∀ item ∈ items, key item ∈ keys) :
    ((latest key items).map measure).sum =
      ∑ k ∈ keys, latestMeasure key measure items k := by
  induction items with
  | nil => exact (Finset.sum_eq_zero fun _ _ => rfl).symm
  | cons item rest ih =>
    have tail := ih fun other member => all other (List.mem_cons_of_mem item member)
    have inside := all item List.mem_cons_self
    simp only [latestMeasure_cons, Finset.sum_add_distrib, ← tail, latest]
    by_cases later : key item ∈ rest.map key
    · simp [later]
    · simp only [later, ↓reduceIte, not_false_eq_true, and_true, List.map_cons, List.sum_cons,
        Finset.sum_ite_eq', inside]
      exact Nat.add_comm _ _

/-- The sum over the latest items after one more item. -/
theorem sum_latest_concat (key : ω → κ) (measure : ω → Nat) (items : List ω) (item : ω) :
    ((latest key (items ++ [item])).map measure).sum + latestMeasure key measure items (key item) =
      ((latest key items).map measure).sum + measure item := by
  have all : ∀ other ∈ items ++ [item], key other ∈ ((items ++ [item]).map key).toFinset :=
    fun other member => List.mem_toFinset.mpr (List.mem_map.mpr ⟨other, member, rfl⟩)
  have inside := all item (List.mem_append_right _ (List.mem_singleton.mpr rfl))
  rw [sum_latest key measure _ all, sum_latest key measure items fun other member =>
    all other (List.mem_append_left _ member)]
  rw [← Finset.add_sum_erase _ _ inside,
    ← Finset.add_sum_erase _ (fun k => latestMeasure key measure items k) inside]
  have others : ∑ k ∈ ((items ++ [item]).map key).toFinset.erase (key item),
        latestMeasure key measure (items ++ [item]) k =
      ∑ k ∈ ((items ++ [item]).map key).toFinset.erase (key item),
        latestMeasure key measure items k := by
    refine Finset.sum_congr rfl fun k member => ?_
    rw [latestMeasure_concat, if_neg (Finset.ne_of_mem_erase member).symm]
  rw [others, latestMeasure_concat, if_pos rfl]
  omega

/-- The latest measure of a key is bounded when every measure of the key is. -/
theorem latestMeasure_le {key : ω → κ} {measure : ω → Nat} {items : List ω} {k : κ} {bound : Nat}
    (bounded : ∀ item ∈ items, key item = k → measure item ≤ bound) :
    latestMeasure key measure items k ≤ bound := by
  unfold latestMeasure
  cases last : (items.filter fun item => decide (key item = k)).getLast? with
  | none => exact Nat.zero_le _
  | some item =>
    obtain ⟨member, same⟩ := List.mem_filter.mp (List.mem_of_getLast? last)
    exact bounded item member (of_decide_eq_true same)

/-- Some item of a key that occurs has the latest measure. -/
theorem latestMeasure_mem {key : ω → κ} (measure : ω → Nat) {items : List ω} {k : κ}
    (present : k ∈ items.map key) :
    ∃ item ∈ items, key item = k ∧ measure item = latestMeasure key measure items k := by
  obtain ⟨other, member, same⟩ := List.mem_map.mp present
  have found : (items.filter fun item => decide (key item = k)) ≠ [] :=
    List.ne_nil_of_mem (List.mem_filter.mpr ⟨member, decide_eq_true same⟩)
  obtain ⟨inside, matching⟩ := List.mem_filter.mp (List.getLast_mem found)
  refine ⟨_, inside, of_decide_eq_true matching, ?_⟩
  rw [latestMeasure, List.getLast?_eq_some_getLast found]
  rfl

/-- Where later items of a key measure more, every item measures at most the latest. -/
theorem le_latestMeasure {key : ω → κ} {measure : ω → Nat} {items : List ω}
    (growing : items.Pairwise fun earlier later =>
      key earlier = key later → measure earlier ≤ measure later)
    {item : ω} (member : item ∈ items) :
    measure item ≤ latestMeasure key measure items (key item) := by
  induction items using List.reverseRecOn with
  | nil => cases member
  | append_singleton items last ih =>
    obtain ⟨before, -, across⟩ := List.pairwise_append.mp growing
    rw [latestMeasure_concat]
    rcases List.mem_append.mp member with old | new
    · split_ifs with same
      · exact across item old last (List.mem_singleton.mpr rfl) same.symm
      · exact ih before old
    · rw [List.mem_singleton.mp new, if_pos rfl]

/-! ## Earliest items -/

/-- The items that no earlier item with the same key precedes. -/
def earliest (key : ω → κ) (items : List ω) : List ω :=
  items.foldl (fun kept item => if key item ∈ kept.map key then kept else kept ++ [item]) []

/-- One more item is dropped where its key occurred, and is the last one otherwise. -/
theorem earliest_concat (key : ω → κ) (items : List ω) (item : ω) :
    earliest key (items ++ [item]) =
      if key item ∈ (earliest key items).map key then earliest key items
      else earliest key items ++ [item] := by
  rw [earliest, List.foldl_append]
  rfl

end DTLab.Library
