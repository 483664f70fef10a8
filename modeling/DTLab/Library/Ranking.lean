import Mathlib.Data.List.Sort
import Mathlib.Data.List.Nodup
import Mathlib.Data.Set.Card

/-!
# The first items of a sorted list

Of items with distinct keys, those in front of the list sorted by falling keys are those with few
items above them.
-/

namespace DTLab.Library.Ranking

variable {α κ : Type*} [LinearOrder κ]

/-- The items whose key is above one. -/
def above (key : α → κ) (items : List α) (item : α) : List α :=
  items.filter fun other => decide (key item < key other)

/-- In a list with falling keys, the first items are those with few items above them. -/
theorem mem_take_of_falling {key : α → κ} {items : List α}
    (falling : items.Pairwise fun first second => key second < key first) (count : Nat)
    (item : α) :
    item ∈ items.take count ↔ item ∈ items ∧ (above key items item).length < count := by
  induction items generalizing count with
  | nil => simp
  | cons first items ih =>
    obtain ⟨below, falling⟩ := List.pairwise_cons.mp falling
    cases count with
    | zero => simp
    | succ count =>
      rw [List.take_succ_cons, List.mem_cons, ih falling count]
      have counted : item ∈ items →
          (above key (first :: items) item).length = (above key items item).length + 1 := by
        intro member
        have kept : above key (first :: items) item = first :: above key items item :=
          List.filter_cons_of_pos (decide_eq_true (below item member))
        rw [kept, List.length_cons]
      constructor
      · rintro (rfl | ⟨member, few⟩)
        · have none : above key (item :: items) item = [] := by
            rw [above, List.filter_eq_nil_iff]
            intro other member
            rw [decide_eq_true_eq, not_lt]
            rcases List.mem_cons.mp member with rfl | later
            · exact le_refl _
            · exact (below other later).le
          rw [none]
          exact ⟨List.mem_cons_self, Nat.succ_pos count⟩
        · rw [counted member]
          exact ⟨List.mem_cons_of_mem first member, Nat.succ_lt_succ few⟩
      · rintro ⟨member, few⟩
        rcases List.mem_cons.mp member with rfl | later
        · exact Or.inl rfl
        · rw [counted later] at few
          exact Or.inr ⟨later, Nat.lt_of_succ_lt_succ few⟩

/-- The first items by falling keys are those with few items above them. -/
theorem mem_take_mergeSort (key : α → κ) {items : List α} (distinct : (items.map key).Nodup)
    (count : Nat) (item : α) :
    item ∈ (items.mergeSort fun first second => decide (key second ≤ key first)).take count ↔
      item ∈ items ∧ (above key items item).length < count := by
  let sorted := items.mergeSort fun first second => decide (key second ≤ key first)
  have perm : sorted.Perm items := List.mergeSort_perm items _
  let falls : α → α → Bool := fun first second => decide (key second ≤ key first)
  have trans : ∀ a b c, falls a b = true → falls b c = true → falls a c = true :=
    fun a b c ab bc => decide_eq_true ((of_decide_eq_true bc).trans (of_decide_eq_true ab))
  have total : ∀ a b, (falls a b || falls b a) = true := fun a b => by
    rw [Bool.or_eq_true, decide_eq_true_eq, decide_eq_true_eq]
    exact le_total _ _
  have ordered : sorted.Pairwise fun first second => key second ≤ key first :=
    (List.pairwise_mergeSort trans total items).imp of_decide_eq_true
  have different : sorted.Pairwise fun first second => key first ≠ key second :=
    List.pairwise_map.mp ((perm.map key).nodup_iff.mpr distinct)
  have falling : sorted.Pairwise fun first second => key second < key first :=
    (ordered.and different).imp fun both => lt_of_le_of_ne both.1 both.2.symm
  show item ∈ sorted.take count ↔ _
  rw [mem_take_of_falling falling count item, perm.mem_iff]
  have same : (above key sorted item).length = (above key items item).length :=
    (perm.filter _).length_eq
  rw [same]

/-- As many items are above one as its list counts, where each item is listed once. -/
theorem encard_above (key : α → κ) {items : List α} (distinct : items.Nodup) (item : α) :
    {other | other ∈ items ∧ key item < key other}.encard = (above key items item).length := by
  classical
  have listed : {other | other ∈ items ∧ key item < key other} =
      ((above key items item).toFinset : Set α) := by
    ext other
    simp [above]
  rw [listed, Set.encard_coe_eq_coe_finsetCard, List.toFinset_card_of_nodup]
  exact distinct.filter _

end DTLab.Library.Ranking
