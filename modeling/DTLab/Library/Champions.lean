import Mathlib.Data.List.Sort
import Mathlib.Data.List.Dedup

/-!
# The sole best of each group

An item is the champion of a list if no other has as high a score; where two share the highest
score there is none. Items are grouped by a key, and the champions of the groups are listed in some
order of the keys, of which nothing but its members is known.
-/

namespace DTLab.Library

variable {α κ : Type*} [LinearOrder κ]

/-- The item of the highest score, unless another has it too. -/
def champion (score : α → κ) (items : List α) : Option α :=
  match items.mergeSort fun first second => decide (score second ≤ score first) with
  | [] => none
  | [item] => some item
  | first :: second :: _ => if score first = score second then none else some first

/-- Its score is above that of every other item. -/
def Tops (score : α → κ) (items : List α) (item : α) : Prop :=
  item ∈ items ∧ ∀ other ∈ items, other ≠ item → score other < score item

/-- A sorted list begins with its champion. -/
theorem tops_of_falling {score : α → κ} {first : α} {rest : List α}
    (falling : (first :: rest).Pairwise fun before after => score after ≤ score before)
    (alone : ∀ second, rest.head? = some second → score first ≠ score second) :
    Tops score (first :: rest) first := by
  refine ⟨List.mem_cons_self, fun other member different => ?_⟩
  have behind : other ∈ rest := (List.mem_cons.mp member).resolve_left different
  cases rest with
  | nil => cases behind
  | cons second rest =>
    have parts := List.pairwise_cons.mp falling
    have below : score second < score first :=
      lt_of_le_of_ne (parts.1 second List.mem_cons_self) (alone second rfl).symm
    rcases List.mem_cons.mp behind with same | later
    · rw [same]
      exact below
    · exact lt_of_le_of_lt ((List.pairwise_cons.mp parts.2).1 other later) below

/-- The champion of a list is the item above all others. -/
theorem champion_eq_some {score : α → κ} {items : List α} (distinct : items.Nodup) {item : α} :
    champion score items = some item ↔ Tops score items item := by
  let falls : α → α → Bool := fun first second => decide (score second ≤ score first)
  have perm : (items.mergeSort falls).Perm items := List.mergeSort_perm items falls
  have trans : ∀ a b c, falls a b = true → falls b c = true → falls a c = true :=
    fun a b c ab bc => decide_eq_true ((of_decide_eq_true bc).trans (of_decide_eq_true ab))
  have total : ∀ a b, (falls a b || falls b a) = true := fun a b => by
    rw [Bool.or_eq_true, decide_eq_true_eq, decide_eq_true_eq]
    exact le_total _ _
  have falling : (items.mergeSort falls).Pairwise fun before after => score after ≤ score before :=
    (List.pairwise_mergeSort trans total items).imp of_decide_eq_true
  have different : (items.mergeSort falls).Nodup := perm.nodup_iff.mpr distinct
  have same : ∀ best, Tops score (items.mergeSort falls) best ↔ Tops score items best := by
    intro best
    rw [Tops, Tops, perm.mem_iff]
    simp only [perm.mem_iff]
  rw [← same, champion]
  show (match items.mergeSort falls with
    | [] => none
    | [item] => some item
    | first :: second :: _ => if score first = score second then none else some first) = some item ↔
      Tops score (items.mergeSort falls) item
  generalize items.mergeSort falls = sorted at falling different
  match sorted with
  | [] => exact iff_of_false nofun fun tops => List.not_mem_nil tops.1
  | [only] =>
    have tops : Tops score [only] only := tops_of_falling falling nofun
    constructor
    · intro found
      rw [← Option.some.inj found]
      exact tops
    · intro topped
      rw [List.mem_singleton.mp topped.1]
  | first :: second :: rest =>
    have order := List.pairwise_cons.mp falling
    have apart : first ≠ second := fun equal =>
      (List.nodup_cons.mp different).1 (equal ▸ List.mem_cons_self)
    dsimp only
    by_cases tied : score first = score second
    · rw [if_pos tied]
      refine iff_of_false nofun fun topped => ?_
      have high : score first ≤ score item := by
        by_cases here : first = item
        · rw [here]
        · exact (topped.2 first List.mem_cons_self here).le
      by_cases here : item = first
      · have below := topped.2 second (List.mem_cons_of_mem first List.mem_cons_self)
          (here ▸ apart.symm)
        rw [here, tied] at below
        exact lt_irrefl _ below
      · have below := topped.2 first List.mem_cons_self (Ne.symm here)
        have behind : item ∈ second :: rest := (List.mem_cons.mp topped.1).resolve_left here
        exact lt_irrefl _ (lt_of_le_of_lt (order.1 item behind) below)
    · rw [if_neg tied]
      have tops : Tops score (first :: second :: rest) first :=
        tops_of_falling falling fun other head => Option.some.inj head ▸ tied
      constructor
      · intro found
        rw [← Option.some.inj found]
        exact tops
      · intro topped
        by_cases here : item = first
        · rw [here]
        · have below := topped.2 first List.mem_cons_self (Ne.symm here)
          exact absurd (lt_trans below (tops.2 item topped.1 here)) (lt_irrefl _)

/-- The order in which the members of a set are met: those of a list, each once. -/
structure SetOrder (ι : Type*) where
  /-- The members of the set made of a list. -/
  members : List ι → List ι
  /-- They are those of the list. -/
  mem_members : ∀ items item, item ∈ members items ↔ item ∈ items
  /-- None is met twice. -/
  nodup_members : ∀ items, (members items).Nodup

/-- The order of the last occurrences. -/
def SetOrder.dedup {ι : Type*} [DecidableEq ι] : SetOrder ι where
  members := List.dedup
  mem_members _ _ := List.mem_dedup
  nodup_members := List.nodup_dedup

variable {ι : Type*} [DecidableEq ι]

/-- The items of a group. -/
def group (key : α → ι) (items : List α) (label : ι) : List α :=
  items.filter fun item => decide (key item = label)

/-- The champions of the groups, in some order of the keys. -/
def champions (order : SetOrder ι) (key : α → ι) (score : α → κ) (items : List α) : List α :=
  (order.members (items.map key)).filterMap fun label => champion score (group key items label)

variable {order : SetOrder ι} {key : α → ι} {score : α → κ} {items : List α}

/-- Topping a group is being above all others of the same key. -/
theorem tops_group {label : ι} {item : α} :
    Tops score (group key items label) item ↔ key item = label ∧ item ∈ items ∧
      ∀ other ∈ items, key other = key item → other ≠ item → score other < score item := by
  constructor
  · intro tops
    have member := List.mem_filter.mp tops.1
    have labelled : key item = label := of_decide_eq_true member.2
    refine ⟨labelled, member.1, fun other there same => ?_⟩
    apply tops.2 other
    exact List.mem_filter.mpr ⟨there, decide_eq_true (same.trans labelled)⟩
  · intro ⟨labelled, member, above⟩
    refine ⟨List.mem_filter.mpr ⟨member, decide_eq_true labelled⟩, fun other there => ?_⟩
    have kept := List.mem_filter.mp there
    exact above other kept.1 ((of_decide_eq_true kept.2).trans labelled.symm)

/-- The champion of a group is above all others of its key. -/
theorem champion_group (distinct : items.Nodup) {label : ι} {item : α} :
    champion score (group key items label) = some item ↔ key item = label ∧ item ∈ items ∧
      ∀ other ∈ items, key other = key item → other ≠ item → score other < score item := by
  have apart : (group key items label).Nodup := distinct.filter _
  rw [champion_eq_some apart, tops_group]

/-- The champions are the items above all others of their key. -/
theorem mem_champions (distinct : items.Nodup) {item : α} :
    item ∈ champions order key score items ↔ item ∈ items ∧
      ∀ other ∈ items, key other = key item → other ≠ item → score other < score item := by
  rw [champions, List.mem_filterMap]
  constructor
  · intro ⟨label, _, found⟩
    exact ((champion_group distinct).mp found).2
  · intro above
    refine ⟨key item, ?_, ?_⟩
    · rw [order.mem_members]
      exact List.mem_map_of_mem above.1
    · exact (champion_group distinct).mpr ⟨rfl, above⟩

/-- Each key has one champion at most. -/
theorem nodup_keys_champions (distinct : items.Nodup) :
    ((champions order key score items).map key).Nodup := by
  have labels : (champions order key score items).map key =
      (order.members (items.map key)).filter fun label =>
        (champion score (group key items label)).isSome := by
    rw [champions]
    induction order.members (items.map key) with
    | nil => rfl
    | cons label labels ih =>
      cases found : champion score (group key items label) with
      | none =>
        rw [List.filterMap_cons, List.filter_cons, found]
        exact ih
      | some item =>
        have labelled : key item = label := ((champion_group distinct).mp found).1
        rw [List.filterMap_cons, List.filter_cons, found]
        show key item :: _ = label :: _
        rw [ih, labelled]
  rw [labels]
  exact (order.nodup_members _).filter _

/-- No champion is listed twice. -/
theorem nodup_champions (distinct : items.Nodup) : (champions order key score items).Nodup :=
  List.Nodup.of_map key (nodup_keys_champions distinct)

/-- Neither the order of the items nor that of the keys makes other champions. -/
theorem champions_perm {other : SetOrder ι} {others : List α} (distinct : items.Nodup)
    (perm : items.Perm others) :
    (champions order key score items).Perm (champions other key score others) := by
  have different : others.Nodup := perm.nodup_iff.mp distinct
  rw [List.perm_ext_iff_of_nodup (nodup_champions distinct) (nodup_champions different)]
  intro item
  rw [mem_champions distinct, mem_champions different]
  simp only [perm.mem_iff]

end DTLab.Library
