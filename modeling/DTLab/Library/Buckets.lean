import DTLab.Library.Dict
import DTLab.Library.Ranking
import Mathlib.Data.Finset.Max

/-!
# The latest item of each bucket

Items that happen at instants fall into buckets. A history keeps the latest item of each bucket, of
these the ones from some instant on, and of these the last few. Whether an item is kept depends on
its bucket and on the number of later buckets, so what is dropped once can be forgotten: keeping
after each further item is keeping once.
-/

namespace DTLab.Library.Buckets

variable {α τ κ : Type} [LinearOrder τ] [LinearOrder κ] (instant : α → τ) (key : α → κ)

/-- The later one of an item and an item behind it in the list. -/
def newer (item : α) : Option α → Option α
  | none => some item
  | some later => if instant item ≤ instant later then some later else some item

/-- The latest item of a bucket, the last one if there are several. -/
def latestIn (bucket : κ) : List α → Option α
  | [] => none
  | item :: rest =>
    if key item = bucket then newer instant item (latestIn bucket rest) else latestIn bucket rest

/-- The items in order, those of one instant as they were. -/
def inOrder (items : List α) : List α :=
  items.insertionSort fun first second => instant first ≤ instant second

/-- The last item of each bucket. -/
def byBucket (items : List α) : Dict κ α := Dict.ofPairs (items.map fun item => (key item, item))

/-- The latest items of the buckets that are not before an instant, in order. -/
def recentOnes (cutoff : τ) (items : List α) : List α :=
  inOrder instant ((byBucket key (inOrder instant items)).values.filter fun item =>
    decide (cutoff ≤ instant item))

/-- The last ones of them. -/
def retained (cutoff : τ) (count : Nat) (items : List α) : List α :=
  let kept := recentOnes instant key cutoff items
  kept.drop (kept.length - count)

/-- The buckets behind one. -/
def laterKeys (items : List α) (bucket : κ) : Finset κ :=
  (items.map key).toFinset.filter fun other => bucket < other

variable {instant key}

/-! ## The latest item -/

/-- There is a latest item where there is an item. -/
theorem latestIn_eq_none {bucket : κ} {items : List α} :
    latestIn instant key bucket items = none ↔ ∀ item ∈ items, key item ≠ bucket := by
  induction items with
  | nil => exact iff_of_true rfl fun _ none => absurd none List.not_mem_nil
  | cons first rest ih =>
    rw [latestIn, List.forall_mem_cons]
    by_cases same : key first = bucket
    · rw [if_pos same]
      refine iff_of_false ?_ fun others => others.1 same
      cases latestIn instant key bucket rest with
      | none => exact Option.some_ne_none first
      | some later =>
        rw [newer]
        split <;> exact Option.some_ne_none _
    · rw [if_neg same, ih]
      exact (and_iff_right same).symm

/-- The latest item of a bucket is an item of the bucket, and none of the bucket is later. -/
theorem latestIn_some {bucket : κ} {items : List α} {item : α}
    (found : latestIn instant key bucket items = some item) :
    item ∈ items ∧ key item = bucket ∧
      ∀ other ∈ items, key other = bucket → instant other ≤ instant item := by
  induction items generalizing item with
  | nil => cases found
  | cons first rest ih =>
    rw [latestIn] at found
    by_cases same : key first = bucket
    · rw [if_pos same] at found
      cases later : latestIn instant key bucket rest with
      | none =>
        rw [later] at found
        obtain rfl := Option.some.inj found
        refine ⟨List.mem_cons_self, same, fun other member inside => ?_⟩
        rcases List.mem_cons.mp member with rfl | behind
        · exact le_refl _
        · exact absurd inside (latestIn_eq_none.mp later other behind)
      | some last =>
        have known := ih later
        rw [later, newer] at found
        by_cases order : instant first ≤ instant last
        · rw [if_pos order] at found
          obtain rfl := Option.some.inj found
          refine ⟨List.mem_cons_of_mem first known.1, known.2.1, fun other member inside => ?_⟩
          rcases List.mem_cons.mp member with rfl | behind
          · exact order
          · exact known.2.2 other behind inside
        · rw [if_neg order] at found
          obtain rfl := Option.some.inj found
          refine ⟨List.mem_cons_self, same, fun other member inside => ?_⟩
          rcases List.mem_cons.mp member with rfl | behind
          · exact le_refl _
          · exact (known.2.2 other behind inside).trans (not_le.mp order).le
    · rw [if_neg same] at found
      have known := ih found
      refine ⟨List.mem_cons_of_mem first known.1, known.2.1, fun other member inside => ?_⟩
      rcases List.mem_cons.mp member with rfl | behind
      · exact absurd inside same
      · exact known.2.2 other behind inside

/-- The later one of a latest item and a further item of its bucket. -/
def thenItem (instant : α → τ) (last : Option α) (item : α) : Option α :=
  match last with
  | none => some item
  | some earlier => if instant earlier ≤ instant item then some item else some earlier

/-- A further item is the latest of its bucket unless the latest is later. -/
theorem latestIn_concat (bucket : κ) (items : List α) (item : α) :
    latestIn instant key bucket (items ++ [item]) =
      if key item = bucket then thenItem instant (latestIn instant key bucket items) item
      else latestIn instant key bucket items := by
  induction items with
  | nil => rfl
  | cons first rest ih =>
    rw [List.cons_append, latestIn, latestIn, ih]
    by_cases inside : key item = bucket
    · rw [if_pos inside, if_pos inside]
      by_cases same : key first = bucket
      · rw [if_pos same, if_pos same]
        cases latestIn instant key bucket rest with
        | none => rfl
        | some last =>
          by_cases order : instant last ≤ instant item
          · rw [thenItem, if_pos order, newer, newer]
            by_cases front : instant first ≤ instant last
            · rw [if_pos front, if_pos (front.trans order), thenItem, if_pos order]
            · rw [if_neg front]
              rfl
          · rw [thenItem, if_neg order, newer]
            by_cases front : instant first ≤ instant last
            · rw [if_pos front, thenItem, if_neg order]
            · have behind : ¬ instant first ≤ instant item := fun le =>
                order ((not_le.mp front).le.trans le)
              rw [if_neg front, thenItem, if_neg behind]
      · rw [if_neg same, if_neg same]
    · rw [if_neg inside, if_neg inside]

/-- Putting an item among others in front of later ones leaves the latest items. -/
theorem latestIn_orderedInsert (bucket : κ) (item : α) (items : List α) :
    latestIn instant key bucket
      (items.orderedInsert (fun first second => instant first ≤ instant second) item) =
        latestIn instant key bucket (item :: items) := by
  induction items with
  | nil => rfl
  | cons first rest ih =>
    rw [List.orderedInsert_cons]
    by_cases order : instant item ≤ instant first
    · rw [if_pos order]
    · rw [if_neg order, latestIn, ih, latestIn, latestIn, latestIn]
      by_cases same : key first = bucket
      · rw [if_pos same, if_pos same]
        by_cases inside : key item = bucket
        · rw [if_pos inside, if_pos inside]
          -- The item put further back is strictly later, so the two do not compete for a tie.
          cases latestIn instant key bucket rest with
          | none => rw [newer, newer, newer, newer, if_pos (not_le.mp order).le, if_neg order]
          | some last =>
            rw [newer, newer]
            by_cases front : instant item ≤ instant last
            · have both := (not_le.mp order).le.trans front
              rw [if_pos front, if_pos both, newer, newer, if_pos both, if_pos front]
            · rw [if_neg front]
              split
              · rw [newer, newer, if_neg front, if_pos (not_le.mp order).le]
              · rw [newer, newer, if_neg order, if_pos (not_le.mp order).le]
        · rw [if_neg inside, if_neg inside]
      · rw [if_neg same, if_neg same]

/-- Ordering items leaves the latest ones. -/
theorem latestIn_inOrder (bucket : κ) (items : List α) :
    latestIn instant key bucket (inOrder instant items) = latestIn instant key bucket items := by
  induction items with
  | nil => rfl
  | cons item items ih =>
    rw [inOrder, List.insertionSort_cons, latestIn_orderedInsert, latestIn, latestIn]
    rw [inOrder] at ih
    rw [ih]

/-- In a list in order the last item of a bucket is its latest. -/
theorem get?_byBucket {items : List α}
    (ordered : items.Pairwise fun first second => instant first ≤ instant second) (bucket : κ) :
    (byBucket key items).get? bucket = latestIn instant key bucket items := by
  induction items using List.reverseRecOn with
  | nil => rfl
  | append_singleton items item ih =>
    have parts := List.pairwise_append.mp ordered
    have known := ih parts.1
    have last : byBucket key (items ++ [item]) = (byBucket key items).set (key item) item := by
      rw [byBucket, byBucket, List.map_append, Dict.ofPairs, Dict.ofPairs, List.foldl_append]
      rfl
    rw [last, Dict.get?_set, latestIn_concat, known]
    by_cases same : bucket = key item
    · rw [if_pos same, if_pos same.symm]
      cases found : latestIn instant key bucket items with
      | none => rfl
      | some earlier =>
        have before := parts.2.2 earlier (latestIn_some found).1 item List.mem_cons_self
        rw [thenItem, if_pos before]
    · rw [if_neg same, if_neg (Ne.symm same)]

/-! ## What is kept -/

/-- Two latest items of one bucket are the same. -/
theorem latestIn_unique {items : List α} {first second : α}
    (isFirst : latestIn instant key (key first) items = some first)
    (isSecond : latestIn instant key (key second) items = some second)
    (same : key first = key second) : first = second := by
  rw [same, isSecond] at isFirst
  exact (Option.some.inj isFirst).symm

/-- The items by bucket are the latest ones. -/
theorem mem_byBucket {items : List α} {item : α} :
    item ∈ (byBucket key (inOrder instant items)).values ↔
      latestIn instant key (key item) items = some item := by
  have ordered : (inOrder instant items).Pairwise fun first second =>
      instant first ≤ instant second := by
    have : Std.Total fun first second : α => instant first ≤ instant second :=
      ⟨fun _ _ => le_total _ _⟩
    have : IsTrans α fun first second => instant first ≤ instant second :=
      ⟨fun _ _ _ => le_trans⟩
    exact List.pairwise_insertionSort _ items
  have found : ∀ bucket, (byBucket key (inOrder instant items)).get? bucket =
      latestIn instant key bucket items := fun bucket => by
    rw [get?_byBucket ordered, latestIn_inOrder]
  constructor
  · intro member
    obtain ⟨entry, listed, rfl⟩ := List.mem_map.mp member
    have latest := Dict.get?_eq_some.mpr listed
    rw [found] at latest
    rw [(latestIn_some latest).2.1]
    exact latest
  · intro latest
    rw [← found] at latest
    exact List.mem_map.mpr ⟨_, Dict.get?_eq_some.mp latest, rfl⟩

/-- The recent ones are the latest items that are not before the cutoff. -/
theorem mem_recentOnes {cutoff : τ} {items : List α} {item : α} :
    item ∈ recentOnes instant key cutoff items ↔
      latestIn instant key (key item) items = some item ∧ cutoff ≤ instant item := by
  rw [recentOnes, inOrder, List.mem_insertionSort, List.mem_filter, mem_byBucket,
    decide_eq_true_eq]

/-- No item is by its bucket twice. -/
theorem nodup_byBucket (items : List α) :
    (byBucket key (inOrder instant items)).values.Nodup := by
  apply List.Nodup.of_map key
  have same : (byBucket key (inOrder instant items)).values.map key =
      (byBucket key (inOrder instant items)).keys := by
    rw [Dict.values, Dict.keys, List.map_map]
    apply List.map_congr_left
    intro entry listed
    obtain ⟨item, _, made⟩ := List.mem_map.mp (Dict.mem_ofPairs listed)
    rw [← made]
    rfl
  rw [same]
  exact (byBucket key (inOrder instant items)).distinct

variable (mono : ∀ first second, instant first ≤ instant second → key first ≤ key second)

include mono

/-- The recent ones are listed by rising instants. -/
theorem rising_recentOnes (cutoff : τ) (items : List α) :
    (recentOnes instant key cutoff items).Pairwise fun first second =>
      instant first < instant second := by
  have ordered : (recentOnes instant key cutoff items).Pairwise fun first second =>
      instant first ≤ instant second := by
    have : Std.Total fun first second : α => instant first ≤ instant second :=
      ⟨fun _ _ => le_total _ _⟩
    have : IsTrans α fun first second => instant first ≤ instant second :=
      ⟨fun _ _ _ => le_trans⟩
    exact List.pairwise_insertionSort _ _
  have different : (recentOnes instant key cutoff items).Nodup :=
    (List.perm_insertionSort _ _).nodup_iff.mpr ((nodup_byBucket items).filter _)
  apply (ordered.and different).imp_of_mem
  intro first second firstKept secondKept both
  apply lt_of_le_of_ne both.1
  intro same
  have keys : key first = key second :=
    le_antisymm (mono first second same.le) (mono second first same.ge)
  exact both.2 (latestIn_unique (mem_recentOnes.mp firstKept).1 (mem_recentOnes.mp secondKept).1
    keys)

/-- Behind a recent one are as many of them as there are later buckets. -/
theorem length_above {cutoff : τ} {items : List α} {item : α}
    (kept : item ∈ recentOnes instant key cutoff items) :
    (Ranking.above instant (recentOnes instant key cutoff items) item).length =
      (laterKeys key items (key item)).card := by
  have latest := mem_recentOnes.mp kept
  have distinct : ((Ranking.above instant (recentOnes instant key cutoff items) item).map
      key).Nodup := by
    apply List.Nodup.map_on
    · intro first firstListed second secondListed same
      have firstKept := mem_recentOnes.mp (List.mem_of_mem_filter firstListed)
      have secondKept := mem_recentOnes.mp (List.mem_of_mem_filter secondListed)
      exact latestIn_unique firstKept.1 secondKept.1 same
    · apply List.Nodup.filter
      exact (rising_recentOnes mono cutoff items).imp fun less same => less.ne (congrArg _ same)
  have same : ((Ranking.above instant (recentOnes instant key cutoff items) item).map
      key).toFinset = laterKeys key items (key item) := by
    ext bucket
    rw [List.mem_toFinset, List.mem_map, laterKeys, Finset.mem_filter, List.mem_toFinset,
      List.mem_map]
    constructor
    · rintro ⟨other, listed, rfl⟩
      have above := List.mem_filter.mp listed
      have otherLatest := (mem_recentOnes.mp above.1).1
      have later : instant item < instant other := of_decide_eq_true above.2
      refine ⟨⟨other, (latestIn_some otherLatest).1, rfl⟩, lt_of_le_of_ne ?_ ?_⟩
      · exact mono item other later.le
      · intro equal
        have one := latestIn_unique latest.1 otherLatest equal
        exact later.ne (congrArg instant one)
    · rintro ⟨⟨other, listed, rfl⟩, behind⟩
      cases found : latestIn instant key (key other) items with
      | none => exact absurd rfl (latestIn_eq_none.mp found other listed)
      | some last =>
        have known := latestIn_some found
        have later : instant item < instant last := by
          by_contra notLater
          have keys := mono last item (not_lt.mp notLater)
          rw [known.2.1] at keys
          exact absurd behind keys.not_gt
        refine ⟨last, List.mem_filter.mpr ⟨mem_recentOnes.mpr ⟨?_, ?_⟩, decide_eq_true later⟩,
          known.2.1⟩
        · rw [known.2.1]
          exact found
        · exact latest.2.trans later.le
  rw [← same, List.toFinset_card_of_nodup distinct, List.length_map]

/-- An item is kept when it is the latest of its bucket, not before the cutoff, and few buckets are
later. -/
theorem mem_retained {cutoff : τ} {count : Nat} {items : List α} {item : α} :
    item ∈ retained instant key cutoff count items ↔
      (latestIn instant key (key item) items = some item ∧ cutoff ≤ instant item) ∧
        (laterKeys key items (key item)).card < count := by
  have falling : (recentOnes instant key cutoff items).reverse.Pairwise fun first second =>
      instant second < instant first := by
    rw [List.pairwise_reverse]
    exact rising_recentOnes mono cutoff items
  have front : item ∈ retained instant key cutoff count items ↔
      item ∈ (recentOnes instant key cutoff items).reverse.take count := by
    rw [List.take_reverse, List.mem_reverse]
    rfl
  rw [front, Ranking.mem_take_of_falling falling, List.mem_reverse]
  have size : (Ranking.above instant (recentOnes instant key cutoff items).reverse item).length =
      (Ranking.above instant (recentOnes instant key cutoff items) item).length :=
    ((List.reverse_perm _).filter _).length_eq
  rw [size, ← mem_recentOnes]
  apply and_congr_right
  intro kept
  rw [length_above mono kept]

/-- What is kept is listed by rising instants. -/
theorem rising_retained (cutoff : τ) (count : Nat) (items : List α) :
    (retained instant key cutoff count items).Pairwise fun first second =>
      instant first < instant second :=
  (rising_recentOnes mono cutoff items).sublist (List.drop_sublist _ _)

/-! ## Keeping again -/

omit mono in
/-- Of the elements of a set, as many as wanted have few above them. -/
theorem card_few_above (buckets : Finset κ) (count : Nat) :
    (buckets.filter fun bucket => (buckets.filter fun other => bucket < other).card < count).card =
      min count buckets.card := by
  induction buckets using Finset.induction_on_min with
  | empty => simp
  | insert least rest below ih =>
    have absent : least ∉ rest := fun member => lt_irrefl _ (below least member)
    have lowest : ((insert least rest).filter fun other => least < other) = rest := by
      rw [Finset.filter_insert, if_neg (lt_irrefl least), Finset.filter_true_of_mem below]
    have others : ∀ bucket ∈ rest, ((insert least rest).filter fun other => bucket < other) =
        rest.filter fun other => bucket < other := by
      intro bucket member
      rw [Finset.filter_insert, if_neg (below bucket member).not_gt]
    have same : (rest.filter fun bucket =>
        ((insert least rest).filter fun other => bucket < other).card < count) =
        rest.filter fun bucket => (rest.filter fun other => bucket < other).card < count := by
      apply Finset.filter_congr
      intro bucket member
      rw [others bucket member]
    rw [Finset.filter_insert, lowest, same, Finset.card_insert_of_notMem absent]
    by_cases room : rest.card < count
    · rw [if_pos room, Finset.card_insert_of_notMem, ih]
      · omega
      · exact fun member => absent (Finset.mem_of_mem_filter _ member)
    · rw [if_neg room, ih]
      omega

/-- The latest item of a bucket of what is kept is that of all items, if it was kept. -/
theorem latestIn_retained {cutoff : τ} {count : Nat} {items : List α} {bucket : κ}
    (few : (laterKeys key items bucket).card < count) :
    latestIn instant key bucket (retained instant key cutoff count items) =
      (latestIn instant key bucket items).filter fun item => decide (cutoff ≤ instant item) := by
  cases kept : latestIn instant key bucket (retained instant key cutoff count items) with
  | some item =>
    have known := latestIn_some kept
    have latest := ((mem_retained mono).mp known.1).1
    rw [known.2.1] at latest
    rw [latest.1, Option.filter_some, if_pos (decide_eq_true latest.2)]
  | none =>
    cases found : latestIn instant key bucket items with
    | none => rfl
    | some item =>
      have known := latestIn_some found
      by_cases recent : cutoff ≤ instant item
      · exfalso
        apply latestIn_eq_none.mp kept item _ known.2.1
        rw [mem_retained mono, known.2.1]
        exact ⟨⟨found, recent⟩, few⟩
      · rw [Option.filter_some, if_neg fun kept => recent (of_decide_eq_true kept)]

omit mono in
/-- A further item adds its bucket. -/
theorem laterKeys_concat (items : List α) (item : α) (bucket : κ) :
    laterKeys key (items ++ [item]) bucket =
      laterKeys key items bucket ∪ if bucket < key item then {key item} else ∅ := by
  ext other
  simp only [laterKeys, List.map_append, List.map_cons, List.map_nil, List.toFinset_append,
    Finset.mem_filter, Finset.mem_union, List.mem_toFinset, List.mem_singleton]
  by_cases behind : bucket < key item
  · rw [if_pos behind, Finset.mem_singleton]
    constructor
    · rintro ⟨old | rfl, later⟩
      · exact Or.inl ⟨old, later⟩
      · exact Or.inr rfl
    · rintro (old | rfl)
      · exact ⟨Or.inl old.1, old.2⟩
      · exact ⟨Or.inr rfl, behind⟩
  · rw [if_neg behind]
    constructor
    · rintro ⟨old | rfl, later⟩
      · exact Or.inl ⟨old, later⟩
      · exact absurd later behind
    · rintro (old | none)
      · exact ⟨Or.inl old.1, old.2⟩
      · exact absurd none (Finset.notMem_empty _)

/-- Of the buckets behind a recent instant, the last ones are those that are kept. -/
theorem laterKeys_retained {cutoff : τ} {count : Nat} {items : List α} {item : α}
    (recent : cutoff ≤ instant item) :
    laterKeys key (retained instant key cutoff count items) (key item) =
      (laterKeys key items (key item)).filter fun bucket =>
        ((laterKeys key items (key item)).filter fun other => bucket < other).card < count := by
  have behind : ∀ bucket, key item < bucket →
      ((laterKeys key items (key item)).filter fun other => bucket < other) =
        laterKeys key items bucket := by
    intro bucket after
    rw [laterKeys, laterKeys, Finset.filter_filter]
    apply Finset.filter_congr
    intro other _
    exact and_iff_right_of_imp fun later => after.trans later
  ext bucket
  rw [laterKeys, Finset.mem_filter, List.mem_toFinset, List.mem_map, Finset.mem_filter]
  constructor
  · rintro ⟨⟨other, listed, rfl⟩, after⟩
    have kept := (mem_retained mono).mp listed
    rw [behind _ after]
    refine ⟨Finset.mem_filter.mpr ⟨?_, after⟩, kept.2⟩
    exact List.mem_toFinset.mpr (List.mem_map.mpr ⟨other, (latestIn_some kept.1.1).1, rfl⟩)
  · rintro ⟨listed, few⟩
    have parts := Finset.mem_filter.mp listed
    obtain ⟨other, member, rfl⟩ := List.mem_map.mp (List.mem_toFinset.mp parts.1)
    rw [behind _ parts.2] at few
    cases found : latestIn instant key (key other) items with
    | none => exact absurd rfl (latestIn_eq_none.mp found other member)
    | some last =>
      have known := latestIn_some found
      have later : instant item ≤ instant last := by
        by_contra earlier
        have keys := mono last item (not_le.mp earlier).le
        rw [known.2.1] at keys
        exact absurd parts.2 keys.not_gt
      refine ⟨⟨last, ?_, known.2.1⟩, parts.2⟩
      rw [mem_retained mono, known.2.1]
      exact ⟨⟨found, recent.trans later⟩, few⟩

/-- Whether few buckets are behind a recent instant does not depend on what was dropped. -/
theorem few_retained {cutoff : τ} {count : Nat} {items : List α} {item : α}
    (recent : cutoff ≤ instant item) (next : α) :
    (laterKeys key (retained instant key cutoff count items ++ [next]) (key item)).card < count ↔
      (laterKeys key (items ++ [next]) (key item)).card < count := by
  have kept : laterKeys key (retained instant key cutoff count items) (key item) =
      (laterKeys key items (key item)).filter fun bucket =>
        ((laterKeys key items (key item)).filter fun other => bucket < other).card < count :=
    laterKeys_retained mono recent
  have size := card_few_above (laterKeys key items (key item)) count
  rw [← kept] at size
  rw [laterKeys_concat, laterKeys_concat]
  by_cases few : (laterKeys key items (key item)).card < count
  · have all : laterKeys key (retained instant key cutoff count items) (key item) =
        laterKeys key items (key item) := by
      rw [kept, Finset.filter_true_of_mem]
      intro bucket _
      exact (Finset.card_filter_le _ _).trans_lt few
    rw [all]
  · have wide := not_lt.mp few
    have grows : ∀ buckets more : Finset κ, buckets.card ≤ (buckets ∪ more).card :=
      fun _ _ => Finset.card_le_card Finset.subset_union_left
    have enough : count ≤ (laterKeys key (retained instant key cutoff count items)
        (key item)).card := by omega
    exact iff_of_false (enough.trans (grows _ _)).not_gt (wide.trans (grows _ _)).not_gt

/-- An item is the latest of its bucket among what was kept and a further item exactly when it is
so among all of them. -/
theorem latestIn_retained_concat {cutoff : τ} {count : Nat} {items : List α} {item : α}
    (recent : cutoff ≤ instant item) (next : α)
    (few : (laterKeys key items (key item)).card < count) :
    latestIn instant key (key item) (retained instant key cutoff count items ++ [next]) =
        some item ↔
      latestIn instant key (key item) (items ++ [next]) = some item := by
  rw [latestIn_concat, latestIn_concat, latestIn_retained mono few]
  cases latestIn instant key (key item) items with
  | none => rfl
  | some last =>
    rw [Option.filter_some]
    by_cases kept : cutoff ≤ instant last
    · rw [if_pos (decide_eq_true kept)]
    · rw [if_neg fun same => kept (of_decide_eq_true same)]
      have earlier : instant last < instant item := (not_le.mp kept).trans_le recent
      by_cases same : key next = key item
      · rw [if_pos same, if_pos same, thenItem, thenItem]
        by_cases order : instant last ≤ instant next
        · rw [if_pos order]
        · rw [if_neg order]
          have nextOther : next ≠ item := by
            rintro rfl
            exact order earlier.le
          have lastOther : last ≠ item := by
            rintro rfl
            exact lt_irrefl _ earlier
          exact iff_of_false (fun some => nextOther (Option.some.inj some))
            fun some => lastOther (Option.some.inj some)
      · rw [if_neg same, if_neg same]
        refine iff_of_false (Option.some_ne_none item).symm fun some => ?_
        rw [Option.some.inj some] at earlier
        exact lt_irrefl _ earlier

/-- Keeping what was kept and a further item is keeping all of them, if the cutoff does not fall. -/
theorem retained_concat {cutoff later : τ} (moves : cutoff ≤ later) (count : Nat) (items : List α)
    (next : α) :
    retained instant key later count (retained instant key cutoff count items ++ [next]) =
      retained instant key later count (items ++ [next]) := by
  have rising := rising_retained mono later count
  have distinct : ∀ list, (retained instant key later count list).Nodup := fun list =>
    (rising list).imp fun less same => less.ne (congrArg instant same)
  have members : ∀ item, item ∈ retained instant key later count
      (retained instant key cutoff count items ++ [next]) ↔
        item ∈ retained instant key later count (items ++ [next]) := by
    intro item
    rw [mem_retained mono, mem_retained mono]
    by_cases recent : later ≤ instant item
    · rw [few_retained mono (moves.trans recent) next]
      apply and_congr_left
      intro few
      apply and_congr_left
      intro _
      apply latestIn_retained_concat mono (moves.trans recent)
      apply lt_of_le_of_lt _ few
      rw [laterKeys_concat]
      exact Finset.card_le_card Finset.subset_union_left
    · exact iff_of_false (fun kept => recent kept.1.2) fun kept => recent kept.1.2
  apply List.Perm.eq_of_pairwise _ (rising _) (rising _)
    ((List.perm_ext_iff_of_nodup (distinct _) (distinct _)).mpr members)
  intro first second _ _ less more
  exact absurd less more.not_gt

end DTLab.Library.Buckets
