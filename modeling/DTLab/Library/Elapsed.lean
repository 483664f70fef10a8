import Mathlib.Data.Int.Init
import Mathlib.Data.List.Basic
import Mathlib.Order.Bounds.Basic
import Mathlib.Algebra.Order.Ring.Int
import Mathlib.Tactic.Common

/-!
# Time that elapses while something holds

Instants and readings are numbers of the smallest unit of time. `total` counts the units between
two of them at which a predicate holds, and `balance` counts them with a sign. A clock shows a
reading at each instant, and it may be put forward or back: `Undistorted` says that this happens
only where it skips and repeats no reading at which the predicate holds. Such a clock shows as much
of that time as elapses, and it reaches a reading when as much has elapsed as the reading says.
-/

namespace DTLab.Library.Elapsed

variable (busy : Int → Prop) [DecidablePred busy]

/-- How many units of time the predicate holds from an instant up to another one. -/
def total (first last : Int) : Nat :=
  (List.range (last - first).toNat).countP fun units : Nat => decide (busy (first + units))

/-- How many units of time the predicate holds from an instant to another one, less than nothing
backwards. -/
def balance (first last : Int) : Int := total busy first last - total busy last first

variable {busy} {first middle last : Int}

/-! ## Totals -/

/-- No time elapses backwards. -/
theorem total_of_le (back : last ≤ first) : total busy first last = 0 := by
  rw [total, Int.toNat_eq_zero.mpr (by omega)]
  rfl

/-- Predicates that hold at the same instants have the same totals. -/
theorem total_congr {other : Int → Prop} [DecidablePred other]
    (same : ∀ instant, busy instant ↔ other instant) (first last : Int) :
    total busy first last = total other first last := by
  apply List.countP_congr
  intro units _
  rw [decide_eq_true_eq, decide_eq_true_eq]
  exact same _

/-- The total behind one more unit. -/
theorem total_succ (ordered : first ≤ last) :
    total busy first (last + 1) = total busy first last + if busy last then 1 else 0 := by
  have units : (last + 1 - first).toNat = (last - first).toNat + 1 := by omega
  have here : first + ((last - first).toNat : Int) = last := by omega
  rw [total, total, units, List.range_succ, List.countP_append, List.countP_singleton, here]
  by_cases holds : busy last
  · rw [if_pos (decide_eq_true holds), if_pos holds]
  · rw [if_neg (by simpa using holds), if_neg holds]

/-- Totals of adjacent intervals add up. -/
theorem total_add (before : first ≤ middle) (after : middle ≤ last) :
    total busy first middle + total busy middle last = total busy first last := by
  induction last, after using Int.leInduction with
  | base => rw [total_of_le le_rfl, add_zero]
  | succ last after ih => rw [total_succ after, total_succ (before.trans after), ← add_assoc, ih]

/-- The total of one unit. -/
theorem total_succ_self (instant : Int) :
    total busy instant (instant + 1) = if busy instant then 1 else 0 := by
  rw [total_succ le_rfl, total_of_le le_rfl, zero_add]

/-- Nothing elapses where the predicate never holds. -/
theorem total_eq_zero (never : ∀ instant, first ≤ instant → instant < last → ¬ busy instant) :
    total busy first last = 0 := by
  rw [total, List.countP_eq_zero]
  intro units member
  have short := List.mem_range.mp member
  rw [decide_eq_true_eq]
  exact never _ (by omega) (by omega)

/-- Everything elapses where the predicate always holds. -/
theorem total_eq_sub (ordered : first ≤ last)
    (always : ∀ instant, first ≤ instant → instant < last → busy instant) :
    (total busy first last : Int) = last - first := by
  have all : total busy first last = (List.range (last - first).toNat).length := by
    rw [total, List.countP_eq_length]
    intro units member
    have short := List.mem_range.mp member
    rw [decide_eq_true_eq]
    exact always _ (by omega) (by omega)
  rw [all, List.length_range]
  omega

/-- No more elapses than there is. -/
theorem total_le_sub (first last : Int) : total busy first last ≤ (last - first).toNat := by
  have bounded : total busy first last ≤ (List.range (last - first).toNat).length :=
    List.countP_le_length
  rw [List.length_range] at bounded
  exact bounded

/-- More elapses up to a later instant. -/
theorem total_mono (ordered : middle ≤ last) : total busy first middle ≤ total busy first last := by
  by_cases before : first ≤ middle
  · rw [← total_add before ordered]
    omega
  · rw [total_of_le (by omega)]
    omega

/-- The least instant at which some time has elapsed is the one behind the last of its units. -/
theorem isLeast_total (amount : Nat) (ordered : first < last)
    (elapsed : total busy first last = amount) (holds : busy (last - 1)) :
    IsLeast {instant | first ≤ instant ∧ total busy first instant = amount} last := by
  constructor
  · exact ⟨ordered.le, elapsed⟩
  · rintro instant ⟨after, same⟩
    by_contra early
    have step : total busy first (last - 1 + 1) = total busy first (last - 1) + 1 := by
      rw [total_succ (by omega), if_pos holds]
    rw [sub_add_cancel] at step
    have fewer : total busy first instant ≤ total busy first (last - 1) :=
      total_mono (by omega)
    omega

/-! ## Balances -/

/-- Forwards the balance is the total. -/
theorem balance_of_le (ordered : first ≤ last) :
    balance busy first last = total busy first last := by
  rw [balance, total_of_le ordered, Nat.cast_zero, sub_zero]

/-- The balance behind one more unit. -/
theorem balance_succ (first last : Int) :
    balance busy first (last + 1) = balance busy first last + if busy last then 1 else 0 := by
  by_cases ordered : first ≤ last
  · rw [balance_of_le ordered, balance_of_le (by omega), total_succ ordered]
    split_ifs <;> simp
  · have backwards : total busy last (last + 1) + total busy (last + 1) first =
        total busy last first := total_add (by omega) (by omega)
    have none : total busy first last = 0 := total_of_le (by omega)
    have none' : total busy first (last + 1) = 0 := total_of_le (by omega)
    rw [total_succ_self] at backwards
    rw [balance, balance, none, none']
    split_ifs at backwards ⊢ <;> omega

/-- The balance grows by the total. -/
theorem balance_add (origin : Int) (ordered : first ≤ last) :
    balance busy origin last = balance busy origin first + total busy first last := by
  induction last, ordered using Int.leInduction with
  | base => rw [total_of_le le_rfl, Nat.cast_zero, add_zero]
  | succ last ordered ih =>
    rw [balance_succ, ih, total_succ ordered]
    split_ifs <;> simp [add_assoc]

/-- The balance grows. -/
theorem balance_mono (origin : Int) (ordered : first ≤ last) :
    balance busy origin first ≤ balance busy origin last := by
  rw [balance_add origin ordered]
  omega

/-- Where the predicate does not hold, no balance changes. -/
theorem balance_congr (origin : Int)
    (never : ∀ instant, min first last ≤ instant → instant < max first last → ¬ busy instant) :
    balance busy origin first = balance busy origin last := by
  rcases le_total first last with ordered | ordered
  · rw [min_eq_left ordered, max_eq_right ordered] at never
    rw [balance_add origin ordered, total_eq_zero never, Nat.cast_zero, add_zero]
  · rw [min_eq_right ordered, max_eq_left ordered] at never
    rw [balance_add origin ordered, total_eq_zero never, Nat.cast_zero, add_zero]

/-! ## Clocks -/

variable {reading : Int → Int} {amount : Nat} {target deadline : Int}

/-- Between two instants a clock skips and repeats no reading at which the predicate holds. -/
def Undistorted (busy : Int → Prop) (reading : Int → Int) (first last : Int) : Prop :=
  ∀ instant, first < instant → instant ≤ last → ∀ shown,
    min (reading (instant - 1) + 1) (reading instant) ≤ shown →
      shown < max (reading (instant - 1) + 1) (reading instant) → ¬ busy shown

/-- A clock without distortion shows the time that elapses. -/
theorem total_reading (steady : Undistorted busy reading first last) (after : first ≤ middle)
    (until_ : middle ≤ last) :
    (total (fun instant => busy (reading instant)) first middle : Int) =
      balance busy (reading first) (reading middle) := by
  induction middle, after using Int.leInduction with
  | base => rw [total_of_le le_rfl, balance, sub_self, Nat.cast_zero]
  | succ middle after ih =>
    have change := steady (middle + 1) (by omega) until_
    rw [add_sub_cancel_right] at change
    have jump : balance busy (reading first) (reading middle + 1) =
        balance busy (reading first) (reading (middle + 1)) := balance_congr _ change
    rw [total_succ after, ← jump, balance_succ, ← ih (by omega)]
    split_ifs <;> simp

/-- A clock without distortion reaches a reading for the first time when as much time has elapsed as
it shows, directly behind the reading before. -/
theorem isLeast_reading (ordered : first < deadline) (later : reading first < target)
    (shown : total busy (reading first) target = amount) (holds : busy (target - 1))
    (before : ∀ instant < deadline, reading instant < target) (reached : target ≤ reading deadline)
    (steady : Undistorted busy reading first deadline) :
    reading (deadline - 1) = target - 1 ∧
      IsLeast {instant | first ≤ instant ∧
        total (fun instant => busy (reading instant)) first instant = amount} deadline := by
  have last : reading (deadline - 1) ≤ target - 1 := by
    have less := before (deadline - 1) (by omega)
    omega
  have goal : balance busy (reading first) target = amount := by
    rw [balance_of_le later.le, shown]
  have goal' : balance busy (reading first) (target - 1) = amount - 1 := by
    have step : balance busy (reading first) (target - 1 + 1) = _ := balance_succ _ _
    rw [sub_add_cancel, if_pos holds, goal] at step
    omega
  have elapsed : (total (fun instant => busy (reading instant)) first (deadline - 1) : Int) =
      balance busy (reading first) (reading (deadline - 1)) :=
    total_reading steady (by omega) (by omega)
  have elapsed' := total_reading steady ordered.le le_rfl
  have upper : balance busy (reading first) (reading (deadline - 1)) ≤ _ := balance_mono _ last
  have lower : balance busy (reading first) target ≤ _ := balance_mono _ reached
  have step : total (fun instant => busy (reading instant)) first (deadline - 1 + 1) = _ :=
    total_succ (by omega)
  rw [sub_add_cancel] at step
  have works : busy (reading (deadline - 1)) := by
    by_contra idle
    rw [if_neg idle] at step
    omega
  rw [if_pos works] at step
  have exact_ : reading (deadline - 1) = target - 1 := by
    by_contra other
    have below : reading (deadline - 1) + 1 ≤ target - 1 := by omega
    have grown : balance busy (reading first) (reading (deadline - 1) + 1) = _ := balance_succ _ _
    rw [if_pos works] at grown
    have bounded : balance busy (reading first) (reading (deadline - 1) + 1) ≤ _ :=
      balance_mono _ below
    omega
  refine ⟨exact_, isLeast_total amount ordered (by omega) works⟩

end DTLab.Library.Elapsed
