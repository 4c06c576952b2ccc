import Mathlib.Data.List.Sort
import Mathlib.Data.List.Range

/-!
# Runs of consecutive numbers

A list of numbers is cut where a number does not follow the one before it.  The numbers of the runs
are those of the list, and if the list increases, two runs neither overlap nor touch.
-/

namespace Collections

/-- The numbers from the first to the last. -/
def numbersOf (interval : ℕ × ℕ) : List ℕ :=
  List.range' interval.1 (interval.2 + 1 - interval.1)

/-- There is a number between the two. -/
def Apart (left right : ℕ × ℕ) : Prop :=
  left.2 + 1 < right.1

/-- The runs of a list after a run that began at `start` and has come to `previous`. -/
def runsFrom (start previous : ℕ) : List ℕ → List (ℕ × ℕ)
  | [] => [(start, previous)]
  | number :: rest =>
      if number = previous + 1 then runsFrom start number rest
      else (start, previous) :: runsFrom number number rest

variable {start previous : ℕ} {numbers : List ℕ}

theorem numbersOf_self (number : ℕ) : numbersOf (number, number) = [number] := by
  simp [numbersOf]

theorem numbersOf_succ (ordered : start ≤ previous) :
    numbersOf (start, previous + 1) = numbersOf (start, previous) ++ [previous + 1] := by
  have length : previous + 1 + 1 - start = (previous + 1 - start) + 1 := by omega
  have last : start + 1 * (previous + 1 - start) = previous + 1 := by omega
  simp only [numbersOf, length, List.range'_concat, last]

theorem mem_numbersOf {interval : ℕ × ℕ} {number : ℕ} :
    number ∈ numbersOf interval ↔ interval.1 ≤ number ∧ number ≤ interval.2 := by
  simp only [numbersOf, List.mem_range'_1]
  omega

theorem runsFrom_ne_nil : runsFrom start previous numbers ≠ [] := by
  induction numbers generalizing start previous with
  | nil => simp [runsFrom]
  | cons number rest ih =>
      rw [runsFrom]
      split
      · exact ih
      · simp

theorem flatMap_runsFrom (ordered : start ≤ previous) :
    (runsFrom start previous numbers).flatMap numbersOf =
      numbersOf (start, previous) ++ numbers := by
  induction numbers generalizing start previous with
  | nil => simp [runsFrom]
  | cons number rest ih =>
      by_cases follows : number = previous + 1
      · subst follows
        rw [runsFrom, if_pos rfl, ih (by omega), numbersOf_succ ordered, List.append_assoc]
        rfl
      · rw [runsFrom, if_neg follows, List.flatMap_cons, ih le_rfl, numbersOf_self]
        rfl

theorem le_of_mem_runsFrom {interval : ℕ × ℕ} (ordered : start ≤ previous)
    (member : interval ∈ runsFrom start previous numbers) :
    interval.1 ≤ interval.2 := by
  induction numbers generalizing start previous with
  | nil =>
      rw [runsFrom, List.mem_singleton] at member
      rwa [member]
  | cons number rest ih =>
      rw [runsFrom] at member
      split at member
      · exact ih (by omega) member
      · rcases List.mem_cons.mp member with rfl | member
        · exact ordered
        · exact ih le_rfl member

theorem start_le_of_mem_runsFrom {interval : ℕ × ℕ} (ordered : start ≤ previous)
    (increasing : (previous :: numbers).Pairwise (· < ·))
    (member : interval ∈ runsFrom start previous numbers) :
    start ≤ interval.1 := by
  induction numbers generalizing start previous with
  | nil =>
      rw [runsFrom, List.mem_singleton] at member
      rw [member]
  | cons number rest ih =>
      have above : previous < number := List.rel_of_pairwise_cons increasing (by simp)
      rw [runsFrom] at member
      split at member
      · exact ih (by omega) increasing.of_cons member
      · rcases List.mem_cons.mp member with rfl | member
        · exact le_rfl
        · have fromNumber := ih le_rfl increasing.of_cons member
          omega

/-- In an increasing list the runs are as long as possible. -/
theorem pairwise_apart_runsFrom (ordered : start ≤ previous)
    (increasing : (previous :: numbers).Pairwise (· < ·)) :
    (runsFrom start previous numbers).Pairwise Apart := by
  induction numbers generalizing start previous with
  | nil => simp [runsFrom]
  | cons number rest ih =>
      have above : previous < number := List.rel_of_pairwise_cons increasing (by simp)
      rw [runsFrom]
      split
      · exact ih (by omega) increasing.of_cons
      · apply List.pairwise_cons.mpr
        refine ⟨fun interval member => ?_, ih le_rfl increasing.of_cons⟩
        have fromNumber := start_le_of_mem_runsFrom le_rfl increasing.of_cons member
        unfold Apart
        dsimp only
        omega

/-- Sorting items with distinct keys puts the keys in strict order. -/
theorem pairwise_lt_sortedBy {Item Key : Type} [LinearOrder Key] {key : Item → Key}
    {items : List Item} (distinct : (items.map key).Nodup) :
    (items.insertionSort fun first second => key first ≤ key second).Pairwise
      fun first second => key first < key second := by
  let byKey first second := key first ≤ key second
  have : Std.Total byKey := ⟨fun first second => le_total (key first) (key second)⟩
  have : IsTrans Item byKey := ⟨fun _ _ _ => le_trans⟩
  have sorted := List.pairwise_insertionSort byKey items
  have nodup := ((List.perm_insertionSort byKey items).map key).nodup_iff.mpr distinct
  exact (sorted.and (List.pairwise_map.mp nodup)).imp fun ⟨atMost, differ⟩ =>
    lt_of_le_of_ne atMost differ

end Collections
