import Mathlib

/-!
# Keeping the newest items

Of the suffixes of a list that meet a limit, `LongestSuffix` is the one that has all others as
suffixes.  Dropping items from the front finds it for a limit on the number of items, a scan from
the end finds it for a limit on their total size, and for both limits the scan goes over what is
left after dropping.

In a list sorted by a strict order, an item is among the first `count` exactly if fewer than `count`
items come before it in the order.
-/

namespace Collections

variable {α : Type}

/-- The longest end of a list that fits. -/
structure LongestSuffix (fits : List α → Prop) (all kept : List α) : Prop where
  suffix : kept <:+ all
  meets : fits kept
  longest : ∀ other, other <:+ all → fits other → other <:+ kept

/-- The first items, up to the one that takes the total above the limit. -/
def takeWithin (size : α → ℕ) (limit : ℕ) : ℕ → List α → List α
  | _, [] => []
  | used, item :: rest =>
      if used + size item > limit then []
      else item :: takeWithin size limit (used + size item) rest

/-- The size of all items. -/
def totalSize (size : α → ℕ) (items : List α) : ℕ :=
  (items.map size).sum

section Scan

variable {size : α → ℕ} {limit : ℕ}

theorem takeWithin_prefix (used : ℕ) (items : List α) :
    takeWithin size limit used items <+: items := by
  induction items generalizing used with
  | nil => exact List.prefix_rfl
  | cons item rest ih =>
      rw [takeWithin]
      split
      · exact List.nil_prefix
      · exact List.cons_prefix_cons.mpr ⟨rfl, ih _⟩

theorem totalSize_takeWithin {used : ℕ} (within : used ≤ limit) (items : List α) :
    used + totalSize size (takeWithin size limit used items) ≤ limit := by
  induction items generalizing used with
  | nil => simpa [takeWithin, totalSize] using within
  | cons item rest ih =>
      rw [takeWithin]
      split
      case isTrue => simpa [totalSize] using within
      case isFalse fits =>
        have later := ih (Nat.le_of_not_gt fits)
        simp only [totalSize, List.map_cons, List.sum_cons] at later ⊢
        omega

theorem prefix_takeWithin {used : ℕ} {items other : List α} (isPrefix : other <+: items)
    (fits : used + totalSize size other ≤ limit) :
    other <+: takeWithin size limit used items := by
  induction items generalizing used other with
  | nil => exact isPrefix
  | cons item rest ih =>
      cases other with
      | nil => exact List.nil_prefix
      | cons first others =>
          rcases List.cons_prefix_cons.mp isPrefix with ⟨rfl, others⟩
          simp only [totalSize, List.map_cons, List.sum_cons] at fits
          rw [takeWithin, if_neg (by omega)]
          apply List.cons_prefix_cons.mpr
          refine ⟨rfl, ih others ?_⟩
          simp only [totalSize]
          omega

theorem totalSize_reverse (items : List α) :
    totalSize size items.reverse = totalSize size items := by
  simp [totalSize]

theorem longestSuffix_takeWithin (items : List α) :
    LongestSuffix (totalSize size · ≤ limit) items
      (takeWithin size limit 0 items.reverse).reverse where
  suffix := by
    rw [← List.reverse_prefix, List.reverse_reverse]
    exact takeWithin_prefix _ _
  meets := by
    have within := @totalSize_takeWithin α size limit 0 (Nat.zero_le limit) items.reverse
    rwa [Nat.zero_add, ← totalSize_reverse] at within
  longest := by
    intro other isSuffix fits
    rw [← List.reverse_prefix, List.reverse_reverse]
    apply prefix_takeWithin (List.reverse_prefix.mpr isSuffix)
    rwa [Nat.zero_add, totalSize_reverse]

end Scan

theorem longestSuffix_drop (count : ℕ) (items : List α) :
    LongestSuffix (·.length ≤ count) items (items.drop (items.length - count)) where
  suffix := List.drop_suffix _ _
  meets := by
    rw [List.length_drop]
    omega
  longest := by
    intro other isSuffix fits
    apply List.suffix_of_suffix_length_le isSuffix (List.drop_suffix _ _)
    have shorter := isSuffix.length_le
    rw [List.length_drop]
    omega

theorem longestSuffix_self (items : List α) : LongestSuffix (fun _ => True) items items where
  suffix := List.suffix_rfl
  meets := trivial
  longest := fun _ isSuffix _ => isSuffix

namespace LongestSuffix

variable {first second : List α → Prop} {all middle kept : List α}

/-- One limit after the other finds the longest suffix that meets both. -/
theorem and (closed : ∀ items other, other <:+ items → first items → first other)
    (outer : LongestSuffix first all middle) (inner : LongestSuffix second middle kept) :
    LongestSuffix (fun items => first items ∧ second items) all kept where
  suffix := inner.suffix.trans outer.suffix
  meets := ⟨closed _ _ inner.suffix outer.meets, inner.meets⟩
  longest := by
    rintro other isSuffix ⟨fitsFirst, fitsSecond⟩
    exact inner.longest other (outer.longest other isSuffix fitsFirst) fitsSecond

theorem eq_of_fits (longest : LongestSuffix first all kept) (fits : first all) : kept = all :=
  longest.suffix.eq_of_length_le (longest.longest all List.suffix_rfl fits).length_le

end LongestSuffix

end Collections
