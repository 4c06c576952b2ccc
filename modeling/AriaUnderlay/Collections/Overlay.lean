import AriaUnderlay.Collections.Keyed

/-!
# Writing canonical entries over a map

Where two entries of a map denote one object, `rekey` keeps the one under the greater raw key.  So
canonical entries that are written over a map whose raw keys are arbitrary need not all survive: an
entry that was there before and comes later masks them.
-/

namespace Collections

variable {κ ν : Type} [Ord κ] [Std.TransOrd κ]
variable {key : ν → κ} {normalize : ν → ν} {map : BTreeMap κ ν} {index : κ}

theorem mem_of_getElem?_eq_some {value : ν} (found : map[index]? = some value) : index ∈ map := by
  rw [Std.ExtTreeMap.mem_iff_isSome_getElem?, found]
  rfl

theorem exists_getElem?_of_mem (member : index ∈ map) : ∃ value, map[index]? = some value :=
  Option.isSome_iff_exists.mp (Std.ExtTreeMap.mem_iff_isSome_getElem?.mp member)

/-- The last of the entries that denote the object `index`. -/
structure Stands (key : ν → κ) (normalize : ν → ν) (map : BTreeMap κ ν) (index old : κ)
    (original : ν) : Prop where
  present : map[old]? = some original
  denotes : key (normalize original) = index
  last : ∀ (other : κ) (value : ν), map[other]? = some value → key (normalize value) = index →
    compare old other ≠ .lt

section Rekey

variable [Std.LawfulEqOrd κ]

theorem getElem?_ofList_iff_last {entries : List (κ × ν)}
    (ordered : entries.Pairwise fun left right => compare left.1 right.1 = .lt) {value : ν} :
    (Std.ExtTreeMap.ofList
        (entries.map fun entry => (key (normalize entry.2), normalize entry.2)) compare)[index]? =
          some value ↔
      ∃ entry ∈ entries, key (normalize entry.2) = index ∧ normalize entry.2 = value ∧
        ∀ other ∈ entries, key (normalize other.2) = index → compare entry.1 other.1 ≠ .lt := by
  rw [Std.ExtTreeMap.ofList_eq_insertMany_empty]
  induction entries using List.reverseRecOn with
  | nil => simp
  | append_singleton entries last ih =>
      obtain ⟨orderedInit, -, before⟩ := List.pairwise_append.mp ordered
      rw [List.map_append, List.map_singleton, Std.ExtTreeMap.insertMany_append,
        Std.ExtTreeMap.insertMany_list_singleton, Std.ExtTreeMap.getElem?_insert]
      split
      · rename_i isLast
        have denotes : key (normalize last.2) = index := Std.LawfulEqCmp.eq_of_compare isLast
        -- the entry that was inserted last stays, and no other one is last
        constructor
        · rintro ⟨rfl⟩
          refine ⟨last, by simp, denotes, rfl, ?_⟩
          intro other isOther _ later
          rcases List.mem_append.mp isOther with isInit | isSelf
          · have earlier := before other isInit last (List.mem_singleton_self last)
            rw [Std.OrientedCmp.gt_iff_lt.mpr earlier] at later
            cases later
          · rw [List.mem_singleton.mp isSelf, Std.ReflOrd.compare_self] at later
            cases later
        · rintro ⟨entry, isEntry, -, rfl, isMaximal⟩
          rcases List.mem_append.mp isEntry with isInit | isSelf
          · have later := before entry isInit last (List.mem_singleton_self last)
            exact absurd later (isMaximal last (by simp) denotes)
          · rw [List.mem_singleton.mp isSelf]
      · rename_i notLast
        have differs : key (normalize last.2) ≠ index := by
          rintro rfl
          exact notLast Std.ReflOrd.compare_self
        rw [ih orderedInit]
        constructor
        · rintro ⟨entry, isEntry, denotes, same, isMaximal⟩
          refine ⟨entry, List.mem_append_left _ isEntry, denotes, same, ?_⟩
          intro other isOther otherDenotes
          rcases List.mem_append.mp isOther with isInit | isSelf
          · exact isMaximal other isInit otherDenotes
          · exact absurd (List.mem_singleton.mp isSelf ▸ otherDenotes) differs
        · rintro ⟨entry, isEntry, denotes, same, isMaximal⟩
          rcases List.mem_append.mp isEntry with isInit | isSelf
          · exact ⟨entry, isInit, denotes, same, fun other isOther =>
              isMaximal other (List.mem_append_left _ isOther)⟩
          · exact absurd (List.mem_singleton.mp isSelf ▸ denotes) differs

theorem getElem?_rekey_eq_some_iff {value : ν} :
    (rekey key normalize map)[index]? = some value ↔
      ∃ (old : κ) (original : ν),
        Stands key normalize map index old original ∧ normalize original = value := by
  rw [rekey, getElem?_ofList_iff_last Std.ExtTreeMap.ordered_keys_toList]
  simp only [Prod.exists, Prod.forall, Std.ExtTreeMap.mem_toList_iff_getElem?_eq_some]
  constructor
  · rintro ⟨old, original, present, denotes, same, last⟩
    exact ⟨old, original, ⟨present, denotes, last⟩, same⟩
  · rintro ⟨old, original, ⟨present, denotes, last⟩, same⟩
    exact ⟨old, original, present, denotes, same, last⟩

variable [DecidableEq κ]

/-- Some entry that denotes the object `index` comes after that key. -/
def isMasked (key : ν → κ) (normalize : ν → ν) (map : BTreeMap κ ν) (index : κ) : Bool :=
  map.toList.any fun entry => key (normalize entry.2) = index ∧ compare index entry.1 = .lt

theorem isMasked_iff :
    isMasked key normalize map index = true ↔
      ∃ (old : κ) (original : ν), map[old]? = some original ∧
        key (normalize original) = index ∧ compare index old = .lt := by
  simp [isMasked, Std.ExtTreeMap.mem_toList_iff_getElem?_eq_some]

end Rekey

/-- The map consists of the canonical entries that were written and of the rest. -/
structure Overlay (key : ν → κ) (normalize : ν → ν) (written rest total : BTreeMap κ ν) : Prop where
  canonical : Canonical key normalize written
  apart : ∀ index ∈ written, index ∉ rest
  getElem? : ∀ index : κ, total[index]? = written[index]?.or rest[index]?

namespace Overlay

variable {written rest total : BTreeMap κ ν} (overlay : Overlay key normalize written rest total)

include overlay

variable {old : κ} {original : ν}

theorem of_rest (present : rest[old]? = some original) :
    total[old]? = some original := by
  have unwritten : written[old]? = none := by
    apply Std.ExtTreeMap.getElem?_eq_none
    intro isWritten
    refine overlay.apart old isWritten ?_
    rw [Std.ExtTreeMap.mem_iff_isSome_getElem?, present]
    rfl
  rw [overlay.getElem?, unwritten, present]
  rfl

theorem of_written (present : written[old]? = some original) :
    total[old]? = some original := by
  rw [overlay.getElem?, present]
  rfl

theorem origin (present : total[old]? = some original) :
    written[old]? = some original ∨ rest[old]? = some original := by
  rw [overlay.getElem?, Option.or_eq_some_iff] at present
  exact present.imp_right And.right

/-- A written entry is the entry of its own key. -/
theorem written_key (present : written[old]? = some original)
    (denotes : key (normalize original) = index) : old = index := by
  rcases overlay.canonical old original present with ⟨ownKey, normal⟩
  rw [normal, ownKey] at denotes
  exact denotes

variable [Std.LawfulEqOrd κ]

/-- Of an object that was not written the rest decides. -/
theorem getElem?_rekey_of_unwritten (unwritten : written[index]? = none) :
    (rekey key normalize total)[index]? = (rekey key normalize rest)[index]? := by
  have fromRest : ∀ {old : κ} {original : ν}, total[old]? = some original →
      key (normalize original) = index → rest[old]? = some original := by
    intro old original present denotes
    rcases overlay.origin present with isWritten | isRest
    · rw [overlay.written_key isWritten denotes, unwritten] at isWritten
      cases isWritten
    · exact isRest
  apply Option.ext
  intro value
  rw [getElem?_rekey_eq_some_iff, getElem?_rekey_eq_some_iff]
  constructor
  · rintro ⟨old, original, ⟨present, denotes, last⟩, same⟩
    exact ⟨old, original, ⟨fromRest present denotes, denotes,
      fun other value isOther => last other value (overlay.of_rest isOther)⟩, same⟩
  · rintro ⟨old, original, ⟨present, denotes, last⟩, same⟩
    exact ⟨old, original, ⟨overlay.of_rest present, denotes,
      fun other value isOther otherDenotes =>
        last other value (fromRest isOther otherDenotes) otherDenotes⟩, same⟩

variable [DecidableEq κ]

/-- Of a written object that is masked the rest decides. -/
theorem getElem?_rekey_of_masked (masked : isMasked key normalize rest index = true) :
    (rekey key normalize total)[index]? = (rekey key normalize rest)[index]? := by
  obtain ⟨late, lateValue, isLate, lateDenotes, after⟩ := isMasked_iff.mp masked
  apply Option.ext
  intro value
  rw [getElem?_rekey_eq_some_iff, getElem?_rekey_eq_some_iff]
  constructor
  · rintro ⟨old, original, ⟨present, denotes, last⟩, same⟩
    refine ⟨old, original, ⟨?_, denotes,
      fun other value isOther => last other value (overlay.of_rest isOther)⟩, same⟩
    rcases overlay.origin present with isWritten | isRest
    · -- the written entry is not the last one
      obtain rfl := overlay.written_key isWritten denotes
      exact absurd after (last late lateValue (overlay.of_rest isLate) lateDenotes)
    · exact isRest
  · rintro ⟨old, original, ⟨present, denotes, last⟩, same⟩
    refine ⟨old, original, ⟨overlay.of_rest present, denotes, ?_⟩, same⟩
    intro other value isOther otherDenotes later
    rcases overlay.origin isOther with isWritten | isRest
    · obtain rfl := overlay.written_key isWritten otherDenotes
      exact last late lateValue isLate lateDenotes (Std.TransCmp.lt_trans later after)
    · exact last other value isRest otherDenotes later

/-- A written object that is not masked stays. -/
theorem getElem?_rekey_of_written {value : ν} (isWritten : written[index]? = some value)
    (unmasked : isMasked key normalize rest index = false) :
    (rekey key normalize total)[index]? = some value := by
  rcases overlay.canonical index value isWritten with ⟨ownKey, normal⟩
  refine getElem?_rekey_eq_some_iff.mpr ⟨index, value,
    ⟨overlay.of_written isWritten, by rw [normal, ownKey], ?_⟩, normal⟩
  intro other otherValue isOther denotes later
  rcases overlay.origin isOther with isWritten | isRest
  · rw [overlay.written_key isWritten denotes, Std.ReflOrd.compare_self] at later
    cases later
  · rw [isMasked_iff.mpr ⟨other, otherValue, isRest, denotes, later⟩] at unmasked
    cases unmasked

/-- A written value is seen in the end exactly if nothing masks it or the rest agrees with it. -/
theorem getElem?_rekey_iff_of_written {value : ν} (isWritten : written[index]? = some value) :
    (rekey key normalize total)[index]? = some value ↔
      isMasked key normalize rest index = false ∨
        (rekey key normalize rest)[index]? = some value := by
  cases masked : isMasked key normalize rest index with
  | false => simp [overlay.getElem?_rekey_of_written isWritten masked]
  | true => simp [overlay.getElem?_rekey_of_masked masked]

end Overlay

end Collections
