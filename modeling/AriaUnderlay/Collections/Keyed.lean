import Mathlib

/-!
# Maps keyed by their values

Ordered maps whose entries sit under a key computed from the value itself.  Such a map is rebuilt
from its values by `rekey`, which also normalizes every value.  `Canonical` describes the maps that
a rebuild leaves alone.  `gather` is the map that a loop of inserts leaves behind; where two values
have one key the last one stays, so nothing is lost exactly when such values agree.

The last section is about replaying a list of actions: it reads the final value off the actions
that matter, without following the order of the others.
-/

namespace Collections

/-- Ordered maps. -/
abbrev BTreeMap (κ ν : Type) [Ord κ] : Type := Std.ExtTreeMap κ ν compare

/-- Ordered sets. -/
abbrev BTreeSet (κ : Type) [Ord κ] : Type := Std.ExtTreeSet κ compare

section Rekey

variable {κ ν : Type} [Ord κ] [Std.TransOrd κ] [Std.LawfulEqOrd κ]
variable {key : ν → κ} {normalize : ν → ν}

/-- Normalize every value and store it under its own key; of equal keys the last one stays. -/
def rekey (key : ν → κ) (normalize : ν → ν) (map : BTreeMap κ ν) : BTreeMap κ ν :=
  .ofList (map.toList.map fun entry => (key (normalize entry.2), normalize entry.2))

/-- Every entry is normalized and stored under its own key. -/
def Canonical (key : ν → κ) (normalize : ν → ν) (map : BTreeMap κ ν) : Prop :=
  ∀ index value, map[index]? = some value → key value = index ∧ normalize value = value

theorem mem_of_getElem?_ofList {entries : List (κ × ν)} {index : κ} {value : ν}
    (found : (Std.ExtTreeMap.ofList entries compare)[index]? = some value) :
    (index, value) ∈ entries := by
  rw [Std.ExtTreeMap.ofList_eq_insertMany_empty] at found
  induction entries using List.reverseRecOn with
  | nil => simp at found
  | append_singleton entries last ih =>
      rw [Std.ExtTreeMap.insertMany_append, Std.ExtTreeMap.insertMany_list_singleton,
        Std.ExtTreeMap.getElem?_insert] at found
      split at found
      · rename_i isLast
        have sameKey : last.1 = index := Std.LawfulEqCmp.eq_of_compare isLast
        have sameValue : last.2 = value := by simpa using found
        simp [← sameKey, ← sameValue]
      · exact List.mem_append_left _ (ih found)

theorem exists_getElem?_ofList {entries : List (κ × ν)} {index : κ} {value : ν}
    (member : (index, value) ∈ entries) :
    ∃ kept, (Std.ExtTreeMap.ofList entries compare)[index]? = some kept := by
  rw [Std.ExtTreeMap.ofList_eq_insertMany_empty]
  induction entries using List.reverseRecOn with
  | nil => simp at member
  | append_singleton entries last ih =>
      rw [Std.ExtTreeMap.insertMany_append, Std.ExtTreeMap.insertMany_list_singleton,
        Std.ExtTreeMap.getElem?_insert]
      split
      · exact ⟨last.2, rfl⟩
      · rename_i notLast
        rcases List.mem_append.mp member with member | isLast
        · exact ih member
        · simp only [List.mem_singleton] at isLast
          simp [← isLast] at notLast

/-- A map is built again from its entries. -/
theorem ofList_toList (map : BTreeMap κ ν) : Std.ExtTreeMap.ofList map.toList compare = map := by
  apply Std.ExtTreeMap.ext_getElem?
  intro index
  cases found : map[index]? with
  | some value =>
      refine Std.ExtTreeMap.getElem?_ofList_of_mem (k := index) Std.ReflOrd.compare_self
        Std.ExtTreeMap.distinct_keys_toList ?_
      exact Std.ExtTreeMap.mem_toList_iff_getElem?_eq_some.mpr found
  | none =>
      cases rebuilt : (Std.ExtTreeMap.ofList map.toList compare)[index]? with
      | none => rfl
      | some value =>
          have member := mem_of_getElem?_ofList rebuilt
          rw [Std.ExtTreeMap.mem_toList_iff_getElem?_eq_some, found] at member
          simp at member

theorem canonical_rekey (idempotent : ∀ value, normalize (normalize value) = normalize value)
    (map : BTreeMap κ ν) :
    Canonical key normalize (rekey key normalize map) := by
  intro index value found
  have member := mem_of_getElem?_ofList found
  rw [List.mem_map] at member
  rcases member with ⟨original, -, entry⟩
  rw [Prod.mk.injEq] at entry
  rcases entry with ⟨rfl, rfl⟩
  exact ⟨rfl, idempotent original.2⟩

theorem Canonical.rekey_eq_self {map : BTreeMap κ ν} (canonical : Canonical key normalize map) :
    rekey key normalize map = map := by
  have sameEntries :
      (map.toList.map fun entry => (key (normalize entry.2), normalize entry.2)) =
        map.toList := by
    conv_rhs => rw [← List.map_id map.toList]
    apply List.map_congr_left
    rintro ⟨index, value⟩ member
    rw [Std.ExtTreeMap.mem_toList_iff_getElem?_eq_some] at member
    rcases canonical index value member with ⟨ownKey, normal⟩
    simp [normal, ownKey]
  rw [rekey, sameEntries, ofList_toList]

end Rekey

section Gather

variable {κ ν : Type} [Ord κ] [Std.TransOrd κ]
variable {raw key : ν → κ} {normalize : ν → ν} {values : List ν}

/-- The values under their raw keys, inserted from left to right. -/
def gather (raw : ν → κ) (values : List ν) : BTreeMap κ ν :=
  .ofList (values.map fun value => (raw value, value))

theorem insertMany_eq_foldl (map : BTreeMap κ ν) (values : List ν) :
    map.insertMany (values.map fun value => (raw value, value)) =
      values.foldl (fun map value => map.insert (raw value) value) map := by
  induction values generalizing map with
  | nil => simp
  | cons value values ih => rw [List.map_cons, Std.ExtTreeMap.insertMany_cons, ih, List.foldl_cons]

theorem gather_eq_foldl :
    gather raw values = values.foldl (fun map value => map.insert (raw value) value) ∅ := by
  rw [gather, Std.ExtTreeMap.ofList_eq_insertMany_empty, insertMany_eq_foldl]

theorem ofList_eq_foldl (elements : List κ) :
    Std.ExtTreeSet.ofList elements compare =
      elements.foldl (fun set element => set.insert element) ∅ := by
  rw [Std.ExtTreeSet.ofList_eq_insertMany_empty]
  generalize (∅ : BTreeSet κ) = set
  induction elements generalizing set with
  | nil => simp
  | cons element elements ih => rw [Std.ExtTreeSet.insertMany_cons, ih, List.foldl_cons]

variable [Std.LawfulEqOrd κ]

theorem mem_of_getElem?_gather {index : κ} {value : ν}
    (found : (gather raw values)[index]? = some value) :
    value ∈ values ∧ raw value = index := by
  have member := mem_of_getElem?_ofList found
  rw [List.mem_map] at member
  rcases member with ⟨original, isMember, entry⟩
  rw [Prod.mk.injEq] at entry
  rcases entry with ⟨rfl, rfl⟩
  exact ⟨isMember, rfl⟩

/-- Every value's key is taken, by that value or by a later one with the same key. -/
theorem exists_getElem?_gather (raw : ν → κ) {value : ν} (member : value ∈ values) :
    ∃ kept, (gather raw values)[raw value]? = some kept :=
  exists_getElem?_ofList (List.mem_map_of_mem member)

theorem mem_of_getElem?_rekey {map : BTreeMap κ ν} {index : κ} {value : ν}
    (found : (rekey key normalize map)[index]? = some value) :
    ∃ original, ∃ old : κ,
      map[old]? = some original ∧ value = normalize original ∧ key value = index := by
  have member := mem_of_getElem?_ofList found
  rw [List.mem_map] at member
  rcases member with ⟨⟨old, original⟩, isEntry, entry⟩
  rw [Prod.mk.injEq] at entry
  rcases entry with ⟨rfl, rfl⟩
  exact ⟨original, old, Std.ExtTreeMap.mem_toList_iff_getElem?_eq_some.mp isEntry, rfl, rfl⟩

theorem exists_getElem?_rekey (key : ν → κ) (normalize : ν → ν) {map : BTreeMap κ ν} {old : κ}
    {original : ν} (found : map[old]? = some original) :
    ∃ value, (rekey key normalize map)[key (normalize original)]? = some value := by
  have entry := Std.ExtTreeMap.mem_toList_iff_getElem?_eq_some.mpr found
  exact exists_getElem?_ofList (List.mem_map_of_mem entry)

theorem mem_of_getElem?_rekey_gather {index : κ} {value : ν}
    (found : (rekey key normalize (gather raw values))[index]? = some value) :
    ∃ original ∈ values, value = normalize original ∧ key value = index := by
  rcases mem_of_getElem?_rekey found with ⟨original, old, foundRaw, isNormal, ownKey⟩
  exact ⟨original, (mem_of_getElem?_gather foundRaw).1, isNormal, ownKey⟩

section Determined

-- values that the raw map cannot tell apart have one normalized key
variable
  (determined : ∀ left ∈ values, ∀ right ∈ values,
    raw left = raw right → key (normalize left) = key (normalize right))

include determined

/-- Under the normalized key of a value stands some value of the list with that key. -/
theorem exists_getElem?_rekey_gather {value : ν} (member : value ∈ values) :
    ∃ kept ∈ values, key (normalize kept) = key (normalize value) ∧
      (rekey key normalize (gather raw values))[key (normalize value)]? =
        some (normalize kept) := by
  rcases exists_getElem?_gather raw member with ⟨stored, isStored⟩
  rcases mem_of_getElem?_gather isStored with ⟨storedMember, sameRaw⟩
  have sameKey := determined stored storedMember value member sameRaw
  rcases exists_getElem?_rekey key normalize isStored with ⟨kept, isKept⟩
  rw [sameKey] at isKept
  rcases mem_of_getElem?_rekey_gather isKept with ⟨original, isMember, rfl, ownKey⟩
  exact ⟨original, isMember, ownKey, isKept⟩

theorem mem_rekey_gather_iff {index : κ} :
    index ∈ rekey key normalize (gather raw values) ↔
      ∃ value ∈ values, key (normalize value) = index := by
  rw [Std.ExtTreeMap.mem_iff_isSome_getElem?, Option.isSome_iff_exists]
  constructor
  · rintro ⟨value, found⟩
    rcases mem_of_getElem?_rekey_gather found with ⟨original, isMember, rfl, ownKey⟩
    exact ⟨original, isMember, ownKey⟩
  · rintro ⟨value, member, rfl⟩
    rcases exists_getElem?_rekey_gather determined member with ⟨kept, -, -, found⟩
    exact ⟨normalize kept, found⟩

/-- All values survive the two passes exactly when values with one normalized key agree. -/
theorem rekey_gather_complete_iff :
    (∀ value ∈ values,
        (rekey key normalize (gather raw values))[key (normalize value)]? =
          some (normalize value)) ↔
      ∀ left ∈ values, ∀ right ∈ values,
        key (normalize left) = key (normalize right) → normalize left = normalize right := by
  constructor
  · intro complete left leftMember right rightMember sameKey
    have leftFound := complete left leftMember
    rw [sameKey, complete right rightMember, Option.some.injEq] at leftFound
    exact leftFound.symm
  · intro agree value member
    rcases exists_getElem?_rekey_gather determined member with ⟨kept, isMember, sameKey, found⟩
    rw [found, agree kept isMember value member sameKey]

end Determined

end Gather

section Replay

variable {Action State : Type} {act : State → Action → State} {actions : List Action}

/-- A state that every action leaves alone is still there at the end. -/
theorem foldl_eq_of_fixed {state : State} (fixed : ∀ action ∈ actions, act state action = state) :
    actions.foldl act state = state := by
  induction actions with
  | nil => rfl
  | cons action rest ih =>
      rw [List.foldl_cons, fixed action List.mem_cons_self]
      exact ih fun other member => fixed other (List.mem_cons_of_mem _ member)

/-- A state that some action always produces and none leaves is reached from everywhere. -/
theorem foldl_eq_of_reached {goal : State} (fixed : ∀ action ∈ actions, act goal action = goal)
    (reached : ∃ action ∈ actions, ∀ state, act state action = goal) (state : State) :
    actions.foldl act state = goal := by
  rcases reached with ⟨action, member, produces⟩
  rcases List.append_of_mem member with ⟨before, after, rfl⟩
  rw [List.foldl_append, List.foldl_cons, produces]
  apply foldl_eq_of_fixed
  intro other otherMember
  exact fixed other (by simp [otherMember])

end Replay

end Collections
