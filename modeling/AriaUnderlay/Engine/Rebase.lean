import AriaUnderlay.Collections.Overlay
import AriaUnderlay.Engine.Convergence

/-!
# Replaying a diff on another state

A diff is computed from one state and replayed on another one, as an apply does that observes the
device and then updates the stored shadow.  The replay writes the objects in which the desired state
differs from the observed one and erases those that the diff deletes.  Everything else of the stored
state stays as it was, so the result agrees with the desired state only if the stored state did in
all objects that the diff leaves out.
-/

namespace AriaUnderlay

open Collections

/-! ## One map -/

/-- Normalizing the state normalizes the map. -/
def ObjectMap.Normalizes {κ ν : Type} [Ord κ] [Std.TransOrd κ] (objects : ObjectMap κ ν) : Prop :=
  ∀ state, objects.read (normalizeShadowState state) =
    rekey objects.key objects.normalize (objects.read state)

theorem vlanObjects_normalizes : vlanObjects.Normalizes := by
  intro state
  simp only [vlanObjects, normalizeShadowState]

theorem interfaceObjects_normalizes : interfaceObjects.Normalizes := by
  intro state
  simp only [interfaceObjects, normalizeShadowState]

theorem aclObjects_normalizes : aclObjects.Normalizes := by
  intro state
  simp only [aclObjects, normalizeShadowState]

theorem aclBindingObjects_normalizes : aclBindingObjects.Normalizes := by
  intro state
  simp only [aclBindingObjects, normalizeShadowState]

theorem bgpProcessObjects_normalizes : bgpProcessObjects.Normalizes := by
  intro state
  simp only [bgpProcessObjects, normalizeShadowState]

theorem bgpNeighborObjects_normalizes : bgpNeighborObjects.Normalizes := by
  intro state
  simp only [bgpNeighborObjects, normalizeShadowState]

/-- What the change from the observed entries to the wanted ones does to a map. -/
structure MapChange (κ ν : Type) [Ord κ] where
  objects : ObjectMap κ ν
  wanted : BTreeMap κ ν
  observed : BTreeMap κ ν
  /-- The keys that are deleted. -/
  erased : κ → Bool
  /-- The entries that go with the deletion of another object. -/
  dropped : ν → Bool

namespace MapChange

variable {κ ν : Type} [Ord κ] [Std.TransOrd κ] [DecidableEq ν] (change : MapChange κ ν)

/-- The wanted entry is not the observed one. -/
def changes (index : κ) : Bool :=
  change.wanted[index]?.any fun value => change.observed[index]? ≠ some value

def written : BTreeMap κ ν :=
  change.wanted.filter fun index value => change.changes index && !change.dropped value

/-- The stored entries that the change leaves alone. -/
def rest (stored : BTreeMap κ ν) : BTreeMap κ ν :=
  stored.filter fun index value =>
    !change.changes index && !change.erased index && !change.dropped value

theorem changes_iff {index : κ} :
    change.changes index = true ↔
      ∃ value, change.wanted[index]? = some value ∧ change.observed[index]? ≠ some value := by
  cases isWanted : change.wanted[index]? <;> simp [changes, isWanted]

section Lookup

variable [Std.LawfulEqOrd κ] {index : κ}

theorem getElem?_written :
    change.written[index]? = change.wanted[index]?.filter fun value =>
      change.changes index && !change.dropped value := by
  rw [written, Std.ExtTreeMap.getElem?_filter']

theorem getElem?_rest (stored : BTreeMap κ ν) :
    (change.rest stored)[index]? = stored[index]?.filter fun value =>
      !change.changes index && !change.erased index && !change.dropped value := by
  rw [rest, Std.ExtTreeMap.getElem?_filter']

end Lookup

/-- The object that the stored entries show where the change leaves them alone. -/
def shown (stored : BTreeMap κ ν) (index : κ) : Option ν :=
  (rekey change.objects.key change.objects.normalize (change.rest stored))[index]?

variable [DecidableEq κ]

/-- The wanted object is written, and no stored entry masks it. -/
def isWritten (stored : BTreeMap κ ν) (index : κ) (value : ν) : Bool :=
  change.changes index && !change.dropped value &&
    !isMasked change.objects.key change.objects.normalize (change.rest stored) index

/-- Every wanted object is written or was already stored. -/
def Provides (stored : BTreeMap κ ν) : Prop :=
  ∀ (index : κ) (value : ν), change.wanted[index]? = some value →
    change.isWritten stored index value = true ∨ change.shown stored index = some value

instance [Std.LawfulEqOrd κ] (stored : BTreeMap κ ν) : Decidable (change.Provides stored) :=
  decidable_of_iff
    (change.wanted.toList.all fun entry =>
      change.isWritten stored entry.1 entry.2 ||
        decide (change.shown stored entry.1 = some entry.2))
    (by simp [Provides, Std.ExtTreeMap.mem_toList_iff_getElem?_eq_some])

/-- The operations carry out the change: they write what changes and erase and drop what it says,
and nothing is written or erased after something was dropped. -/
structure CarriedBy (ops : List ChangeOp) : Prop where
  canonical : Canonical change.objects.key change.objects.normalize change.wanted
  upserts : ∀ value, (∃ op ∈ ops, change.objects.upserted op = some value) ↔
    change.wanted[change.objects.key value]? = some value ∧
      change.observed[change.objects.key value]? ≠ some value
  erases : ∀ index, change.erased index = true ↔
    ∃ op ∈ ops, change.objects.deleted op = some index ∧ change.objects.upserted op = none
  unwanted : ∀ op ∈ ops, ∀ index, change.objects.deleted op = some index →
    change.erased index = true ∧ change.wanted[index]? = none
  drops : ∀ value, change.dropped value = true ↔
    ∃ op ∈ ops, change.objects.cascades op value = true
  ordered : ∃ before after, ops = before ++ after ∧
    (∀ op ∈ before, ∀ value, change.objects.cascades op value = false) ∧
      ∀ op ∈ after, change.objects.upserted op = none ∧ change.objects.deleted op = none

section Carried

variable {change} {ops : List ChangeOp} {index : κ}

omit [DecidableEq ν] [Std.TransOrd κ] in
/-- Operations that neither write nor delete only drop entries. -/
theorem foldl_act_of_drops {objects : ObjectMap κ ν}
    (drops : ∀ op ∈ ops, objects.upserted op = none ∧ objects.deleted op = none)
    (present : Option ν) :
    ops.foldl (objects.act index) present =
      present.filter fun value => !ops.any fun op => objects.cascades op value := by
  induction ops generalizing present with
  | nil => cases present <;> rfl
  | cons op rest ih =>
      obtain ⟨notUpserted, notDeleted⟩ := drops op List.mem_cons_self
      rw [List.foldl_cons, ih fun other member => drops other (List.mem_cons_of_mem _ member)]
      cases present with
      | none => simp [ObjectMap.act, notUpserted, notDeleted]
      | some value =>
          cases objects.cascades op value <;> simp [ObjectMap.act, notUpserted, notDeleted]

namespace CarriedBy

variable (carried : change.CarriedBy ops)

include carried

omit [DecidableEq κ] in
/-- An operation that writes under a key writes the entry that is wanted there. -/
theorem wanted_of_upserted {op : ChangeOp} {value : ν} (member : op ∈ ops)
    (isUpserted : change.objects.upserted op = some value)
    (sameKey : change.objects.key value = index) :
    change.wanted[index]? = some value ∧ change.changes index = true := by
  obtain ⟨isWanted, differs⟩ := (carried.upserts value).mp ⟨op, member, isUpserted⟩
  rw [sameKey] at isWanted differs
  exact ⟨isWanted, change.changes_iff.mpr ⟨value, isWanted, differs⟩⟩

/-- A key that changes holds its wanted entry once every operation that writes was replayed. -/
theorem foldl_act_of_changes {before after : List ChangeOp} {value : ν}
    (split : ops = before ++ after)
    (spares : ∀ op ∈ before, ∀ value, change.objects.cascades op value = false)
    (quiet : ∀ op ∈ after, change.objects.upserted op = none ∧ change.objects.deleted op = none)
    (isWanted : change.wanted[index]? = some value) (differs : change.observed[index]? ≠ some value)
    (present : Option ν) :
    before.foldl (change.objects.act index) present = some value := by
  have ownKey : change.objects.key value = index := (carried.canonical index value isWanted).1
  apply foldl_eq_of_reached
  · intro op member
    have inOps : op ∈ ops := split ▸ List.mem_append_left _ member
    apply ObjectMap.act_eq_self
    · intro other isUpserted sameKey
      have otherWanted := (carried.wanted_of_upserted inOps isUpserted sameKey).1
      rw [isWanted, Option.some.injEq] at otherWanted
      exact otherWanted.symm
    · intro isDeleted
      rw [(carried.unwanted op inOps index isDeleted).2] at isWanted
      cases isWanted
    · exact spares op member value
  · obtain ⟨op, member, isUpserted⟩ : ∃ op ∈ ops, change.objects.upserted op = some value :=
      (carried.upserts value).mpr (by rw [ownKey]; exact ⟨isWanted, differs⟩)
    rw [split] at member
    rcases List.mem_append.mp member with isBefore | isAfter
    · exact ⟨op, isBefore, fun _ => by simp [ObjectMap.act, isUpserted, ownKey]⟩
    · rw [(quiet op isAfter).1] at isUpserted
      cases isUpserted

/-- A key that does not change keeps its entry unless it is erased. -/
theorem foldl_act_of_unchanged {before after : List ChangeOp} (split : ops = before ++ after)
    (spares : ∀ op ∈ before, ∀ value, change.objects.cascades op value = false)
    (quiet : ∀ op ∈ after, change.objects.upserted op = none ∧ change.objects.deleted op = none)
    (unchanged : change.changes index = false) (present : Option ν) :
    before.foldl (change.objects.act index) present =
      present.filter fun _ => !change.erased index := by
  have notUpserted : ∀ op ∈ before, ∀ value, change.objects.upserted op = some value →
      change.objects.key value ≠ index := by
    intro op member value isUpserted sameKey
    have changed := (carried.wanted_of_upserted (split ▸ List.mem_append_left _ member) isUpserted
      sameKey).2
    rw [unchanged] at changed
    cases changed
  have emptied : ∀ op ∈ before, change.objects.act index none op = none := by
    intro op member
    unfold ObjectMap.act
    split
    · rename_i value isUpserted
      simp [notUpserted op member value isUpserted]
    · simp
  cases erased : change.erased index with
  | true =>
      have gone : before.foldl (change.objects.act index) present = none := by
        apply foldl_eq_of_reached emptied
        obtain ⟨op, member, isDeleted, onlyDeletes⟩ := (carried.erases index).mp erased
        rw [split] at member
        rcases List.mem_append.mp member with isBefore | isAfter
        · exact ⟨op, isBefore, fun _ => by simp [ObjectMap.act, onlyDeletes, isDeleted]⟩
        · rw [(quiet op isAfter).2] at isDeleted
          cases isDeleted
      rw [gone]
      cases present <;> simp
  | false =>
      cases present with
      | none => simpa using foldl_eq_of_fixed emptied
      | some value =>
          refine (foldl_eq_of_fixed fun op member => ?_).trans rfl
          apply ObjectMap.act_eq_self
          · exact fun other isUpserted sameKey =>
              absurd sameKey (notUpserted op member other isUpserted)
          · intro isDeleted
            have inOps : op ∈ ops := split ▸ List.mem_append_left _ member
            rw [(carried.unwanted op inOps index isDeleted).1] at erased
            cases erased
          · exact spares op member value

/-- What the replay leaves under a key: the wanted entry if it changes, and otherwise the entry that
was there, unless it is erased or dropped. -/
theorem foldl_act (index : κ) (present : Option ν) :
    ops.foldl (change.objects.act index) present =
      if change.changes index then change.wanted[index]?.filter fun value => !change.dropped value
      else present.filter fun value => !change.erased index && !change.dropped value := by
  obtain ⟨before, after, split, spares, quiet⟩ := carried.ordered
  -- what is dropped is dropped at the end
  have dropped : ∀ value, (after.any fun op => change.objects.cascades op value) =
      change.dropped value := by
    intro value
    rw [Bool.eq_iff_iff, List.any_eq_true, carried.drops value, split]
    constructor
    · rintro ⟨op, member, cascades⟩
      exact ⟨op, List.mem_append_right _ member, cascades⟩
    · rintro ⟨op, member, cascades⟩
      rcases List.mem_append.mp member with isBefore | isAfter
      · rw [spares op isBefore value] at cascades
        cases cascades
      · exact ⟨op, isAfter, cascades⟩
  rw [split, List.foldl_append, foldl_act_of_drops quiet]
  simp only [dropped]
  cases changed : change.changes index with
  | true =>
      obtain ⟨value, isWanted, differs⟩ := change.changes_iff.mp changed
      rw [carried.foldl_act_of_changes split spares quiet isWanted differs, isWanted, if_pos rfl]
  | false =>
      rw [carried.foldl_act_of_unchanged split spares quiet changed, if_neg Bool.false_ne_true]
      cases present with
      | none => rfl
      | some value => cases change.erased index <;> simp

variable [Std.LawfulEqOrd κ]

/-- After the replay the map consists of what was written and of the stored entries that the change
leaves alone. -/
theorem overlay (lawful : change.objects.Lawful) (state : DeviceShadowState) :
    Overlay change.objects.key change.objects.normalize change.written
      (change.rest (change.objects.read state))
      (change.objects.read (ops.foldl applyOp state)) where
  canonical := by
    intro index value isWritten
    rw [getElem?_written, Option.filter_eq_some_iff] at isWritten
    exact carried.canonical index value isWritten.1
  apart := by
    intro index isWritten isRest
    rw [Std.ExtTreeMap.mem_iff_isSome_getElem?, Option.isSome_iff_exists] at isWritten isRest
    obtain ⟨value, isWritten⟩ := isWritten
    obtain ⟨other, isRest⟩ := isRest
    rw [getElem?_written, Option.filter_eq_some_iff] at isWritten
    rw [getElem?_rest, Option.filter_eq_some_iff] at isRest
    simp_all
  getElem? := by
    intro index
    rw [lawful.replay, carried.foldl_act, getElem?_written, getElem?_rest]
    cases changed : change.changes index with
    | true =>
        obtain ⟨value, isWanted, -⟩ := change.changes_iff.mp changed
        rw [isWanted]
        cases change.dropped value <;> simp
    | false =>
        cases (change.objects.read state)[index]? with
        | none => cases change.wanted[index]? <;> simp
        | some value =>
            cases change.wanted[index]? <;> cases change.erased index <;>
              cases change.dropped value <;> simp

section Result

variable (lawful : change.objects.Lawful) (normalizes : change.objects.Normalizes)
variable (state : DeviceShadowState)

include lawful normalizes

/-- Of an object that is not wanted the entries that are left alone decide. -/
theorem shown_eq (unwanted : change.wanted[index]? = none) :
    (change.objects.read (normalizeShadowState (ops.foldl applyOp state)))[index]? =
      change.shown (change.objects.read state) index := by
  rw [normalizes]
  apply (carried.overlay lawful state).getElem?_rekey_of_unwritten
  rw [getElem?_written, unwanted]
  rfl

theorem not_mem_iff_shown (unwanted : index ∉ change.wanted) :
    index ∉ change.objects.read (normalizeShadowState (ops.foldl applyOp state)) ↔
      change.shown (change.objects.read state) index = none := by
  rw [← carried.shown_eq lawful normalizes state (Std.ExtTreeMap.getElem?_eq_none unwanted),
    Std.ExtTreeMap.mem_iff_isSome_getElem?, Bool.not_eq_true, Option.isSome_eq_false_iff,
    Option.isNone_iff_eq_none]

/-- The wanted objects are in the map in the end exactly if the change provides them. -/
theorem provides_iff :
    (∀ (index : κ) (value : ν), change.wanted[index]? = some value →
        (change.objects.read (normalizeShadowState (ops.foldl applyOp state)))[index]? =
          some value) ↔
      change.Provides (change.objects.read state) := by
  have overlay := carried.overlay lawful state
  rw [normalizes]
  refine forall_congr' fun index => forall_congr' fun value => imp_congr_right fun isWanted => ?_
  have lookup : change.written[index]? = _ := change.getElem?_written
  rw [isWanted] at lookup
  cases writes : change.changes index && !change.dropped value with
  | true =>
      rw [overlay.getElem?_rekey_iff_of_written (lookup.trans (by simp [writes]))]
      simp [isWritten, writes, shown]
  | false =>
      rw [overlay.getElem?_rekey_of_unwritten (lookup.trans (by simpa using writes))]
      simp [isWritten, writes, shown]

end Result

end CarriedBy

omit [DecidableEq κ] in
/-- A change whose writes come from one upsert pass. -/
theorem carriedBy_of_pass [Std.LawfulEqOrd κ] (create : ν → ChangeOp) (update : ν → ν → ChangeOp)
    (canonical : Canonical change.objects.key change.objects.normalize change.wanted)
    (creates : ∀ value, change.objects.upserted (create value) = some value)
    (updates : ∀ present value, change.objects.upserted (update present value) = some value)
    (included : ∀ op ∈ upsertOps create update change.wanted change.observed, op ∈ ops)
    (only : ∀ op ∈ ops, ∀ value, change.objects.upserted op = some value →
      op ∈ upsertOps create update change.wanted change.observed)
    (erased : ∀ index, change.erased index = true →
      ∃ op ∈ ops, change.objects.deleted op = some index ∧ change.objects.upserted op = none)
    (deletes : ∀ op ∈ ops, ∀ index, change.objects.deleted op = some index →
      change.erased index = true)
    (separate : ∀ index, change.erased index = true → index ∉ change.wanted)
    (drops : ∀ value, change.dropped value = true ↔
      ∃ op ∈ ops, change.objects.cascades op value = true)
    (ordered : ∃ before after, ops = before ++ after ∧
      (∀ op ∈ before, ∀ value, change.objects.cascades op value = false) ∧
        ∀ op ∈ after, change.objects.upserted op = none ∧ change.objects.deleted op = none) :
    change.CarriedBy ops where
  canonical := canonical
  erases index :=
    ⟨erased index, fun ⟨op, member, isDeleted, _⟩ => deletes op member index isDeleted⟩
  unwanted op member index isDeleted :=
    have isErased := deletes op member index isDeleted
    ⟨isErased, Std.ExtTreeMap.getElem?_eq_none (separate index isErased)⟩
  drops := drops
  ordered := ordered
  upserts := by
    intro value
    constructor
    · rintro ⟨op, member, isUpserted⟩
      have inPass := only op member value isUpserted
      rw [mem_upsertOps] at inPass
      rcases inPass with ⟨key, stored, isWanted, ⟨absent, rfl⟩ | ⟨present, isPresent, differs, rfl⟩⟩
      · obtain rfl : stored = value := by simpa [creates] using isUpserted
        rw [(canonical key stored isWanted).1]
        exact ⟨isWanted, by simp [absent]⟩
      · obtain rfl : stored = value := by simpa [updates] using isUpserted
        rw [(canonical key stored isWanted).1]
        exact ⟨isWanted, by simpa [isPresent] using differs⟩
    · rintro ⟨isWanted, differs⟩
      cases present : change.observed[change.objects.key value]? with
      | none =>
          refine ⟨create value, included _ (mem_upsertOps.mpr ?_), creates value⟩
          exact ⟨_, value, isWanted, .inl ⟨present, rfl⟩⟩
      | some other =>
          have changed : other ≠ value := fun same => differs (by rw [present, same])
          refine ⟨update other value, included _ (mem_upsertOps.mpr ?_), updates other value⟩
          exact ⟨_, value, isWanted, .inr ⟨other, present, changed, rfl⟩⟩

end Carried

end MapChange

/-! ## The six maps -/

section Changes

variable (desired : DeviceDesiredState) (observed : DeviceShadowState)

def vlanChange : MapChange UInt16 VlanConfig where
  objects := vlanObjects
  wanted := desired.vlans
  observed := observed.vlans
  erased := fun vlanId => vlanId ∈ desired.deleteVlanIds ∧ vlanId ∈ observed.vlans
  dropped := fun _ => false

/-- The change of interfaces. -/
def interfaceChange : MapChange String InterfaceConfig where
  objects := interfaceObjects
  wanted := desired.interfaces
  observed := observed.interfaces
  erased := fun name => name ∈ desired.deleteInterfaceNames ∧ name ∈ observed.interfaces
  dropped := fun _ => false

def aclChange : MapChange UInt16 AclConfig where
  objects := aclObjects
  wanted := desired.acls
  observed := observed.acls
  erased := fun aclId => aclId ∈ desired.deleteAclIds ∧ aclId ∈ observed.acls
  dropped := fun _ => false

/-- With an ACL go its bindings. -/
def aclBindingChange : MapChange String AclBinding where
  objects := aclBindingObjects
  wanted := desired.aclBindings
  observed := observed.aclBindings
  erased := fun key => desired.deleteAclBindings[key]?.any fun deletion =>
    observed.aclBindings[key]?.any fun binding => binding.aclId = deletion.aclId
  dropped := fun binding => binding.aclId ∈ desired.deleteAclIds ∧ binding.aclId ∈ observed.acls

/-- The change of BGP processes. -/
def bgpProcessChange : MapChange String BgpProcess where
  objects := bgpProcessObjects
  wanted := desired.bgpProcesses
  observed := observed.bgpProcesses
  erased := fun vrf => vrf ∈ desired.deleteBgpProcessVrfs ∧ vrf ∈ observed.bgpProcesses
  dropped := fun _ => false

/-- With a BGP process go its neighbors. -/
def bgpNeighborChange : MapChange String BgpNeighbor where
  objects := bgpNeighborObjects
  wanted := desired.bgpNeighbors
  observed := observed.bgpNeighbors
  erased := fun key => key ∈ desired.deleteBgpNeighbors ∧ key ∈ observed.bgpNeighbors
  dropped := fun neighbor =>
    neighbor.vrf ∈ desired.deleteBgpProcessVrfs ∧ neighbor.vrf ∈ observed.bgpProcesses

/-- The wanted objects and the deletions of a desired state are disjoint. -/
structure DeviceDesiredState.Separate (desired : DeviceDesiredState) : Prop where
  vlans : ∀ vlanId ∈ desired.deleteVlanIds, vlanId ∉ desired.vlans
  interfaces : ∀ name ∈ desired.deleteInterfaceNames, name ∉ desired.interfaces
  acls : ∀ aclId ∈ desired.deleteAclIds, aclId ∉ desired.acls
  aclBindings : ∀ key ∈ desired.deleteAclBindings, key ∉ desired.aclBindings
  bgpProcesses : ∀ vrf ∈ desired.deleteBgpProcessVrfs, vrf ∉ desired.bgpProcesses
  bgpNeighbors : ∀ key ∈ desired.deleteBgpNeighbors, key ∉ desired.bgpNeighbors

theorem DeviceDesiredState.Consistent.separate {desired : DeviceDesiredState}
    (consistent : desired.Consistent) :
    desired.Separate :=
  ⟨consistent.vlans, consistent.interfaces, consistent.acls, consistent.aclBindings,
    consistent.bgpProcesses, consistent.bgpNeighbors⟩

/-- The change provides what is wanted of the stored state, and what is to be deleted is not among
the stored objects that the change leaves alone. -/
structure Fits (desired : DeviceDesiredState) (observed stored : DeviceShadowState) : Prop where
  vlans : (vlanChange desired observed).Provides stored.vlans
  interfaces : (interfaceChange desired observed).Provides stored.interfaces
  acls : (aclChange desired observed).Provides stored.acls
  aclBindings : (aclBindingChange desired observed).Provides stored.aclBindings
  bgpProcesses : (bgpProcessChange desired observed).Provides stored.bgpProcesses
  bgpNeighbors : (bgpNeighborChange desired observed).Provides stored.bgpNeighbors
  noVlans : ∀ vlanId ∈ desired.deleteVlanIds,
    (vlanChange desired observed).shown stored.vlans vlanId = none
  noInterfaces : ∀ name ∈ desired.deleteInterfaceNames,
    (interfaceChange desired observed).shown stored.interfaces name = none
  noAcls : ∀ aclId ∈ desired.deleteAclIds,
    (aclChange desired observed).shown stored.acls aclId = none
  /-- A binding is deleted only while it binds the ACL that the deletion names. -/
  noAclBindings : ∀ (key : String) (deletion binding : AclBinding),
    desired.deleteAclBindings[key]? = some deletion →
      (aclBindingChange desired observed).shown stored.aclBindings key = some binding →
        binding.aclId ≠ deletion.aclId
  noBgpProcesses : ∀ vrf ∈ desired.deleteBgpProcessVrfs,
    (bgpProcessChange desired observed).shown stored.bgpProcesses vrf = none
  noBgpNeighbors : ∀ key ∈ desired.deleteBgpNeighbors,
    (bgpNeighborChange desired observed).shown stored.bgpNeighbors key = none

instance (desired : DeviceDesiredState) (observed stored : DeviceShadowState) :
    Decidable (Fits desired observed stored) :=
  decidable_of_iff
    (((vlanChange desired observed).Provides stored.vlans ∧
        (interfaceChange desired observed).Provides stored.interfaces ∧
        (aclChange desired observed).Provides stored.acls ∧
        (aclBindingChange desired observed).Provides stored.aclBindings ∧
        (bgpProcessChange desired observed).Provides stored.bgpProcesses ∧
        (bgpNeighborChange desired observed).Provides stored.bgpNeighbors) ∧
      (desired.deleteVlanIds.toList.all fun vlanId =>
        ((vlanChange desired observed).shown stored.vlans vlanId).isNone) ∧
      (desired.deleteInterfaceNames.toList.all fun name =>
        ((interfaceChange desired observed).shown stored.interfaces name).isNone) ∧
      (desired.deleteAclIds.toList.all fun aclId =>
        ((aclChange desired observed).shown stored.acls aclId).isNone) ∧
      (desired.deleteAclBindings.toList.all fun entry =>
        ((aclBindingChange desired observed).shown stored.aclBindings entry.1).all fun binding =>
          binding.aclId ≠ entry.2.aclId) ∧
      (desired.deleteBgpProcessVrfs.toList.all fun vrf =>
        ((bgpProcessChange desired observed).shown stored.bgpProcesses vrf).isNone) ∧
      (desired.deleteBgpNeighbors.keys.all fun key =>
        ((bgpNeighborChange desired observed).shown stored.bgpNeighbors key).isNone))
    (by
      simp only [List.all_eq_true, Std.ExtTreeSet.mem_toList, Std.ExtTreeMap.mem_keys, Prod.forall,
        Std.ExtTreeMap.mem_toList_iff_getElem?_eq_some, Option.isNone_iff_eq_none,
        Option.all_eq_true, decide_eq_true_eq]
      constructor
      · rintro ⟨⟨vlans, interfaces, acls, bindings, processes, neighbors⟩, noVlans, noInterfaces,
          noAcls, noBindings, noProcesses, noNeighbors⟩
        exact ⟨vlans, interfaces, acls, bindings, processes, neighbors, noVlans, noInterfaces,
          noAcls, fun key deletion binding isDeletion => noBindings key deletion isDeletion binding,
          noProcesses, noNeighbors⟩
      · intro fits
        exact ⟨⟨fits.vlans, fits.interfaces, fits.acls, fits.aclBindings, fits.bgpProcesses,
          fits.bgpNeighbors⟩, fits.noVlans, fits.noInterfaces, fits.noAcls,
          fun key deletion isDeletion binding =>
            fits.noAclBindings key deletion binding isDeletion,
          fits.noBgpProcesses, fits.noBgpNeighbors⟩)

end Changes

section Carried

variable {desired : DeviceDesiredState} {observed : DeviceShadowState}

variable (separate : desired.Separate)

include separate

theorem vlanChange_carried
    (canonical : Canonical VlanConfig.vlanId VlanConfig.normalize desired.vlans) :
    (vlanChange desired observed).CarriedBy (normalizedDiffOps desired observed) := by
  refine MapChange.carriedBy_of_pass .createVlan .updateVlan canonical (fun _ => rfl)
    (fun _ _ => rfl) (fun op member => mem_normalizedDiffOps.mpr (.inl member)) ?_ ?_ ?_ ?_
    (fun _ => by simp [vlanChange, vlanObjects])
    ⟨_, [], (List.append_nil _).symm, fun _ _ _ => rfl, by simp⟩
  · exact fun op member value isUpserted => vlanObjects_upserted_mem member isUpserted
  · intro vlanId isErased
    exact ⟨.deleteVlan vlanId, deleteVlan_mem.mpr (of_decide_eq_true isErased), rfl, rfl⟩
  · intro op member vlanId isDeleted
    cases op <;> simp [vlanChange, vlanObjects] at isDeleted
    subst isDeleted
    exact decide_eq_true (deleteVlan_mem.mp member)
  · exact fun vlanId isErased => separate.vlans vlanId (of_decide_eq_true isErased).1

theorem interfaceChange_carried
    (canonical : Canonical InterfaceConfig.name InterfaceConfig.normalize desired.interfaces) :
    (interfaceChange desired observed).CarriedBy (normalizedDiffOps desired observed) := by
  refine MapChange.carriedBy_of_pass (.updateInterface none)
    (fun before => .updateInterface (some before)) canonical (fun _ => rfl) (fun _ _ => rfl)
    (fun op member => mem_normalizedDiffOps.mpr (.inr (.inl member))) ?_ ?_ ?_ ?_
    (fun _ => by simp [interfaceChange, interfaceObjects])
    ⟨_, [], (List.append_nil _).symm, fun _ _ _ => rfl, by simp⟩
  · exact fun op member value isUpserted => interfaceObjects_upserted_mem member isUpserted
  · intro name isErased
    exact ⟨.deleteInterfaceConfig name,
      deleteInterfaceConfig_mem.mpr (of_decide_eq_true isErased), rfl, rfl⟩
  · intro op member name isDeleted
    cases op <;> simp [interfaceChange, interfaceObjects] at isDeleted
    subst isDeleted
    exact decide_eq_true (deleteInterfaceConfig_mem.mp member)
  · exact fun name isErased => separate.interfaces name (of_decide_eq_true isErased).1

theorem aclChange_carried (canonical : Canonical AclConfig.aclId AclConfig.normalize desired.acls) :
    (aclChange desired observed).CarriedBy (normalizedDiffOps desired observed) := by
  refine MapChange.carriedBy_of_pass .createAcl .updateAcl canonical (fun _ => rfl)
    (fun _ _ => rfl)
    (fun op (member : op ∈ upsertOps .createAcl .updateAcl desired.acls observed.acls) =>
      by simp [mem_normalizedDiffOps, member]) ?_ ?_ ?_ ?_
    (fun _ => by simp [aclChange, aclObjects])
    ⟨_, [], (List.append_nil _).symm, fun _ _ _ => rfl, by simp⟩
  · exact fun op member value isUpserted => aclObjects_upserted_mem member isUpserted
  · intro aclId isErased
    exact ⟨.deleteAcl aclId, deleteAcl_mem.mpr (of_decide_eq_true isErased), rfl, rfl⟩
  · intro op member aclId isDeleted
    cases op <;> simp [aclChange, aclObjects] at isDeleted
    subst isDeleted
    exact decide_eq_true (deleteAcl_mem.mp member)
  · exact fun aclId isErased => separate.acls aclId (of_decide_eq_true isErased).1

theorem bgpProcessChange_carried
    (canonical : Canonical BgpProcess.vrf BgpProcess.normalize desired.bgpProcesses) :
    (bgpProcessChange desired observed).CarriedBy (normalizedDiffOps desired observed) := by
  refine MapChange.carriedBy_of_pass .createBgpProcess .updateBgpProcess canonical (fun _ => rfl)
    (fun _ _ => rfl)
    (fun op (member : op ∈ upsertOps .createBgpProcess .updateBgpProcess desired.bgpProcesses
      observed.bgpProcesses) => by simp [mem_normalizedDiffOps, member]) ?_ ?_ ?_ ?_
    (fun _ => by simp [bgpProcessChange, bgpProcessObjects])
    ⟨_, [], (List.append_nil _).symm, fun _ _ _ => rfl, by simp⟩
  · exact fun op member value isUpserted => bgpProcessObjects_upserted_mem member isUpserted
  · intro vrf isErased
    exact ⟨.deleteBgpProcess vrf, deleteBgpProcess_mem.mpr (of_decide_eq_true isErased), rfl, rfl⟩
  · intro op member vrf isDeleted
    cases op <;> simp [bgpProcessChange, bgpProcessObjects] at isDeleted
    subst isDeleted
    exact decide_eq_true (deleteBgpProcess_mem.mp member)
  · exact fun vrf isErased => separate.bgpProcesses vrf (of_decide_eq_true isErased).1

/-- The diff of bindings and ACLs: bindings are written and deleted before an ACL takes its bindings
with it. -/
theorem aclBindingChange_carried
    (canonical : Canonical AclBinding.key AclBinding.normalize desired.aclBindings)
    (canonicalDeletions :
      Canonical AclBinding.key AclBinding.normalize desired.deleteAclBindings) :
    (aclBindingChange desired observed).CarriedBy (normalizedDiffOps desired observed) := by
  have erased_iff : ∀ key, (aclBindingChange desired observed).erased key = true ↔
      ∃ deletion binding, desired.deleteAclBindings[key]? = some deletion ∧
        observed.aclBindings[key]? = some binding ∧ binding.aclId = deletion.aclId := by
    intro key
    simp [aclBindingChange, Option.any_eq_true]
  refine MapChange.carriedBy_of_pass .createAclBinding .updateAclBinding canonical (fun _ => rfl)
    (fun _ _ => rfl)
    (fun op (member : op ∈ upsertOps .createAclBinding .updateAclBinding desired.aclBindings
      observed.aclBindings) => by simp [mem_normalizedDiffOps, member]) ?_ ?_ ?_ ?_ ?_ ?_
  · exact fun op member value isUpserted => aclBindingObjects_upserted_mem member isUpserted
  · intro key isErased
    obtain ⟨deletion, binding, isDeletion, isBound, same⟩ := (erased_iff key).mp isErased
    have ownKey : aclBindingKey deletion.interfaceName deletion.direction = key :=
      (canonicalDeletions key deletion isDeletion).1
    refine ⟨.deleteAclBinding deletion.interfaceName deletion.direction deletion.aclId, ?_,
      congrArg some ownKey, rfl⟩
    rw [deleteAclBinding_mem, mem_deleteAclBindingOps]
    exact ⟨key, deletion, binding, isDeletion, isBound, same, rfl⟩
  · intro op member key isDeleted
    cases op <;> simp [aclBindingChange, aclBindingObjects] at isDeleted
    subst isDeleted
    rw [deleteAclBinding_mem, mem_deleteAclBindingOps] at member
    obtain ⟨key, deletion, binding, isDeletion, isBound, same, isOp⟩ := member
    rw [ChangeOp.deleteAclBinding.injEq] at isOp
    rcases isOp with ⟨rfl, rfl, -⟩
    have ownKey : aclBindingKey deletion.interfaceName deletion.direction = key :=
      (canonicalDeletions key deletion isDeletion).1
    rw [ownKey]
    exact (erased_iff key).mpr ⟨deletion, binding, isDeletion, isBound, same⟩
  · intro key isErased
    obtain ⟨deletion, -, isDeletion, -⟩ := (erased_iff key).mp isErased
    refine separate.aclBindings key ?_
    rw [Std.ExtTreeMap.mem_iff_isSome_getElem?, isDeletion]
    rfl
  · intro binding
    constructor
    · intro isDropped
      exact ⟨.deleteAcl binding.aclId, deleteAcl_mem.mpr (of_decide_eq_true isDropped),
        decide_eq_true rfl⟩
    · rintro ⟨op, member, cascades⟩
      cases op <;> simp [aclBindingChange, aclBindingObjects] at cascades
      subst cascades
      exact decide_eq_true (deleteAcl_mem.mp member)
  · refine ⟨_, _, List.append_assoc _ _ _ |>.trans (List.append_assoc _ _ _) |>.trans
      (List.append_assoc _ _ _) |>.trans (List.append_assoc _ _ _), ?_, ?_⟩
    · intro op member binding
      cases op <;> simp [aclBindingChange, aclBindingObjects]
      simp [mem_upsertOps, mem_deleteOps, mem_deleteAclBindingOps] at member
    · intro op member
      cases op <;> simp [aclBindingChange, aclBindingObjects] <;>
        simp [mem_upsertOps, mem_deleteOps, mem_deleteBgpNeighborOps] at member

theorem bgpNeighborChange_carried
    (canonical : Canonical BgpNeighbor.key BgpNeighbor.normalize desired.bgpNeighbors)
    (canonicalDeletions :
      Canonical BgpNeighbor.key BgpNeighbor.normalize desired.deleteBgpNeighbors) :
    (bgpNeighborChange desired observed).CarriedBy (normalizedDiffOps desired observed) := by
  refine MapChange.carriedBy_of_pass .createBgpNeighbor .updateBgpNeighbor canonical (fun _ => rfl)
    (fun _ _ => rfl)
    (fun op (member : op ∈ upsertOps .createBgpNeighbor .updateBgpNeighbor desired.bgpNeighbors
      observed.bgpNeighbors) => by simp [mem_normalizedDiffOps, member]) ?_ ?_ ?_ ?_ ?_ ?_
  · exact fun op member value isUpserted => bgpNeighborObjects_upserted_mem member isUpserted
  · intro key isErased
    obtain ⟨listed, present⟩ := of_decide_eq_true isErased
    rw [Std.ExtTreeMap.mem_iff_isSome_getElem?, Option.isSome_iff_exists] at listed
    obtain ⟨deletion, isDeletion⟩ := listed
    have ownKey : bgpNeighborKey deletion.vrf deletion.address = key :=
      (canonicalDeletions key deletion isDeletion).1
    refine ⟨.deleteBgpNeighbor deletion.vrf deletion.address, ?_, congrArg some ownKey, rfl⟩
    rw [deleteBgpNeighbor_mem, mem_deleteBgpNeighborOps]
    exact ⟨key, deletion, isDeletion, present, rfl⟩
  · intro op member key isDeleted
    cases op <;> simp [bgpNeighborChange, bgpNeighborObjects] at isDeleted
    subst isDeleted
    rw [deleteBgpNeighbor_mem, mem_deleteBgpNeighborOps] at member
    obtain ⟨key, deletion, isDeletion, present, isOp⟩ := member
    rw [ChangeOp.deleteBgpNeighbor.injEq] at isOp
    rcases isOp with ⟨rfl, rfl⟩
    have ownKey : bgpNeighborKey deletion.vrf deletion.address = key :=
      (canonicalDeletions key deletion isDeletion).1
    rw [ownKey]
    refine decide_eq_true ⟨?_, present⟩
    rw [Std.ExtTreeMap.mem_iff_isSome_getElem?, isDeletion]
    rfl
  · exact fun key isErased => separate.bgpNeighbors key (of_decide_eq_true isErased).1
  · intro neighbor
    constructor
    · intro isDropped
      exact ⟨.deleteBgpProcess neighbor.vrf,
        deleteBgpProcess_mem.mpr (of_decide_eq_true isDropped), decide_eq_true rfl⟩
    · rintro ⟨op, member, cascades⟩
      cases op <;> simp [bgpNeighborChange, bgpNeighborObjects] at cascades
      subst cascades
      exact decide_eq_true (deleteBgpProcess_mem.mp member)
  · refine ⟨_, _, rfl, ?_, ?_⟩
    · intro op member neighbor
      cases op <;> simp [bgpNeighborChange, bgpNeighborObjects]
      simp [mem_upsertOps, mem_deleteOps, mem_deleteAclBindingOps, mem_deleteBgpNeighborOps]
        at member
    · intro op member
      cases op <;> simp [bgpNeighborChange, bgpNeighborObjects] <;>
        simp [mem_deleteOps] at member

end Carried

/-! ## The whole state -/

/-- The operations carry out the change of every map. -/
structure CarriesAll (desired : DeviceDesiredState) (observed : DeviceShadowState)
    (ops : List ChangeOp) : Prop where
  vlans : (vlanChange desired observed).CarriedBy ops
  interfaces : (interfaceChange desired observed).CarriedBy ops
  acls : (aclChange desired observed).CarriedBy ops
  aclBindings : (aclBindingChange desired observed).CarriedBy ops
  bgpProcesses : (bgpProcessChange desired observed).CarriedBy ops
  bgpNeighbors : (bgpNeighborChange desired observed).CarriedBy ops

theorem carriesAll_normalizedDiffOps {desired : DeviceDesiredState}
    (separate : (normalizeDesiredState desired).Separate) (observed : DeviceShadowState) :
    CarriesAll (normalizeDesiredState desired) observed
      (normalizedDiffOps (normalizeDesiredState desired) observed) where
  vlans := vlanChange_carried separate (canonical_rekey VlanConfig.normalize_idempotent _)
  interfaces := interfaceChange_carried separate
    (canonical_rekey InterfaceConfig.normalize_idempotent _)
  acls := aclChange_carried separate (canonical_rekey AclConfig.normalize_idempotent _)
  aclBindings := aclBindingChange_carried separate
    (canonical_rekey AclBinding.normalize_idempotent _)
    (canonical_rekey AclBinding.normalize_idempotent _)
  bgpProcesses := bgpProcessChange_carried separate
    (canonical_rekey BgpProcess.normalize_idempotent _)
  bgpNeighbors := bgpNeighborChange_carried separate
    (canonical_rekey BgpNeighbor.normalize_idempotent _)
    (canonical_rekey BgpNeighbor.normalize_idempotent _)

section Result

variable {desired : DeviceDesiredState} {observed : DeviceShadowState} {ops : List ChangeOp}

/-- After the replay on a stored state nothing is left to do exactly if that state fits. -/
theorem CarriesAll.normalizedDiffOps_eq_nil_iff (carries : CarriesAll desired observed ops)
    (separate : desired.Separate) (stored : DeviceShadowState) :
    normalizedDiffOps desired (normalizeShadowState (ops.foldl applyOp stored)) = [] ↔
      Fits desired observed stored := by
  have noneWanted : ∀ {key : String} {deletion : AclBinding},
      desired.deleteAclBindings[key]? = some deletion → desired.aclBindings[key]? = none :=
    fun {key _} isDeletion => Std.ExtTreeMap.getElem?_eq_none
      (separate.aclBindings key (mem_of_getElem?_eq_some isDeletion))
  -- what is wanted and what is unwanted of each kind, before and after the replay
  have vlanProvides := carries.vlans.provides_iff vlanObjects_lawful vlanObjects_normalizes stored
  have interfaceProvides := carries.interfaces.provides_iff interfaceObjects_lawful
    interfaceObjects_normalizes stored
  have aclProvides := carries.acls.provides_iff aclObjects_lawful aclObjects_normalizes stored
  have aclBindingProvides := carries.aclBindings.provides_iff aclBindingObjects_lawful
    aclBindingObjects_normalizes stored
  have bgpProcessProvides := carries.bgpProcesses.provides_iff bgpProcessObjects_lawful
    bgpProcessObjects_normalizes stored
  have bgpNeighborProvides := carries.bgpNeighbors.provides_iff bgpNeighborObjects_lawful
    bgpNeighborObjects_normalizes stored
  have vlanAbsent := fun vlanId listed =>
    carries.vlans.not_mem_iff_shown vlanObjects_lawful vlanObjects_normalizes stored
      (separate.vlans vlanId listed)
  have interfaceAbsent := fun name listed =>
    carries.interfaces.not_mem_iff_shown interfaceObjects_lawful interfaceObjects_normalizes stored
      (separate.interfaces name listed)
  have aclAbsent := fun aclId listed =>
    carries.acls.not_mem_iff_shown aclObjects_lawful aclObjects_normalizes stored
      (separate.acls aclId listed)
  have bgpProcessAbsent := fun vrf listed =>
    carries.bgpProcesses.not_mem_iff_shown bgpProcessObjects_lawful
      bgpProcessObjects_normalizes stored (separate.bgpProcesses vrf listed)
  have bgpNeighborAbsent := fun key listed =>
    carries.bgpNeighbors.not_mem_iff_shown bgpNeighborObjects_lawful
      bgpNeighborObjects_normalizes stored (separate.bgpNeighbors key listed)
  have aclBindingShown := fun (key : String) (deletion : AclBinding)
      (isDeletion : desired.deleteAclBindings[key]? = some deletion) =>
    carries.aclBindings.shown_eq aclBindingObjects_lawful aclBindingObjects_normalizes stored
      (noneWanted isDeletion)
  rw [AriaUnderlay.normalizedDiffOps_eq_nil_iff]
  constructor
  · rintro ⟨vlans, interfaces, noInterfaces, noVlans, acls, bindings, noBindings, noAcls,
      processes, neighbors, noNeighbors, noProcesses⟩
    exact
      { vlans := vlanProvides.mp vlans
        interfaces := interfaceProvides.mp interfaces
        acls := aclProvides.mp acls
        aclBindings := aclBindingProvides.mp bindings
        bgpProcesses := bgpProcessProvides.mp processes
        bgpNeighbors := bgpNeighborProvides.mp neighbors
        noVlans := fun vlanId listed => (vlanAbsent vlanId listed).mp (noVlans vlanId listed)
        noInterfaces := fun name listed =>
          (interfaceAbsent name listed).mp (noInterfaces name listed)
        noAcls := fun aclId listed => (aclAbsent aclId listed).mp (noAcls aclId listed)
        noAclBindings := fun key deletion binding isDeletion isShown =>
          noBindings key deletion binding isDeletion
            ((aclBindingShown key deletion isDeletion).trans isShown)
        noBgpProcesses := fun vrf listed =>
          (bgpProcessAbsent vrf listed).mp (noProcesses vrf listed)
        noBgpNeighbors := fun key listed => by
          obtain ⟨deletion, isDeletion⟩ := exists_getElem?_of_mem listed
          exact (bgpNeighborAbsent key listed).mp (noNeighbors key deletion isDeletion) }
  · intro fits
    refine ⟨vlanProvides.mpr fits.vlans, interfaceProvides.mpr fits.interfaces,
      fun name listed => (interfaceAbsent name listed).mpr (fits.noInterfaces name listed),
      fun vlanId listed => (vlanAbsent vlanId listed).mpr (fits.noVlans vlanId listed),
      aclProvides.mpr fits.acls, aclBindingProvides.mpr fits.aclBindings,
      fun key deletion binding isDeletion present => ?_,
      fun aclId listed => (aclAbsent aclId listed).mpr (fits.noAcls aclId listed),
      bgpProcessProvides.mpr fits.bgpProcesses, bgpNeighborProvides.mpr fits.bgpNeighbors,
      fun key deletion isDeletion => ?_,
      fun vrf listed => (bgpProcessAbsent vrf listed).mpr (fits.noBgpProcesses vrf listed)⟩
    · exact fits.noAclBindings key deletion binding isDeletion
        ((aclBindingShown key deletion isDeletion).symm.trans present)
    · have listed : key ∈ desired.deleteBgpNeighbors := mem_of_getElem?_eq_some isDeletion
      exact (bgpNeighborAbsent key listed).mpr (fits.noBgpNeighbors key listed)

end Result

/-- After a diff from the observed state was replayed on the stored one, nothing is left to do
exactly if the stored state fits. -/
theorem computeDiff_applyToShadow_eq_nil_iff (desired : DeviceDesiredState)
    (observed : DeviceShadowState) (base : Option DeviceShadowState) (revision : UInt64)
    (separate : (normalizeDesiredState desired).Separate) :
    (computeDiff desired ((computeDiff desired observed).applyToShadow base desired revision)).ops =
        [] ↔
      Fits (normalizeDesiredState desired) (normalizeShadowState observed)
        (base.getD { deviceId := desired.deviceId, revision := revision }) := by
  have carries := carriesAll_normalizedDiffOps separate (normalizeShadowState observed)
  have result := carries.normalizedDiffOps_eq_nil_iff separate
    { base.getD { deviceId := desired.deviceId, revision := revision } with
      deviceId := desired.deviceId, revision := revision, warnings := [] }
  refine result.trans ⟨fun fits => ?_, fun fits => ?_⟩
  · exact ⟨fits.1, fits.2, fits.3, fits.4, fits.5, fits.6, fits.7, fits.8, fits.9, fits.10, fits.11,
      fits.12⟩
  · exact ⟨fits.1, fits.2, fits.3, fits.4, fits.5, fits.6, fits.7, fits.8, fits.9, fits.10, fits.11,
      fits.12⟩

end AriaUnderlay
