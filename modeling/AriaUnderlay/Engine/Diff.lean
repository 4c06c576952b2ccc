import AriaUnderlay.Engine.Normalize

/-!
# Diff and replay

`computeDiff` lists the operations that take a device from its current state to a desired one, and
`applyToShadow` replays such a list on a shadow state.  Both are passes over six object maps.  The
diff of one map is `upsertOps` followed, elsewhere in the list, by the deletions of that map.

Deleting an ACL also drops its bindings from the shadow, and deleting a BGP process drops the
neighbors of its VRF.
-/

namespace AriaUnderlay

open Collections

/-- The operations that change a device. -/
inductive ChangeOp where
  | createVlan (vlan : VlanConfig)
  | updateVlan (before after : VlanConfig)
  | deleteVlan (vlanId : UInt16)
  | updateInterface (before : Option InterfaceConfig) (after : InterfaceConfig)
  | deleteInterfaceConfig (interfaceName : String)
  | createAcl (acl : AclConfig)
  | updateAcl (before after : AclConfig)
  | deleteAcl (aclId : UInt16)
  | createAclBinding (binding : AclBinding)
  | updateAclBinding (before after : AclBinding)
  | deleteAclBinding (interfaceName : String) (direction : AclDirection) (aclId : UInt16)
  | createBgpProcess (process : BgpProcess)
  | updateBgpProcess (before after : BgpProcess)
  | deleteBgpProcess (vrf : String)
  | createBgpNeighbor (neighbor : BgpNeighbor)
  | updateBgpNeighbor (before after : BgpNeighbor)
  | deleteBgpNeighbor (vrf address : String)
  deriving DecidableEq, Repr

/-- The operations for a device. -/
structure ChangeSet where
  deviceId : DeviceId
  ops : List ChangeOp
  deriving DecidableEq, Repr

/-- Nothing has to be changed. -/
def ChangeSet.isEmpty (changeSet : ChangeSet) : Bool :=
  changeSet.ops.isEmpty

/-! ## Computing the operations -/

section Passes

variable {κ ν : Type} [Ord κ] [Std.TransOrd κ] [DecidableEq ν]

/-- Create what is missing and update what differs. -/
def upsertOps (create : ν → ChangeOp) (update : ν → ν → ChangeOp)
    (desired current : BTreeMap κ ν) : List ChangeOp :=
  desired.toList.filterMap fun entry =>
    match current[entry.1]? with
    | some present => if present = entry.2 then none else some (update present entry.2)
    | none => some (create entry.2)

/-- Delete the listed keys that are present. -/
def deleteOps (delete : κ → ChangeOp) (keys : BTreeSet κ)
    (current : BTreeMap κ ν) : List ChangeOp :=
  keys.toList.filterMap fun key => if current.contains key then some (delete key) else none

end Passes

/-- A binding is deleted only while it still binds the ACL that the deletion names. -/
def deleteAclBindingOps (deletions current : BTreeMap String AclBinding) : List ChangeOp :=
  deletions.toList.filterMap fun entry =>
    if current[entry.1]?.any fun binding => binding.aclId = entry.2.aclId then
      some (.deleteAclBinding entry.2.interfaceName entry.2.direction entry.2.aclId)
    else none

def deleteBgpNeighborOps (deletions current : BTreeMap String BgpNeighbor) : List ChangeOp :=
  deletions.toList.filterMap fun entry =>
    if current.contains entry.1 then
      some (.deleteBgpNeighbor entry.2.vrf entry.2.address)
    else none

/-- The operations between two states that are already normalized. -/
def normalizedDiffOps (desired : DeviceDesiredState)
    (current : DeviceShadowState) : List ChangeOp :=
  upsertOps .createVlan .updateVlan desired.vlans current.vlans ++
  upsertOps (.updateInterface none) (fun before => .updateInterface (some before))
    desired.interfaces current.interfaces ++
  deleteOps .deleteInterfaceConfig desired.deleteInterfaceNames current.interfaces ++
  deleteOps .deleteVlan desired.deleteVlanIds current.vlans ++
  upsertOps .createAcl .updateAcl desired.acls current.acls ++
  upsertOps .createAclBinding .updateAclBinding desired.aclBindings current.aclBindings ++
  deleteAclBindingOps desired.deleteAclBindings current.aclBindings ++
  deleteOps .deleteAcl desired.deleteAclIds current.acls ++
  upsertOps .createBgpProcess .updateBgpProcess desired.bgpProcesses current.bgpProcesses ++
  upsertOps .createBgpNeighbor .updateBgpNeighbor desired.bgpNeighbors current.bgpNeighbors ++
  deleteBgpNeighborOps desired.deleteBgpNeighbors current.bgpNeighbors ++
  deleteOps .deleteBgpProcess desired.deleteBgpProcessVrfs current.bgpProcesses

def computeDiff (desired : DeviceDesiredState) (current : DeviceShadowState) : ChangeSet where
  deviceId := (normalizeDesiredState desired).deviceId
  ops := normalizedDiffOps (normalizeDesiredState desired) (normalizeShadowState current)

/-! ## Replaying the operations -/

def applyOp (state : DeviceShadowState) : ChangeOp → DeviceShadowState
  | .createVlan vlan => { state with vlans := state.vlans.insert vlan.vlanId vlan }
  | .updateVlan _ after => { state with vlans := state.vlans.insert after.vlanId after }
  | .deleteVlan vlanId => { state with vlans := state.vlans.erase vlanId }
  | .updateInterface _ after =>
      { state with interfaces := state.interfaces.insert after.name after }
  | .deleteInterfaceConfig interfaceName =>
      { state with interfaces := state.interfaces.erase interfaceName }
  | .createAcl acl => { state with acls := state.acls.insert acl.aclId acl }
  | .updateAcl _ after => { state with acls := state.acls.insert after.aclId after }
  | .deleteAcl aclId =>
      { state with
        acls := state.acls.erase aclId
        aclBindings := state.aclBindings.filter fun _ binding => binding.aclId ≠ aclId }
  | .createAclBinding binding =>
      { state with aclBindings := state.aclBindings.insert binding.key binding }
  | .updateAclBinding _ after =>
      { state with aclBindings := state.aclBindings.insert after.key after }
  | .deleteAclBinding interfaceName direction _ =>
      { state with
        aclBindings := state.aclBindings.erase (aclBindingKey interfaceName direction) }
  | .createBgpProcess process =>
      { state with bgpProcesses := state.bgpProcesses.insert process.vrf process }
  | .updateBgpProcess _ after =>
      { state with bgpProcesses := state.bgpProcesses.insert after.vrf after }
  | .deleteBgpProcess vrf =>
      { state with
        bgpProcesses := state.bgpProcesses.erase vrf
        bgpNeighbors := state.bgpNeighbors.filter fun _ neighbor => neighbor.vrf ≠ vrf }
  | .createBgpNeighbor neighbor =>
      { state with bgpNeighbors := state.bgpNeighbors.insert neighbor.key neighbor }
  | .updateBgpNeighbor _ after =>
      { state with bgpNeighbors := state.bgpNeighbors.insert after.key after }
  | .deleteBgpNeighbor vrf address =>
      { state with bgpNeighbors := state.bgpNeighbors.erase (bgpNeighborKey vrf address) }

def ChangeSet.applyToShadow (changeSet : ChangeSet) (base : Option DeviceShadowState)
    (desired : DeviceDesiredState) (revision : UInt64) : DeviceShadowState :=
  let start : DeviceShadowState := base.getD { deviceId := desired.deviceId, revision := revision }
  changeSet.ops.foldl applyOp
    { start with deviceId := desired.deviceId, revision := revision, warnings := [] }

theorem applyOp_deviceId (state : DeviceShadowState) (op : ChangeOp) :
    (applyOp state op).deviceId = state.deviceId := by
  cases op <;> rfl

theorem foldl_applyOp_deviceId (ops : List ChangeOp) (state : DeviceShadowState) :
    (ops.foldl applyOp state).deviceId = state.deviceId := by
  induction ops generalizing state with
  | nil => rfl
  | cons op rest ih => exact (ih (applyOp state op)).trans (applyOp_deviceId state op)

/-! ## Which operations a diff contains -/

variable {op : ChangeOp}

section Passes

variable {κ ν : Type} [Ord κ] [Std.TransOrd κ] [Std.LawfulEqOrd κ] [DecidableEq ν]

variable {current : BTreeMap κ ν}

theorem mem_upsertOps {create : ν → ChangeOp} {update : ν → ν → ChangeOp} {desired : BTreeMap κ ν} :
    op ∈ upsertOps create update desired current ↔
      ∃ (key : κ) (value : ν), desired[key]? = some value ∧
        ((current[key]? = none ∧ create value = op) ∨
          ∃ present, current[key]? = some present ∧ present ≠ value ∧
            update present value = op) := by
  simp only [upsertOps, List.mem_filterMap, Prod.exists,
    Std.ExtTreeMap.mem_toList_iff_getElem?_eq_some]
  apply exists_congr
  intro key
  apply exists_congr
  intro value
  cases current[key]? with
  | none => simp
  | some present => by_cases same : present = value <;> simp [same]

/-- Nothing is left to create or update exactly when every desired entry is already there. -/
theorem upsertOps_eq_nil_iff {create : ν → ChangeOp} {update : ν → ν → ChangeOp}
    {desired : BTreeMap κ ν} :
    upsertOps create update desired current = [] ↔
      ∀ (key : κ) (value : ν), desired[key]? = some value → current[key]? = some value := by
  simp only [upsertOps, List.filterMap_eq_nil_iff, Prod.forall,
    Std.ExtTreeMap.mem_toList_iff_getElem?_eq_some]
  apply forall_congr'
  intro key
  apply forall_congr'
  intro value
  cases current[key]? with
  | none => simp
  | some present => by_cases same : present = value <;> simp [same]

omit [Std.LawfulEqOrd κ] [DecidableEq ν] in
theorem mem_deleteOps {delete : κ → ChangeOp} {keys : BTreeSet κ} :
    op ∈ deleteOps delete keys current ↔ ∃ key ∈ keys.toList, key ∈ current ∧ delete key = op := by
  simp only [deleteOps, List.mem_filterMap]
  apply exists_congr
  intro key
  by_cases present : key ∈ current <;> simp [present]

omit [Std.LawfulEqOrd κ] [DecidableEq ν] in
theorem deleteOps_eq_nil_iff {delete : κ → ChangeOp} {keys : BTreeSet κ} :
    deleteOps delete keys current = [] ↔ ∀ key ∈ keys.toList, key ∉ current := by
  simp [deleteOps]

end Passes

theorem mem_deleteAclBindingOps {deletions current : BTreeMap String AclBinding} :
    op ∈ deleteAclBindingOps deletions current ↔
      ∃ (key : String) (deletion binding : AclBinding),
        deletions[key]? = some deletion ∧ current[key]? = some binding ∧
        binding.aclId = deletion.aclId ∧
        ChangeOp.deleteAclBinding deletion.interfaceName deletion.direction deletion.aclId =
          op := by
  simp only [deleteAclBindingOps, List.mem_filterMap, Prod.exists,
    Std.ExtTreeMap.mem_toList_iff_getElem?_eq_some]
  apply exists_congr
  intro key
  apply exists_congr
  intro deletion
  cases current[key]? with
  | none => simp
  | some binding => by_cases same : binding.aclId = deletion.aclId <;> simp [same]

theorem deleteAclBindingOps_eq_nil_iff {deletions current : BTreeMap String AclBinding} :
    deleteAclBindingOps deletions current = [] ↔
      ∀ (key : String) (deletion binding : AclBinding),
        deletions[key]? = some deletion → current[key]? = some binding →
        binding.aclId ≠ deletion.aclId := by
  rw [List.eq_nil_iff_forall_not_mem]
  simp only [mem_deleteAclBindingOps]
  constructor
  · intro none key deletion binding isDeletion isBinding same
    exact none _ ⟨key, deletion, binding, isDeletion, isBinding, same, rfl⟩
  · rintro differ op ⟨key, deletion, binding, isDeletion, isBinding, same, -⟩
    exact differ key deletion binding isDeletion isBinding same

theorem mem_deleteBgpNeighborOps {deletions current : BTreeMap String BgpNeighbor} :
    op ∈ deleteBgpNeighborOps deletions current ↔
      ∃ (key : String) (deletion : BgpNeighbor), deletions[key]? = some deletion ∧
        key ∈ current ∧ ChangeOp.deleteBgpNeighbor deletion.vrf deletion.address = op := by
  simp only [deleteBgpNeighborOps, List.mem_filterMap, Prod.exists,
    Std.ExtTreeMap.mem_toList_iff_getElem?_eq_some]
  apply exists_congr
  intro key
  by_cases present : key ∈ current <;> simp [present]

theorem deleteBgpNeighborOps_eq_nil_iff {deletions current : BTreeMap String BgpNeighbor} :
    deleteBgpNeighborOps deletions current = [] ↔
      ∀ (key : String) (deletion : BgpNeighbor),
        deletions[key]? = some deletion → key ∉ current := by
  simp [deleteBgpNeighborOps]

end AriaUnderlay
