import AriaUnderlay.Collections.Overlay
import AriaUnderlay.Engine.Convergence

/-!
# Normal forms

Normalizing a state twice is normalizing it once, and a diff only ever sees normal forms.  On normal
forms the diff is exact: it is empty if and only if the current state already shows everything that
is desired and nothing that is to be deleted.
-/

namespace AriaUnderlay

open Collections

section Sets

variable {κ : Type} [Ord κ] [Std.TransOrd κ] [Std.LawfulEqOrd κ] [BEq κ] [LawfulBEq κ]

/-- Mapping a set by an idempotent function a second time changes nothing. -/
theorem ofList_map_idempotent {normalize : κ → κ}
    (idempotent : ∀ value, normalize (normalize value) = normalize value) (values : List κ) :
    (.ofList ((.ofList (values.map normalize) : BTreeSet κ).toList.map normalize) : BTreeSet κ) =
      .ofList (values.map normalize) := by
  apply Std.ExtTreeSet.ext_mem
  intro value
  simp only [Std.ExtTreeSet.mem_ofList, List.contains_iff_mem, List.mem_map,
    Std.ExtTreeSet.mem_toList]
  constructor
  · rintro ⟨_, ⟨original, member, rfl⟩, rfl⟩
    exact ⟨original, member, (idempotent original).symm⟩
  · rintro ⟨original, member, rfl⟩
    exact ⟨normalize original, ⟨original, member, rfl⟩, idempotent original⟩

end Sets

/-- The references are trimmed and blank ones are dropped. -/
theorem routePolicyRefs_idempotent (references : List String) :
    (.ofList (((.ofList ((references.map trim).filter (· ≠ "")) : BTreeSet String).toList.map
        trim).filter (· ≠ "")) : BTreeSet String) =
      .ofList ((references.map trim).filter (· ≠ "")) := by
  apply Std.ExtTreeSet.ext_mem
  intro value
  simp only [Std.ExtTreeSet.mem_ofList, List.contains_iff_mem, List.mem_filter, List.mem_map,
    Std.ExtTreeSet.mem_toList]
  constructor
  · rintro ⟨⟨_, ⟨⟨original, member, rfl⟩, -⟩, rfl⟩, filled⟩
    exact ⟨⟨original, member, by simp⟩, filled⟩
  · rintro ⟨⟨original, member, rfl⟩, filled⟩
    exact ⟨⟨trim original, ⟨⟨original, member, rfl⟩, filled⟩, by simp⟩, filled⟩

theorem normalizeDesiredState_idempotent (desired : DeviceDesiredState) :
    normalizeDesiredState (normalizeDesiredState desired) = normalizeDesiredState desired := by
  simp only [normalizeDesiredState, DeviceDesiredState.mk.injEq, true_and, and_true,
    (canonical_rekey VlanConfig.normalize_idempotent _).rekey_eq_self,
    (canonical_rekey InterfaceConfig.normalize_idempotent _).rekey_eq_self,
    (canonical_rekey AclConfig.normalize_idempotent _).rekey_eq_self,
    (canonical_rekey AclBinding.normalize_idempotent _).rekey_eq_self,
    (canonical_rekey BgpProcess.normalize_idempotent _).rekey_eq_self,
    (canonical_rekey BgpNeighbor.normalize_idempotent _).rekey_eq_self]
  refine ⟨routePolicyRefs_idempotent _, ?_, ?_⟩
  · exact ofList_map_idempotent canonicalInterfaceName_idempotent _
  · exact ofList_map_idempotent trim_trim _

theorem normalizeShadowState_idempotent (state : DeviceShadowState) :
    normalizeShadowState (normalizeShadowState state) = normalizeShadowState state :=
  (normal_normalizeShadowState state).normalize_eq_self

/-- The state shows everything that is desired, and nothing that is to be deleted.  A binding counts
as deleted once it no longer has the ACL that the deletion names. -/
structure DeviceShadowState.Meets (state : DeviceShadowState)
    (desired : DeviceDesiredState) : Prop where
  vlans : ∀ (vlanId : UInt16) (vlan : VlanConfig),
    desired.vlans[vlanId]? = some vlan → state.vlans[vlanId]? = some vlan
  interfaces : ∀ (name : String) (interface : InterfaceConfig),
    desired.interfaces[name]? = some interface → state.interfaces[name]? = some interface
  acls : ∀ (aclId : UInt16) (acl : AclConfig),
    desired.acls[aclId]? = some acl → state.acls[aclId]? = some acl
  aclBindings : ∀ (key : String) (binding : AclBinding),
    desired.aclBindings[key]? = some binding → state.aclBindings[key]? = some binding
  bgpProcesses : ∀ (vrf : String) (process : BgpProcess),
    desired.bgpProcesses[vrf]? = some process → state.bgpProcesses[vrf]? = some process
  bgpNeighbors : ∀ (key : String) (neighbor : BgpNeighbor),
    desired.bgpNeighbors[key]? = some neighbor → state.bgpNeighbors[key]? = some neighbor
  noVlans : ∀ vlanId ∈ desired.deleteVlanIds, vlanId ∉ state.vlans
  noInterfaces : ∀ name ∈ desired.deleteInterfaceNames, name ∉ state.interfaces
  noAcls : ∀ aclId ∈ desired.deleteAclIds, aclId ∉ state.acls
  noBgpProcesses : ∀ vrf ∈ desired.deleteBgpProcessVrfs, vrf ∉ state.bgpProcesses
  noBgpNeighbors : ∀ key ∈ desired.deleteBgpNeighbors, key ∉ state.bgpNeighbors
  noAclBindings : ∀ (key : String) (deletion binding : AclBinding),
    desired.deleteAclBindings[key]? = some deletion → state.aclBindings[key]? = some binding →
      binding.aclId ≠ deletion.aclId

theorem normalizedDiffOps_eq_nil_iff_meets {desired : DeviceDesiredState}
    {current : DeviceShadowState} :
    normalizedDiffOps desired current = [] ↔ current.Meets desired := by
  rw [normalizedDiffOps_eq_nil_iff]
  constructor
  · rintro ⟨vlans, interfaces, noInterfaces, noVlans, acls, bindings, noBindings, noAcls,
      processes, neighbors, noNeighbors, noProcesses⟩
    refine ⟨vlans, interfaces, acls, bindings, processes, neighbors, noVlans, noInterfaces, noAcls,
      noProcesses, ?_, noBindings⟩
    intro key listed
    rcases exists_getElem?_of_mem listed with ⟨deletion, isDeletion⟩
    exact noNeighbors key deletion isDeletion
  · intro meets
    refine ⟨meets.vlans, meets.interfaces, meets.noInterfaces, meets.noVlans, meets.acls,
      meets.aclBindings, meets.noAclBindings, meets.noAcls, meets.bgpProcesses, meets.bgpNeighbors,
      ?_, meets.noBgpProcesses⟩
    intro key deletion isDeletion
    exact meets.noBgpNeighbors key (mem_of_getElem?_eq_some isDeletion)

/-- Normalization is a canonical form that the diff respects, and the diff is empty exactly if the
normal form of the current state meets that of the desired state. -/
theorem computeDiff_exact_on_normal_forms (desired : DeviceDesiredState)
    (current : DeviceShadowState) :
    normalizeDesiredState (normalizeDesiredState desired) = normalizeDesiredState desired ∧
      normalizeShadowState (normalizeShadowState current) = normalizeShadowState current ∧
      computeDiff desired current =
        computeDiff (normalizeDesiredState desired) (normalizeShadowState current) ∧
      ((computeDiff desired current).ops = [] ↔
        (normalizeShadowState current).Meets (normalizeDesiredState desired)) := by
  refine ⟨normalizeDesiredState_idempotent desired, normalizeShadowState_idempotent current, ?_,
    normalizedDiffOps_eq_nil_iff_meets⟩
  rw [computeDiff, computeDiff, normalizeDesiredState_idempotent, normalizeShadowState_idempotent]

end AriaUnderlay
