import AriaUnderlay.Engine.Diff

/-!
# State scopes

What the core asks an adapter to read or to verify: everything, or the VLANs, interfaces and ACLs
that a desired state or a change set is about.  A binding is in scope with its interface or with
its ACL.
-/

namespace AriaUnderlay

open Collections

/-- The part of a state that is asked for. -/
structure StateScope where
  full : Bool
  vlanIds : List UInt16
  interfaceNames : List String
  aclIds : List UInt16
  deriving DecidableEq, Repr

/-- The whole state. -/
def StateScope.everything : StateScope where
  full := true
  vlanIds := []
  interfaceNames := []
  aclIds := []

def stateScopeFromDesired (desired : DeviceDesiredState) : StateScope where
  full := false
  vlanIds := desired.vlans.keys ++ desired.deleteVlanIds.toList
  interfaceNames := (.ofList (desired.interfaces.keys
    ++ desired.aclBindings.values.map AclBinding.interfaceName
    ++ desired.deleteInterfaceNames.toList
    ++ desired.deleteAclBindings.values.map AclBinding.interfaceName) : BTreeSet String).toList
  aclIds := (.ofList (desired.acls.keys
    ++ desired.aclBindings.values.map AclBinding.aclId
    ++ desired.deleteAclIds.toList
    ++ desired.deleteAclBindings.values.map AclBinding.aclId) : BTreeSet UInt16).toList

/-- What a scope takes from a state. -/
def StateScope.restrict (scope : StateScope) (state : DeviceShadowState) : DeviceShadowState :=
  if scope.full then state
  else
    { state with
      vlans := state.vlans.filter fun _ vlan => vlan.vlanId ∈ scope.vlanIds
      interfaces := state.interfaces.filter fun _ interface =>
        interface.name ∈ scope.interfaceNames
      acls := state.acls.filter fun _ acl => acl.aclId ∈ scope.aclIds
      aclBindings := state.aclBindings.filter fun _ binding =>
        binding.interfaceName ∈ scope.interfaceNames ∨ binding.aclId ∈ scope.aclIds
      bgpProcesses := ∅
      bgpNeighbors := ∅ }

end AriaUnderlay
