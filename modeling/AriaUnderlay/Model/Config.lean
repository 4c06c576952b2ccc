import AriaUnderlay.Collections.Keyed

/-!
# Device configuration

The objects an underlay device carries, the desired state that a plan asks of one device, and the
shadow state that the core keeps of it.  Objects live in maps keyed by their identifying fields:
ACL bindings under `interface|direction` and BGP neighbors under `vrf|address`.
-/

namespace AriaUnderlay

open Collections

/-- Devices by their names. -/
abbrev DeviceId : Type := String

/-- A VLAN of a device. -/
structure VlanConfig where
  vlanId : UInt16
  name : Option String
  description : Option String
  deriving DecidableEq, Repr

/-- Whether an interface is up. -/
inductive AdminState where
  | up
  | down
  deriving DecidableEq, Repr

/-- How a port carries VLANs. -/
inductive PortMode where
  | access (vlanId : UInt16)
  | trunk (nativeVlan : Option UInt16) (allowedVlans : List UInt16)
  deriving DecidableEq, Repr

/-- An interface of a device. -/
structure InterfaceConfig where
  name : String
  adminState : AdminState
  description : Option String
  mode : PortMode
  deriving DecidableEq, Repr

/-- What a rule does. -/
inductive AclAction where
  | permit
  | deny
  deriving DecidableEq, Repr

/-- The protocol that a rule matches. -/
inductive AclProtocol where
  | ip
  | tcp
  | udp
  | icmp
  deriving DecidableEq, Repr

/-- The direction of a binding. -/
inductive AclDirection where
  | inbound
  | outbound
  deriving DecidableEq, Repr

/-- The text that the `Debug` format prints. -/
def AclDirection.debug : AclDirection → String
  | .inbound => "Inbound"
  | .outbound => "Outbound"

/-- Advanced and basic ACLs. -/
inductive AclKind where
  | advancedIpv4
  | basicIpv4
  deriving DecidableEq, Repr

/-- An address with a wildcard. -/
structure AclEndpoint where
  address : String
  wildcard : String
  deriving DecidableEq, Repr

/-- A rule of an ACL. -/
structure AclRule where
  sequence : UInt16
  action : AclAction
  protocol : AclProtocol
  source : Option AclEndpoint
  destination : Option AclEndpoint
  sourcePortEq : Option UInt16
  destinationPortEq : Option UInt16
  description : Option String
  deriving DecidableEq, Repr

/-- An ACL with its rules. -/
structure AclConfig where
  aclId : UInt16
  kind : AclKind
  name : Option String
  description : Option String
  rules : List AclRule
  deriving DecidableEq, Repr

/-- An ACL at an interface. -/
structure AclBinding where
  interfaceName : String
  direction : AclDirection
  aclId : UInt16
  deriving DecidableEq, Repr

/-- The key of a binding. -/
def aclBindingKey (interfaceName : String) (direction : AclDirection) : String :=
  match direction with
  | .inbound => interfaceName ++ "|inbound"
  | .outbound => interfaceName ++ "|outbound"

/-- The key of a binding. -/
def AclBinding.key (binding : AclBinding) : String :=
  aclBindingKey binding.interfaceName binding.direction

/-- The BGP process of a VRF. -/
structure BgpProcess where
  vrf : String
  localAs : UInt32
  routerId : Option String
  deriving DecidableEq, Repr

/-- A neighbor of a BGP process. -/
structure BgpNeighbor where
  vrf : String
  address : String
  remoteAs : UInt32
  description : Option String
  importPolicy : Option String
  exportPolicy : Option String
  deriving DecidableEq, Repr

/-- The key of a neighbor. -/
def bgpNeighborKey (vrf address : String) : String :=
  vrf ++ "|" ++ address

/-- The key of a neighbor. -/
def BgpNeighbor.key (neighbor : BgpNeighbor) : String :=
  bgpNeighborKey neighbor.vrf neighbor.address

/-- What a plan asks of one device: objects to create or update, and objects to delete. -/
structure DeviceDesiredState where
  deviceId : DeviceId
  vlans : BTreeMap UInt16 VlanConfig := ∅
  interfaces : BTreeMap String InterfaceConfig := ∅
  acls : BTreeMap UInt16 AclConfig := ∅
  aclBindings : BTreeMap String AclBinding := ∅
  routePolicyRefs : BTreeSet String := ∅
  bgpProcesses : BTreeMap String BgpProcess := ∅
  bgpNeighbors : BTreeMap String BgpNeighbor := ∅
  deleteVlanIds : BTreeSet UInt16 := ∅
  deleteInterfaceNames : BTreeSet String := ∅
  deleteAclIds : BTreeSet UInt16 := ∅
  deleteAclBindings : BTreeMap String AclBinding := ∅
  deleteBgpProcessVrfs : BTreeSet String := ∅
  deleteBgpNeighbors : BTreeMap String BgpNeighbor := ∅
  deriving DecidableEq

/-- What the core believes, or has observed, a device to carry. -/
structure DeviceShadowState where
  deviceId : DeviceId
  revision : UInt64
  vlans : BTreeMap UInt16 VlanConfig := ∅
  interfaces : BTreeMap String InterfaceConfig := ∅
  acls : BTreeMap UInt16 AclConfig := ∅
  aclBindings : BTreeMap String AclBinding := ∅
  bgpProcesses : BTreeMap String BgpProcess := ∅
  bgpNeighbors : BTreeMap String BgpNeighbor := ∅
  warnings : List String := []
  deriving DecidableEq

/-- The shadow of a desired state. -/
def DeviceShadowState.fromDesired (desired : DeviceDesiredState)
    (revision : UInt64) : DeviceShadowState where
  deviceId := desired.deviceId
  revision := revision
  vlans := desired.vlans
  interfaces := desired.interfaces
  acls := desired.acls
  aclBindings := desired.aclBindings
  bgpProcesses := desired.bgpProcesses
  bgpNeighbors := desired.bgpNeighbors
  warnings := []

end AriaUnderlay
