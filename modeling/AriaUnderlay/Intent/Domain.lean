import AriaUnderlay.Model.Config

/-!
# Domain intents

What a caller asks of an underlay domain.  VLANs and ACLs hold for the whole domain; interfaces, ACL
bindings and BGP objects are given for a switch member, and every member is reached through a
management endpoint, which several members may share.
-/

namespace AriaUnderlay

/-- The vendors. -/
inductive Vendor where
  | huawei
  | h3c
  | cisco
  | ruijie
  | unknown
  deriving DecidableEq, Repr

/-- The two leaves of a pair. -/
inductive DeviceRole where
  | leafA
  | leafB
  deriving DecidableEq, Repr

/-- How switches are managed together. -/
inductive UnderlayTopology where
  | stackSingleManagementIp
  | mlagDualManagementIp
  | smallFabric
  deriving DecidableEq, Repr

/-- Where switches are managed. -/
structure ManagementEndpointIntent where
  endpointId : String
  host : String
  port : UInt16
  secretRef : String
  vendorHint : Option Vendor
  modelHint : Option String
  deriving DecidableEq, Repr

/-- A switch and its endpoint. -/
structure SwitchMemberIntent where
  memberId : String
  role : Option DeviceRole
  managementEndpointId : String
  deriving DecidableEq, Repr

/-- A VLAN for all endpoints. -/
structure VlanIntent where
  vlanId : UInt16
  name : Option String
  description : Option String
  deriving DecidableEq, Repr

/-- An interface of a member. -/
structure InterfaceIntent where
  deviceId : DeviceId
  name : String
  adminState : AdminState
  description : Option String
  mode : PortMode
  deriving DecidableEq, Repr

/-- An interface to be deleted. -/
structure InterfaceDeleteIntent where
  deviceId : DeviceId
  name : String
  deriving DecidableEq, Repr

/-- An ACL for all endpoints. -/
structure AclIntent where
  aclId : UInt16
  kind : AclKind
  name : Option String
  description : Option String
  rules : List AclRule
  deriving DecidableEq, Repr

/-- A binding at a member. -/
structure AclBindingIntent where
  deviceId : DeviceId
  interfaceName : String
  direction : AclDirection
  aclId : UInt16
  deriving DecidableEq, Repr

/-- A BGP process of a member. -/
structure BgpProcessIntent where
  deviceId : DeviceId
  vrf : String
  localAs : UInt32
  routerId : Option String
  deriving DecidableEq, Repr

/-- A BGP neighbor of a member. -/
structure BgpNeighborIntent where
  deviceId : DeviceId
  vrf : String
  address : String
  remoteAs : UInt32
  description : Option String
  importPolicy : Option String
  exportPolicy : Option String
  deriving DecidableEq, Repr

/-- A BGP process to be deleted. -/
structure BgpProcessDeleteIntent where
  deviceId : DeviceId
  vrf : String
  deriving DecidableEq, Repr

/-- A BGP neighbor to be deleted. -/
structure BgpNeighborDeleteIntent where
  deviceId : DeviceId
  vrf : String
  address : String
  deriving DecidableEq, Repr

/-- What is wanted of a domain. -/
structure UnderlayDomainIntent where
  domainId : String
  topology : UnderlayTopology
  endpoints : List ManagementEndpointIntent
  members : List SwitchMemberIntent
  vlans : List VlanIntent
  interfaces : List InterfaceIntent
  acls : List AclIntent := []
  aclBindings : List AclBindingIntent := []
  deleteVlanIds : List UInt16 := []
  deleteInterfaces : List InterfaceDeleteIntent := []
  deleteAclIds : List UInt16 := []
  deleteAclBindings : List AclBindingIntent := []
  bgpProcesses : List BgpProcessIntent := []
  bgpNeighbors : List BgpNeighborIntent := []
  deleteBgpProcesses : List BgpProcessDeleteIntent := []
  deleteBgpNeighbors : List BgpNeighborDeleteIntent := []
  deriving DecidableEq, Repr

end AriaUnderlay
