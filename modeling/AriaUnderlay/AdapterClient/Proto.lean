import Mathlib.Data.List.Basic

/-!
# Messages of the adapter protocol

The messages that carry desired and observed states between the core and an adapter.  Identifiers
are 32-bit numbers on the wire and enumerations are their 32-bit numbers, so that a message can hold
values that no configuration has.
-/

namespace AriaUnderlay.Proto

/-! ## Enumerations -/

/-- The value with this number, or `UNSPECIFIED` if there is none. -/
def ofNumber {Value : Type} (number : Value → Int32) (specified : List Value) (unspecified : Value)
    (value : Int32) : Value :=
  (specified.find? (number · = value)).getD unspecified

/-- Administrative states on the wire. -/
inductive AdminState where
  | unspecified
  | up
  | down
  deriving DecidableEq, Repr

/-- The number of a state. -/
def AdminState.number : AdminState → Int32
  | .unspecified => 0
  | .up => 1
  | .down => 2

/-- The state of a number. -/
def AdminState.ofNumber : Int32 → AdminState :=
  Proto.ofNumber number [.up, .down] .unspecified

/-- Port modes on the wire. -/
inductive PortModeKind where
  | unspecified
  | access
  | trunk
  deriving DecidableEq, Repr

/-- The number of a mode. -/
def PortModeKind.number : PortModeKind → Int32
  | .unspecified => 0
  | .access => 1
  | .trunk => 2

/-- The mode of a number. -/
def PortModeKind.ofNumber : Int32 → PortModeKind :=
  Proto.ofNumber number [.access, .trunk] .unspecified

/-- Actions on the wire. -/
inductive AclAction where
  | unspecified
  | permit
  | deny
  deriving DecidableEq, Repr

/-- The number of an action. -/
def AclAction.number : AclAction → Int32
  | .unspecified => 0
  | .permit => 1
  | .deny => 2

/-- The action of a number. -/
def AclAction.ofNumber : Int32 → AclAction :=
  Proto.ofNumber number [.permit, .deny] .unspecified

/-- Protocols on the wire. -/
inductive AclProtocol where
  | unspecified
  | ip
  | tcp
  | udp
  | icmp
  deriving DecidableEq, Repr

/-- The number of a protocol. -/
def AclProtocol.number : AclProtocol → Int32
  | .unspecified => 0
  | .ip => 1
  | .tcp => 2
  | .udp => 3
  | .icmp => 4

/-- The protocol of a number. -/
def AclProtocol.ofNumber : Int32 → AclProtocol :=
  Proto.ofNumber number [.ip, .tcp, .udp, .icmp] .unspecified

/-- Directions on the wire. -/
inductive AclDirection where
  | unspecified
  | inbound
  | outbound
  deriving DecidableEq, Repr

/-- The number of a direction. -/
def AclDirection.number : AclDirection → Int32
  | .unspecified => 0
  | .inbound => 1
  | .outbound => 2

/-- The direction of a number. -/
def AclDirection.ofNumber : Int32 → AclDirection :=
  Proto.ofNumber number [.inbound, .outbound] .unspecified

/-- ACL kinds on the wire. -/
inductive AclKind where
  | unspecified
  | advancedIpv4
  | basicIpv4
  deriving DecidableEq, Repr

/-- The number of a kind. -/
def AclKind.number : AclKind → Int32
  | .unspecified => 0
  | .advancedIpv4 => 1
  | .basicIpv4 => 2

/-- The kind of a number. -/
def AclKind.ofNumber : Int32 → AclKind :=
  Proto.ofNumber number [.advancedIpv4, .basicIpv4] .unspecified

/-! ## Messages -/

/-- The message of a VLAN. -/
structure VlanConfig where
  vlanId : UInt32
  name : Option String
  description : Option String
  deriving DecidableEq, Repr

/-- The message of a port mode. -/
structure PortMode where
  kind : Int32
  accessVlan : Option UInt32
  nativeVlan : Option UInt32
  allowedVlans : List UInt32
  deriving DecidableEq, Repr

/-- The message of an interface. -/
structure InterfaceConfig where
  name : String
  adminState : Int32
  description : Option String
  mode : Option PortMode
  deriving DecidableEq, Repr

/-- The message of an endpoint. -/
structure AclEndpoint where
  address : String
  wildcard : String
  deriving DecidableEq, Repr

/-- The message of a rule. -/
structure AclRule where
  sequence : UInt32
  action : Int32
  protocol : Int32
  source : Option AclEndpoint
  destination : Option AclEndpoint
  sourcePortEq : Option UInt32
  destinationPortEq : Option UInt32
  description : Option String
  deriving DecidableEq, Repr

/-- The message of an ACL. -/
structure AclConfig where
  aclId : UInt32
  name : Option String
  description : Option String
  rules : List AclRule
  kind : Int32
  deriving DecidableEq, Repr

/-- The message of a binding. -/
structure AclBinding where
  interfaceName : String
  direction : Int32
  aclId : UInt32
  deriving DecidableEq, Repr

/-- The message of a BGP process. -/
structure BgpProcess where
  vrf : String
  localAs : UInt32
  routerId : Option String
  deriving DecidableEq, Repr

/-- The message of a BGP neighbor. -/
structure BgpNeighbor where
  vrf : String
  address : String
  remoteAs : UInt32
  description : Option String
  importPolicy : Option String
  exportPolicy : Option String
  deriving DecidableEq, Repr

/-- The message of a desired state. -/
structure DesiredDeviceState where
  deviceId : String
  vlans : List VlanConfig := []
  interfaces : List InterfaceConfig := []
  acls : List AclConfig := []
  aclBindings : List AclBinding := []
  deleteVlanIds : List UInt32 := []
  deleteAclIds : List UInt32 := []
  deleteAclBindings : List AclBinding := []
  deleteInterfaceNames : List String := []
  bgpProcesses : List BgpProcess := []
  bgpNeighbors : List BgpNeighbor := []
  deleteBgpProcessVrfs : List String := []
  deleteBgpNeighbors : List BgpNeighbor := []
  deriving DecidableEq, Repr

/-- The message of an observed state. -/
structure ObservedDeviceState where
  deviceId : String
  vlans : List VlanConfig
  interfaces : List InterfaceConfig
  acls : List AclConfig
  aclBindings : List AclBinding
  bgpProcesses : List BgpProcess
  bgpNeighbors : List BgpNeighbor
  deriving DecidableEq, Repr

end AriaUnderlay.Proto
