import AriaUnderlay.AdapterClient.Proto
import AriaUnderlay.Collections.Results
import AriaUnderlay.Planner.Consistency

/-!
# Mapping states to messages and back

The core sends the desired state of a device as a message and reads observed states from messages.
The decoder checks every identifier, enumeration and required text again.
-/

namespace AriaUnderlay

open Collections Effect

/-! ## To messages -/

/-- The values of a map in the order of their keys. -/
def objectsOf {κ ν : Type} [Ord κ] [Std.TransOrd κ] (map : BTreeMap κ ν) : List ν :=
  map.toList.map Prod.snd

/-- A VLAN as a message. -/
def VlanConfig.toProto (vlan : VlanConfig) : Proto.VlanConfig where
  vlanId := vlan.vlanId.toUInt32
  name := vlan.name
  description := vlan.description

/-- A port mode as a message. -/
def PortMode.toProto : PortMode → Proto.PortMode
  | .access vlanId =>
      { kind := Proto.PortModeKind.access.number
        accessVlan := some vlanId.toUInt32
        nativeVlan := none
        allowedVlans := [] }
  | .trunk nativeVlan allowedVlans =>
      { kind := Proto.PortModeKind.trunk.number
        accessVlan := none
        nativeVlan := nativeVlan.map UInt16.toUInt32
        allowedVlans := allowedVlans.map UInt16.toUInt32 }

/-- An interface as a message. -/
def InterfaceConfig.toProto (interface : InterfaceConfig) : Proto.InterfaceConfig where
  name := interface.name
  adminState :=
    match interface.adminState with
    | .up => Proto.AdminState.up.number
    | .down => Proto.AdminState.down.number
  description := interface.description
  mode := some interface.mode.toProto

/-- An endpoint as a message. -/
def AclEndpoint.toProto (endpoint : AclEndpoint) : Proto.AclEndpoint where
  address := endpoint.address
  wildcard := endpoint.wildcard

/-- The number of an action. -/
def AclAction.toProto : AclAction → Proto.AclAction
  | .permit => .permit
  | .deny => .deny

/-- The number of a protocol. -/
def AclProtocol.toProto : AclProtocol → Proto.AclProtocol
  | .ip => .ip
  | .tcp => .tcp
  | .udp => .udp
  | .icmp => .icmp

/-- The number of a direction. -/
def AclDirection.toProto : AclDirection → Proto.AclDirection
  | .inbound => .inbound
  | .outbound => .outbound

/-- The number of a kind. -/
def AclKind.toProto : AclKind → Proto.AclKind
  | .advancedIpv4 => .advancedIpv4
  | .basicIpv4 => .basicIpv4

/-- A rule as a message. -/
def AclRule.toProto (rule : AclRule) : Proto.AclRule where
  sequence := rule.sequence.toUInt32
  action := rule.action.toProto.number
  protocol := rule.protocol.toProto.number
  source := rule.source.map AclEndpoint.toProto
  destination := rule.destination.map AclEndpoint.toProto
  sourcePortEq := rule.sourcePortEq.map UInt16.toUInt32
  destinationPortEq := rule.destinationPortEq.map UInt16.toUInt32
  description := rule.description

/-- An ACL as a message. -/
def AclConfig.toProto (acl : AclConfig) : Proto.AclConfig where
  aclId := acl.aclId.toUInt32
  name := acl.name
  description := acl.description
  rules := acl.rules.map AclRule.toProto
  kind := acl.kind.toProto.number

/-- A binding as a message. -/
def AclBinding.toProto (binding : AclBinding) : Proto.AclBinding where
  interfaceName := binding.interfaceName
  direction := binding.direction.toProto.number
  aclId := binding.aclId.toUInt32

/-- A BGP process as a message. -/
def BgpProcess.toProto (process : BgpProcess) : Proto.BgpProcess where
  vrf := process.vrf
  localAs := process.localAs
  routerId := process.routerId

/-- A BGP neighbor as a message. -/
def BgpNeighbor.toProto (neighbor : BgpNeighbor) : Proto.BgpNeighbor where
  vrf := neighbor.vrf
  address := neighbor.address
  remoteAs := neighbor.remoteAs
  description := neighbor.description
  importPolicy := neighbor.importPolicy
  exportPolicy := neighbor.exportPolicy

/-- A desired state as a message. -/
def desiredStateToProto (desired : DeviceDesiredState) : Proto.DesiredDeviceState where
  deviceId := desired.deviceId
  vlans := (objectsOf desired.vlans).map VlanConfig.toProto
  interfaces := (objectsOf desired.interfaces).map InterfaceConfig.toProto
  acls := (objectsOf desired.acls).map AclConfig.toProto
  aclBindings := (objectsOf desired.aclBindings).map AclBinding.toProto
  deleteVlanIds := desired.deleteVlanIds.toList.map UInt16.toUInt32
  deleteInterfaceNames := desired.deleteInterfaceNames.toList
  deleteAclIds := desired.deleteAclIds.toList.map UInt16.toUInt32
  deleteAclBindings := (objectsOf desired.deleteAclBindings).map AclBinding.toProto
  bgpProcesses := (objectsOf desired.bgpProcesses).map BgpProcess.toProto
  bgpNeighbors := (objectsOf desired.bgpNeighbors).map BgpNeighbor.toProto
  deleteBgpProcessVrfs := desired.deleteBgpProcessVrfs.toList
  deleteBgpNeighbors := (objectsOf desired.deleteBgpNeighbors).map BgpNeighbor.toProto

/-! ## From messages -/

def adapterReturned (code message : String) : UnderlayError :=
  .adapterOperation code ("adapter returned " ++ message) false []

/-- `u16::try_from`. -/
def narrow (value : UInt32) (error : UnderlayError) : Except UnderlayError UInt16 :=
  if value ≤ 65535 then .ok value.toUInt16 else .error error

def vlanFromProto (proto : Proto.VlanConfig) : Except UnderlayError VlanConfig := do
  let vlanId ← narrow proto.vlanId
    (adapterReturned "INVALID_VLAN_ID" ("invalid VLAN id " ++ toString proto.vlanId))
  refuseIf (vlanId < 1 ∨ 4094 < vlanId)
    (adapterReturned "INVALID_VLAN_ID"
      ("out-of-range VLAN id " ++ toString vlanId ++ " (valid: 1–4094)"))
  return { vlanId := vlanId, name := proto.name, description := proto.description }

/-- The id of a VLAN of a port. -/
def portVlan (label : String) (vlanId : UInt32) : Except UnderlayError UInt16 :=
  narrow vlanId (adapterReturned "INVALID_VLAN_ID"
    ("invalid " ++ label ++ " VLAN id " ++ toString vlanId))

/-- A port mode from its message. -/
def portModeFromProto (proto : Proto.PortMode) : Except UnderlayError PortMode :=
  match Proto.PortModeKind.ofNumber proto.kind with
  | .access =>
      match proto.accessVlan with
      | none => .error (adapterReturned "MISSING_ACCESS_VLAN" "access port without access vlan")
      | some vlanId => do
          let vlanId ← portVlan "access" vlanId
          return .access vlanId
  | .trunk => do
      let nativeVlan ← proto.nativeVlan.mapM (portVlan "native")
      let allowedVlans ← proto.allowedVlans.mapM (portVlan "allowed")
      return .trunk nativeVlan allowedVlans
  | .unspecified => .error (adapterReturned "INVALID_PORT_MODE" "invalid port mode")

/-- An interface from its message. -/
def interfaceFromProto (proto : Proto.InterfaceConfig) : Except UnderlayError InterfaceConfig :=
  match proto.mode with
  | none => .error (adapterReturned "MISSING_PORT_MODE"
      ("interface " ++ proto.name ++ " without port mode"))
  | some mode => do
      let adminState : AdminState ←
        match Proto.AdminState.ofNumber proto.adminState with
        | .up => .ok .up
        | .down => .ok .down
        | .unspecified => .error (adapterReturned "INVALID_ADMIN_STATE" "invalid admin state")
      let mode ← portModeFromProto mode
      return {
        name := proto.name
        adminState := adminState
        description := proto.description
        mode := mode }

/-- An ACL id in range. -/
def aclIdFromU32 (value : UInt32) (message : String) : Except UnderlayError UInt16 := do
  let aclId ← narrow value (.adapterOperation "INVALID_ACL_ID"
    (message ++ " " ++ toString value) false [])
  refuseIf (¬(2000 ≤ aclId ∧ aclId ≤ 3999))
    (adapterReturned "INVALID_ACL_ID" ("out-of-range numeric IPv4 ACL id " ++ toString aclId))
  return aclId

def aclKindFromI32 (value : Int32) (aclId : UInt16) : Except UnderlayError AclKind :=
  let isBasic := 2000 ≤ aclId ∧ aclId ≤ 2999
  let isAdvanced := 3000 ≤ aclId ∧ aclId ≤ 3999
  let invalid := adapterReturned "INVALID_ACL_KIND" "invalid ACL kind"
  match Proto.AclKind.ofNumber value with
  | .advancedIpv4 => if isAdvanced then .ok .advancedIpv4 else .error invalid
  | .basicIpv4 => if isBasic then .ok .basicIpv4 else .error invalid
  | .unspecified =>
      if isBasic then .ok .basicIpv4
      else if isAdvanced then .ok .advancedIpv4
      else .error invalid

/-- An action from its number. -/
def aclActionFromI32 (value : Int32) : Except UnderlayError AclAction :=
  match Proto.AclAction.ofNumber value with
  | .permit => .ok .permit
  | .deny => .ok .deny
  | .unspecified => .error (adapterReturned "INVALID_ACL_ACTION" "invalid ACL action")

/-- A protocol from its number. -/
def aclProtocolFromI32 (value : Int32) : Except UnderlayError AclProtocol :=
  match Proto.AclProtocol.ofNumber value with
  | .ip => .ok .ip
  | .tcp => .ok .tcp
  | .udp => .ok .udp
  | .icmp => .ok .icmp
  | .unspecified => .error (adapterReturned "INVALID_ACL_PROTOCOL" "invalid ACL protocol")

/-- A direction from its number. -/
def aclDirectionFromI32 (value : Int32) : Except UnderlayError AclDirection :=
  match Proto.AclDirection.ofNumber value with
  | .inbound => .ok .inbound
  | .outbound => .ok .outbound
  | .unspecified => .error (adapterReturned "INVALID_ACL_DIRECTION" "invalid ACL direction")

/-- A port other than zero. -/
def aclPortFromU32 (field : String) (value : UInt32) : Except UnderlayError UInt16 := do
  let port ← narrow value (adapterReturned "INVALID_ACL_PORT"
    ("invalid ACL " ++ field ++ " " ++ toString value))
  refuseIf (port = 0) (adapterReturned "INVALID_ACL_PORT" ("invalid ACL " ++ field ++ " 0"))
  return port

def aclEndpointFromProto (proto : Proto.AclEndpoint) : Except UnderlayError AclEndpoint := do
  refuseIf (trim proto.address = "" ∨ trim proto.wildcard = "")
    (adapterReturned "INVALID_ACL_ENDPOINT" "ACL endpoint without address or wildcard")
  return { address := proto.address, wildcard := proto.wildcard }

/-- A rule from its message. -/
def aclRuleFromProto (proto : Proto.AclRule) : Except UnderlayError AclRule := do
  let sequence ← narrow proto.sequence (adapterReturned "INVALID_ACL_RULE_SEQUENCE"
    ("invalid ACL rule sequence " ++ toString proto.sequence))
  let action ← aclActionFromI32 proto.action
  let protocol ← aclProtocolFromI32 proto.protocol
  let source ← proto.source.mapM aclEndpointFromProto
  let destination ← proto.destination.mapM aclEndpointFromProto
  let sourcePortEq ← proto.sourcePortEq.mapM (aclPortFromU32 "source_port_eq")
  let destinationPortEq ← proto.destinationPortEq.mapM (aclPortFromU32 "destination_port_eq")
  return {
    sequence := sequence
    action := action
    protocol := protocol
    source := source
    destination := destination
    sourcePortEq := sourcePortEq
    destinationPortEq := destinationPortEq
    description := proto.description }

/-- An ACL from its message. -/
def aclFromProto (proto : Proto.AclConfig) : Except UnderlayError AclConfig := do
  let aclId ← aclIdFromU32 proto.aclId "adapter returned invalid ACL id"
  let kind ← aclKindFromI32 proto.kind aclId
  let rules ← proto.rules.mapM aclRuleFromProto
  return {
    aclId := aclId
    kind := kind
    name := proto.name
    description := proto.description
    rules := rules }

/-- A binding from its message. -/
def aclBindingFromProto (proto : Proto.AclBinding) : Except UnderlayError AclBinding := do
  refuseIf (trim proto.interfaceName = "")
    (adapterReturned "INVALID_ACL_BINDING" "ACL binding without interface_name")
  let direction ← aclDirectionFromI32 proto.direction
  let aclId ← aclIdFromU32 proto.aclId "adapter returned invalid ACL binding ACL id"
  return { interfaceName := proto.interfaceName, direction := direction, aclId := aclId }

/-- A BGP process from its message. -/
def bgpProcessFromProto (proto : Proto.BgpProcess) : Except UnderlayError BgpProcess := do
  refuseIf (trim proto.vrf = "")
    (adapterReturned "INVALID_BGP_PROCESS" "BGP process without vrf")
  refuseIf (proto.localAs = 0)
    (adapterReturned "INVALID_BGP_PROCESS" "BGP process with local_as 0")
  return { vrf := proto.vrf, localAs := proto.localAs, routerId := proto.routerId }

def bgpNeighborFromProto (proto : Proto.BgpNeighbor) : Except UnderlayError BgpNeighbor := do
  refuseIf (trim proto.vrf = "" ∨ trim proto.address = "")
    (adapterReturned "INVALID_BGP_NEIGHBOR" "BGP neighbor without vrf or address")
  refuseIf (proto.remoteAs = 0)
    (adapterReturned "INVALID_BGP_NEIGHBOR" "BGP neighbor with remote_as 0")
  return {
    vrf := proto.vrf
    address := proto.address
    remoteAs := proto.remoteAs
    description := proto.description
    importPolicy := proto.importPolicy
    exportPolicy := proto.exportPolicy }

/-- Every kind of object is decoded by a loop that stores it under its own key. -/
def shadowStateFromProto (proto : Proto.ObservedDeviceState) (warnings : List String) :
    Except UnderlayError DeviceShadowState := do
  let vlans ← proto.vlans.mapM vlanFromProto
  let interfaces ← proto.interfaces.mapM interfaceFromProto
  let acls ← proto.acls.mapM aclFromProto
  let aclBindings ← proto.aclBindings.mapM aclBindingFromProto
  let bgpProcesses ← proto.bgpProcesses.mapM bgpProcessFromProto
  let bgpNeighbors ← proto.bgpNeighbors.mapM bgpNeighborFromProto
  return {
    deviceId := proto.deviceId
    revision := 0
    vlans := gather VlanConfig.vlanId vlans
    interfaces := gather InterfaceConfig.name interfaces
    acls := gather AclConfig.aclId acls
    aclBindings := gather AclBinding.key aclBindings
    bgpProcesses := gather BgpProcess.vrf bgpProcesses
    bgpNeighbors := gather BgpNeighbor.key bgpNeighbors
    warnings := warnings }

/-! ## What the decoder accepts -/

def VlanConfig.Carriable (vlan : VlanConfig) : Prop :=
  1 ≤ vlan.vlanId ∧ vlan.vlanId ≤ 4094

def AclEndpoint.Carriable (endpoint : AclEndpoint) : Prop :=
  trim endpoint.address ≠ "" ∧ trim endpoint.wildcard ≠ ""

/-- The rules that survive the way back. -/
structure AclRule.Carriable (rule : AclRule) : Prop where
  source : ∀ endpoint ∈ rule.source, endpoint.Carriable
  destination : ∀ endpoint ∈ rule.destination, endpoint.Carriable
  sourcePortEq : rule.sourcePortEq ≠ some 0
  destinationPortEq : rule.destinationPortEq ≠ some 0

/-- The ids of a kind. -/
def AclKind.Contains (kind : AclKind) (aclId : UInt16) : Prop :=
  match kind with
  | .advancedIpv4 => 3000 ≤ aclId ∧ aclId ≤ 3999
  | .basicIpv4 => 2000 ≤ aclId ∧ aclId ≤ 2999

/-- The ACLs that survive the way back. -/
structure AclConfig.Carriable (acl : AclConfig) : Prop where
  aclId : acl.kind.Contains acl.aclId
  rules : ∀ rule ∈ acl.rules, rule.Carriable

/-- The bindings that survive the way back. -/
structure AclBinding.Carriable (binding : AclBinding) : Prop where
  interfaceName : trim binding.interfaceName ≠ ""
  aclId : 2000 ≤ binding.aclId ∧ binding.aclId ≤ 3999

/-- The BGP processes that survive the way back. -/
structure BgpProcess.Carriable (process : BgpProcess) : Prop where
  vrf : trim process.vrf ≠ ""
  localAs : process.localAs ≠ 0

/-- The BGP neighbors that survive the way back. -/
structure BgpNeighbor.Carriable (neighbor : BgpNeighbor) : Prop where
  vrf : trim neighbor.vrf ≠ ""
  address : trim neighbor.address ≠ ""
  remoteAs : neighbor.remoteAs ≠ 0

theorem narrow_toUInt32 (value : UInt16) (error : UnderlayError) :
    narrow value.toUInt32 error = .ok value := by
  have small : value.toUInt32 ≤ 65535 := by
    rw [UInt32.le_iff_toNat_le, UInt16.toNat_toUInt32]
    exact Nat.le_of_lt_succ value.toNat_lt
  rw [narrow, if_pos small, UInt16.toUInt16_toUInt32]

theorem mapM_map_eq_some {Value Message : Type} {encode : Value → Message}
    {decode : Message → Except UnderlayError Value} {value : Option Value}
    (decodes : ∀ item ∈ value, decode (encode item) = .ok item) :
    (value.map encode).mapM decode = .ok value := by
  cases value with
  | none => rfl
  | some item =>
      rw [Option.map_some, Option.mapM_some, decodes item rfl]
      rfl

theorem mapM_map_eq_ok {Value Message : Type} {encode : Value → Message}
    {decode : Message → Except UnderlayError Value} {values : List Value}
    (decodes : ∀ item ∈ values, decode (encode item) = .ok item) :
    (values.map encode).mapM decode = .ok values := by
  rw [List.mapM_map, mapM_eq_ok, List.forall₂_same]
  exact decodes

theorem vlanFromProto_toProto {vlan : VlanConfig} (carriable : vlan.Carriable) :
    vlanFromProto vlan.toProto = .ok vlan := by
  have inRange : ¬(vlan.vlanId < 1 ∨ 4094 < vlan.vlanId) := by
    rcases carriable with ⟨atLeast, atMost⟩
    rintro (below | above)
    · exact absurd below (UInt16.not_lt.mpr atLeast)
    · exact absurd above (UInt16.not_lt.mpr atMost)
  apply bind_eq_ok.mpr
  refine ⟨vlan.vlanId, narrow_toUInt32 vlan.vlanId _, ?_⟩
  exact bind_eq_ok.mpr ⟨(), refuseIf_eq_ok.mpr inRange, rfl⟩

theorem portModeFromProto_toProto (mode : PortMode) :
    portModeFromProto mode.toProto = .ok mode := by
  cases mode with
  | access vlanId =>
      have isAccess : Proto.PortModeKind.ofNumber Proto.PortModeKind.access.number = .access := by
        decide
      simp only [portModeFromProto, PortMode.toProto, isAccess, portVlan, narrow_toUInt32, bind,
        Except.bind]
      rfl
  | trunk nativeVlan allowedVlans =>
      have isTrunk : Proto.PortModeKind.ofNumber Proto.PortModeKind.trunk.number = .trunk := by
        decide
      simp only [portModeFromProto, PortMode.toProto, isTrunk]
      rw [mapM_map_eq_some fun vlanId _ => narrow_toUInt32 vlanId _,
        mapM_map_eq_ok fun vlanId _ => narrow_toUInt32 vlanId _]
      rfl

theorem interfaceFromProto_toProto (interface : InterfaceConfig) :
    interfaceFromProto interface.toProto = .ok interface := by
  rcases interface with ⟨name, adminState, description, mode⟩
  have isUp : Proto.AdminState.ofNumber Proto.AdminState.up.number = .up := by decide
  have isDown : Proto.AdminState.ofNumber Proto.AdminState.down.number = .down := by decide
  cases adminState with
  | up =>
      simp only [interfaceFromProto, InterfaceConfig.toProto, isUp, portModeFromProto_toProto, bind,
        Except.bind]
      rfl
  | down =>
      simp only [interfaceFromProto, InterfaceConfig.toProto, isDown, portModeFromProto_toProto,
        bind, Except.bind]
      rfl

theorem aclActionFromI32_toProto (action : AclAction) :
    aclActionFromI32 action.toProto.number = .ok action := by
  cases action <;> rfl

theorem aclProtocolFromI32_toProto (protocol : AclProtocol) :
    aclProtocolFromI32 protocol.toProto.number = .ok protocol := by
  cases protocol <;> rfl

theorem aclDirectionFromI32_toProto (direction : AclDirection) :
    aclDirectionFromI32 direction.toProto.number = .ok direction := by
  cases direction <;> rfl

variable {aclId : UInt16} {κ ν : Type}

theorem aclKindFromI32_toProto {kind : AclKind} (contains : kind.Contains aclId) :
    aclKindFromI32 kind.toProto.number aclId = .ok kind := by
  cases kind <;> exact if_pos contains

theorem AclKind.Contains.inRange {kind : AclKind} (contains : kind.Contains aclId) :
    2000 ≤ aclId ∧ aclId ≤ 3999 := by
  cases kind with
  | advancedIpv4 => exact ⟨UInt16.le_trans (by decide) contains.1, contains.2⟩
  | basicIpv4 => exact ⟨contains.1, UInt16.le_trans contains.2 (by decide)⟩

theorem aclIdFromU32_toUInt32 {message : String} (inRange : 2000 ≤ aclId ∧ aclId ≤ 3999) :
    aclIdFromU32 aclId.toUInt32 message = .ok aclId := by
  apply bind_eq_ok.mpr
  refine ⟨aclId, narrow_toUInt32 aclId _, ?_⟩
  exact bind_eq_ok.mpr ⟨(), refuseIf_eq_ok.mpr (not_not.mpr inRange), rfl⟩

theorem aclPortFromU32_toUInt32 {field : String} {port : UInt16} (nonzero : port ≠ 0) :
    aclPortFromU32 field port.toUInt32 = .ok port := by
  apply bind_eq_ok.mpr
  refine ⟨port, narrow_toUInt32 port _, ?_⟩
  exact bind_eq_ok.mpr ⟨(), refuseIf_eq_ok.mpr nonzero, rfl⟩

theorem aclEndpointFromProto_toProto {endpoint : AclEndpoint} (carriable : endpoint.Carriable) :
    aclEndpointFromProto endpoint.toProto = .ok endpoint := by
  have complete : ¬(trim endpoint.address = "" ∨ trim endpoint.wildcard = "") :=
    not_or.mpr carriable
  exact bind_eq_ok.mpr ⟨(), refuseIf_eq_ok.mpr complete, rfl⟩

theorem aclRuleFromProto_toProto {rule : AclRule} (carriable : rule.Carriable) :
    aclRuleFromProto rule.toProto = .ok rule := by
  have ports : ∀ {field : String} {port : Option UInt16}, port ≠ some 0 →
      (port.map UInt16.toUInt32).mapM (aclPortFromU32 field) = .ok port := by
    intro field port nonzero
    apply mapM_map_eq_some
    rintro item rfl
    exact aclPortFromU32_toUInt32 fun isZero => nonzero (by rw [isZero])
  simp only [aclRuleFromProto, AclRule.toProto, narrow_toUInt32, aclActionFromI32_toProto,
    aclProtocolFromI32_toProto, ports carriable.sourcePortEq, ports carriable.destinationPortEq,
    mapM_map_eq_some fun endpoint member =>
      aclEndpointFromProto_toProto (carriable.source endpoint member),
    mapM_map_eq_some fun endpoint member =>
      aclEndpointFromProto_toProto (carriable.destination endpoint member), bind, Except.bind]
  rfl

theorem aclFromProto_toProto {acl : AclConfig} (carriable : acl.Carriable) :
    aclFromProto acl.toProto = .ok acl := by
  simp only [aclFromProto, AclConfig.toProto, aclIdFromU32_toUInt32 carriable.aclId.inRange,
    aclKindFromI32_toProto carriable.aclId,
    mapM_map_eq_ok fun rule member => aclRuleFromProto_toProto (carriable.rules rule member), bind,
    Except.bind]
  rfl

theorem aclBindingFromProto_toProto {binding : AclBinding} (carriable : binding.Carriable) :
    aclBindingFromProto binding.toProto = .ok binding := by
  apply bind_eq_ok.mpr
  refine ⟨(), refuseIf_eq_ok.mpr carriable.interfaceName, bind_eq_ok.mpr ⟨_,
    aclDirectionFromI32_toProto binding.direction, ?_⟩⟩
  exact bind_eq_ok.mpr ⟨_, aclIdFromU32_toUInt32 carriable.aclId, rfl⟩

theorem bgpProcessFromProto_toProto {process : BgpProcess} (carriable : process.Carriable) :
    bgpProcessFromProto process.toProto = .ok process := by
  apply bind_eq_ok.mpr
  refine ⟨(), refuseIf_eq_ok.mpr carriable.vrf, ?_⟩
  exact bind_eq_ok.mpr ⟨(), refuseIf_eq_ok.mpr carriable.localAs, rfl⟩

theorem bgpNeighborFromProto_toProto {neighbor : BgpNeighbor} (carriable : neighbor.Carriable) :
    bgpNeighborFromProto neighbor.toProto = .ok neighbor := by
  have complete : ¬(trim neighbor.vrf = "" ∨ trim neighbor.address = "") :=
    not_or.mpr ⟨carriable.vrf, carriable.address⟩
  apply bind_eq_ok.mpr
  refine ⟨(), refuseIf_eq_ok.mpr complete, ?_⟩
  exact bind_eq_ok.mpr ⟨(), refuseIf_eq_ok.mpr carriable.remoteAs, rfl⟩

/-! ## Whole states -/

/-- An observed state with the objects of a desired state. -/
def Proto.DesiredDeviceState.observed (desired : Proto.DesiredDeviceState) :
    Proto.ObservedDeviceState where
  deviceId := desired.deviceId
  vlans := desired.vlans
  interfaces := desired.interfaces
  acls := desired.acls
  aclBindings := desired.aclBindings
  bgpProcesses := desired.bgpProcesses
  bgpNeighbors := desired.bgpNeighbors

/-- Every object has its own key, and the decoder accepts it. -/
structure DeviceDesiredState.Carriable (desired : DeviceDesiredState) : Prop where
  vlans : Canonical VlanConfig.vlanId id desired.vlans
  interfaces : Canonical InterfaceConfig.name id desired.interfaces
  acls : Canonical AclConfig.aclId id desired.acls
  aclBindings : Canonical AclBinding.key id desired.aclBindings
  bgpProcesses : Canonical BgpProcess.vrf id desired.bgpProcesses
  bgpNeighbors : Canonical BgpNeighbor.key id desired.bgpNeighbors
  vlan : ∀ vlan ∈ objectsOf desired.vlans, vlan.Carriable
  acl : ∀ acl ∈ objectsOf desired.acls, acl.Carriable
  aclBinding : ∀ binding ∈ objectsOf desired.aclBindings, binding.Carriable
  bgpProcess : ∀ process ∈ objectsOf desired.bgpProcesses, process.Carriable
  bgpNeighbor : ∀ neighbor ∈ objectsOf desired.bgpNeighbors, neighbor.Carriable

theorem gather_objectsOf [Ord κ] [Std.TransOrd κ] [Std.LawfulEqOrd κ] {key : ν → κ}
    {map : BTreeMap κ ν} (canonical : Canonical key id map) :
    gather key (objectsOf map) = map := by
  have rekeyed := canonical.rekey_eq_self
  rw [rekey] at rekeyed
  rw [gather, objectsOf, List.map_map]
  exact rekeyed

theorem shadowStateFromProto_toProto {desired : DeviceDesiredState}
    (carriable : desired.Carriable) :
    shadowStateFromProto (desiredStateToProto desired).observed [] =
      .ok (DeviceShadowState.fromDesired desired 0) := by
  simp only [shadowStateFromProto, Proto.DesiredDeviceState.observed, desiredStateToProto]
  rw [mapM_map_eq_ok fun vlan member => vlanFromProto_toProto (carriable.vlan vlan member),
    mapM_map_eq_ok fun interface _ => interfaceFromProto_toProto interface,
    mapM_map_eq_ok fun acl member => aclFromProto_toProto (carriable.acl acl member),
    mapM_map_eq_ok fun binding member =>
      aclBindingFromProto_toProto (carriable.aclBinding binding member),
    mapM_map_eq_ok fun process member =>
      bgpProcessFromProto_toProto (carriable.bgpProcess process member),
    mapM_map_eq_ok fun neighbor member =>
      bgpNeighborFromProto_toProto (carriable.bgpNeighbor neighbor member)]
  simp only [bind, Except.bind, gather_objectsOf carriable.vlans,
    gather_objectsOf carriable.interfaces, gather_objectsOf carriable.acls,
    gather_objectsOf carriable.aclBindings, gather_objectsOf carriable.bgpProcesses,
    gather_objectsOf carriable.bgpNeighbors]
  rfl

/-! ## Accepted intents -/

theorem trim_ne_empty_of_mem {text : String} {c : Char} (member : c ∈ text.toList)
    (visible : isWhitespace c = false) :
    trim text ≠ "" := by
  intro empty
  have kept := mem_trim_of_mem member visible
  rw [empty] at kept
  cases kept

theorem trim_ne_empty_of_isIpv4 {text : String} (isAddress : isIpv4 text = true) :
    trim text ≠ "" := by
  have hasDot : '.' ∈ text.toList := by
    by_contra noDot
    simp [isIpv4, List.splitOn_eq_singleton noDot] at isAddress
  exact trim_ne_empty_of_mem hasDot (by decide)

theorem trim_canonicalInterfaceName_ne_empty {name : String} (nonempty : trim name ≠ "") :
    trim (canonicalInterfaceName name) ≠ "" := by
  unfold canonicalInterfaceName
  dsimp only
  split
  · exact trim_ne_empty_of_mem (c := 'G') (by simp) (by decide)
  · split
    · exact trim_ne_empty_of_mem (c := 'X') (by simp) (by decide)
    · split
      · exact trim_ne_empty_of_mem (c := 'F') (by simp) (by decide)
      · rwa [trim_trim]

section Accepted

variable {context : String} {memberIds : List DeviceId}

theorem validateVlans_inRange {vlanIds : List UInt16}
    (accepted : validateVlans vlanIds context = .ok ()) :
    ∀ vlanId ∈ vlanIds, 1 ≤ vlanId ∧ vlanId ≤ 4094 := by
  intro vlanId member
  have passed := ((eachDistinct_eq_ok.mp accepted).1 vlanId member).1
  simpa only [invalidIf_eq_ok, not_not] using passed

theorem validateAclEndpoint_carriable {subject field : String} {endpoint : AclEndpoint}
    (accepted : validateAclEndpoint subject field endpoint = .ok ()) :
    endpoint.Carriable := by
  simp only [validateAclEndpoint, andThen_eq_ok, invalidIf_eq_ok, Bool.not_eq_false] at accepted
  exact ⟨trim_ne_empty_of_isIpv4 accepted.1, trim_ne_empty_of_isIpv4 accepted.2⟩

theorem validateAclRule_carriable {acl : AclIntent} {rule : AclRule}
    (accepted : validateAclRule context acl rule = .ok ()) :
    rule.Carriable := by
  simp only [validateAclRule, andThen_eq_ok, invalidIf_eq_ok, not_or] at accepted
  rcases accepted with ⟨-, -, ⟨sourcePort, destinationPort⟩, accepted⟩
  -- the check of basic rules comes before those of the endpoints, or is skipped
  have endpoints : (∀ endpoint ∈ rule.source, endpoint.Carriable) ∧
      ∀ endpoint ∈ rule.destination, endpoint.Carriable := by
    split at accepted
    all_goals
      simp only [andThen_eq_ok, forM_eq_ok, Option.mem_toList] at accepted
      rcases accepted with ⟨-, source, destination⟩
      exact ⟨fun endpoint member => validateAclEndpoint_carriable (source endpoint member),
        fun endpoint member => validateAclEndpoint_carriable (destination endpoint member)⟩
  exact ⟨endpoints.1, endpoints.2, sourcePort, destinationPort⟩

theorem validateAcls_carriable {acls : List AclIntent}
    (accepted : validateAcls acls context = .ok ()) :
    ∀ acl ∈ acls, acl.config.normalize.Carriable := by
  intro acl member
  rcases (eachDistinct_eq_ok.mp accepted).1 acl member with ⟨inRange, rules⟩
  constructor
  · cases isKind : acl.kind with
    | advancedIpv4 =>
        rw [isKind] at inRange
        simpa [AclKind.Contains, AclConfig.normalize, AclIntent.config, isKind,
          validateAclIdForKind] using inRange
    | basicIpv4 =>
        rw [isKind] at inRange
        simpa [AclKind.Contains, AclConfig.normalize, AclIntent.config, isKind,
          validateAclIdForKind] using inRange
  · intro rule isRule
    simp only [AclConfig.normalize, AclIntent.config, List.mem_mergeSort, List.mem_map] at isRule
    rcases isRule with ⟨original, isOriginal, rfl⟩
    have passed := ((eachDistinct_eq_ok.mp rules).1 original isOriginal).2
    have carriable := validateAclRule_carriable passed
    exact ⟨carriable.source, carriable.destination, carriable.sourcePortEq,
      carriable.destinationPortEq⟩

theorem validateAclBindings_nonempty {bindings : List AclBindingIntent} {declaredAcls : List UInt16}
    (accepted : validateAclBindings bindings memberIds declaredAcls context = .ok ()) :
    ∀ binding ∈ bindings, trim binding.interfaceName ≠ "" := by
  intro binding member
  have passed := ((eachDistinct_eq_ok.mp accepted).1 binding member).1
  simp only [andThen_eq_ok, validateNonEmpty, invalidIf_eq_ok] at passed
  exact passed.1

theorem validateBgpProcesses_carriable {processes : List BgpProcessIntent}
    {deletes : List BgpProcessDeleteIntent}
    (accepted : validateBgpProcesses processes deletes memberIds context = .ok ()) :
    ∀ process ∈ processes, process.config.normalize.Carriable := by
  intro process member
  rw [validateBgpProcesses, andThen_eq_ok, eachDistinct_eq_ok] at accepted
  have passed := (accepted.1.1 process member).1
  simp only [andThen_eq_ok, validateNonEmpty, invalidIf_eq_ok] at passed
  rw [BgpProcessIntent.normalize_config]
  exact ⟨by simpa only [trim_trim] using passed.2.2.1, passed.2.2.2.1⟩

theorem validateBgpNeighbors_carriable {neighbors : List BgpNeighborIntent}
    {deletes : List BgpNeighborDeleteIntent} {processDeletes : List BgpProcessDeleteIntent}
    (accepted : validateBgpNeighbors neighbors deletes processDeletes memberIds context = .ok ()) :
    ∀ neighbor ∈ neighbors, neighbor.config.normalize.Carriable := by
  intro neighbor member
  simp only [validateBgpNeighbors, andThen_eq_ok, eachDistinct_eq_ok] at accepted
  have passed := (accepted.1.1 neighbor member).1
  simp only [validateNonEmpty, invalidIf_eq_ok] at passed
  rcases passed with ⟨-, -, vrf, address, -, -, remoteAs⟩
  rw [BgpNeighborIntent.normalize_config]
  exact ⟨by simpa only [trim_trim] using vrf, by simpa only [trim_trim] using address, remoteAs⟩

end Accepted

theorem mem_objectsOf [Ord κ] [Std.TransOrd κ] [Std.LawfulEqOrd κ] {map : BTreeMap κ ν}
    {value : ν} :
    value ∈ objectsOf map ↔ ∃ index : κ, map[index]? = some value := by
  simp [objectsOf, Std.ExtTreeMap.mem_toList_iff_getElem?_eq_some]

theorem canonical_keyed [Ord κ] [Std.TransOrd κ] [Std.LawfulEqOrd κ] {key : ν → κ}
    {normalize : ν → ν} {map : BTreeMap κ ν} (canonical : Canonical key normalize map) :
    Canonical key id map :=
  fun index value found => ⟨(canonical index value found).1, rfl⟩

theorem AclBindingIntent.carriable {binding : AclBindingIntent}
    (nonempty : trim binding.interfaceName ≠ "")
    (inRange : 2000 ≤ binding.aclId ∧ binding.aclId ≤ 3999) :
    binding.config.normalize.Carriable := by
  have kept := trim_canonicalInterfaceName_ne_empty nonempty
  rw [AclBindingIntent.normalize_config]
  constructor <;> dsimp only
  · exact kept
  · exact inRange

/-- The objects of a planned map come from the intent. -/
theorem exists_of_mem_planned [Ord κ] [Std.TransOrd κ] [Std.LawfulEqOrd κ] {raw key : ν → κ}
    {normalize : ν → ν} {values : List ν} {value : ν}
    (member : value ∈ objectsOf (rekey key normalize (gather raw values))) :
    ∃ original ∈ values, value = normalize original := by
  rcases mem_objectsOf.mp member with ⟨index, found⟩
  rcases mem_of_getElem?_rekey_gather found with ⟨original, isOriginal, isNormal, -⟩
  exact ⟨original, isOriginal, isNormal⟩

theorem carriable_of_accepted {intent : UnderlayDomainIntent}
    (accepted : validateUnderlayDomainIntent intent = .ok ()) (endpointId : DeviceId) :
    (normalizeDesiredState (intent.plannedState endpointId)).Carriable := by
  have validated := validated_of_accepted accepted
  simp only [validateUnderlayDomainIntent, andThen_eq_ok, forM_eq_ok, invalidIf_eq_ok] at accepted
  rcases accepted with
    ⟨-, -, -, -, -, -, vlans, -, -, -, -, acls, -, -, aclBindings, -, bgpProcesses, bgpNeighbors⟩
  have aclsCarriable := validateAcls_carriable acls
  exact {
    vlans := canonical_keyed (canonical_rekey VlanConfig.normalize_idempotent _)
    interfaces := canonical_keyed (canonical_rekey InterfaceConfig.normalize_idempotent _)
    acls := canonical_keyed (canonical_rekey AclConfig.normalize_idempotent _)
    aclBindings := canonical_keyed (canonical_rekey AclBinding.normalize_idempotent _)
    bgpProcesses := canonical_keyed (canonical_rekey BgpProcess.normalize_idempotent _)
    bgpNeighbors := canonical_keyed (canonical_rekey BgpNeighbor.normalize_idempotent _)
    vlan := by
      intro vlan member
      rcases exists_of_mem_planned member with ⟨_, isConfig, rfl⟩
      rcases List.mem_map.mp isConfig with ⟨original, isOriginal, rfl⟩
      exact validateVlans_inRange vlans original.vlanId (List.mem_map_of_mem isOriginal)
    acl := by
      intro acl member
      rcases exists_of_mem_planned member with ⟨_, isConfig, rfl⟩
      rcases List.mem_map.mp isConfig with ⟨original, isOriginal, rfl⟩
      exact aclsCarriable original isOriginal
    aclBinding := by
      intro binding member
      rcases exists_of_mem_planned member with ⟨_, isConfig, rfl⟩
      rcases List.mem_map.mp isConfig with ⟨original, isOriginal, rfl⟩
      have inIntent := (mem_reached.mp isOriginal).1
      apply AclBindingIntent.carriable
      · exact validateAclBindings_nonempty aclBindings original inIntent
      · rcases List.mem_map.mp (validated.aclBindingDeclared original inIntent) with
          ⟨acl, isAcl, sameId⟩
        have inRange := (aclsCarriable acl isAcl).aclId.inRange
        rwa [← sameId]
    bgpProcess := by
      intro process member
      rcases exists_of_mem_planned member with ⟨_, isConfig, rfl⟩
      rcases List.mem_map.mp isConfig with ⟨original, isOriginal, rfl⟩
      exact validateBgpProcesses_carriable bgpProcesses original (mem_reached.mp isOriginal).1
    bgpNeighbor := by
      intro neighbor member
      rcases exists_of_mem_planned member with ⟨_, isConfig, rfl⟩
      rcases List.mem_map.mp isConfig with ⟨original, isOriginal, rfl⟩
      exact validateBgpNeighbors_carriable bgpNeighbors original (mem_reached.mp isOriginal).1 }

/-- The adapter protocol carries every accepted plan unchanged in both directions. -/
theorem accepted_plan_carried {intent : UnderlayDomainIntent} {states : List DeviceDesiredState}
    {desired : DeviceDesiredState} (accepted : validateUnderlayDomainIntent intent = .ok ())
    (planned : planUnderlayDomain intent = .ok states)
    (member : desired ∈ states.map normalizeDesiredState) :
    shadowStateFromProto (desiredStateToProto desired).observed [] =
      .ok (DeviceShadowState.fromDesired desired 0) := by
  rcases planUnderlayDomain_spec (validated_of_accepted accepted) accepted with
    ⟨endpointIds, -, -, isPlan⟩
  rw [planned, Except.ok.injEq] at isPlan
  subst isPlan
  simp only [List.map_map, List.mem_map, Function.comp] at member
  rcases member with ⟨endpointId, -, rfl⟩
  exact shadowStateFromProto_toProto (carriable_of_accepted accepted endpointId)

theorem accepted_plan_carried_stack :
    validateUnderlayDomainIntent stackIntent = .ok () ∧
      ∃ states, planUnderlayDomain stackIntent = .ok states ∧
        ∀ desired ∈ states.map normalizeDesiredState,
          shadowStateFromProto (desiredStateToProto desired).observed [] =
            .ok (DeviceShadowState.fromDesired desired 0) := by
  have accepted : validateUnderlayDomainIntent stackIntent = .ok () := by decide +kernel
  rcases planUnderlayDomain_spec (validated_of_accepted accepted) accepted with
    ⟨endpointIds, -, -, planned⟩
  exact ⟨accepted, _, planned, fun _ member => accepted_plan_carried accepted planned member⟩

end AriaUnderlay
