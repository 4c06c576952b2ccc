import AriaUnderlay.Collections.Checks
import AriaUnderlay.Collections.Words
import AriaUnderlay.Intent.Domain
import AriaUnderlay.Model.Text
import AriaUnderlay.Tx.Phase

/-!
# Validation of domain intents

The checks that a domain intent passes before it is planned, in the order of the source and with its
messages.  Names are compared as they are written and per switch member: an interface that two
members of one endpoint name, or that is spelled in two ways, is not seen as one interface.
`Validated` collects what an accepted intent is known to satisfy.
-/

namespace AriaUnderlay

open Collections

def invalidIf (bad : Prop) [Decidable bad] (message : String) : Except UnderlayError Unit :=
  refuseIf bad (.invalidIntent message)

@[simp]
theorem invalidIf_eq_ok {bad : Prop} [Decidable bad] {message : String} :
    invalidIf bad message = .ok () ↔ ¬bad :=
  refuseIf_eq_ok

/-! ## Texts and identifiers -/

/-- ASCII letters and digits. -/
def isAsciiAlphanumeric (c : Char) : Bool :=
  ('a' ≤ c ∧ c ≤ 'z') ∨ ('A' ≤ c ∧ c ≤ 'Z') ∨ ('0' ≤ c ∧ c ≤ '9')

def isCanonicalIdentifier (value : String) : Bool :=
  value ≠ "" ∧ value.toList.all fun c => isAsciiAlphanumeric c || c = '-' || c = '_'

/-- The rule as messages state it. -/
def canonicalRule : String :=
  "must be non-empty and contain only ASCII letters, digits, '-' or '_'"

/-- The text is more than blanks. -/
def validateNonEmpty (field value : String) : Except UnderlayError Unit :=
  invalidIf (trim value = "") (field ++ " is empty")

/-- The identifier is canonical. -/
def validateIdentifier (field value : String) : Except UnderlayError Unit :=
  invalidIf (isCanonicalIdentifier value = false) (field ++ " is invalid: " ++ canonicalRule)

/-- The device id is canonical. -/
def validateDeviceId (field : String) (deviceId : DeviceId) : Except UnderlayError Unit :=
  invalidIf (isCanonicalIdentifier deviceId = false)
    (field ++ " " ++ deviceId ++ " is invalid: " ++ canonicalRule)

/-- ASCII digits. -/
def isDecimalDigit (c : Char) : Bool :=
  '0' ≤ c ∧ c ≤ '9'

def decimalValue (digits : List Char) : ℕ :=
  digits.foldl (fun value digit => 10 * value + (digit.toNat - '0'.toNat)) 0

/-- One to three digits without a leading zero that fit a byte. -/
def isIpv4Octet (digits : List Char) : Bool :=
  digits ≠ [] ∧ digits.length ≤ 3 ∧ digits.all isDecimalDigit ∧
    (digits.head? = some '0' → digits.length = 1) ∧ decimalValue digits ≤ 255

/-- The texts that `str::parse::<Ipv4Addr>` accepts. -/
def isIpv4 (text : String) : Bool :=
  let octets := text.toList.splitOn '.'
  octets.length = 4 ∧ octets.all isIpv4Octet

/-- An address consists of digits and dots. -/
theorem eq_dot_or_isDecimalDigit {text : String} {c : Char} (isAddress : isIpv4 text = true)
    (member : c ∈ text.toList) :
    c = '.' ∨ isDecimalDigit c = true := by
  have rejoined : ['.'].intercalate (text.toList.splitOn '.') = text.toList :=
    List.intercalate_splitOn '.'
  rw [← rejoined] at member
  simp only [isIpv4, decide_eq_true_eq, List.all_eq_true] at isAddress
  rcases mem_intercalate member with isDot | ⟨octet, isPiece, inOctet⟩
  · exact .inl isDot
  · have digits := isAddress.2 octet isPiece
    simp only [isIpv4Octet, decide_eq_true_eq, List.all_eq_true] at digits
    exact .inr (digits.2.2.1 c inOctet)

/-- The text is an IPv4 address. -/
def validateIpv4Text (field value : String) : Except UnderlayError Unit :=
  invalidIf (isIpv4 value = false) ("invalid " ++ field ++ " " ++ value)

/-! ## Topology, endpoints and members -/

def validateTopologyShape (intent : UnderlayDomainIntent) : Except UnderlayError Unit :=
  match intent.topology with
  | .stackSingleManagementIp =>
      invalidIf (intent.endpoints.length ≠ 1)
        ("stack topology requires exactly one management endpoint, got "
          ++ toString intent.endpoints.length)
  | .mlagDualManagementIp =>
      invalidIf (intent.endpoints.length ≠ 2)
        ("mlag topology requires exactly two management endpoints, got "
          ++ toString intent.endpoints.length)
  | .smallFabric =>
      invalidIf (intent.endpoints.length < 2)
        ("small fabric topology requires at least two management endpoints, got "
          ++ toString intent.endpoints.length)

def validateEndpoints (endpoints : List ManagementEndpointIntent) : Except UnderlayError Unit :=
  eachDistinct
    (fun endpoint => do
      validateIdentifier "management endpoint endpoint_id" endpoint.endpointId
      validateNonEmpty "management endpoint host" endpoint.host
      validateNonEmpty "management endpoint secret_ref" endpoint.secretRef
      invalidIf (endpoint.port = 0)
        ("management endpoint " ++ endpoint.endpointId ++ " has invalid port 0"))
    ManagementEndpointIntent.endpointId
    (fun endpoint => .invalidIntent ("duplicate management endpoint " ++ endpoint.endpointId))
    (fun _ => .ok ()) [] endpoints

def validateMembers (members : List SwitchMemberIntent)
    (endpointIds : List String) : Except UnderlayError Unit :=
  eachDistinct
    (fun member => do
      validateIdentifier "switch member member_id" member.memberId
      validateIdentifier "switch member management_endpoint_id" member.managementEndpointId)
    SwitchMemberIntent.memberId
    (fun member => .invalidIntent ("duplicate switch member " ++ member.memberId))
    (fun member =>
      invalidIf (member.managementEndpointId ∉ endpointIds)
        ("switch member " ++ member.memberId ++ " references unknown management endpoint "
          ++ member.managementEndpointId))
    [] members

/-! ## VLANs and interfaces -/

def validateVlans (vlanIds : List UInt16) (context : String) : Except UnderlayError Unit :=
  eachDistinct
    (fun vlanId =>
      invalidIf (¬(1 ≤ vlanId ∧ vlanId ≤ 4094))
        (context ++ " has invalid vlan_id " ++ toString vlanId ++ "; valid range is 1..=4094"))
    id
    (fun vlanId => .invalidIntent (context ++ " has duplicate vlan_id " ++ toString vlanId))
    (fun _ => .ok ()) [] vlanIds

/-- The VLAN is declared. -/
def validateDeclaredVlan (declaredVlans : List UInt16) (context : String) (deviceId : DeviceId)
    (interfaceName : String) (vlanId : UInt16) : Except UnderlayError Unit :=
  invalidIf (vlanId ∉ declaredVlans)
    (context ++ " interface " ++ interfaceName ++ " on " ++ deviceId
      ++ " references undeclared VLAN " ++ toString vlanId)

def validatePortMode (mode : PortMode) (declaredVlans : List UInt16) (context : String)
    (deviceId : DeviceId) (interfaceName : String) : Except UnderlayError Unit :=
  let declared := validateDeclaredVlan declaredVlans context deviceId interfaceName
  match mode with
  | .access vlanId => declared vlanId
  | .trunk nativeVlan allowedVlans => do
      invalidIf (allowedVlans = [] ∧ nativeVlan = none)
        (context ++ " trunk interface " ++ interfaceName ++ " on " ++ deviceId
          ++ " has no native or allowed VLAN")
      nativeVlan.toList.forM declared
      eachDistinct declared id
        (fun vlanId => .invalidIntent (context ++ " trunk interface " ++ interfaceName ++ " on "
          ++ deviceId ++ " has duplicate allowed VLAN " ++ toString vlanId))
        (fun _ => .ok ()) [] allowedVlans

def validateInterfaces (interfaces : List InterfaceIntent) (memberIds : List DeviceId)
    (declaredVlans : List UInt16)
    (context unknownDeviceLabel : String) : Except UnderlayError Unit :=
  eachDistinct
    (fun interface => do
      validateNonEmpty "interface name" interface.name
      invalidIf (interface.deviceId ∉ memberIds)
        (context ++ " interface " ++ interface.name ++ " references unknown "
          ++ unknownDeviceLabel ++ " " ++ interface.deviceId))
    (fun interface => (interface.deviceId, interface.name))
    (fun interface => .invalidIntent (context ++ " has duplicate interface " ++ interface.name
      ++ " on " ++ interface.deviceId))
    (fun interface =>
      validatePortMode interface.mode declaredVlans context interface.deviceId interface.name)
    [] interfaces

def validateInterfaceDeletes (deletes : List InterfaceDeleteIntent) (upserts : List InterfaceIntent)
    (memberIds : List DeviceId) (context : String) : Except UnderlayError Unit :=
  let upsertKeys := upserts.map fun interface => (interface.deviceId, interface.name)
  eachDistinct
    (fun delete => do
      validateNonEmpty "interface delete name" delete.name
      invalidIf (delete.deviceId ∉ memberIds)
        (context ++ " interface delete " ++ delete.name ++ " references unknown switch member "
          ++ delete.deviceId)
      invalidIf ((delete.deviceId, delete.name) ∈ upsertKeys)
        (context ++ " cannot upsert and delete interface " ++ delete.name ++ " on "
          ++ delete.deviceId ++ " in the same request"))
    (fun delete => (delete.deviceId, delete.name))
    (fun delete => .invalidIntent (context ++ " has duplicate interface delete " ++ delete.name
      ++ " on " ++ delete.deviceId))
    (fun _ => .ok ()) [] deletes

/-! ## ACLs -/

def validateAclIdForKind (context : String) (aclId : UInt16) (kind : AclKind) :
    Except UnderlayError Unit :=
  match kind with
  | .advancedIpv4 =>
      invalidIf (¬(3000 ≤ aclId ∧ aclId ≤ 3999))
        (context ++ " has invalid IPv4 advanced acl_id " ++ toString aclId
          ++ "; valid range is 3000..=3999")
  | .basicIpv4 =>
      invalidIf (¬(2000 ≤ aclId ∧ aclId ≤ 2999))
        (context ++ " has invalid IPv4 basic acl_id " ++ toString aclId
          ++ "; valid range is 2000..=2999")

def validateBasicAclRule (context : String) (acl : AclIntent) (rule : AclRule) :
    Except UnderlayError Unit := do
  let subject :=
    context ++ " basic IPv4 ACL " ++ toString acl.aclId ++ " rule " ++ toString rule.sequence
  invalidIf (rule.protocol ≠ .ip) (subject ++ " must use ip protocol")
  invalidIf (rule.destination ≠ none) (subject ++ " cannot match destination")
  invalidIf (rule.sourcePortEq ≠ none ∨ rule.destinationPortEq ≠ none)
    (subject ++ " cannot match ports")

def validateAclEndpoint (subject field : String) (endpoint : AclEndpoint) :
    Except UnderlayError Unit := do
  invalidIf (isIpv4 endpoint.address = false)
    (subject ++ " has invalid " ++ field ++ " IPv4 address " ++ endpoint.address)
  invalidIf (isIpv4 endpoint.wildcard = false)
    (subject ++ " has invalid " ++ field ++ " wildcard " ++ endpoint.wildcard)

def validateAclRule (context : String) (acl : AclIntent) (rule : AclRule) :
    Except UnderlayError Unit := do
  let subject := context ++ " ACL " ++ toString acl.aclId ++ " rule " ++ toString rule.sequence
  invalidIf (rule.sourcePortEq ≠ none ∧ rule.protocol ≠ .tcp ∧ rule.protocol ≠ .udp)
    (subject ++ " has source_port_eq but protocol is not tcp/udp")
  invalidIf (rule.destinationPortEq ≠ none ∧ rule.protocol ≠ .tcp ∧ rule.protocol ≠ .udp)
    (subject ++ " has destination_port_eq but protocol is not tcp/udp")
  invalidIf (rule.sourcePortEq = some 0 ∨ rule.destinationPortEq = some 0)
    (subject ++ " has invalid port 0")
  if acl.kind = .basicIpv4 then validateBasicAclRule context acl rule else .ok ()
  rule.source.toList.forM (validateAclEndpoint subject "source")
  rule.destination.toList.forM (validateAclEndpoint subject "destination")

def validateAclRules (context : String) (acl : AclIntent) : Except UnderlayError Unit :=
  eachDistinct (fun _ => .ok ()) AclRule.sequence
    (fun rule => .invalidIntent (context ++ " ACL " ++ toString acl.aclId
      ++ " has duplicate rule sequence " ++ toString rule.sequence))
    (validateAclRule context acl) [] acl.rules

/-- ACLs are valid and distinct. -/
def validateAcls (acls : List AclIntent) (context : String) : Except UnderlayError Unit :=
  eachDistinct
    (fun acl => validateAclIdForKind context acl.aclId acl.kind)
    AclIntent.aclId
    (fun acl => .invalidIntent (context ++ " has duplicate acl_id " ++ toString acl.aclId))
    (validateAclRules context) [] acls

def validateAclIds (aclIds : List UInt16) (context : String) : Except UnderlayError Unit :=
  eachDistinct
    (fun aclId =>
      invalidIf (¬(2000 ≤ aclId ∧ aclId ≤ 3999))
        (context ++ " has invalid numeric IPv4 acl_id " ++ toString aclId
          ++ "; valid range is 2000..=3999"))
    id
    (fun aclId => .invalidIntent (context ++ " has duplicate acl_id " ++ toString aclId))
    (fun _ => .ok ()) [] aclIds

def AclBindingIntent.validationKey (binding : AclBindingIntent) : DeviceId × String :=
  (binding.deviceId, aclBindingKey binding.interfaceName binding.direction)

def validateAclBindings (bindings : List AclBindingIntent) (memberIds : List DeviceId)
    (declaredAcls : List UInt16) (context : String) : Except UnderlayError Unit :=
  eachDistinct
    (fun binding => do
      validateNonEmpty "ACL binding interface_name" binding.interfaceName
      invalidIf (binding.deviceId ∉ memberIds)
        (context ++ " ACL binding for interface " ++ binding.interfaceName
          ++ " references unknown switch member " ++ binding.deviceId)
      invalidIf (binding.aclId ∉ declaredAcls)
        (context ++ " ACL binding on " ++ binding.interfaceName ++ " references undeclared ACL "
          ++ toString binding.aclId))
    AclBindingIntent.validationKey
    (fun binding => .invalidIntent (context ++ " has duplicate ACL binding on "
      ++ binding.interfaceName ++ " direction " ++ binding.direction.debug))
    (fun _ => .ok ()) [] bindings

def validateAclBindingDeletes (deletes upserts : List AclBindingIntent) (memberIds : List DeviceId)
    (context : String) : Except UnderlayError Unit :=
  let upsertKeys := upserts.map AclBindingIntent.validationKey
  eachDistinct
    (fun binding => do
      validateNonEmpty "ACL binding delete interface_name" binding.interfaceName
      invalidIf (binding.deviceId ∉ memberIds)
        (context ++ " ACL binding delete for interface " ++ binding.interfaceName
          ++ " references unknown switch member " ++ binding.deviceId)
      invalidIf (¬(2000 ≤ binding.aclId ∧ binding.aclId ≤ 3999))
        (context ++ " ACL binding delete on " ++ binding.interfaceName
          ++ " has invalid numeric IPv4 acl_id " ++ toString binding.aclId
          ++ "; valid range is 2000..=3999")
      invalidIf (binding.validationKey ∈ upsertKeys)
        (context ++ " cannot upsert and delete ACL binding on " ++ binding.interfaceName
          ++ " direction " ++ binding.direction.debug ++ " in the same request"))
    AclBindingIntent.validationKey
    (fun binding => .invalidIntent (context ++ " has duplicate ACL binding delete on "
      ++ binding.interfaceName ++ " direction " ++ binding.direction.debug))
    (fun _ => .ok ()) [] deletes

/-! ## BGP -/

/-- The device is a member. -/
def ensureKnownMember (memberIds : List DeviceId) (deviceId : DeviceId) (subject : String) :
    Except UnderlayError Unit :=
  invalidIf (deviceId ∉ memberIds) (subject ++ " references unknown switch member " ++ deviceId)

def BgpProcessIntent.validationKey (process : BgpProcessIntent) : DeviceId × String :=
  (process.deviceId, trim process.vrf)

/-- So is a process to be deleted. -/
def BgpProcessDeleteIntent.validationKey (delete : BgpProcessDeleteIntent) : DeviceId × String :=
  (delete.deviceId, trim delete.vrf)

def BgpNeighborIntent.validationKey (neighbor : BgpNeighborIntent) : DeviceId × String × String :=
  (neighbor.deviceId, trim neighbor.vrf, trim neighbor.address)

/-- So is a neighbor to be deleted. -/
def BgpNeighborDeleteIntent.validationKey (delete : BgpNeighborDeleteIntent) :
    DeviceId × String × String :=
  (delete.deviceId, trim delete.vrf, trim delete.address)

/-- How messages name a BGP process: the member and the trimmed VRF. -/
def processLabel (key : DeviceId × String) : String :=
  key.1 ++ "/" ++ key.2

/-- How messages name a BGP neighbor: the member, the trimmed VRF and the trimmed address. -/
def neighborLabel (key : DeviceId × String × String) : String :=
  key.1 ++ "/" ++ key.2.1 ++ "/" ++ key.2.2

def validateBgpProcesses (processes : List BgpProcessIntent) (deletes : List BgpProcessDeleteIntent)
    (memberIds : List DeviceId) (context : String) : Except UnderlayError Unit := do
  eachDistinct
    (fun process => do
      validateDeviceId "BGP process device_id" process.deviceId
      ensureKnownMember memberIds process.deviceId "BGP process"
      validateNonEmpty "BGP process vrf" process.vrf
      invalidIf (process.localAs = 0)
        (context ++ " BGP process " ++ processLabel process.validationKey
          ++ " has invalid local_as 0")
      process.routerId.toList.forM fun routerId => do
        validateNonEmpty "BGP router_id" (trim routerId)
        validateIpv4Text "BGP router_id" (trim routerId))
    BgpProcessIntent.validationKey
    (fun process => .invalidIntent (context ++ " has duplicate BGP process "
      ++ processLabel process.validationKey))
    (fun _ => .ok ()) [] processes
  eachDistinct
    (fun delete => do
      validateDeviceId "BGP process delete device_id" delete.deviceId
      ensureKnownMember memberIds delete.deviceId "BGP process delete"
      validateNonEmpty "BGP process delete vrf" delete.vrf
      invalidIf (delete.validationKey ∈ processes.map BgpProcessIntent.validationKey)
        (context ++ " cannot upsert and delete BGP process " ++ processLabel delete.validationKey
          ++ " in the same request"))
    BgpProcessDeleteIntent.validationKey
    (fun delete => .invalidIntent (context ++ " has duplicate BGP process delete "
      ++ processLabel delete.validationKey))
    (fun _ => .ok ()) [] deletes

def validateBgpNeighbors (neighbors : List BgpNeighborIntent)
    (deletes : List BgpNeighborDeleteIntent) (processDeletes : List BgpProcessDeleteIntent)
    (memberIds : List DeviceId) (context : String) : Except UnderlayError Unit := do
  let deletedProcessKeys := processDeletes.map BgpProcessDeleteIntent.validationKey
  eachDistinct
    (fun neighbor => do
      validateDeviceId "BGP neighbor device_id" neighbor.deviceId
      ensureKnownMember memberIds neighbor.deviceId "BGP neighbor"
      validateNonEmpty "BGP neighbor vrf" neighbor.vrf
      validateNonEmpty "BGP neighbor address" neighbor.address
      validateIpv4Text "BGP neighbor address" (trim neighbor.address)
      invalidIf ((neighbor.deviceId, trim neighbor.vrf) ∈ deletedProcessKeys)
        (context ++ " cannot delete BGP process "
          ++ processLabel (neighbor.deviceId, trim neighbor.vrf) ++ " and upsert BGP neighbor "
          ++ neighborLabel neighbor.validationKey ++ " in the same request")
      invalidIf (neighbor.remoteAs = 0)
        (context ++ " BGP neighbor " ++ neighborLabel neighbor.validationKey
          ++ " has invalid remote_as 0"))
    BgpNeighborIntent.validationKey
    (fun neighbor => .invalidIntent (context ++ " has duplicate BGP neighbor "
      ++ neighborLabel neighbor.validationKey))
    (fun _ => .ok ()) [] neighbors
  eachDistinct
    (fun delete => do
      validateDeviceId "BGP neighbor delete device_id" delete.deviceId
      ensureKnownMember memberIds delete.deviceId "BGP neighbor delete"
      validateNonEmpty "BGP neighbor delete vrf" delete.vrf
      validateNonEmpty "BGP neighbor delete address" delete.address
      validateIpv4Text "BGP neighbor delete address" (trim delete.address)
      invalidIf (delete.validationKey ∈ neighbors.map BgpNeighborIntent.validationKey)
        (context ++ " cannot upsert and delete BGP neighbor "
          ++ neighborLabel delete.validationKey ++ " in the same request"))
    BgpNeighborDeleteIntent.validationKey
    (fun delete => .invalidIntent (context ++ " has duplicate BGP neighbor delete "
      ++ neighborLabel delete.validationKey))
    (fun _ => .ok ()) [] deletes

/-! ## The whole intent -/

def validateUnderlayDomainIntent (intent : UnderlayDomainIntent) : Except UnderlayError Unit := do
  validateNonEmpty "underlay domain_id" intent.domainId
  invalidIf (intent.endpoints = []) "underlay domain has no management endpoints"
  invalidIf (intent.members = []) "underlay domain has no switch members"
  validateTopologyShape intent
  validateEndpoints intent.endpoints
  let endpointIds := intent.endpoints.map ManagementEndpointIntent.endpointId
  validateMembers intent.members endpointIds
  let memberIds := intent.members.map SwitchMemberIntent.memberId
  let declaredVlans := intent.vlans.map VlanIntent.vlanId
  validateVlans declaredVlans "underlay domain"
  validateVlans intent.deleteVlanIds "underlay domain delete"
  intent.deleteVlanIds.forM fun vlanId =>
    invalidIf (vlanId ∈ declaredVlans)
      ("underlay domain cannot upsert and delete VLAN " ++ toString vlanId
        ++ " in the same request")
  validateInterfaces intent.interfaces memberIds declaredVlans "underlay domain" "switch member"
  validateInterfaceDeletes intent.deleteInterfaces intent.interfaces memberIds "underlay domain"
  validateAcls intent.acls "underlay domain"
  validateAclIds intent.deleteAclIds "underlay domain delete"
  let declaredAcls := intent.acls.map AclIntent.aclId
  intent.deleteAclIds.forM fun aclId =>
    invalidIf (aclId ∈ declaredAcls)
      ("underlay domain cannot upsert and delete ACL " ++ toString aclId ++ " in the same request")
  validateAclBindings intent.aclBindings memberIds declaredAcls "underlay domain"
  validateAclBindingDeletes intent.deleteAclBindings intent.aclBindings memberIds "underlay domain"
  validateBgpProcesses intent.bgpProcesses intent.deleteBgpProcesses memberIds "underlay domain"
  validateBgpNeighbors intent.bgpNeighbors intent.deleteBgpNeighbors intent.deleteBgpProcesses
    memberIds "underlay domain"

/-! ## What acceptance means -/

/-- The facts about an accepted intent on which planning relies. -/
structure UnderlayDomainIntent.Validated (intent : UnderlayDomainIntent) : Prop where
  endpointsDistinct : (intent.endpoints.map ManagementEndpointIntent.endpointId).Nodup
  membersDistinct : (intent.members.map SwitchMemberIntent.memberId).Nodup
  endpointKnown : ∀ member ∈ intent.members,
    member.managementEndpointId ∈ intent.endpoints.map ManagementEndpointIntent.endpointId
  vlansDistinct : (intent.vlans.map VlanIntent.vlanId).Nodup
  vlansApart : ∀ vlanId ∈ intent.deleteVlanIds, vlanId ∉ intent.vlans.map VlanIntent.vlanId
  aclsDistinct : (intent.acls.map AclIntent.aclId).Nodup
  aclsApart : ∀ aclId ∈ intent.deleteAclIds, aclId ∉ intent.acls.map AclIntent.aclId
  interfaceMember : ∀ interface ∈ intent.interfaces,
    interface.deviceId ∈ intent.members.map SwitchMemberIntent.memberId
  interfaceDeleteMember : ∀ delete ∈ intent.deleteInterfaces,
    delete.deviceId ∈ intent.members.map SwitchMemberIntent.memberId
  aclBindingMember : ∀ binding ∈ intent.aclBindings,
    binding.deviceId ∈ intent.members.map SwitchMemberIntent.memberId
  aclBindingDeclared : ∀ binding ∈ intent.aclBindings,
    binding.aclId ∈ intent.acls.map AclIntent.aclId
  aclBindingDeleteMember : ∀ delete ∈ intent.deleteAclBindings,
    delete.deviceId ∈ intent.members.map SwitchMemberIntent.memberId
  bgpProcessMember : ∀ process ∈ intent.bgpProcesses,
    process.deviceId ∈ intent.members.map SwitchMemberIntent.memberId
  bgpProcessDeleteMember : ∀ delete ∈ intent.deleteBgpProcesses,
    delete.deviceId ∈ intent.members.map SwitchMemberIntent.memberId
  bgpNeighborMember : ∀ neighbor ∈ intent.bgpNeighbors,
    neighbor.deviceId ∈ intent.members.map SwitchMemberIntent.memberId
  bgpNeighborAddress : ∀ neighbor ∈ intent.bgpNeighbors, isIpv4 (trim neighbor.address)
  bgpNeighborDeleteMember : ∀ delete ∈ intent.deleteBgpNeighbors,
    delete.deviceId ∈ intent.members.map SwitchMemberIntent.memberId
  bgpNeighborDeleteAddress : ∀ delete ∈ intent.deleteBgpNeighbors, isIpv4 (trim delete.address)

theorem validateEndpoints_distinct {endpoints : List ManagementEndpointIntent}
    (accepted : validateEndpoints endpoints = .ok ()) :
    (endpoints.map ManagementEndpointIntent.endpointId).Nodup :=
  (eachDistinct_eq_ok.mp accepted).2

theorem validateMembers_ok {members : List SwitchMemberIntent} {endpointIds : List String}
    (accepted : validateMembers members endpointIds = .ok ()) :
    (members.map SwitchMemberIntent.memberId).Nodup ∧
      ∀ member ∈ members, member.managementEndpointId ∈ endpointIds := by
  rcases eachDistinct_eq_ok.mp accepted with ⟨each, distinct⟩
  refine ⟨distinct, fun member isMember => ?_⟩
  simpa using (each member isMember).2

variable {context : String} {memberIds : List DeviceId}

theorem validateVlans_distinct {vlanIds : List UInt16}
    (accepted : validateVlans vlanIds context = .ok ()) :
    vlanIds.Nodup := by
  simpa using (eachDistinct_eq_ok.mp accepted).2

theorem validateAcls_distinct {acls : List AclIntent}
    (accepted : validateAcls acls context = .ok ()) :
    (acls.map AclIntent.aclId).Nodup :=
  (eachDistinct_eq_ok.mp accepted).2

theorem validateInterfaces_member {interfaces : List InterfaceIntent}
    {declaredVlans : List UInt16} {label : String}
    (accepted : validateInterfaces interfaces memberIds declaredVlans context label = .ok ()) :
    ∀ interface ∈ interfaces, interface.deviceId ∈ memberIds := by
  intro interface isMember
  have passed := ((eachDistinct_eq_ok.mp accepted).1 interface isMember).1
  simp only [andThen_eq_ok, invalidIf_eq_ok, not_not] at passed
  exact passed.2

theorem validateInterfaceDeletes_member {deletes : List InterfaceDeleteIntent}
    {upserts : List InterfaceIntent}
    (accepted : validateInterfaceDeletes deletes upserts memberIds context = .ok ()) :
    ∀ delete ∈ deletes, delete.deviceId ∈ memberIds := by
  intro delete isMember
  have passed := ((eachDistinct_eq_ok.mp accepted).1 delete isMember).1
  simp only [andThen_eq_ok, invalidIf_eq_ok, not_not] at passed
  exact passed.2.1

theorem validateAclBindings_ok {bindings : List AclBindingIntent} {declaredAcls : List UInt16}
    (accepted : validateAclBindings bindings memberIds declaredAcls context = .ok ()) :
    ∀ binding ∈ bindings, binding.deviceId ∈ memberIds ∧ binding.aclId ∈ declaredAcls := by
  intro binding isMember
  have passed := ((eachDistinct_eq_ok.mp accepted).1 binding isMember).1
  simp only [andThen_eq_ok, invalidIf_eq_ok, not_not] at passed
  exact passed.2

theorem validateAclBindingDeletes_member {deletes upserts : List AclBindingIntent}
    (accepted : validateAclBindingDeletes deletes upserts memberIds context = .ok ()) :
    ∀ delete ∈ deletes, delete.deviceId ∈ memberIds := by
  intro delete isMember
  have passed := ((eachDistinct_eq_ok.mp accepted).1 delete isMember).1
  simp only [andThen_eq_ok, invalidIf_eq_ok, not_not] at passed
  exact passed.2.1

theorem validateBgpProcesses_ok {processes : List BgpProcessIntent}
    {deletes : List BgpProcessDeleteIntent}
    (accepted : validateBgpProcesses processes deletes memberIds context = .ok ()) :
    (∀ process ∈ processes, process.deviceId ∈ memberIds) ∧
      ∀ delete ∈ deletes, delete.deviceId ∈ memberIds := by
  rw [validateBgpProcesses, andThen_eq_ok, eachDistinct_eq_ok, eachDistinct_eq_ok] at accepted
  rcases accepted with ⟨⟨eachProcess, -⟩, ⟨eachDelete, -⟩⟩
  constructor
  · intro process isMember
    have passed := (eachProcess process isMember).1
    simp only [andThen_eq_ok, ensureKnownMember, invalidIf_eq_ok, not_not] at passed
    exact passed.2.1
  · intro delete isMember
    have passed := (eachDelete delete isMember).1
    simp only [andThen_eq_ok, ensureKnownMember, invalidIf_eq_ok, not_not] at passed
    exact passed.2.1

theorem validateBgpNeighbors_ok {neighbors : List BgpNeighborIntent}
    {deletes : List BgpNeighborDeleteIntent} {processDeletes : List BgpProcessDeleteIntent}
    (accepted : validateBgpNeighbors neighbors deletes processDeletes memberIds context = .ok ()) :
    (∀ neighbor ∈ neighbors,
        neighbor.deviceId ∈ memberIds ∧ isIpv4 (trim neighbor.address) = true) ∧
      ∀ delete ∈ deletes, delete.deviceId ∈ memberIds ∧ isIpv4 (trim delete.address) = true := by
  simp only [validateBgpNeighbors, andThen_eq_ok, eachDistinct_eq_ok] at accepted
  rcases accepted with ⟨⟨eachNeighbor, -⟩, ⟨eachDelete, -⟩⟩
  constructor
  · intro neighbor isMember
    have passed := (eachNeighbor neighbor isMember).1
    simp only [ensureKnownMember, validateIpv4Text, invalidIf_eq_ok, not_not,
      Bool.not_eq_false] at passed
    exact ⟨passed.2.1, passed.2.2.2.2.1⟩
  · intro delete isMember
    have passed := (eachDelete delete isMember).1
    simp only [ensureKnownMember, validateIpv4Text, invalidIf_eq_ok, not_not,
      Bool.not_eq_false] at passed
    exact ⟨passed.2.1, passed.2.2.2.2.1⟩

theorem validated_of_accepted {intent : UnderlayDomainIntent}
    (accepted : validateUnderlayDomainIntent intent = .ok ()) :
    intent.Validated := by
  simp only [validateUnderlayDomainIntent, andThen_eq_ok, forM_eq_ok, invalidIf_eq_ok] at accepted
  rcases accepted with
    ⟨-, -, -, -, endpoints, members, vlans, -, vlansApart, interfaces, interfaceDeletes, acls, -,
      aclsApart, aclBindings, aclBindingDeletes, bgpProcesses, bgpNeighbors⟩
  exact {
    endpointsDistinct := validateEndpoints_distinct endpoints
    membersDistinct := (validateMembers_ok members).1
    endpointKnown := (validateMembers_ok members).2
    vlansDistinct := validateVlans_distinct vlans
    vlansApart := vlansApart
    aclsDistinct := validateAcls_distinct acls
    aclsApart := aclsApart
    interfaceMember := validateInterfaces_member interfaces
    interfaceDeleteMember := validateInterfaceDeletes_member interfaceDeletes
    aclBindingMember := fun binding isMember =>
      (validateAclBindings_ok aclBindings binding isMember).1
    aclBindingDeclared := fun binding isMember =>
      (validateAclBindings_ok aclBindings binding isMember).2
    aclBindingDeleteMember := validateAclBindingDeletes_member aclBindingDeletes
    bgpProcessMember := (validateBgpProcesses_ok bgpProcesses).1
    bgpProcessDeleteMember := (validateBgpProcesses_ok bgpProcesses).2
    bgpNeighborMember := fun neighbor isMember =>
      ((validateBgpNeighbors_ok bgpNeighbors).1 neighbor isMember).1
    bgpNeighborAddress := fun neighbor isMember =>
      ((validateBgpNeighbors_ok bgpNeighbors).1 neighbor isMember).2
    bgpNeighborDeleteMember := fun delete isMember =>
      ((validateBgpNeighbors_ok bgpNeighbors).2 delete isMember).1
    bgpNeighborDeleteAddress := fun delete isMember =>
      ((validateBgpNeighbors_ok bgpNeighbors).2 delete isMember).2 }

end AriaUnderlay
