import AriaUnderlay.Collections.Checks
import AriaUnderlay.Model.Text

/-!
# Source-of-truth snapshots

A snapshot lists the devices and the objects that they own, each with the system it comes from.
Validation walks over one kind of object after the other.  Device ids are trimmed when devices are
read, but not when an object names its device, so that an object finds a device only by its trimmed
id.  What validation accepts are exactly the consistent snapshots.
-/

namespace AriaUnderlay

open Collections Effect

/-! ## Snapshots -/

/-- Where an object comes from. -/
structure SotSource where
  system : String
  reference : String
  deriving DecidableEq, Repr

/-- A device of the source of truth. -/
structure SotDevice where
  deviceId : String
  source : SotSource
  deriving DecidableEq, Repr

/-- An interface, by device and name. -/
structure SotInterface where
  deviceId : String
  name : String
  source : SotSource
  deriving DecidableEq, Repr

/-- A VLAN of a device, with its owner. -/
structure SotVlan where
  deviceId : String
  vlanId : UInt16
  owner : String
  source : SotSource
  deriving DecidableEq, Repr

/-- An ACL of a device, with its owner. -/
structure SotAcl where
  deviceId : String
  aclId : UInt16
  owner : String
  source : SotSource
  deriving DecidableEq, Repr

/-- A policy of a device, with its owner. -/
structure SotPolicyIntent where
  deviceId : String
  policyId : String
  owner : String
  source : SotSource
  deriving DecidableEq, Repr

/-- A prefix list of a device, with its owner. -/
structure SotPrefixList where
  deviceId : String
  name : String
  addressFamily : String
  owner : String
  source : SotSource
  deriving DecidableEq, Repr

/-- A route policy and the lists it refers to. -/
structure SotRoutePolicy where
  deviceId : String
  name : String
  owner : String
  referencedAclIds : List UInt16 := []
  referencedPrefixLists : List String := []
  referencedCommunityLists : List String := []
  source : SotSource
  deriving DecidableEq, Repr

/-- A BGP neighbor, by device, VRF and address. -/
structure SotBgpNeighbor where
  deviceId : String
  vrf : String
  neighborAddress : String
  owner : String
  source : SotSource
  deriving DecidableEq, Repr

/-- All objects of the source of truth. -/
structure SotSnapshot where
  devices : List SotDevice := []
  interfaces : List SotInterface := []
  vlans : List SotVlan := []
  acls : List SotAcl := []
  policyIntents : List SotPolicyIntent := []
  prefixLists : List SotPrefixList := []
  routePolicies : List SotRoutePolicy := []
  bgpNeighbors : List SotBgpNeighbor := []
  deriving DecidableEq, Repr

/-! ## Validation -/

/-- The device is in the snapshot. -/
def ensureKnownDevice (deviceIds : List String) (deviceId subject : String) :
    Except String Unit :=
  refuseIf (deviceId ∉ deviceIds) (subject ++ " references unknown device_id " ++ deviceId)

/-- The text is more than blanks. -/
def requireNonEmpty (field value : String) : Except String Unit :=
  refuseIf (trim value = "") (field ++ " must not be empty")

/-- The source is named. -/
def validateSource (source : SotSource) (field : String) : Except String Unit := do
  requireNonEmpty (field ++ " system") source.system
  requireNonEmpty (field ++ " reference") source.reference

/-- What the validation of one kind of object needs to know: the owner, the source and the key of an
object, how it is called before and after its key is known to be good, and the texts that must not
be empty with the names of their fields. -/
structure SotKind (Object Key : Type) where
  deviceId : Object → String
  source : Object → SotSource
  key : Object → Key
  subject : Object → String
  label : Object → String
  required : Object → List (String × String)

namespace SotKind

variable {Object Key : Type} [DecidableEq Key] (kind : SotKind Object Key)

/-- The loop that the validators share, with the keys it has seen at its end.  `references` is what
is checked once the key is recorded. -/
def validate (deviceIds : List String) (references : Object → Except String Unit)
    (objects : List Object) : Except String (List (String × Key)) :=
  recordDistinct
    (fun object => do
      ensureKnownDevice deviceIds (kind.deviceId object) (kind.subject object)
      (kind.required object).forM fun field => requireNonEmpty field.1 field.2
      validateSource (kind.source object) (kind.label object ++ " source"))
    (fun object => (kind.deviceId object, kind.key object))
    (fun object => "duplicate " ++ kind.label object)
    references [] objects

end SotKind

def sotInterfaceKind : SotKind SotInterface String where
  deviceId := SotInterface.deviceId
  source := SotInterface.source
  key := fun interface => trim interface.name
  subject := fun interface => "SoT interface " ++ interface.name
  label := fun interface => "SoT interface " ++ interface.deviceId ++ "/" ++ trim interface.name
  required := fun interface => [("SoT interface name", interface.name)]

/-- VLANs are distinct by id. -/
def sotVlanKind : SotKind SotVlan UInt16 where
  deviceId := SotVlan.deviceId
  source := SotVlan.source
  key := SotVlan.vlanId
  subject := fun vlan => "SoT vlan " ++ toString vlan.vlanId
  label := fun vlan => "SoT vlan " ++ vlan.deviceId ++ "/" ++ toString vlan.vlanId
  required := fun vlan => [("SoT vlan " ++ toString vlan.vlanId ++ " owner", vlan.owner)]

/-- ACLs are distinct by id. -/
def sotAclKind : SotKind SotAcl UInt16 where
  deviceId := SotAcl.deviceId
  source := SotAcl.source
  key := SotAcl.aclId
  subject := fun acl => "SoT acl " ++ toString acl.aclId
  label := fun acl => "SoT acl " ++ acl.deviceId ++ "/" ++ toString acl.aclId
  required := fun acl => [("SoT acl " ++ toString acl.aclId ++ " owner", acl.owner)]

/-- Policies are distinct by id. -/
def sotPolicyIntentKind : SotKind SotPolicyIntent String where
  deviceId := SotPolicyIntent.deviceId
  source := SotPolicyIntent.source
  key := fun policy => trim policy.policyId
  subject := fun policy => "SoT policy " ++ policy.policyId
  label := fun policy => "SoT policy " ++ policy.deviceId ++ "/" ++ trim policy.policyId
  required := fun policy =>
    [("SoT policy_id", policy.policyId),
      ("SoT policy " ++ trim policy.policyId ++ " owner", policy.owner)]

def sotPrefixListKind : SotKind SotPrefixList String where
  deviceId := SotPrefixList.deviceId
  source := SotPrefixList.source
  key := fun list => trim list.name
  subject := fun list => "SoT prefix-list " ++ list.name
  label := fun list => "SoT prefix-list " ++ list.deviceId ++ "/" ++ trim list.name
  required := fun list =>
    [("SoT prefix-list name", list.name),
      ("SoT prefix-list " ++ trim list.name ++ " address_family", list.addressFamily),
      ("SoT prefix-list " ++ trim list.name ++ " owner", list.owner)]

def sotRoutePolicyKind : SotKind SotRoutePolicy String where
  deviceId := SotRoutePolicy.deviceId
  source := SotRoutePolicy.source
  key := fun policy => trim policy.name
  subject := fun policy => "SoT route policy " ++ policy.name
  label := fun policy => "SoT route policy " ++ policy.deviceId ++ "/" ++ trim policy.name
  required := fun policy =>
    [("SoT route policy name", policy.name),
      ("SoT route policy " ++ trim policy.name ++ " owner", policy.owner)]

def sotBgpNeighborKind : SotKind SotBgpNeighbor (String × String) where
  deviceId := SotBgpNeighbor.deviceId
  source := SotBgpNeighbor.source
  key := fun neighbor => (trim neighbor.vrf, trim neighbor.neighborAddress)
  subject := fun neighbor => "SoT bgp neighbor " ++ neighbor.neighborAddress
  label := fun neighbor =>
    "SoT bgp neighbor " ++ neighbor.deviceId ++ "/" ++ trim neighbor.vrf ++ "/"
      ++ trim neighbor.neighborAddress
  required := fun neighbor =>
    [("SoT bgp vrf", neighbor.vrf),
      ("SoT bgp neighbor_address", neighbor.neighborAddress),
      ("SoT bgp neighbor " ++ trim neighbor.neighborAddress ++ " owner", neighbor.owner)]

namespace SotSnapshot

variable (snapshot : SotSnapshot)

/-- The check of the devices. -/
def validateDevices : Except String (List String) :=
  recordDistinct
    (fun device => do
      requireNonEmpty "SoT device_id" device.deviceId
      validateSource device.source ("SoT device " ++ trim device.deviceId ++ " source"))
    (fun device => trim device.deviceId)
    (fun device => "duplicate SoT device_id " ++ trim device.deviceId)
    (fun _ => .ok ()) [] snapshot.devices

/-- The check of the interfaces. -/
def validateInterfaces (deviceIds : List String) : Except String Unit := do
  let _ ← sotInterfaceKind.validate deviceIds (fun _ => .ok ()) snapshot.interfaces
  .ok ()

/-- The check of the VLANs. -/
def validateVlans (deviceIds : List String) : Except String Unit := do
  let _ ← sotVlanKind.validate deviceIds (fun _ => .ok ()) snapshot.vlans
  .ok ()

/-- The check of the ACLs. -/
def validateAcls (deviceIds : List String) : Except String (List (String × UInt16)) :=
  sotAclKind.validate deviceIds (fun _ => .ok ()) snapshot.acls

/-- The check of the policies. -/
def validatePolicyIntents (deviceIds : List String) : Except String Unit := do
  let _ ← sotPolicyIntentKind.validate deviceIds (fun _ => .ok ()) snapshot.policyIntents
  .ok ()

/-- The check of the prefix lists. -/
def validatePrefixLists (deviceIds : List String) : Except String (List (String × String)) :=
  sotPrefixListKind.validate deviceIds (fun _ => .ok ()) snapshot.prefixLists

def validateRoutePolicies (deviceIds : List String) (aclKeys : List (String × UInt16))
    (prefixListKeys : List (String × String)) : Except String Unit := do
  let _ ← sotRoutePolicyKind.validate deviceIds
    (fun policy => do
      policy.referencedAclIds.forM fun aclId =>
        refuseIf ((policy.deviceId, aclId) ∉ aclKeys)
          (sotRoutePolicyKind.label policy ++ " references unknown ACL " ++ toString aclId)
      policy.referencedPrefixLists.forM fun name => do
        requireNonEmpty "SoT route policy referenced_prefix_list" name
        refuseIf ((policy.deviceId, trim name) ∉ prefixListKeys)
          (sotRoutePolicyKind.label policy ++ " references unknown prefix-list " ++ trim name)
      policy.referencedCommunityLists.forM fun name =>
        requireNonEmpty "SoT route policy referenced_community_list" name)
    snapshot.routePolicies
  .ok ()

def validateBgpNeighbors (deviceIds : List String) : Except String Unit := do
  let _ ← sotBgpNeighborKind.validate deviceIds (fun _ => .ok ()) snapshot.bgpNeighbors
  .ok ()

/-- The check of a snapshot as a whole: what names a device, an ACL or a prefix list is looked up in
the keys that the earlier validators have recorded. -/
def validate : Except String Unit := do
  let deviceIds ← snapshot.validateDevices
  snapshot.validateInterfaces deviceIds
  snapshot.validateVlans deviceIds
  let aclKeys ← snapshot.validateAcls deviceIds
  snapshot.validatePolicyIntents deviceIds
  let prefixListKeys ← snapshot.validatePrefixLists deviceIds
  snapshot.validateRoutePolicies deviceIds aclKeys prefixListKeys
  snapshot.validateBgpNeighbors deviceIds

end SotSnapshot

/-! ## Consistent snapshots -/

/-- A text that is more than white space. -/
def NonBlank (text : String) : Prop :=
  trim text ≠ ""

/-- A source whose system and reference are both there. -/
def SotSource.Named (source : SotSource) : Prop :=
  NonBlank source.system ∧ NonBlank source.reference

/-- Objects of one kind that belong to known devices, differ in their keys, and whose texts and
sources are there. -/
structure ConsistentObjects {Object Key : Type} (deviceIds : List String)
    (deviceId : Object → String) (key : Object → Key) (texts : Object → List String)
    (source : Object → SotSource) (objects : List Object) : Prop where
  owned : ∀ object ∈ objects, deviceId object ∈ deviceIds
  distinct : (objects.map fun object => (deviceId object, key object)).Nodup
  named : ∀ object ∈ objects, ∀ text ∈ texts object, NonBlank text
  sourced : ∀ object ∈ objects, (source object).Named

/-- The ids of the devices of a snapshot. -/
def SotSnapshot.deviceIds (snapshot : SotSnapshot) : List String :=
  snapshot.devices.map fun device => trim device.deviceId

/-- The keys of the ACLs of a snapshot. -/
def SotSnapshot.aclKeys (snapshot : SotSnapshot) : List (String × UInt16) :=
  snapshot.acls.map fun acl => (acl.deviceId, acl.aclId)

/-- The keys of the prefix lists of a snapshot. -/
def SotSnapshot.prefixListKeys (snapshot : SotSnapshot) : List (String × String) :=
  snapshot.prefixLists.map fun list => (list.deviceId, trim list.name)

/-- A snapshot whose objects are consistent and whose route policies refer to ACLs and prefix lists
of their own devices. -/
structure SotSnapshot.Consistent (snapshot : SotSnapshot) : Prop where
  deviceIds_named : ∀ device ∈ snapshot.devices, NonBlank device.deviceId
  deviceIds_distinct : (snapshot.devices.map fun device => trim device.deviceId).Nodup
  devices_sourced : ∀ device ∈ snapshot.devices, device.source.Named
  interfaces : ConsistentObjects snapshot.deviceIds SotInterface.deviceId (trim ·.name)
    (fun interface => [interface.name]) SotInterface.source snapshot.interfaces
  vlans : ConsistentObjects snapshot.deviceIds SotVlan.deviceId SotVlan.vlanId
    (fun vlan => [vlan.owner]) SotVlan.source snapshot.vlans
  acls : ConsistentObjects snapshot.deviceIds SotAcl.deviceId SotAcl.aclId
    (fun acl => [acl.owner]) SotAcl.source snapshot.acls
  policyIntents : ConsistentObjects snapshot.deviceIds SotPolicyIntent.deviceId (trim ·.policyId)
    (fun policy => [policy.policyId, policy.owner]) SotPolicyIntent.source snapshot.policyIntents
  prefixLists : ConsistentObjects snapshot.deviceIds SotPrefixList.deviceId (trim ·.name)
    (fun list => [list.name, list.addressFamily, list.owner]) SotPrefixList.source
    snapshot.prefixLists
  routePolicies : ConsistentObjects snapshot.deviceIds SotRoutePolicy.deviceId (trim ·.name)
    (fun policy => [policy.name, policy.owner] ++ policy.referencedPrefixLists ++
      policy.referencedCommunityLists) SotRoutePolicy.source snapshot.routePolicies
  bgpNeighbors : ConsistentObjects snapshot.deviceIds SotBgpNeighbor.deviceId
    (fun neighbor => (trim neighbor.vrf, trim neighbor.neighborAddress))
    (fun neighbor => [neighbor.vrf, neighbor.neighborAddress, neighbor.owner])
    SotBgpNeighbor.source snapshot.bgpNeighbors
  aclReferences : ∀ policy ∈ snapshot.routePolicies, ∀ aclId ∈ policy.referencedAclIds,
    ∃ acl ∈ snapshot.acls, acl.deviceId = policy.deviceId ∧ acl.aclId = aclId
  prefixListReferences : ∀ policy ∈ snapshot.routePolicies,
    ∀ name ∈ policy.referencedPrefixLists,
      ∃ list ∈ snapshot.prefixLists, list.deviceId = policy.deviceId ∧ trim list.name = trim name

section Sound

variable {deviceIds : List String}

@[simp]
theorem ensureKnownDevice_eq_ok {deviceId subject : String} :
    ensureKnownDevice deviceIds deviceId subject = .ok () ↔ deviceId ∈ deviceIds := by
  simp [ensureKnownDevice]

@[simp]
theorem requireNonEmpty_eq_ok {field value : String} :
    requireNonEmpty field value = .ok () ↔ NonBlank value :=
  refuseIf_eq_ok

@[simp]
theorem validateSource_eq_ok {source : SotSource} {field : String} :
    validateSource source field = .ok () ↔ source.Named := by
  simp [validateSource, andThen_eq_ok, SotSource.Named]

/-- A validator passes exactly the consistent objects whose references pass, and has then recorded
their keys. -/
theorem SotKind.validate_eq_ok {Object Key : Type} [DecidableEq Key] {kind : SotKind Object Key}
    {references : Object → Except String Unit} {objects : List Object}
    {recorded : List (String × Key)} :
    kind.validate deviceIds references objects = .ok recorded ↔
      (ConsistentObjects deviceIds kind.deviceId kind.key
          (fun object => (kind.required object).map Prod.snd) kind.source objects ∧
        ∀ object ∈ objects, references object = .ok ()) ∧
      recorded = objects.map fun object => (kind.deviceId object, kind.key object) := by
  simp only [validate, recordDistinct_eq_ok, andThen_eq_ok, ensureKnownDevice_eq_ok, forM_eq_ok,
    requireNonEmpty_eq_ok, validateSource_eq_ok]
  refine and_congr_left fun _ => ⟨?_, ?_⟩
  · rintro ⟨each, distinct⟩
    refine ⟨⟨fun object member => (each object member).1.1, distinct, ?_,
      fun object member => (each object member).1.2.2⟩, fun object member => (each object member).2⟩
    intro object member text isText
    rcases List.mem_map.mp isText with ⟨field, isField, rfl⟩
    exact (each object member).1.2.1 field isField
  · rintro ⟨consistent, referring⟩
    refine ⟨fun object member => ⟨⟨consistent.owned object member, ?_,
      consistent.sourced object member⟩, referring object member⟩, consistent.distinct⟩
    intro field isField
    exact consistent.named object member field.2 (List.mem_map_of_mem isField)

/-- The same where the record is dropped. -/
theorem SotKind.validate_dropped_eq_ok {Object Key : Type} [DecidableEq Key]
    {kind : SotKind Object Key} {references : Object → Except String Unit} {objects : List Object} :
    (kind.validate deviceIds references objects >>= fun _ => .ok ()) = .ok () ↔
      ConsistentObjects deviceIds kind.deviceId kind.key
          (fun object => (kind.required object).map Prod.snd) kind.source objects ∧
        ∀ object ∈ objects, references object = .ok () := by
  simp [bind_eq_ok, validate_eq_ok]

variable {snapshot : SotSnapshot}

theorem validateDevices_eq_ok {recorded : List String} :
    snapshot.validateDevices = .ok recorded ↔
      ((∀ device ∈ snapshot.devices, NonBlank device.deviceId ∧ device.source.Named) ∧
        (snapshot.devices.map fun device => trim device.deviceId).Nodup) ∧
      recorded = snapshot.deviceIds := by
  simp only [SotSnapshot.validateDevices, recordDistinct_eq_ok, andThen_eq_ok,
    requireNonEmpty_eq_ok, validateSource_eq_ok, and_true, SotSnapshot.deviceIds]

theorem validateAcls_eq_ok {recorded : List (String × UInt16)} :
    snapshot.validateAcls deviceIds = .ok recorded ↔
      ConsistentObjects deviceIds SotAcl.deviceId SotAcl.aclId (fun acl => [acl.owner])
        SotAcl.source snapshot.acls ∧ recorded = snapshot.aclKeys := by
  simp only [SotSnapshot.validateAcls, SotKind.validate_eq_ok, implies_true, and_true]
  rfl

theorem validatePrefixLists_eq_ok {recorded : List (String × String)} :
    snapshot.validatePrefixLists deviceIds = .ok recorded ↔
      ConsistentObjects deviceIds SotPrefixList.deviceId (trim ·.name)
        (fun list => [list.name, list.addressFamily, list.owner]) SotPrefixList.source
        snapshot.prefixLists ∧ recorded = snapshot.prefixListKeys := by
  simp only [SotSnapshot.validatePrefixLists, SotKind.validate_eq_ok, implies_true, and_true]
  rfl

/-- The references of a route policy lead to objects of its device. -/
theorem validateRoutePolicies_eq_ok :
    snapshot.validateRoutePolicies deviceIds snapshot.aclKeys snapshot.prefixListKeys = .ok () ↔
      ConsistentObjects deviceIds SotRoutePolicy.deviceId (trim ·.name)
          (fun policy => [policy.name, policy.owner] ++ policy.referencedPrefixLists ++
            policy.referencedCommunityLists) SotRoutePolicy.source snapshot.routePolicies ∧
        (∀ policy ∈ snapshot.routePolicies, ∀ aclId ∈ policy.referencedAclIds,
          ∃ acl ∈ snapshot.acls, acl.deviceId = policy.deviceId ∧ acl.aclId = aclId) ∧
        ∀ policy ∈ snapshot.routePolicies, ∀ name ∈ policy.referencedPrefixLists,
          ∃ list ∈ snapshot.prefixLists,
            list.deviceId = policy.deviceId ∧ trim list.name = trim name := by
  simp only [SotSnapshot.validateRoutePolicies, SotKind.validate_dropped_eq_ok, andThen_eq_ok,
    forM_eq_ok, refuseIf_eq_ok, requireNonEmpty_eq_ok, not_not, SotSnapshot.aclKeys,
    SotSnapshot.prefixListKeys, List.mem_map, Prod.mk.injEq]
  constructor
  · rintro ⟨consistent, referring⟩
    refine ⟨⟨consistent.owned, consistent.distinct, ?_, consistent.sourced⟩,
      fun policy member => (referring policy member).1,
      fun policy member name isName => ((referring policy member).2.1 name isName).2⟩
    intro policy member text isText
    rw [List.mem_append, List.mem_append] at isText
    rcases isText with (isOwn | isPrefixList) | isCommunityList
    · exact consistent.named policy member text isOwn
    · exact ((referring policy member).2.1 text isPrefixList).1
    · exact (referring policy member).2.2 text isCommunityList
  · rintro ⟨consistent, knownAcls, knownPrefixLists⟩
    refine ⟨⟨consistent.owned, consistent.distinct, ?_, consistent.sourced⟩, ?_⟩
    · intro policy member text isText
      exact consistent.named policy member text
        (List.mem_append_left _ (List.mem_append_left _ isText))
    · intro policy member
      refine ⟨knownAcls policy member, fun name isName => ⟨?_, knownPrefixLists policy member name
        isName⟩, fun name isName => ?_⟩
      · exact consistent.named policy member name (by simp [isName])
      · exact consistent.named policy member name (by simp [isName])

end Sound

/-- Validation accepts the consistent snapshots and no others. -/
theorem sotSnapshot_validate_eq_ok_iff (snapshot : SotSnapshot) :
    snapshot.validate = .ok () ↔ snapshot.Consistent := by
  -- each record is the list of keys it stands for, so that the lookups are those in the snapshot
  simp only [SotSnapshot.validate, bind_eq_ok, Unique.exists_iff, PUnit.default_eq_unit,
    validateDevices_eq_ok, validateAcls_eq_ok, validatePrefixLists_eq_ok, and_assoc,
    exists_and_left, exists_eq_left]
  simp only [SotSnapshot.validateInterfaces, SotSnapshot.validateVlans,
    SotSnapshot.validatePolicyIntents, SotSnapshot.validateBgpNeighbors,
    validateRoutePolicies_eq_ok, SotKind.validate_dropped_eq_ok, implies_true, and_true]
  constructor
  · rintro ⟨devices, distinct, interfaces, vlans, acls, policyIntents, prefixLists,
      ⟨routePolicies, knownAcls, knownPrefixLists⟩, bgpNeighbors⟩
    exact ⟨fun device member => (devices device member).1, distinct,
      fun device member => (devices device member).2, interfaces, vlans, acls, policyIntents,
      prefixLists, routePolicies, bgpNeighbors, knownAcls, knownPrefixLists⟩
  · intro consistent
    exact ⟨fun device member => ⟨consistent.deviceIds_named device member,
      consistent.devices_sourced device member⟩, consistent.deviceIds_distinct,
      consistent.interfaces, consistent.vlans, consistent.acls, consistent.policyIntents,
      consistent.prefixLists, ⟨consistent.routePolicies, consistent.aclReferences,
      consistent.prefixListReferences⟩, consistent.bgpNeighbors⟩

end AriaUnderlay
