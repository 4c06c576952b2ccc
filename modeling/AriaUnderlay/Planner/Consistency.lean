import AriaUnderlay.Engine.Convergence
import AriaUnderlay.Planner.DomainPlan

/-!
# What planning keeps of an intent

Planning folds the objects of all members of an endpoint into maps, and normalization folds the
spellings of one name.  Two folds that the validator does not look through: it compares names as
written and per member.  This file says what survives.  The plan always has one state per endpoint,
and everything in it comes from the intent.  Conversely nothing is lost exactly when objects that
end up under one key agree, and no object is both wanted and deleted exactly when upserts and
deletes of one endpoint have different keys.
-/

namespace AriaUnderlay

open Collections

/-! ## Keys determine what they are made of -/

theorem bgpNeighborKey_inj {vrf vrf' address address' : String} (noBar : '|' ∉ address.toList)
    (noBar' : '|' ∉ address'.toList)
    (same : bgpNeighborKey vrf address = bgpNeighborKey vrf' address') :
    vrf = vrf' ∧ address = address' := by
  have sameText := congrArg String.toList same
  simp only [bgpNeighborKey, String.toList_append, List.append_assoc] at sameText
  have parts := append_cons_inj noBar noBar' sameText
  exact ⟨String.toList_inj.mp parts.1, String.toList_inj.mp parts.2⟩

variable {name text : String} {endpointId : DeviceId}

theorem aclBindingKey_inj {name' : String} {direction direction' : AclDirection}
    (same : aclBindingKey name direction = aclBindingKey name' direction') :
    name = name' ∧ direction = direction' := by
  have sameText := congrArg String.toList same
  -- the sixth letter from the end tells `inbound` from `outbound`
  have sameLetter := congrArg (fun text => text.reverse[5]?) sameText
  cases direction with
  | inbound =>
      cases direction' with
      | inbound =>
          simp only [aclBindingKey, String.toList_append, List.append_cancel_right_eq] at sameText
          exact ⟨String.toList_inj.mp sameText, rfl⟩
      | outbound => simp [aclBindingKey] at sameLetter
  | outbound =>
      cases direction' with
      | inbound => simp [aclBindingKey] at sameLetter
      | outbound =>
          simp only [aclBindingKey, String.toList_append, List.append_cancel_right_eq] at sameText
          exact ⟨String.toList_inj.mp sameText, rfl⟩

theorem not_bar_mem_of_isIpv4 (isAddress : isIpv4 text = true) :
    '|' ∉ text.toList := by
  intro member
  rcases eq_dot_or_isDecimalDigit isAddress member with isDot | isDigit
  · exact absurd isDot (by decide)
  · exact absurd isDigit (by decide)

theorem mem_trim_of_mem {c : Char} (member : c ∈ text.toList) (visible : isWhitespace c = false) :
    c ∈ (trim text).toList := by
  have keeps : ∀ {letters : List Char}, c ∈ letters → c ∈ letters.dropWhile isWhitespace := by
    intro letters isLetter
    rw [← List.takeWhile_append_dropWhile (p := isWhitespace) (l := letters),
      List.mem_append] at isLetter
    rcases isLetter with isTaken | isKept
    · simp [List.mem_takeWhile_imp isTaken] at visible
    · exact isKept
  rw [trim, String.toList_ofList, List.rdropWhile, List.mem_reverse]
  exact keeps (List.mem_reverse.mpr (keeps member))

theorem not_bar_mem_of_isIpv4_trim (isAddress : isIpv4 (trim text) = true) :
    '|' ∉ text.toList :=
  fun member => not_bar_mem_of_isIpv4 isAddress (mem_trim_of_mem member (by decide))

/-! ## The keys of a planned state -/

section Determined

theorem vlans_determined (vlans : List VlanConfig) :
    ∀ left ∈ vlans, ∀ right ∈ vlans,
      left.vlanId = right.vlanId → left.normalize.vlanId = right.normalize.vlanId := by
  intro left _ right _ sameId
  exact sameId

theorem acls_determined (acls : List AclConfig) :
    ∀ left ∈ acls, ∀ right ∈ acls,
      left.aclId = right.aclId → left.normalize.aclId = right.normalize.aclId := by
  intro left _ right _ sameId
  exact sameId

theorem interfaces_determined (interfaces : List InterfaceConfig) :
    ∀ left ∈ interfaces, ∀ right ∈ interfaces,
      left.name = right.name → left.normalize.name = right.normalize.name := by
  intro left _ right _ sameName
  simp only [InterfaceConfig.normalize, sameName]

theorem aclBindings_determined (bindings : List AclBinding) :
    ∀ left ∈ bindings, ∀ right ∈ bindings,
      left.key = right.key → left.normalize.key = right.normalize.key := by
  intro left _ right _ sameKey
  rcases aclBindingKey_inj sameKey with ⟨sameName, sameDirection⟩
  simp only [AclBinding.normalize, AclBinding.key, sameName, sameDirection]

theorem bgpProcesses_determined (processes : List BgpProcess) :
    ∀ left ∈ processes, ∀ right ∈ processes,
      left.vrf = right.vrf → left.normalize.vrf = right.normalize.vrf := by
  intro left _ right _ sameVrf
  simp only [BgpProcess.normalize, sameVrf]

theorem bgpNeighbors_determined {neighbors : List BgpNeighbor}
    (addresses : ∀ neighbor ∈ neighbors, isIpv4 (trim neighbor.address) = true) :
    ∀ left ∈ neighbors, ∀ right ∈ neighbors,
      left.key = right.key → left.normalize.key = right.normalize.key := by
  intro left leftMember right rightMember sameKey
  have parts := bgpNeighborKey_inj (not_bar_mem_of_isIpv4_trim (addresses left leftMember))
    (not_bar_mem_of_isIpv4_trim (addresses right rightMember)) sameKey
  simp only [BgpNeighbor.normalize, BgpNeighbor.key, parts.1, parts.2]

end Determined

section Keys

variable {intent : UnderlayDomainIntent}

theorem mem_normalized_vlans {vlanId : UInt16} :
    vlanId ∈ (normalizeDesiredState (intent.plannedState endpointId)).vlans ↔
      vlanId ∈ intent.vlans.map VlanIntent.vlanId := by
  rw [normalizeDesiredState, UnderlayDomainIntent.plannedState,
    mem_rekey_gather_iff (vlans_determined _)]
  simp [VlanConfig.normalize, VlanIntent.config]

theorem mem_normalized_deleteVlanIds {vlanId : UInt16} :
    vlanId ∈ (normalizeDesiredState (intent.plannedState endpointId)).deleteVlanIds ↔
      vlanId ∈ intent.deleteVlanIds := by
  simp [normalizeDesiredState, UnderlayDomainIntent.plannedState]

theorem mem_normalized_acls {aclId : UInt16} :
    aclId ∈ (normalizeDesiredState (intent.plannedState endpointId)).acls ↔
      aclId ∈ intent.acls.map AclIntent.aclId := by
  rw [normalizeDesiredState, UnderlayDomainIntent.plannedState,
    mem_rekey_gather_iff (acls_determined _)]
  simp [AclConfig.normalize, AclIntent.config]

theorem mem_normalized_deleteAclIds {aclId : UInt16} :
    aclId ∈ (normalizeDesiredState (intent.plannedState endpointId)).deleteAclIds ↔
      aclId ∈ intent.deleteAclIds := by
  simp [normalizeDesiredState, UnderlayDomainIntent.plannedState]

theorem mem_normalized_interfaces :
    name ∈ (normalizeDesiredState (intent.plannedState endpointId)).interfaces ↔
      ∃ interface ∈ intent.interfaces,
        intent.Reaches endpointId interface.deviceId ∧
          canonicalInterfaceName interface.name = name := by
  rw [normalizeDesiredState, UnderlayDomainIntent.plannedState,
    mem_rekey_gather_iff (interfaces_determined _)]
  simp [mem_reached, and_assoc, InterfaceConfig.normalize, InterfaceIntent.config]

theorem mem_normalized_deleteInterfaceNames :
    name ∈ (normalizeDesiredState (intent.plannedState endpointId)).deleteInterfaceNames ↔
      ∃ delete ∈ intent.deleteInterfaces,
        intent.Reaches endpointId delete.deviceId ∧ canonicalInterfaceName delete.name = name := by
  simp [normalizeDesiredState, UnderlayDomainIntent.plannedState, mem_reached, and_assoc]

variable {key : String}

theorem mem_normalized_aclBindings :
    key ∈ (normalizeDesiredState (intent.plannedState endpointId)).aclBindings ↔
      ∃ binding ∈ intent.aclBindings,
        intent.Reaches endpointId binding.deviceId ∧
          aclBindingKey (canonicalInterfaceName binding.interfaceName) binding.direction = key := by
  rw [normalizeDesiredState, UnderlayDomainIntent.plannedState,
    mem_rekey_gather_iff (aclBindings_determined _)]
  simp [mem_reached, and_assoc, AclBinding.normalize, AclBinding.key, AclBindingIntent.config]

theorem mem_normalized_deleteAclBindings :
    key ∈ (normalizeDesiredState (intent.plannedState endpointId)).deleteAclBindings ↔
      ∃ delete ∈ intent.deleteAclBindings,
        intent.Reaches endpointId delete.deviceId ∧
          aclBindingKey (canonicalInterfaceName delete.interfaceName) delete.direction = key := by
  rw [normalizeDesiredState, UnderlayDomainIntent.plannedState,
    mem_rekey_gather_iff (aclBindings_determined _)]
  simp [mem_reached, and_assoc, AclBinding.normalize, AclBinding.key, AclBindingIntent.config]

theorem mem_normalized_bgpProcesses {vrf : String} :
    vrf ∈ (normalizeDesiredState (intent.plannedState endpointId)).bgpProcesses ↔
      ∃ process ∈ intent.bgpProcesses,
        intent.Reaches endpointId process.deviceId ∧ trim process.vrf = vrf := by
  rw [normalizeDesiredState, UnderlayDomainIntent.plannedState,
    mem_rekey_gather_iff (bgpProcesses_determined _)]
  simp [mem_reached, and_assoc, BgpProcess.normalize, BgpProcessIntent.config]

theorem mem_normalized_deleteBgpProcessVrfs {vrf : String} :
    vrf ∈ (normalizeDesiredState (intent.plannedState endpointId)).deleteBgpProcessVrfs ↔
      ∃ delete ∈ intent.deleteBgpProcesses,
        intent.Reaches endpointId delete.deviceId ∧ trim delete.vrf = vrf := by
  simp [normalizeDesiredState, UnderlayDomainIntent.plannedState, mem_reached, and_assoc]

variable (validated : intent.Validated)

include validated

theorem reached_bgpNeighbors_address :
    ∀ neighbor ∈ (intent.reached endpointId BgpNeighborIntent.deviceId intent.bgpNeighbors).map
        BgpNeighborIntent.config,
      isIpv4 (trim neighbor.address) = true := by
  intro neighbor isMember
  rcases List.mem_map.mp isMember with ⟨original, isReached, rfl⟩
  exact validated.bgpNeighborAddress original (mem_reached.mp isReached).1

theorem reached_deleteBgpNeighbors_address :
    ∀ neighbor ∈ (intent.reached endpointId BgpNeighborDeleteIntent.deviceId
        intent.deleteBgpNeighbors).map BgpNeighborDeleteIntent.config,
      isIpv4 (trim neighbor.address) = true := by
  intro neighbor isMember
  rcases List.mem_map.mp isMember with ⟨original, isReached, rfl⟩
  exact validated.bgpNeighborDeleteAddress original (mem_reached.mp isReached).1

theorem mem_normalized_bgpNeighbors :
    key ∈ (normalizeDesiredState (intent.plannedState endpointId)).bgpNeighbors ↔
      ∃ neighbor ∈ intent.bgpNeighbors,
        intent.Reaches endpointId neighbor.deviceId ∧
          bgpNeighborKey (trim neighbor.vrf) (trim neighbor.address) = key := by
  rw [normalizeDesiredState, UnderlayDomainIntent.plannedState,
    mem_rekey_gather_iff (bgpNeighbors_determined (reached_bgpNeighbors_address validated))]
  simp [mem_reached, and_assoc, BgpNeighbor.normalize, BgpNeighbor.key, BgpNeighborIntent.config]

theorem mem_normalized_deleteBgpNeighbors :
    key ∈ (normalizeDesiredState (intent.plannedState endpointId)).deleteBgpNeighbors ↔
      ∃ delete ∈ intent.deleteBgpNeighbors,
        intent.Reaches endpointId delete.deviceId ∧
          bgpNeighborKey (trim delete.vrf) (trim delete.address) = key := by
  rw [normalizeDesiredState, UnderlayDomainIntent.plannedState,
    mem_rekey_gather_iff (bgpNeighbors_determined (reached_deleteBgpNeighbors_address validated))]
  simp [mem_reached, and_assoc, BgpNeighbor.normalize, BgpNeighbor.key,
    BgpNeighborDeleteIntent.config]

end Keys

/-! ## Contradictions -/

/-- Two members are managed through one endpoint. -/
def UnderlayDomainIntent.ShareEndpoint (intent : UnderlayDomainIntent)
    (left right : DeviceId) : Prop :=
  ∃ endpointId, intent.Reaches endpointId left ∧ intent.Reaches endpointId right

/-- Whatever an intent deletes on an endpoint differs, in canonical spelling, from what it wants
there. -/
structure UnderlayDomainIntent.KeepsApart (intent : UnderlayDomainIntent) : Prop where
  interfaces : ∀ interface ∈ intent.interfaces, ∀ delete ∈ intent.deleteInterfaces,
    intent.ShareEndpoint interface.deviceId delete.deviceId →
      canonicalInterfaceName interface.name ≠ canonicalInterfaceName delete.name
  aclBindings : ∀ binding ∈ intent.aclBindings, ∀ delete ∈ intent.deleteAclBindings,
    intent.ShareEndpoint binding.deviceId delete.deviceId →
      canonicalInterfaceName binding.interfaceName = canonicalInterfaceName delete.interfaceName →
        binding.direction ≠ delete.direction
  bgpProcesses : ∀ process ∈ intent.bgpProcesses, ∀ delete ∈ intent.deleteBgpProcesses,
    intent.ShareEndpoint process.deviceId delete.deviceId → trim process.vrf ≠ trim delete.vrf
  bgpNeighbors : ∀ neighbor ∈ intent.bgpNeighbors, ∀ delete ∈ intent.deleteBgpNeighbors,
    intent.ShareEndpoint neighbor.deviceId delete.deviceId →
      trim neighbor.vrf = trim delete.vrf → trim neighbor.address ≠ trim delete.address
  bgpNeighborVrfs : ∀ neighbor ∈ intent.bgpNeighbors, ∀ delete ∈ intent.deleteBgpProcesses,
    intent.ShareEndpoint neighbor.deviceId delete.deviceId → trim neighbor.vrf ≠ trim delete.vrf

section Contradictions

variable {intent : UnderlayDomainIntent} (validated : intent.Validated)

include validated

theorem endpoint_of_reaches {deviceId : DeviceId} (reaches : intent.Reaches endpointId deviceId) :
    endpointId ∈ intent.endpoints.map ManagementEndpointIntent.endpointId := by
  rcases reaches with ⟨member, isMember, -, rfl⟩
  exact validated.endpointKnown member isMember

/-- The neighbor that stands under a neighbor's normalized key has the same VRF. -/
theorem exists_normalized_bgpNeighbor {neighbor : BgpNeighborIntent}
    (isMember : neighbor ∈ intent.bgpNeighbors)
    (reaches : intent.Reaches endpointId neighbor.deviceId) :
    ∃ (key : String) (kept : BgpNeighbor),
      (normalizeDesiredState (intent.plannedState endpointId)).bgpNeighbors[key]? = some kept ∧
        kept.vrf = trim neighbor.vrf := by
  have addresses := @reached_bgpNeighbors_address endpointId intent validated
  have listed : neighbor.config ∈
      (intent.reached endpointId BgpNeighborIntent.deviceId intent.bgpNeighbors).map
        BgpNeighborIntent.config :=
    List.mem_map_of_mem (mem_reached.mpr ⟨isMember, reaches⟩)
  rcases exists_getElem?_rekey_gather (bgpNeighbors_determined addresses) listed with
    ⟨kept, isKept, sameKey, found⟩
  refine ⟨_, kept.normalize, found, ?_⟩
  exact (bgpNeighborKey_inj (not_bar_mem_of_isIpv4 (addresses kept isKept))
    (not_bar_mem_of_isIpv4 (addresses neighbor.config listed)) sameKey).1

theorem UnderlayDomainIntent.KeepsApart.consistent (apart : intent.KeepsApart)
    (endpointId : DeviceId) :
    (normalizeDesiredState (intent.plannedState endpointId)).Consistent where
  vlans := by
    intro vlanId isDeleted isWanted
    exact validated.vlansApart vlanId (mem_normalized_deleteVlanIds.mp isDeleted)
      (mem_normalized_vlans.mp isWanted)
  interfaces := by
    intro name isDeleted isWanted
    rcases mem_normalized_deleteInterfaceNames.mp isDeleted with ⟨delete, inDeletes, reaches, rfl⟩
    rcases mem_normalized_interfaces.mp isWanted with ⟨interface, inWanted, reaches', same⟩
    exact apart.interfaces interface inWanted delete inDeletes ⟨endpointId, reaches', reaches⟩ same
  acls := by
    intro aclId isDeleted isWanted
    exact validated.aclsApart aclId (mem_normalized_deleteAclIds.mp isDeleted)
      (mem_normalized_acls.mp isWanted)
  aclBindings := by
    intro key isDeleted isWanted
    rcases mem_normalized_deleteAclBindings.mp isDeleted with ⟨delete, inDeletes, reaches, rfl⟩
    rcases mem_normalized_aclBindings.mp isWanted with ⟨binding, inWanted, reaches', sameKey⟩
    rcases aclBindingKey_inj sameKey with ⟨sameName, sameDirection⟩
    exact apart.aclBindings binding inWanted delete inDeletes ⟨endpointId, reaches', reaches⟩
      sameName sameDirection
  bgpProcesses := by
    intro vrf isDeleted isWanted
    rcases mem_normalized_deleteBgpProcessVrfs.mp isDeleted with ⟨delete, inDeletes, reaches, rfl⟩
    rcases mem_normalized_bgpProcesses.mp isWanted with ⟨process, inWanted, reaches', same⟩
    exact apart.bgpProcesses process inWanted delete inDeletes ⟨endpointId, reaches', reaches⟩ same
  bgpNeighbors := by
    intro key isDeleted isWanted
    rcases (mem_normalized_deleteBgpNeighbors validated).mp isDeleted with
      ⟨delete, inDeletes, reaches, rfl⟩
    rcases (mem_normalized_bgpNeighbors validated).mp isWanted with
      ⟨neighbor, inWanted, reaches', sameKey⟩
    have parts := bgpNeighborKey_inj
      (not_bar_mem_of_isIpv4 (validated.bgpNeighborAddress neighbor inWanted))
      (not_bar_mem_of_isIpv4 (validated.bgpNeighborDeleteAddress delete inDeletes)) sameKey
    exact apart.bgpNeighbors neighbor inWanted delete inDeletes ⟨endpointId, reaches', reaches⟩
      parts.1 parts.2
  bindsNoDeletedAcl := by
    intro key binding found isDeleted
    rcases mem_of_getElem?_rekey_gather found with ⟨original, isMember, rfl, -⟩
    rcases List.mem_map.mp isMember with ⟨bindingIntent, isReached, rfl⟩
    have declared := validated.aclBindingDeclared bindingIntent (mem_reached.mp isReached).1
    exact validated.aclsApart _ (mem_normalized_deleteAclIds.mp isDeleted) declared
  keepsNoDeletedVrf := by
    intro key neighbor found isDeleted
    rcases mem_of_getElem?_rekey_gather found with ⟨original, isMember, rfl, -⟩
    rcases List.mem_map.mp isMember with ⟨neighborIntent, isReached, rfl⟩
    rcases mem_reached.mp isReached with ⟨inWanted, reaches⟩
    rcases mem_normalized_deleteBgpProcessVrfs.mp isDeleted with ⟨delete, inDeletes, reaches', same⟩
    exact apart.bgpNeighborVrfs neighborIntent inWanted delete inDeletes
      ⟨endpointId, reaches, reaches'⟩ same.symm

theorem UnderlayDomainIntent.KeepsApart.of_consistent
    (consistent : ∀ endpointId ∈ intent.endpoints.map ManagementEndpointIntent.endpointId,
      (normalizeDesiredState (intent.plannedState endpointId)).Consistent) :
    intent.KeepsApart where
  interfaces := by
    rintro interface inWanted delete inDeletes ⟨endpointId, reaches, reaches'⟩ same
    have apart := (consistent endpointId (endpoint_of_reaches validated reaches)).interfaces
    exact apart _ (mem_normalized_deleteInterfaceNames.mpr ⟨delete, inDeletes, reaches', rfl⟩)
      (mem_normalized_interfaces.mpr ⟨interface, inWanted, reaches, same⟩)
  aclBindings := by
    rintro binding inWanted delete inDeletes ⟨endpointId, reaches, reaches'⟩ sameName sameDirection
    have apart := (consistent endpointId (endpoint_of_reaches validated reaches)).aclBindings
    refine apart _ (mem_normalized_deleteAclBindings.mpr ⟨delete, inDeletes, reaches', rfl⟩)
      (mem_normalized_aclBindings.mpr ⟨binding, inWanted, reaches, ?_⟩)
    rw [sameName, sameDirection]
  bgpProcesses := by
    rintro process inWanted delete inDeletes ⟨endpointId, reaches, reaches'⟩ same
    have apart := (consistent endpointId (endpoint_of_reaches validated reaches)).bgpProcesses
    exact apart _ (mem_normalized_deleteBgpProcessVrfs.mpr ⟨delete, inDeletes, reaches', rfl⟩)
      (mem_normalized_bgpProcesses.mpr ⟨process, inWanted, reaches, same⟩)
  bgpNeighbors := by
    rintro neighbor inWanted delete inDeletes ⟨endpointId, reaches, reaches'⟩ sameVrf sameAddress
    have apart := (consistent endpointId (endpoint_of_reaches validated reaches)).bgpNeighbors
    refine apart _
      ((mem_normalized_deleteBgpNeighbors validated).mpr ⟨delete, inDeletes, reaches', rfl⟩)
      ((mem_normalized_bgpNeighbors validated).mpr ⟨neighbor, inWanted, reaches, ?_⟩)
    rw [sameVrf, sameAddress]
  bgpNeighborVrfs := by
    rintro neighbor inWanted delete inDeletes ⟨endpointId, reaches, reaches'⟩ same
    have keeps := (consistent endpointId (endpoint_of_reaches validated reaches)).keepsNoDeletedVrf
    rcases exists_normalized_bgpNeighbor validated inWanted reaches with ⟨key, kept, found, sameVrf⟩
    refine keeps key kept found ?_
    rw [sameVrf, same]
    exact mem_normalized_deleteBgpProcessVrfs.mpr ⟨delete, inDeletes, reaches', rfl⟩

end Contradictions

/-- The plan of an accepted intent is free of contradictions exactly when the intent keeps upserts
and deletes of each endpoint apart. -/
theorem plan_consistent_iff (intent : UnderlayDomainIntent)
    (accepted : validateUnderlayDomainIntent intent = .ok ()) :
    (∃ plan, planUnderlayDomain intent = .ok plan ∧
        ∀ state ∈ plan, (normalizeDesiredState state).Consistent) ↔
      intent.KeepsApart := by
  have validated := validated_of_accepted accepted
  rcases planUnderlayDomain_spec validated accepted with ⟨endpointIds, -, sameIds, planned⟩
  constructor
  · rintro ⟨plan, isPlan, consistent⟩
    rw [planned, Except.ok.injEq] at isPlan
    apply UnderlayDomainIntent.KeepsApart.of_consistent validated
    intro endpointId isEndpoint
    apply consistent
    rw [← isPlan]
    exact List.mem_map_of_mem (sameIds.mem_iff.mpr isEndpoint)
  · intro apart
    refine ⟨_, planned, ?_⟩
    intro state isState
    rcases List.mem_map.mp isState with ⟨endpointId, -, rfl⟩
    exact apart.consistent validated endpointId

/-- A stack with two members behind one endpoint. -/
def stackIntent : UnderlayDomainIntent where
  domainId := "domain-a"
  topology := .stackSingleManagementIp
  endpoints := [⟨"stack-mgmt", "192.0.2.1", 830, "secret", none, none⟩]
  members := [⟨"member-a", none, "stack-mgmt"⟩, ⟨"member-b", none, "stack-mgmt"⟩]
  vlans := [⟨100, none, none⟩, ⟨200, none, none⟩]
  interfaces := [⟨"member-a", "GE1/0/1", .up, none, .access 100⟩]

/-- The stack, with a delete of the same port in its long spelling. -/
def aliasDeleteIntent : UnderlayDomainIntent :=
  { stackIntent with deleteInterfaces := [⟨"member-a", "GigabitEthernet1/0/1"⟩] }

theorem plan_consistent_iff_stackIntent :
    validateUnderlayDomainIntent stackIntent = .ok () ∧
      ∃ plan, planUnderlayDomain stackIntent = .ok plan ∧
        ∀ state ∈ plan, (normalizeDesiredState state).Consistent := by
  have accepted : validateUnderlayDomainIntent stackIntent = .ok () := by decide +kernel
  have apart : stackIntent.KeepsApart := by
    constructor <;> simp [stackIntent]
  exact ⟨accepted, (plan_consistent_iff stackIntent accepted).mpr apart⟩

theorem not_consistent_aliasDeleteIntent :
    validateUnderlayDomainIntent aliasDeleteIntent = .ok () ∧
      ∃ plan, planUnderlayDomain aliasDeleteIntent = .ok plan ∧
        ¬∀ state ∈ plan, (normalizeDesiredState state).Consistent := by
  refine ⟨by decide +kernel, ?_⟩
  have evaluated : (match planUnderlayDomain aliasDeleteIntent with
      | .ok plan => decide (¬∀ state ∈ plan, (normalizeDesiredState state).Consistent)
      | .error _ => false) = true := by decide +kernel
  revert evaluated
  generalize planUnderlayDomain aliasDeleteIntent = outcome
  cases outcome with
  | error error => simp
  | ok plan =>
      intro evaluated
      exact ⟨plan, rfl, of_decide_eq_true evaluated⟩

/-! ## Losses -/

/-- A normalized state carries every object that the intent has for its endpoint. -/
structure UnderlayDomainIntent.CarriedBy (intent : UnderlayDomainIntent)
    (state : DeviceDesiredState) : Prop where
  vlans : ∀ vlan ∈ intent.vlans, state.vlans[vlan.vlanId]? = some vlan.config.normalize
  acls : ∀ acl ∈ intent.acls, state.acls[acl.aclId]? = some acl.config.normalize
  deleteVlanIds : ∀ vlanId ∈ intent.deleteVlanIds, vlanId ∈ state.deleteVlanIds
  deleteAclIds : ∀ aclId ∈ intent.deleteAclIds, aclId ∈ state.deleteAclIds
  interfaces : ∀ interface ∈ intent.interfaces,
    intent.Reaches state.deviceId interface.deviceId →
      state.interfaces[canonicalInterfaceName interface.name]? = some interface.config.normalize
  deleteInterfaces : ∀ delete ∈ intent.deleteInterfaces,
    intent.Reaches state.deviceId delete.deviceId →
      canonicalInterfaceName delete.name ∈ state.deleteInterfaceNames
  aclBindings : ∀ binding ∈ intent.aclBindings,
    intent.Reaches state.deviceId binding.deviceId →
      state.aclBindings[binding.config.normalize.key]? = some binding.config.normalize
  deleteAclBindings : ∀ delete ∈ intent.deleteAclBindings,
    intent.Reaches state.deviceId delete.deviceId →
      state.deleteAclBindings[delete.config.normalize.key]? = some delete.config.normalize
  bgpProcesses : ∀ process ∈ intent.bgpProcesses,
    intent.Reaches state.deviceId process.deviceId →
      state.bgpProcesses[trim process.vrf]? = some process.config.normalize
  bgpNeighbors : ∀ neighbor ∈ intent.bgpNeighbors,
    intent.Reaches state.deviceId neighbor.deviceId →
      state.bgpNeighbors[neighbor.config.normalize.key]? = some neighbor.config.normalize
  deleteBgpProcesses : ∀ delete ∈ intent.deleteBgpProcesses,
    intent.Reaches state.deviceId delete.deviceId →
      trim delete.vrf ∈ state.deleteBgpProcessVrfs
  deleteBgpNeighbors : ∀ delete ∈ intent.deleteBgpNeighbors,
    intent.Reaches state.deviceId delete.deviceId →
      state.deleteBgpNeighbors[delete.config.normalize.key]? = some delete.config.normalize

/-- Every object of a normalized state comes from the intent, from a member of its endpoint where
the object belongs to one. -/
structure UnderlayDomainIntent.Covers (intent : UnderlayDomainIntent)
    (state : DeviceDesiredState) : Prop where
  vlans : ∀ (key : UInt16) (vlan : VlanConfig), state.vlans[key]? = some vlan →
    ∃ original ∈ intent.vlans, vlan = original.config.normalize
  acls : ∀ (key : UInt16) (acl : AclConfig), state.acls[key]? = some acl →
    ∃ original ∈ intent.acls, acl = original.config.normalize
  deleteVlanIds : ∀ vlanId ∈ state.deleteVlanIds, vlanId ∈ intent.deleteVlanIds
  deleteAclIds : ∀ aclId ∈ state.deleteAclIds, aclId ∈ intent.deleteAclIds
  interfaces : ∀ (key : String) (interface : InterfaceConfig),
    state.interfaces[key]? = some interface →
      ∃ original ∈ intent.interfaces, intent.Reaches state.deviceId original.deviceId ∧
        interface = original.config.normalize
  deleteInterfaces : ∀ name ∈ state.deleteInterfaceNames,
    ∃ original ∈ intent.deleteInterfaces, intent.Reaches state.deviceId original.deviceId ∧
      canonicalInterfaceName original.name = name
  aclBindings : ∀ (key : String) (binding : AclBinding),
    state.aclBindings[key]? = some binding →
      ∃ original ∈ intent.aclBindings, intent.Reaches state.deviceId original.deviceId ∧
        binding = original.config.normalize
  deleteAclBindings : ∀ (key : String) (delete : AclBinding),
    state.deleteAclBindings[key]? = some delete →
      ∃ original ∈ intent.deleteAclBindings, intent.Reaches state.deviceId original.deviceId ∧
        delete = original.config.normalize
  bgpProcesses : ∀ (key : String) (process : BgpProcess),
    state.bgpProcesses[key]? = some process →
      ∃ original ∈ intent.bgpProcesses, intent.Reaches state.deviceId original.deviceId ∧
        process = original.config.normalize
  bgpNeighbors : ∀ (key : String) (neighbor : BgpNeighbor),
    state.bgpNeighbors[key]? = some neighbor →
      ∃ original ∈ intent.bgpNeighbors, intent.Reaches state.deviceId original.deviceId ∧
        neighbor = original.config.normalize
  deleteBgpProcesses : ∀ vrf ∈ state.deleteBgpProcessVrfs,
    ∃ original ∈ intent.deleteBgpProcesses, intent.Reaches state.deviceId original.deviceId ∧
      trim original.vrf = vrf
  deleteBgpNeighbors : ∀ (key : String) (delete : BgpNeighbor),
    state.deleteBgpNeighbors[key]? = some delete →
      ∃ original ∈ intent.deleteBgpNeighbors, intent.Reaches state.deviceId original.deviceId ∧
        delete = original.config.normalize
  routePolicyRefs : state.routePolicyRefs = ∅

/-- One state per endpoint, each with exactly the objects that the intent has for it. -/
structure UnderlayDomainIntent.PlannedBy (intent : UnderlayDomainIntent)
    (plan : List DeviceDesiredState) : Prop where
  endpoints : (plan.map DeviceDesiredState.deviceId).Perm
    (intent.endpoints.map ManagementEndpointIntent.endpointId)
  distinct : (plan.map DeviceDesiredState.deviceId).Nodup
  carried : ∀ state ∈ plan, intent.CarriedBy (normalizeDesiredState state)
  covered : ∀ state ∈ plan, intent.Covers (normalizeDesiredState state)

/-- Objects of one endpoint that are spelled differently, or given for two members, but have one
canonical key, have the same content. -/
structure UnderlayDomainIntent.Agrees (intent : UnderlayDomainIntent) : Prop where
  interfaces : ∀ left ∈ intent.interfaces, ∀ right ∈ intent.interfaces,
    intent.ShareEndpoint left.deviceId right.deviceId →
      canonicalInterfaceName left.name = canonicalInterfaceName right.name →
        left.adminState = right.adminState ∧
          normalizeText left.description = normalizeText right.description ∧
            left.mode.normalize = right.mode.normalize
  aclBindings : ∀ left ∈ intent.aclBindings, ∀ right ∈ intent.aclBindings,
    intent.ShareEndpoint left.deviceId right.deviceId →
      canonicalInterfaceName left.interfaceName = canonicalInterfaceName right.interfaceName →
        left.direction = right.direction → left.aclId = right.aclId
  deleteAclBindings : ∀ left ∈ intent.deleteAclBindings, ∀ right ∈ intent.deleteAclBindings,
    intent.ShareEndpoint left.deviceId right.deviceId →
      canonicalInterfaceName left.interfaceName = canonicalInterfaceName right.interfaceName →
        left.direction = right.direction → left.aclId = right.aclId
  bgpProcesses : ∀ left ∈ intent.bgpProcesses, ∀ right ∈ intent.bgpProcesses,
    intent.ShareEndpoint left.deviceId right.deviceId → trim left.vrf = trim right.vrf →
      left.localAs = right.localAs ∧ normalizeText left.routerId = normalizeText right.routerId
  bgpNeighbors : ∀ left ∈ intent.bgpNeighbors, ∀ right ∈ intent.bgpNeighbors,
    intent.ShareEndpoint left.deviceId right.deviceId → trim left.vrf = trim right.vrf →
      trim left.address = trim right.address →
        left.remoteAs = right.remoteAs ∧
          normalizeText left.description = normalizeText right.description ∧
            normalizeText left.importPolicy = normalizeText right.importPolicy ∧
              normalizeText left.exportPolicy = normalizeText right.exportPolicy

theorem exists_reached_of_found {Object Config : Type} {intent : UnderlayDomainIntent}
    {owner : Object → DeviceId} {objects : List Object} {config : Object → Config}
    {raw key : Config → String} {normalize : Config → Config} {index : String} {value : Config}
    (found : (rekey key normalize
      (gather raw ((intent.reached endpointId owner objects).map config)))[index]? = some value) :
    ∃ original ∈ objects,
      intent.Reaches endpointId (owner original) ∧ value = normalize (config original) := by
  rcases mem_of_getElem?_rekey_gather found with ⟨stored, isMember, rfl, -⟩
  rcases List.mem_map.mp isMember with ⟨original, isReached, rfl⟩
  rcases mem_reached.mp isReached with ⟨inObjects, reaches⟩
  exact ⟨original, inObjects, reaches, rfl⟩

theorem covers_plannedState (intent : UnderlayDomainIntent) (endpointId : DeviceId) :
    intent.Covers (normalizeDesiredState (intent.plannedState endpointId)) where
  vlans := by
    intro key vlan found
    rcases mem_of_getElem?_rekey_gather found with ⟨original, isMember, rfl, -⟩
    rcases List.mem_map.mp isMember with ⟨vlanIntent, inIntent, rfl⟩
    exact ⟨vlanIntent, inIntent, rfl⟩
  acls := by
    intro key acl found
    rcases mem_of_getElem?_rekey_gather found with ⟨original, isMember, rfl, -⟩
    rcases List.mem_map.mp isMember with ⟨aclIntent, inIntent, rfl⟩
    exact ⟨aclIntent, inIntent, rfl⟩
  deleteVlanIds := fun _ => mem_normalized_deleteVlanIds.mp
  deleteAclIds := fun _ => mem_normalized_deleteAclIds.mp
  interfaces := fun _ _ => exists_reached_of_found
  deleteInterfaces := fun _ => mem_normalized_deleteInterfaceNames.mp
  aclBindings := fun _ _ => exists_reached_of_found
  deleteAclBindings := fun _ _ => exists_reached_of_found
  bgpProcesses := fun _ _ => exists_reached_of_found
  bgpNeighbors := fun _ _ => exists_reached_of_found
  deleteBgpProcesses := fun _ => mem_normalized_deleteBgpProcessVrfs.mp
  deleteBgpNeighbors := fun _ _ => exists_reached_of_found
  routePolicyRefs := by
    simp [normalizeDesiredState, UnderlayDomainIntent.plannedState]

/-- The objects of one kind all survive exactly when those with one normalized key agree. -/
theorem reached_complete_iff {Object Config : Type} {intent : UnderlayDomainIntent}
    {owner : Object → DeviceId} {objects : List Object} {config : Object → Config}
    {raw key : Config → String} {normalize : Config → Config}
    (determined : ∀ left ∈ (intent.reached endpointId owner objects).map config,
      ∀ right ∈ (intent.reached endpointId owner objects).map config,
        raw left = raw right → key (normalize left) = key (normalize right)) :
    (∀ object ∈ objects, intent.Reaches endpointId (owner object) →
        (rekey key normalize (gather raw
            ((intent.reached endpointId owner objects).map config)))[
              key (normalize (config object))]? =
          some (normalize (config object))) ↔
      ∀ left ∈ objects, ∀ right ∈ objects,
        intent.Reaches endpointId (owner left) → intent.Reaches endpointId (owner right) →
          key (normalize (config left)) = key (normalize (config right)) →
            normalize (config left) = normalize (config right) := by
  have complete := rekey_gather_complete_iff determined
  simp only [List.forall_mem_map, mem_reached, and_imp] at complete
  rw [complete]
  constructor
  · intro agree left inLeft right inRight leftReached rightReached
    exact agree left inLeft leftReached right inRight rightReached
  · intro agree left inLeft leftReached right inRight rightReached
    exact agree left inLeft right inRight leftReached rightReached

section NormalForms

theorem InterfaceIntent.normalize_config (interface : InterfaceIntent) :
    interface.config.normalize =
      { name := canonicalInterfaceName interface.name
        adminState := interface.adminState
        description := normalizeText interface.description
        mode := interface.mode.normalize } := rfl

theorem AclBindingIntent.normalize_config (binding : AclBindingIntent) :
    binding.config.normalize =
      { interfaceName := canonicalInterfaceName binding.interfaceName
        direction := binding.direction
        aclId := binding.aclId } := rfl

theorem BgpProcessIntent.normalize_config (process : BgpProcessIntent) :
    process.config.normalize =
      { vrf := trim process.vrf
        localAs := process.localAs
        routerId := normalizeText process.routerId } := rfl

theorem BgpNeighborIntent.normalize_config (neighbor : BgpNeighborIntent) :
    neighbor.config.normalize =
      { vrf := trim neighbor.vrf
        address := trim neighbor.address
        remoteAs := neighbor.remoteAs
        description := normalizeText neighbor.description
        importPolicy := normalizeText neighbor.importPolicy
        exportPolicy := normalizeText neighbor.exportPolicy } := rfl

theorem BgpNeighborDeleteIntent.normalize_config (delete : BgpNeighborDeleteIntent) :
    delete.config.normalize =
      { vrf := trim delete.vrf
        address := trim delete.address
        remoteAs := 0
        description := none
        importPolicy := none
        exportPolicy := none } := rfl

end NormalForms

section Losses

variable {intent : UnderlayDomainIntent}

theorem interfaces_carried_iff :
    (∀ interface ∈ intent.interfaces, intent.Reaches endpointId interface.deviceId →
        (normalizeDesiredState (intent.plannedState endpointId)).interfaces[
            canonicalInterfaceName interface.name]? = some interface.config.normalize) ↔
      ∀ left ∈ intent.interfaces, ∀ right ∈ intent.interfaces,
        intent.Reaches endpointId left.deviceId → intent.Reaches endpointId right.deviceId →
          canonicalInterfaceName left.name = canonicalInterfaceName right.name →
            left.adminState = right.adminState ∧
              normalizeText left.description = normalizeText right.description ∧
                left.mode.normalize = right.mode.normalize := by
  have stored : (normalizeDesiredState (intent.plannedState endpointId)).interfaces =
      rekey InterfaceConfig.name InterfaceConfig.normalize (gather InterfaceConfig.name
        ((intent.reached endpointId InterfaceIntent.deviceId intent.interfaces).map
          InterfaceIntent.config)) := rfl
  have complete := reached_complete_iff (interfaces_determined
    ((intent.reached endpointId InterfaceIntent.deviceId intent.interfaces).map
      InterfaceIntent.config))
  rw [← stored] at complete
  simp only [InterfaceIntent.normalize_config, InterfaceConfig.mk.injEq] at complete ⊢
  rw [complete]
  grind

-- the bindings to set and the bindings to delete are kept in the same way
theorem bindings_carried_iff {bindings : List AclBindingIntent} :
    (∀ binding ∈ bindings, intent.Reaches endpointId binding.deviceId →
        (rekey AclBinding.key AclBinding.normalize (gather AclBinding.key
            ((intent.reached endpointId AclBindingIntent.deviceId bindings).map
              AclBindingIntent.config)))[binding.config.normalize.key]? =
          some binding.config.normalize) ↔
      ∀ left ∈ bindings, ∀ right ∈ bindings,
        intent.Reaches endpointId left.deviceId → intent.Reaches endpointId right.deviceId →
          canonicalInterfaceName left.interfaceName = canonicalInterfaceName right.interfaceName →
            left.direction = right.direction → left.aclId = right.aclId := by
  rw [reached_complete_iff (aclBindings_determined _)]
  simp only [AclBindingIntent.normalize_config, AclBinding.mk.injEq, AclBinding.key]
  constructor
  · intro agree left inLeft right inRight leftReached rightReached sameName sameDirection
    have sameKey := congrArg₂ aclBindingKey sameName sameDirection
    exact (agree left inLeft right inRight leftReached rightReached sameKey).2.2
  · intro agree left inLeft right inRight leftReached rightReached sameKey
    rcases aclBindingKey_inj sameKey with ⟨sameName, sameDirection⟩
    exact ⟨sameName, sameDirection,
      agree left inLeft right inRight leftReached rightReached sameName sameDirection⟩

theorem bgpProcesses_carried_iff :
    (∀ process ∈ intent.bgpProcesses, intent.Reaches endpointId process.deviceId →
        (normalizeDesiredState (intent.plannedState endpointId)).bgpProcesses[
            trim process.vrf]? = some process.config.normalize) ↔
      ∀ left ∈ intent.bgpProcesses, ∀ right ∈ intent.bgpProcesses,
        intent.Reaches endpointId left.deviceId → intent.Reaches endpointId right.deviceId →
          trim left.vrf = trim right.vrf →
            left.localAs = right.localAs ∧
              normalizeText left.routerId = normalizeText right.routerId := by
  have stored : (normalizeDesiredState (intent.plannedState endpointId)).bgpProcesses =
      rekey BgpProcess.vrf BgpProcess.normalize (gather BgpProcess.vrf
        ((intent.reached endpointId BgpProcessIntent.deviceId intent.bgpProcesses).map
          BgpProcessIntent.config)) := rfl
  have complete := reached_complete_iff (bgpProcesses_determined
    ((intent.reached endpointId BgpProcessIntent.deviceId intent.bgpProcesses).map
      BgpProcessIntent.config))
  rw [← stored] at complete
  simp only [BgpProcessIntent.normalize_config, BgpProcess.mk.injEq] at complete ⊢
  rw [complete]
  grind

variable (validated : intent.Validated)

include validated

theorem bgpNeighbors_carried_iff :
    (∀ neighbor ∈ intent.bgpNeighbors, intent.Reaches endpointId neighbor.deviceId →
        (normalizeDesiredState (intent.plannedState endpointId)).bgpNeighbors[
            neighbor.config.normalize.key]? = some neighbor.config.normalize) ↔
      ∀ left ∈ intent.bgpNeighbors, ∀ right ∈ intent.bgpNeighbors,
        intent.Reaches endpointId left.deviceId → intent.Reaches endpointId right.deviceId →
          trim left.vrf = trim right.vrf → trim left.address = trim right.address →
            left.remoteAs = right.remoteAs ∧
              normalizeText left.description = normalizeText right.description ∧
                normalizeText left.importPolicy = normalizeText right.importPolicy ∧
                  normalizeText left.exportPolicy = normalizeText right.exportPolicy := by
  have stored : (normalizeDesiredState (intent.plannedState endpointId)).bgpNeighbors =
      rekey BgpNeighbor.key BgpNeighbor.normalize (gather BgpNeighbor.key
        ((intent.reached endpointId BgpNeighborIntent.deviceId intent.bgpNeighbors).map
          BgpNeighborIntent.config)) := rfl
  rw [stored, reached_complete_iff
    (bgpNeighbors_determined (reached_bgpNeighbors_address validated))]
  simp only [BgpNeighborIntent.normalize_config, BgpNeighbor.mk.injEq, BgpNeighbor.key]
  constructor
  · intro agree left inLeft right inRight leftReached rightReached sameVrf sameAddress
    have sameKey := congrArg₂ bgpNeighborKey sameVrf sameAddress
    exact (agree left inLeft right inRight leftReached rightReached sameKey).2.2
  · intro agree left inLeft right inRight leftReached rightReached sameKey
    rcases bgpNeighborKey_inj
      (not_bar_mem_of_isIpv4 (validated.bgpNeighborAddress left inLeft))
      (not_bar_mem_of_isIpv4 (validated.bgpNeighborAddress right inRight)) sameKey with
      ⟨sameVrf, sameAddress⟩
    exact ⟨sameVrf, sameAddress,
      agree left inLeft right inRight leftReached rightReached sameVrf sameAddress⟩

theorem deleteBgpNeighbors_carried :
    ∀ delete ∈ intent.deleteBgpNeighbors, intent.Reaches endpointId delete.deviceId →
      (normalizeDesiredState (intent.plannedState endpointId)).deleteBgpNeighbors[
          delete.config.normalize.key]? = some delete.config.normalize := by
  have stored : (normalizeDesiredState (intent.plannedState endpointId)).deleteBgpNeighbors =
      rekey BgpNeighbor.key BgpNeighbor.normalize (gather BgpNeighbor.key
        ((intent.reached endpointId BgpNeighborDeleteIntent.deviceId
          intent.deleteBgpNeighbors).map BgpNeighborDeleteIntent.config)) := rfl
  rw [stored, reached_complete_iff
    (bgpNeighbors_determined (reached_deleteBgpNeighbors_address validated))]
  intro left inLeft right inRight leftReached rightReached sameKey
  rcases bgpNeighborKey_inj
    (not_bar_mem_of_isIpv4 (validated.bgpNeighborDeleteAddress left inLeft))
    (not_bar_mem_of_isIpv4 (validated.bgpNeighborDeleteAddress right inRight)) sameKey with
    ⟨sameVrf, sameAddress⟩
  simp only [BgpNeighborDeleteIntent.config, BgpNeighbor.normalize] at sameVrf sameAddress
  simp only [BgpNeighborDeleteIntent.normalize_config, sameVrf, sameAddress]

theorem vlans_carried :
    ∀ vlan ∈ intent.vlans,
      (normalizeDesiredState (intent.plannedState endpointId)).vlans[vlan.vlanId]? =
        some vlan.config.normalize := by
  have complete := (rekey_gather_complete_iff
    (vlans_determined (intent.vlans.map VlanIntent.config))).mpr
  simp only [List.forall_mem_map] at complete
  apply complete
  intro left inLeft right inRight sameId
  rw [List.inj_on_of_nodup_map validated.vlansDistinct inLeft inRight sameId]

theorem acls_carried :
    ∀ acl ∈ intent.acls,
      (normalizeDesiredState (intent.plannedState endpointId)).acls[acl.aclId]? =
        some acl.config.normalize := by
  have complete := (rekey_gather_complete_iff
    (acls_determined (intent.acls.map AclIntent.config))).mpr
  simp only [List.forall_mem_map] at complete
  apply complete
  intro left inLeft right inRight sameId
  rw [List.inj_on_of_nodup_map validated.aclsDistinct inLeft inRight sameId]

theorem UnderlayDomainIntent.Agrees.carriedBy (agrees : intent.Agrees) (endpointId : DeviceId) :
    intent.CarriedBy (normalizeDesiredState (intent.plannedState endpointId)) where
  vlans := vlans_carried validated
  acls := acls_carried validated
  deleteVlanIds := fun _ => mem_normalized_deleteVlanIds.mpr
  deleteAclIds := fun _ => mem_normalized_deleteAclIds.mpr
  interfaces := interfaces_carried_iff.mpr fun left inLeft right inRight leftReached rightReached =>
    agrees.interfaces left inLeft right inRight ⟨endpointId, leftReached, rightReached⟩
  deleteInterfaces := fun delete inDeletes reaches =>
    mem_normalized_deleteInterfaceNames.mpr ⟨delete, inDeletes, reaches, rfl⟩
  aclBindings := bindings_carried_iff.mpr fun left inLeft right inRight leftReached rightReached =>
    agrees.aclBindings left inLeft right inRight ⟨endpointId, leftReached, rightReached⟩
  deleteAclBindings :=
    bindings_carried_iff.mpr fun left inLeft right inRight leftReached rightReached =>
      agrees.deleteAclBindings left inLeft right inRight ⟨endpointId, leftReached, rightReached⟩
  bgpProcesses :=
    bgpProcesses_carried_iff.mpr fun left inLeft right inRight leftReached rightReached =>
      agrees.bgpProcesses left inLeft right inRight ⟨endpointId, leftReached, rightReached⟩
  bgpNeighbors :=
    (bgpNeighbors_carried_iff validated).mpr
      fun left inLeft right inRight leftReached rightReached =>
        agrees.bgpNeighbors left inLeft right inRight ⟨endpointId, leftReached, rightReached⟩
  deleteBgpProcesses := fun delete inDeletes reaches =>
    mem_normalized_deleteBgpProcessVrfs.mpr ⟨delete, inDeletes, reaches, rfl⟩
  deleteBgpNeighbors := deleteBgpNeighbors_carried validated

theorem UnderlayDomainIntent.Agrees.of_carriedBy
    (carried : ∀ endpointId ∈ intent.endpoints.map ManagementEndpointIntent.endpointId,
      intent.CarriedBy (normalizeDesiredState (intent.plannedState endpointId))) :
    intent.Agrees where
  interfaces := by
    rintro left inLeft right inRight ⟨endpointId, leftReached, rightReached⟩
    have complete := (carried endpointId (endpoint_of_reaches validated leftReached)).interfaces
    exact interfaces_carried_iff.mp complete left inLeft right inRight leftReached rightReached
  aclBindings := by
    rintro left inLeft right inRight ⟨endpointId, leftReached, rightReached⟩
    have complete := (carried endpointId (endpoint_of_reaches validated leftReached)).aclBindings
    exact bindings_carried_iff.mp complete left inLeft right inRight leftReached rightReached
  deleteAclBindings := by
    rintro left inLeft right inRight ⟨endpointId, leftReached, rightReached⟩
    have complete :=
      (carried endpointId (endpoint_of_reaches validated leftReached)).deleteAclBindings
    exact bindings_carried_iff.mp complete left inLeft right inRight leftReached rightReached
  bgpProcesses := by
    rintro left inLeft right inRight ⟨endpointId, leftReached, rightReached⟩
    have complete := (carried endpointId (endpoint_of_reaches validated leftReached)).bgpProcesses
    exact bgpProcesses_carried_iff.mp complete left inLeft right inRight leftReached rightReached
  bgpNeighbors := by
    rintro left inLeft right inRight ⟨endpointId, leftReached, rightReached⟩
    have complete := (carried endpointId (endpoint_of_reaches validated leftReached)).bgpNeighbors
    exact (bgpNeighbors_carried_iff validated).mp complete left inLeft right inRight leftReached
      rightReached

end Losses

/-- Planning an accepted intent loses nothing exactly when the objects that it folds into one
agree. -/
theorem plan_complete_iff (intent : UnderlayDomainIntent)
    (accepted : validateUnderlayDomainIntent intent = .ok ()) :
    (∃ plan, planUnderlayDomain intent = .ok plan ∧ intent.PlannedBy plan) ↔ intent.Agrees := by
  have validated := validated_of_accepted accepted
  rcases planUnderlayDomain_spec validated accepted with ⟨endpointIds, -, sameIds, planned⟩
  constructor
  · rintro ⟨plan, isPlan, complete⟩
    rw [planned, Except.ok.injEq] at isPlan
    apply UnderlayDomainIntent.Agrees.of_carriedBy validated
    intro endpointId isEndpoint
    apply complete.carried
    rw [← isPlan]
    exact List.mem_map_of_mem (sameIds.mem_iff.mpr isEndpoint)
  · intro agrees
    have ownIds : (endpointIds.map intent.plannedState).map DeviceDesiredState.deviceId =
        endpointIds := by
      rw [List.map_map]
      exact List.map_id endpointIds
    refine ⟨_, planned, ⟨?_, ?_, ?_, ?_⟩⟩
    · rw [ownIds]
      exact sameIds
    · rw [ownIds, sameIds.nodup_iff]
      exact validated.endpointsDistinct
    · intro state isState
      rcases List.mem_map.mp isState with ⟨endpointId, -, rfl⟩
      exact agrees.carriedBy validated endpointId
    · intro state isState
      rcases List.mem_map.mp isState with ⟨endpointId, -, rfl⟩
      exact covers_plannedState intent endpointId

/-- The stack, with the same port asked for twice in different VLANs, once per member. -/
def sharedPortIntent : UnderlayDomainIntent :=
  { stackIntent with
    interfaces := [⟨"member-a", "GE1/0/1", .up, none, .access 100⟩,
      ⟨"member-b", "GE1/0/1", .up, none, .access 200⟩] }

theorem plan_complete_iff_stackIntent :
    validateUnderlayDomainIntent stackIntent = .ok () ∧
      ∃ plan, planUnderlayDomain stackIntent = .ok plan ∧ stackIntent.PlannedBy plan := by
  have accepted : validateUnderlayDomainIntent stackIntent = .ok () := by decide +kernel
  have agrees : stackIntent.Agrees := by
    constructor <;> simp [stackIntent]
  exact ⟨accepted, (plan_complete_iff stackIntent accepted).mpr agrees⟩

/-- Only the last of the two requests for the port is left, so one of them is lost. -/
theorem not_plannedBy_sharedPortIntent :
    validateUnderlayDomainIntent sharedPortIntent = .ok () ∧
      ∃ plan, planUnderlayDomain sharedPortIntent = .ok plan ∧
        ¬sharedPortIntent.PlannedBy plan := by
  refine ⟨by decide +kernel, ?_⟩
  have evaluated : (match planUnderlayDomain sharedPortIntent with
      | .ok plan => decide (∃ state ∈ plan,
          (normalizeDesiredState state).deviceId = "stack-mgmt" ∧
            (normalizeDesiredState state).interfaces[canonicalInterfaceName "GE1/0/1"]? ≠
              some (InterfaceIntent.config
                ⟨"member-a", "GE1/0/1", .up, none, .access 100⟩).normalize)
      | .error _ => false) = true := by decide +kernel
  revert evaluated
  generalize planUnderlayDomain sharedPortIntent = outcome
  cases outcome with
  | error error => simp
  | ok plan =>
      intro evaluated
      rcases of_decide_eq_true evaluated with ⟨state, isState, isStack, lost⟩
      refine ⟨plan, rfl, fun complete => lost ?_⟩
      apply (complete.carried state isState).interfaces _ List.mem_cons_self
      rw [isStack]
      decide +kernel

end AriaUnderlay
