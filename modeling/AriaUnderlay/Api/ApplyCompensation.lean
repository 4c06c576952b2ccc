import AriaUnderlay.Planner.DomainPlan

/-!
# Retrying failed endpoints

A retry restricts the original intent to the endpoints that failed: to their members and to the
objects of these members.  Restricting and planning commute, so a retry asks of each selected
endpoint what the original request asked of it.
-/

namespace AriaUnderlay

open Collections

def filterDomainIntentToEndpoints (intent : UnderlayDomainIntent)
    (endpointIds : List DeviceId) : Except UnderlayError UnderlayDomainIntent := do
  invalidIf (endpointIds = []) "retry endpoint list must not be empty"
  let selectedEndpoints : BTreeSet String := .ofList endpointIds
  let existingEndpoints := intent.endpoints.map ManagementEndpointIntent.endpointId
  selectedEndpoints.toList.forM fun endpointId =>
    invalidIf (endpointId ∉ existingEndpoints)
      ("endpoint " ++ endpointId ++ " does not exist in original domain intent")
  let endpoints := intent.endpoints.filter (·.endpointId ∈ selectedEndpoints)
  let members := intent.members.filter (·.managementEndpointId ∈ selectedEndpoints)
  let selectedMembers := members.map SwitchMemberIntent.memberId
  return {
    domainId := intent.domainId
    topology := if endpoints.length = 1 then .stackSingleManagementIp else intent.topology
    endpoints := endpoints
    members := members
    vlans := intent.vlans
    interfaces := intent.interfaces.filter (·.deviceId ∈ selectedMembers)
    acls := intent.acls
    aclBindings := intent.aclBindings.filter (·.deviceId ∈ selectedMembers)
    deleteVlanIds := intent.deleteVlanIds
    deleteInterfaces := intent.deleteInterfaces.filter (·.deviceId ∈ selectedMembers)
    deleteAclIds := intent.deleteAclIds
    deleteAclBindings := intent.deleteAclBindings.filter (·.deviceId ∈ selectedMembers)
    bgpProcesses := intent.bgpProcesses.filter (·.deviceId ∈ selectedMembers)
    bgpNeighbors := intent.bgpNeighbors.filter (·.deviceId ∈ selectedMembers)
    deleteBgpProcesses := intent.deleteBgpProcesses.filter (·.deviceId ∈ selectedMembers)
    deleteBgpNeighbors := intent.deleteBgpNeighbors.filter (·.deviceId ∈ selectedMembers) }

/-- What the restriction to known endpoints leaves of an intent. -/
def UnderlayDomainIntent.restrictTo (intent : UnderlayDomainIntent)
    (endpointIds : List DeviceId) : UnderlayDomainIntent :=
  let endpoints := intent.endpoints.filter (·.endpointId ∈ endpointIds)
  let members := intent.members.filter (·.managementEndpointId ∈ endpointIds)
  let kept : DeviceId → Bool := fun deviceId => deviceId ∈ members.map SwitchMemberIntent.memberId
  { intent with
    topology := if endpoints.length = 1 then .stackSingleManagementIp else intent.topology
    endpoints := endpoints
    members := members
    interfaces := intent.interfaces.filter (kept ·.deviceId)
    aclBindings := intent.aclBindings.filter (kept ·.deviceId)
    deleteInterfaces := intent.deleteInterfaces.filter (kept ·.deviceId)
    deleteAclBindings := intent.deleteAclBindings.filter (kept ·.deviceId)
    bgpProcesses := intent.bgpProcesses.filter (kept ·.deviceId)
    bgpNeighbors := intent.bgpNeighbors.filter (kept ·.deviceId)
    deleteBgpProcesses := intent.deleteBgpProcesses.filter (kept ·.deviceId)
    deleteBgpNeighbors := intent.deleteBgpNeighbors.filter (kept ·.deviceId) }

section Restriction

variable {intent : UnderlayDomainIntent} {endpointIds : List DeviceId}

theorem filterDomainIntentToEndpoints_eq (nonempty : endpointIds ≠ [])
    (known : ∀ endpointId ∈ endpointIds,
      endpointId ∈ intent.endpoints.map ManagementEndpointIntent.endpointId) :
    filterDomainIntentToEndpoints intent endpointIds = .ok (intent.restrictTo endpointIds) := by
  have notEmpty : invalidIf (endpointIds = []) "retry endpoint list must not be empty" = .ok () :=
    invalidIf_eq_ok.mpr nonempty
  have allKnown : (Std.ExtTreeSet.ofList endpointIds compare).toList.forM (fun endpointId =>
      invalidIf (endpointId ∉ intent.endpoints.map ManagementEndpointIntent.endpointId)
        ("endpoint " ++ endpointId ++ " does not exist in original domain intent")) = .ok () := by
    rw [forM_eq_ok]
    intro endpointId isSelected
    rw [Std.ExtTreeSet.mem_toList, Std.ExtTreeSet.mem_ofList, List.contains_iff_mem] at isSelected
    simpa using known endpointId isSelected
  simp only [filterDomainIntentToEndpoints, notEmpty, allKnown, bind, Except.bind, pure,
    Except.pure, UnderlayDomainIntent.restrictTo, Std.ExtTreeSet.mem_ofList,
    List.contains_iff_mem]

theorem reaches_restrictTo {endpointId deviceId : DeviceId} (selected : endpointId ∈ endpointIds) :
    (intent.restrictTo endpointIds).Reaches endpointId deviceId ↔
      intent.Reaches endpointId deviceId := by
  constructor
  · rintro ⟨member, isMember, sameId, sameEndpoint⟩
    exact ⟨member, (List.mem_filter.mp isMember).1, sameId, sameEndpoint⟩
  · rintro ⟨member, isMember, sameId, sameEndpoint⟩
    refine ⟨member, List.mem_filter.mpr ⟨isMember, ?_⟩, sameId, sameEndpoint⟩
    simpa [sameEndpoint] using selected

/-- Objects reached through a selected endpoint are all kept. -/
theorem reached_restrictTo {Object : Type} {endpointId : DeviceId}
    (selected : endpointId ∈ endpointIds) (owner : Object → DeviceId) (objects : List Object) :
    (intent.restrictTo endpointIds).reached endpointId owner
        (objects.filter fun object =>
          owner object ∈ (intent.restrictTo endpointIds).members.map SwitchMemberIntent.memberId) =
      intent.reached endpointId owner objects := by
  rw [UnderlayDomainIntent.reached, List.filter_filter, UnderlayDomainIntent.reached]
  apply List.filter_congr
  intro object _
  rw [Bool.eq_iff_iff, Bool.and_eq_true, decide_eq_true_eq, decide_eq_true_eq, decide_eq_true_eq,
    reaches_restrictTo selected]
  constructor
  · exact fun both => both.1
  · intro reaches
    refine ⟨reaches, ?_⟩
    rcases (reaches_restrictTo selected).mpr reaches with ⟨member, isMember, sameId, -⟩
    exact sameId ▸ List.mem_map_of_mem isMember

theorem plannedState_restrictTo {endpointId : DeviceId} (selected : endpointId ∈ endpointIds) :
    (intent.restrictTo endpointIds).plannedState endpointId = intent.plannedState endpointId := by
  rw [UnderlayDomainIntent.plannedState, UnderlayDomainIntent.plannedState,
    ← reached_restrictTo selected InterfaceIntent.deviceId intent.interfaces,
    ← reached_restrictTo selected InterfaceDeleteIntent.deviceId intent.deleteInterfaces,
    ← reached_restrictTo selected AclBindingIntent.deviceId intent.aclBindings,
    ← reached_restrictTo selected AclBindingIntent.deviceId intent.deleteAclBindings,
    ← reached_restrictTo selected BgpProcessIntent.deviceId intent.bgpProcesses,
    ← reached_restrictTo selected BgpNeighborIntent.deviceId intent.bgpNeighbors,
    ← reached_restrictTo selected BgpProcessDeleteIntent.deviceId intent.deleteBgpProcesses,
    ← reached_restrictTo selected BgpNeighborDeleteIntent.deviceId intent.deleteBgpNeighbors]
  rfl

end Restriction

/-- Two lists in strictly ascending order with the same members are equal. -/
theorem eq_of_sorted {left right : List DeviceId} (leftSorted : left.Pairwise (compare · · = .lt))
    (rightSorted : right.Pairwise (compare · · = .lt))
    (sameMembers : ∀ id, id ∈ left ↔ id ∈ right) :
    left = right := by
  have distinct : ∀ {ids : List DeviceId}, ids.Pairwise (compare · · = .lt) → ids.Nodup := by
    intro ids sorted
    refine sorted.imp fun below same => ?_
    rw [same, Std.ReflOrd.compare_self] at below
    cases below
  have perm := (List.perm_ext_iff_of_nodup (distinct leftSorted) (distinct rightSorted)).mpr
    sameMembers
  refine List.Perm.eq_of_pairwise (fun first second _ _ below above => ?_) leftSorted rightSorted
    perm
  rw [Std.OrientedOrd.eq_swap, above] at below
  cases below

/-- A retry plans, for the endpoints it selects, exactly what the original intent planned. -/
theorem planUnderlayDomain_filterDomainIntentToEndpoints (intent : UnderlayDomainIntent)
    (endpointIds : List DeviceId) (accepted : validateUnderlayDomainIntent intent = .ok ())
    (nonempty : endpointIds ≠ [])
    (known : ∀ endpointId ∈ endpointIds,
      endpointId ∈ intent.endpoints.map ManagementEndpointIntent.endpointId) :
    ∃ retry,
      filterDomainIntentToEndpoints intent endpointIds = .ok retry ∧
        (validateUnderlayDomainIntent retry = .ok () →
          ∃ plan, planUnderlayDomain intent = .ok plan ∧
            planUnderlayDomain retry =
              .ok (plan.filter fun state => state.deviceId ∈ endpointIds)) := by
  refine ⟨intent.restrictTo endpointIds, filterDomainIntentToEndpoints_eq nonempty known, ?_⟩
  intro retryAccepted
  rcases planUnderlayDomain_spec (validated_of_accepted accepted) accepted with
    ⟨ids, sorted, sameIds, planned⟩
  rcases planUnderlayDomain_spec (validated_of_accepted retryAccepted) retryAccepted with
    ⟨retryIds, retrySorted, sameRetryIds, retryPlanned⟩
  refine ⟨_, planned, ?_⟩
  have restricted : retryIds = ids.filter fun id => id ∈ endpointIds := by
    apply eq_of_sorted retrySorted (sorted.sublist List.filter_sublist)
    intro id
    rw [sameRetryIds.mem_iff, List.mem_filter, sameIds.mem_iff]
    simp only [UnderlayDomainIntent.restrictTo, List.mem_map, List.mem_filter, decide_eq_true_eq]
    constructor
    · rintro ⟨endpoint, ⟨isEndpoint, selected⟩, rfl⟩
      exact ⟨⟨endpoint, isEndpoint, rfl⟩, selected⟩
    · rintro ⟨⟨endpoint, isEndpoint, rfl⟩, selected⟩
      exact ⟨endpoint, ⟨isEndpoint, selected⟩, rfl⟩
  rw [retryPlanned, restricted, List.filter_map]
  refine congrArg Except.ok (List.map_congr_left ?_)
  intro id isSelected
  exact plannedState_restrictTo (by simpa using (List.mem_filter.mp isSelected).2)

/-- A pair of leaves with one port each. -/
def leafPairIntent : UnderlayDomainIntent where
  domainId := "domain-a"
  topology := .mlagDualManagementIp
  endpoints := [⟨"leaf-b-mgmt", "192.0.2.2", 830, "secret", none, none⟩,
    ⟨"leaf-a-mgmt", "192.0.2.1", 830, "secret", none, none⟩]
  members := [⟨"leaf-a", none, "leaf-a-mgmt"⟩, ⟨"leaf-b", none, "leaf-b-mgmt"⟩]
  vlans := [⟨100, none, none⟩]
  interfaces := [⟨"leaf-a", "GE1/0/1", .up, none, .access 100⟩,
    ⟨"leaf-b", "GE1/0/1", .down, none, .access 100⟩]

theorem planUnderlayDomain_filter_leafPairIntent :
    ∃ retry plan,
      filterDomainIntentToEndpoints leafPairIntent ["leaf-b-mgmt"] = .ok retry ∧
        validateUnderlayDomainIntent retry = .ok () ∧
          planUnderlayDomain leafPairIntent = .ok plan ∧
            planUnderlayDomain retry =
              .ok (plan.filter fun state => state.deviceId ∈ ["leaf-b-mgmt"]) := by
  rcases planUnderlayDomain_filterDomainIntentToEndpoints leafPairIntent ["leaf-b-mgmt"]
    (by decide +kernel) (by decide) (by decide) with ⟨retry, isRetry, equal⟩
  have retryAccepted : validateUnderlayDomainIntent retry = .ok () := by
    have isRestriction : retry = leafPairIntent.restrictTo ["leaf-b-mgmt"] := by
      rw [filterDomainIntentToEndpoints_eq (by decide) (by decide), Except.ok.injEq] at isRetry
      exact isRetry.symm
    rw [isRestriction]
    decide +kernel
  rcases equal retryAccepted with ⟨plan, planned, retryPlanned⟩
  exact ⟨retry, plan, isRetry, retryAccepted, planned, retryPlanned⟩

end AriaUnderlay
