import AriaUnderlay.Api.ApplyAgreement
import AriaUnderlay.Api.ApplyCompensation
import AriaUnderlay.Api.ApplyRecords
import AriaUnderlay.Effect.Confined

/-!
# Acceptance of a retry

The record of an apply names the endpoints that failed, and a retry cuts the intent down to them.
Every check that the whole intent passed is passed by the smaller one as well, except for the one
that asks for a switch member: an endpoint without members is planned and applied as part of the
whole intent but cannot be retried alone.
-/

namespace AriaUnderlay

open Collections Effect

/-! ## Results name the devices of the plan -/

section Results

/-- Whatever is answered, the result is about this device. -/
abbrev AboutDevice (program : Core DeviceApplyResult) (deviceId : DeviceId) : Prop :=
  Confined (fun _ => True) (fun _ _ => True) program fun result => result.deviceId = deviceId

theorem aboutDevice_bind {α : Type} {program : Core α} {next : α → Core DeviceApplyResult}
    {deviceId : DeviceId} (about : ∀ value, AboutDevice (next value) deviceId) :
    AboutDevice (program >>= next) deviceId :=
  (confined_unrestricted program).bind fun value _ => about value

theorem deviceId_deviceErrorResult {deviceId : DeviceId} {changed : Bool} {txId : Option String}
    {strategy : Option TransactionStrategy} {error : UnderlayError} :
    (deviceErrorResult deviceId changed txId strategy error).deviceId = deviceId := by
  cases error <;> rfl

theorem aboutDevice_finishWithShadowFailure (deviceId : DeviceId) (txId : String)
    (record : TxJournalRecord) (strategy : TransactionStrategy) (warnings : List String)
    (report : DeviceVerifyReport) (failure : ShadowFailure) :
    AboutDevice (finishWithShadowFailure deviceId txId record strategy warnings report failure)
      deviceId := by
  refine aboutDevice_bind fun moved => ?_
  cases moved with
  | error error => rfl
  | ok record =>
      refine aboutDevice_bind fun now => aboutDevice_bind fun written => ?_
      cases written <;> rfl

theorem aboutDevice_updateShadowAfterCommit (desired : DeviceDesiredState) (plan : DryRunPlan)
    (context : TxContext) (record : TxJournalRecord) (strategy : TransactionStrategy)
    (report : DeviceVerifyReport) :
    AboutDevice (updateShadowAfterCommit desired plan context record strategy report)
      desired.deviceId := by
  unfold updateShadowAfterCommit
  dsimp only
  split
  · refine aboutDevice_bind fun moved => ?_
    cases moved with
    | error error => rfl
    | ok record => exact aboutDevice_bind fun now => aboutDevice_bind fun written => rfl
  · refine aboutDevice_bind fun existing => ?_
    cases existing with
    | error error => exact aboutDevice_finishWithShadowFailure ..
    | ok existing =>
        refine aboutDevice_bind fun written => ?_
        cases written with
        | error error => exact aboutDevice_finishWithShadowFailure ..
        | ok _ => rfl

theorem aboutDevice_applyPrepared (timeout : ℕ) (desired : DeviceDesiredState) (plan : DryRunPlan)
    (context : TxContext) (allowDegradedAtomicity : Bool) (record : TxJournalRecord) :
    AboutDevice (applyPrepared timeout desired plan context allowDegradedAtomicity record)
      desired.deviceId := by
  refine aboutDevice_bind fun outcome => ?_
  rcases outcome with ⟨error | ⟨strategy, report⟩, record⟩
  · refine aboutDevice_bind fun moved => ?_
    cases moved with
    | error error => rfl
    | ok record =>
        refine aboutDevice_bind fun now => aboutDevice_bind fun written => ?_
        cases written <;> rfl
  · refine aboutDevice_bind fun now => aboutDevice_bind fun moved => ?_
    cases moved with
    | error error => rfl
    | ok record =>
        refine aboutDevice_bind fun written => ?_
        cases written with
        | error error => rfl
        | ok _ => exact aboutDevice_updateShadowAfterCommit ..

theorem aboutDevice_applyTransaction (timeout : ℕ) (requestId traceId : String)
    (desired : DeviceDesiredState) (plan : DryRunPlan) (allowDegradedAtomicity : Bool) :
    AboutDevice (applyTransaction timeout requestId traceId desired plan allowDegradedAtomicity)
      desired.deviceId := by
  refine aboutDevice_bind fun txId => aboutDevice_bind fun startedAt =>
    aboutDevice_bind fun desiredAt => aboutDevice_bind fun plannedAt =>
      aboutDevice_bind fun started => ?_
  cases started with
  | error error => exact deviceId_deviceErrorResult
  | ok _ =>
      refine aboutDevice_bind fun moved => ?_
      cases moved with
      | error error => exact deviceId_deviceErrorResult
      | ok record =>
          refine aboutDevice_bind fun preparing => ?_
          cases preparing with
          | error error => exact deviceId_deviceErrorResult
          | ok _ => exact aboutDevice_applyPrepared ..

theorem aboutDevice_applySingleEndpointState (timeout : ℕ) (requestId traceId : String)
    (desired : DeviceDesiredState) (allowDegradedAtomicity : Bool) (driftPolicy : DriftPolicy) :
    AboutDevice (applySingleEndpointState timeout requestId traceId desired allowDegradedAtomicity
      driftPolicy) desired.deviceId := by
  have underLock : AboutDevice (applyUnderLock timeout requestId traceId desired
      allowDegradedAtomicity driftPolicy) desired.deviceId := by
    refine aboutDevice_bind fun inDoubt => ?_
    cases inDoubt with
    | error error => exact deviceId_deviceErrorResult
    | ok _ =>
        refine aboutDevice_bind fun drift => ?_
        cases drift with
        | error error => exact deviceId_deviceErrorResult
        | ok _ =>
            refine aboutDevice_bind fun planned => ?_
            cases planned with
            | error error => exact deviceId_deviceErrorResult
            | ok plan =>
                dsimp only
                split
                · rfl
                · exact aboutDevice_applyTransaction ..
  refine aboutDevice_bind fun acquired => ?_
  cases acquired with
  | error error => exact deviceId_deviceErrorResult
  | ok _ => exact underLock.bind fun result isAbout => ⟨trivial, fun _ _ => isAbout⟩

/-- An apply returns one result for each state of the plan, in the order of the plan. -/
theorem deviceIds_of_returns {timeout : ℕ} {requestId traceId : String}
    {allowDegradedAtomicity : Bool} {driftPolicy : DriftPolicy} {plan : List DeviceDesiredState}
    {results : List DeviceApplyResult}
    (returned : Returns (applyDesiredStates timeout requestId traceId allowDegradedAtomicity
      driftPolicy plan) results) :
    results.map DeviceApplyResult.deviceId = plan.map DeviceDesiredState.deviceId := by
  have named : Confined (fun _ => True) (fun _ _ => True)
      (applyDesiredStates timeout requestId traceId allowDegradedAtomicity driftPolicy plan)
      fun results => results.map DeviceApplyResult.deviceId =
        plan.map DeviceDesiredState.deviceId := by
    clear returned
    induction plan with
    | nil => rfl
    | cons desired rest ih =>
        refine (aboutDevice_applySingleEndpointState ..).bind fun result isAbout => ?_
        refine ih.bind fun others areAbout => ?_
        simp [isAbout, areAbout]
  exact returned.of_confined named

end Results

/-! ## The checks of a restricted intent -/

section Checks

variable
  {memberIds keptMembers : List DeviceId}
  {context : String}

theorem validateInterfaces_kept {interfaces kept : List InterfaceIntent}
    {declaredVlans : List UInt16} {label : String}
    (accepted : validateInterfaces interfaces memberIds declaredVlans context label = .ok ())
    (isKept : kept.Sublist interfaces)
    (known : ∀ interface ∈ kept, interface.deviceId ∈ keptMembers) :
    validateInterfaces kept keptMembers declaredVlans context label = .ok () := by
  refine eachDistinct_of_sublist accepted isKept ?_ fun _ _ passed => passed
  intro interface isMember passed
  simp only [andThen_eq_ok, invalidIf_eq_ok, not_not] at passed ⊢
  exact ⟨passed.1, known interface isMember⟩

theorem validateInterfaceDeletes_kept {deletes keptDeletes : List InterfaceDeleteIntent}
    {upserts keptUpserts : List InterfaceIntent}
    (accepted : validateInterfaceDeletes deletes upserts memberIds context = .ok ())
    (isKept : keptDeletes.Sublist deletes) (fewer : keptUpserts.Sublist upserts)
    (known : ∀ delete ∈ keptDeletes, delete.deviceId ∈ keptMembers) :
    validateInterfaceDeletes keptDeletes keptUpserts keptMembers context = .ok () := by
  refine eachDistinct_of_sublist accepted isKept ?_ fun _ _ passed => passed
  intro delete isMember passed
  simp only [andThen_eq_ok, invalidIf_eq_ok, not_not] at passed ⊢
  rcases passed with ⟨named, -, apart⟩
  exact ⟨named, known delete isMember, fun both => apart ((fewer.map _).subset both)⟩

theorem validateAclBindings_kept {bindings kept : List AclBindingIntent}
    {declaredAcls : List UInt16}
    (accepted : validateAclBindings bindings memberIds declaredAcls context = .ok ())
    (isKept : kept.Sublist bindings) (known : ∀ binding ∈ kept, binding.deviceId ∈ keptMembers) :
    validateAclBindings kept keptMembers declaredAcls context = .ok () := by
  refine eachDistinct_of_sublist accepted isKept ?_ fun _ _ passed => passed
  intro binding isMember passed
  simp only [andThen_eq_ok, invalidIf_eq_ok, not_not] at passed ⊢
  rcases passed with ⟨named, -, declared⟩
  exact ⟨named, known binding isMember, declared⟩

theorem validateAclBindingDeletes_kept
    {deletes upserts keptDeletes keptUpserts : List AclBindingIntent}
    (accepted : validateAclBindingDeletes deletes upserts memberIds context = .ok ())
    (isKept : keptDeletes.Sublist deletes) (fewer : keptUpserts.Sublist upserts)
    (known : ∀ delete ∈ keptDeletes, delete.deviceId ∈ keptMembers) :
    validateAclBindingDeletes keptDeletes keptUpserts keptMembers context = .ok () := by
  refine eachDistinct_of_sublist accepted isKept ?_ fun _ _ passed => passed
  intro delete isMember passed
  simp only [andThen_eq_ok, invalidIf_eq_ok, not_not] at passed ⊢
  rcases passed with ⟨named, -, inRange, apart⟩
  exact ⟨named, known delete isMember, inRange, fun both => apart ((fewer.map _).subset both)⟩

theorem validateBgpProcesses_kept {processes keptProcesses : List BgpProcessIntent}
    {deletes keptDeletes : List BgpProcessDeleteIntent}
    (accepted : validateBgpProcesses processes deletes memberIds context = .ok ())
    (isKept : keptProcesses.Sublist processes) (deletesKept : keptDeletes.Sublist deletes)
    (known : ∀ process ∈ keptProcesses, process.deviceId ∈ keptMembers)
    (deletesKnown : ∀ delete ∈ keptDeletes, delete.deviceId ∈ keptMembers) :
    validateBgpProcesses keptProcesses keptDeletes keptMembers context = .ok () := by
  rw [validateBgpProcesses, andThen_eq_ok] at accepted ⊢
  constructor
  · refine eachDistinct_of_sublist accepted.1 isKept ?_ fun _ _ passed => passed
    intro process isMember passed
    rw [andThen_eq_ok, andThen_eq_ok] at passed ⊢
    exact ⟨passed.1, invalidIf_eq_ok.mpr (not_not.mpr (known process isMember)), passed.2.2⟩
  · refine eachDistinct_of_sublist accepted.2 deletesKept ?_ fun _ _ passed => passed
    intro delete isMember passed
    simp only [andThen_eq_ok, ensureKnownMember, invalidIf_eq_ok, not_not] at passed ⊢
    rcases passed with ⟨isId, -, named, apart⟩
    exact ⟨isId, deletesKnown delete isMember, named,
      fun both => apart ((isKept.map _).subset both)⟩

theorem validateBgpNeighbors_kept {neighbors keptNeighbors : List BgpNeighborIntent}
    {deletes keptDeletes : List BgpNeighborDeleteIntent}
    {processDeletes keptProcessDeletes : List BgpProcessDeleteIntent}
    (accepted : validateBgpNeighbors neighbors deletes processDeletes memberIds context = .ok ())
    (isKept : keptNeighbors.Sublist neighbors) (deletesKept : keptDeletes.Sublist deletes)
    (processDeletesKept : keptProcessDeletes.Sublist processDeletes)
    (known : ∀ neighbor ∈ keptNeighbors, neighbor.deviceId ∈ keptMembers)
    (deletesKnown : ∀ delete ∈ keptDeletes, delete.deviceId ∈ keptMembers) :
    validateBgpNeighbors keptNeighbors keptDeletes keptProcessDeletes keptMembers context =
      .ok () := by
  rw [validateBgpNeighbors, andThen_eq_ok] at accepted ⊢
  constructor
  · refine eachDistinct_of_sublist accepted.1 isKept ?_ fun _ _ passed => passed
    intro neighbor isMember passed
    simp only [andThen_eq_ok, ensureKnownMember, invalidIf_eq_ok, not_not] at passed ⊢
    rcases passed with ⟨isId, -, vrf, address, isAddress, processStays, remoteAs⟩
    exact ⟨isId, known neighbor isMember, vrf, address, isAddress,
      fun deleted => processStays ((processDeletesKept.map _).subset deleted), remoteAs⟩
  · refine eachDistinct_of_sublist accepted.2 deletesKept ?_ fun _ _ passed => passed
    intro delete isMember passed
    simp only [andThen_eq_ok, ensureKnownMember, invalidIf_eq_ok, not_not] at passed ⊢
    rcases passed with ⟨isId, -, vrf, address, isAddress, apart⟩
    exact ⟨isId, deletesKnown delete isMember, vrf, address, isAddress,
      fun both => apart ((isKept.map _).subset both)⟩

end Checks

section Restricted

variable {intent : UnderlayDomainIntent} {endpointIds : List DeviceId}

/-- A topology is replaced by a stack when one endpoint is left, and else fits what is left. -/
theorem validateTopologyShape_restrictTo (accepted : validateTopologyShape intent = .ok ())
    (something : (intent.restrictTo endpointIds).endpoints ≠ []) :
    validateTopologyShape (intent.restrictTo endpointIds) = .ok () := by
  have fewer : (intent.restrictTo endpointIds).endpoints.length ≤ intent.endpoints.length :=
    List.length_filter_le _ _
  have positive := List.length_pos_of_ne_nil something
  by_cases single : (intent.restrictTo endpointIds).endpoints.length = 1
  · have isStack : (intent.restrictTo endpointIds).topology = .stackSingleManagementIp :=
      if_pos single
    rw [validateTopologyShape, isStack]
    exact invalidIf_eq_ok.mpr (not_not.mpr single)
  · have sameTopology : (intent.restrictTo endpointIds).topology = intent.topology :=
      if_neg single
    rw [validateTopologyShape, sameTopology]
    rw [validateTopologyShape] at accepted
    cases isTopology : intent.topology with
    | stackSingleManagementIp =>
        simp only [isTopology, invalidIf_eq_ok] at accepted ⊢
        omega
    | mlagDualManagementIp =>
        simp only [isTopology, invalidIf_eq_ok] at accepted ⊢
        omega
    | smallFabric =>
        simp only [isTopology, invalidIf_eq_ok] at accepted ⊢
        omega

theorem validateMembers_restrictTo
    (accepted : validateMembers intent.members
      (intent.endpoints.map ManagementEndpointIntent.endpointId) = .ok ()) :
    validateMembers (intent.restrictTo endpointIds).members
      ((intent.restrictTo endpointIds).endpoints.map ManagementEndpointIntent.endpointId) =
        .ok () := by
  refine eachDistinct_of_sublist accepted List.filter_sublist (fun _ _ passed => passed) ?_
  intro member isMember passed
  simp only [invalidIf_eq_ok, not_not, List.mem_map] at passed ⊢
  rcases passed with ⟨endpoint, isEndpoint, sameId⟩
  refine ⟨endpoint, List.mem_filter.mpr ⟨isEndpoint, ?_⟩, sameId⟩
  rw [sameId]
  exact (List.mem_filter.mp isMember).2

/-- The objects that a restriction keeps belong to members that it keeps. -/
theorem owner_kept {Object : Type} {owner : Object → DeviceId} {objects : List Object} :
    ∀ object ∈ objects.filter (fun object =>
        owner object ∈ (intent.restrictTo endpointIds).members.map SwitchMemberIntent.memberId),
      owner object ∈ (intent.restrictTo endpointIds).members.map SwitchMemberIntent.memberId :=
  fun _ isKept => of_decide_eq_true (List.mem_filter.mp isKept).2

theorem validateUnderlayDomainIntent_restrictTo_iff
    (accepted : validateUnderlayDomainIntent intent = .ok ()) (nonempty : endpointIds ≠ [])
    (known : ∀ endpointId ∈ endpointIds,
      endpointId ∈ intent.endpoints.map ManagementEndpointIntent.endpointId) :
    validateUnderlayDomainIntent (intent.restrictTo endpointIds) = .ok () ↔
      ∃ member ∈ intent.members, member.managementEndpointId ∈ endpointIds := by
  have someMember : (intent.restrictTo endpointIds).members ≠ [] ↔
      ∃ member ∈ intent.members, member.managementEndpointId ∈ endpointIds := by
    simp [UnderlayDomainIntent.restrictTo]
  have someEndpoint : (intent.restrictTo endpointIds).endpoints ≠ [] := by
    rcases List.exists_mem_of_ne_nil endpointIds nonempty with ⟨endpointId, isSelected⟩
    rcases List.mem_map.mp (known endpointId isSelected) with ⟨endpoint, isEndpoint, sameId⟩
    exact List.ne_nil_of_mem
      (List.mem_filter.mpr ⟨isEndpoint, decide_eq_true (sameId ▸ isSelected)⟩)
  rw [← someMember]
  simp only [validateUnderlayDomainIntent, andThen_eq_ok] at accepted ⊢
  rcases accepted with
    ⟨domainId, -, -, topology, endpoints, members, vlans, deleteVlans, vlansApart, interfaces,
      interfaceDeletes, acls, deleteAcls, aclsApart, aclBindings, aclBindingDeletes, bgpProcesses,
      bgpNeighbors⟩
  constructor
  · rintro ⟨-, -, hasMember, -⟩
    exact invalidIf_eq_ok.mp hasMember
  · intro hasMember
    refine ⟨domainId, invalidIf_eq_ok.mpr someEndpoint, invalidIf_eq_ok.mpr hasMember,
      validateTopologyShape_restrictTo topology someEndpoint, ?_,
      validateMembers_restrictTo members, vlans, deleteVlans, vlansApart, ?_, ?_, acls, deleteAcls,
      aclsApart, ?_, ?_, ?_, ?_⟩
    · exact eachDistinct_of_sublist endpoints List.filter_sublist (fun _ _ passed => passed)
        fun _ _ passed => passed
    · exact validateInterfaces_kept interfaces List.filter_sublist owner_kept
    · exact validateInterfaceDeletes_kept interfaceDeletes List.filter_sublist List.filter_sublist
        owner_kept
    · exact validateAclBindings_kept aclBindings List.filter_sublist owner_kept
    · exact validateAclBindingDeletes_kept aclBindingDeletes List.filter_sublist
        List.filter_sublist owner_kept
    · exact validateBgpProcesses_kept bgpProcesses List.filter_sublist List.filter_sublist
        owner_kept owner_kept
    · exact validateBgpNeighbors_kept bgpNeighbors List.filter_sublist List.filter_sublist
        List.filter_sublist owner_kept owner_kept

end Restricted

/-! ## The retry -/

/-- The retry of failed endpoints is accepted exactly when one of them has a switch member. -/
theorem retry_accepted_iff (request : ApplyDomainIntentRequest) (plan : List DeviceDesiredState)
    (confirmedCommitTimeoutSecs now : ℕ) (requestId traceId : String)
    (results : List DeviceApplyResult) (explicitEndpointIds selected : List DeviceId)
    (accepted : validateUnderlayDomainIntent request.intent = .ok ())
    (planned : planUnderlayDomain request.intent = .ok plan)
    (returned : Returns (applyDesiredStates confirmedCommitTimeoutSecs requestId traceId
      request.options.allowDegradedAtomicity request.options.driftPolicy plan) results)
    (isSelection : selectRetryableFailedEndpoints
      (.new request (applyResponse requestId traceId results) now) explicitEndpointIds =
        .ok selected) :
    ∃ retry, filterDomainIntentToEndpoints request.intent selected = .ok retry ∧
      (validateUnderlayDomainIntent retry = .ok () ↔
        ∃ member ∈ request.intent.members, member.managementEndpointId ∈ selected) := by
  rcases selectRetryableFailedEndpoints_ok isSelection with ⟨nonempty, areResults⟩
  have known : ∀ endpointId ∈ selected,
      endpointId ∈ request.intent.endpoints.map ManagementEndpointIntent.endpointId := by
    intro endpointId isSelected
    rcases planUnderlayDomain_spec (validated_of_accepted accepted) accepted with
      ⟨ids, -, sameIds, isPlan⟩
    have isPlanned : endpointId ∈ results.map DeviceApplyResult.deviceId :=
      areResults endpointId isSelected
    rw [deviceIds_of_returns returned] at isPlanned
    obtain rfl : ids.map request.intent.plannedState = plan :=
      Except.ok.inj (isPlan.symm.trans planned)
    rw [← sameIds.mem_iff]
    simpa [UnderlayDomainIntent.plannedState] using isPlanned
  refine ⟨request.intent.restrictTo selected, filterDomainIntentToEndpoints_eq nonempty known, ?_⟩
  exact validateUnderlayDomainIntent_restrictTo_iff accepted nonempty known

/-- VLAN 100 on a pair of leaves with these switch members. -/
def vlanPairRequest (members : List SwitchMemberIntent) : ApplyDomainIntentRequest where
  requestId := "req-1"
  traceId := none
  idempotencyKey := none
  intent :=
    { domainId := "domain-a"
      topology := .mlagDualManagementIp
      endpoints := [⟨"leaf-a", "192.0.2.1", 830, "secret", none, none⟩,
        ⟨"leaf-b", "192.0.2.2", 830, "secret", none, none⟩]
      members := members
      vlans := [⟨100, none, none⟩]
      interfaces := [] }
  options := {}

/-- Everything goes well, except that the lock of `leaf-b` is taken. -/
def leafBBusy : Oracle
  | .acquireWithPolicy ["leaf-b"], _ => .error (.adapterOperation "ENDPOINT_LOCK_TIMEOUT"
      "timed out acquiring endpoint lock" true [])
  | op, position => (ApplyEnv.oblige fun _ => false).oracle op position

/-- What the endpoints of the pair answer while `leaf-b` is busy. -/
def vlanPairResults (members : List SwitchMemberIntent)
    (plan : List DeviceDesiredState) : List DeviceApplyResult :=
  (runAlone leafBBusy (applyDesiredStates 120 "req-1" "req-1"
    (vlanPairRequest members).options.allowDegradedAtomicity
    (vlanPairRequest members).options.driftPolicy plan) World.initial).1

theorem returns_vlanPairResults (members : List SwitchMemberIntent)
    (plan : List DeviceDesiredState) :
    Returns (applyDesiredStates 120 "req-1" "req-1"
      (vlanPairRequest members).options.allowDegradedAtomicity
      (vlanPairRequest members).options.driftPolicy plan) (vlanPairResults members plan) :=
  returns_eval (serve leafBBusy) _ (World.initial, 0)

/-- The endpoints that a retry of the pair selects. -/
def vlanPairSelection (members : List SwitchMemberIntent)
    (plan : List DeviceDesiredState) : Except UnderlayError (List DeviceId) :=
  selectRetryableFailedEndpoints (.new (vlanPairRequest members)
    (applyResponse "req-1" "req-1" (vlanPairResults members plan)) 0) []

theorem retry_accepted_vlanPair :
    ∃ plan retry,
      planUnderlayDomain (vlanPairRequest
        [⟨"switch-a", none, "leaf-a"⟩, ⟨"switch-b", none, "leaf-b"⟩]).intent = .ok plan ∧
      vlanPairSelection [⟨"switch-a", none, "leaf-a"⟩, ⟨"switch-b", none, "leaf-b"⟩] plan =
        .ok ["leaf-b"] ∧
      filterDomainIntentToEndpoints (vlanPairRequest
        [⟨"switch-a", none, "leaf-a"⟩, ⟨"switch-b", none, "leaf-b"⟩]).intent ["leaf-b"] =
          .ok retry ∧
      validateUnderlayDomainIntent retry = .ok () := by
  have selects : (planUnderlayDomain (vlanPairRequest
      [⟨"switch-a", none, "leaf-a"⟩, ⟨"switch-b", none, "leaf-b"⟩]).intent >>=
        vlanPairSelection [⟨"switch-a", none, "leaf-a"⟩, ⟨"switch-b", none, "leaf-b"⟩]) =
      .ok ["leaf-b"] := by
    decide +kernel
  rcases bind_eq_ok.mp selects with ⟨plan, planned, isSelection⟩
  rcases retry_accepted_iff _ plan 120 0 "req-1" "req-1" _ [] ["leaf-b"] (by decide +kernel)
    planned (returns_vlanPairResults _ plan) isSelection with ⟨retry, isRetry, accepted_iff⟩
  exact ⟨plan, retry, planned, isSelection, isRetry,
    accepted_iff.mpr ⟨⟨"switch-b", none, "leaf-b"⟩, by decide, by decide⟩⟩

/-- `leaf-b` has no switch member.  The intent is accepted and the VLAN is planned for both leaves,
but when `leaf-b` fails its retry is refused. -/
theorem retry_refused_without_member :
    ∃ plan retry,
      validateUnderlayDomainIntent (vlanPairRequest [⟨"switch-a", none, "leaf-a"⟩]).intent =
        .ok () ∧
      planUnderlayDomain (vlanPairRequest [⟨"switch-a", none, "leaf-a"⟩]).intent = .ok plan ∧
      vlanPairSelection [⟨"switch-a", none, "leaf-a"⟩] plan = .ok ["leaf-b"] ∧
      filterDomainIntentToEndpoints (vlanPairRequest [⟨"switch-a", none, "leaf-a"⟩]).intent
        ["leaf-b"] = .ok retry ∧
      validateUnderlayDomainIntent retry =
        .error (.invalidIntent "underlay domain has no switch members") := by
  have selects : (planUnderlayDomain (vlanPairRequest [⟨"switch-a", none, "leaf-a"⟩]).intent >>=
      vlanPairSelection [⟨"switch-a", none, "leaf-a"⟩]) = .ok ["leaf-b"] := by
    decide +kernel
  have refused : (filterDomainIntentToEndpoints
      (vlanPairRequest [⟨"switch-a", none, "leaf-a"⟩]).intent ["leaf-b"] >>= fun retry =>
        .ok (validateUnderlayDomainIntent retry)) =
      .ok (.error (.invalidIntent "underlay domain has no switch members")) := by
    decide +kernel
  rcases bind_eq_ok.mp selects with ⟨plan, planned, isSelection⟩
  rcases bind_eq_ok.mp refused with ⟨retry, isRetry, isRefused⟩
  exact ⟨plan, retry, by decide +kernel, planned, isSelection, isRetry, Except.ok.inj isRefused⟩

end AriaUnderlay
