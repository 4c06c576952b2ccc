import AriaUnderlay.Intent.Validation

/-!
# Planning a domain

A domain intent becomes one desired state per management endpoint.  Every endpoint gets the domain's
VLANs and ACLs; the objects given for a switch member are inserted, in the order of the intent, into
the state of the endpoint that the member is reached through.

`plannedState` describes the result without the loops, and `planUnderlayDomain_spec` shows that an
accepted intent is always planned and that the plan is made of these states.
-/

namespace AriaUnderlay

open Collections

/-! ## Objects of the intent as configuration -/

/-- The VLAN of an intent. -/
def VlanIntent.config (vlan : VlanIntent) : VlanConfig where
  vlanId := vlan.vlanId
  name := vlan.name
  description := vlan.description

/-- The interface of an intent. -/
def InterfaceIntent.config (interface : InterfaceIntent) : InterfaceConfig where
  name := interface.name
  adminState := interface.adminState
  description := interface.description
  mode := interface.mode

/-- The ACL of an intent. -/
def AclIntent.config (acl : AclIntent) : AclConfig where
  aclId := acl.aclId
  kind := acl.kind
  name := acl.name
  description := acl.description
  rules := acl.rules

/-- The binding of an intent. -/
def AclBindingIntent.config (binding : AclBindingIntent) : AclBinding where
  interfaceName := binding.interfaceName
  direction := binding.direction
  aclId := binding.aclId

/-- The BGP process of an intent. -/
def BgpProcessIntent.config (process : BgpProcessIntent) : BgpProcess where
  vrf := process.vrf
  localAs := process.localAs
  routerId := process.routerId

/-- The BGP neighbor of an intent. -/
def BgpNeighborIntent.config (neighbor : BgpNeighborIntent) : BgpNeighbor where
  vrf := neighbor.vrf
  address := neighbor.address
  remoteAs := neighbor.remoteAs
  description := neighbor.description
  importPolicy := neighbor.importPolicy
  exportPolicy := neighbor.exportPolicy

/-- A neighbor to delete is known by its VRF and address only. -/
def BgpNeighborDeleteIntent.config (delete : BgpNeighborDeleteIntent) : BgpNeighbor where
  vrf := delete.vrf
  address := delete.address
  remoteAs := 0
  description := none
  importPolicy := none
  exportPolicy := none

/-! ## The planner -/

/-- The states planned so far. -/
abbrev EndpointStates : Type := BTreeMap DeviceId DeviceDesiredState

/-- The endpoint of each member. -/
def UnderlayDomainIntent.memberToEndpoint (intent : UnderlayDomainIntent) :
    BTreeMap DeviceId DeviceId :=
  .ofList (intent.members.map fun member => (member.memberId, member.managementEndpointId))

/-- The state of an endpoint before the objects of its members are placed. -/
def UnderlayDomainIntent.endpointState (intent : UnderlayDomainIntent)
    (endpointId : DeviceId) : DeviceDesiredState where
  deviceId := endpointId
  vlans := .ofList (intent.vlans.map fun vlan => (vlan.vlanId, vlan.config))
  acls := .ofList (intent.acls.map fun acl => (acl.aclId, acl.config))
  deleteVlanIds := .ofList intent.deleteVlanIds
  deleteAclIds := .ofList intent.deleteAclIds

/-- The states to start from. -/
def UnderlayDomainIntent.endpointStates (intent : UnderlayDomainIntent) : EndpointStates :=
  .ofList (intent.endpoints.map fun endpoint =>
    (endpoint.endpointId, intent.endpointState endpoint.endpointId))

/-- Change the state of the endpoint through which the owner of an object is reached. -/
def planObject (memberToEndpoint : BTreeMap DeviceId DeviceId) (subject : String) (owner : DeviceId)
    (place : DeviceDesiredState → DeviceDesiredState)
    (states : EndpointStates) : Except UnderlayError EndpointStates :=
  match memberToEndpoint[owner]? with
  | none => .error (.invalidIntent (subject ++ " references unknown switch member " ++ owner))
  | some endpointId =>
      match states[endpointId]? with
      | none =>
          .error (.invalidIntent ("member references unknown management endpoint " ++ endpointId))
      | some state => .ok (states.insert endpointId (place state))

section Place

variable (state : DeviceDesiredState)

def DeviceDesiredState.placeInterface (interface : InterfaceIntent) : DeviceDesiredState :=
  { state with interfaces := state.interfaces.insert interface.name interface.config }

/-- Want an interface gone. -/
def DeviceDesiredState.placeInterfaceDelete (delete : InterfaceDeleteIntent) : DeviceDesiredState :=
  { state with deleteInterfaceNames := state.deleteInterfaceNames.insert delete.name }

def DeviceDesiredState.placeAclBinding (binding : AclBindingIntent) : DeviceDesiredState :=
  { state with aclBindings := state.aclBindings.insert binding.config.key binding.config }

def DeviceDesiredState.placeAclBindingDelete (binding : AclBindingIntent) : DeviceDesiredState :=
  { state with
    deleteAclBindings := state.deleteAclBindings.insert binding.config.key binding.config }

def DeviceDesiredState.placeBgpProcess (process : BgpProcessIntent) : DeviceDesiredState :=
  { state with bgpProcesses := state.bgpProcesses.insert process.vrf process.config }

def DeviceDesiredState.placeBgpNeighbor (neighbor : BgpNeighborIntent) : DeviceDesiredState :=
  { state with bgpNeighbors := state.bgpNeighbors.insert neighbor.config.key neighbor.config }

/-- Want a BGP process gone. -/
def DeviceDesiredState.placeBgpProcessDelete (delete : BgpProcessDeleteIntent) :
    DeviceDesiredState :=
  { state with deleteBgpProcessVrfs := state.deleteBgpProcessVrfs.insert delete.vrf }

/-- Want a BGP neighbor gone. -/
def DeviceDesiredState.placeBgpNeighborDelete (delete : BgpNeighborDeleteIntent) :
    DeviceDesiredState :=
  { state with
    deleteBgpNeighbors := state.deleteBgpNeighbors.insert delete.config.key delete.config }

end Place

def planObjects {Object : Type} (memberToEndpoint : BTreeMap DeviceId DeviceId) (subject : String)
    (owner : Object → DeviceId) (place : DeviceDesiredState → Object → DeviceDesiredState)
    (objects : List Object) (states : EndpointStates) : Except UnderlayError EndpointStates :=
  objects.foldlM
    (fun states object =>
      planObject memberToEndpoint subject (owner object) (place · object) states)
    states

/-- The plan of an intent. -/
def planUnderlayDomain (intent : UnderlayDomainIntent) :
    Except UnderlayError (List DeviceDesiredState) := do
  validateUnderlayDomainIntent intent
  let memberToEndpoint := intent.memberToEndpoint
  let states ← planObjects memberToEndpoint "interface"
    InterfaceIntent.deviceId .placeInterface intent.interfaces intent.endpointStates
  let states ← planObjects memberToEndpoint "interface delete"
    InterfaceDeleteIntent.deviceId .placeInterfaceDelete intent.deleteInterfaces states
  let states ← planObjects memberToEndpoint "ACL binding"
    AclBindingIntent.deviceId .placeAclBinding intent.aclBindings states
  let states ← planObjects memberToEndpoint "ACL binding delete"
    AclBindingIntent.deviceId .placeAclBindingDelete intent.deleteAclBindings states
  let states ← planObjects memberToEndpoint "BGP process"
    BgpProcessIntent.deviceId .placeBgpProcess intent.bgpProcesses states
  let states ← planObjects memberToEndpoint "BGP neighbor"
    BgpNeighborIntent.deviceId .placeBgpNeighbor intent.bgpNeighbors states
  let states ← planObjects memberToEndpoint "BGP process delete"
    BgpProcessDeleteIntent.deviceId .placeBgpProcessDelete intent.deleteBgpProcesses states
  let states ← planObjects memberToEndpoint "BGP neighbor delete"
    BgpNeighborDeleteIntent.deviceId .placeBgpNeighborDelete intent.deleteBgpNeighbors states
  return states.toList.map Prod.snd

/-! ## The planned states -/

/-- The member named `deviceId` is managed through the endpoint. -/
def UnderlayDomainIntent.Reaches (intent : UnderlayDomainIntent)
    (endpointId deviceId : DeviceId) : Prop :=
  ∃ member ∈ intent.members,
    member.memberId = deviceId ∧ member.managementEndpointId = endpointId

instance (intent : UnderlayDomainIntent) (endpointId deviceId : DeviceId) :
    Decidable (intent.Reaches endpointId deviceId) :=
  inferInstanceAs (Decidable (∃ member ∈ intent.members,
    member.memberId = deviceId ∧ member.managementEndpointId = endpointId))

/-- The objects whose owner is reached through the endpoint. -/
def UnderlayDomainIntent.reached {Object : Type} (intent : UnderlayDomainIntent)
    (endpointId : DeviceId) (owner : Object → DeviceId) (objects : List Object) : List Object :=
  objects.filter fun object => intent.Reaches endpointId (owner object)

variable {Object : Type} {endpointId : DeviceId} {owner : Object → DeviceId} {objects : List Object}

theorem mem_reached {intent : UnderlayDomainIntent} {object : Object} :
    object ∈ intent.reached endpointId owner objects ↔
      object ∈ objects ∧ intent.Reaches endpointId (owner object) := by
  simp [UnderlayDomainIntent.reached]

def UnderlayDomainIntent.plannedState (intent : UnderlayDomainIntent)
    (endpointId : DeviceId) : DeviceDesiredState where
  deviceId := endpointId
  vlans := gather VlanConfig.vlanId (intent.vlans.map VlanIntent.config)
  interfaces := gather InterfaceConfig.name
    ((intent.reached endpointId InterfaceIntent.deviceId intent.interfaces).map
      InterfaceIntent.config)
  acls := gather AclConfig.aclId (intent.acls.map AclIntent.config)
  aclBindings := gather AclBinding.key
    ((intent.reached endpointId AclBindingIntent.deviceId intent.aclBindings).map
      AclBindingIntent.config)
  bgpProcesses := gather BgpProcess.vrf
    ((intent.reached endpointId BgpProcessIntent.deviceId intent.bgpProcesses).map
      BgpProcessIntent.config)
  bgpNeighbors := gather BgpNeighbor.key
    ((intent.reached endpointId BgpNeighborIntent.deviceId intent.bgpNeighbors).map
      BgpNeighborIntent.config)
  deleteVlanIds := .ofList intent.deleteVlanIds
  deleteInterfaceNames := .ofList
    ((intent.reached endpointId InterfaceDeleteIntent.deviceId intent.deleteInterfaces).map
      InterfaceDeleteIntent.name)
  deleteAclIds := .ofList intent.deleteAclIds
  deleteAclBindings := gather AclBinding.key
    ((intent.reached endpointId AclBindingIntent.deviceId intent.deleteAclBindings).map
      AclBindingIntent.config)
  deleteBgpProcessVrfs := .ofList
    ((intent.reached endpointId BgpProcessDeleteIntent.deviceId intent.deleteBgpProcesses).map
      BgpProcessDeleteIntent.vrf)
  deleteBgpNeighbors := gather BgpNeighbor.key
    ((intent.reached endpointId BgpNeighborDeleteIntent.deviceId intent.deleteBgpNeighbors).map
      BgpNeighborDeleteIntent.config)

/-! ## The loops compute the planned states -/

/-- The map has exactly the given endpoints, each with its expected state. -/
def Holds (endpointIds : List DeviceId) (states : EndpointStates)
    (expected : DeviceId → DeviceDesiredState) : Prop :=
  ∀ id : DeviceId, states[id]? = if id ∈ endpointIds then some (expected id) else none

section Loops

variable
  {memberToEndpoint : BTreeMap DeviceId DeviceId}
  {subject : String}
  {endpointIds : List DeviceId}
  {states : EndpointStates}
  {expected : DeviceId → DeviceDesiredState}

theorem Holds.planObject (holds : Holds endpointIds states expected) {owner : DeviceId}
    (reached : memberToEndpoint[owner]? = some endpointId) (known : endpointId ∈ endpointIds)
    (subject : String) (place : DeviceDesiredState → DeviceDesiredState) :
    ∃ next,
      planObject memberToEndpoint subject owner place states = .ok next ∧
        Holds endpointIds next fun id =>
          if endpointId = id then place (expected id) else expected id := by
  have found : states[endpointId]? = some (expected endpointId) := by
    rw [holds endpointId, if_pos known]
  refine ⟨states.insert endpointId (place (expected endpointId)), ?_, ?_⟩
  · simp [AriaUnderlay.planObject, reached, found]
  · intro id
    rw [Std.ExtTreeMap.getElem?_insert, holds id]
    by_cases same : endpointId = id
    · simp [← same, known]
    · simp [same]

theorem Holds.planObjects {place : DeviceDesiredState → Object → DeviceDesiredState}
    (holds : Holds endpointIds states expected)
    (known : ∀ object ∈ objects,
      ∃ endpointId ∈ endpointIds, memberToEndpoint[owner object]? = some endpointId) :
    ∃ next,
      planObjects memberToEndpoint subject owner place objects states = .ok next ∧
        Holds endpointIds next fun id =>
          (objects.filter fun object => memberToEndpoint[owner object]? = some id).foldl place
            (expected id) := by
  induction objects generalizing states expected with
  | nil => exact ⟨states, rfl, holds⟩
  | cons object objects ih =>
      rcases known object List.mem_cons_self with ⟨endpointId, isEndpoint, reached⟩
      have knownRest := fun other member => known other (List.mem_cons_of_mem object member)
      rcases holds.planObject reached isEndpoint subject (place · object) with
        ⟨middle, first, holdsMiddle⟩
      rcases ih holdsMiddle knownRest with ⟨next, rest, holdsNext⟩
      refine ⟨next, ?_, ?_⟩
      · rw [AriaUnderlay.planObjects, List.foldlM_cons, first]
        exact rest
      · intro id
        rw [holdsNext id]
        by_cases same : endpointId = id
        · simp [reached, same]
        · simp [reached, same]

end Loops

/-- A loop that only updates one field is the loop over that field. -/
theorem foldl_field {State Field Item : Type} (get : State → Field) (set : State → Field → State)
    (get_set : ∀ state field, get (set state field) = field)
    (set_set : ∀ state first second, set (set state first) second = set state second)
    (set_get : ∀ state, set state (get state) = state) (step : Field → Item → Field)
    (items : List Item) (state : State) :
    items.foldl (fun state item => set state (step (get state) item)) state =
      set state (items.foldl step (get state)) := by
  induction items generalizing state with
  | nil => exact (set_get state).symm
  | cons item items ih => rw [List.foldl_cons, ih, get_set, set_set, List.foldl_cons]

section Placed

variable (state : DeviceDesiredState)

theorem foldl_placeInterface (objects : List InterfaceIntent) :
    objects.foldl DeviceDesiredState.placeInterface state =
      { state with
        interfaces :=
          objects.foldl (fun map interface => map.insert interface.name interface.config)
            state.interfaces } :=
  foldl_field DeviceDesiredState.interfaces (fun state field => { state with interfaces := field })
    (fun _ _ => rfl) (fun _ _ _ => rfl) (fun _ => rfl)
    (fun map (interface : InterfaceIntent) => map.insert interface.name interface.config)
    objects state

theorem foldl_placeInterfaceDelete (objects : List InterfaceDeleteIntent) :
    objects.foldl DeviceDesiredState.placeInterfaceDelete state =
      { state with
        deleteInterfaceNames :=
          objects.foldl (fun set delete => set.insert delete.name) state.deleteInterfaceNames } :=
  foldl_field DeviceDesiredState.deleteInterfaceNames
    (fun state field => { state with deleteInterfaceNames := field })
    (fun _ _ => rfl) (fun _ _ _ => rfl) (fun _ => rfl)
    (fun set (delete : InterfaceDeleteIntent) => set.insert delete.name) objects state

theorem foldl_placeAclBinding (objects : List AclBindingIntent) :
    objects.foldl DeviceDesiredState.placeAclBinding state =
      { state with
        aclBindings :=
          objects.foldl (fun map binding => map.insert binding.config.key binding.config)
            state.aclBindings } :=
  foldl_field DeviceDesiredState.aclBindings
    (fun state field => { state with aclBindings := field })
    (fun _ _ => rfl) (fun _ _ _ => rfl) (fun _ => rfl)
    (fun map (binding : AclBindingIntent) => map.insert binding.config.key binding.config)
    objects state

theorem foldl_placeAclBindingDelete (objects : List AclBindingIntent) :
    objects.foldl DeviceDesiredState.placeAclBindingDelete state =
      { state with
        deleteAclBindings :=
          objects.foldl (fun map binding => map.insert binding.config.key binding.config)
            state.deleteAclBindings } :=
  foldl_field DeviceDesiredState.deleteAclBindings
    (fun state field => { state with deleteAclBindings := field })
    (fun _ _ => rfl) (fun _ _ _ => rfl) (fun _ => rfl)
    (fun map (binding : AclBindingIntent) => map.insert binding.config.key binding.config)
    objects state

theorem foldl_placeBgpProcess (objects : List BgpProcessIntent) :
    objects.foldl DeviceDesiredState.placeBgpProcess state =
      { state with
        bgpProcesses :=
          objects.foldl (fun map process => map.insert process.vrf process.config)
            state.bgpProcesses } :=
  foldl_field DeviceDesiredState.bgpProcesses
    (fun state field => { state with bgpProcesses := field })
    (fun _ _ => rfl) (fun _ _ _ => rfl) (fun _ => rfl)
    (fun map (process : BgpProcessIntent) => map.insert process.vrf process.config) objects state

theorem foldl_placeBgpNeighbor (objects : List BgpNeighborIntent) :
    objects.foldl DeviceDesiredState.placeBgpNeighbor state =
      { state with
        bgpNeighbors :=
          objects.foldl (fun map neighbor => map.insert neighbor.config.key neighbor.config)
            state.bgpNeighbors } :=
  foldl_field DeviceDesiredState.bgpNeighbors
    (fun state field => { state with bgpNeighbors := field })
    (fun _ _ => rfl) (fun _ _ _ => rfl) (fun _ => rfl)
    (fun map (neighbor : BgpNeighborIntent) => map.insert neighbor.config.key neighbor.config)
    objects state

theorem foldl_placeBgpProcessDelete (objects : List BgpProcessDeleteIntent) :
    objects.foldl DeviceDesiredState.placeBgpProcessDelete state =
      { state with
        deleteBgpProcessVrfs :=
          objects.foldl (fun set delete => set.insert delete.vrf) state.deleteBgpProcessVrfs } :=
  foldl_field DeviceDesiredState.deleteBgpProcessVrfs
    (fun state field => { state with deleteBgpProcessVrfs := field })
    (fun _ _ => rfl) (fun _ _ _ => rfl) (fun _ => rfl)
    (fun set (delete : BgpProcessDeleteIntent) => set.insert delete.vrf) objects state

theorem foldl_placeBgpNeighborDelete (objects : List BgpNeighborDeleteIntent) :
    objects.foldl DeviceDesiredState.placeBgpNeighborDelete state =
      { state with
        deleteBgpNeighbors :=
          objects.foldl (fun map delete => map.insert delete.config.key delete.config)
            state.deleteBgpNeighbors } :=
  foldl_field DeviceDesiredState.deleteBgpNeighbors
    (fun state field => { state with deleteBgpNeighbors := field })
    (fun _ _ => rfl) (fun _ _ _ => rfl) (fun _ => rfl)
    (fun map (delete : BgpNeighborDeleteIntent) => map.insert delete.config.key delete.config)
    objects state

end Placed

/-- The eight loops, seen from one endpoint. -/
def UnderlayDomainIntent.placedState (intent : UnderlayDomainIntent)
    (endpointId : DeviceId) : DeviceDesiredState :=
  let state := intent.endpointState endpointId
  let state := (intent.reached endpointId InterfaceIntent.deviceId intent.interfaces).foldl
    .placeInterface state
  let state :=
    (intent.reached endpointId InterfaceDeleteIntent.deviceId intent.deleteInterfaces).foldl
      .placeInterfaceDelete state
  let state := (intent.reached endpointId AclBindingIntent.deviceId intent.aclBindings).foldl
    .placeAclBinding state
  let state := (intent.reached endpointId AclBindingIntent.deviceId intent.deleteAclBindings).foldl
    .placeAclBindingDelete state
  let state := (intent.reached endpointId BgpProcessIntent.deviceId intent.bgpProcesses).foldl
    .placeBgpProcess state
  let state := (intent.reached endpointId BgpNeighborIntent.deviceId intent.bgpNeighbors).foldl
    .placeBgpNeighbor state
  let state :=
    (intent.reached endpointId BgpProcessDeleteIntent.deviceId intent.deleteBgpProcesses).foldl
      .placeBgpProcessDelete state
  let state :=
    (intent.reached endpointId BgpNeighborDeleteIntent.deviceId intent.deleteBgpNeighbors).foldl
      .placeBgpNeighborDelete state
  state

theorem placedState_eq (intent : UnderlayDomainIntent) (endpointId : DeviceId) :
    intent.placedState endpointId = intent.plannedState endpointId := by
  have vlans : (intent.endpointState endpointId).vlans =
      gather VlanConfig.vlanId (intent.vlans.map VlanIntent.config) := by
    rw [gather, List.map_map]
    rfl
  have acls : (intent.endpointState endpointId).acls =
      gather AclConfig.aclId (intent.acls.map AclIntent.config) := by
    rw [gather, List.map_map]
    rfl
  simp only [UnderlayDomainIntent.placedState, foldl_placeInterface, foldl_placeInterfaceDelete,
    foldl_placeAclBinding, foldl_placeAclBindingDelete, foldl_placeBgpProcess,
    foldl_placeBgpNeighbor, foldl_placeBgpProcessDelete, foldl_placeBgpNeighborDelete, vlans, acls]
  simp only [UnderlayDomainIntent.plannedState, gather_eq_foldl, List.foldl_map,
    ofList_eq_foldl (List.map _ _)]
  rfl

section Spec

variable {intent : UnderlayDomainIntent} (validated : intent.Validated)

include validated

theorem memberToEndpoint_eq_some_iff {deviceId : DeviceId} :
    intent.memberToEndpoint[deviceId]? = some endpointId ↔ intent.Reaches endpointId deviceId := by
  constructor
  · intro found
    have entry := mem_of_getElem?_ofList found
    rw [List.mem_map] at entry
    rcases entry with ⟨member, isMember, same⟩
    rw [Prod.mk.injEq] at same
    exact ⟨member, isMember, same⟩
  · rintro ⟨member, isMember, rfl, rfl⟩
    refine Std.ExtTreeMap.getElem?_ofList_of_mem (k := member.memberId)
      Std.ReflOrd.compare_self ?_ (List.mem_map_of_mem isMember)
    have distinct := validated.membersDistinct
    rw [List.Nodup, List.pairwise_map] at distinct
    rw [List.pairwise_map]
    exact distinct.imp fun differ same => differ (Std.LawfulEqCmp.eq_of_compare same)

theorem exists_reaches {deviceId : DeviceId}
    (isMember : deviceId ∈ intent.members.map SwitchMemberIntent.memberId) :
    ∃ endpointId ∈ intent.endpoints.map ManagementEndpointIntent.endpointId,
      intent.memberToEndpoint[deviceId]? = some endpointId := by
  rcases List.mem_map.mp isMember with ⟨member, inMembers, rfl⟩
  refine ⟨member.managementEndpointId, validated.endpointKnown member inMembers, ?_⟩
  exact (memberToEndpoint_eq_some_iff validated).mpr ⟨member, inMembers, rfl, rfl⟩

theorem reached_eq_filter (endpointId : DeviceId) (owner : Object → DeviceId)
    (objects : List Object) :
    (objects.filter fun object => intent.memberToEndpoint[owner object]? = some endpointId) =
      intent.reached endpointId owner objects := by
  apply List.filter_congr
  intro object _
  rw [decide_eq_decide]
  exact memberToEndpoint_eq_some_iff validated

theorem holds_endpointStates :
    Holds (intent.endpoints.map ManagementEndpointIntent.endpointId) intent.endpointStates
      intent.endpointState := by
  intro id
  split
  · rename_i isEndpoint
    rcases List.mem_map.mp isEndpoint with ⟨endpoint, inEndpoints, rfl⟩
    refine Std.ExtTreeMap.getElem?_ofList_of_mem (k := endpoint.endpointId)
      Std.ReflOrd.compare_self ?_ (List.mem_map_of_mem inEndpoints)
    have distinct := validated.endpointsDistinct
    rw [List.Nodup, List.pairwise_map] at distinct
    rw [List.pairwise_map]
    exact distinct.imp fun differ same => differ (Std.LawfulEqCmp.eq_of_compare same)
  · rename_i notEndpoint
    cases found : intent.endpointStates[id]? with
    | none => rfl
    | some state =>
        have entry := mem_of_getElem?_ofList found
        rw [List.mem_map] at entry
        rcases entry with ⟨endpoint, inEndpoints, same⟩
        rw [Prod.mk.injEq] at same
        exact absurd (same.1 ▸ List.mem_map_of_mem inEndpoints) notEndpoint

/-- One loop of the planner, over objects whose owners are members. -/
theorem Holds.reach {states : EndpointStates} {expected : DeviceId → DeviceDesiredState}
    (holds : Holds (intent.endpoints.map ManagementEndpointIntent.endpointId) states expected)
    (areMembers : ∀ object ∈ objects,
      owner object ∈ intent.members.map SwitchMemberIntent.memberId) (subject : String)
    (place : DeviceDesiredState → Object → DeviceDesiredState) :
    ∃ next,
      AriaUnderlay.planObjects intent.memberToEndpoint subject owner place objects states =
          .ok next ∧
        Holds (intent.endpoints.map ManagementEndpointIntent.endpointId) next fun id =>
          (intent.reached id owner objects).foldl place (expected id) := by
  have known := fun object isObject => exists_reaches validated (areMembers object isObject)
  rcases holds.planObjects known with ⟨next, planned, holdsNext⟩
  refine ⟨next, planned, ?_⟩
  simpa only [reached_eq_filter validated] using holdsNext

/-- Every accepted intent is planned, to the planned state of each of its endpoints. -/
theorem planUnderlayDomain_holds (accepted : validateUnderlayDomainIntent intent = .ok ()) :
    ∃ states,
      planUnderlayDomain intent = .ok (states.toList.map Prod.snd) ∧
        Holds (intent.endpoints.map ManagementEndpointIntent.endpointId) states
          intent.plannedState := by
  rcases (holds_endpointStates validated).reach validated validated.interfaceMember
    "interface" DeviceDesiredState.placeInterface with ⟨_, interfaces, holds⟩
  rcases holds.reach validated validated.interfaceDeleteMember
    "interface delete" DeviceDesiredState.placeInterfaceDelete with ⟨_, interfaceDeletes, holds⟩
  rcases holds.reach validated validated.aclBindingMember
    "ACL binding" DeviceDesiredState.placeAclBinding with ⟨_, aclBindings, holds⟩
  rcases holds.reach validated validated.aclBindingDeleteMember
    "ACL binding delete" DeviceDesiredState.placeAclBindingDelete with ⟨_, aclBindingDeletes, holds⟩
  rcases holds.reach validated validated.bgpProcessMember
    "BGP process" DeviceDesiredState.placeBgpProcess with ⟨_, bgpProcesses, holds⟩
  rcases holds.reach validated validated.bgpNeighborMember
    "BGP neighbor" DeviceDesiredState.placeBgpNeighbor with ⟨_, bgpNeighbors, holds⟩
  rcases holds.reach validated validated.bgpProcessDeleteMember
    "BGP process delete" DeviceDesiredState.placeBgpProcessDelete with ⟨_, bgpProcessDeletes, holds⟩
  rcases holds.reach validated validated.bgpNeighborDeleteMember
    "BGP neighbor delete" DeviceDesiredState.placeBgpNeighborDelete with
    ⟨states, bgpNeighborDeletes, holds⟩
  refine ⟨states, ?_, ?_⟩
  · simp only [planUnderlayDomain, accepted, interfaces, interfaceDeletes, aclBindings,
      aclBindingDeletes, bgpProcesses, bgpNeighbors, bgpProcessDeletes, bgpNeighborDeletes,
      bind, Except.bind]
    rfl
  · intro id
    rw [← placedState_eq]
    exact holds id

/-- The plan lists the planned states of the endpoints in the order of their ids. -/
theorem planUnderlayDomain_spec (accepted : validateUnderlayDomainIntent intent = .ok ()) :
    ∃ endpointIds : List DeviceId,
      endpointIds.Pairwise (compare · · = .lt) ∧
        endpointIds.Perm (intent.endpoints.map ManagementEndpointIntent.endpointId) ∧
          planUnderlayDomain intent = .ok (endpointIds.map intent.plannedState) := by
  rcases planUnderlayDomain_holds validated accepted with ⟨states, planned, holds⟩
  have entry : ∀ {id state}, (id, state) ∈ states.toList ↔
      id ∈ intent.endpoints.map ManagementEndpointIntent.endpointId ∧
        intent.plannedState id = state := by
    intro id state
    rw [Std.ExtTreeMap.mem_toList_iff_getElem?_eq_some, holds id]
    split <;> simp_all
  have sorted : (states.toList.map Prod.fst).Pairwise (compare · · = .lt) := by
    rw [List.pairwise_map]
    exact Std.ExtTreeMap.ordered_keys_toList
  refine ⟨states.toList.map Prod.fst, sorted, ?_, ?_⟩
  · have distinct : (states.toList.map Prod.fst).Nodup := by
      rw [Std.ExtTreeMap.map_fst_toList_eq_keys]
      exact Std.ExtTreeMap.nodup_keys
    rw [List.perm_ext_iff_of_nodup distinct validated.endpointsDistinct]
    intro id
    simp only [List.mem_map (f := Prod.fst), Prod.exists, entry]
    simp
  · rw [planned, List.map_map]
    refine congrArg Except.ok (List.map_congr_left ?_)
    rintro ⟨id, state⟩ isEntry
    exact (entry.mp isEntry).2.symm

end Spec

end AriaUnderlay
