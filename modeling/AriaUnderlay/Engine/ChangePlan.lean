import AriaUnderlay.Engine.Replay

/-!
# Change plans

A change plan sorts the operations of a change set into stages, lists what the operations depend on
and how they would be rolled back, and decides whether the change may be written at all.  Features
with a high risk are written only where the profile of the device shows that they can be.
-/

namespace AriaUnderlay

open Collections

/-! ## Profiles of device models -/

/-- The protocols over which a model path is served. -/
inductive ModelProtocol where
  | openConfigGnmi
  | openConfigNetconf
  | vendorNativeYang
  | vendorCli
  deriving DecidableEq, Repr

/-- Whether a feature of a device may be written. -/
inductive WriteReadiness where
  | readOnly
  | writeSafe
  | writeRejected
  deriving DecidableEq, Repr

/-- What a device supports of one model path. -/
structure ModelPathSupport where
  protocol : ModelProtocol
  model : String
  path : String
  readable : Bool
  writable : Bool
  verifiedOnDevice : Bool
  deriving DecidableEq, Repr

/-- What is known of the models of a device. -/
structure DeviceModelProfile where
  paths : List ModelPathSupport
  pbrWriteReadiness : WriteReadiness
  bgpWriteReadiness : WriteReadiness
  rejectionReasons : List String
  deriving DecidableEq, Repr

/-! ## Parts of a plan -/

/-- Whether and through which model a plan may be written. -/
inductive DryRunWriteDecision where
  | allowedStandardModel
  | allowedVendorNative
  | allowedVendorPrivate
  | readOnly
  | rejected
  deriving DecidableEq, Repr

def DryRunWriteDecision.isAllowed : DryRunWriteDecision → Bool
  | .allowedStandardModel | .allowedVendorNative | .allowedVendorPrivate => true
  | .readOnly | .rejected => false

/-- The features that need evidence before they are written. -/
inductive HighRiskFeature where
  | pbr
  | bgp
  | qos
  | nqa
  deriving DecidableEq, Repr

/-- The stages of a plan. -/
inductive ChangePlanStageKind where
  | unbindReferences
  | deleteBaseObjects
  | createBaseObjects
  | updateBaseObjects
  | bindReferences
  deriving DecidableEq, Repr

/-- The operations of one stage. -/
structure ChangePlanStage where
  kind : ChangePlanStageKind
  ops : List ChangeOp
  deriving DecidableEq, Repr

/-- One step of a plan depends on another. -/
structure ChangeDependencyEdge where
  source : String
  target : String
  deriving DecidableEq, Repr

/-- The two uses of a route policy at a neighbor. -/
inductive RoutePolicyDirection where
  | importPolicy
  | exportPolicy
  deriving DecidableEq, Repr

/-- A neighbor uses a route policy. -/
structure RoutePolicyDependency where
  neighbor : String
  policy : String
  direction : RoutePolicyDirection
  deriving DecidableEq, Repr

/-- How far a change reaches. -/
inductive BlastRadius where
  | noChange
  | localInterfaceOrVlan
  | policyReference
  | routingControlPlane
  deriving DecidableEq, Repr

/-- A change set in stages, with what speaks for and against writing it. -/
structure ChangePlan where
  deviceId : DeviceId
  highRiskFeatures : List HighRiskFeature
  stages : List ChangePlanStage
  dependencyEdges : List ChangeDependencyEdge
  routePolicyDependencies : List RoutePolicyDependency
  missingRoutePolicyRefs : List String
  rollbackOrder : List String
  blastRadius : BlastRadius
  unsupportedPaths : List String
  writeDecision : DryRunWriteDecision
  deriving DecidableEq, Repr

/-! ## Stages -/

def ChangeOp.stageKind : ChangeOp → ChangePlanStageKind
  | .deleteAclBinding _ _ _ | .deleteBgpNeighbor _ _ => .unbindReferences
  | .deleteAcl _ | .deleteVlan _ | .deleteInterfaceConfig _ | .deleteBgpProcess _ =>
      .deleteBaseObjects
  | .createAcl _ | .createVlan _ | .createBgpProcess _ => .createBaseObjects
  | .updateAcl _ _ | .updateVlan _ _ | .updateInterface _ _ | .updateBgpProcess _ _ =>
      .updateBaseObjects
  | .createAclBinding _ | .updateAclBinding _ _ | .createBgpNeighbor _ | .updateBgpNeighbor _ _ =>
      .bindReferences

/-- The operations that the loop collects for one stage. -/
def stageOps (ops : List ChangeOp) (kind : ChangePlanStageKind) : List ChangeOp :=
  ops.filter fun op => op.stageKind = kind

def pushStage (kind : ChangePlanStageKind) (ops : List ChangeOp) : List ChangePlanStage :=
  if ops.isEmpty then [] else [{ kind := kind, ops := ops }]

/-- The stages in the order in which they are carried out. -/
def stageKinds : List ChangePlanStageKind :=
  [.unbindReferences, .deleteBaseObjects, .createBaseObjects, .updateBaseObjects, .bindReferences]

def changePlanStages (ops : List ChangeOp) : List ChangePlanStage :=
  stageKinds.flatMap fun kind => pushStage kind (stageOps ops kind)

/-! ## Names of objects -/

/-- The word for a direction. -/
def aclDirectionText : AclDirection → String
  | .inbound => "inbound"
  | .outbound => "outbound"

def aclNode (aclId : UInt16) (suffix : String) : String :=
  if suffix = "" then "acl " ++ toString aclId else "acl " ++ toString aclId ++ " " ++ suffix

/-- The node of a binding. -/
def aclBindingNode (interfaceName : String) (direction : AclDirection) (aclId : UInt16)
    (suffix : String) : String :=
  let node := "acl-binding " ++ interfaceName ++ " " ++ aclDirectionText direction ++ " acl "
    ++ toString aclId
  if suffix = "" then node else node ++ " " ++ suffix

/-- The node of a BGP process. -/
def bgpProcessNode (vrf : String) : String :=
  "bgp-process " ++ vrf

/-- The node of a BGP neighbor. -/
def bgpNeighborNode (vrf address : String) : String :=
  "bgp-neighbor " ++ vrf ++ " " ++ address

/-- The node of a route policy. -/
def routePolicyNode (policy : String) : String :=
  "route-policy " ++ policy

def normalizedPolicyRef (policy : Option String) : Option String :=
  policy.bind fun policy => if trim policy = "" then none else some (trim policy)

/-! ## Dependencies -/

def deleteAclBindingEdges (ops : List ChangeOp) (aclId : UInt16) : List ChangeDependencyEdge :=
  ops.filterMap fun
    | .deleteAclBinding interfaceName direction bindingAclId =>
        if bindingAclId = aclId then
          some ⟨aclNode aclId "delete", aclBindingNode interfaceName direction aclId "unbind"⟩
        else none
    | _ => none

def deleteBgpNeighborEdges (ops : List ChangeOp) (vrf : String) : List ChangeDependencyEdge :=
  ops.filterMap fun
    | .deleteBgpNeighbor neighborVrf address =>
        if neighborVrf = vrf then
          some ⟨bgpProcessNode vrf ++ " delete", bgpNeighborNode vrf address ++ " delete"⟩
        else none
    | _ => none

/-- A binding depends on its ACL. -/
def bindingEdges (binding : AclBinding) : List ChangeDependencyEdge :=
  [⟨aclBindingNode binding.interfaceName binding.direction binding.aclId "",
    aclNode binding.aclId ""⟩]

def neighborEdges (neighbor : BgpNeighbor) : List ChangeDependencyEdge :=
  let node := bgpNeighborNode neighbor.vrf neighbor.address
  ⟨node, bgpProcessNode neighbor.vrf⟩ ::
    ((normalizedPolicyRef neighbor.importPolicy).toList ++
      (normalizedPolicyRef neighbor.exportPolicy).toList).map fun policy =>
        ⟨node, routePolicyNode policy⟩

/-- The edges of all operations. -/
def dependencyEdgesForChangeSet (changeSet : ChangeSet) : List ChangeDependencyEdge :=
  changeSet.ops.flatMap fun
    | .createAclBinding binding | .updateAclBinding _ binding => bindingEdges binding
    | .deleteAcl aclId =>
        let edges := deleteAclBindingEdges changeSet.ops aclId
        if edges.isEmpty then
          [⟨aclNode aclId "delete", "all acl " ++ toString aclId ++ " bindings unbound"⟩]
        else edges
    | .createBgpNeighbor neighbor | .updateBgpNeighbor _ neighbor => neighborEdges neighbor
    | .deleteBgpProcess vrf =>
        let edges := deleteBgpNeighborEdges changeSet.ops vrf
        if edges.isEmpty then
          [⟨bgpProcessNode vrf ++ " delete", "all bgp process " ++ vrf ++ " neighbors removed"⟩]
        else edges
    | _ => []

def neighborPolicyDependencies (neighbor : BgpNeighbor) : List RoutePolicyDependency :=
  let node := bgpNeighborNode neighbor.vrf neighbor.address
  ((normalizedPolicyRef neighbor.importPolicy).map fun policy =>
      (⟨node, policy, .importPolicy⟩ : RoutePolicyDependency)).toList ++
    ((normalizedPolicyRef neighbor.exportPolicy).map fun policy =>
      (⟨node, policy, .exportPolicy⟩ : RoutePolicyDependency)).toList

/-- The neighbor that an operation creates or updates. -/
def ChangeOp.storedNeighbor : ChangeOp → Option BgpNeighbor
  | .createBgpNeighbor neighbor | .updateBgpNeighbor _ neighbor => some neighbor
  | _ => none

def routePolicyDependenciesForChangeSet (changeSet : ChangeSet) : List RoutePolicyDependency :=
  (changeSet.ops.filterMap ChangeOp.storedNeighbor).flatMap neighborPolicyDependencies

def missingRoutePolicyRefs (dependencies : List RoutePolicyDependency)
    (routePolicyEvidence : BTreeSet String) : List String :=
  let missing := (dependencies.map fun dependency => trim dependency.policy).filter fun policy =>
    policy ≠ "" ∧ policy ∉ routePolicyEvidence
  (.ofList missing : BTreeSet String).toList

/-! ## Rollback -/

def rollbackActionForOp : ChangeOp → String
  | .createVlan vlan => "delete vlan " ++ toString vlan.vlanId
  | .updateVlan before _ => "restore vlan " ++ toString before.vlanId
  | .deleteVlan vlanId => "restore vlan " ++ toString vlanId
  | .updateInterface _ after => "restore interface " ++ after.name
  | .deleteInterfaceConfig interfaceName => "restore interface " ++ interfaceName
  | .createAcl acl => "delete acl " ++ toString acl.aclId
  | .updateAcl before _ => "restore acl " ++ toString before.aclId
  | .deleteAcl aclId => "restore acl " ++ toString aclId
  | .createAclBinding binding => "remove acl binding " ++ toString binding.aclId ++ " on "
      ++ binding.interfaceName ++ " " ++ aclDirectionText binding.direction
  | .updateAclBinding before _ => "restore acl binding " ++ toString before.aclId ++ " on "
      ++ before.interfaceName ++ " " ++ aclDirectionText before.direction
  | .deleteAclBinding interfaceName direction aclId => "restore acl binding " ++ toString aclId
      ++ " on " ++ interfaceName ++ " " ++ aclDirectionText direction
  | .createBgpProcess process => "delete bgp process " ++ process.vrf
  | .updateBgpProcess before _ => "restore bgp process " ++ before.vrf
  | .deleteBgpProcess vrf => "restore bgp process " ++ vrf
  | .createBgpNeighbor neighbor => "delete bgp neighbor " ++ neighbor.vrf ++ " " ++ neighbor.address
  | .updateBgpNeighbor before _ => "restore bgp neighbor " ++ before.vrf ++ " " ++ before.address
  | .deleteBgpNeighbor vrf address => "restore bgp neighbor " ++ vrf ++ " " ++ address

def rollbackOrderForStages (stages : List ChangePlanStage) : List String :=
  stages.reverse.flatMap fun stage => stage.ops.reverse.map rollbackActionForOp

/-! ## Features and paths -/

def HighRiskFeature.name : HighRiskFeature → String
  | .pbr => "pbr"
  | .bgp => "bgp"
  | .qos => "qos"
  | .nqa => "nqa"

def HighRiskFeature.matchesPath (feature : HighRiskFeature) (path : ModelPathSupport) : Bool :=
  let model := path.model.toLower
  let pathText := path.path.toLower
  match feature with
  | .pbr => containsText model "pbr" || containsText model "policy-forwarding"
      || containsText pathText "pbr" || containsText pathText "policy-forwarding"
  | .bgp => containsText model "bgp" || containsText pathText "bgp"
  | .qos => containsText model "qos" || containsText model "quality-of-service"
      || containsText pathText "qos" || containsText pathText "quality-of-service"
      || containsText pathText "traffic"
  | .nqa => containsText model "nqa" || containsText pathText "nqa"

def touchesAcl (changeSet : ChangeSet) : Bool :=
  changeSet.ops.any fun
    | .createAcl _ | .updateAcl _ _ | .deleteAcl _ | .createAclBinding _ | .updateAclBinding _ _
    | .deleteAclBinding _ _ _ => true
    | _ => false

def touchesPbr (_ : ChangeSet) : Bool :=
  false

/-- The operations about BGP. -/
def ChangeOp.isBgp : ChangeOp → Bool
  | .createBgpProcess _ | .updateBgpProcess _ _ | .deleteBgpProcess _ | .createBgpNeighbor _
  | .updateBgpNeighbor _ _ | .deleteBgpNeighbor _ _ => true
  | _ => false

/-- Some operation is about BGP. -/
def touchesBgp (changeSet : ChangeSet) : Bool :=
  changeSet.ops.any ChangeOp.isBgp

/-- A feature is listed once. -/
def pushUniqueFeature (features : List HighRiskFeature)
    (feature : HighRiskFeature) : List HighRiskFeature :=
  if feature ∈ features then features else features ++ [feature]

def effectiveHighRiskFeatures (changeSet : ChangeSet)
    (declaredFeatures : List HighRiskFeature) : List HighRiskFeature :=
  let features := if touchesPbr changeSet then pushUniqueFeature [] .pbr else []
  let features := if touchesBgp changeSet then pushUniqueFeature features .bgp else features
  declaredFeatures.foldl pushUniqueFeature features

def classifyBlastRadius (changeSet : ChangeSet)
    (highRiskFeatures : List HighRiskFeature) : BlastRadius :=
  if .bgp ∈ highRiskFeatures then .routingControlPlane
  else if highRiskFeatures ≠ [] then .policyReference
  else if changeSet.ops = [] then .noChange
  else if touchesBgp changeSet then .routingControlPlane
  else if touchesAcl changeSet then .policyReference
  else .localInterfaceOrVlan

/-- The model paths of BGP. -/
def isBgpPath (path : ModelPathSupport) : Bool :=
  containsText path.model.toLower "bgp" || containsText path.path.toLower "bgp"

def hasWritableBgpPath (profile : DeviceModelProfile) : Bool :=
  profile.paths.any fun path =>
    isBgpPath path && path.verifiedOnDevice && path.writable && path.readable

def featureReadiness (profile : DeviceModelProfile) : HighRiskFeature → Option WriteReadiness
  | .pbr => some profile.pbrWriteReadiness
  | .bgp => some profile.bgpWriteReadiness
  | .qos | .nqa => none

def hasVerifiedWritablePathForFeature (profile : DeviceModelProfile)
    (feature : HighRiskFeature) : Bool :=
  profile.paths.any fun path =>
    path.readable && path.writable && path.verifiedOnDevice && feature.matchesPath path

/-- The names of the features are ASCII, and no other character is lowered to one of theirs. -/
def firstRejectionReason (profile : DeviceModelProfile) (feature : String) : String :=
  (profile.rejectionReasons.find? fun reason => containsText reason.toLower feature).getD
    ("write rejected for " ++ feature)

def featureRejectionReason (profile : DeviceModelProfile) (feature : String) : String :=
  let reason := firstRejectionReason profile feature
  if (stripPrefix (trimStart reason).toLower (feature ++ ":")).isSome then reason
  else feature ++ ": " ++ reason

/-- What the profile lacks for one feature. -/
def unsupportedPathsOfFeature (profile : DeviceModelProfile)
    (feature : HighRiskFeature) : List String :=
  match featureReadiness profile feature with
  | some .writeSafe =>
      if feature = .bgp ∧ !hasWritableBgpPath profile then
        ["bgp: missing writable BGP path evidence"]
      else if feature ≠ .bgp ∧ !hasVerifiedWritablePathForFeature profile feature then
        [feature.name ++ ": missing verified writable path-level evidence"]
      else []
  | some .readOnly => [feature.name ++ ": write readiness is read-only"]
  | some .writeRejected => [featureRejectionReason profile feature.name]
  | none => [feature.name ++ ": DeviceModelProfile write readiness is not implemented"]

def collectUnsupportedPaths (profile : Option DeviceModelProfile)
    (missingRoutePolicyRefs : List String)
    (highRiskFeatures : List HighRiskFeature) : List String :=
  let unsupported := missingRoutePolicyRefs.map fun policy =>
    "bgp: missing route-policy evidence " ++ policy
  match profile with
  | none => unsupported ++ highRiskFeatures.map fun feature =>
      feature.name ++ ": missing device model profile"
  | some profile => unsupported ++ highRiskFeatures.flatMap (unsupportedPathsOfFeature profile)

/-! ## The decision -/

def writablePaths (profile : DeviceModelProfile) (changeSet : ChangeSet) : List ModelPathSupport :=
  (profile.paths.filter fun path => !touchesBgp changeSet || isBgpPath path).filter fun path =>
    path.verifiedOnDevice && path.writable && path.readable

def ModelPathSupport.isOpenConfig (path : ModelPathSupport) : Bool :=
  path.verifiedOnDevice && path.writable &&
    (path.protocol = .openConfigGnmi || path.protocol = .openConfigNetconf)

def classifyWriteDecision (profile : Option DeviceModelProfile) (blastRadius : BlastRadius)
    (unsupportedPaths : List String) (changeSet : ChangeSet)
    (highRiskFeatures : List HighRiskFeature) : DryRunWriteDecision :=
  match profile with
  | none =>
      if highRiskFeatures ≠ [] ∨ blastRadius = .routingControlPlane then .rejected
      else .allowedVendorPrivate
  | some profile =>
      if highRiskFeatures.any fun feature => featureReadiness profile feature = some .readOnly then
        .readOnly
      else if (blastRadius = .routingControlPlane ∨ blastRadius = .policyReference) ∧
          unsupportedPaths ≠ [] then .rejected
      else if (profile.pbrWriteReadiness = .writeRejected ∧
          profile.bgpWriteReadiness = .writeRejected) ∧ blastRadius = .routingControlPlane then
        .rejected
      else if (touchesPbr changeSet ∧ profile.pbrWriteReadiness = .readOnly ∨
          touchesBgp changeSet ∧ profile.bgpWriteReadiness = .readOnly) ∧
          (blastRadius = .routingControlPlane ∨ blastRadius = .policyReference) then .readOnly
      else if writablePaths profile changeSet ≠ [] then
        if (writablePaths profile changeSet).any ModelPathSupport.isOpenConfig then
          .allowedStandardModel
        else .allowedVendorNative
      else .allowedVendorPrivate

/-- The plan for a change set. -/
def buildChangePlanWithProfileRoutePolicyEvidenceAndHighRiskFeatures (changeSet : ChangeSet)
    (profile : Option DeviceModelProfile) (routePolicyEvidence : BTreeSet String)
    (highRiskFeatures : List HighRiskFeature) : ChangePlan :=
  let stages := changePlanStages changeSet.ops
  let dependencies := routePolicyDependenciesForChangeSet changeSet
  let missing := missingRoutePolicyRefs dependencies routePolicyEvidence
  let features := effectiveHighRiskFeatures changeSet highRiskFeatures
  let blastRadius := classifyBlastRadius changeSet features
  let unsupported := collectUnsupportedPaths profile missing features
  { deviceId := changeSet.deviceId
    highRiskFeatures := features
    stages := stages
    dependencyEdges := dependencyEdgesForChangeSet changeSet
    routePolicyDependencies := dependencies
    missingRoutePolicyRefs := missing
    rollbackOrder := rollbackOrderForStages stages
    blastRadius := blastRadius
    unsupportedPaths := unsupported
    writeDecision := classifyWriteDecision profile blastRadius unsupported changeSet features }

/-- The operations in the order of the stages. -/
def ChangePlan.stagedOps (plan : ChangePlan) : List ChangeOp :=
  plan.stages.flatMap ChangePlanStage.ops

/-! ## Staging -/

section Staging

variable {ops : List ChangeOp}

theorem flatMap_ops_changePlanStages (ops : List ChangeOp) :
    (changePlanStages ops).flatMap ChangePlanStage.ops = stageKinds.flatMap (stageOps ops) := by
  rw [changePlanStages, List.flatMap_assoc]
  congr 1
  funext kind
  cases stageOps ops kind <;> simp [pushStage]

/-- Every stage holds the operations of its kind, in the order of the change set. -/
theorem ops_of_mem_changePlanStages {stage : ChangePlanStage}
    (member : stage ∈ changePlanStages ops) :
    stage.ops = stageOps ops stage.kind := by
  rcases List.mem_flatMap.mp member with ⟨kind, -, isPushed⟩
  unfold pushStage at isPushed
  split at isPushed
  · cases isPushed
  · rw [List.mem_singleton.mp isPushed]

/-- Sorting by kinds that are all listed once loses and repeats nothing. -/
theorem perm_stagedOps (ops : List ChangeOp) : (stageKinds.flatMap (stageOps ops)).Perm ops := by
  induction ops with
  | nil => simp [stageKinds, stageOps]
  | cons op rest ih =>
      rw [List.perm_iff_count] at ih ⊢
      intro other
      have counted := ih other
      rw [List.count_flatMap] at counted ⊢
      rw [List.count_cons, ← counted]
      by_cases same : op = other
      · subst same
        cases op <;> simp [stageKinds, stageOps, ChangeOp.stageKind] <;> omega
      · have unseen : ∀ kind, (stageOps (op :: rest) kind).count other =
            (stageOps rest kind).count other := by
          intro kind
          simp only [stageOps, List.filter_cons]
          split
          · rw [List.count_cons_of_ne same]
          · rfl
        simp [Function.comp_def, unseen, same]

theorem rollbackOrderForStages_eq (stages : List ChangePlanStage) :
    rollbackOrderForStages stages =
      ((stages.flatMap ChangePlanStage.ops).map rollbackActionForOp).reverse := by
  induction stages with
  | nil => rfl
  | cons stage rest ih =>
      rw [rollbackOrderForStages] at ih ⊢
      rw [List.reverse_cons, List.flatMap_append, ih]
      simp

variable {changeSet : ChangeSet} {profile : Option DeviceModelProfile}
  {routePolicyEvidence : BTreeSet String} {highRiskFeatures : List HighRiskFeature}
  {plan : ChangePlan}

variable (built : buildChangePlanWithProfileRoutePolicyEvidenceAndHighRiskFeatures changeSet profile
      routePolicyEvidence highRiskFeatures = plan)

include built

theorem stagedOps_eq :
    plan.stagedOps = stageKinds.flatMap (stageOps changeSet.ops) := by
  subst built
  exact flatMap_ops_changePlanStages changeSet.ops

theorem stagedOps_perm :
    plan.stagedOps.Perm changeSet.ops := by
  rw [stagedOps_eq built]
  exact perm_stagedOps changeSet.ops

theorem stage_ops_eq {stage : ChangePlanStage} (member : stage ∈ plan.stages) :
    stage.ops = stageOps changeSet.ops stage.kind := by
  subst built
  exact ops_of_mem_changePlanStages member

theorem rollbackOrder_eq :
    plan.rollbackOrder = (plan.stagedOps.map rollbackActionForOp).reverse := by
  subst built
  exact rollbackOrderForStages_eq _

end Staging

/-- Only which operations a diff holds matters for its replay, not their order. -/
theorem applyToShadow_of_members {desired : DeviceDesiredState} {current : DeviceShadowState}
    {others : List ChangeOp} {revision : UInt64}
    (consistent : (normalizeDesiredState desired).Consistent)
    (same : ∀ {op}, op ∈ others ↔ op ∈ (computeDiff desired current).ops) :
    ({ computeDiff desired current with ops := others } : ChangeSet).applyToShadow
        (some (normalizeShadowState current)) desired revision =
      (computeDiff desired current).applyToShadow
        (some (normalizeShadowState current)) desired revision := by
  let start : DeviceShadowState := { normalizeShadowState current with
    deviceId := desired.deviceId, revision := revision, warnings := [] }
  have sameOps : (computeDiff desired current).ops =
      normalizedDiffOps (normalizeDesiredState desired) start := rfl
  have follows := followsAll_normalizedDiffOps consistent start
  rw [ChangeSet.applyToShadow, ChangeSet.applyToShadow, sameOps]
  apply follows.foldl_eq
  intro op
  rw [← sameOps]
  exact same

/-- The stages hold the operations of the diff in another order that leads to the same state, and
the rollback goes through them backwards. -/
theorem changePlan_stages_replay (desired : DeviceDesiredState) (current : DeviceShadowState)
    (profile : Option DeviceModelProfile) (routePolicyEvidence : BTreeSet String)
    (highRiskFeatures : List HighRiskFeature) (revision : UInt64)
    (consistent : (normalizeDesiredState desired).Consistent) :
    let changeSet := computeDiff desired current
    let plan := buildChangePlanWithProfileRoutePolicyEvidenceAndHighRiskFeatures changeSet profile
      routePolicyEvidence highRiskFeatures
    plan.stagedOps.Perm changeSet.ops ∧
      (∀ stage ∈ plan.stages,
        stage.ops = changeSet.ops.filter fun op => op.stageKind = stage.kind) ∧
      ({ changeSet with ops := plan.stagedOps } : ChangeSet).applyToShadow
          (some (normalizeShadowState current)) desired revision =
        changeSet.applyToShadow (some (normalizeShadowState current)) desired revision ∧
      plan.rollbackOrder = (plan.stagedOps.map rollbackActionForOp).reverse := by
  intro changeSet plan
  have built : buildChangePlanWithProfileRoutePolicyEvidenceAndHighRiskFeatures changeSet profile
    routePolicyEvidence highRiskFeatures = plan := rfl
  have perm := stagedOps_perm built
  refine ⟨perm, fun stage member => stage_ops_eq built member, ?_, rollbackOrder_eq built⟩
  exact applyToShadow_of_members consistent perm.mem_iff

theorem changePlan_stages_replay_rebinding :
    let changeSet := computeDiff rebindingDesired sampleCurrent
    let plan := buildChangePlanWithProfileRoutePolicyEvidenceAndHighRiskFeatures changeSet none ∅ []
    plan.stagedOps ≠ changeSet.ops ∧ plan.stagedOps.Perm changeSet.ops := by
  refine ⟨by decide +kernel, ?_⟩
  exact (changePlan_stages_replay rebindingDesired sampleCurrent none ∅ [] 5
    (by decide +kernel)).1

/-! ## What an allowed write rests on -/

section Evidence

variable {changeSet : ChangeSet} {profile : DeviceModelProfile}
  {routePolicyEvidence : BTreeSet String} {features : List HighRiskFeature}

variable {feature : HighRiskFeature}

theorem mem_pushUniqueFeature {added : HighRiskFeature} :
    feature ∈ pushUniqueFeature features added ↔ feature ∈ features ∨ feature = added := by
  unfold pushUniqueFeature
  split
  case isTrue present => grind
  case isFalse absent => simp

theorem mem_foldl_pushUniqueFeature (declared : List HighRiskFeature) :
    feature ∈ declared.foldl pushUniqueFeature features ↔
      feature ∈ features ∨ feature ∈ declared := by
  induction declared generalizing features with
  | nil => simp
  | cons added rest ih => rw [List.foldl_cons, ih, mem_pushUniqueFeature, List.mem_cons, or_assoc]

theorem bgp_mem_effectiveHighRiskFeatures (declared : List HighRiskFeature)
    (touches : touchesBgp changeSet = true) :
    .bgp ∈ effectiveHighRiskFeatures changeSet declared := by
  apply (mem_foldl_pushUniqueFeature declared).mpr
  left
  rw [if_pos touches]
  exact mem_pushUniqueFeature.mpr (.inr rfl)

/-- A plan with features at risk concerns the policies or the control plane. -/
theorem classifyBlastRadius_of_features (atRisk : features ≠ []) :
    classifyBlastRadius changeSet features = .routingControlPlane ∨
      classifyBlastRadius changeSet features = .policyReference := by
  unfold classifyBlastRadius
  by_cases isBgp : .bgp ∈ features
  · exact .inl (if_pos isBgp)
  · rw [if_neg isBgp, if_pos atRisk]
    exact .inr rfl

theorem unsupportedPaths_eq_nil_of_allowed {given : Option DeviceModelProfile}
    {blastRadius : BlastRadius} {unsupportedPaths : List String}
    (isHigh : blastRadius = .routingControlPlane ∨ blastRadius = .policyReference)
    (atRisk : features ≠ [])
    (isAllowed : (classifyWriteDecision given blastRadius unsupportedPaths changeSet
      features).isAllowed = true) :
    given.isSome ∧ unsupportedPaths = [] := by
  cases given with
  | none =>
      rw [classifyWriteDecision, if_pos (.inl atRisk)] at isAllowed
      cases isAllowed
  | some profile =>
      refine ⟨rfl, ?_⟩
      by_contra isUnsupported
      rw [classifyWriteDecision] at isAllowed
      split at isAllowed
      · cases isAllowed
      · rw [if_pos ⟨isHigh, isUnsupported⟩] at isAllowed
        cases isAllowed

/-- What a feature asks of a profile before it may be written. -/
def DeviceModelProfile.Supports (profile : DeviceModelProfile) (feature : HighRiskFeature) : Prop :=
  featureReadiness profile feature = some .writeSafe ∧
    ∃ path ∈ profile.paths, feature.matchesPath path = true ∧
      path.readable = true ∧ path.writable = true ∧ path.verifiedOnDevice = true

theorem hasWritableBgpPath_iff :
    hasWritableBgpPath profile = true ↔
      ∃ path ∈ profile.paths, HighRiskFeature.bgp.matchesPath path = true ∧
        path.readable = true ∧ path.writable = true ∧ path.verifiedOnDevice = true := by
  simp only [hasWritableBgpPath, List.any_eq_true, Bool.and_eq_true, isBgpPath,
    HighRiskFeature.matchesPath]
  grind

theorem hasVerifiedWritablePathForFeature_iff :
    hasVerifiedWritablePathForFeature profile feature = true ↔
      ∃ path ∈ profile.paths, feature.matchesPath path = true ∧
        path.readable = true ∧ path.writable = true ∧ path.verifiedOnDevice = true := by
  simp only [hasVerifiedWritablePathForFeature, List.any_eq_true, Bool.and_eq_true]
  grind

theorem unsupportedPathsOfFeature_eq_nil_iff :
    unsupportedPathsOfFeature profile feature = [] ↔ profile.Supports feature := by
  unfold unsupportedPathsOfFeature DeviceModelProfile.Supports
  cases featureReadiness profile feature with
  | none => simp
  | some readiness =>
      cases readiness with
      | readOnly => simp
      | writeRejected => simp
      | writeSafe =>
          by_cases isBgp : feature = .bgp
          · subst isBgp
            rw [← hasWritableBgpPath_iff]
            simp
          · rw [← hasVerifiedWritablePathForFeature_iff]
            simp [isBgp]

theorem mem_missingRoutePolicyRefs {dependencies : List RoutePolicyDependency} {policy : String} :
    policy ∈ missingRoutePolicyRefs dependencies routePolicyEvidence ↔
      (∃ dependency ∈ dependencies, trim dependency.policy = policy) ∧ policy ≠ "" ∧
        policy ∉ routePolicyEvidence := by
  simp [missingRoutePolicyRefs, Std.ExtTreeSet.mem_toList, Std.ExtTreeSet.mem_ofList]

/-- The policies that a neighbor names, without blanks around them. -/
def BgpNeighbor.namedPolicies (neighbor : BgpNeighbor) : List String :=
  (normalizedPolicyRef neighbor.importPolicy).toList ++
    (normalizedPolicyRef neighbor.exportPolicy).toList

theorem trimmed_of_normalizedPolicyRef {policy : Option String} {name : String}
    (isNamed : normalizedPolicyRef policy = some name) :
    trim name = name ∧ name ≠ "" := by
  cases policy with
  | none => cases isNamed
  | some raw =>
      simp only [normalizedPolicyRef, Option.bind_some] at isNamed
      split at isNamed
      case isTrue => cases isNamed
      case isFalse isText =>
        cases isNamed
        exact ⟨trim_trim raw, isText⟩

theorem mem_routePolicyDependencies {neighbor : BgpNeighbor} {name : String}
    (isStored : neighbor ∈ changeSet.ops.filterMap ChangeOp.storedNeighbor)
    (isNamed : name ∈ neighbor.namedPolicies) :
    ∃ dependency ∈ routePolicyDependenciesForChangeSet changeSet,
      trim dependency.policy = name ∧ name ≠ "" := by
  let node := bgpNeighborNode neighbor.vrf neighbor.address
  have inNeighbor : ∃ dependency ∈ neighborPolicyDependencies neighbor,
      trim dependency.policy = name ∧ name ≠ "" := by
    rcases List.mem_append.mp isNamed with imported | exported
    · have isRef := Option.mem_toList.mp imported
      exact ⟨⟨node, name, .importPolicy⟩, List.mem_append_left _ (by simp [isRef, node]),
        trimmed_of_normalizedPolicyRef isRef⟩
    · have isRef := Option.mem_toList.mp exported
      exact ⟨⟨node, name, .exportPolicy⟩, List.mem_append_right _ (by simp [isRef, node]),
        trimmed_of_normalizedPolicyRef isRef⟩
  rcases inNeighbor with ⟨dependency, member, isTrimmed, isText⟩
  exact ⟨dependency, List.mem_flatMap.mpr ⟨neighbor, isStored, member⟩, isTrimmed, isText⟩

end Evidence

/-- A write of features at risk is allowed on full evidence only. -/
theorem writeDecision_fails_closed (changeSet : ChangeSet) (given : Option DeviceModelProfile)
    (routePolicyEvidence : BTreeSet String) (highRiskFeatures : List HighRiskFeature) :
    let plan := buildChangePlanWithProfileRoutePolicyEvidenceAndHighRiskFeatures changeSet given
      routePolicyEvidence highRiskFeatures
    (plan.writeDecision.isAllowed = true → plan.highRiskFeatures ≠ [] →
      (∃ profile, given = some profile ∧
        ∀ feature ∈ plan.highRiskFeatures, profile.Supports feature) ∧
      (∀ neighbor ∈ changeSet.ops.filterMap ChangeOp.storedNeighbor,
        ∀ policy ∈ neighbor.namedPolicies, policy ∈ routePolicyEvidence) ∧
      plan.unsupportedPaths = []) ∧
    ((∃ op ∈ changeSet.ops, op.isBgp = true) → .bgp ∈ plan.highRiskFeatures) := by
  intro plan
  constructor
  · intro isAllowed atRisk
    rcases unsupportedPaths_eq_nil_of_allowed (classifyBlastRadius_of_features atRisk) atRisk
      isAllowed with ⟨isGiven, isSupported⟩
    rcases Option.isSome_iff_exists.mp isGiven with ⟨profile, rfl⟩
    have parts := List.append_eq_nil_iff.mp isSupported
    refine ⟨⟨profile, rfl, ?_⟩, ?_, isSupported⟩
    · intro feature member
      exact unsupportedPathsOfFeature_eq_nil_iff.mp
        (List.flatMap_eq_nil_iff.mp parts.2 feature member)
    · intro neighbor isStored policy isNamed
      by_contra isMissing
      rcases mem_routePolicyDependencies isStored isNamed with
        ⟨dependency, member, isTrimmed, isText⟩
      have listed := mem_missingRoutePolicyRefs.mpr
        ⟨⟨dependency, member, isTrimmed⟩, isText, isMissing⟩
      rw [List.map_eq_nil_iff.mp parts.1] at listed
      cases listed
  · rintro ⟨op, member, isBgp⟩
    exact bgp_mem_effectiveHighRiskFeatures _ (List.any_eq_true.mpr ⟨op, member, isBgp⟩)

/-- A profile on which BGP may be written. -/
def writableBgpProfile : DeviceModelProfile where
  paths := [⟨.openConfigNetconf, "openconfig-bgp", "/network-instances/bgp", true, true, true⟩]
  pbrWriteReadiness := .writeRejected
  bgpWriteReadiness := .writeSafe
  rejectionReasons := []

theorem writeDecision_fails_closed_bgp :
    let plan := buildChangePlanWithProfileRoutePolicyEvidenceAndHighRiskFeatures
      ⟨"leaf-a", [.deleteBgpProcess "blue"]⟩ (some writableBgpProfile) ∅ []
    plan.writeDecision = .allowedStandardModel ∧ plan.unsupportedPaths = [] := by
  refine ⟨by decide +kernel, ?_⟩
  exact ((writeDecision_fails_closed ⟨"leaf-a", [.deleteBgpProcess "blue"]⟩
    (some writableBgpProfile) ∅ []).1 (by decide +kernel) (by decide +kernel)).2.2

end AriaUnderlay
