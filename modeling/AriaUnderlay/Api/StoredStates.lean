import AriaUnderlay.Api.Process
import AriaUnderlay.Api.TaskDiscipline
import AriaUnderlay.Engine.Convergence

/-!
# What the stores hold

The journal and the shadows of a process hold nothing that no apply was asked for.  A record tells
all about its transaction: one device, what was asked of it and the change that was planned for it.
A shadow is in normal form and each of its objects was asked of its device.  This holds between any
two calls of any tasks, whatever was observed on the devices and wherever the process stopped.
-/

namespace AriaUnderlay

open Collections Effect

/-! ## Entries after a replay -/

section Replay

variable {κ ν : Type} [Ord κ] [Std.TransOrd κ] [Std.LawfulEqOrd κ] [DecidableEq κ] [DecidableEq ν]
variable {objects : ObjectMap κ ν} {ops : List ChangeOp} {state : DeviceShadowState}

omit [Std.LawfulEqOrd κ] [DecidableEq ν] in
/-- What holds of the entries of a map and of all that is written into it holds after a replay. -/
theorem ObjectMap.Lawful.forall_entries {holds : κ → ν → Prop} (lawful : objects.Lawful)
    (written : ∀ op ∈ ops, ∀ value, objects.upserted op = some value →
      holds (objects.key value) value)
    (before : ∀ (key : κ) (value : ν), (objects.read state)[key]? = some value → holds key value)
    (key : κ)
    (value : ν)
    (present : (objects.read (ops.foldl applyOp state))[key]? = some value) :
    holds key value := by
  rw [lawful.replay] at present
  refine List.foldlRecOn ops (objects.act key)
    (motive := fun now => ∀ value, now = some value → holds key value) (before key) ?_ value present
  intro now holdsNow op member value acted
  unfold ObjectMap.act at acted
  split at acted
  · rename_i stored isUpserted
    split at acted
    · rename_i sameKey
      rw [← sameKey, ← Option.some.inj acted]
      exact written op member stored isUpserted
    · exact holdsNow value acted
  · split at acted
    · cases acted
    · exact holdsNow value (Option.filter_eq_some_iff.mp acted).1

omit [DecidableEq κ] in
/-- The upsert pass of a map writes wanted entries. -/
theorem wanted_of_mem_upsertOps {create : ν → ChangeOp} {update : ν → ν → ChangeOp}
    {wanted current : BTreeMap κ ν} {op : ChangeOp} {value : ν}
    (canonical : Canonical objects.key objects.normalize wanted)
    (creates : ∀ value, objects.upserted (create value) = some value)
    (updates : ∀ present value, objects.upserted (update present value) = some value)
    (inPass : op ∈ upsertOps create update wanted current)
    (isUpserted : objects.upserted op = some value) :
    wanted[objects.key value]? = some value := by
  rw [mem_upsertOps] at inPass
  rcases inPass with ⟨key, stored, isWanted, ⟨-, rfl⟩ | ⟨present, -, -, rfl⟩⟩
  · obtain rfl : stored = value := by simpa [creates] using isUpserted
    rwa [(canonical key stored isWanted).1]
  · obtain rfl : stored = value := by simpa [updates] using isUpserted
    rwa [(canonical key stored isWanted).1]

end Replay

/-! ## Shadows -/

section Shadows

variable {asked : DeviceDesiredState → Prop} {desired : DeviceDesiredState}
variable {observed shadow : DeviceShadowState}

/-- Every entry of the map was asked of the device, up to normalization. -/
def AskedOf {κ ν : Type} [Ord κ] [Std.TransOrd κ] (asked : DeviceDesiredState → Prop)
    (device : DeviceId) (wanted : DeviceDesiredState → BTreeMap κ ν) (map : BTreeMap κ ν) : Prop :=
  ∀ (key : κ) (value : ν), map[key]? = some value →
    ∃ desired, asked desired ∧ desired.deviceId = device ∧
      (wanted (normalizeDesiredState desired))[key]? = some value

/-- Every object of the shadow was asked of its device. -/
structure DeviceShadowState.Asked (asked : DeviceDesiredState → Prop)
    (shadow : DeviceShadowState) : Prop where
  vlans : AskedOf asked shadow.deviceId DeviceDesiredState.vlans shadow.vlans
  interfaces : AskedOf asked shadow.deviceId DeviceDesiredState.interfaces shadow.interfaces
  acls : AskedOf asked shadow.deviceId DeviceDesiredState.acls shadow.acls
  aclBindings : AskedOf asked shadow.deviceId DeviceDesiredState.aclBindings shadow.aclBindings
  bgpProcesses : AskedOf asked shadow.deviceId DeviceDesiredState.bgpProcesses shadow.bgpProcesses
  bgpNeighbors : AskedOf asked shadow.deviceId DeviceDesiredState.bgpNeighbors shadow.bgpNeighbors

theorem askedOf_empty {κ ν : Type} [Ord κ] [Std.TransOrd κ] {device : DeviceId}
    {wanted : DeviceDesiredState → BTreeMap κ ν} :
    AskedOf asked device wanted ∅ := by
  intro key value present
  simp at present

theorem AskedOf.canonical {κ ν : Type} [Ord κ] [Std.TransOrd κ] {key : ν → κ} {normalize : ν → ν}
    {device : DeviceId} {wanted : DeviceDesiredState → BTreeMap κ ν} {map : BTreeMap κ ν}
    (wantedCanonical : ∀ desired, Canonical key normalize (wanted (normalizeDesiredState desired)))
    (askedOf : AskedOf asked device wanted map) :
    Canonical key normalize map := by
  intro index value present
  rcases askedOf index value present with ⟨desired, -, -, isWanted⟩
  exact wantedCanonical desired index value isWanted

/-- The maps of a normalized desired state are canonical. -/
theorem normal_fromDesired (desired : DeviceDesiredState) :
    (DeviceShadowState.fromDesired (normalizeDesiredState desired) 0).Normal where
  vlans := canonical_rekey VlanConfig.normalize_idempotent _
  interfaces := canonical_rekey InterfaceConfig.normalize_idempotent _
  acls := canonical_rekey AclConfig.normalize_idempotent _
  aclBindings := canonical_rekey AclBinding.normalize_idempotent _
  bgpProcesses := canonical_rekey BgpProcess.normalize_idempotent _
  bgpNeighbors := canonical_rekey BgpNeighbor.normalize_idempotent _

theorem DeviceShadowState.Asked.normal (isAsked : shadow.Asked asked) : shadow.Normal where
  vlans := isAsked.vlans.canonical fun desired => (normal_fromDesired desired).vlans
  interfaces := isAsked.interfaces.canonical fun desired => (normal_fromDesired desired).interfaces
  acls := isAsked.acls.canonical fun desired => (normal_fromDesired desired).acls
  aclBindings := isAsked.aclBindings.canonical fun desired =>
    (normal_fromDesired desired).aclBindings
  bgpProcesses := isAsked.bgpProcesses.canonical fun desired =>
    (normal_fromDesired desired).bgpProcesses
  bgpNeighbors := isAsked.bgpNeighbors.canonical fun desired =>
    (normal_fromDesired desired).bgpNeighbors

/-- Replaying operations that write objects of a state that was asked for. -/
theorem AskedOf.replay
    {κ ν : Type} [Ord κ] [Std.TransOrd κ] [Std.LawfulEqOrd κ] [DecidableEq κ] [DecidableEq ν]
    {objects : ObjectMap κ ν} {wanted : DeviceDesiredState → BTreeMap κ ν} {current : BTreeMap κ ν}
    {create : ν → ChangeOp} {update : ν → ν → ChangeOp} {ops : List ChangeOp}
    (lawful : objects.Lawful) (creates : ∀ value, objects.upserted (create value) = some value)
    (updates : ∀ present value, objects.upserted (update present value) = some value)
    (canonical : Canonical objects.key objects.normalize (wanted (normalizeDesiredState desired)))
    (only : ∀ op ∈ ops, ∀ value, objects.upserted op = some value →
      op ∈ upsertOps create update (wanted (normalizeDesiredState desired)) current)
    (asks : asked desired)
    (before : AskedOf asked desired.deviceId wanted (objects.read shadow)) :
    AskedOf asked desired.deviceId wanted (objects.read (ops.foldl applyOp shadow)) := by
  apply lawful.forall_entries _ before
  intro op member value isUpserted
  exact ⟨desired, asks, rfl, wanted_of_mem_upsertOps canonical creates updates
    (only op member value isUpserted) isUpserted⟩

/-- Replaying a diff writes objects of the state that was asked for, into a shadow of the device. -/
theorem DeviceShadowState.Asked.replay (asks : asked desired)
    (device : shadow.deviceId = desired.deviceId) (isAsked : shadow.Asked asked)
    (current : DeviceShadowState) :
    ((normalizedDiffOps (normalizeDesiredState desired) current).foldl applyOp shadow).Asked
      asked := by
  generalize listed : normalizedDiffOps (normalizeDesiredState desired) current = ops
  have same : (ops.foldl applyOp shadow).deviceId = desired.deviceId :=
    (foldl_applyOp_deviceId _ _).trans device
  rcases isAsked with ⟨vlans, interfaces, acls, aclBindings, bgpProcesses, bgpNeighbors⟩
  rw [device] at vlans interfaces acls aclBindings bgpProcesses bgpNeighbors
  refine ⟨?_, ?_, ?_, ?_, ?_, ?_⟩ <;> rw [same]
  · exact vlans.replay vlanObjects_lawful (fun _ => rfl) (fun _ _ => rfl)
      (normal_fromDesired desired).vlans
      (fun _ member _ => vlanObjects_upserted_mem (listed ▸ member)) asks
  · exact interfaces.replay interfaceObjects_lawful (fun _ => rfl) (fun _ _ => rfl)
      (normal_fromDesired desired).interfaces
      (fun _ member _ => interfaceObjects_upserted_mem (listed ▸ member)) asks
  · exact acls.replay aclObjects_lawful (fun _ => rfl) (fun _ _ => rfl)
      (normal_fromDesired desired).acls
      (fun _ member _ => aclObjects_upserted_mem (listed ▸ member)) asks
  · exact aclBindings.replay aclBindingObjects_lawful (fun _ => rfl) (fun _ _ => rfl)
      (normal_fromDesired desired).aclBindings
      (fun _ member _ => aclBindingObjects_upserted_mem (listed ▸ member)) asks
  · exact bgpProcesses.replay bgpProcessObjects_lawful (fun _ => rfl) (fun _ _ => rfl)
      (normal_fromDesired desired).bgpProcesses
      (fun _ member _ => bgpProcessObjects_upserted_mem (listed ▸ member)) asks
  · exact bgpNeighbors.replay bgpNeighborObjects_lawful (fun _ => rfl) (fun _ _ => rfl)
      (normal_fromDesired desired).bgpNeighbors
      (fun _ member _ => bgpNeighborObjects_upserted_mem (listed ▸ member)) asks

theorem asked_applyToShadow {existing : Option DeviceShadowState} (asks : asked desired)
    (held : ∀ shadow, existing = some shadow →
      shadow.deviceId = desired.deviceId ∧ shadow.Asked asked) :
    ((computeDiff desired observed).applyToShadow existing desired 0).Asked asked := by
  rw [ChangeSet.applyToShadow, computeDiff]
  refine DeviceShadowState.Asked.replay asks rfl ?_ (normalizeShadowState observed)
  cases existing with
  | none => exact ⟨askedOf_empty, askedOf_empty, askedOf_empty, askedOf_empty, askedOf_empty,
      askedOf_empty⟩
  | some shadow =>
      rcases held shadow rfl with ⟨device, isAsked⟩
      have rebased :
          DeviceShadowState.Asked asked { shadow with deviceId := desired.deviceId } := by
        rw [← device]
        exact isAsked
      exact ⟨rebased.vlans, rebased.interfaces, rebased.acls, rebased.aclBindings,
        rebased.bgpProcesses, rebased.bgpNeighbors⟩

end Shadows

/-! ## Records -/

/-- The record is about one device, and it has what was asked of the device and a change towards it
from a state that the device was in. -/
def TxJournalRecord.PlannedFor (asked : DeviceDesiredState → Prop)
    (record : TxJournalRecord) : Prop :=
  ∃ desired observed, asked desired ∧ observed.deviceId = desired.deviceId ∧
    record.devices = [desired.deviceId] ∧ record.desiredStates = [desired] ∧
    record.changeSets = [computeDiff desired observed] ∧ (computeDiff desired observed).ops ≠ []

theorem exists_observed_of_buildDryRunPlan {desired : DeviceDesiredState}
    {currentStates : List DeviceShadowState} {plan : DryRunPlan}
    (built : buildDryRunPlan [desired] currentStates = .ok plan) :
    ∃ observed, observed.deviceId = desired.deviceId ∧
      plan.changeSets = [computeDiff desired observed] := by
  simp only [buildDryRunPlan, List.mapM_cons, List.mapM_nil, bind_eq_ok] at built
  obtain ⟨changeSets, ⟨changeSet, computed, rest, isNil, listed⟩, planned⟩ := built
  obtain rfl : { changeSets := changeSets } = plan := Except.ok.inj planned
  obtain rfl : changeSet :: rest = changeSets := Except.ok.inj listed
  obtain rfl : [] = rest := Except.ok.inj isNil
  split at computed
  · rename_i observed found
    have device := List.find?_some found
    obtain rfl := Except.ok.inj computed
    exact ⟨observed, by simpa using device, rfl⟩
  · cases computed

section Process

variable {asked : DeviceDesiredState → Prop}

/-- Tasks store records that are planned for and shadows of what was asked for. -/
def askedStates (asked : DeviceDesiredState → Prop) : TaskDiscipline where
  may
    | .journalPut _ record => record.PlannedFor asked
    | .shadowPut _ shadow => shadow.Asked asked
    | _ => True
  honest
    | .journalGet _, .ok (some record) => record.PlannedFor asked
    | .shadowGet device, .ok (some shadow) => shadow.deviceId = device ∧ shadow.Asked asked
    | _, _ => True
  keeps := TxJournalRecord.PlannedFor asked
  asked := asked
  free := by
    intro op isFree
    cases op with
    | journalPut | shadowPut => cases isFree
    | _ => trivial
  puts := fun _ _ planned => planned
  subject := by
    rintro first record same ⟨desired, observed, asks, device, devices, states, changes, differ⟩
    exact ⟨desired, observed, asks, device, same.devices_eq.trans devices,
      same.desiredStates_eq.trans states, same.changeSets_eq.trans changes, differ⟩
  locks := by
    intro op isLocking
    cases op with
    | journalPut | shadowPut => cases isLocking
    | _ => trivial
  reads := fun planned => planned
  starts := by
    intro context desired currentStates plan startedAt desiredAt plannedAt asks built changes
    rcases exists_observed_of_buildDryRunPlan built with ⟨observed, device, planned⟩
    refine ⟨desired, observed, asks, device, rfl, rfl, planned, ?_⟩
    simpa [DryRunPlan.isNoop, planned, ChangeSet.isEmpty] using changes
  updates := by
    intro desired currentStates plan changeSet existing txId asks built found isHonest
    rcases exists_observed_of_buildDryRunPlan built with ⟨observed, device, planned⟩
    obtain rfl : computeDiff desired observed = changeSet := by
      have member := List.mem_of_find?_eq_some found
      rw [planned, List.mem_singleton] at member
      exact member.symm
    apply asked_applyToShadow asks
    rintro shadow rfl
    exact isHonest
  recovers := by
    rintro record device desired existing
      ⟨planned, observed, asks, -, devices, states, changes, -⟩ found isHonest
    have isPlanned := List.mem_of_find?_eq_some found
    have isDevice : desired.deviceId = device := by simpa using List.find?_some found
    rw [states, List.mem_singleton] at isPlanned
    subst isPlanned isDevice
    -- the change set of the record is found, so that the desired state is not stored as it is
    have changed : recoveredShadow record desired.deviceId desired existing =
        (computeDiff desired observed).applyToShadow existing desired 0 := by
      have own : (computeDiff desired observed).deviceId = desired.deviceId := rfl
      simp [recoveredShadow, changeSetForRecord, changes, own]
    rw [changed]
    apply asked_applyToShadow asks
    rintro shadow rfl
    exact isHonest

/-- All records are planned for, and all shadows are what was asked for. -/
structure World.Accounted (asked : DeviceDesiredState → Prop) (world : World) : Prop where
  records : ∀ (txId : String) (record : TxJournalRecord), world.journal[txId]? = some record →
    record.txId = txId ∧ record.PlannedFor asked
  shadows : ∀ (device : DeviceId) (shadow : DeviceShadowState),
    world.shadows[device]? = some shadow → shadow.deviceId = device ∧ shadow.Asked asked

theorem World.Accounted.honest {thread : Thread} {world after : World} {op : CoreOp}
    {answer : op.Answer} (accounted : world.Accounted asked)
    (responds : coreEnvironment.respond thread world op answer after) :
    (askedStates asked).honest op answer := by
  cases op with
  | journalGet txId =>
      rcases answer with error | _ | record
      · trivial
      · trivial
      · exact (accounted.records txId record responds.1.symm).2
  | shadowGet device =>
      rcases answer with error | _ | shadow
      · trivial
      · trivial
      · exact accounted.shadows device shadow responds.1.symm
  | _ => trivial

theorem World.Accounted.after {thread : Thread} {world after : World} {op : CoreOp}
    {answer : op.Answer} (permitted : (askedStates asked).may op)
    (accounted : world.Accounted asked)
    (responds : coreEnvironment.respond thread world op answer after) :
    after.Accounted asked := by
  rcases responds with ⟨-, -, rfl⟩
  cases op with
  | journalPut site record =>
      rcases answer with error | _
      · exact accounted
      · refine ⟨fun txId found durable => ?_, accounted.shadows⟩
        simp only [World.after, Std.ExtTreeMap.getElem?_insert] at durable
        split at durable
        · rename_i same
          cases durable
          exact ⟨by simpa using same, permitted⟩
        · exact accounted.records txId found durable
  | shadowPut txId shadow =>
      rcases answer with error | _
      · exact accounted
      · refine ⟨accounted.records, fun device found stored => ?_⟩
        simp only [World.after, storeState, Std.ExtTreeMap.getElem?_insert] at stored
        split at stored
        · rename_i same
          cases stored
          have isAsked : shadow.Asked asked := permitted
          exact ⟨by simpa using same, isAsked.vlans, isAsked.interfaces, isAsked.acls,
            isAsked.aclBindings, isAsked.bgpProcesses, isAsked.bgpNeighbors⟩
        · exact accounted.shadows device found stored
  | acquireWithPolicy | observedPut =>
      cases answer <;> exact ⟨accounted.records, accounted.shadows⟩
  | _ => exact ⟨accounted.records, accounted.shadows⟩

/-- The pools that the process reaches if applies are asked for these states only. -/
abbrev AskedReaches (asked : DeviceDesiredState → Prop)
    (pool : Pool coreSignature Thread World) : Prop :=
  Pool.Reachable coreEnvironment (TaskDiscipline.Entry asked) World.initial pool

theorem AskedReaches.accounted {pool : Pool coreSignature Thread World}
    (reaches : AskedReaches asked pool) :
    pool.world.Accounted asked := by
  refine (askedStates asked).invariant_of_keeps World.Accounted.honest World.Accounted.after
    (fun accounted => ⟨accounted.records, accounted.shadows⟩) ⟨?_, ?_⟩ reaches
  · intro txId record durable
    simp [World.initial] at durable
  · intro device shadow stored
    simp [World.initial] at stored

/-- A durable record has all that recovery needs: one device, what was asked of it and a change for
it that is not empty. -/
theorem AskedReaches.record_planned {pool : Pool coreSignature Thread World} {txId : String}
    {record : TxJournalRecord} (reaches : AskedReaches asked pool)
    (durable : pool.world.journal[txId]? = some record) :
    record.txId = txId ∧ record.PlannedFor asked ∧
      ∀ device ∈ record.devices, ∃ desired observed,
        desiredStateForRecord record device = some desired ∧ asked desired ∧
        changeSetForRecord record device = some (computeDiff desired observed) := by
  rcases reaches.accounted.records txId record durable with ⟨named, planned⟩
  refine ⟨named, planned, ?_⟩
  rcases planned with ⟨desired, observed, asks, -, devices, states, changes, -⟩
  have own : (computeDiff desired observed).deviceId = desired.deviceId := rfl
  rw [devices]
  simp [desiredStateForRecord, changeSetForRecord, states, changes, own, asks]

theorem reaches_asked_stoppedApply (env : ApplyEnv) (limit : ℕ) :
    AskedReaches (· = newVlan) (Pool.idle (stoppedApply env limit)) := by
  have asks : ∀ desired ∈ [newVlan], desired = newVlan := fun _ => List.mem_singleton.mp
  unfold stoppedApply
  cases restarts : restartAfter env.oracle limit newVlanApply World.initial with
  | none => exact Relation.ReflTransGen.refl
  | some later =>
      exact reachable_restartAfter Relation.ReflTransGen.refl
        (.applyDesiredStates 120 "req-1" "trace-1" false .reportOnly asks) restarts

/-- The record of a process that stops while it verifies. -/
theorem record_planned_stoppedApply :
    ∃ record, (stoppedApply (ApplyEnv.oblige fun _ => false) 25).journal["tx-1"]? = some record ∧
      record.phase = .verifying ∧ record.PlannedFor (· = newVlan) := by
  have journaled : (stoppedApply (ApplyEnv.oblige fun _ => false) 25).journal["tx-1"]?.map
      TxJournalRecord.phase = some .verifying := by
    decide +kernel
  rcases Option.map_eq_some_iff.mp journaled with ⟨record, durable, verifying⟩
  have planned := (AskedReaches.record_planned
    (reaches_asked_stoppedApply (ApplyEnv.oblige fun _ => false) 25) durable).2.1
  exact ⟨record, durable, verifying, planned⟩

/-- A stored shadow belongs to its device, is in normal form and holds nothing that the device was
not asked for. -/
theorem AskedReaches.shadow_asked {pool : Pool coreSignature Thread World} {device : DeviceId}
    {shadow : DeviceShadowState} (reaches : AskedReaches asked pool)
    (stored : pool.world.shadows[device]? = some shadow) :
    shadow.deviceId = device ∧ normalizeShadowState shadow = shadow ∧ shadow.Asked asked := by
  rcases reaches.accounted.shadows device shadow stored with ⟨own, isAsked⟩
  exact ⟨own, isAsked.normal.normalize_eq_self, isAsked⟩

/-- The shadow of a process that stops after its apply. -/
theorem shadow_asked_stoppedApply :
    ∃ shadow, (stoppedApply (ApplyEnv.oblige fun _ => false) 60).shadows["leaf-a"]? = some shadow ∧
      shadow.vlans.size = 1 ∧ shadow.Asked (· = newVlan) := by
  have kept : (stoppedApply (ApplyEnv.oblige fun _ => false) 60).shadows["leaf-a"]?.map
      (·.vlans.size) = some 1 := by
    decide +kernel
  rcases Option.map_eq_some_iff.mp kept with ⟨shadow, stored, one⟩
  have isAsked := (AskedReaches.shadow_asked
    (reaches_asked_stoppedApply (ApplyEnv.oblige fun _ => false) 60) stored).2.2
  exact ⟨shadow, stored, one, isAsked⟩

end Process

end AriaUnderlay
