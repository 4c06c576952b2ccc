import AriaUnderlay.Engine.Rebase

/-!
# Replays of one diff

A change set is replayed more than once and in more than one order: recovery replays it again after
a crash, and a change plan sorts its operations into stages.  Neither changes the result.  Under a
key, the replay of a diff leaves the wanted entry, or else the entry that was there unless one of
the operations takes it away, and this does not depend on the order.

A replay also keeps references intact: what refers to an ACL or to a BGP process goes with it.
-/

namespace AriaUnderlay

open Collections

attribute [ext] DeviceShadowState

/-! ## The header of the state -/

theorem foldl_applyOp_revision (ops : List ChangeOp) (state : DeviceShadowState) :
    (ops.foldl applyOp state).revision = state.revision := by
  induction ops generalizing state with
  | nil => rfl
  | cons op rest ih =>
      rw [List.foldl_cons, ih]
      cases op <;> rfl

theorem foldl_applyOp_warnings (ops : List ChangeOp) (state : DeviceShadowState) :
    (ops.foldl applyOp state).warnings = state.warnings := by
  induction ops generalizing state with
  | nil => rfl
  | cons op rest ih =>
      rw [List.foldl_cons, ih]
      cases op <;> rfl

/-! ## Twice -/

section Twice

variable {κ ν : Type} [Ord κ] [Std.TransOrd κ] [Std.LawfulEqOrd κ] [DecidableEq κ] [DecidableEq ν]
variable {change : MapChange κ ν} {ops : List ChangeOp}

/-- A second replay finds the map as it would leave it. -/
theorem MapChange.CarriedBy.read_twice (carried : change.CarriedBy ops)
    (lawful : change.objects.Lawful) (state : DeviceShadowState) :
    change.objects.read (ops.foldl applyOp (ops.foldl applyOp state)) =
      change.objects.read (ops.foldl applyOp state) := by
  apply Std.ExtTreeMap.ext_getElem?
  intro index
  rw [lawful.replay, lawful.replay, carried.foldl_act, carried.foldl_act]
  cases change.changes index with
  | true => rfl
  | false =>
      cases (change.objects.read state)[index]? with
      | none => rfl
      | some value => cases change.erased index <;> cases change.dropped value <;> simp

end Twice

variable {desired : DeviceDesiredState}

theorem CarriesAll.foldl_twice {observed : DeviceShadowState} {ops : List ChangeOp}
    (carries : CarriesAll desired observed ops) (state : DeviceShadowState) :
    ops.foldl applyOp (ops.foldl applyOp state) = ops.foldl applyOp state := by
  apply DeviceShadowState.ext
  · exact foldl_applyOp_deviceId ops _
  · exact foldl_applyOp_revision ops _
  · exact carries.vlans.read_twice vlanObjects_lawful state
  · exact carries.interfaces.read_twice interfaceObjects_lawful state
  · exact carries.acls.read_twice aclObjects_lawful state
  · exact carries.aclBindings.read_twice aclBindingObjects_lawful state
  · exact carries.bgpProcesses.read_twice bgpProcessObjects_lawful state
  · exact carries.bgpNeighbors.read_twice bgpNeighborObjects_lawful state
  · exact foldl_applyOp_warnings ops _

/-- Operations do not look at the revision. -/
theorem foldl_applyOp_setRevision (ops : List ChangeOp) (state : DeviceShadowState)
    (revision : UInt64) :
    ops.foldl applyOp { state with revision := revision } =
      { ops.foldl applyOp state with revision := revision } := by
  induction ops generalizing state with
  | nil => rfl
  | cons op rest ih =>
      have same : applyOp { state with revision := revision } op =
          { applyOp state op with revision := revision } := by
        cases op <;> rfl
      rw [List.foldl_cons, List.foldl_cons, same, ih]

/-- Replaying a diff again on its own result only sets the revision. -/
theorem applyToShadow_again (separate : (normalizeDesiredState desired).Separate)
    (observed : DeviceShadowState) (base : Option DeviceShadowState)
    (revision laterRevision : UInt64) :
    (computeDiff desired observed).applyToShadow
        (some ((computeDiff desired observed).applyToShadow base desired revision)) desired
        laterRevision =
      { (computeDiff desired observed).applyToShadow base desired revision with
        revision := laterRevision } := by
  have carries := carriesAll_normalizedDiffOps separate (normalizeShadowState observed)
  generalize isStart : ({ base.getD { deviceId := desired.deviceId, revision := revision } with
    deviceId := desired.deviceId, revision := revision, warnings := [] } :
      DeviceShadowState) = start
  have once : (computeDiff desired observed).applyToShadow base desired revision =
      (computeDiff desired observed).ops.foldl applyOp start := by
    rw [ChangeSet.applyToShadow, ← isStart]
  have sameHeader : ({ (computeDiff desired observed).ops.foldl applyOp start with
      deviceId := desired.deviceId, revision := laterRevision, warnings := [] } :
        DeviceShadowState) =
      { (computeDiff desired observed).ops.foldl applyOp start with
        revision := laterRevision } := by
    have sameDevice := foldl_applyOp_deviceId (computeDiff desired observed).ops start
    have sameWarnings := foldl_applyOp_warnings (computeDiff desired observed).ops start
    rw [← isStart] at sameDevice sameWarnings ⊢
    apply DeviceShadowState.ext <;> simp [sameDevice, sameWarnings]
  rw [once]
  simp only [ChangeSet.applyToShadow, Option.getD_some]
  rw [sameHeader, foldl_applyOp_setRevision]
  have twice := carries.foldl_twice start
  rw [computeDiff, twice]

/-! ## In another order -/

namespace ObjectMap

variable {κ ν : Type} [Ord κ] [DecidableEq κ]

/-- An operation that writes into the map does nothing else to it. -/
def Tidy (objects : ObjectMap κ ν) : Prop :=
  ∀ op value, objects.upserted op = some value →
    objects.deleted op = none ∧ ∀ other, objects.cascades op other = false

/-- Some operation takes the entry away. -/
def takes (objects : ObjectMap κ ν) (ops : List ChangeOp) (key : κ) (value : ν) : Bool :=
  ops.any fun op => objects.deleted op = some key || objects.cascades op value

theorem takes_iff {objects : ObjectMap κ ν} {ops : List ChangeOp} {key : κ} {value : ν} :
    objects.takes ops key value = true ↔
      ∃ op ∈ ops, objects.deleted op = some key ∨ objects.cascades op value = true := by
  simp [takes]

variable [Std.TransOrd κ] {objects : ObjectMap κ ν} {ops : List ChangeOp}
variable {wanted : BTreeMap κ ν} {state : DeviceShadowState} {key : κ}

/-- Under a key that is not wanted stays what no operation takes away. -/
theorem Follows.unwanted_replay (tidy : objects.Tidy) (lawful : objects.Lawful)
    (follows : objects.Follows wanted (objects.read state) ops) (unwanted : wanted[key]? = none) :
    (objects.read (ops.foldl applyOp state))[key]? =
      (objects.read state)[key]?.filter fun value => !objects.takes ops key value := by
  rw [lawful.replay]
  generalize (objects.read state)[key]? = present
  have upsertsElsewhere : ∀ op ∈ ops, ∀ value, objects.upserted op = some value →
      objects.key value ≠ key := by
    intro op member value isUpserted sameKey
    have isWanted := follows.upserted_wanted op member value isUpserted
    rw [sameKey, unwanted] at isWanted
    cases isWanted
  clear follows
  induction ops generalizing present with
  | nil => cases present <;> rfl
  | cons op rest ih =>
      rw [List.foldl_cons, ih _ fun other member => upsertsElsewhere other (by simp [member])]
      have elsewhere := upsertsElsewhere op List.mem_cons_self
      cases isUpserted : objects.upserted op with
      | some value =>
          rcases tidy op value isUpserted with ⟨notDeleted, spares⟩
          simp [act, isUpserted, elsewhere value isUpserted, takes, notDeleted, spares]
      | none =>
          by_cases isDeleted : objects.deleted op = some key
          · cases present <;> simp [act, isUpserted, takes, isDeleted]
          · cases present with
            | none => simp [act, isUpserted, isDeleted]
            | some value =>
                cases objects.cascades op value <;> simp [act, isUpserted, takes, isDeleted]

/-- Two lists of the same operations leave the same map. -/
theorem Follows.read_eq [Std.LawfulEqOrd κ] {others : List ChangeOp} (tidy : objects.Tidy)
    (lawful : objects.Lawful) (follows : objects.Follows wanted (objects.read state) ops)
    (otherFollows : objects.Follows wanted (objects.read state) others)
    (same : ∀ op, op ∈ others ↔ op ∈ ops) :
    objects.read (others.foldl applyOp state) = objects.read (ops.foldl applyOp state) := by
  apply Std.ExtTreeMap.ext_getElem?
  intro key
  cases isWanted : wanted[key]? with
  | some value =>
      rw [follows.wanted_present lawful isWanted, otherFollows.wanted_present lawful isWanted]
  | none =>
      rw [follows.unwanted_replay tidy lawful isWanted,
        otherFollows.unwanted_replay tidy lawful isWanted]
      have sameTakes : ∀ value, objects.takes others key value = objects.takes ops key value := by
        intro value
        rw [Bool.eq_iff_iff, takes_iff, takes_iff]
        simp only [same]
      simp only [sameTakes]

omit [DecidableEq κ] in
/-- Whether a list follows a diff depends on its members only. -/
theorem Follows.of_members {current : BTreeMap κ ν} {others : List ChangeOp}
    (follows : objects.Follows wanted current ops) (same : ∀ op, op ∈ others ↔ op ∈ ops) :
    objects.Follows wanted current others where
  keyed := follows.keyed
  normal := follows.normal
  upserted_wanted op member := follows.upserted_wanted op ((same op).mp member)
  deleted_unwanted op member := follows.deleted_unwanted op ((same op).mp member)
  spares_wanted op member := follows.spares_wanted op ((same op).mp member)
  missing_upserted := by
    intro key value isWanted missing
    rcases follows.missing_upserted key value isWanted missing with ⟨op, member, isUpserted⟩
    exact ⟨op, (same op).mpr member, isUpserted⟩

end ObjectMap

theorem vlanObjects_tidy : vlanObjects.Tidy := by
  intro op value isUpserted
  cases op <;> simp [vlanObjects] at isUpserted ⊢

theorem interfaceObjects_tidy : interfaceObjects.Tidy := by
  intro op value isUpserted
  cases op <;> simp [interfaceObjects] at isUpserted ⊢

theorem aclObjects_tidy : aclObjects.Tidy := by
  intro op value isUpserted
  cases op <;> simp [aclObjects] at isUpserted ⊢

theorem aclBindingObjects_tidy : aclBindingObjects.Tidy := by
  intro op value isUpserted
  cases op <;> simp [aclBindingObjects] at isUpserted ⊢

theorem bgpProcessObjects_tidy : bgpProcessObjects.Tidy := by
  intro op value isUpserted
  cases op <;> simp [bgpProcessObjects] at isUpserted ⊢

theorem bgpNeighborObjects_tidy : bgpNeighborObjects.Tidy := by
  intro op value isUpserted
  cases op <;> simp [bgpNeighborObjects] at isUpserted ⊢

section Order

variable {state : DeviceShadowState} {ops others : List ChangeOp}

theorem FollowsAll.of_members (follows : FollowsAll desired state ops)
    (same : ∀ op, op ∈ others ↔ op ∈ ops) :
    FollowsAll desired state others where
  vlans := follows.vlans.of_members same
  interfaces := follows.interfaces.of_members same
  acls := follows.acls.of_members same
  aclBindings := follows.aclBindings.of_members same
  bgpProcesses := follows.bgpProcesses.of_members same
  bgpNeighbors := follows.bgpNeighbors.of_members same

/-- The operations of a diff may be replayed in any order. -/
theorem FollowsAll.foldl_eq (follows : FollowsAll desired state ops)
    (same : ∀ op, op ∈ others ↔ op ∈ ops) :
    others.foldl applyOp state = ops.foldl applyOp state := by
  have otherFollows := follows.of_members same
  apply DeviceShadowState.ext
  · rw [foldl_applyOp_deviceId, foldl_applyOp_deviceId]
  · rw [foldl_applyOp_revision, foldl_applyOp_revision]
  · exact follows.vlans.read_eq vlanObjects_tidy vlanObjects_lawful otherFollows.vlans same
  · exact follows.interfaces.read_eq interfaceObjects_tidy interfaceObjects_lawful
      otherFollows.interfaces same
  · exact follows.acls.read_eq aclObjects_tidy aclObjects_lawful otherFollows.acls same
  · exact follows.aclBindings.read_eq aclBindingObjects_tidy aclBindingObjects_lawful
      otherFollows.aclBindings same
  · exact follows.bgpProcesses.read_eq bgpProcessObjects_tidy bgpProcessObjects_lawful
      otherFollows.bgpProcesses same
  · exact follows.bgpNeighbors.read_eq bgpNeighborObjects_tidy bgpNeighborObjects_lawful
      otherFollows.bgpNeighbors same
  · rw [foldl_applyOp_warnings, foldl_applyOp_warnings]

end Order

/-! ## References -/

/-- What the state refers to exists in it. -/
structure DeviceShadowState.Intact (state : DeviceShadowState) : Prop where
  aclBindings : ∀ (key : String) (binding : AclBinding),
    state.aclBindings[key]? = some binding → binding.aclId ∈ state.acls
  bgpNeighbors : ∀ (key : String) (neighbor : BgpNeighbor),
    state.bgpNeighbors[key]? = some neighbor → neighbor.vrf ∈ state.bgpProcesses

instance (state : DeviceShadowState) : Decidable state.Intact :=
  decidable_of_iff
    ((state.aclBindings.toList.all fun entry => entry.2.aclId ∈ state.acls) ∧
      state.bgpNeighbors.toList.all fun entry => entry.2.vrf ∈ state.bgpProcesses)
    (by
      simp only [List.all_eq_true, decide_eq_true_eq, Prod.forall,
        Std.ExtTreeMap.mem_toList_iff_getElem?_eq_some]
      exact ⟨fun ⟨bindings, neighbors⟩ => ⟨bindings, neighbors⟩,
        fun ⟨bindings, neighbors⟩ => ⟨bindings, neighbors⟩⟩)

/-- The desired objects refer to desired objects, and neighbors also to processes that the current
state has and that stay. -/
structure DeviceDesiredState.Refers (desired : DeviceDesiredState)
    (current : DeviceShadowState) : Prop where
  aclBindings : ∀ (key : String) (binding : AclBinding),
    desired.aclBindings[key]? = some binding → binding.aclId ∈ desired.acls
  bgpNeighbors : ∀ (key : String) (neighbor : BgpNeighbor),
    desired.bgpNeighbors[key]? = some neighbor → neighbor.vrf ∈ desired.bgpProcesses ∨
      neighbor.vrf ∈ current.bgpProcesses ∧ neighbor.vrf ∉ desired.deleteBgpProcessVrfs

instance (desired : DeviceDesiredState) (current : DeviceShadowState) :
    Decidable (desired.Refers current) :=
  decidable_of_iff
    ((desired.aclBindings.toList.all fun entry => entry.2.aclId ∈ desired.acls) ∧
      desired.bgpNeighbors.toList.all fun entry => entry.2.vrf ∈ desired.bgpProcesses ∨
        entry.2.vrf ∈ current.bgpProcesses ∧ entry.2.vrf ∉ desired.deleteBgpProcessVrfs)
    (by
      simp only [List.all_eq_true, decide_eq_true_eq, Prod.forall,
        Std.ExtTreeMap.mem_toList_iff_getElem?_eq_some]
      exact ⟨fun ⟨bindings, neighbors⟩ => ⟨bindings, neighbors⟩,
        fun ⟨bindings, neighbors⟩ => ⟨bindings, neighbors⟩⟩)

theorem DeviceDesiredState.Refers.consistent {current : DeviceShadowState}
    (refers : desired.Refers current) (separate : desired.Separate) :
    desired.Consistent where
  vlans := separate.vlans
  interfaces := separate.interfaces
  acls := separate.acls
  aclBindings := separate.aclBindings
  bgpProcesses := separate.bgpProcesses
  bgpNeighbors := separate.bgpNeighbors
  bindsNoDeletedAcl := by
    intro key binding isWanted listed
    exact separate.acls _ listed (refers.aclBindings key binding isWanted)
  keepsNoDeletedVrf := by
    intro key neighbor isWanted listed
    rcases refers.bgpNeighbors key neighbor isWanted with isDesired | ⟨-, stays⟩
    · exact separate.bgpProcesses _ listed isDesired
    · exact stays listed

section References

variable {state : DeviceShadowState} {ops : List ChangeOp}

/-- An entry is gone only if some operation deletes or drops it. -/
theorem ObjectMap.Follows.mem_or_takes {κ ν : Type} [Ord κ] [Std.TransOrd κ] [DecidableEq κ]
    {objects : ObjectMap κ ν} {wanted : BTreeMap κ ν} {key : κ} (tidy : objects.Tidy)
    (lawful : objects.Lawful) (follows : objects.Follows wanted (objects.read state) ops)
    (present : key ∈ objects.read state) :
    key ∈ objects.read (ops.foldl applyOp state) ∨
      ∃ value, objects.takes ops key value = true := by
  rw [Std.ExtTreeMap.mem_iff_isSome_getElem?] at present ⊢
  cases isWanted : wanted[key]? with
  | some value => simp [follows.wanted_present lawful isWanted]
  | none =>
      rw [follows.unwanted_replay tidy lawful isWanted]
      rcases Option.isSome_iff_exists.mp present with ⟨value, isPresent⟩
      cases taken : objects.takes ops key value with
      | true => exact .inr ⟨value, taken⟩
      | false => simp [isPresent, taken]

theorem mem_of_wanted {κ ν : Type} [Ord κ] [Std.TransOrd κ] [DecidableEq κ]
    {objects : ObjectMap κ ν} {wanted : BTreeMap κ ν} {key : κ} (lawful : objects.Lawful)
    (follows : objects.Follows wanted (objects.read state) ops) (isWanted : key ∈ wanted) :
    key ∈ objects.read (ops.foldl applyOp state) := by
  rw [Std.ExtTreeMap.mem_iff_isSome_getElem?] at isWanted ⊢
  rcases Option.isSome_iff_exists.mp isWanted with ⟨value, isValue⟩
  simp [follows.wanted_present lawful isValue]

/-- An entry that stays and is not wanted was there, and nothing takes it. -/
theorem ObjectMap.Follows.of_unwanted {κ ν : Type} [Ord κ] [Std.TransOrd κ] [DecidableEq κ]
    {objects : ObjectMap κ ν} {wanted : BTreeMap κ ν} {key : κ} {value : ν} (tidy : objects.Tidy)
    (lawful : objects.Lawful) (follows : objects.Follows wanted (objects.read state) ops)
    (unwanted : wanted[key]? = none)
    (present : (objects.read (ops.foldl applyOp state))[key]? = some value) :
    (objects.read state)[key]? = some value ∧ objects.takes ops key value = false := by
  rw [follows.unwanted_replay tidy lawful unwanted, Option.filter_eq_some_iff] at present
  simpa using present

theorem aclObjects_takes {aclId : UInt16} {acl : AclConfig}
    (taken : aclObjects.takes ops aclId acl = true) :
    .deleteAcl aclId ∈ ops := by
  rcases ObjectMap.takes_iff.mp taken with ⟨op, member, isDeleted | cascades⟩
  · cases op <;> simp [aclObjects] at isDeleted
    exact isDeleted ▸ member
  · cases cascades

theorem bgpProcessObjects_takes {vrf : String} {process : BgpProcess}
    (taken : bgpProcessObjects.takes ops vrf process = true) :
    .deleteBgpProcess vrf ∈ ops := by
  rcases ObjectMap.takes_iff.mp taken with ⟨op, member, isDeleted | cascades⟩
  · cases op <;> simp [bgpProcessObjects] at isDeleted
    exact isDeleted ▸ member
  · cases cascades

/-- A binding that stays keeps its ACL: the deletion of the ACL would have dropped it. -/
theorem FollowsAll.binding_intact (follows : FollowsAll desired state ops)
    (refers : desired.Refers state) (intact : state.Intact) {key : String} {binding : AclBinding}
    (present : (ops.foldl applyOp state).aclBindings[key]? = some binding) :
    binding.aclId ∈ (ops.foldl applyOp state).acls := by
  cases isWanted : desired.aclBindings[key]? with
  | some wanted =>
      have same := follows.aclBindings.wanted_present aclBindingObjects_lawful isWanted
      obtain rfl : wanted = binding := Option.some.inj (same.symm.trans present)
      exact mem_of_wanted aclObjects_lawful follows.acls (refers.aclBindings key wanted isWanted)
  | none =>
      rcases follows.aclBindings.of_unwanted aclBindingObjects_tidy aclBindingObjects_lawful
        isWanted present with ⟨before, spared⟩
      rcases follows.acls.mem_or_takes aclObjects_tidy aclObjects_lawful
        (intact.aclBindings key binding before) with stays | ⟨acl, taken⟩
      · exact stays
      · have dropped : aclBindingObjects.takes ops key binding = true :=
          ObjectMap.takes_iff.mpr ⟨_, aclObjects_takes taken, .inr (decide_eq_true rfl)⟩
        rw [spared] at dropped
        cases dropped

theorem FollowsAll.neighbor_intact (follows : FollowsAll desired state ops)
    (deletes : ∀ vrf, .deleteBgpProcess vrf ∈ ops → vrf ∈ desired.deleteBgpProcessVrfs)
    (refers : desired.Refers state) (intact : state.Intact) {key : String} {neighbor : BgpNeighbor}
    (present : (ops.foldl applyOp state).bgpNeighbors[key]? = some neighbor) :
    neighbor.vrf ∈ (ops.foldl applyOp state).bgpProcesses := by
  cases isWanted : desired.bgpNeighbors[key]? with
  | some wanted =>
      have same := follows.bgpNeighbors.wanted_present bgpNeighborObjects_lawful isWanted
      obtain rfl : wanted = neighbor := Option.some.inj (same.symm.trans present)
      rcases refers.bgpNeighbors key wanted isWanted with isDesired | ⟨before, stays⟩
      · exact mem_of_wanted bgpProcessObjects_lawful follows.bgpProcesses isDesired
      · rcases follows.bgpProcesses.mem_or_takes bgpProcessObjects_tidy bgpProcessObjects_lawful
          before with kept | ⟨process, taken⟩
        · exact kept
        · exact absurd (deletes _ (bgpProcessObjects_takes taken)) stays
  | none =>
      rcases follows.bgpNeighbors.of_unwanted bgpNeighborObjects_tidy bgpNeighborObjects_lawful
        isWanted present with ⟨before, spared⟩
      rcases follows.bgpProcesses.mem_or_takes bgpProcessObjects_tidy bgpProcessObjects_lawful
        (intact.bgpNeighbors key neighbor before) with stays | ⟨process, taken⟩
      · exact stays
      · have dropped : bgpNeighborObjects.takes ops key neighbor = true :=
          ObjectMap.takes_iff.mpr ⟨_, bgpProcessObjects_takes taken, .inr (decide_eq_true rfl)⟩
        rw [spared] at dropped
        cases dropped

end References

/-- Replaying a diff on the state it was computed from keeps references intact. -/
theorem replayDiff_intact (desired : DeviceDesiredState) (current : DeviceShadowState)
    (revision : UInt64) (desiredNormal : normalizeDesiredState desired = desired)
    (currentNormal : normalizeShadowState current = current) (separate : desired.Separate)
    (refers : desired.Refers current) (intact : current.Intact) :
    (replayDiff desired current revision).Intact := by
  have consistent : (normalizeDesiredState desired).Consistent := by
    rw [desiredNormal]
    exact refers.consistent separate
  -- the replay starts from `current` with the header fields of the desired state
  let start : DeviceShadowState :=
    { current with deviceId := desired.deviceId, revision := revision, warnings := [] }
  have follows := followsAll_normalizedDiffOps consistent start
  have replayed : replayDiff desired current revision =
      (normalizedDiffOps (normalizeDesiredState desired) start).foldl applyOp start := by
    simp only [replayDiff, ChangeSet.applyToShadow, computeDiff, currentNormal]
    rfl
  rw [desiredNormal] at follows replayed
  have startRefers : desired.Refers start := ⟨refers.aclBindings, refers.bgpNeighbors⟩
  have startIntact : start.Intact := ⟨intact.aclBindings, intact.bgpNeighbors⟩
  rw [replayed]
  constructor
  · intro key binding present
    exact follows.binding_intact startRefers startIntact present
  · intro key neighbor present
    refine follows.neighbor_intact ?_ startRefers startIntact present
    exact fun vrf isDeleted => (deleteBgpProcess_mem.mp isDeleted).1

/-- A plan that binds ACL 3002 instead of ACL 3001 and deletes the latter. -/
def rebindingDesired : DeviceDesiredState where
  deviceId := "leaf-a"
  acls := .ofList [((3002 : UInt16), (⟨3002, .advancedIpv4, none, none, []⟩ : AclConfig))]
  aclBindings := .ofList [("GE1|inbound", (⟨"GE1", .inbound, 3002⟩ : AclBinding))]
  deleteAclIds := .ofList [(3001 : UInt16)]

theorem replayDiff_intact_rebinding :
    sampleCurrent.Intact ∧ (replayDiff rebindingDesired sampleCurrent 5).Intact := by
  refine ⟨by decide +kernel, ?_⟩
  have consistent : rebindingDesired.Consistent := by decide +kernel
  exact replayDiff_intact rebindingDesired sampleCurrent 5 (by decide +kernel) (by decide +kernel)
    consistent.separate (by decide +kernel) (by decide +kernel)

end AriaUnderlay
