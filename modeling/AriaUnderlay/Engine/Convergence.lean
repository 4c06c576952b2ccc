import AriaUnderlay.Engine.Diff

/-!
# Convergence of diff and replay

Replaying a diff on the state it was computed from leaves nothing to do, and touches nothing that
no operation names.  The six object maps go through one argument.  An `ObjectMap` says how an
operation acts on the entries of one map, and `Follows` says that a list of operations is what a
diff towards the wanted entries produces for that map; both the convergence and the frame of the
map are consequences of these two.
-/

namespace AriaUnderlay

open Collections

/-- One object map of a shadow state, and what an operation does to its entries. -/
structure ObjectMap (κ ν : Type) [Ord κ] where
  read : DeviceShadowState → BTreeMap κ ν
  key : ν → κ
  normalize : ν → ν
  upserted : ChangeOp → Option ν
  deleted : ChangeOp → Option κ
  cascades : ChangeOp → ν → Bool

variable {op : ChangeOp} {ops : List ChangeOp}

namespace ObjectMap

variable {κ ν : Type} [Ord κ] [DecidableEq κ]

/-- The effect of one operation on the entry under a key. -/
def act (objects : ObjectMap κ ν) (key : κ) (present : Option ν) (op : ChangeOp) : Option ν :=
  match objects.upserted op with
  | some value => if objects.key value = key then some value else present
  | none =>
      if objects.deleted op = some key then none
      else present.filter fun value => !objects.cascades op value

variable [Std.TransOrd κ]

/-- The operations act on the map entry by entry. -/
def Lawful (objects : ObjectMap κ ν) : Prop :=
  ∀ state op (key : κ),
    (objects.read (applyOp state op))[key]? = objects.act key (objects.read state)[key]? op

/-- The operation creates, updates or deletes the object under the key. -/
def Names (objects : ObjectMap κ ν) (op : ChangeOp) (key : κ) : Prop :=
  (∃ value, objects.upserted op = some value ∧ objects.key value = key) ∨
    objects.deleted op = some key

/-- Objects that no operation names and no deletion cascades to are still there unchanged. -/
def Framed (objects : ObjectMap κ ν) (ops : List ChangeOp)
    (before after : DeviceShadowState) : Prop :=
  ∀ (key : κ) (value : ν), (objects.read before)[key]? = some value →
    (∀ op ∈ ops, ¬ objects.Names op key) → (∀ op ∈ ops, objects.cascades op value = false) →
      (objects.read after)[key]? = some value

/-- The operations are those of a diff from `current` to the wanted entries. -/
structure Follows (objects : ObjectMap κ ν) (wanted current : BTreeMap κ ν)
    (ops : List ChangeOp) : Prop where
  keyed : ∀ (key : κ) (value : ν), wanted[key]? = some value → objects.key value = key
  normal : ∀ (key : κ) (value : ν), wanted[key]? = some value → objects.normalize value = value
  upserted_wanted : ∀ op ∈ ops, ∀ value, objects.upserted op = some value →
    wanted[objects.key value]? = some value
  deleted_unwanted : ∀ op ∈ ops, ∀ key, objects.deleted op = some key → wanted[key]? = none
  spares_wanted : ∀ op ∈ ops, ∀ (key : κ) (value : ν), wanted[key]? = some value →
    objects.cascades op value = false
  missing_upserted : ∀ (key : κ) (value : ν), wanted[key]? = some value →
    current[key]? ≠ some value → ∃ op ∈ ops, objects.upserted op = some value

section Replay

variable {objects : ObjectMap κ ν} {state : DeviceShadowState}
variable {wanted : BTreeMap κ ν} {key : κ}

theorem Lawful.replay (lawful : objects.Lawful) (state : DeviceShadowState) (ops : List ChangeOp)
    (key : κ) :
    (objects.read (ops.foldl applyOp state))[key]? =
      ops.foldl (objects.act key) (objects.read state)[key]? := by
  exact (List.foldl_hom (fun later => (objects.read later)[key]?)
    (fun later op => (lawful later op key).symm)).symm

omit [Std.TransOrd κ] in
/-- An operation that does not touch the key leaves a value alone unless it cascades to it. -/
theorem act_eq_self {value : ν}
    (notUpserted : ∀ other, objects.upserted op = some other → objects.key other = key →
      other = value) (notDeleted : objects.deleted op ≠ some key)
    (spared : objects.cascades op value = false) :
    objects.act key (some value) op = some value := by
  unfold act
  split
  · rename_i other isUpserted
    split
    · rename_i sameKey
      rw [notUpserted other isUpserted sameKey]
    · rfl
  · simp [notDeleted, spared]

/-- Wanted entries are present after the replay. -/
theorem Follows.wanted_present (lawful : objects.Lawful)
    (follows : objects.Follows wanted (objects.read state) ops) {value : ν}
    (isWanted : wanted[key]? = some value) :
    (objects.read (ops.foldl applyOp state))[key]? = some value := by
  rw [lawful.replay]
  have fixed : ∀ op ∈ ops, objects.act key (some value) op = some value := by
    intro op member
    apply act_eq_self
    · intro other isUpserted sameKey
      have otherWanted := follows.upserted_wanted op member other isUpserted
      rw [sameKey, isWanted] at otherWanted
      simpa using otherWanted.symm
    · intro isDeleted
      simp [follows.deleted_unwanted op member key isDeleted] at isWanted
    · exact follows.spares_wanted op member key value isWanted
  by_cases present : (objects.read state)[key]? = some value
  · rw [present]
    exact foldl_eq_of_fixed fixed
  · apply foldl_eq_of_reached fixed
    rcases follows.missing_upserted key value isWanted present with ⟨op, member, isUpserted⟩
    refine ⟨op, member, fun before => ?_⟩
    simp [act, isUpserted, follows.keyed key value isWanted]

/-- An unwanted key is only ever emptied. -/
theorem Follows.unwanted_act (follows : objects.Follows wanted (objects.read state) ops)
    (unwanted : wanted[key]? = none) (member : op ∈ ops) (present : Option ν) :
    objects.act key present op = none ∨ objects.act key present op = present := by
  unfold act
  split
  · rename_i value isUpserted
    have notHere : objects.key value ≠ key := by
      intro sameKey
      have isWanted := follows.upserted_wanted op member value isUpserted
      simp [sameKey, unwanted] at isWanted
    simp [notHere]
  · split
    · exact .inl rfl
    · cases present with
      | none => exact .inl rfl
      | some value => cases cascade : objects.cascades op value <;> simp [cascade]

/-- An unwanted key is empty or unchanged after the replay. -/
theorem Follows.unwanted_none_or_same (lawful : objects.Lawful)
    (follows : objects.Follows wanted (objects.read state) ops) (unwanted : wanted[key]? = none) :
    (objects.read (ops.foldl applyOp state))[key]? = none ∨
      (objects.read (ops.foldl applyOp state))[key]? = (objects.read state)[key]? := by
  rw [lawful.replay]
  generalize start : (objects.read state)[key]? = present
  refine List.foldlRecOn ops (objects.act key)
    (motive := fun now => now = none ∨ now = present) (.inr rfl) ?_
  intro now reached op member
  rcases follows.unwanted_act unwanted member now with emptied | same
  · exact .inl emptied
  · rw [same]
    exact reached

/-- A key that some operation deletes is empty after the replay. -/
theorem Follows.deleted_absent (lawful : objects.Lawful)
    (follows : objects.Follows wanted (objects.read state) ops) (unwanted : wanted[key]? = none)
    (member : op ∈ ops) (isDeleted : objects.deleted op = some key)
    (onlyDeletes : objects.upserted op = none) :
    (objects.read (ops.foldl applyOp state))[key]? = none := by
  rw [lawful.replay]
  apply foldl_eq_of_reached
  · intro other otherMember
    rcases follows.unwanted_act unwanted otherMember none with emptied | same
    · exact emptied
    · exact same
  · exact ⟨op, member, fun present => by simp [act, onlyDeletes, isDeleted]⟩

/-- An unwanted key that is deleted whenever it is present is empty after the replay. -/
theorem Follows.absent (lawful : objects.Lawful)
    (follows : objects.Follows wanted (objects.read state) ops) (unwanted : key ∉ wanted)
    (deletes : key ∈ objects.read state →
      ∃ op ∈ ops, objects.deleted op = some key ∧ objects.upserted op = none) :
    key ∉ objects.read (ops.foldl applyOp state) := by
  have noneWanted : wanted[key]? = none := Std.ExtTreeMap.getElem?_eq_none unwanted
  have gone : (objects.read (ops.foldl applyOp state))[key]? = none := by
    by_cases present : key ∈ objects.read state
    · rcases deletes present with ⟨op, member, isDeleted, onlyDeletes⟩
      exact follows.deleted_absent lawful noneWanted member isDeleted onlyDeletes
    · rcases follows.unwanted_none_or_same lawful noneWanted with empty | same
      · exact empty
      · rw [same, Std.ExtTreeMap.getElem?_eq_none present]
  rw [Std.ExtTreeMap.mem_iff_isSome_getElem?, gone]
  simp

/-- Every entry after the replay was there before or is a wanted one. -/
theorem Follows.origin (lawful : objects.Lawful)
    (follows : objects.Follows wanted (objects.read state) ops) {value : ν}
    (present : (objects.read (ops.foldl applyOp state))[key]? = some value) :
    (objects.read state)[key]? = some value ∨ wanted[key]? = some value := by
  cases isWanted : wanted[key]? with
  | some other =>
      rw [follows.wanted_present lawful isWanted] at present
      exact .inr present
  | none =>
      rcases follows.unwanted_none_or_same lawful isWanted with empty | same
      · simp [empty] at present
      · exact .inl (same ▸ present)

theorem Follows.canonical [Std.LawfulEqOrd κ] (lawful : objects.Lawful)
    (follows : objects.Follows wanted (objects.read state) ops)
    (canonical : Canonical objects.key objects.normalize (objects.read state)) :
    Canonical objects.key objects.normalize (objects.read (ops.foldl applyOp state)) := by
  intro key value present
  rcases follows.origin lawful present with before | isWanted
  · exact canonical key value before
  · exact ⟨follows.keyed key value isWanted, follows.normal key value isWanted⟩

theorem Lawful.framed (lawful : objects.Lawful) (state : DeviceShadowState) :
    objects.Framed ops state (ops.foldl applyOp state) := by
  intro key value present unnamed spared
  rw [lawful.replay, present]
  apply foldl_eq_of_fixed
  intro op member
  apply act_eq_self
  · intro other isUpserted sameKey
    exact absurd (.inl ⟨other, isUpserted, sameKey⟩) (unnamed op member)
  · exact fun isDeleted => unnamed op member (.inr isDeleted)
  · exact spared op member

end Replay

end ObjectMap

/-! ## The six maps -/

/-- The VLANs of a shadow. -/
def vlanObjects : ObjectMap UInt16 VlanConfig where
  read := DeviceShadowState.vlans
  key := VlanConfig.vlanId
  normalize := VlanConfig.normalize
  upserted
    | .createVlan vlan | .updateVlan _ vlan => some vlan
    | _ => none
  deleted
    | .deleteVlan vlanId => some vlanId
    | _ => none
  cascades := fun _ _ => false

/-- The interfaces of a shadow. -/
def interfaceObjects : ObjectMap String InterfaceConfig where
  read := DeviceShadowState.interfaces
  key := InterfaceConfig.name
  normalize := InterfaceConfig.normalize
  upserted
    | .updateInterface _ interface => some interface
    | _ => none
  deleted
    | .deleteInterfaceConfig interfaceName => some interfaceName
    | _ => none
  cascades := fun _ _ => false

/-- The ACLs of a shadow. -/
def aclObjects : ObjectMap UInt16 AclConfig where
  read := DeviceShadowState.acls
  key := AclConfig.aclId
  normalize := AclConfig.normalize
  upserted
    | .createAcl acl | .updateAcl _ acl => some acl
    | _ => none
  deleted
    | .deleteAcl aclId => some aclId
    | _ => none
  cascades := fun _ _ => false

/-- The bindings of a shadow. -/
def aclBindingObjects : ObjectMap String AclBinding where
  read := DeviceShadowState.aclBindings
  key := AclBinding.key
  normalize := AclBinding.normalize
  upserted
    | .createAclBinding binding | .updateAclBinding _ binding => some binding
    | _ => none
  deleted
    | .deleteAclBinding interfaceName direction _ => some (aclBindingKey interfaceName direction)
    | _ => none
  cascades
    | .deleteAcl aclId, binding => binding.aclId = aclId
    | _, _ => false

/-- The BGP processes of a shadow. -/
def bgpProcessObjects : ObjectMap String BgpProcess where
  read := DeviceShadowState.bgpProcesses
  key := BgpProcess.vrf
  normalize := BgpProcess.normalize
  upserted
    | .createBgpProcess process | .updateBgpProcess _ process => some process
    | _ => none
  deleted
    | .deleteBgpProcess vrf => some vrf
    | _ => none
  cascades := fun _ _ => false

/-- The BGP neighbors of a shadow. -/
def bgpNeighborObjects : ObjectMap String BgpNeighbor where
  read := DeviceShadowState.bgpNeighbors
  key := BgpNeighbor.key
  normalize := BgpNeighbor.normalize
  upserted
    | .createBgpNeighbor neighbor | .updateBgpNeighbor _ neighbor => some neighbor
    | _ => none
  deleted
    | .deleteBgpNeighbor vrf address => some (bgpNeighborKey vrf address)
    | _ => none
  cascades
    | .deleteBgpProcess vrf, neighbor => neighbor.vrf = vrf
    | _, _ => false

theorem vlanObjects_lawful : vlanObjects.Lawful := by
  intro state op key
  cases op <;> simp only [vlanObjects, ObjectMap.act, applyOp] <;> grind

theorem interfaceObjects_lawful : interfaceObjects.Lawful := by
  intro state op key
  cases op <;> simp only [interfaceObjects, ObjectMap.act, applyOp] <;> grind

theorem aclObjects_lawful : aclObjects.Lawful := by
  intro state op key
  cases op <;> simp only [aclObjects, ObjectMap.act, applyOp] <;> grind

theorem aclBindingObjects_lawful : aclBindingObjects.Lawful := by
  intro state op key
  cases op <;> simp only [aclBindingObjects, ObjectMap.act, applyOp] <;> grind

theorem bgpProcessObjects_lawful : bgpProcessObjects.Lawful := by
  intro state op key
  cases op <;> simp only [bgpProcessObjects, ObjectMap.act, applyOp] <;> grind

theorem bgpNeighborObjects_lawful : bgpNeighborObjects.Lawful := by
  intro state op key
  cases op <;> simp only [bgpNeighborObjects, ObjectMap.act, applyOp] <;> grind

/-! ## What a diff does to each map -/

/-- The wanted objects and the deletions of a desired state do not contradict each other. -/
structure DeviceDesiredState.Consistent (desired : DeviceDesiredState) : Prop where
  vlans : ∀ vlanId ∈ desired.deleteVlanIds, vlanId ∉ desired.vlans
  interfaces : ∀ name ∈ desired.deleteInterfaceNames, name ∉ desired.interfaces
  acls : ∀ aclId ∈ desired.deleteAclIds, aclId ∉ desired.acls
  aclBindings : ∀ key ∈ desired.deleteAclBindings, key ∉ desired.aclBindings
  bgpProcesses : ∀ vrf ∈ desired.deleteBgpProcessVrfs, vrf ∉ desired.bgpProcesses
  bgpNeighbors : ∀ key ∈ desired.deleteBgpNeighbors, key ∉ desired.bgpNeighbors
  bindsNoDeletedAcl : ∀ (key : String) (binding : AclBinding),
    desired.aclBindings[key]? = some binding → binding.aclId ∉ desired.deleteAclIds
  keepsNoDeletedVrf : ∀ (key : String) (neighbor : BgpNeighbor),
    desired.bgpNeighbors[key]? = some neighbor → neighbor.vrf ∉ desired.deleteBgpProcessVrfs

instance (desired : DeviceDesiredState) : Decidable desired.Consistent :=
  decidable_of_iff
    ((desired.deleteVlanIds.toList.all fun vlanId => vlanId ∉ desired.vlans) ∧
      (desired.deleteInterfaceNames.toList.all fun name => name ∉ desired.interfaces) ∧
      (desired.deleteAclIds.toList.all fun aclId => aclId ∉ desired.acls) ∧
      (desired.deleteAclBindings.keys.all fun key => key ∉ desired.aclBindings) ∧
      (desired.deleteBgpProcessVrfs.toList.all fun vrf => vrf ∉ desired.bgpProcesses) ∧
      (desired.deleteBgpNeighbors.keys.all fun key => key ∉ desired.bgpNeighbors) ∧
      (desired.aclBindings.toList.all fun entry => entry.2.aclId ∉ desired.deleteAclIds) ∧
      desired.bgpNeighbors.toList.all fun entry => entry.2.vrf ∉ desired.deleteBgpProcessVrfs)
    (by
      simp only [List.all_eq_true, decide_eq_true_eq, Std.ExtTreeSet.mem_toList,
        Std.ExtTreeMap.mem_keys, Prod.forall, Std.ExtTreeMap.mem_toList_iff_getElem?_eq_some]
      constructor
      · rintro ⟨vlans, interfaces, acls, bindings, processes, neighbors, binds, keeps⟩
        exact ⟨vlans, interfaces, acls, bindings, processes, neighbors, binds, keeps⟩
      · rintro ⟨vlans, interfaces, acls, bindings, processes, neighbors, binds, keeps⟩
        exact ⟨vlans, interfaces, acls, bindings, processes, neighbors, binds, keeps⟩)

/-- A map whose wanted entries come from one upsert pass follows the diff as soon as no other
operation stores into it and no deletion hits a wanted entry. -/
theorem ObjectMap.follows_of_pass {κ ν : Type} [Ord κ] [Std.TransOrd κ] [Std.LawfulEqOrd κ]
    [DecidableEq κ] [DecidableEq ν] {objects : ObjectMap κ ν} {wanted current : BTreeMap κ ν}
    (create : ν → ChangeOp) (update : ν → ν → ChangeOp)
    (canonical : Canonical objects.key objects.normalize wanted)
    (creates : ∀ value, objects.upserted (create value) = some value)
    (updates : ∀ present value, objects.upserted (update present value) = some value)
    (included : ∀ op ∈ upsertOps create update wanted current, op ∈ ops)
    (only : ∀ op ∈ ops, ∀ value, objects.upserted op = some value →
      op ∈ upsertOps create update wanted current)
    (deleted_unwanted : ∀ op ∈ ops, ∀ key, objects.deleted op = some key → wanted[key]? = none)
    (spares_wanted : ∀ op ∈ ops, ∀ (key : κ) (value : ν), wanted[key]? = some value →
      objects.cascades op value = false) :
    objects.Follows wanted current ops where
  keyed key value isWanted := (canonical key value isWanted).1
  normal key value isWanted := (canonical key value isWanted).2
  deleted_unwanted := deleted_unwanted
  spares_wanted := spares_wanted
  upserted_wanted := by
    intro op member value isUpserted
    have inPass := only op member value isUpserted
    rw [mem_upsertOps] at inPass
    rcases inPass with ⟨key, stored, isWanted, ⟨-, rfl⟩ | ⟨present, -, -, rfl⟩⟩
    · have isValue : stored = value := by simpa [creates] using isUpserted
      rwa [← isValue, (canonical key stored isWanted).1]
    · have isValue : stored = value := by simpa [updates] using isUpserted
      rwa [← isValue, (canonical key stored isWanted).1]
  missing_upserted := by
    intro key value isWanted missing
    cases present : current[key]? with
    | none =>
        refine ⟨create value, included _ ?_, creates value⟩
        exact mem_upsertOps.mpr ⟨key, value, isWanted, .inl ⟨present, rfl⟩⟩
    | some other =>
        have differs : other ≠ value := fun same => missing (by rw [present, same])
        refine ⟨update other value, included _ ?_, updates other value⟩
        exact mem_upsertOps.mpr ⟨key, value, isWanted, .inr ⟨other, present, differs, rfl⟩⟩

section Diff

variable {desired : DeviceDesiredState} {current : DeviceShadowState}

theorem mem_normalizedDiffOps :
    op ∈ normalizedDiffOps desired current ↔
      op ∈ upsertOps .createVlan .updateVlan desired.vlans current.vlans ∨
      op ∈ upsertOps (.updateInterface none) (fun before => .updateInterface (some before))
        desired.interfaces current.interfaces ∨
      op ∈ deleteOps .deleteInterfaceConfig desired.deleteInterfaceNames current.interfaces ∨
      op ∈ deleteOps .deleteVlan desired.deleteVlanIds current.vlans ∨
      op ∈ upsertOps .createAcl .updateAcl desired.acls current.acls ∨
      op ∈ upsertOps .createAclBinding .updateAclBinding desired.aclBindings
        current.aclBindings ∨
      op ∈ deleteAclBindingOps desired.deleteAclBindings current.aclBindings ∨
      op ∈ deleteOps .deleteAcl desired.deleteAclIds current.acls ∨
      op ∈ upsertOps .createBgpProcess .updateBgpProcess desired.bgpProcesses
        current.bgpProcesses ∨
      op ∈ upsertOps .createBgpNeighbor .updateBgpNeighbor desired.bgpNeighbors
        current.bgpNeighbors ∨
      op ∈ deleteBgpNeighborOps desired.deleteBgpNeighbors current.bgpNeighbors ∨
      op ∈ deleteOps .deleteBgpProcess desired.deleteBgpProcessVrfs current.bgpProcesses := by
  simp only [normalizedDiffOps, List.mem_append, or_assoc]

theorem normalizedDiffOps_eq_nil_iff :
    normalizedDiffOps desired current = [] ↔
      (∀ (key : UInt16) (value : VlanConfig),
        desired.vlans[key]? = some value → current.vlans[key]? = some value) ∧
      (∀ (key : String) (value : InterfaceConfig),
        desired.interfaces[key]? = some value → current.interfaces[key]? = some value) ∧
      (∀ name ∈ desired.deleteInterfaceNames, name ∉ current.interfaces) ∧
      (∀ vlanId ∈ desired.deleteVlanIds, vlanId ∉ current.vlans) ∧
      (∀ (key : UInt16) (value : AclConfig),
        desired.acls[key]? = some value → current.acls[key]? = some value) ∧
      (∀ (key : String) (value : AclBinding),
        desired.aclBindings[key]? = some value → current.aclBindings[key]? = some value) ∧
      (∀ (key : String) (deletion binding : AclBinding),
        desired.deleteAclBindings[key]? = some deletion →
          current.aclBindings[key]? = some binding → binding.aclId ≠ deletion.aclId) ∧
      (∀ aclId ∈ desired.deleteAclIds, aclId ∉ current.acls) ∧
      (∀ (key : String) (value : BgpProcess),
        desired.bgpProcesses[key]? = some value → current.bgpProcesses[key]? = some value) ∧
      (∀ (key : String) (value : BgpNeighbor),
        desired.bgpNeighbors[key]? = some value → current.bgpNeighbors[key]? = some value) ∧
      (∀ (key : String) (deletion : BgpNeighbor),
        desired.deleteBgpNeighbors[key]? = some deletion → key ∉ current.bgpNeighbors) ∧
      ∀ vrf ∈ desired.deleteBgpProcessVrfs, vrf ∉ current.bgpProcesses := by
  simp only [normalizedDiffOps, List.append_eq_nil_iff, upsertOps_eq_nil_iff,
    deleteOps_eq_nil_iff, deleteAclBindingOps_eq_nil_iff, deleteBgpNeighborOps_eq_nil_iff,
    Std.ExtTreeSet.mem_toList, and_assoc]

section Membership

attribute [local simp] mem_normalizedDiffOps mem_upsertOps mem_deleteOps mem_deleteAclBindingOps
  mem_deleteBgpNeighborOps

theorem deleteVlan_mem {vlanId : UInt16} :
    .deleteVlan vlanId ∈ normalizedDiffOps desired current ↔
      vlanId ∈ desired.deleteVlanIds ∧ vlanId ∈ current.vlans := by
  simp

variable {name : String} {aclId : UInt16}

theorem deleteInterfaceConfig_mem :
    .deleteInterfaceConfig name ∈ normalizedDiffOps desired current ↔
      name ∈ desired.deleteInterfaceNames ∧ name ∈ current.interfaces := by
  simp

theorem deleteAcl_mem :
    .deleteAcl aclId ∈ normalizedDiffOps desired current ↔
      aclId ∈ desired.deleteAclIds ∧ aclId ∈ current.acls := by
  simp

theorem deleteBgpProcess_mem {vrf : String} :
    .deleteBgpProcess vrf ∈ normalizedDiffOps desired current ↔
      vrf ∈ desired.deleteBgpProcessVrfs ∧ vrf ∈ current.bgpProcesses := by
  simp

theorem deleteAclBinding_mem {direction : AclDirection} :
    .deleteAclBinding name direction aclId ∈ normalizedDiffOps desired current ↔
      .deleteAclBinding name direction aclId ∈
        deleteAclBindingOps desired.deleteAclBindings current.aclBindings := by
  simp

theorem deleteBgpNeighbor_mem {vrf address : String} :
    .deleteBgpNeighbor vrf address ∈ normalizedDiffOps desired current ↔
      .deleteBgpNeighbor vrf address ∈
        deleteBgpNeighborOps desired.deleteBgpNeighbors current.bgpNeighbors := by
  simp

/-! An operation that stores into a map comes from the upsert pass of that map. -/

variable (member : op ∈ normalizedDiffOps desired current)

include member

theorem vlanObjects_upserted_mem {value : VlanConfig}
    (isUpserted : vlanObjects.upserted op = some value) :
    op ∈ upsertOps .createVlan .updateVlan desired.vlans current.vlans := by
  cases op <;> simp [vlanObjects] at isUpserted <;> simpa using member

theorem interfaceObjects_upserted_mem {value : InterfaceConfig}
    (isUpserted : interfaceObjects.upserted op = some value) :
    op ∈ upsertOps (.updateInterface none)
      (fun before => .updateInterface (some before)) desired.interfaces current.interfaces := by
  cases op <;> simp [interfaceObjects] at isUpserted
  simpa using member

theorem aclObjects_upserted_mem {value : AclConfig}
    (isUpserted : aclObjects.upserted op = some value) :
    op ∈ upsertOps .createAcl .updateAcl desired.acls current.acls := by
  cases op <;> simp [aclObjects] at isUpserted <;> simpa using member

theorem aclBindingObjects_upserted_mem {value : AclBinding}
    (isUpserted : aclBindingObjects.upserted op = some value) :
    op ∈ upsertOps .createAclBinding .updateAclBinding desired.aclBindings current.aclBindings := by
  cases op <;> simp [aclBindingObjects] at isUpserted <;> simpa using member

theorem bgpProcessObjects_upserted_mem {value : BgpProcess}
    (isUpserted : bgpProcessObjects.upserted op = some value) :
    op ∈ upsertOps .createBgpProcess .updateBgpProcess desired.bgpProcesses
      current.bgpProcesses := by
  cases op <;> simp [bgpProcessObjects] at isUpserted <;> simpa using member

theorem bgpNeighborObjects_upserted_mem {value : BgpNeighbor}
    (isUpserted : bgpNeighborObjects.upserted op = some value) :
    op ∈ upsertOps .createBgpNeighbor .updateBgpNeighbor desired.bgpNeighbors
      current.bgpNeighbors := by
  cases op <;> simp [bgpNeighborObjects] at isUpserted <;> simpa using member

end Membership

theorem vlanObjects_follows (consistent : desired.Consistent)
    (canonical : Canonical VlanConfig.vlanId VlanConfig.normalize desired.vlans) :
    vlanObjects.Follows desired.vlans current.vlans (normalizedDiffOps desired current) := by
  refine ObjectMap.follows_of_pass .createVlan .updateVlan canonical (fun _ => rfl)
    (fun _ _ => rfl) (fun op member => mem_normalizedDiffOps.mpr (.inl member)) ?_ ?_
    (fun _ _ _ _ _ => rfl)
  · exact fun op member value isUpserted => vlanObjects_upserted_mem member isUpserted
  · intro op member key isDeleted
    cases op <;> simp [vlanObjects] at isDeleted
    subst isDeleted
    exact Std.ExtTreeMap.getElem?_eq_none (consistent.vlans _ (deleteVlan_mem.mp member).1)

theorem interfaceObjects_follows (consistent : desired.Consistent)
    (canonical : Canonical InterfaceConfig.name InterfaceConfig.normalize desired.interfaces) :
    interfaceObjects.Follows desired.interfaces current.interfaces
      (normalizedDiffOps desired current) := by
  refine ObjectMap.follows_of_pass (.updateInterface none)
    (fun before => .updateInterface (some before)) canonical (fun _ => rfl) (fun _ _ => rfl)
    (fun op member => mem_normalizedDiffOps.mpr (.inr (.inl member))) ?_ ?_
    (fun _ _ _ _ _ => rfl)
  · exact fun op member value isUpserted => interfaceObjects_upserted_mem member isUpserted
  · intro op member key isDeleted
    cases op <;> simp [interfaceObjects] at isDeleted
    subst isDeleted
    exact Std.ExtTreeMap.getElem?_eq_none
      (consistent.interfaces _ (deleteInterfaceConfig_mem.mp member).1)

theorem aclObjects_follows (consistent : desired.Consistent)
    (canonical : Canonical AclConfig.aclId AclConfig.normalize desired.acls) :
    aclObjects.Follows desired.acls current.acls (normalizedDiffOps desired current) := by
  refine ObjectMap.follows_of_pass .createAcl .updateAcl canonical (fun _ => rfl)
    (fun _ _ => rfl) (fun op member => by simp [mem_normalizedDiffOps, member]) ?_ ?_
    (fun _ _ _ _ _ => rfl)
  · exact fun op member value isUpserted => aclObjects_upserted_mem member isUpserted
  · intro op member key isDeleted
    cases op <;> simp [aclObjects] at isDeleted
    subst isDeleted
    exact Std.ExtTreeMap.getElem?_eq_none (consistent.acls _ (deleteAcl_mem.mp member).1)

/-- A deletion of bindings hits the key under which the plan lists it. -/
theorem deleteAclBinding_key
    (canonical : Canonical AclBinding.key AclBinding.normalize desired.deleteAclBindings)
    {direction : AclDirection}
    (member : .deleteAclBinding name direction aclId ∈ normalizedDiffOps desired current) :
    aclBindingKey name direction ∈ desired.deleteAclBindings := by
  rw [deleteAclBinding_mem, mem_deleteAclBindingOps] at member
  rcases member with ⟨key, deletion, binding, isDeletion, -, -, same⟩
  rw [ChangeOp.deleteAclBinding.injEq] at same
  rcases same with ⟨rfl, rfl, -⟩
  have ownKey : aclBindingKey deletion.interfaceName deletion.direction = key :=
    (canonical key deletion isDeletion).1
  rw [ownKey, Std.ExtTreeMap.mem_iff_isSome_getElem?, isDeletion]
  rfl

theorem aclBindingObjects_follows (consistent : desired.Consistent)
    (canonical : Canonical AclBinding.key AclBinding.normalize desired.aclBindings)
    (canonicalDeletions :
      Canonical AclBinding.key AclBinding.normalize desired.deleteAclBindings) :
    aclBindingObjects.Follows desired.aclBindings current.aclBindings
      (normalizedDiffOps desired current) := by
  refine ObjectMap.follows_of_pass .createAclBinding .updateAclBinding canonical (fun _ => rfl)
    (fun _ _ => rfl) (fun op member => by simp [mem_normalizedDiffOps, member]) ?_ ?_ ?_
  · exact fun op member value isUpserted => aclBindingObjects_upserted_mem member isUpserted
  · intro op member key isDeleted
    cases op <;> simp [aclBindingObjects] at isDeleted
    subst isDeleted
    exact Std.ExtTreeMap.getElem?_eq_none
      (consistent.aclBindings _ (deleteAclBinding_key canonicalDeletions member))
  · intro op member key binding isWanted
    cases op <;> simp only [aclBindingObjects]
    rename_i aclId
    rw [decide_eq_false_iff_not]
    rintro rfl
    exact consistent.bindsNoDeletedAcl key binding isWanted (deleteAcl_mem.mp member).1

theorem bgpProcessObjects_follows (consistent : desired.Consistent)
    (canonical : Canonical BgpProcess.vrf BgpProcess.normalize desired.bgpProcesses) :
    bgpProcessObjects.Follows desired.bgpProcesses current.bgpProcesses
      (normalizedDiffOps desired current) := by
  refine ObjectMap.follows_of_pass .createBgpProcess .updateBgpProcess canonical (fun _ => rfl)
    (fun _ _ => rfl) (fun op member => by simp [mem_normalizedDiffOps, member]) ?_ ?_
    (fun _ _ _ _ _ => rfl)
  · exact fun op member value isUpserted => bgpProcessObjects_upserted_mem member isUpserted
  · intro op member key isDeleted
    cases op <;> simp [bgpProcessObjects] at isDeleted
    subst isDeleted
    exact Std.ExtTreeMap.getElem?_eq_none
      (consistent.bgpProcesses _ (deleteBgpProcess_mem.mp member).1)

theorem deleteBgpNeighbor_key
    (canonical : Canonical BgpNeighbor.key BgpNeighbor.normalize desired.deleteBgpNeighbors)
    {vrf address : String}
    (member : .deleteBgpNeighbor vrf address ∈ normalizedDiffOps desired current) :
    bgpNeighborKey vrf address ∈ desired.deleteBgpNeighbors := by
  rw [deleteBgpNeighbor_mem, mem_deleteBgpNeighborOps] at member
  rcases member with ⟨key, deletion, isDeletion, -, same⟩
  rw [ChangeOp.deleteBgpNeighbor.injEq] at same
  rcases same with ⟨rfl, rfl⟩
  have ownKey : bgpNeighborKey deletion.vrf deletion.address = key :=
    (canonical key deletion isDeletion).1
  rw [ownKey, Std.ExtTreeMap.mem_iff_isSome_getElem?, isDeletion]
  rfl

theorem bgpNeighborObjects_follows (consistent : desired.Consistent)
    (canonical : Canonical BgpNeighbor.key BgpNeighbor.normalize desired.bgpNeighbors)
    (canonicalDeletions :
      Canonical BgpNeighbor.key BgpNeighbor.normalize desired.deleteBgpNeighbors) :
    bgpNeighborObjects.Follows desired.bgpNeighbors current.bgpNeighbors
      (normalizedDiffOps desired current) := by
  refine ObjectMap.follows_of_pass .createBgpNeighbor .updateBgpNeighbor canonical
    (fun _ => rfl) (fun _ _ => rfl) (fun op member => by simp [mem_normalizedDiffOps, member])
    ?_ ?_ ?_
  · exact fun op member value isUpserted => bgpNeighborObjects_upserted_mem member isUpserted
  · intro op member key isDeleted
    cases op <;> simp [bgpNeighborObjects] at isDeleted
    subst isDeleted
    exact Std.ExtTreeMap.getElem?_eq_none
      (consistent.bgpNeighbors _ (deleteBgpNeighbor_key canonicalDeletions member))
  · intro op member key neighbor isWanted
    cases op <;> simp only [bgpNeighborObjects]
    rename_i vrf
    rw [decide_eq_false_iff_not]
    rintro rfl
    exact consistent.keepsNoDeletedVrf key neighbor isWanted (deleteBgpProcess_mem.mp member).1

end Diff

/-! ## Convergence and frame -/

section Convergence

variable {desired : DeviceDesiredState} {current : DeviceShadowState}

/-- Every map of the state is canonical. -/
structure DeviceShadowState.Normal (state : DeviceShadowState) : Prop where
  vlans : Canonical VlanConfig.vlanId VlanConfig.normalize state.vlans
  interfaces : Canonical InterfaceConfig.name InterfaceConfig.normalize state.interfaces
  acls : Canonical AclConfig.aclId AclConfig.normalize state.acls
  aclBindings : Canonical AclBinding.key AclBinding.normalize state.aclBindings
  bgpProcesses : Canonical BgpProcess.vrf BgpProcess.normalize state.bgpProcesses
  bgpNeighbors : Canonical BgpNeighbor.key BgpNeighbor.normalize state.bgpNeighbors

theorem DeviceShadowState.Normal.normalize_eq_self {state : DeviceShadowState}
    (normal : state.Normal) :
    normalizeShadowState state = state := by
  simp only [normalizeShadowState, normal.vlans.rekey_eq_self, normal.interfaces.rekey_eq_self,
    normal.acls.rekey_eq_self, normal.aclBindings.rekey_eq_self,
    normal.bgpProcesses.rekey_eq_self, normal.bgpNeighbors.rekey_eq_self]

theorem normal_normalizeShadowState (state : DeviceShadowState) :
    (normalizeShadowState state).Normal where
  vlans := canonical_rekey VlanConfig.normalize_idempotent _
  interfaces := canonical_rekey InterfaceConfig.normalize_idempotent _
  acls := canonical_rekey AclConfig.normalize_idempotent _
  aclBindings := canonical_rekey AclBinding.normalize_idempotent _
  bgpProcesses := canonical_rekey BgpProcess.normalize_idempotent _
  bgpNeighbors := canonical_rekey BgpNeighbor.normalize_idempotent _

/-- The maps of a normalized desired state follow its diff from any state. -/
structure FollowsAll (desired : DeviceDesiredState) (state : DeviceShadowState)
    (ops : List ChangeOp) : Prop where
  vlans : vlanObjects.Follows desired.vlans state.vlans ops
  interfaces : interfaceObjects.Follows desired.interfaces state.interfaces ops
  acls : aclObjects.Follows desired.acls state.acls ops
  aclBindings : aclBindingObjects.Follows desired.aclBindings state.aclBindings ops
  bgpProcesses : bgpProcessObjects.Follows desired.bgpProcesses state.bgpProcesses ops
  bgpNeighbors : bgpNeighborObjects.Follows desired.bgpNeighbors state.bgpNeighbors ops

theorem followsAll_normalizedDiffOps (consistent : (normalizeDesiredState desired).Consistent)
    (state : DeviceShadowState) :
    FollowsAll (normalizeDesiredState desired) state
      (normalizedDiffOps (normalizeDesiredState desired) state) where
  vlans := vlanObjects_follows consistent (canonical_rekey VlanConfig.normalize_idempotent _)
  interfaces := interfaceObjects_follows consistent
    (canonical_rekey InterfaceConfig.normalize_idempotent _)
  acls := aclObjects_follows consistent (canonical_rekey AclConfig.normalize_idempotent _)
  aclBindings := aclBindingObjects_follows consistent
    (canonical_rekey AclBinding.normalize_idempotent _)
    (canonical_rekey AclBinding.normalize_idempotent _)
  bgpProcesses := bgpProcessObjects_follows consistent
    (canonical_rekey BgpProcess.normalize_idempotent _)
  bgpNeighbors := bgpNeighborObjects_follows consistent
    (canonical_rekey BgpNeighbor.normalize_idempotent _)
    (canonical_rekey BgpNeighbor.normalize_idempotent _)

theorem FollowsAll.normal_replay (follows : FollowsAll desired current ops)
    (normal : current.Normal) :
    (ops.foldl applyOp current).Normal where
  vlans := follows.vlans.canonical vlanObjects_lawful normal.vlans
  interfaces := follows.interfaces.canonical interfaceObjects_lawful normal.interfaces
  acls := follows.acls.canonical aclObjects_lawful normal.acls
  aclBindings := follows.aclBindings.canonical aclBindingObjects_lawful normal.aclBindings
  bgpProcesses := follows.bgpProcesses.canonical bgpProcessObjects_lawful normal.bgpProcesses
  bgpNeighbors := follows.bgpNeighbors.canonical bgpNeighborObjects_lawful normal.bgpNeighbors

/-- After the replay a binding no longer has the ACL of a deletion listed under its key. -/
theorem FollowsAll.deleted_bindings (isDiff : ops = normalizedDiffOps desired current)
    (follows : FollowsAll desired current ops) (consistent : desired.Consistent)
    (canonical : Canonical AclBinding.key AclBinding.normalize desired.deleteAclBindings)
    {key : String} {deletion binding : AclBinding}
    (isDeletion : desired.deleteAclBindings[key]? = some deletion)
    (present : (ops.foldl applyOp current).aclBindings[key]? = some binding) :
    binding.aclId ≠ deletion.aclId := by
  intro same
  have listed : key ∈ desired.deleteAclBindings := by
    rw [Std.ExtTreeMap.mem_iff_isSome_getElem?, isDeletion]
    rfl
  have unwanted : desired.aclBindings[key]? = none :=
    Std.ExtTreeMap.getElem?_eq_none (consistent.aclBindings key listed)
  have ownKey : aclBindingKey deletion.interfaceName deletion.direction = key :=
    (canonical key deletion isDeletion).1
  -- the binding survived, so it was there before and the diff deletes it
  rcases follows.aclBindings.origin aclBindingObjects_lawful present with before | isWanted
  · have deleteMember : ChangeOp.deleteAclBinding deletion.interfaceName deletion.direction
        deletion.aclId ∈ ops := by
      rw [isDiff, deleteAclBinding_mem, mem_deleteAclBindingOps]
      exact ⟨key, deletion, binding, isDeletion, before, same, rfl⟩
    have gone := follows.aclBindings.deleted_absent aclBindingObjects_lawful unwanted deleteMember
      (congrArg some ownKey) rfl
    exact absurd (gone.symm.trans present) (by simp)
  · rw [unwanted] at isWanted
    simp at isWanted

/-- A second diff after the replay of the first finds nothing to do. -/
theorem FollowsAll.normalizedDiffOps_replay (isDiff : ops = normalizedDiffOps desired current)
    (follows : FollowsAll desired current ops) (consistent : desired.Consistent)
    (canonicalBindings :
      Canonical AclBinding.key AclBinding.normalize desired.deleteAclBindings)
    (canonicalNeighbors :
      Canonical BgpNeighbor.key BgpNeighbor.normalize desired.deleteBgpNeighbors) :
    normalizedDiffOps desired (ops.foldl applyOp current) = [] := by
  rw [normalizedDiffOps_eq_nil_iff]
  refine ⟨?_, ?_, ?_, ?_, ?_, ?_, ?_, ?_, ?_, ?_, ?_, ?_⟩
  · intro key value isWanted
    exact follows.vlans.wanted_present vlanObjects_lawful isWanted
  · intro key value isWanted
    exact follows.interfaces.wanted_present interfaceObjects_lawful isWanted
  · intro name listed
    exact follows.interfaces.absent interfaceObjects_lawful (consistent.interfaces name listed)
      fun present => ⟨_, isDiff ▸ deleteInterfaceConfig_mem.mpr ⟨listed, present⟩, rfl, rfl⟩
  · intro vlanId listed
    exact follows.vlans.absent vlanObjects_lawful (consistent.vlans vlanId listed)
      fun present => ⟨_, isDiff ▸ deleteVlan_mem.mpr ⟨listed, present⟩, rfl, rfl⟩
  · intro key value isWanted
    exact follows.acls.wanted_present aclObjects_lawful isWanted
  · intro key value isWanted
    exact follows.aclBindings.wanted_present aclBindingObjects_lawful isWanted
  · intro key deletion binding isDeletion present
    exact follows.deleted_bindings isDiff consistent canonicalBindings isDeletion present
  · intro aclId listed
    exact follows.acls.absent aclObjects_lawful (consistent.acls aclId listed)
      fun present => ⟨_, isDiff ▸ deleteAcl_mem.mpr ⟨listed, present⟩, rfl, rfl⟩
  · intro key value isWanted
    exact follows.bgpProcesses.wanted_present bgpProcessObjects_lawful isWanted
  · intro key value isWanted
    exact follows.bgpNeighbors.wanted_present bgpNeighborObjects_lawful isWanted
  · intro key deletion isDeletion
    have listed : key ∈ desired.deleteBgpNeighbors := by
      rw [Std.ExtTreeMap.mem_iff_isSome_getElem?, isDeletion]
      rfl
    have ownKey : bgpNeighborKey deletion.vrf deletion.address = key :=
      (canonicalNeighbors key deletion isDeletion).1
    refine follows.bgpNeighbors.absent bgpNeighborObjects_lawful
      (consistent.bgpNeighbors key listed) fun present => ?_
    refine ⟨.deleteBgpNeighbor deletion.vrf deletion.address, ?_, congrArg some ownKey, rfl⟩
    rw [isDiff, deleteBgpNeighbor_mem, mem_deleteBgpNeighborOps]
    exact ⟨key, deletion, isDeletion, present, rfl⟩
  · intro vrf listed
    exact follows.bgpProcesses.absent bgpProcessObjects_lawful (consistent.bgpProcesses vrf listed)
      fun present => ⟨_, isDiff ▸ deleteBgpProcess_mem.mpr ⟨listed, present⟩, rfl, rfl⟩

/-- The shadow state obtained by replaying a diff on the state it was computed from. -/
def replayDiff (desired : DeviceDesiredState) (current : DeviceShadowState)
    (revision : UInt64) : DeviceShadowState :=
  (computeDiff desired current).applyToShadow (some current) desired revision

/-- Replaying a diff converges: the next diff is empty, and every object that no operation names
is still there unchanged, except the bindings of deleted ACLs and the neighbors of deleted BGP
processes. -/
theorem computeDiff_replayDiff (desired : DeviceDesiredState) (current : DeviceShadowState)
    (revision : UInt64) (consistent : (normalizeDesiredState desired).Consistent)
    (normal : normalizeShadowState current = current) :
    (computeDiff desired (replayDiff desired current revision)).ops = [] ∧
      vlanObjects.Framed (computeDiff desired current).ops current
        (replayDiff desired current revision) ∧
      interfaceObjects.Framed (computeDiff desired current).ops current
        (replayDiff desired current revision) ∧
      aclObjects.Framed (computeDiff desired current).ops current
        (replayDiff desired current revision) ∧
      aclBindingObjects.Framed (computeDiff desired current).ops current
        (replayDiff desired current revision) ∧
      bgpProcessObjects.Framed (computeDiff desired current).ops current
        (replayDiff desired current revision) ∧
      bgpNeighborObjects.Framed (computeDiff desired current).ops current
        (replayDiff desired current revision) := by
  -- the replay starts from `current` with the header fields of the desired state
  let start : DeviceShadowState :=
    { current with deviceId := desired.deviceId, revision := revision, warnings := [] }
  have startNormal : start.Normal := by
    have currentNormal := normal_normalizeShadowState current
    rw [normal] at currentNormal
    exact ⟨currentNormal.vlans, currentNormal.interfaces, currentNormal.acls,
      currentNormal.aclBindings, currentNormal.bgpProcesses, currentNormal.bgpNeighbors⟩
  have sameOps : (computeDiff desired current).ops =
      normalizedDiffOps (normalizeDesiredState desired) start := by
    simp only [computeDiff, normal]
    rfl
  have replayed : replayDiff desired current revision =
      (normalizedDiffOps (normalizeDesiredState desired) start).foldl applyOp start := by
    rw [replayDiff, ChangeSet.applyToShadow, sameOps]
    rfl
  have follows := followsAll_normalizedDiffOps consistent start
  rw [sameOps, replayed]
  refine ⟨?_, vlanObjects_lawful.framed start, interfaceObjects_lawful.framed start,
    aclObjects_lawful.framed start, aclBindingObjects_lawful.framed start,
    bgpProcessObjects_lawful.framed start, bgpNeighborObjects_lawful.framed start⟩
  rw [computeDiff, (follows.normal_replay startNormal).normalize_eq_self]
  exact follows.normalizedDiffOps_replay rfl consistent
    (canonical_rekey AclBinding.normalize_idempotent _)
    (canonical_rekey BgpNeighbor.normalize_idempotent _)

/-- A plan that renames VLAN 10, drops VLAN 20 and drops ACL 3001. -/
def sampleDesired : DeviceDesiredState where
  deviceId := "leaf-a"
  vlans := .ofList [((10 : UInt16), (⟨10, some "prod", some ""⟩ : VlanConfig))]
  deleteVlanIds := .ofList [(20 : UInt16)]
  deleteAclIds := .ofList [(3001 : UInt16)]

/-- A device on which ACL 3001 is still bound. -/
def sampleCurrent : DeviceShadowState where
  deviceId := "leaf-a"
  revision := 4
  vlans := .ofList [((20 : UInt16), (⟨20, none, none⟩ : VlanConfig)), (30, ⟨30, none, none⟩)]
  acls := .ofList [((3001 : UInt16), (⟨3001, .advancedIpv4, none, none, []⟩ : AclConfig))]
  aclBindings := .ofList [("GE1|inbound", (⟨"GE1", .inbound, 3001⟩ : AclBinding))]

theorem computeDiff_replayDiff_sample :
    (computeDiff sampleDesired sampleCurrent).ops ≠ [] ∧
      (computeDiff sampleDesired (replayDiff sampleDesired sampleCurrent 5)).ops = [] := by
  refine ⟨by decide +kernel, ?_⟩
  exact (computeDiff_replayDiff sampleDesired sampleCurrent 5 (by decide +kernel)
    (by decide +kernel)).1

end Convergence

end AriaUnderlay
