import AriaUnderlay.Collections.Runs
import AriaUnderlay.Engine.ChangePlan
import AriaUnderlay.Planner.DomainPlan

/-!
# References during a staged change

A device carries out the operations of a change plan one by one and refuses to delete an object that
another one still refers to.  The stages delete base objects before they update ports and bindings,
so they respect the references except where an update is what drops the old reference.
-/

namespace AriaUnderlay

open Collections

/-- One operation on a device, where the deletion of an object takes nothing else along. -/
def applyOpAlone (state : DeviceShadowState) : ChangeOp → DeviceShadowState
  | .deleteAcl aclId => { state with acls := state.acls.erase aclId }
  | .deleteBgpProcess vrf => { state with bgpProcesses := state.bgpProcesses.erase vrf }
  | op => applyOp state op

/-! ## One map -/

variable {op : ChangeOp} {ops : List ChangeOp}

namespace ObjectMap

variable {κ ν : Type} [Ord κ] [DecidableEq κ]

/-- The effect of one operation on the entry under a key, without cascades. -/
def actAlone (objects : ObjectMap κ ν) (key : κ) (present : Option ν) (op : ChangeOp) : Option ν :=
  match objects.upserted op with
  | some value => if objects.key value = key then some value else present
  | none => if objects.deleted op = some key then none else present

variable [Std.TransOrd κ]

/-- The operations act on the map entry by entry, and only where they name it. -/
def LawfulAlone (objects : ObjectMap κ ν) : Prop :=
  ∀ state op (key : κ),
    (objects.read (applyOpAlone state op))[key]? =
      objects.actAlone key (objects.read state)[key]? op

section Run

variable {objects : ObjectMap κ ν} {state : DeviceShadowState} {key : κ}
  (lawful : objects.LawfulAlone) (tidy : objects.Tidy)

include lawful

theorem LawfulAlone.run :
    (objects.read (ops.foldl applyOpAlone state))[key]? =
      ops.foldl (objects.actAlone key) (objects.read state)[key]? :=
  (List.foldl_hom (fun later => (objects.read later)[key]?)
    (fun later op => (lawful later op key).symm)).symm

theorem LawfulAlone.unnamed (unnamed : ∀ op ∈ ops, ¬objects.Names op key) :
    (objects.read (ops.foldl applyOpAlone state))[key]? = (objects.read state)[key]? := by
  rw [lawful.run]
  apply foldl_eq_of_fixed
  intro op member
  unfold actAlone
  split
  case h_1 value isUpserted =>
    exact if_neg fun sameKey => unnamed op member (.inl ⟨value, isUpserted, sameKey⟩)
  case h_2 => exact if_neg fun isDeleted => unnamed op member (.inr isDeleted)

include tidy

/-- An entry was stored by an operation, or it was there before and no operation named it. -/
theorem LawfulAlone.origin {value : ν}
    (present : (objects.read (ops.foldl applyOpAlone state))[key]? = some value) :
    (∃ op ∈ ops, objects.upserted op = some value ∧ objects.key value = key) ∨
      (objects.read state)[key]? = some value ∧ ∀ op ∈ ops, ¬objects.Names op key := by
  induction ops using List.reverseRecOn with
  | nil => exact .inr ⟨present, by simp⟩
  | append_singleton rest op ih =>
      rw [List.foldl_concat, lawful] at present
      -- either the last operation stored the entry, or it left alone what was there
      have last : (objects.upserted op = some value ∧ objects.key value = key) ∨
          (objects.read (rest.foldl applyOpAlone state))[key]? = some value ∧
            ¬objects.Names op key := by
        unfold actAlone at present
        split at present
        case h_1 stored isUpserted =>
          have undeleted := (tidy op stored isUpserted).1
          grind [Names]
        case h_2 notUpserted => grind [Names]
      rcases last with ⟨isUpserted, sameKey⟩ | ⟨before, unnamed⟩
      · exact .inl ⟨op, by simp, isUpserted, sameKey⟩
      · rcases ih before with ⟨earlier, member, isUpserted⟩ | ⟨atStart, othersUnnamed⟩
        · exact .inl ⟨earlier, by simp [member], isUpserted⟩
        · refine .inr ⟨atStart, ?_⟩
          intro other member
          rcases List.mem_append.mp member with earlier | isLast
          · exact othersUnnamed other earlier
          · rw [List.mem_singleton.mp isLast]
            exact unnamed

/-- What an operation deletes and none stores is gone. -/
theorem LawfulAlone.deleted (member : op ∈ ops) (isDeleted : objects.deleted op = some key)
    (unstored : ∀ other ∈ ops, ∀ value, objects.upserted other = some value →
      objects.key value ≠ key) :
    key ∉ objects.read (ops.foldl applyOpAlone state) := by
  rw [Std.ExtTreeMap.mem_iff_isSome_getElem?]
  intro isSome
  rcases Option.isSome_iff_exists.mp isSome with ⟨value, present⟩
  rcases lawful.origin tidy present with ⟨other, otherMember, isUpserted, sameKey⟩ | ⟨-, unnamed⟩
  · exact unstored other otherMember value isUpserted sameKey
  · exact unnamed op member (.inr isDeleted)

omit tidy

/-- What is there or stored and never deleted stays there. -/
theorem LawfulAlone.present
    (here : key ∈ objects.read state ∨
      ∃ op ∈ ops, ∃ value, objects.upserted op = some value ∧ objects.key value = key)
    (undeleted : ∀ op ∈ ops, objects.deleted op ≠ some key) :
    key ∈ objects.read (ops.foldl applyOpAlone state) := by
  induction ops generalizing state with
  | nil => simpa using here
  | cons op rest ih =>
      have next : key ∈ objects.read state ∨
          (∃ value, objects.upserted op = some value ∧ objects.key value = key) →
            key ∈ objects.read (applyOpAlone state op) := by
        rw [Std.ExtTreeMap.mem_iff_isSome_getElem?, Std.ExtTreeMap.mem_iff_isSome_getElem?, lawful]
        have spared := undeleted op List.mem_cons_self
        unfold actAlone
        grind
      refine ih ?_ fun other member => undeleted other (List.mem_cons_of_mem op member)
      rcases here with atStart | ⟨storing, member, stored⟩
      · exact .inl (next (.inl atStart))
      · rcases List.mem_cons.mp member with rfl | later
        · exact .inl (next (.inr stored))
        · exact .inr ⟨storing, later, stored⟩

include tidy

/-- What is stored under a key that is stored with one value only and never deleted. -/
theorem LawfulAlone.stored {value : ν} (member : op ∈ ops)
    (isUpserted : objects.upserted op = some value)
    (once : ∀ other ∈ ops, ∀ later, objects.upserted other = some later →
      objects.key later = objects.key value → later = value)
    (undeleted : ∀ other ∈ ops, objects.deleted other ≠ some (objects.key value)) :
    (objects.read (ops.foldl applyOpAlone state))[objects.key value]? = some value := by
  have isThere : objects.key value ∈ objects.read (ops.foldl applyOpAlone state) :=
    lawful.present (.inr ⟨op, member, value, isUpserted, rfl⟩) undeleted
  rw [Std.ExtTreeMap.mem_iff_isSome_getElem?] at isThere
  rcases Option.isSome_iff_exists.mp isThere with ⟨later, present⟩
  rcases lawful.origin tidy present with ⟨other, otherMember, laterUpserted, sameKey⟩ | ⟨-, unnamed⟩
  · rw [present, once other otherMember later laterUpserted sameKey]
  · exact absurd (.inl ⟨value, isUpserted, rfl⟩) (unnamed op member)

end Run

end ObjectMap

theorem vlanObjects_lawfulAlone : vlanObjects.LawfulAlone := by
  intro state op key
  cases op <;> simp only [vlanObjects, ObjectMap.actAlone, applyOpAlone, applyOp] <;> grind

theorem interfaceObjects_lawfulAlone : interfaceObjects.LawfulAlone := by
  intro state op key
  cases op <;> simp only [interfaceObjects, ObjectMap.actAlone, applyOpAlone, applyOp] <;> grind

theorem aclObjects_lawfulAlone : aclObjects.LawfulAlone := by
  intro state op key
  cases op <;> simp only [aclObjects, ObjectMap.actAlone, applyOpAlone, applyOp] <;> grind

theorem aclBindingObjects_lawfulAlone : aclBindingObjects.LawfulAlone := by
  intro state op key
  cases op <;> simp only [aclBindingObjects, ObjectMap.actAlone, applyOpAlone, applyOp] <;> grind

theorem bgpProcessObjects_lawfulAlone : bgpProcessObjects.LawfulAlone := by
  intro state op key
  cases op <;> simp only [bgpProcessObjects, ObjectMap.actAlone, applyOpAlone, applyOp] <;> grind

theorem bgpNeighborObjects_lawfulAlone : bgpNeighborObjects.LawfulAlone := by
  intro state op key
  cases op <;> simp only [bgpNeighborObjects, ObjectMap.actAlone, applyOpAlone, applyOp] <;> grind

/-! ## The order of the stages -/

def ChangePlanStageKind.position : ChangePlanStageKind → ℕ
  | .unbindReferences => 0
  | .deleteBaseObjects => 2
  | .createBaseObjects => 3
  | .updateBaseObjects => 4
  | .bindReferences => 5

/-- Where an operation stands among the staged ones.  Of the objects to be deleted the diff lists
the ports first. -/
def ChangeOp.stagePosition : ChangeOp → ℕ
  | .deleteInterfaceConfig _ => 1
  | op => op.stageKind.position

theorem stagePosition_eq_or (op : ChangeOp) :
    op.stagePosition = op.stageKind.position ∨
      op.stagePosition = 1 ∧ op.stageKind.position = 2 := by
  cases op <;> simp [ChangeOp.stagePosition, ChangeOp.stageKind, ChangePlanStageKind.position]

section Order

variable {desired : DeviceDesiredState} {current : DeviceShadowState}

/-- No deletion of another base object comes before that of a port. -/
theorem normalizedDiffOps_interfaces_first :
    (normalizedDiffOps desired current).Pairwise fun earlier later =>
      ¬(earlier.stagePosition = 2 ∧ later.stagePosition = 1) := by
  have split : ∃ first rest, normalizedDiffOps desired current = first ++ rest ∧
      (∀ op ∈ first, op.stagePosition ≠ 2) ∧ ∀ op ∈ rest, op.stagePosition ≠ 1 := by
    refine ⟨upsertOps .createVlan .updateVlan desired.vlans current.vlans ++
      upsertOps (.updateInterface none) (fun before => .updateInterface (some before))
        desired.interfaces current.interfaces ++
      deleteOps .deleteInterfaceConfig desired.deleteInterfaceNames current.interfaces, _,
      by simp only [normalizedDiffOps, List.append_assoc]; rfl, ?_, ?_⟩
    · intro op member
      simp only [List.mem_append, mem_upsertOps, mem_deleteOps] at member
      cases op <;> simp_all [ChangeOp.stagePosition, ChangeOp.stageKind,
        ChangePlanStageKind.position]
    · intro op member
      simp only [List.mem_append, mem_upsertOps, mem_deleteOps, mem_deleteAclBindingOps,
        mem_deleteBgpNeighborOps] at member
      cases op <;> simp_all [ChangeOp.stagePosition, ChangeOp.stageKind,
        ChangePlanStageKind.position]
  rcases split with ⟨first, rest, same, noOther, noPort⟩
  rw [same, List.pairwise_append]
  refine ⟨?_, ?_, fun earlier inFirst later _ both => noOther earlier inFirst both.1⟩
  · exact List.pairwise_of_forall_mem_list fun earlier member _ _ both =>
      noOther earlier member both.1
  · exact List.pairwise_of_forall_mem_list fun _ _ later member both => noPort later member both.2

theorem stageKind_of_mem_stageOps {kind : ChangePlanStageKind} (member : op ∈ stageOps ops kind) :
    op.stageKind = kind := by
  simpa [stageOps] using (List.mem_filter.mp member).2

theorem stagedOps_ordered :
    (stageKinds.flatMap (stageOps (normalizedDiffOps desired current))).Pairwise
      (fun earlier later => earlier.stagePosition ≤ later.stagePosition) := by
  rw [List.pairwise_flatMap]
  constructor
  · intro kind _
    refine (normalizedDiffOps_interfaces_first.filter _).imp_of_mem ?_
    intro earlier later isEarlier isLater ordered
    have sameKind : earlier.stageKind = later.stageKind :=
      (stageKind_of_mem_stageOps isEarlier).trans (stageKind_of_mem_stageOps isLater).symm
    have earlierPosition := stagePosition_eq_or earlier
    have laterPosition := stagePosition_eq_or later
    rw [sameKind] at earlierPosition
    omega
  · have increasing : stageKinds.Pairwise fun earlier later =>
        earlier.position < later.position := by decide
    refine increasing.imp ?_
    intro earlierKind laterKind less earlier isEarlier later isLater
    have earlierPosition := stagePosition_eq_or earlier
    have laterPosition := stagePosition_eq_or later
    rw [stageKind_of_mem_stageOps isEarlier] at earlierPosition
    rw [stageKind_of_mem_stageOps isLater] at laterPosition
    omega

section Split

variable {earlier later : List ChangeOp}
  (ordered : (earlier ++ op :: later).Pairwise fun before after =>
    before.stagePosition ≤ after.stagePosition)

include ordered

theorem position_le_of_earlier {before : ChangeOp} (member : before ∈ earlier) :
    before.stagePosition ≤ op.stagePosition :=
  (List.pairwise_append.mp ordered).2.2 before member op List.mem_cons_self

theorem earlier_of_position_lt {other : ChangeOp} (member : other ∈ earlier ++ op :: later)
    (less : other.stagePosition < op.stagePosition) :
    other ∈ earlier := by
  rcases List.mem_append.mp member with isEarlier | isRest
  · exact isEarlier
  · rcases List.mem_cons.mp isRest with rfl | isLater
    · omega
    · have after := List.rel_of_pairwise_cons (List.pairwise_append.mp ordered).2.1 isLater
      omega

end Split

end Order

/-! ## References -/

/-- Objects of one map refer to objects of another map by their keys. -/
structure Reference (κ ν μ β : Type) [Ord κ] [Ord μ] where
  holders : ObjectMap κ ν
  targets : ObjectMap μ β
  uses : ν → List μ

namespace Reference

variable {κ ν μ β : Type} [Ord κ] [Ord μ] [Std.TransOrd κ] [Std.TransOrd μ]

/-- Every object that is referred to exists. -/
def Resolved (reference : Reference κ ν μ β) (state : DeviceShadowState) : Prop :=
  ∀ (key : κ) (holder : ν), (reference.holders.read state)[key]? = some holder →
    ∀ target ∈ reference.uses holder, target ∈ reference.targets.read state

instance [Std.LawfulEqOrd κ] (reference : Reference κ ν μ β) (state : DeviceShadowState) :
    Decidable (reference.Resolved state) :=
  decidable_of_iff
    (∀ entry ∈ (reference.holders.read state).toList, ∀ target ∈ reference.uses entry.2,
      target ∈ reference.targets.read state)
    (by simp [Resolved, Std.ExtTreeMap.mem_toList_iff_getElem?_eq_some])

/-- The operation neither deletes an object that is referred to nor refers to a missing one. -/
def Safe (reference : Reference κ ν μ β) (state : DeviceShadowState) (op : ChangeOp) : Prop :=
  (∀ target ∈ reference.targets.deleted op, ∀ (key : κ) (holder : ν),
      (reference.holders.read state)[key]? = some holder → target ∉ reference.uses holder) ∧
    ∀ holder ∈ reference.holders.upserted op, ∀ target ∈ reference.uses holder,
      target ∈ reference.targets.read state

variable [DecidableEq κ] [DecidableEq μ]

/-- What the two maps of a reference and the stages have to do with each other. -/
structure Lawful (reference : Reference κ ν μ β) : Prop where
  holders : reference.holders.LawfulAlone
  targets : reference.targets.LawfulAlone
  holders_tidy : reference.holders.Tidy
  targets_tidy : reference.targets.Tidy
  holders_deleted : ∀ op key, reference.holders.deleted op = some key → op.stagePosition ≤ 1
  targets_deleted : ∀ op target, reference.targets.deleted op = some target → op.stagePosition = 2
  holders_upserted : ∀ op holder, reference.holders.upserted op = some holder → 4 ≤ op.stagePosition

/-- The operations take the holders to the wanted ones and delete the doomed targets. -/
structure Carried (reference : Reference κ ν μ β) (wanted : BTreeMap κ ν) (doomed : BTreeSet μ)
    (current : DeviceShadowState) (ops : List ChangeOp) : Prop where
  holders_upserted : ∀ op ∈ ops, ∀ holder, reference.holders.upserted op = some holder →
    wanted[reference.holders.key holder]? = some holder
  holders_deleted : ∀ op ∈ ops, ∀ key, reference.holders.deleted op = some key →
    wanted[key]? = none
  targets_deleted : ∀ target,
    (∃ op ∈ ops, reference.targets.deleted op = some target) ↔
      target ∈ doomed ∧ target ∈ reference.targets.read current
  targets_kept : ∀ op ∈ ops, ∀ stored, reference.targets.upserted op = some stored →
    reference.targets.key stored ∉ doomed
  targets_created : ∀ op ∈ ops, ∀ stored, reference.targets.upserted op = some stored →
    op.stagePosition ≤ 3 ∨ reference.targets.key stored ∈ reference.targets.read current

section Steps

variable {reference : Reference κ ν μ β} {wanted : BTreeMap κ ν} {doomed : BTreeSet μ}
  {current : DeviceShadowState} {earlier later : List ChangeOp} (lawful : reference.Lawful)
  (carried : reference.Carried wanted doomed current (earlier ++ op :: later))
  (ordered : (earlier ++ op :: later).Pairwise fun before after =>
    before.stagePosition ≤ after.stagePosition)

include lawful carried ordered

/-- When a target is deleted, the holders that an update is going to replace are still there. -/
theorem replaced_untouched {target : μ} {key : κ} {wantedHolder : ν}
    (isDeleted : reference.targets.deleted op = some target)
    (isWanted : wanted[key]? = some wantedHolder) :
    (reference.holders.read (earlier.foldl applyOpAlone current))[key]? =
      (reference.holders.read current)[key]? := by
  apply lawful.holders.unnamed
  intro before member named
  have inRun : before ∈ earlier ++ op :: later := List.mem_append_left _ member
  rcases named with ⟨holder, isUpserted, -⟩ | isDeletedBefore
  · have late := lawful.holders_upserted before holder isUpserted
    have here := lawful.targets_deleted op target isDeleted
    have early := position_le_of_earlier ordered member
    omega
  · rw [carried.holders_deleted before inRun key isDeletedBefore] at isWanted
    cases isWanted

/-- A holder that is not replaced and still there when a target is deleted stays to the end. -/
theorem unreplaced_stays {target : μ} {key : κ} {holder : ν}
    (isDeleted : reference.targets.deleted op = some target) (unwanted : wanted[key]? = none)
    (present : (reference.holders.read (earlier.foldl applyOpAlone current))[key]? = some holder) :
    (reference.holders.read ((earlier ++ op :: later).foldl applyOpAlone current))[key]? =
      some holder := by
  have here := lawful.targets_deleted op target isDeleted
  rcases lawful.holders.origin lawful.holders_tidy present with
    ⟨before, member, isUpserted, sameKey⟩ | ⟨atStart, unnamed⟩
  · have isWanted :=
      carried.holders_upserted before (List.mem_append_left _ member) holder isUpserted
    rw [sameKey, unwanted] at isWanted
    cases isWanted
  · rw [lawful.holders.unnamed, atStart]
    rintro other member (⟨stored, isUpserted, sameKey⟩ | isDeletedOther)
    · have isWanted := carried.holders_upserted other member stored isUpserted
      rw [sameKey, unwanted] at isWanted
      cases isWanted
    · -- holders are deleted in an earlier stage, so this deletion is already done
      have early := lawful.holders_deleted other key isDeletedOther
      exact unnamed other (earlier_of_position_lt ordered member (by omega)) (.inr isDeletedOther)

omit ordered in
/-- A stored holder is there in the end. -/
theorem stored_stays {holder : ν} (isUpserted : reference.holders.upserted op = some holder) :
    (reference.holders.read ((earlier ++ op :: later).foldl applyOpAlone current))[
      reference.holders.key holder]? = some holder := by
  have member : op ∈ earlier ++ op :: later := by simp
  have isWanted := carried.holders_upserted op member holder isUpserted
  apply lawful.holders.stored lawful.holders_tidy member isUpserted
  · intro other otherMember stored otherUpserted sameKey
    have otherWanted := carried.holders_upserted other otherMember stored otherUpserted
    rw [sameKey, isWanted] at otherWanted
    exact (Option.some.inj otherWanted).symm
  · intro other otherMember isDeleted
    rw [carried.holders_deleted other otherMember _ isDeleted] at isWanted
    cases isWanted

omit ordered in
/-- A deleted target is missing in the end. -/
theorem deleted_missing {other : ChangeOp} {target : μ} (member : other ∈ earlier ++ op :: later)
    (isDeleted : reference.targets.deleted other = some target) :
    target ∉ reference.targets.read ((earlier ++ op :: later).foldl applyOpAlone current) := by
  apply lawful.targets.deleted lawful.targets_tidy member isDeleted
  rintro storing storingMember stored isUpserted rfl
  exact carried.targets_kept storing storingMember stored isUpserted
    ((carried.targets_deleted _).mp ⟨other, member, isDeleted⟩).1

/-- When a holder is stored, the targets that exist in the end exist already. -/
theorem target_present {holder : ν} {target : μ}
    (isUpserted : reference.holders.upserted op = some holder)
    (final : target ∈
      reference.targets.read ((earlier ++ op :: later).foldl applyOpAlone current)) :
    target ∈ reference.targets.read (earlier.foldl applyOpAlone current) := by
  have late := lawful.holders_upserted op holder isUpserted
  apply lawful.targets.present
  · have isSome := Std.ExtTreeMap.mem_iff_isSome_getElem?.mp final
    rcases Option.isSome_iff_exists.mp isSome with ⟨stored, present⟩
    rcases lawful.targets.origin lawful.targets_tidy present with
      ⟨storing, member, targetUpserted, rfl⟩ | ⟨atStart, -⟩
    · rcases carried.targets_created storing member stored targetUpserted with early | before
      · have isEarlier := earlier_of_position_lt ordered member (by omega)
        exact .inr ⟨storing, isEarlier, stored, targetUpserted, rfl⟩
      · exact .inl before
    · rw [Std.ExtTreeMap.mem_iff_isSome_getElem?, atStart]
      exact .inl rfl
  · intro before member isDeleted
    exact deleted_missing lawful carried (List.mem_append_left _ member) isDeleted final

end Steps

section Runs

variable {reference : Reference κ ν μ β} {wanted : BTreeMap κ ν} {doomed : BTreeSet μ}
  {current : DeviceShadowState}

/-- The stages respect a reference exactly if no holder of a doomed target is replaced. -/
theorem Carried.eachStep_safe_iff (lawful : reference.Lawful)
    (carried : reference.Carried wanted doomed current ops)
    (ordered : ops.Pairwise fun before after => before.stagePosition ≤ after.stagePosition)
    (resolved : reference.Resolved current)
    (resolvedAfter : reference.Resolved (ops.foldl applyOpAlone current)) :
    EachStep (fun earlier op => reference.Safe (earlier.foldl applyOpAlone current) op) ops ↔
      ∀ (key : κ) (before after : ν), (reference.holders.read current)[key]? = some before →
        wanted[key]? = some after → ∀ target ∈ reference.uses before, target ∉ doomed := by
  constructor
  · intro safe key before after present isWanted target isUsed isDoomed
    rcases (carried.targets_deleted target).mpr
      ⟨isDoomed, resolved key before present target isUsed⟩ with ⟨op, member, isDeleted⟩
    rcases List.append_of_mem member with ⟨earlier, later, rfl⟩
    have isSafe := safe earlier op ⟨later, by simp⟩
    refine isSafe.1 target isDeleted key before ?_ isUsed
    rw [replaced_untouched lawful carried ordered isDeleted isWanted, present]
  · rintro spared earlier op ⟨later, split⟩
    have split : ops = earlier ++ op :: later := by simpa using split.symm
    subst split
    constructor
    · intro target isDeleted key holder present isUsed
      have isDoomed := (carried.targets_deleted target).mp ⟨op, by simp, isDeleted⟩
      cases isWanted : wanted[key]? with
      | some after =>
          rw [replaced_untouched lawful carried ordered isDeleted isWanted] at present
          exact spared key holder after present isWanted target isUsed isDoomed.1
      | none =>
          have stays := unreplaced_stays lawful carried ordered isDeleted isWanted present
          exact deleted_missing lawful carried (by simp) isDeleted
            (resolvedAfter key holder stays target isUsed)
    · intro holder isUpserted target isUsed
      have stays := stored_stays lawful carried isUpserted
      exact target_present lawful carried ordered isUpserted
        (resolvedAfter _ holder stays target isUsed)

end Runs

end Reference

/-! ## The three references of a device state -/

/-- The VLANs that a port carries. -/
def PortMode.usedVlans : PortMode → List UInt16
  | .access vlanId => [vlanId]
  | .trunk nativeVlan allowedVlans => nativeVlan.toList ++ allowedVlans

/-- Bindings use ACLs. -/
def aclReference : Reference String AclBinding UInt16 AclConfig where
  holders := aclBindingObjects
  targets := aclObjects
  uses := fun binding => [binding.aclId]

/-- Interfaces use VLANs. -/
def vlanReference : Reference String InterfaceConfig UInt16 VlanConfig where
  holders := interfaceObjects
  targets := vlanObjects
  uses := fun interface => interface.mode.usedVlans

/-- Neighbors use BGP processes. -/
def bgpProcessReference : Reference String BgpNeighbor String BgpProcess where
  holders := bgpNeighborObjects
  targets := bgpProcessObjects
  uses := fun neighbor => [neighbor.vrf]

/-- All references lead somewhere. -/
structure DeviceShadowState.Resolved (state : DeviceShadowState) : Prop where
  acls : aclReference.Resolved state
  vlans : vlanReference.Resolved state
  bgpProcesses : bgpProcessReference.Resolved state

instance (state : DeviceShadowState) : Decidable state.Resolved :=
  decidable_of_iff
    (aclReference.Resolved state ∧ vlanReference.Resolved state ∧
      bgpProcessReference.Resolved state)
    ⟨fun ⟨acls, vlans, processes⟩ => ⟨acls, vlans, processes⟩,
      fun ⟨acls, vlans, processes⟩ => ⟨acls, vlans, processes⟩⟩

/-- The operation breaks no reference. -/
structure ChangeOp.Safe (state : DeviceShadowState) (op : ChangeOp) : Prop where
  acls : aclReference.Safe state op
  vlans : vlanReference.Safe state op
  bgpProcesses : bgpProcessReference.Safe state op

/-- Carried out one by one, no operation breaks a reference. -/
def RespectsReferences (state : DeviceShadowState) (ops : List ChangeOp) : Prop :=
  EachStep (fun earlier op => op.Safe (earlier.foldl applyOpAlone state)) ops

theorem respectsReferences_iff {state : DeviceShadowState} :
    RespectsReferences state ops ↔
      EachStep (fun earlier op => aclReference.Safe (earlier.foldl applyOpAlone state) op) ops ∧
      EachStep (fun earlier op => vlanReference.Safe (earlier.foldl applyOpAlone state) op) ops ∧
      EachStep (fun earlier op =>
        bgpProcessReference.Safe (earlier.foldl applyOpAlone state) op) ops := by
  constructor
  · intro safe
    exact ⟨safe.mono fun _ _ isSafe => isSafe.acls, safe.mono fun _ _ isSafe => isSafe.vlans,
      safe.mono fun _ _ isSafe => isSafe.bgpProcesses⟩
  · rintro ⟨acls, vlans, processes⟩ earlier op part
    exact ⟨acls earlier op part, vlans earlier op part, processes earlier op part⟩

theorem aclReference_lawful : aclReference.Lawful where
  holders := aclBindingObjects_lawfulAlone
  targets := aclObjects_lawfulAlone
  holders_tidy := aclBindingObjects_tidy
  targets_tidy := aclObjects_tidy
  holders_deleted op _ isDeleted := by
    cases op <;> simp_all [aclReference, aclBindingObjects, ChangeOp.stagePosition,
      ChangeOp.stageKind, ChangePlanStageKind.position]
  targets_deleted op _ isDeleted := by
    cases op <;> simp_all [aclReference, aclObjects, ChangeOp.stagePosition,
      ChangeOp.stageKind, ChangePlanStageKind.position]
  holders_upserted op _ isUpserted := by
    cases op <;> simp_all [aclReference, aclBindingObjects, ChangeOp.stagePosition,
      ChangeOp.stageKind, ChangePlanStageKind.position]

theorem vlanReference_lawful : vlanReference.Lawful where
  holders := interfaceObjects_lawfulAlone
  targets := vlanObjects_lawfulAlone
  holders_tidy := interfaceObjects_tidy
  targets_tidy := vlanObjects_tidy
  holders_deleted op _ isDeleted := by
    cases op <;> simp_all [vlanReference, interfaceObjects, ChangeOp.stagePosition]
  targets_deleted op _ isDeleted := by
    cases op <;> simp_all [vlanReference, vlanObjects, ChangeOp.stagePosition,
      ChangeOp.stageKind, ChangePlanStageKind.position]
  holders_upserted op _ isUpserted := by
    cases op <;> simp_all [vlanReference, interfaceObjects, ChangeOp.stagePosition,
      ChangeOp.stageKind, ChangePlanStageKind.position]

theorem bgpProcessReference_lawful : bgpProcessReference.Lawful where
  holders := bgpNeighborObjects_lawfulAlone
  targets := bgpProcessObjects_lawfulAlone
  holders_tidy := bgpNeighborObjects_tidy
  targets_tidy := bgpProcessObjects_tidy
  holders_deleted op _ isDeleted := by
    cases op <;> simp_all [bgpProcessReference, bgpNeighborObjects, ChangeOp.stagePosition,
      ChangeOp.stageKind, ChangePlanStageKind.position]
  targets_deleted op _ isDeleted := by
    cases op <;> simp_all [bgpProcessReference, bgpProcessObjects, ChangeOp.stagePosition,
      ChangeOp.stageKind, ChangePlanStageKind.position]
  holders_upserted op _ isUpserted := by
    cases op <;> simp_all [bgpProcessReference, bgpNeighborObjects, ChangeOp.stagePosition,
      ChangeOp.stageKind, ChangePlanStageKind.position]

/-! ## The operations of a diff -/

section Diff

variable {κ ν μ β : Type} [Ord κ] [Ord μ] [Std.TransOrd κ] [Std.TransOrd μ]

/-- An upsert pass creates early or changes what is already there. -/
theorem created_of_pass [Std.LawfulEqOrd μ] [DecidableEq β] {objects : ObjectMap μ β}
    {create : β → ChangeOp} {update : β → β → ChangeOp} {wanted observed : BTreeMap μ β}
    {stored : β} (canonical : Canonical objects.key objects.normalize wanted)
    (updates : ∀ present value, objects.upserted (update present value) = some value)
    (early : ∀ value, (create value).stagePosition ≤ 3)
    (member : op ∈ upsertOps create update wanted observed)
    (isUpserted : objects.upserted op = some stored) :
    op.stagePosition ≤ 3 ∨ objects.key stored ∈ observed := by
  rcases mem_upsertOps.mp member with
    ⟨key, value, isWanted, ⟨-, rfl⟩ | ⟨present, isPresent, -, rfl⟩⟩
  · exact .inl (early value)
  · obtain rfl : value = stored := Option.some.inj ((updates present value).symm.trans isUpserted)
    rw [(canonical key value isWanted).1]
    exact .inr (mem_of_getElem?_eq_some isPresent)

theorem carried_of_changes [DecidableEq κ] [DecidableEq μ] {holders : MapChange κ ν}
    {targets : MapChange μ β} {uses : ν → List μ} {doomed : BTreeSet μ}
    {current : DeviceShadowState} {staged : List ChangeOp} (perm : staged.Perm ops)
    (holdersCarried : holders.CarriedBy ops) (targetsCarried : targets.CarriedBy ops)
    (erased : ∀ target, targets.erased target = true ↔
      target ∈ doomed ∧ target ∈ targets.objects.read current)
    (kept : ∀ target ∈ doomed, target ∉ targets.wanted)
    (created : ∀ op ∈ ops, ∀ stored, targets.objects.upserted op = some stored →
      op.stagePosition ≤ 3 ∨ targets.objects.key stored ∈ targets.objects.read current) :
    (⟨holders.objects, targets.objects, uses⟩ : Reference κ ν μ β).Carried holders.wanted doomed
      current staged where
  holders_upserted op member holder isUpserted :=
    ((holdersCarried.upserts holder).mp ⟨op, perm.mem_iff.mp member, isUpserted⟩).1
  holders_deleted op member key isDeleted :=
    (holdersCarried.unwanted op (perm.mem_iff.mp member) key isDeleted).2
  targets_deleted target := by
    rw [← erased]
    constructor
    · rintro ⟨op, member, isDeleted⟩
      exact (targetsCarried.unwanted op (perm.mem_iff.mp member) target isDeleted).1
    · intro isErased
      rcases (targetsCarried.erases target).mp isErased with ⟨op, member, isDeleted, -⟩
      exact ⟨op, perm.mem_iff.mpr member, isDeleted⟩
  targets_kept op member stored isUpserted isDoomed :=
    kept _ isDoomed (mem_of_getElem?_eq_some
      ((targetsCarried.upserts stored).mp ⟨op, perm.mem_iff.mp member, isUpserted⟩).1)
  targets_created op member := created op (perm.mem_iff.mp member)

end Diff

/-- No wanted object takes the place of one that refers to an object to be deleted. -/
structure DeviceDesiredState.ReplacesNoHolder (desired : DeviceDesiredState)
    (current : DeviceShadowState) : Prop where
  aclBindings : ∀ (key : String) (before after : AclBinding),
    current.aclBindings[key]? = some before → desired.aclBindings[key]? = some after →
      before.aclId ∉ desired.deleteAclIds
  interfaces : ∀ (name : String) (before after : InterfaceConfig),
    current.interfaces[name]? = some before → desired.interfaces[name]? = some after →
      ∀ vlanId ∈ before.mode.usedVlans, vlanId ∉ desired.deleteVlanIds
  bgpNeighbors : ∀ (key : String) (before after : BgpNeighbor),
    current.bgpNeighbors[key]? = some before → desired.bgpNeighbors[key]? = some after →
      before.vrf ∉ desired.deleteBgpProcessVrfs

section Staged

variable {desired : DeviceDesiredState} {current : DeviceShadowState} {staged : List ChangeOp}

variable (separate : (normalizeDesiredState desired).Separate)

include separate

theorem aclReference_carried
    (perm : staged.Perm (normalizedDiffOps (normalizeDesiredState desired) current)) :
    aclReference.Carried (normalizeDesiredState desired).aclBindings
      (normalizeDesiredState desired).deleteAclIds current staged := by
  have carries := carriesAll_normalizedDiffOps separate current
  refine carried_of_changes perm carries.aclBindings carries.acls ?_ separate.acls ?_
  · intro aclId
    simp [aclChange, aclObjects]
  · intro op member stored isUpserted
    exact created_of_pass carries.acls.canonical (fun _ _ => rfl) (fun _ => le_refl 3)
      (aclObjects_upserted_mem member isUpserted) isUpserted

theorem vlanReference_carried
    (perm : staged.Perm (normalizedDiffOps (normalizeDesiredState desired) current)) :
    vlanReference.Carried (normalizeDesiredState desired).interfaces
      (normalizeDesiredState desired).deleteVlanIds current staged := by
  have carries := carriesAll_normalizedDiffOps separate current
  refine carried_of_changes perm carries.interfaces carries.vlans ?_ separate.vlans ?_
  · intro vlanId
    simp [vlanChange, vlanObjects]
  · intro op member stored isUpserted
    exact created_of_pass carries.vlans.canonical (fun _ _ => rfl) (fun _ => le_refl 3)
      (vlanObjects_upserted_mem member isUpserted) isUpserted

theorem bgpProcessReference_carried
    (perm : staged.Perm (normalizedDiffOps (normalizeDesiredState desired) current)) :
    bgpProcessReference.Carried (normalizeDesiredState desired).bgpNeighbors
      (normalizeDesiredState desired).deleteBgpProcessVrfs current staged := by
  have carries := carriesAll_normalizedDiffOps separate current
  refine carried_of_changes perm carries.bgpNeighbors carries.bgpProcesses ?_
    separate.bgpProcesses ?_
  · intro vrf
    simp [bgpProcessChange, bgpProcessObjects]
  · intro op member stored isUpserted
    exact created_of_pass carries.bgpProcesses.canonical (fun _ _ => rfl) (fun _ => le_refl 3)
      (bgpProcessObjects_upserted_mem member isUpserted) isUpserted

/-- The staged operations respect the references exactly if no update replaces a holder of an object
to be deleted. -/
theorem respectsReferences_iff_replacesNoHolder
    (perm : staged.Perm (normalizedDiffOps (normalizeDesiredState desired) current))
    (ordered : staged.Pairwise fun before after => before.stagePosition ≤ after.stagePosition)
    (resolved : current.Resolved) (resolvedAfter : (staged.foldl applyOpAlone current).Resolved) :
    RespectsReferences current staged ↔
      (normalizeDesiredState desired).ReplacesNoHolder current := by
  rw [respectsReferences_iff,
    (aclReference_carried separate perm).eachStep_safe_iff aclReference_lawful ordered
      resolved.acls resolvedAfter.acls,
    (vlanReference_carried separate perm).eachStep_safe_iff vlanReference_lawful ordered
      resolved.vlans resolvedAfter.vlans,
    (bgpProcessReference_carried separate perm).eachStep_safe_iff bgpProcessReference_lawful ordered
      resolved.bgpProcesses resolvedAfter.bgpProcesses]
  simp only [aclReference, bgpProcessReference, List.mem_singleton, forall_eq]
  constructor
  · rintro ⟨bindings, interfaces, neighbors⟩
    exact ⟨bindings, interfaces, neighbors⟩
  · rintro ⟨bindings, interfaces, neighbors⟩
    exact ⟨bindings, interfaces, neighbors⟩

end Staged

/-- The stages of a plan respect the references of a device exactly if the plan replaces no object
that refers to one of those it deletes. -/
theorem changePlan_respects_references_iff (desired : DeviceDesiredState)
    (current : DeviceShadowState) (profile : Option DeviceModelProfile)
    (routePolicyEvidence : BTreeSet String) (highRiskFeatures : List HighRiskFeature)
    (separate : (normalizeDesiredState desired).Separate)
    (currentNormal : normalizeShadowState current = current) (resolved : current.Resolved)
    (resolvedAfter : ((buildChangePlanWithProfileRoutePolicyEvidenceAndHighRiskFeatures
      (computeDiff desired current) profile routePolicyEvidence
        highRiskFeatures).stagedOps.foldl applyOpAlone current).Resolved) :
    RespectsReferences current (buildChangePlanWithProfileRoutePolicyEvidenceAndHighRiskFeatures
        (computeDiff desired current) profile routePolicyEvidence highRiskFeatures).stagedOps ↔
      (normalizeDesiredState desired).ReplacesNoHolder current := by
  have sameOps : (computeDiff desired current).ops =
      normalizedDiffOps (normalizeDesiredState desired) current := by
    rw [computeDiff, currentNormal]
  have perm := stagedOps_perm (rfl :
    buildChangePlanWithProfileRoutePolicyEvidenceAndHighRiskFeatures
      (computeDiff desired current) profile routePolicyEvidence highRiskFeatures = _)
  have staged := stagedOps_eq (rfl :
    buildChangePlanWithProfileRoutePolicyEvidenceAndHighRiskFeatures
      (computeDiff desired current) profile routePolicyEvidence highRiskFeatures = _)
  rw [sameOps] at perm staged
  refine respectsReferences_iff_replacesNoHolder separate perm ?_ resolved resolvedAfter
  rw [staged]
  exact stagedOps_ordered

/-- A plan that unbinds ACL 3001 and deletes it. -/
def unbindingDesired : DeviceDesiredState where
  deviceId := "leaf-a"
  deleteAclIds := .ofList [(3001 : UInt16)]
  deleteAclBindings := .ofList [("GE1|inbound", (⟨"GE1", .inbound, 3001⟩ : AclBinding))]

theorem changePlan_respects_references_iff_unbinding :
    RespectsReferences sampleCurrent
      (buildChangePlanWithProfileRoutePolicyEvidenceAndHighRiskFeatures
        (computeDiff unbindingDesired sampleCurrent) none ∅ []).stagedOps := by
  have consistent : (normalizeDesiredState unbindingDesired).Consistent := by decide +kernel
  refine (changePlan_respects_references_iff unbindingDesired sampleCurrent none ∅ []
    consistent.separate (by decide +kernel) (by decide +kernel) (by decide +kernel)).mpr ?_
  constructor <;> intro key before after _ isWanted <;> cases isWanted

/-- The stack, where a port moves to VLAN 200 and its old VLAN 300 goes. -/
def movedPortIntent : UnderlayDomainIntent where
  domainId := "domain-a"
  topology := .stackSingleManagementIp
  endpoints := [⟨"stack-mgmt", "192.0.2.1", 830, "secret", none, none⟩]
  members := [⟨"member-a", none, "stack-mgmt"⟩, ⟨"member-b", none, "stack-mgmt"⟩]
  vlans := [⟨200, none, none⟩]
  interfaces := [⟨"member-a", "GE1/0/1", .up, none, .access 200⟩]
  deleteVlanIds := [300]

def movedPort : DeviceDesiredState where
  deviceId := "stack-mgmt"
  vlans := .ofList [((200 : UInt16), (⟨200, none, none⟩ : VlanConfig))]
  interfaces := .ofList [("GE1/0/1", (⟨"GE1/0/1", .up, none, .access 200⟩ : InterfaceConfig))]
  deleteVlanIds := .ofList [(300 : UInt16)]

/-- The device before the change, with the port in VLAN 300. -/
def portInOldVlan : DeviceShadowState where
  deviceId := "stack-mgmt"
  revision := 1
  vlans := .ofList [((300 : UInt16), (⟨300, none, none⟩ : VlanConfig))]
  interfaces := .ofList [("GE1/0/1", (⟨"GE1/0/1", .up, none, .access 300⟩ : InterfaceConfig))]

/-- VLAN 300 is deleted while the port is still in it. -/
theorem not_respectsReferences_movedPort :
    validateUnderlayDomainIntent movedPortIntent = .ok () ∧
      planUnderlayDomain movedPortIntent = .ok [movedPort] ∧
      (normalizeDesiredState movedPort).Separate ∧
      normalizeShadowState portInOldVlan = portInOldVlan ∧ portInOldVlan.Resolved ∧
      (let staged := (buildChangePlanWithProfileRoutePolicyEvidenceAndHighRiskFeatures
        (computeDiff movedPort portInOldVlan) none ∅ []).stagedOps
      (staged.foldl applyOpAlone portInOldVlan).Resolved ∧
        ¬RespectsReferences portInOldVlan staged) := by
  have consistent : (normalizeDesiredState movedPort).Consistent := by decide +kernel
  refine ⟨by decide +kernel, by decide +kernel, consistent.separate, by decide +kernel,
    by decide +kernel, by decide +kernel, ?_⟩
  intro respects
  have isSafe := respects [] (.deleteVlan 300) (by decide +kernel)
  exact isSafe.vlans.1 300 rfl "GE1/0/1" ⟨"GE1/0/1", .up, none, .access 300⟩ (by decide +kernel)
    (by decide)

end AriaUnderlay
