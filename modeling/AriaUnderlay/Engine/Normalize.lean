import AriaUnderlay.Model.Config
import AriaUnderlay.Model.Text

/-!
# Normalization

The canonical form in which the engine compares states: empty texts are absent, interface names are
trimmed and abbreviated, trunk VLANs are sorted without repetitions, ACL rules are sorted by
sequence, VRF names and neighbor addresses are trimmed, and every map is rebuilt under the keys of
its normalized values.  Each normalizer is idempotent, which is what lets a replayed state be
compared again without change.
-/

namespace AriaUnderlay

open Collections

/-- `Some("")` and `None` are the same text. -/
def normalizeText (text : Option String) : Option String :=
  if text = some "" then none else text

@[simp]
theorem normalizeText_idempotent (text : Option String) :
    normalizeText (normalizeText text) = normalizeText text := by
  unfold normalizeText
  split <;> simp_all

/-- The short name of an interface. -/
def canonicalInterfaceName (name : String) : String :=
  let trimmed := trim name
  match stripPrefix trimmed "GigabitEthernet" with
  | some rest => "GE" ++ rest
  | none =>
      match stripPrefix trimmed "Ten-GigabitEthernet" with
      | some rest => "XGE" ++ rest
      | none =>
          match stripPrefix trimmed "FortyGigE" with
          | some rest => "FGE" ++ rest
          | none => trimmed

/-- Replacing the start of a trimmed name by other trimmed text leaves it trimmed. -/
theorem trimmed_append_of_trimmed {long short rest : List Char} (trimmed : Trimmed (long ++ rest))
    (trimmedShort : Trimmed short) (nonempty : short ≠ []) :
    Trimmed (short ++ rest) := by
  constructor
  · intro c isHead
    apply trimmedShort.1 c
    rwa [List.head?_append_of_ne_nil _ nonempty] at isHead
  · intro c isLast
    by_cases empty : rest = []
    · subst empty
      rw [List.append_nil] at isLast
      exact trimmedShort.2 c isLast
    · apply trimmed.2 c
      rw [List.getLast?_append_of_ne_nil _ empty] at isLast ⊢
      exact isLast

/-- A name that starts with neither long form is already canonical once trimmed. -/
theorem canonicalInterfaceName_eq_self {name : String} (trimmed : Trimmed name.toList)
    (notGigabit : stripPrefix name "GigabitEthernet" = none)
    (notTen : stripPrefix name "Ten-GigabitEthernet" = none)
    (notForty : stripPrefix name "FortyGigE" = none) :
    canonicalInterfaceName name = name := by
  simp only [canonicalInterfaceName, trim_eq_self trimmed, notGigabit, notTen, notForty]

/-- Two texts that differ in a character have no common extension. -/
theorem stripPrefix_eq_none {short pattern : String} (rest : String) (index : ℕ)
    (differs : short.toList[index]? ≠ pattern.toList[index]?)
    (inShort : index < short.toList.length) (inPattern : index < pattern.toList.length) :
    stripPrefix (short ++ rest) pattern = none := by
  rw [Option.eq_none_iff_forall_ne_some]
  intro other matched
  rw [stripPrefix_eq_some_iff] at matched
  apply differs
  have sameText := congrArg (fun text => text.toList[index]?) matched
  simpa only [String.toList_append, List.getElem?_append_left inShort,
    List.getElem?_append_left inPattern] using sameText

theorem canonicalInterfaceName_short {name long short rest : String}
    (matched : stripPrefix (trim name) long = some rest) (trimmedShort : Trimmed short.toList)
    (nonempty : short.toList ≠ [])
    (notGigabit : stripPrefix (short ++ rest) "GigabitEthernet" = none)
    (notTen : stripPrefix (short ++ rest) "Ten-GigabitEthernet" = none)
    (notForty : stripPrefix (short ++ rest) "FortyGigE" = none) :
    canonicalInterfaceName (short ++ rest) = short ++ rest := by
  have trimmed := trimmed_trim name
  rw [stripPrefix_eq_some_iff.mp matched, String.toList_append] at trimmed
  apply canonicalInterfaceName_eq_self _ notGigabit notTen notForty
  rw [String.toList_append]
  exact trimmed_append_of_trimmed trimmed trimmedShort nonempty

@[simp]
theorem canonicalInterfaceName_idempotent (name : String) :
    canonicalInterfaceName (canonicalInterfaceName name) = canonicalInterfaceName name := by
  cases gigabit : stripPrefix (trim name) "GigabitEthernet" with
  | some rest =>
      have abbreviated : canonicalInterfaceName name = "GE" ++ rest := by
        simp [canonicalInterfaceName, gigabit]
      rw [abbreviated]
      apply canonicalInterfaceName_short gigabit (by simp [Trimmed]; decide) (by simp)
      · exact stripPrefix_eq_none rest 1 (by simp) (by simp) (by simp)
      all_goals exact stripPrefix_eq_none rest 0 (by simp) (by simp) (by simp)
  | none =>
      cases ten : stripPrefix (trim name) "Ten-GigabitEthernet" with
      | some rest =>
          have abbreviated : canonicalInterfaceName name = "XGE" ++ rest := by
            simp [canonicalInterfaceName, gigabit, ten]
          rw [abbreviated]
          apply canonicalInterfaceName_short ten (by simp [Trimmed]; decide) (by simp)
          all_goals exact stripPrefix_eq_none rest 0 (by simp) (by simp) (by simp)
      | none =>
          cases forty : stripPrefix (trim name) "FortyGigE" with
          | some rest =>
              have abbreviated : canonicalInterfaceName name = "FGE" ++ rest := by
                simp [canonicalInterfaceName, gigabit, ten, forty]
              rw [abbreviated]
              apply canonicalInterfaceName_short forty (by simp [Trimmed]; decide) (by simp)
              · exact stripPrefix_eq_none rest 0 (by simp) (by simp) (by simp)
              · exact stripPrefix_eq_none rest 0 (by simp) (by simp) (by simp)
              · exact stripPrefix_eq_none rest 1 (by simp) (by simp) (by simp)
          | none =>
              have unchanged : canonicalInterfaceName name = trim name := by
                simp [canonicalInterfaceName, gigabit, ten, forty]
              rw [unchanged]
              exact canonicalInterfaceName_eq_self (trimmed_trim name) gigabit ten forty

/-! ## Objects -/

/-- A VLAN in its normal form. -/
def VlanConfig.normalize (vlan : VlanConfig) : VlanConfig :=
  { vlan with
    name := normalizeText vlan.name
    description := normalizeText vlan.description }

/-- Trunk VLANs are sorted and repetitions dropped; access ports have nothing to normalize. -/
def PortMode.normalize : PortMode → PortMode
  | .access vlanId => .access vlanId
  | .trunk nativeVlan allowedVlans =>
      .trunk nativeVlan ((allowedVlans.mergeSort (· ≤ ·)).destutter (· ≠ ·))

def InterfaceConfig.normalize (interface : InterfaceConfig) : InterfaceConfig :=
  { interface with
    name := canonicalInterfaceName interface.name
    description := normalizeText interface.description
    mode := interface.mode.normalize }

/-- A rule in its normal form. -/
def AclRule.normalize (rule : AclRule) : AclRule :=
  { rule with description := normalizeText rule.description }

def AclConfig.normalize (acl : AclConfig) : AclConfig :=
  { acl with
    name := normalizeText acl.name
    description := normalizeText acl.description
    rules := (acl.rules.map AclRule.normalize).mergeSort fun left right =>
      left.sequence ≤ right.sequence }

/-- A binding in its normal form. -/
def AclBinding.normalize (binding : AclBinding) : AclBinding :=
  { binding with interfaceName := canonicalInterfaceName binding.interfaceName }

def BgpProcess.normalize (process : BgpProcess) : BgpProcess :=
  { process with
    vrf := trim process.vrf
    routerId := normalizeText process.routerId }

def BgpNeighbor.normalize (neighbor : BgpNeighbor) : BgpNeighbor :=
  { neighbor with
    vrf := trim neighbor.vrf
    address := trim neighbor.address
    description := normalizeText neighbor.description
    importPolicy := normalizeText neighbor.importPolicy
    exportPolicy := normalizeText neighbor.exportPolicy }

/-! ## States -/

def normalizeDesiredState (state : DeviceDesiredState) : DeviceDesiredState :=
  { state with
    vlans := rekey VlanConfig.vlanId VlanConfig.normalize state.vlans
    interfaces := rekey InterfaceConfig.name InterfaceConfig.normalize state.interfaces
    deleteInterfaceNames := .ofList (state.deleteInterfaceNames.toList.map canonicalInterfaceName)
    acls := rekey AclConfig.aclId AclConfig.normalize state.acls
    aclBindings := rekey AclBinding.key AclBinding.normalize state.aclBindings
    deleteAclBindings := rekey AclBinding.key AclBinding.normalize state.deleteAclBindings
    routePolicyRefs := .ofList ((state.routePolicyRefs.toList.map trim).filter (· ≠ ""))
    bgpProcesses := rekey BgpProcess.vrf BgpProcess.normalize state.bgpProcesses
    bgpNeighbors := rekey BgpNeighbor.key BgpNeighbor.normalize state.bgpNeighbors
    deleteBgpProcessVrfs := .ofList (state.deleteBgpProcessVrfs.toList.map trim)
    deleteBgpNeighbors := rekey BgpNeighbor.key BgpNeighbor.normalize state.deleteBgpNeighbors }

/-- A shadow in its normal form. -/
def normalizeShadowState (state : DeviceShadowState) : DeviceShadowState :=
  { state with
    vlans := rekey VlanConfig.vlanId VlanConfig.normalize state.vlans
    interfaces := rekey InterfaceConfig.name InterfaceConfig.normalize state.interfaces
    acls := rekey AclConfig.aclId AclConfig.normalize state.acls
    aclBindings := rekey AclBinding.key AclBinding.normalize state.aclBindings
    bgpProcesses := rekey BgpProcess.vrf BgpProcess.normalize state.bgpProcesses
    bgpNeighbors := rekey BgpNeighbor.key BgpNeighbor.normalize state.bgpNeighbors }

/-! ## Idempotence -/

@[simp]
theorem VlanConfig.normalize_idempotent (vlan : VlanConfig) :
    vlan.normalize.normalize = vlan.normalize := by
  simp [VlanConfig.normalize]

@[simp]
theorem PortMode.normalize_idempotent (mode : PortMode) :
    mode.normalize.normalize = mode.normalize := by
  cases mode with
  | access vlanId => rfl
  | trunk nativeVlan allowedVlans =>
      have sorted : (allowedVlans.mergeSort (· ≤ ·)).Pairwise (· ≤ ·) := by
        simpa using List.pairwise_mergeSort' (r := (· ≤ ·)) allowedVlans
      have stillSorted := sorted.sublist (List.destutter_sublist (· ≠ ·) _)
      simp only [PortMode.normalize, PortMode.trunk.injEq, true_and]
      rw [List.mergeSort_eq_self _ (by simpa using stillSorted), List.destutter_idem]

@[simp]
theorem InterfaceConfig.normalize_idempotent (interface : InterfaceConfig) :
    interface.normalize.normalize = interface.normalize := by
  simp [InterfaceConfig.normalize]

@[simp]
theorem AclRule.normalize_idempotent (rule : AclRule) :
    rule.normalize.normalize = rule.normalize := by
  simp [AclRule.normalize]

@[simp]
theorem AclConfig.normalize_idempotent (acl : AclConfig) :
    acl.normalize.normalize = acl.normalize := by
  have rulesNormal :
      acl.normalize.rules.map AclRule.normalize = acl.normalize.rules := by
    conv_rhs => rw [← List.map_id acl.normalize.rules]
    apply List.map_congr_left
    intro rule member
    simp only [AclConfig.normalize, List.mem_mergeSort, List.mem_map] at member
    rcases member with ⟨original, -, rfl⟩
    simp
  have rulesSorted :
      acl.normalize.rules.Pairwise fun left right => decide (left.sequence ≤ right.sequence) := by
    apply List.pairwise_mergeSort
    · intro first second third
      simpa using fun below => UInt16.le_trans below
    · intro left right
      simpa using UInt16.le_total left.sequence right.sequence
  have rulesFixed := List.mergeSort_of_pairwise rulesSorted
  rw [AclConfig.normalize, rulesNormal, rulesFixed]
  simp [AclConfig.normalize]

@[simp]
theorem AclBinding.normalize_idempotent (binding : AclBinding) :
    binding.normalize.normalize = binding.normalize := by
  simp [AclBinding.normalize]

@[simp]
theorem BgpProcess.normalize_idempotent (process : BgpProcess) :
    process.normalize.normalize = process.normalize := by
  simp [BgpProcess.normalize]

@[simp]
theorem BgpNeighbor.normalize_idempotent (neighbor : BgpNeighbor) :
    neighbor.normalize.normalize = neighbor.normalize := by
  simp [BgpNeighbor.normalize]

end AriaUnderlay
