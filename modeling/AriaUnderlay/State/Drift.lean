import AriaUnderlay.Engine.Normalize

/-!
# Drift detection

The expected and the observed state of a device are compared kind by kind in their normal forms.  An
object that is missing, that is extra or that differs gives one finding, whose path consists of the
name of the kind and the key of the object; the warnings of the adapter give findings of their own.

The comparison is exact for VLANs, interfaces, ACLs and ACL bindings.  BGP objects are not compared.
-/

namespace AriaUnderlay

open Collections

/-- The kinds of drift. -/
inductive DriftType where
  | missingVlan
  | extraVlan
  | vlanAttributeMismatch
  | missingInterface
  | extraInterface
  | interfaceAttributeMismatch
  | missingAcl
  | extraAcl
  | aclAttributeMismatch
  | missingAclBinding
  | extraAclBinding
  | aclBindingAttributeMismatch
  | adapterWarning
  deriving DecidableEq, Repr

/-- One difference between two states. -/
structure DriftFinding where
  driftType : DriftType
  path : String
  expected : Option String
  actual : Option String
  deriving DecidableEq, Repr

/-- The differences of a device. -/
structure DriftReport where
  deviceId : DeviceId
  driftDetected : Bool
  findings : List DriftFinding
  warnings : List String
  deriving DecidableEq, Repr

/-! ## Texts of the findings -/

/-- A state in messages. -/
def AdminState.debug : AdminState → String
  | .up => "Up"
  | .down => "Down"

/-- VLANs in messages. -/
def debugVlans (vlans : List UInt16) : String :=
  "[" ++ ", ".intercalate (vlans.map toString) ++ "]"

/-- A port mode in messages. -/
def PortMode.debug : PortMode → String
  | .access vlanId => "Access \x7b vlan_id: " ++ toString vlanId ++ " \x7d"
  | .trunk nativeVlan allowedVlans =>
      let nativeText :=
        match nativeVlan with
        | some vlanId => "Some(" ++ toString vlanId ++ ")"
        | none => "None"
      "Trunk \x7b native_vlan: " ++ nativeText ++ ", allowed_vlans: " ++ debugVlans allowedVlans
        ++ " \x7d"

/-- A VLAN in messages. -/
def vlanSummary (vlan : VlanConfig) : String :=
  "id=" ++ toString vlan.vlanId ++ ",name=" ++ vlan.name.getD "" ++ ",description="
    ++ vlan.description.getD ""

/-- An interface in messages. -/
def interfaceSummary (interface : InterfaceConfig) : String :=
  "name=" ++ interface.name ++ ",admin=" ++ interface.adminState.debug ++ ",description="
    ++ interface.description.getD "" ++ ",mode=" ++ interface.mode.debug

/-- An ACL in messages. -/
def aclSummary (acl : AclConfig) : String :=
  "id=" ++ toString acl.aclId ++ ",name=" ++ acl.name.getD "" ++ ",description="
    ++ acl.description.getD "" ++ ",rules=" ++ toString acl.rules.length

/-- A binding in messages. -/
def aclBindingSummary (binding : AclBinding) : String :=
  "interface=" ++ binding.interfaceName ++ ",direction=" ++ binding.direction.debug
    ++ ",acl_id=" ++ toString binding.aclId

/-! ## The comparison -/

/-- How the drift of one kind of objects is reported. -/
structure DriftKind (κ ν : Type) where
  missing : DriftType
  extra : DriftType
  mismatch : DriftType
  path : κ → String
  summary : ν → String

namespace DriftKind

variable {κ ν : Type} [Ord κ] [DecidableEq ν]

def mismatchedEntry (kind : DriftKind κ ν) (key : κ) (expected observed : ν) : DriftFinding where
  driftType := kind.mismatch
  path := kind.path key
  expected := some (kind.summary expected)
  actual := some (kind.summary observed)

def compareEntry (kind : DriftKind κ ν) (key : κ) (expected observed : ν) : List DriftFinding :=
  if expected ≠ observed then [kind.mismatchedEntry key expected observed] else []

def missingEntry (kind : DriftKind κ ν) (key : κ) (expected : ν) : DriftFinding where
  driftType := kind.missing
  path := kind.path key
  expected := some (kind.summary expected)
  actual := none

def extraEntry (kind : DriftKind κ ν) (key : κ) (observed : ν) : DriftFinding where
  driftType := kind.extra
  path := kind.path key
  expected := none
  actual := some (kind.summary observed)

variable [Std.TransOrd κ]

/-- The two loops over one kind: first the expected objects, then the observed ones. -/
def findings (kind : DriftKind κ ν) (expected observed : BTreeMap κ ν) : List DriftFinding :=
  (expected.toList.flatMap fun entry =>
    match observed[entry.1]? with
    | some value => kind.compareEntry entry.1 entry.2 value
    | none => [kind.missingEntry entry.1 entry.2]) ++
  observed.toList.filterMap fun entry =>
    if entry.1 ∈ expected then none else some (kind.extraEntry entry.1 entry.2)

end DriftKind

def vlanDrift : DriftKind UInt16 VlanConfig where
  missing := .missingVlan
  extra := .extraVlan
  mismatch := .vlanAttributeMismatch
  path := fun vlanId => "vlans." ++ toString vlanId
  summary := vlanSummary

def interfaceDrift : DriftKind String InterfaceConfig where
  missing := .missingInterface
  extra := .extraInterface
  mismatch := .interfaceAttributeMismatch
  path := fun name => "interfaces." ++ name
  summary := interfaceSummary

def aclDrift : DriftKind UInt16 AclConfig where
  missing := .missingAcl
  extra := .extraAcl
  mismatch := .aclAttributeMismatch
  path := fun aclId => "acls." ++ toString aclId
  summary := aclSummary

def aclBindingDrift : DriftKind String AclBinding where
  missing := .missingAclBinding
  extra := .extraAclBinding
  mismatch := .aclBindingAttributeMismatch
  path := fun key => "acl_bindings." ++ key
  summary := aclBindingSummary

/-- Every warning is a finding. -/
def warningFindings (warnings : List String) : List DriftFinding :=
  warnings.map fun warning =>
    { driftType := .adapterWarning
      path := "adapter.warning"
      expected := none
      actual := some warning }

def DriftReport.fromAdapterWarnings (deviceId : DeviceId) (warnings : List String) :
    DriftReport where
  deviceId := deviceId
  driftDetected := !(warningFindings warnings).isEmpty
  findings := warningFindings warnings
  warnings := warnings

/-- All findings, kind by kind. -/
def driftFindings (expected observed : DeviceShadowState) : List DriftFinding :=
  vlanDrift.findings expected.vlans observed.vlans ++
    (interfaceDrift.findings expected.interfaces observed.interfaces ++
      (aclDrift.findings expected.acls observed.acls ++
        (aclBindingDrift.findings expected.aclBindings observed.aclBindings ++
          warningFindings observed.warnings)))

/-- Compare the normalized states. -/
def detectDrift (expected observed : DeviceShadowState) : DriftReport :=
  let expected := normalizeShadowState expected
  let observed := normalizeShadowState observed
  let findings := driftFindings expected observed
  { deviceId := expected.deviceId
    driftDetected := !findings.isEmpty
    findings := findings
    warnings := observed.warnings }

/-! ## What the findings of one kind say -/

namespace DriftKind

variable {κ ν : Type} [Ord κ] [DecidableEq ν] [Std.TransOrd κ] [Std.LawfulEqOrd κ]
variable {kind : DriftKind κ ν} {expected observed : BTreeMap κ ν}

/-- A finding is about a key under which the two maps differ. -/
theorem differs_of_mem_findings {finding : DriftFinding}
    (isFinding : finding ∈ kind.findings expected observed) :
    ∃ key, finding.path = kind.path key ∧ expected[key]? ≠ observed[key]? := by
  rcases List.mem_append.mp isFinding with isFinding | isFinding
  · rcases List.mem_flatMap.mp isFinding with ⟨⟨key, value⟩, isEntry, isFinding⟩
    rw [Std.ExtTreeMap.mem_toList_iff_getElem?_eq_some] at isEntry
    refine ⟨key, ?_⟩
    rw [isEntry]
    cases isObserved : observed[key]? with
    | none =>
        simp only [isObserved, List.mem_singleton] at isFinding
        exact ⟨isFinding ▸ rfl, by simp⟩
    | some other =>
        simp only [isObserved, compareEntry] at isFinding
        split at isFinding
        · rename_i different
          exact ⟨List.mem_singleton.mp isFinding ▸ rfl, by simpa using different⟩
        · simp at isFinding
  · rcases List.mem_filterMap.mp isFinding with ⟨⟨key, value⟩, isEntry, isFinding⟩
    rw [Std.ExtTreeMap.mem_toList_iff_getElem?_eq_some] at isEntry
    split at isFinding
    · cases isFinding
    · rename_i notExpected
      refine ⟨key, Option.some.inj isFinding ▸ rfl, ?_⟩
      rw [isEntry, Std.ExtTreeMap.getElem?_eq_none notExpected]
      simp

/-- Every key under which the two maps differ has a finding. -/
theorem exists_finding_of_differs {key : κ} (differs : expected[key]? ≠ observed[key]?) :
    ∃ finding ∈ kind.findings expected observed, finding.path = kind.path key := by
  cases isExpected : expected[key]? with
  | none =>
      cases isObserved : observed[key]? with
      | none => exact absurd (isExpected.trans isObserved.symm) differs
      | some value =>
          refine ⟨kind.extraEntry key value, List.mem_append_right _ ?_, rfl⟩
          refine List.mem_filterMap.mpr
            ⟨(key, value), Std.ExtTreeMap.mem_toList_iff_getElem?_eq_some.mpr isObserved, ?_⟩
          refine if_neg fun isKey => ?_
          rw [Std.ExtTreeMap.mem_iff_isSome_getElem?, isExpected] at isKey
          cases isKey
  | some value =>
      have isEntry : (key, value) ∈ expected.toList :=
        Std.ExtTreeMap.mem_toList_iff_getElem?_eq_some.mpr isExpected
      cases isObserved : observed[key]? with
      | none =>
          refine ⟨kind.missingEntry key value, List.mem_append_left _ ?_, rfl⟩
          refine List.mem_flatMap.mpr ⟨(key, value), isEntry, ?_⟩
          simp only [isObserved, List.mem_singleton]
      | some other =>
          have different : value ≠ other := by
            rintro rfl
            exact differs (isExpected.trans isObserved.symm)
          refine ⟨kind.mismatchedEntry key value other, List.mem_append_left _ ?_, rfl⟩
          refine List.mem_flatMap.mpr ⟨(key, value), isEntry, ?_⟩
          simp only [isObserved, compareEntry, if_pos different, List.mem_singleton]

theorem findings_eq_nil_iff : kind.findings expected observed = [] ↔ expected = observed := by
  rw [List.eq_nil_iff_forall_not_mem]
  constructor
  · intro nothing
    apply Std.ExtTreeMap.ext_getElem?
    intro key
    by_contra differs
    have found : ∃ finding ∈ kind.findings expected observed, finding.path = kind.path key :=
      exists_finding_of_differs differs
    rcases found with ⟨finding, isFinding, -⟩
    exact nothing finding isFinding
  · rintro rfl finding isFinding
    rcases differs_of_mem_findings isFinding with ⟨key, -, differs⟩
    exact differs rfl

theorem exists_finding_iff (injective : Function.Injective kind.path) {key : κ} :
    (∃ finding ∈ kind.findings expected observed, finding.path = kind.path key) ↔
      expected[key]? ≠ observed[key]? := by
  constructor
  · rintro ⟨finding, isFinding, isPath⟩
    rcases differs_of_mem_findings isFinding with ⟨other, otherPath, differs⟩
    rwa [injective (isPath.symm.trans otherPath)]
  · exact exists_finding_of_differs

end DriftKind

/-! ## The paths of the kinds -/

theorem toString_uint16_injective : Function.Injective (toString : UInt16 → String) := by
  intro left right same
  have sameNat : left.toNat.repr = right.toNat.repr := same
  exact UInt16.toNat_inj.mp (Nat.repr_injective sameNat)

theorem vlanDrift_path_injective : Function.Injective vlanDrift.path :=
  fun _ _ same => toString_uint16_injective (String.append_right_inj _ |>.mp same)

theorem interfaceDrift_path_injective : Function.Injective interfaceDrift.path :=
  fun _ _ same => String.append_right_inj _ |>.mp same

theorem aclDrift_path_injective : Function.Injective aclDrift.path :=
  fun _ _ same => toString_uint16_injective (String.append_right_inj _ |>.mp same)

theorem aclBindingDrift_path_injective : Function.Injective aclBindingDrift.path :=
  fun _ _ same => String.append_right_inj _ |>.mp same

/-- The first characters of a path, which tell its kind. -/
def stem (path : String) : List Char :=
  path.toList.take 4

theorem stem_vlanDrift (vlanId : UInt16) : stem (vlanDrift.path vlanId) = "vlan".toList := by
  simp [stem, vlanDrift]

theorem stem_interfaceDrift (name : String) :
    stem (interfaceDrift.path name) = "inte".toList := by
  simp [stem, interfaceDrift]

theorem stem_aclDrift (aclId : UInt16) : stem (aclDrift.path aclId) = "acls".toList := by
  simp [stem, aclDrift]

theorem stem_aclBindingDrift (key : String) :
    stem (aclBindingDrift.path key) = "acl_".toList := by
  simp [stem, aclBindingDrift]

/-- The findings all have paths of one kind. -/
def HaveStem (findings : List DriftFinding) (kind : List Char) : Prop :=
  ∀ finding ∈ findings, stem finding.path = kind

theorem DriftKind.haveStem {κ ν : Type} [Ord κ] [DecidableEq ν] [Std.TransOrd κ] [Std.LawfulEqOrd κ]
    {kind : DriftKind κ ν} {expected observed : BTreeMap κ ν} {start : List Char}
    (paths : ∀ key, stem (kind.path key) = start) :
    HaveStem (kind.findings expected observed) start := by
  intro finding isFinding
  rcases differs_of_mem_findings isFinding with ⟨key, isPath, -⟩
  rw [isPath, paths]

theorem haveStem_warningFindings (warnings : List String) :
    HaveStem (warningFindings warnings) "adap".toList := by
  intro finding isFinding
  rcases List.mem_map.mp isFinding with ⟨warning, -, rfl⟩
  simp [stem]

section Append

variable {first rest : List DriftFinding} {start : List Char} {path : String}

/-- A path of another kind is not found among findings of this kind. -/
theorem HaveStem.skip (haveStem : HaveStem first start) (other : stem path ≠ start) :
    (∃ finding ∈ first ++ rest, finding.path = path) ↔ ∃ finding ∈ rest, finding.path = path := by
  constructor
  · rintro ⟨finding, isFinding, rfl⟩
    rcases List.mem_append.mp isFinding with isFirst | isRest
    · exact absurd (haveStem finding isFirst) other
    · exact ⟨finding, isRest, rfl⟩
  · rintro ⟨finding, isRest, isPath⟩
    exact ⟨finding, List.mem_append_right _ isRest, isPath⟩

theorem exists_path_append :
    (∃ finding ∈ first ++ rest, finding.path = path) ↔
      (∃ finding ∈ first, finding.path = path) ∨ ∃ finding ∈ rest, finding.path = path := by
  simp only [List.mem_append, or_and_right, exists_or]

theorem HaveStem.absent (haveStem : HaveStem first start) (other : stem path ≠ start) :
    ¬∃ finding ∈ first, finding.path = path := by
  rintro ⟨finding, isFinding, rfl⟩
  exact other (haveStem finding isFinding)

end Append

/-! ## Exactness -/

/-- The report names the VLANs, interfaces, ACLs and ACL bindings that differ, and nothing else. -/
structure DriftReport.Covers (report : DriftReport)
    (expected observed : DeviceShadowState) : Prop where
  clean_iff : report.driftDetected = false ↔
    expected.vlans = observed.vlans ∧ expected.interfaces = observed.interfaces ∧
      expected.acls = observed.acls ∧ expected.aclBindings = observed.aclBindings ∧
        observed.warnings = []
  vlan_iff : ∀ vlanId : UInt16,
    (∃ finding ∈ report.findings, finding.path = "vlans." ++ toString vlanId) ↔
      expected.vlans[vlanId]? ≠ observed.vlans[vlanId]?
  interface_iff : ∀ name : String,
    (∃ finding ∈ report.findings, finding.path = "interfaces." ++ name) ↔
      expected.interfaces[name]? ≠ observed.interfaces[name]?
  acl_iff : ∀ aclId : UInt16,
    (∃ finding ∈ report.findings, finding.path = "acls." ++ toString aclId) ↔
      expected.acls[aclId]? ≠ observed.acls[aclId]?
  aclBinding_iff : ∀ key : String,
    (∃ finding ∈ report.findings, finding.path = "acl_bindings." ++ key) ↔
      expected.aclBindings[key]? ≠ observed.aclBindings[key]?
  named : ∀ finding ∈ report.findings,
    (∃ vlanId : UInt16, finding.path = "vlans." ++ toString vlanId) ∨
      (∃ name : String, finding.path = "interfaces." ++ name) ∨
        (∃ aclId : UInt16, finding.path = "acls." ++ toString aclId) ∨
          (∃ key : String, finding.path = "acl_bindings." ++ key) ∨
            finding.path = "adapter.warning" ∧ observed.warnings ≠ []

section Exact

variable (expected observed : DeviceShadowState)

theorem driftFindings_eq_nil_iff :
    driftFindings expected observed = [] ↔
      expected.vlans = observed.vlans ∧ expected.interfaces = observed.interfaces ∧
        expected.acls = observed.acls ∧ expected.aclBindings = observed.aclBindings ∧
          observed.warnings = [] := by
  simp only [driftFindings, List.append_eq_nil_iff, DriftKind.findings_eq_nil_iff,
    warningFindings, List.map_eq_nil_iff]

theorem vlan_named_iff (vlanId : UInt16) :
    (∃ finding ∈ driftFindings expected observed, finding.path = vlanDrift.path vlanId) ↔
      expected.vlans[vlanId]? ≠ observed.vlans[vlanId]? := by
  rw [← DriftKind.exists_finding_iff vlanDrift_path_injective, driftFindings, exists_path_append,
    or_iff_left]
  have isVlan := stem_vlanDrift vlanId
  rw [(DriftKind.haveStem stem_interfaceDrift).skip (by rw [isVlan]; decide),
    (DriftKind.haveStem stem_aclDrift).skip (by rw [isVlan]; decide),
    (DriftKind.haveStem stem_aclBindingDrift).skip (by rw [isVlan]; decide)]
  exact (haveStem_warningFindings _).absent (by rw [isVlan]; decide)

theorem interface_named_iff (name : String) :
    (∃ finding ∈ driftFindings expected observed, finding.path = interfaceDrift.path name) ↔
      expected.interfaces[name]? ≠ observed.interfaces[name]? := by
  have isInterface := stem_interfaceDrift name
  rw [← DriftKind.exists_finding_iff interfaceDrift_path_injective, driftFindings,
    (DriftKind.haveStem stem_vlanDrift).skip (by rw [isInterface]; decide), exists_path_append,
    or_iff_left]
  rw [(DriftKind.haveStem stem_aclDrift).skip (by rw [isInterface]; decide),
    (DriftKind.haveStem stem_aclBindingDrift).skip (by rw [isInterface]; decide)]
  exact (haveStem_warningFindings _).absent (by rw [isInterface]; decide)

theorem acl_named_iff (aclId : UInt16) :
    (∃ finding ∈ driftFindings expected observed, finding.path = aclDrift.path aclId) ↔
      expected.acls[aclId]? ≠ observed.acls[aclId]? := by
  have isAcl := stem_aclDrift aclId
  rw [← DriftKind.exists_finding_iff aclDrift_path_injective, driftFindings,
    (DriftKind.haveStem stem_vlanDrift).skip (by rw [isAcl]; decide),
    (DriftKind.haveStem stem_interfaceDrift).skip (by rw [isAcl]; decide), exists_path_append,
    or_iff_left]
  rw [(DriftKind.haveStem stem_aclBindingDrift).skip (by rw [isAcl]; decide)]
  exact (haveStem_warningFindings _).absent (by rw [isAcl]; decide)

theorem aclBinding_named_iff (key : String) :
    (∃ finding ∈ driftFindings expected observed, finding.path = aclBindingDrift.path key) ↔
      expected.aclBindings[key]? ≠ observed.aclBindings[key]? := by
  have isBinding := stem_aclBindingDrift key
  rw [← DriftKind.exists_finding_iff aclBindingDrift_path_injective, driftFindings,
    (DriftKind.haveStem stem_vlanDrift).skip (by rw [isBinding]; decide),
    (DriftKind.haveStem stem_interfaceDrift).skip (by rw [isBinding]; decide),
    (DriftKind.haveStem stem_aclDrift).skip (by rw [isBinding]; decide), exists_path_append,
    or_iff_left]
  exact (haveStem_warningFindings _).absent (by rw [isBinding]; decide)

theorem named_of_mem_driftFindings :
    ∀ finding ∈ driftFindings expected observed,
      (∃ vlanId, finding.path = vlanDrift.path vlanId) ∨
        (∃ name, finding.path = interfaceDrift.path name) ∨
          (∃ aclId, finding.path = aclDrift.path aclId) ∨
            (∃ key, finding.path = aclBindingDrift.path key) ∨
              finding.path = "adapter.warning" ∧ observed.warnings ≠ [] := by
  intro finding isFinding
  simp only [driftFindings, List.mem_append] at isFinding
  rcases isFinding with isVlan | isInterface | isAcl | isBinding | isWarning
  · rcases DriftKind.differs_of_mem_findings isVlan with ⟨vlanId, isPath, -⟩
    exact .inl ⟨vlanId, isPath⟩
  · rcases DriftKind.differs_of_mem_findings isInterface with ⟨name, isPath, -⟩
    exact .inr (.inl ⟨name, isPath⟩)
  · rcases DriftKind.differs_of_mem_findings isAcl with ⟨aclId, isPath, -⟩
    exact .inr (.inr (.inl ⟨aclId, isPath⟩))
  · rcases DriftKind.differs_of_mem_findings isBinding with ⟨key, isPath, -⟩
    exact .inr (.inr (.inr (.inl ⟨key, isPath⟩)))
  · rcases List.mem_map.mp isWarning with ⟨warning, given, rfl⟩
    exact .inr (.inr (.inr (.inr ⟨rfl, List.ne_nil_of_mem given⟩)))

theorem driftDetected_eq_false_iff :
    (detectDrift expected observed).driftDetected = false ↔
      driftFindings (normalizeShadowState expected) (normalizeShadowState observed) = [] := by
  simp [detectDrift]

theorem detectDrift_covers :
    (detectDrift expected observed).Covers (normalizeShadowState expected)
      (normalizeShadowState observed) where
  clean_iff := (driftDetected_eq_false_iff expected observed).trans
    (driftFindings_eq_nil_iff _ _)
  vlan_iff := vlan_named_iff _ _
  interface_iff := interface_named_iff _ _
  acl_iff := acl_named_iff _ _
  aclBinding_iff := aclBinding_named_iff _ _
  named := named_of_mem_driftFindings _ _

/-- The report names all objects that differ, BGP objects included, and nothing else. -/
structure DriftReport.Exact (report : DriftReport)
    (expected observed : DeviceShadowState) : Prop where
  covers : report.Covers expected observed
  bgpProcess_iff : ∀ vrf : String,
    (∃ finding ∈ report.findings, finding.path = "bgp_processes." ++ vrf) ↔
      expected.bgpProcesses[vrf]? ≠ observed.bgpProcesses[vrf]?
  bgpNeighbor_iff : ∀ key : String,
    (∃ finding ∈ report.findings, finding.path = "bgp_neighbors." ++ key) ↔
      expected.bgpNeighbors[key]? ≠ observed.bgpNeighbors[key]?
  clean_iff : report.driftDetected = false ↔
    (expected.vlans = observed.vlans ∧ expected.interfaces = observed.interfaces ∧
      expected.acls = observed.acls ∧ expected.aclBindings = observed.aclBindings) ∧
        (expected.bgpProcesses = observed.bgpProcesses ∧
          expected.bgpNeighbors = observed.bgpNeighbors) ∧ observed.warnings = []

/-- No finding is about a BGP object. -/
theorem bgp_not_named {path : String} (isBgp : stem path = "bgp_".toList) :
    ¬∃ finding ∈ driftFindings expected observed, finding.path = path := by
  rw [driftFindings, (DriftKind.haveStem stem_vlanDrift).skip (by rw [isBgp]; decide),
    (DriftKind.haveStem stem_interfaceDrift).skip (by rw [isBgp]; decide),
    (DriftKind.haveStem stem_aclDrift).skip (by rw [isBgp]; decide),
    (DriftKind.haveStem stem_aclBindingDrift).skip (by rw [isBgp]; decide)]
  exact (haveStem_warningFindings _).absent (by rw [isBgp]; decide)

/-- Drift detection is exact if and only if the BGP objects do not differ. -/
theorem detectDrift_exact_iff :
    (detectDrift expected observed).Exact (normalizeShadowState expected)
        (normalizeShadowState observed) ↔
      (normalizeShadowState expected).bgpProcesses =
          (normalizeShadowState observed).bgpProcesses ∧
        (normalizeShadowState expected).bgpNeighbors =
          (normalizeShadowState observed).bgpNeighbors := by
  have processNotNamed : ∀ vrf : String, ¬∃ finding ∈ (detectDrift expected observed).findings,
      finding.path = "bgp_processes." ++ vrf :=
    fun vrf => bgp_not_named _ _ (by simp [stem])
  have neighborNotNamed : ∀ key : String, ¬∃ finding ∈ (detectDrift expected observed).findings,
      finding.path = "bgp_neighbors." ++ key :=
    fun key => bgp_not_named _ _ (by simp [stem])
  constructor
  · intro exact
    constructor
    · apply Std.ExtTreeMap.ext_getElem?
      intro vrf
      by_contra differs
      exact processNotNamed vrf ((exact.bgpProcess_iff vrf).mpr differs)
    · apply Std.ExtTreeMap.ext_getElem?
      intro key
      by_contra differs
      exact neighborNotNamed key ((exact.bgpNeighbor_iff key).mpr differs)
  · rintro ⟨sameProcesses, sameNeighbors⟩
    refine ⟨detectDrift_covers expected observed, fun vrf => ?_, fun key => ?_, ?_⟩
    · rw [sameProcesses]
      exact iff_of_false (processNotNamed vrf) fun differs => differs rfl
    · rw [sameNeighbors]
      exact iff_of_false (neighborNotNamed key) fun differs => differs rfl
    · rw [(detectDrift_covers expected observed).clean_iff]
      simp only [sameProcesses, sameNeighbors, and_self, true_and, and_assoc]

end Exact

/-- A BGP process that is expected and not observed is not reported. -/
theorem detectDrift_misses_bgpProcess :
    let expected : DeviceShadowState :=
      { deviceId := "leaf-a"
        revision := 1
        bgpProcesses := .ofList [("default", (⟨"default", 65001, none⟩ : BgpProcess))] }
    let observed : DeviceShadowState := { deviceId := "leaf-a", revision := 1 }
    (detectDrift expected observed).driftDetected = false ∧
      ¬(detectDrift expected observed).Exact (normalizeShadowState expected)
        (normalizeShadowState observed) := by
  intro expected observed
  refine ⟨by decide +kernel, fun exact => ?_⟩
  have reported : (detectDrift expected observed).findings.any
      (·.path = "bgp_processes." ++ "default") = true := by
    rw [List.any_eq_true]
    rcases (exact.bgpProcess_iff "default").mpr (by decide +kernel) with
      ⟨finding, isFinding, isPath⟩
    exact ⟨finding, isFinding, decide_eq_true isPath⟩
  exact absurd reported (by decide +kernel)

end AriaUnderlay
