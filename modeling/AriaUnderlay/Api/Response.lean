import AriaUnderlay.Tx.Journal

/-!
# Apply responses

What the core returns for one device and for a whole apply: the status, the error, and the report
of the verify step with the size of the scope that was verified.
-/

namespace AriaUnderlay

open Collections

/-- How an apply ends. -/
inductive ApplyStatus where
  | noOpSuccess
  | success
  | successWithWarning
  | partialSuccess
  | failed
  | rolledBack
  | inDoubt
  deriving DecidableEq, Repr

/-- How a verification ends. -/
inductive DeviceVerifyStatus where
  | passed
  | failed
  | skipped
  | inDoubt
  deriving DecidableEq, Repr

/-- How many objects a verification covers. -/
structure VerifyScopeSummary where
  vlanCount : ℕ := 0
  interfaceCount : ℕ := 0
  aclCount : ℕ := 0
  aclBindingCount : ℕ := 0
  deleteVlanCount : ℕ := 0
  deleteInterfaceCount : ℕ := 0
  deleteAclCount : ℕ := 0
  deleteAclBindingCount : ℕ := 0
  deriving DecidableEq, Repr

/-- The number of distinct keys that some operations of a change set have. -/
def countKeys {κ : Type} [Ord κ] [Std.TransOrd κ] (key : ChangeOp → Option κ)
    (changeSet : ChangeSet) : ℕ :=
  (.ofList (changeSet.ops.filterMap key) : BTreeSet κ).size

def VerifyScopeSummary.fromChangeSet (changeSet : ChangeSet) : VerifyScopeSummary where
  vlanCount := countKeys (fun
    | .createVlan vlan => some vlan.vlanId
    | .updateVlan _ after => some after.vlanId
    | _ => none) changeSet
  interfaceCount := countKeys (fun
    | .updateInterface _ after => some after.name
    | _ => none) changeSet
  aclCount := countKeys (fun
    | .createAcl acl => some acl.aclId
    | .updateAcl _ after => some after.aclId
    | _ => none) changeSet
  aclBindingCount := countKeys (fun
    | .createAclBinding binding => some binding.key
    | .updateAclBinding _ after => some after.key
    | _ => none) changeSet
  deleteVlanCount := countKeys (fun
    | .deleteVlan vlanId => some vlanId
    | _ => none) changeSet
  deleteInterfaceCount := countKeys (fun
    | .deleteInterfaceConfig interfaceName => some interfaceName
    | _ => none) changeSet
  deleteAclCount := countKeys (fun
    | .deleteAcl aclId => some aclId
    | _ => none) changeSet
  deleteAclBindingCount := countKeys (fun
    | .deleteAclBinding interfaceName direction aclId =>
        some (aclBindingKey interfaceName direction ++ "|" ++ toString aclId)
    | _ => none) changeSet

/-- What is reported of a verification. -/
structure DeviceVerifyReport where
  deviceId : DeviceId
  status : DeviceVerifyStatus
  source : String := "adapter_scoped_verify"
  scope : VerifyScopeSummary := {}
  warnings : List String := []
  errorCode : Option String := none
  errorMessage : Option String := none
  deriving DecidableEq, Repr

namespace DeviceVerifyReport

/-- A verification that passed. -/
def passed (deviceId : DeviceId) (scope : VerifyScopeSummary)
    (warnings : List String) : DeviceVerifyReport where
  deviceId := deviceId
  status := .passed
  scope := scope
  warnings := warnings

/-- A verification that failed. -/
def failed (deviceId : DeviceId) (scope : VerifyScopeSummary) (errorCode errorMessage : String)
    (warnings : List String) : DeviceVerifyReport where
  deviceId := deviceId
  status := .failed
  scope := scope
  warnings := warnings
  errorCode := some errorCode
  errorMessage := some errorMessage

def skipped (deviceId : DeviceId) : DeviceVerifyReport where
  deviceId := deviceId
  status := .skipped

def inDoubt (deviceId : DeviceId) (errorCode errorMessage : String) : DeviceVerifyReport where
  deviceId := deviceId
  status := .inDoubt
  errorCode := some errorCode
  errorMessage := some errorMessage

end DeviceVerifyReport

/-- How an apply ends for one device. -/
structure DeviceApplyResult where
  deviceId : DeviceId
  changed : Bool
  status : ApplyStatus
  txId : Option String := none
  strategy : Option TransactionStrategy := none
  errorCode : Option String := none
  errorMessage : Option String := none
  warnings : List String := []
  verifyReport : Option DeviceVerifyReport := none
  deriving DecidableEq, Repr

end AriaUnderlay
