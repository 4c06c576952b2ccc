import AriaUnderlay.Api.ApplyCoordinator
import AriaUnderlay.Intent.Domain

/-!
# Requests and responses of the service

The apply request of a domain with its options, and the response that sums up the results of the
endpoints: one status, the transaction and the strategy where there is one endpoint, all warnings
and the outcome of the verify steps.
-/

namespace AriaUnderlay

/-! ## Requests -/

/-- How much an apply locks. -/
inductive ApplyLockScope where
  | domain
  | region
  | switchPair
  deriving DecidableEq, Repr

/-- The options of an apply. -/
structure ApplyOptions where
  dryRun : Bool := false
  allowDegradedAtomicity : Bool := false
  driftPolicy : DriftPolicy := .reportOnly
  lockScope : ApplyLockScope := .domain
  regionId : Option String := none
  deriving DecidableEq, Repr

/-- The request to apply an intent. -/
structure ApplyDomainIntentRequest where
  requestId : String
  traceId : Option String
  idempotencyKey : Option String
  intent : UnderlayDomainIntent
  options : ApplyOptions
  deriving DecidableEq

/-! ## Responses -/

/-- How the verifications end together. -/
inductive ApplyVerifyStatus where
  | passed
  | failed
  | partially
  | skipped
  | inDoubt
  deriving DecidableEq, Repr

/-- What is reported of all verifications. -/
structure ApplyVerifyReport where
  status : ApplyVerifyStatus
  passed : List DeviceId
  failed : List DeviceId
  skipped : List DeviceId
  inDoubt : List DeviceId
  attentionRequired : Bool
  warningCount : ℕ
  deriving DecidableEq, Repr

/-- The devices whose verify step ended with this status. -/
def verifiedAs (status : DeviceVerifyStatus) (reports : List DeviceVerifyReport) : List DeviceId :=
  (reports.filter (·.status = status)).map DeviceVerifyReport.deviceId

def ApplyVerifyReport.fromDeviceResults (deviceResults : List DeviceApplyResult) :
    ApplyVerifyReport :=
  let reports := deviceResults.filterMap DeviceApplyResult.verifyReport
  let passed := verifiedAs .passed reports
  let failed := verifiedAs .failed reports
  let inDoubt := verifiedAs .inDoubt reports
  { status :=
      if inDoubt ≠ [] then .inDoubt
      else if failed ≠ [] ∧ passed ≠ [] then .partially
      else if failed ≠ [] then .failed
      else if passed ≠ [] then .passed
      else .skipped
    passed := passed
    failed := failed
    skipped := verifiedAs .skipped reports
    inDoubt := inDoubt
    attentionRequired := failed ≠ [] ∨ inDoubt ≠ []
    warningCount := (reports.map (·.warnings.length)).sum }

/-- The statuses of an apply after which the device is as desired. -/
def ApplyStatus.isSuccess : ApplyStatus → Bool
  | .noOpSuccess | .success | .successWithWarning => true
  | _ => false

def aggregateApplyStatus (deviceResults : List DeviceApplyResult) : ApplyStatus :=
  match deviceResults with
  | [] => .failed
  | first :: rest =>
      if deviceResults.all (·.status = .noOpSuccess) then .noOpSuccess
      else if deviceResults.any (·.status = .inDoubt) then .inDoubt
      else if deviceResults.all (·.status.isSuccess) then
        if deviceResults.any (·.status = .successWithWarning) then .successWithWarning
        else .success
      else if deviceResults.all (·.status = .rolledBack) then .rolledBack
      else if rest = [] then first.status
      else if deviceResults.any (·.status.isSuccess) then .partialSuccess
      else .failed

/-- What is reported of an apply. -/
structure ApplyIntentResponse where
  requestId : String
  traceId : String
  idempotencyKey : Option String := none
  reused : Bool := false
  txId : Option String
  status : ApplyStatus
  strategy : Option TransactionStrategy
  deviceResults : List DeviceApplyResult
  warnings : List String
  verifyReport : Option ApplyVerifyReport
  deriving DecidableEq, Repr

/-- The response that `apply_desired_states` makes of the results of the endpoints. -/
def applyResponse (requestId traceId : String)
    (deviceResults : List DeviceApplyResult) : ApplyIntentResponse where
  requestId := requestId
  traceId := traceId
  txId :=
    match deviceResults with
    | [result] => result.txId
    | _ => none
  status := aggregateApplyStatus deviceResults
  strategy :=
    match deviceResults with
    | [result] => result.strategy
    | _ => none
  deviceResults := deviceResults
  warnings := deviceResults.flatMap DeviceApplyResult.warnings
  verifyReport := some (.fromDeviceResults deviceResults)

end AriaUnderlay
