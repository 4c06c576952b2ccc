import AriaUnderlay.Api.Response
import AriaUnderlay.Core.Effects

/-!
# The apply coordinator

The transaction that takes one device to its desired state: lock, gate, dry run, then prepare,
commit, verify and confirm through the adapter, with a journal write before each step, and the
handlers that close the transaction after a success or a failure.

Functions that are lent the journal record run in `Endpoint`, where the record keeps its last value
when the function stops at an error.
-/

namespace AriaUnderlay

open Collections Effect

/-! ## Pure parts -/

def deviceErrorResult (deviceId : DeviceId) (changed : Bool) (txId : Option String)
    (strategy : Option TransactionStrategy) (error : UnderlayError) : DeviceApplyResult :=
  let (code, message) := journalErrorFields error
  let unresolved : Bool := code = "TX_IN_DOUBT" ∨ code = "TX_REQUIRES_RECOVERY"
  { deviceId := deviceId
    changed := changed
    status := if unresolved then .inDoubt else .failed
    txId := txId
    strategy := strategy
    errorCode := some code
    errorMessage := some message
    verifyReport := some
      (if unresolved then .inDoubt deviceId code message else .skipped deviceId) }

def failedApplyPhase : TxPhase → TxPhase
  | .rolledBack => .rolledBack
  | .inDoubt => .inDoubt
  | _ => .failed

def applyStatusForFailedPhase : TxPhase → ApplyStatus
  | .rolledBack => .rolledBack
  | .inDoubt => .inDoubt
  | _ => .failed

def degradedStrategyWarnings (strategy : TransactionStrategy) : List String :=
  if strategy.isDegraded then
    ["degraded transaction strategy " ++ strategy.debugName ++
      "; atomicity is weaker than confirmed commit"]
  else []

def isVerifyErrorCode (code : String) : Bool :=
  code = "VERIFY_FAILED" ∨ code = "UNEXPECTED_VERIFY_STATUS"

def verifyScopeFromJournal (deviceId : DeviceId) (record : TxJournalRecord) : VerifyScopeSummary :=
  match record.changeSets.find? fun changeSet => changeSet.deviceId = deviceId with
  | some changeSet => .fromChangeSet changeSet
  | none => {}

def failedApplyVerifyReport (deviceId : DeviceId) (record : TxJournalRecord) (status : ApplyStatus)
    (code message : String) : DeviceVerifyReport :=
  if isVerifyErrorCode code then
    let report : DeviceVerifyReport :=
      .failed deviceId (verifyScopeFromJournal deviceId record) code message []
    if status = .inDoubt then { report with status := .inDoubt } else report
  else if status = .inDoubt then .inDoubt deviceId code message
  else .skipped deviceId

def markVerifyReportInDoubt (deviceId : DeviceId) (report : Option DeviceVerifyReport)
    (code message : String) : DeviceVerifyReport :=
  match report with
  | some report =>
      { report with status := .inDoubt, errorCode := some code, errorMessage := some message }
  | none => .inDoubt deviceId code message

def withRollbackFailureContext (primary rollbackError : UnderlayError) : UnderlayError :=
  let (rollbackCode, rollbackMessage) := journalErrorFields rollbackError
  let secondary : AdapterErrorDetail :=
    { code := rollbackCode
      message := "rollback after endpoint failure also failed: " ++ rollbackMessage }
  let suffix := "; rollback after endpoint failure also failed: " ++ rollbackCode ++ ": " ++
    rollbackMessage
  match primary with
  | .adapterOperation code message retryable errors =>
      .adapterOperation code (message ++ suffix) retryable (errors ++ [secondary])
  | other =>
      let (code, message) := journalErrorFields other
      .adapterOperation code (message ++ suffix) false [secondary]

/-- An adapter answer with a status that the step does not accept. -/
def unexpectedStatus (code step : String) (retryable : Bool)
    (status : AdapterOperationStatus) : UnderlayError :=
  .adapterOperation code ("adapter returned " ++ step ++ " status " ++ status.debugName)
    retryable []

/-! ## Gates before the transaction -/

/-- What is done about drifted devices. -/
inductive DriftPolicy where
  | reportOnly
  | blockNewTransaction
  | autoReconcile
  deriving DecidableEq, Repr

def driftPolicyError (policy : DriftPolicy) (deviceList : String) : Except UnderlayError Unit :=
  match policy with
  | .blockNewTransaction => .error (.adapterOperation "DRIFT_BLOCKED"
      ("device has unresolved out-of-band drift: " ++ deviceList) false [])
  | .autoReconcile => .error (.adapterOperation "DRIFT_AUTORECONCILE_UNIMPLEMENTED"
      ("auto reconcile is not implemented for drifted device(s): " ++ deviceList) false [])
  | .reportOnly => .ok ()

/-- The drifted devices of a list, up to the first device that is not in the inventory. -/
def driftedDevices : List DeviceId → CoreResult (List DeviceId)
  | [] => pure []
  | deviceId :: rest => do
      let managed ← ExceptT.mk (inventoryGet .driftGate deviceId)
      let drifted ← driftedDevices rest
      pure (if managed.info.lifecycleState = .drifted then deviceId :: drifted else drifted)

def refuseDrift (policy : DriftPolicy) (drifted : List DeviceId) : Except UnderlayError Unit :=
  if drifted.isEmpty then .ok () else driftPolicyError policy (",".intercalate drifted)

def ensureDriftPolicyAllowsApply (deviceIds : List DeviceId)
    (policy : DriftPolicy) : CoreResult Unit :=
  if policy = .reportOnly then pure ()
  else do
    let drifted ← driftedDevices deviceIds
    ExceptT.mk (pure (refuseDrift policy drifted))

def refuseInDoubt (recoverable : List TxJournalRecord)
    (deviceIds : List DeviceId) : Except UnderlayError Unit :=
  let blocking := inDoubtRecordsForDevices recoverable deviceIds
  if blocking.isEmpty then .ok ()
  else
    let txIds := ",".intercalate (blocking.map TxJournalRecord.txId)
    let code := if blocking.all fun record => record.phase = .inDoubt then "TX_IN_DOUBT"
      else "TX_REQUIRES_RECOVERY"
    .error (.adapterOperation code
      ("endpoint has unresolved recoverable transaction(s): " ++ txIds) false [])

def ensureNoInDoubtForDevices (deviceIds : List DeviceId) : CoreResult Unit := do
  let recoverable ← ExceptT.mk listRecoverable
  ExceptT.mk (pure (refuseInDoubt recoverable deviceIds))

/-- The change set of every device. -/
structure DryRunPlan where
  changeSets : List ChangeSet
  deriving DecidableEq, Repr

/-- Nothing has to be changed. -/
def DryRunPlan.isNoop (plan : DryRunPlan) : Bool :=
  plan.changeSets.all ChangeSet.isEmpty

/-- The change set of a device. -/
def DryRunPlan.changeSetFor (plan : DryRunPlan) (deviceId : DeviceId) : Option ChangeSet :=
  plan.changeSets.find? fun changeSet => changeSet.deviceId = deviceId

/-- Of two current states of one device the later one counts. -/
def buildDryRunPlan (desiredStates : List DeviceDesiredState)
    (currentStates : List DeviceShadowState) : Except UnderlayError DryRunPlan := do
  let changeSets ← desiredStates.mapM fun desired =>
    match currentStates.reverse.find? fun state => state.deviceId = desired.deviceId with
    | some current => .ok (computeDiff desired current)
    | none => .error (.invalidDeviceState
        ("missing current state for device " ++ desired.deviceId))
  pure { changeSets := changeSets }

def fetchCurrentStates : List DeviceDesiredState → CoreResult (List DeviceShadowState)
  | [] => pure []
  | desired :: rest => do
      let managed ← ExceptT.mk (inventoryGet .dryRun desired.deviceId)
      ExceptT.mk (adapterClient .dryRun managed.info.adapterEndpoint)
      let current ← ExceptT.mk (getCurrentState managed.info desired)
      ExceptT.mk (observedPut current)
      let others ← fetchCurrentStates rest
      pure (current :: others)

def dryRunDesiredStates (desiredStates : List DeviceDesiredState) : CoreResult DryRunPlan := do
  let currentStates ← fetchCurrentStates desiredStates
  ExceptT.mk (pure (buildDryRunPlan desiredStates currentStates))

/-! ## Steps of the transaction -/

section Endpoint

open Fallible

/-- `transition_phase` on the record that the function was lent. -/
def transitionTo (phase : TxPhase) : Endpoint Unit := do
  let record ← get
  let next ← attempt (transitionPhase record phase)
  set next

/-- Write the record that the function was lent. -/
def putRecord (site : PutSite) : Endpoint Unit := do
  let record ← get
  attempt (journalPut site record)

def recordError (code message : String) : Endpoint Unit := do
  let record ← get
  let now ← always nowUnixSecs
  set (record.withError code message now)

/-- Record what the adapter answered to a rollback. -/
def settleRollback : AdapterAnswer → Endpoint Unit
  | .ok outcome =>
      if outcome.status = .rolledBack ∨ outcome.status = .noChange then do
        transitionTo .rolledBack
        putRecord .rollbackOutcome
      else do
        transitionTo .inDoubt
        recordError "UNEXPECTED_ROLLBACK_STATUS"
          ("adapter returned rollback status " ++ outcome.status.debugName)
        putRecord .rollbackOutcome
        throw (unexpectedStatus "UNEXPECTED_ROLLBACK_STATUS" "rollback" true outcome.status)
  | .error error => do
      transitionTo .inDoubt
      recordError (journalErrorFields error).1 (journalErrorFields error).2
      putRecord .rollbackOutcome
      throw error

/-- The record becomes `RollingBack` only once that phase is durable. -/
def rollbackAfterEndpointFailure (device : DeviceInfo) (context : TxContext) : Endpoint Unit := do
  let record ← get
  let rollingBack ← attempt (transitionPhase record .rollingBack)
  attempt (journalPut .rollingBack rollingBack)
  set rollingBack
  let answer ← always (adapterCall device context (.rollback rollingBack.strategy))
  settleRollback answer

def rollbackAfterEndpointFailurePreservingPrimary (device : DeviceInfo) (context : TxContext)
    (primary : UnderlayError) : Endpoint Unit := do
  match ← outcome (rollbackAfterEndpointFailure device context) with
  | .ok () => throw primary
  | .error rollbackError => throw (withRollbackFailureContext primary rollbackError)

def prepareEndpoint (device : DeviceInfo) (context : TxContext)
    (desired : DeviceDesiredState) : Endpoint (Option String) := do
  match ← always (adapterCall device context (.prepare desired)) with
  | .error error => do
      rollbackAfterEndpointFailurePreservingPrimary device context error
      pure none
  | .ok prepare =>
      if prepare.status ≠ .prepared then do
        rollbackAfterEndpointFailurePreservingPrimary device context
          (unexpectedStatus "UNEXPECTED_PREPARE_STATUS" "prepare" false prepare.status)
        pure none
      else do
        transitionTo .prepared
        putRecord .prepared
        pure prepare.preparedCandidateChecksum

/-- The rollback of a failed step never returns normally, so this error is never seen. -/
def rollbackCompletedUnexpectedly : UnderlayError :=
  .internal "verify rollback unexpectedly completed without returning the primary error"

def commitEndpoint (confirmedCommitTimeoutSecs : ℕ) (device : DeviceInfo) (context : TxContext)
    (strategy : TransactionStrategy)
    (preparedCandidateChecksum : Option String) : Endpoint Unit := do
  transitionTo .committing
  putRecord .committing
  match ← always (adapterCall device context
      (.commit strategy confirmedCommitTimeoutSecs preparedCandidateChecksum)) with
  | .ok commit =>
      if commitStatusMatchesStrategy commit.status strategy then pure ()
      else do
        rollbackAfterEndpointFailurePreservingPrimary device context
          (unexpectedStatus "UNEXPECTED_COMMIT_STATUS" "commit" false commit.status)
        throw rollbackCompletedUnexpectedly
  | .error error => do
      rollbackAfterEndpointFailurePreservingPrimary device context error
      throw rollbackCompletedUnexpectedly

def verifyEndpoint (device : DeviceInfo) (context : TxContext) (desired : DeviceDesiredState)
    (changeSet : ChangeSet) : Endpoint DeviceVerifyReport := do
  transitionTo .verifying
  putRecord .verifying
  match ← always (adapterCall device context (.verify desired changeSet)) with
  | .ok verify =>
      if isVerifyAccepted verify.status then
        pure (.passed desired.deviceId (.fromChangeSet changeSet) verify.warnings)
      else do
        rollbackAfterEndpointFailurePreservingPrimary device context
          (unexpectedStatus "UNEXPECTED_VERIFY_STATUS" "verify" false verify.status)
        throw rollbackCompletedUnexpectedly
  | .error error => do
      rollbackAfterEndpointFailurePreservingPrimary device context error
      throw rollbackCompletedUnexpectedly

def finalConfirmEndpoint (device : DeviceInfo) (context : TxContext) : Endpoint Unit := do
  transitionTo .finalConfirming
  putRecord .finalConfirming
  match ← always (adapterCall device context .finalConfirm) with
  | .ok confirm =>
      if confirm.status = .committed then pure ()
      else
        rollbackAfterEndpointFailurePreservingPrimary device context
          (unexpectedStatus "UNEXPECTED_FINAL_CONFIRM_STATUS" "final confirm" false
            confirm.status)
  | .error error => rollbackAfterEndpointFailurePreservingPrimary device context error

/-- Strategies without a confirmed commit have nothing to confirm, only a phase to pass. -/
def finalizeNonConfirmedCommit : Endpoint Unit := do
  transitionTo .finalConfirming
  putRecord .finalConfirming

def confirmOrFinalize (device : DeviceInfo) (context : TxContext)
    (strategy : TransactionStrategy) : Endpoint Unit :=
  if strategy = .confirmedCommit then finalConfirmEndpoint device context
  else finalizeNonConfirmedCommit

/-- The capability that the inventory knows, or else the one that the device reports. -/
def endpointCapability
    (managed : ManagedDevice) : Core (Except UnderlayError DeviceCapabilityProfile) :=
  match managed.capability with
  | some capability => pure (.ok capability)
  | none => getCapabilities managed.info

def admitStrategy (deviceId : DeviceId) (allowDegradedAtomicity : Bool)
    (strategy : TransactionStrategy) : Except UnderlayError TransactionStrategy :=
  if !strategy.isSupported then .error .unsupportedTransactionStrategy
  else if strategy.isDegraded && !allowDegradedAtomicity then
    .error (.adapterOperation "DEGRADED_ATOMICITY_NOT_ALLOWED"
      ("device " ++ deviceId ++ " requires degraded transaction strategy " ++
        strategy.debugName ++ ", but request disallows degraded atomicity") false [])
  else .ok strategy

/-- Which device is going to be changed and how, or why it cannot be. -/
def selectStrategy (deviceId : DeviceId)
    (allowDegradedAtomicity : Bool) : Endpoint (DeviceInfo × TransactionStrategy) := do
  let managed ← attempt (inventoryGet .endpoint deviceId)
  attempt (adapterClient .endpoint managed.info.adapterEndpoint)
  let capability ← attempt (endpointCapability managed)
  let strategy ← attempt
    (.done (admitStrategy deviceId allowDegradedAtomicity capability.recommendedStrategy))
  pure (managed.info, strategy)

/-- From the selected strategy to the last confirmation. -/
def runStages (confirmedCommitTimeoutSecs : ℕ) (device : DeviceInfo) (context : TxContext)
    (strategy : TransactionStrategy) (desired : DeviceDesiredState)
    (changeSet : ChangeSet) : Endpoint (TransactionStrategy × DeviceVerifyReport) := do
  let checksum ← prepareEndpoint device context desired
  commitEndpoint confirmedCommitTimeoutSecs device context strategy checksum
  let report ← verifyEndpoint device context desired changeSet
  confirmOrFinalize device context strategy
  pure (strategy, report)

/-- The body of the loop over endpoints. -/
def applyChangedEndpoint (confirmedCommitTimeoutSecs : ℕ) (context : TxContext)
    (allowDegradedAtomicity : Bool) (desired : DeviceDesiredState)
    (changeSet : ChangeSet) : Endpoint (TransactionStrategy × DeviceVerifyReport) := do
  let (device, strategy) ← selectStrategy desired.deviceId allowDegradedAtomicity
  let record ← get
  let now ← always nowUnixSecs
  set (record.withStrategy strategy now)
  putRecord .strategySelected
  runStages confirmedCommitTimeoutSecs device context strategy desired changeSet

/-- The loop over endpoints: the first strategy and the last report stand for all of them. -/
def applyChangedEndpoints (confirmedCommitTimeoutSecs : ℕ) (plan : DryRunPlan) (context : TxContext)
    (allowDegradedAtomicity : Bool) :
    List DeviceDesiredState → Option (TransactionStrategy × DeviceVerifyReport) →
      Endpoint (Option (TransactionStrategy × DeviceVerifyReport))
  | [], selected => pure selected
  | desired :: rest, selected =>
      match plan.changeSetFor desired.deviceId with
      | none => throw (.invalidDeviceState
          ("missing change set for endpoint " ++ desired.deviceId))
      | some changeSet =>
          if changeSet.isEmpty then
            applyChangedEndpoints confirmedCommitTimeoutSecs plan context allowDegradedAtomicity
              rest selected
          else do
            let (strategy, report) ← applyChangedEndpoint confirmedCommitTimeoutSecs context
              allowDegradedAtomicity desired changeSet
            applyChangedEndpoints confirmedCommitTimeoutSecs plan context allowDegradedAtomicity
              rest (some ((selected.map Prod.fst).getD strategy, report))

def applyChangedEndpointStates (confirmedCommitTimeoutSecs : ℕ)
    (desiredStates : List DeviceDesiredState) (plan : DryRunPlan) (context : TxContext)
    (allowDegradedAtomicity : Bool) :
    Endpoint (TransactionStrategy × DeviceVerifyReport) := do
  let selected ← applyChangedEndpoints confirmedCommitTimeoutSecs plan context
    allowDegradedAtomicity desiredStates none
  match selected with
  | some outcome => pure outcome
  | none => throw .unsupportedTransactionStrategy

end Endpoint

/-! ## Closing the transaction -/

/-- A result that leaves the transaction to recovery. -/
def inDoubtResult (deviceId : DeviceId) (txId : String) (strategy : Option TransactionStrategy)
    (code message : String) (warnings : List String)
    (report : DeviceVerifyReport) : DeviceApplyResult where
  deviceId := deviceId
  changed := true
  status := .inDoubt
  txId := some txId
  strategy := strategy
  errorCode := some code
  errorMessage := some message
  warnings := warnings
  verifyReport := some report

/-- The texts of a failure that follows a durable `Committed`. -/
structure ShadowFailure where
  code : String
  message : String
  reportCode : String
  reportMessage : String
  warning : String

/-- A shadow that could not be read or written turns a committed record into `InDoubt`. -/
def finishWithShadowFailure (deviceId : DeviceId) (txId : String) (record : TxJournalRecord)
    (strategy : TransactionStrategy) (warnings : List String) (report : DeviceVerifyReport)
    (failure : ShadowFailure) : Core DeviceApplyResult := do
  let longReport :=
    markVerifyReportInDoubt deviceId (some report) failure.reportCode failure.message
  match ← transitionPhase record .inDoubt with
  | .error transitionError =>
      pure (inDoubtResult deviceId txId (some strategy) failure.code
        (failure.message ++ "; phase transition also failed: " ++
          (journalErrorFields transitionError).2) warnings longReport)
  | .ok record => do
      let now ← nowUnixSecs
      match ← journalPut .shadowFailure (record.withError failure.code failure.message now) with
      | .error journalError =>
          pure (inDoubtResult deviceId txId (some strategy) failure.code
            (failure.message ++ "; journal write also failed: " ++
              (journalErrorFields journalError).2) warnings longReport)
      | .ok () =>
          pure (inDoubtResult deviceId txId (some strategy) failure.code failure.message
            (warnings ++ [failure.warning])
            (markVerifyReportInDoubt deviceId (some report) failure.reportCode
              failure.reportMessage))

/-- A plan without the change set it was built from; the outcome of the write is ignored. -/
def finishWithMissingChangeSet (deviceId : DeviceId) (txId : String) (record : TxJournalRecord)
    (strategy : TransactionStrategy) (warnings : List String)
    (report : DeviceVerifyReport) : Core DeviceApplyResult := do
  let code := "MISSING_CHANGE_SET"
  let message := "missing change set after successful apply for device " ++ deviceId
  match ← transitionPhase record .inDoubt with
  | .error transitionError =>
      pure (inDoubtResult deviceId txId (some strategy) code
        (message ++ "; phase transition also failed: " ++ (journalErrorFields transitionError).2)
        warnings (markVerifyReportInDoubt deviceId (some report) code message))
  | .ok record => do
      let now ← nowUnixSecs
      let _ ← journalPut .shadowFailure (record.withError code message now)
      pure (inDoubtResult deviceId txId (some strategy) code message warnings
        (markVerifyReportInDoubt deviceId (some report) code
          "missing change set after successful apply"))

/-- The shadow could not be read. -/
def shadowReadFailure (error : UnderlayError) : ShadowFailure :=
  let (code, message) := journalErrorFields error
  { code := code
    message := "shadow state unavailable after successful apply: " ++ message
    reportCode := "SHADOW_READ_FAILED"
    reportMessage := "shadow state unavailable after successful apply"
    warning := "shadow state read failed: " ++ message }

def shadowWriteFailure (error : UnderlayError) : ShadowFailure :=
  let (code, message) := journalErrorFields error
  { code := code
    message := "shadow state stale after successful apply: " ++ message
    reportCode := "SHADOW_WRITE_FAILED"
    reportMessage := "shadow state stale after successful apply"
    warning := "shadow state update failed: " ++ message }

def successResult (deviceId : DeviceId) (txId : String) (strategy : TransactionStrategy)
    (warnings : List String) (report : DeviceVerifyReport) : DeviceApplyResult where
  deviceId := deviceId
  changed := true
  status := if strategy.isDegraded then .successWithWarning else .success
  txId := some txId
  strategy := some strategy
  warnings := warnings
  verifyReport := some report

/-- Bring the shadow up to date once `Committed` is durable. -/
def updateShadowAfterCommit (desired : DeviceDesiredState) (plan : DryRunPlan) (context : TxContext)
    (record : TxJournalRecord) (strategy : TransactionStrategy)
    (report : DeviceVerifyReport) : Core DeviceApplyResult := do
  let warnings := degradedStrategyWarnings strategy
  match plan.changeSetFor desired.deviceId with
  | none =>
      finishWithMissingChangeSet desired.deviceId context.txId record strategy warnings report
  | some changeSet => do
      match ← shadowGet desired.deviceId with
      | .error error =>
          finishWithShadowFailure desired.deviceId context.txId record strategy warnings report
            (shadowReadFailure error)
      | .ok existing => do
          let shadow := changeSet.applyToShadow existing desired 0
          match ← shadowPut context.txId shadow with
          | .error error =>
              finishWithShadowFailure desired.deviceId context.txId record strategy warnings
                report (shadowWriteFailure error)
          | .ok () =>
              pure (successResult desired.deviceId context.txId strategy warnings report)

def finishSuccessfulApply (desired : DeviceDesiredState) (plan : DryRunPlan) (context : TxContext)
    (record : TxJournalRecord) (strategy : TransactionStrategy)
    (report : DeviceVerifyReport) : Core DeviceApplyResult := do
  let warnings := degradedStrategyWarnings strategy
  let now ← nowUnixSecs
  match ← transitionPhase (record.withStrategy strategy now) .committed with
  | .error error =>
      let (code, message) := journalErrorFields error
      pure (inDoubtResult desired.deviceId context.txId (some strategy) code message warnings
        (markVerifyReportInDoubt desired.deviceId (some report) "INVALID_PHASE_TRANSITION"
          "failed to transition verified transaction to committed"))
  | .ok record => do
      match ← journalPut .committed record with
      | .error error =>
          let (code, message) := journalErrorFields error
          let message := "adapter committed, but terminal journal write failed: " ++ message
          pure (inDoubtResult desired.deviceId context.txId (some strategy) code message warnings
            (markVerifyReportInDoubt desired.deviceId (some report) "JOURNAL_WRITE_FAILED"
              message))
      | .ok () => updateShadowAfterCommit desired plan context record strategy report

/-- The result of a failed apply, with the status that the phase of the record stands for. -/
def failedApplyResult (deviceId : DeviceId) (txId : String) (record : TxJournalRecord)
    (status : ApplyStatus) (code message : String)
    (report : DeviceVerifyReport) : DeviceApplyResult where
  deviceId := deviceId
  changed := true
  status := status
  txId := some txId
  strategy := record.strategy
  errorCode := some code
  errorMessage := some message
  verifyReport := some report

/-- Record the failure. -/
def finishFailedApply (desired : DeviceDesiredState) (context : TxContext)
    (record : TxJournalRecord) (error : UnderlayError) : Core DeviceApplyResult := do
  let (code, message) := journalErrorFields error
  let phase := failedApplyPhase record.phase
  let status := applyStatusForFailedPhase phase
  let report := failedApplyVerifyReport desired.deviceId record status code message
  match ← transitionPhase record phase with
  | .error transitionError =>
      pure (inDoubtResult desired.deviceId context.txId record.strategy code
        (message ++ "; phase transition also failed: " ++ (journalErrorFields transitionError).2)
        [] (markVerifyReportInDoubt desired.deviceId (some report) code message))
  | .ok record => do
      let now ← nowUnixSecs
      match ← journalPut .failedApply (record.withError code message now) with
      | .error journalError =>
          pure (failedApplyResult desired.deviceId context.txId record status code
            (message ++ "; journal write also failed: " ++ (journalErrorFields journalError).2)
            report)
      | .ok () =>
          pure (failedApplyResult desired.deviceId context.txId record status code message report)

/-! ## The transaction -/

/-- The part of the transaction that starts once `Preparing` is durable. -/
def applyPrepared (confirmedCommitTimeoutSecs : ℕ) (desired : DeviceDesiredState)
    (plan : DryRunPlan) (context : TxContext) (allowDegradedAtomicity : Bool)
    (record : TxJournalRecord) : Core DeviceApplyResult := do
  let (result, record) ← (applyChangedEndpointStates confirmedCommitTimeoutSecs [desired] plan
    context allowDegradedAtomicity).start record
  match result with
  | .ok (strategy, report) => finishSuccessfulApply desired plan context record strategy report
  | .error error => finishFailedApply desired context record error

/-- The part of the transaction that starts once `Started` is durable. -/
def applyStarted (confirmedCommitTimeoutSecs : ℕ) (desired : DeviceDesiredState) (plan : DryRunPlan)
    (context : TxContext) (allowDegradedAtomicity : Bool)
    (record : TxJournalRecord) : Core DeviceApplyResult := do
  match ← transitionPhase record .preparing with
  | .error error => pure (deviceErrorResult desired.deviceId true (some context.txId) none error)
  | .ok record => do
      match ← journalPut .preparing record with
      | .error error =>
          pure (deviceErrorResult desired.deviceId true (some context.txId) none error)
      | .ok () =>
          applyPrepared confirmedCommitTimeoutSecs desired plan context allowDegradedAtomicity
            record

/-- The part of the apply that starts once a change has been planned. -/
def applyTransaction (confirmedCommitTimeoutSecs : ℕ) (requestId traceId : String)
    (desired : DeviceDesiredState) (plan : DryRunPlan)
    (allowDegradedAtomicity : Bool) : Core DeviceApplyResult := do
  let txId ← newTxId
  let context : TxContext := { txId := txId, requestId := requestId, traceId := traceId }
  let startedAt ← nowUnixSecs
  let desiredAt ← nowUnixSecs
  let plannedAt ← nowUnixSecs
  let record := ((TxJournalRecord.started context [desired.deviceId] startedAt).withDesiredStates
    [desired] desiredAt).withChangeSets plan.changeSets plannedAt
  match ← journalPut .started record with
  | .error error => pure (deviceErrorResult desired.deviceId true none none error)
  | .ok () =>
      applyStarted confirmedCommitTimeoutSecs desired plan context allowDegradedAtomicity record

/-- The part of the apply that runs under the endpoint lock. -/
def applyUnderLock (confirmedCommitTimeoutSecs : ℕ) (requestId traceId : String)
    (desired : DeviceDesiredState) (allowDegradedAtomicity : Bool)
    (driftPolicy : DriftPolicy) : Core DeviceApplyResult := do
  match ← (ensureNoInDoubtForDevices [desired.deviceId]).run with
  | .error error => pure (deviceErrorResult desired.deviceId false none none error)
  | .ok () => do
      match ← (ensureDriftPolicyAllowsApply [desired.deviceId] driftPolicy).run with
      | .error error => pure (deviceErrorResult desired.deviceId false none none error)
      | .ok () => do
          match ← (dryRunDesiredStates [desired]).run with
          | .error error => pure (deviceErrorResult desired.deviceId false none none error)
          | .ok plan =>
              if plan.isNoop then
                pure
                  { deviceId := desired.deviceId
                    changed := false
                    status := .noOpSuccess
                    verifyReport := some (.skipped desired.deviceId) }
              else
                applyTransaction confirmedCommitTimeoutSecs requestId traceId desired plan
                  allowDegradedAtomicity

def applySingleEndpointState (confirmedCommitTimeoutSecs : ℕ) (requestId traceId : String)
    (desired : DeviceDesiredState) (allowDegradedAtomicity : Bool)
    (driftPolicy : DriftPolicy) : Core DeviceApplyResult := do
  match ← acquireWithPolicy [desired.deviceId] with
  | .error error => pure (deviceErrorResult desired.deviceId false none none error)
  | .ok () => do
      let result ← applyUnderLock confirmedCommitTimeoutSecs requestId traceId desired
        allowDegradedAtomicity driftPolicy
      -- the guard is dropped when the function returns
      release [desired.deviceId]
      pure result

/-- The endpoints of an intent, one after the other. -/
def applyDesiredStates (confirmedCommitTimeoutSecs : ℕ) (requestId traceId : String)
    (allowDegradedAtomicity : Bool)
    (driftPolicy : DriftPolicy) : List DeviceDesiredState → Core (List DeviceApplyResult)
  | [] => pure []
  | desired :: rest => do
      let result ← applySingleEndpointState confirmedCommitTimeoutSecs requestId traceId desired
        allowDegradedAtomicity driftPolicy
      let others ← applyDesiredStates confirmedCommitTimeoutSecs requestId traceId
        allowDegradedAtomicity driftPolicy rest
      pure (result :: others)

end AriaUnderlay
