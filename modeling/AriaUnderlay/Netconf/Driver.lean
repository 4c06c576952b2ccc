import AriaUnderlay.Core.Effects
import AriaUnderlay.Netconf.Backend

/-!
# The NETCONF driver

The driver turns the requests of the core into operations of the backend and the outcome of these
into a result with a status.  The core reads a result with errors as an error.
-/

namespace AriaUnderlay

open Collections Effect

variable {Config Edit : Type}

/-- What the driver reports. -/
structure AdapterResult where
  status : AdapterOperationStatus
  warnings : List String := []
  errors : List AdapterError := []
  preparedCandidateChecksum : String := ""
  deriving DecidableEq, Repr

/-- The report of a failure. -/
def failedResult (error : AdapterError) : AdapterResult where
  status := .failed
  errors := [error]

/-- How the core reads a result. -/
def adapterResultToOutcome (result : AdapterResult) : AdapterAnswer :=
  match result.errors with
  | first :: additional => .error (.adapterOperation first.code first.message first.retryable
      (additional.map fun error => { code := error.code, message := error.message }))
  | [] => .ok
      { status := result.status
        warnings := result.warnings
        preparedCandidateChecksum :=
          if result.preparedCandidateChecksum.isEmpty then none
          else some result.preparedCandidateChecksum }

/-- The result of a backend call: `success` describes it if nothing was raised. -/
def resultOf {α : Type} (call : SessionResult Config Edit α)
    (success : α → AdapterResult) : Session Config Edit AdapterResult := do
  match ← call.run with
  | .ok value => pure (success value)
  | .error error => pure (failedResult error)

/-- The error of a state with BGP. -/
def bgpWriteUnsupported : AdapterError where
  code := "BGP_WRITE_UNSUPPORTED"
  message := "BGP desired state is dry-run gated in Core and is not supported by " ++
    "the NETCONF adapter write path"
  normalizedError := "bgp write path unsupported"
  rawErrorSummary := "BGP desired fields present"
  retryable := false

/-- BGP is not written. -/
def rejectUnsupportedBgpDesiredState (desired : DeviceDesiredState) : Except AdapterError Unit :=
  if !desired.bgpProcesses.isEmpty || !desired.bgpNeighbors.isEmpty ||
      !desired.deleteBgpProcessVrfs.isEmpty || !desired.deleteBgpNeighbors.isEmpty then
    .error bgpWriteUnsupported
  else .ok ()

/-- The error of an unknown action. -/
def recoveryActionUnsupported (strategy : Option TransactionStrategy) : AdapterError where
  code := "RECOVERY_ACTION_UNSUPPORTED"
  message := "recover request action is unsupported"
  normalizedError := "unsupported recovery action"
  rawErrorSummary := "action=0, strategy=" ++ toString (NetconfBackend.strategyToProto strategy)
  retryable := false

/-- The driver checks the timeout itself, before the backend does. -/
def validatedConfirmTimeoutSecs (strategy : Option TransactionStrategy)
    (confirmTimeoutSecs : ℕ) : Except AdapterError Unit :=
  if strategy = some .confirmedCommit ∧ confirmTimeoutSecs = 0 then
    .error
      { code := "NETCONF_INVALID_CONFIRM_TIMEOUT"
        message := "confirmed-commit timeout must be a positive integer"
        normalizedError := "invalid confirmed commit timeout"
        rawErrorSummary := "confirm_timeout_secs=" ++ toString confirmTimeoutSecs
        retryable := false }
  else .ok ()

def candidateCommitRecoveryInDoubt (txId : String) : AdapterError where
  code := "CANDIDATE_COMMIT_RECOVERY_IN_DOUBT"
  message := "candidate commit recovery cannot prove whether running config already changed"
  normalizedError := "candidate commit recovery in doubt"
  rawErrorSummary := "tx_id=" ++ txId
  retryable := false

namespace NetconfDriver

variable (backend : NetconfBackend Config Edit)

/-- Prepare the candidate. -/
def prepare (txId : String) (desired : DeviceDesiredState) : Session Config Edit AdapterResult :=
  resultOf
    (do
      ExceptT.mk (pure (rejectUnsupportedBgpDesiredState desired))
      backend.prepareCandidate txId desired)
    fun checksum => { status := .prepared, preparedCandidateChecksum := checksum }

def commit (txId : String) (strategy : Option TransactionStrategy) (confirmTimeoutSecs : ℕ)
    (preparedCandidateChecksum : Option String) : Session Config Edit AdapterResult :=
  resultOf
    (do
      ExceptT.mk (pure (validatedConfirmTimeoutSecs strategy confirmTimeoutSecs))
      backend.commitCandidate strategy txId confirmTimeoutSecs preparedCandidateChecksum)
    fun warnings =>
      { status := if strategy = some .confirmedCommit then .confirmedCommitPending else .committed
        warnings := warnings }

def finalConfirm (txId : String) : Session Config Edit AdapterResult :=
  resultOf (NetconfBackend.finalConfirm txId) fun _ => { status := .committed }

/-- Roll the transaction back. -/
def rollback (txId : String)
    (strategy : Option TransactionStrategy) : Session Config Edit AdapterResult :=
  resultOf (NetconfBackend.rollbackCandidate strategy txId) fun _ => { status := .rolledBack }

def verify (desired : DeviceDesiredState)
    (changeSet : ChangeSet) : Session Config Edit AdapterResult :=
  resultOf
    (do
      ExceptT.mk (pure (rejectUnsupportedBgpDesiredState desired))
      backend.verifyRunning desired changeSet)
    fun _ => { status := .noChange }

/-- The recovery of a confirmed commit: an unknown persist id counts as already confirmed. -/
def recoverConfirmedCommit (txId : String) : Session Config Edit AdapterResult := do
  match ← (NetconfBackend.finalConfirm txId).run with
  | .ok _ => pure { status := .committed }
  | .error error =>
      if persistIdAlreadyConsumed error then pure { status := .committed }
      else pure (failedResult error)

/-- Recover the transaction. -/
def recover (txId : String) (strategy : Option TransactionStrategy)
    (action : RecoveryAction) : Session Config Edit AdapterResult :=
  match action with
  | .discardPreparedChanges => rollback txId strategy
  | .adapterRecover =>
      if strategy = some .candidateCommit then
        pure { status := .inDoubt, errors := [candidateCommitRecoveryInDoubt txId] }
      else if strategy = some .confirmedCommit then recoverConfirmedCommit txId
      else rollback txId strategy
  | .noop | .manualIntervention => pure (failedResult (recoveryActionUnsupported strategy))

/-- How the adapter serves a call of the core.  A checksum that is missing arrives as an empty
text. -/
def serve (txId : String) : AdapterCall → Session Config Edit AdapterResult
  | .prepare desired => prepare backend txId desired
  | .commit strategy confirmTimeoutSecs preparedCandidateChecksum =>
      commit backend txId (some strategy) confirmTimeoutSecs
        (some (preparedCandidateChecksum.getD ""))
  | .verify desired changeSet => verify backend desired changeSet
  | .finalConfirm => finalConfirm txId
  | .rollback strategy => rollback txId strategy
  | .recover strategy action => recover txId strategy action

end NetconfDriver

/-- The answers that a device behind the driver can give to a call: what some run of the driver
results in, or an error of the transport. -/
inductive NetconfAnswers (merge : Config → Edit → Config) (backend : NetconfBackend Config Edit)
    (txId : String) (call : AdapterCall) : AdapterAnswer → Prop where
  | served {device after : NetconfDevice Config} {result : AdapterResult}
      (executes : Executes (netconfEnvironment merge) () (NetconfDriver.serve backend txId call)
        device result after) :
      NetconfAnswers merge backend txId call (adapterResultToOutcome result)
  | transport (message : String) :
      NetconfAnswers merge backend txId call (.error (.adapterTransport message))

end AriaUnderlay
