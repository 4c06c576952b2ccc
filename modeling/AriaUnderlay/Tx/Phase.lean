import Mathlib

/-!
# Transaction phases, strategies and errors

The phases a journal record goes through, the table of allowed transitions, the strategies by which
a device commits, and the errors of the core with the code and message that the journal keeps.
-/

namespace AriaUnderlay

/-- The phases of a transaction. -/
inductive TxPhase where
  | started
  | preparing
  | prepared
  | committing
  | verifying
  | finalConfirming
  | recovering
  | committed
  | rollingBack
  | rolledBack
  | failed
  | inDoubt
  | forceResolved
  deriving DecidableEq, Repr

namespace TxPhase

def requiresRecovery : TxPhase → Bool
  | .committed | .rolledBack | .failed | .forceResolved => false
  | _ => true

/-- The name that the `Debug` format prints. -/
def debugName : TxPhase → String
  | .started => "Started"
  | .preparing => "Preparing"
  | .prepared => "Prepared"
  | .committing => "Committing"
  | .verifying => "Verifying"
  | .finalConfirming => "FinalConfirming"
  | .recovering => "Recovering"
  | .committed => "Committed"
  | .rollingBack => "RollingBack"
  | .rolledBack => "RolledBack"
  | .failed => "Failed"
  | .inDoubt => "InDoubt"
  | .forceResolved => "ForceResolved"

/-- The table of transitions. -/
def isAllowed (source target : TxPhase) : Bool :=
  source = target ||
    match source, target with
    -- forward progression
    | .started, .preparing | .preparing, .prepared | .prepared, .committing
    | .committing, .verifying | .verifying, .finalConfirming | .finalConfirming, .committed => true
    -- terminal failure
    | .preparing, .failed | .prepared, .failed | .committing, .failed | .verifying, .failed
    | .finalConfirming, .failed => true
    -- rollback
    | .preparing, .rollingBack | .prepared, .rollingBack | .committing, .rollingBack
    | .verifying, .rollingBack | .finalConfirming, .rollingBack => true
    -- recovery entry
    | .started, .recovering | .preparing, .recovering | .prepared, .recovering
    | .committing, .recovering | .verifying, .recovering | .finalConfirming, .recovering
    | .rollingBack, .recovering | .recovering, .recovering => true
    -- recovery outcome
    | .recovering, .committed | .recovering, .rolledBack | .recovering, .inDoubt => true
    -- rollback outcome
    | .rollingBack, .rolledBack | .rollingBack, .inDoubt => true
    -- shadow write failure after the adapter committed
    | .committed, .inDoubt => true
    -- force resolve
    | .inDoubt, .forceResolved => true
    | _, _ => false

/-- The phases that no transition leaves. -/
def isFinal : TxPhase → Bool
  | .rolledBack | .failed | .forceResolved => true
  | _ => false

theorem eq_of_isAllowed_of_isFinal {source target : TxPhase}
    (allowed : source.isAllowed target = true) (final : source.isFinal = true) :
    target = source := by
  cases source <;> cases target <;> simp_all [isAllowed, isFinal]

end TxPhase

/-- How changes are made on a device. -/
inductive TransactionStrategy where
  | confirmedCommit
  | candidateCommit
  | runningRollbackOnError
  | bestEffortCli
  | unsupported
  deriving DecidableEq, Repr

namespace TransactionStrategy

def isSupported : TransactionStrategy → Bool
  | .unsupported => false
  | _ => true

def isDegraded : TransactionStrategy → Bool
  | .runningRollbackOnError | .bestEffortCli => true
  | _ => false

def debugName : TransactionStrategy → String
  | .confirmedCommit => "ConfirmedCommit"
  | .candidateCommit => "CandidateCommit"
  | .runningRollbackOnError => "RunningRollbackOnError"
  | .bestEffortCli => "BestEffortCli"
  | .unsupported => "Unsupported"

end TransactionStrategy

/-! ## Errors -/

/-- One error of the adapter. -/
structure AdapterErrorDetail where
  code : String
  message : String
  deriving DecidableEq, Repr

/-- The errors of the core. -/
inductive UnderlayError where
  | deviceAlreadyExists (deviceId : String)
  | deviceNotFound (deviceId : String)
  | invalidDeviceState (message : String)
  | adapterTransport (message : String)
  | adapterOperation
      (code message : String)
      (retryable : Bool)
      (errors : List AdapterErrorDetail)
  | invalidIntent (message : String)
  | authorizationDenied (message : String)
  | authenticationFailed (message : String)
  | productAuditWriteFailed (message : String)
  | invalidPhaseTransition (source target : String)
  | unsupportedTransactionStrategy
  | internal (message : String)
  deriving DecidableEq, Repr

/-- The text that the `Display` format prints. -/
def UnderlayError.display : UnderlayError → String
  | .deviceAlreadyExists deviceId => "device already exists: " ++ deviceId
  | .deviceNotFound deviceId => "device not found: " ++ deviceId
  | .invalidDeviceState message => "invalid device state: " ++ message
  | .adapterTransport message => "adapter transport error: " ++ message
  | .adapterOperation code message _ _ => "adapter operation error: " ++ code ++ ": " ++ message
  | .invalidIntent message => "invalid intent: " ++ message
  | .authorizationDenied message => "authorization denied: " ++ message
  | .authenticationFailed message => "authentication failed: " ++ message
  | .productAuditWriteFailed message => "product audit write failed: " ++ message
  | .invalidPhaseTransition source target =>
      "invalid phase transition: " ++ source ++ " -> " ++ target
  | .unsupportedTransactionStrategy => "unsupported transaction strategy"
  | .internal message => "internal error: " ++ message

/-- The check of a transition. -/
def validateTransition (source target : TxPhase) : Except UnderlayError Unit :=
  if source.isAllowed target then .ok ()
  else .error (.invalidPhaseTransition source.debugName target.debugName)

/-- The message of an adapter error with up to eight further errors appended. -/
def adapterErrorMessage (message : String) (errors : List AdapterErrorDetail) : String :=
  if errors.isEmpty then message
  else
    let additional :=
      "; ".intercalate ((errors.take 8).map fun error => error.code ++ ": " ++ error.message)
    let truncated := errors.length - 8
    if truncated = 0 then message ++ "; additional adapter errors: " ++ additional
    else
      message ++ "; additional adapter errors: " ++ additional ++ "; " ++ toString truncated ++
        " more"

/-- The code and message under which an error is journaled and reported. -/
def journalErrorFields : UnderlayError → String × String
  | .adapterOperation code message _ errors => (code, adapterErrorMessage message errors)
  | .adapterTransport message => ("ADAPTER_TRANSPORT", message)
  | .invalidIntent message => ("INVALID_INTENT", message)
  | .authorizationDenied message => ("AUTHORIZATION_DENIED", message)
  | .authenticationFailed message => ("AUTHENTICATION_FAILED", message)
  | .productAuditWriteFailed message => ("PRODUCT_AUDIT_WRITE_FAILED", message)
  | .invalidDeviceState message => ("INVALID_DEVICE_STATE", message)
  | .invalidPhaseTransition source target =>
      ("INVALID_PHASE_TRANSITION", "invalid phase transition: " ++ source ++ " -> " ++ target)
  | .unsupportedTransactionStrategy =>
      ("UNSUPPORTED_TRANSACTION_STRATEGY", "unsupported transaction strategy")
  | .deviceAlreadyExists deviceId => ("DEVICE_ALREADY_EXISTS", deviceId)
  | .deviceNotFound deviceId => ("DEVICE_NOT_FOUND", deviceId)
  | .internal message => ("INTERNAL", message)

end AriaUnderlay
