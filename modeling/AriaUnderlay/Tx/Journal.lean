import AriaUnderlay.Engine.Diff
import AriaUnderlay.Tx.Phase

/-!
# Journal records

The record that the journal keeps of one transaction, the updates the core makes to it, and the
decision that recovery takes from its phase.  Every update stamps the record with the time at which
it was made.
-/

namespace AriaUnderlay

/-- The identifiers of a transaction. -/
structure TxContext where
  txId : String
  requestId : String
  traceId : String
  deriving DecidableEq, Repr

/-- An error in the history of a transaction. -/
structure TxJournalErrorEvent where
  phase : TxPhase
  code : String
  message : String
  createdAtUnixSecs : ℕ
  deriving DecidableEq, Repr

/-- Who has resolved a transaction, and why. -/
structure TxManualResolution where
  operator : String
  reason : String
  requestId : String
  traceId : String
  resolvedAtUnixSecs : ℕ
  deriving DecidableEq, Repr

/-- The record of a transaction. -/
structure TxJournalRecord where
  txId : String
  requestId : String
  traceId : String
  phase : TxPhase
  devices : List DeviceId
  desiredStates : List DeviceDesiredState
  changeSets : List ChangeSet
  strategy : Option TransactionStrategy
  errorCode : Option String
  errorMessage : Option String
  errorHistory : List TxJournalErrorEvent
  manualResolution : Option TxManualResolution
  createdAtUnixSecs : ℕ
  updatedAtUnixSecs : ℕ
  deriving DecidableEq

namespace TxJournalRecord

def started (context : TxContext) (devices : List DeviceId) (now : ℕ) : TxJournalRecord where
  txId := context.txId
  requestId := context.requestId
  traceId := context.traceId
  phase := .started
  devices := devices
  desiredStates := []
  changeSets := []
  strategy := none
  errorCode := none
  errorMessage := none
  errorHistory := []
  manualResolution := none
  createdAtUnixSecs := now
  updatedAtUnixSecs := now

/-- The record in another phase. -/
def withPhase (record : TxJournalRecord) (phase : TxPhase) (now : ℕ) : TxJournalRecord :=
  { record with phase := phase, updatedAtUnixSecs := now }

/-- The record with its strategy. -/
def withStrategy (record : TxJournalRecord) (strategy : TransactionStrategy)
    (now : ℕ) : TxJournalRecord :=
  { record with strategy := some strategy, updatedAtUnixSecs := now }

/-- The record with what is wanted. -/
def withDesiredStates (record : TxJournalRecord) (desiredStates : List DeviceDesiredState)
    (now : ℕ) : TxJournalRecord :=
  { record with desiredStates := desiredStates, updatedAtUnixSecs := now }

def withChangeSets (record : TxJournalRecord) (changeSets : List ChangeSet)
    (now : ℕ) : TxJournalRecord :=
  { record with changeSets := changeSets, updatedAtUnixSecs := now }

/-- The record with one more error. -/
def withError (record : TxJournalRecord) (code message : String) (now : ℕ) : TxJournalRecord :=
  { record with
    errorCode := some code
    errorMessage := some message
    errorHistory := record.errorHistory ++
      [{ phase := record.phase, code := code, message := message, createdAtUnixSecs := now }]
    updatedAtUnixSecs := now }

def withManualResolution (record : TxJournalRecord) (operator reason requestId traceId : String)
    (now : ℕ) : TxJournalRecord :=
  { record with
    manualResolution := some
      { operator := operator
        reason := reason
        requestId := requestId
        traceId := traceId
        resolvedAtUnixSecs := now }
    updatedAtUnixSecs := now }

end TxJournalRecord

/-! ## Recovery decisions -/

/-- What recovery does about a phase. -/
inductive RecoveryAction where
  | noop
  | discardPreparedChanges
  | adapterRecover
  | manualIntervention
  deriving DecidableEq, Repr

/-- What recovery does about a transaction. -/
structure RecoveryDecision where
  txId : String
  phase : TxPhase
  action : RecoveryAction
  deriving DecidableEq, Repr

/-- What a recovery pass has done. -/
structure RecoveryReport where
  recovered : ℕ := 0
  inDoubt : ℕ := 0
  pending : ℕ := 0
  txIds : List String := []
  decisions : List RecoveryDecision := []
  deriving DecidableEq, Repr

/-- The action for a phase. -/
def recoveryActionForPhase : TxPhase → RecoveryAction
  | .started | .preparing | .prepared => .discardPreparedChanges
  | .committing | .verifying | .finalConfirming | .rollingBack | .recovering => .adapterRecover
  | .inDoubt => .manualIntervention
  | .committed | .rolledBack | .failed | .forceResolved => .noop

/-- The decision for a record. -/
def classifyRecovery (record : TxJournalRecord) : RecoveryDecision where
  txId := record.txId
  phase := record.phase
  action := recoveryActionForPhase record.phase

def inDoubtRecordsForDevices (records : List TxJournalRecord)
    (deviceIds : List DeviceId) : List TxJournalRecord :=
  (records.filter fun record => record.phase.requiresRecovery).filter fun record =>
    record.devices.any fun deviceId => deviceIds.contains deviceId

/-- A phase that an automatic recovery starts from may enter `recovering`. -/
theorem isAllowed_recovering {phase : TxPhase}
    (automatic : recoveryActionForPhase phase = .discardPreparedChanges ∨
      recoveryActionForPhase phase = .adapterRecover) :
    phase.isAllowed .recovering = true := by
  cases phase <;> simp_all [recoveryActionForPhase, TxPhase.isAllowed]

end AriaUnderlay
