import AriaUnderlay.Core.Effects

/-!
# The recovery coordinator

Recovery looks at the records that a crash or a failure left unresolved, one after the other, under
the locks of their devices.  It asks the adapters of all devices of a record what became of the
transaction, merges their answers into one phase and stores it.

Transport errors are retried without the delay between the attempts, and the event that announces
the report is left out.
-/

namespace AriaUnderlay

open Collections Effect

/-! ## Pure parts -/

def recoverPhaseFromAdapterStatus (action : RecoveryAction) : AdapterOperationStatus → TxPhase
  | .rolledBack => .rolledBack
  | .committed => if action = .adapterRecover then .committed else .inDoubt
  | .noChange => if action = .discardPreparedChanges then .rolledBack else .inDoubt
  | _ => .inDoubt

def mergeRecoveryPhase (current : Option TxPhase) (next : TxPhase) : TxPhase :=
  match current with
  | none => next
  | some phase => if phase = next then phase else .inDoubt

def desiredStateForRecord (record : TxJournalRecord)
    (deviceId : DeviceId) : Option DeviceDesiredState :=
  record.desiredStates.find? fun desired => desired.deviceId = deviceId

def changeSetForRecord (record : TxJournalRecord) (deviceId : DeviceId) : Option ChangeSet :=
  record.changeSets.find? fun changeSet => changeSet.deviceId = deviceId

/-- A failed operation in one line. -/
def errorSummary (operation : String) (error : UnderlayError) : String :=
  let (code, message) := journalErrorFields error
  operation ++ " failed with " ++ code ++ ": " ++ message

def finalConfirmRecoveryInDoubtError (record : TxJournalRecord) (deviceId : DeviceId)
    (finalConfirmSummary verifySummary recoverSummary : String) : UnderlayError :=
  .adapterOperation "FINAL_CONFIRM_RECOVERY_IN_DOUBT"
    ("could not prove final-confirming transaction " ++ record.txId ++ " for device " ++ deviceId ++
      ": " ++ finalConfirmSummary ++ "; " ++ verifySummary ++ "; " ++ recoverSummary) true []

/-- A device that could not be recovered. -/
structure RecoveryFailure where
  deviceId : DeviceId
  error : UnderlayError

/-- A failure in one line. -/
def recoveryFailureSummary (failure : RecoveryFailure) : String :=
  let (code, message) := journalErrorFields failure.error
  "device " ++ failure.deviceId ++ ": " ++ code ++ ": " ++ message

/-- The one failure of a single device stands for itself. -/
def recoveryAttemptsInDoubtError (record : TxJournalRecord) (code lead : String)
    (failures : List RecoveryFailure) : UnderlayError :=
  match record.devices, failures with
  | [_], [failure] => failure.error
  | _, _ => .adapterOperation code
      (lead ++ " transaction " ++ record.txId ++ " for one or more devices: " ++
        "; ".intercalate (failures.map recoveryFailureSummary)) true []

/-- The transactions that a report counts as pending. -/
inductive RecoveryReportScope where
  | allRecoverable
  | attemptedTxIds
  deriving DecidableEq, Repr

/-- The records that a pass takes up. -/
inductive RecoveryRecordGate where
  | anyRecoverable
  | timedOutConfirmedCommit (nowUnixSecs timeoutSecs : ℕ)
  deriving DecidableEq, Repr

def isTimedOutConfirmedCommit (record : TxJournalRecord) (nowUnixSecs timeoutSecs : ℕ) : Bool :=
  record.strategy = some .confirmedCommit &&
    (record.phase = .committing || record.phase = .verifying || record.phase = .finalConfirming ||
      record.phase = .recovering) &&
    max timeoutSecs 1 ≤ nowUnixSecs - record.updatedAtUnixSecs

/-- The gate lets the record pass. -/
def RecoveryRecordGate.matches : RecoveryRecordGate → TxJournalRecord → Bool
  | .anyRecoverable, _ => true
  | .timedOutConfirmedCommit nowUnixSecs timeoutSecs, record =>
      isTimedOutConfirmedCommit record nowUnixSecs timeoutSecs

/-! ## One device -/

def recoveryTransportRetryAttempts : ℕ := 3

/-- Ask the adapter to recover; a transport error is tried again while attempts are left. -/
def recoverWithTransportRetry (device : DeviceInfo) (context : TxContext)
    (strategy : Option TransactionStrategy)
    (action : RecoveryAction) : ℕ → CoreResult AdapterOutcome
  | 0 => throw (.adapterTransport "adapter recover transport failed")
  | attempts + 1 => do
      ExceptT.mk (adapterClient .recovery device.adapterEndpoint)
      match ← ExceptT.lift (adapterCall device context (.recover strategy action)) with
      | .ok outcome => pure outcome
      | .error (.adapterTransport message) =>
          if attempts = 0 then throw (.adapterTransport message)
          else recoverWithTransportRetry device context strategy action attempts
      | .error error => throw error

/-- The phase that the adapter of one device reports. -/
def recoverDevice (record : TxJournalRecord) (context : TxContext) (action : RecoveryAction)
    (deviceId : DeviceId) : CoreResult TxPhase := do
  let managed ← ExceptT.mk (inventoryGet .recovery deviceId)
  let outcome ← recoverWithTransportRetry managed.info context record.strategy action
    recoveryTransportRetryAttempts
  pure (recoverPhaseFromAdapterStatus action outcome.status)

/-- What is left of a final confirmation that was not accepted. -/
def finalConfirmSummary : AdapterAnswer → String
  | .ok outcome => "final confirm returned status " ++ outcome.status.debugName
  | .error error => errorSummary "final confirm" error

/-- Verify the device if the record says what to look for: nothing if the change is there, and
otherwise why it could not be proved. -/
def verifyForRecovery (record : TxJournalRecord) (context : TxContext) (device : DeviceInfo)
    (deviceId : DeviceId) : Core (Option String) :=
  match desiredStateForRecord record deviceId, changeSetForRecord record deviceId with
  | some desired, some changeSet => do
      match ← adapterCall device context (.verify desired changeSet) with
      | .ok verify =>
          if verify.status = .noChange ∨ verify.status = .committed then pure none
          else pure (some ("verify returned status " ++ verify.status.debugName))
      | .error error => pure (some (errorSummary "verify" error))
  | _, _ => pure (some ("journal record " ++ record.txId ++
      " has no desired state or change set for device " ++ deviceId))

/-- The last resort for a device whose confirmation and verification proved nothing. -/
def recoverUnproved (record : TxJournalRecord) (context : TxContext) (device : DeviceInfo)
    (deviceId : DeviceId) (confirmSummary verifySummary : String) : CoreResult TxPhase := do
  match ← ExceptT.lift (recoverWithTransportRetry device context record.strategy .adapterRecover
      recoveryTransportRetryAttempts).run with
  | .ok outcome =>
      let phase := recoverPhaseFromAdapterStatus .adapterRecover outcome.status
      if phase = .committed ∨ phase = .rolledBack then pure phase
      else throw (finalConfirmRecoveryInDoubtError record deviceId confirmSummary verifySummary
        ("adapter recover returned status " ++ outcome.status.debugName))
  | .error error => throw (finalConfirmRecoveryInDoubtError record deviceId confirmSummary
      verifySummary (errorSummary "adapter recover" error))

/-- The phase of one device of a record that crashed while it was being confirmed. -/
def recoverFinalConfirmingDevice (record : TxJournalRecord) (context : TxContext)
    (deviceId : DeviceId) : CoreResult TxPhase := do
  let managed ← ExceptT.mk (inventoryGet .recovery deviceId)
  ExceptT.mk (adapterClient .recovery managed.info.adapterEndpoint)
  let answer ← ExceptT.lift (adapterCall managed.info context .finalConfirm)
  if answer.toOption.any fun outcome => outcome.status = .committed then pure .committed
  else do
    match ← ExceptT.lift (verifyForRecovery record context managed.info deviceId) with
    | none => pure .committed
    | some verifySummary =>
        recoverUnproved record context managed.info deviceId (finalConfirmSummary answer)
          verifySummary

/-! ## All devices of a record -/

/-- What the loop over the devices has gathered. -/
structure RecoveryProgress where
  mergedPhase : Option TxPhase := none
  failures : List RecoveryFailure := []

def RecoveryProgress.add (progress : RecoveryProgress)
    (deviceId : DeviceId) : Except UnderlayError TxPhase → RecoveryProgress
  | .ok phase =>
      { progress with mergedPhase := some (mergeRecoveryPhase progress.mergedPhase phase) }
  | .error error =>
      { mergedPhase := some (mergeRecoveryPhase progress.mergedPhase .inDoubt)
        failures := progress.failures ++ [{ deviceId := deviceId, error := error }] }

/-- One device after the other. -/
def recoverDevices (recoverOne : DeviceId → CoreResult TxPhase) :
    List DeviceId → RecoveryProgress → Core RecoveryProgress
  | [], progress => pure progress
  | deviceId :: rest, progress => do
      let outcome ← (recoverOne deviceId).run
      recoverDevices recoverOne rest (progress.add deviceId outcome)

def RecoveryProgress.conclude (progress : RecoveryProgress) (record : TxJournalRecord)
    (code lead : String) : Except UnderlayError TxPhase :=
  if progress.failures.isEmpty then .ok (progress.mergedPhase.getD .inDoubt)
  else .error (recoveryAttemptsInDoubtError record code lead progress.failures)

def TxJournalRecord.context (record : TxJournalRecord) : TxContext where
  txId := record.txId
  requestId := record.requestId
  traceId := record.traceId

def recoverFinalConfirmingRecord (record : TxJournalRecord) : CoreResult TxPhase :=
  if record.devices.isEmpty then pure .inDoubt
  else do
    let progress ← ExceptT.lift (recoverDevices
      (recoverFinalConfirmingDevice record record.context) record.devices {})
    ExceptT.mk (pure (progress.conclude record "FINAL_CONFIRM_RECOVERY_IN_DOUBT"
      "could not prove final-confirming"))

/-- Recovery of one transaction. -/
def recoverRecord (record : TxJournalRecord) (action : RecoveryAction) : CoreResult TxPhase :=
  if record.phase = .finalConfirming ∧ record.strategy = some .confirmedCommit then
    recoverFinalConfirmingRecord record
  else if record.devices.isEmpty then
    pure (if action = .discardPreparedChanges then .rolledBack else .inDoubt)
  else do
    let progress ← ExceptT.lift (recoverDevices (recoverDevice record record.context action)
      record.devices {})
    ExceptT.mk (pure (progress.conclude record "RECOVERY_ATTEMPT_IN_DOUBT" "could not recover"))

def persistRecoveredShadow (record : TxJournalRecord) : List DeviceId → CoreResult Unit
  | [] => pure ()
  | deviceId :: rest =>
      match desiredStateForRecord record deviceId with
      | none => throw (.invalidDeviceState ("journal record " ++ record.txId ++
          " has no desired state for recovered device " ++ deviceId))
      | some desired => do
          let existing ← ExceptT.mk (shadowGet deviceId)
          let recoveredShadow := match changeSetForRecord record deviceId with
            | some changeSet => changeSet.applyToShadow existing desired 0
            | none => DeviceShadowState.fromDesired desired 0
          ExceptT.mk (shadowPut record.txId recoveredShadow)
          persistRecoveredShadow record rest

/-! ## One candidate -/

/-- Store a record with a new phase. -/
def storePhase (site : PutSite) (record : TxJournalRecord)
    (phase : TxPhase) : CoreResult TxJournalRecord := do
  let updated ← ExceptT.mk (transitionPhase record phase)
  ExceptT.mk (journalPut site updated)
  pure updated

/-- Store `InDoubt` together with the error that led to it. -/
def storeInDoubt (site : PutSite) (recovering : TxJournalRecord)
    (error : UnderlayError) : CoreResult Unit := do
  let (code, message) := journalErrorFields error
  let updated ← ExceptT.mk (transitionPhase recovering .inDoubt)
  let now ← ExceptT.lift nowUnixSecs
  ExceptT.mk (journalPut site (updated.withError code message now))

/-- Store what recovery found out; true if it settled the record. -/
def settleRecovered (record recovering : TxJournalRecord)
    (found : Except UnderlayError TxPhase) : CoreResult Bool :=
  match found with
  | .error error => do
      storeInDoubt .recoveryFailure recovering error
      pure false
  | .ok .committed => do
      match ← ExceptT.lift (persistRecoveredShadow record record.devices).run with
      | .error error => do
          storeInDoubt .recoveredShadowFailure recovering error
          pure false
      | .ok () => do
          let _ ← storePhase .recovered recovering .committed
          pure true
  | .ok phase => do
      let _ ← storePhase .recovered recovering phase
      pure (phase = .rolledBack)

/-- Carry out the action that was decided for a record; true if it settled the record. -/
def carryOut (record : TxJournalRecord) (action : RecoveryAction) : CoreResult Bool :=
  match action with
  | .noop => pure false
  | .manualIntervention =>
      if record.phase = .inDoubt then pure false
      else do
        let _ ← storePhase .manualIntervention record .inDoubt
        pure false
  | .discardPreparedChanges | .adapterRecover => do
      let recovering ← storePhase .recovering record .recovering
      -- the adapter is asked about the record as it was before
      let found ← ExceptT.lift (recoverRecord record action).run
      settleRecovered record recovering found

/-- What the loop over the candidates has gathered. -/
structure RecoveryTally where
  decisions : List RecoveryDecision := []
  attemptedTxIds : BTreeSet String := ∅
  recovered : ℕ := 0

/-- The part of one iteration that runs under the locks. -/
def recoverLocked (gate : RecoveryRecordGate) (txId : String)
    (tally : RecoveryTally) : CoreResult RecoveryTally := do
  match ← ExceptT.mk (journalGet txId) with
  | none => pure tally
  | some record =>
      let decision := classifyRecovery record
      let tally := { tally with decisions := tally.decisions ++ [decision] }
      if record.phase.requiresRecovery && gate.matches record then do
        let tally := { tally with attemptedTxIds := tally.attemptedTxIds.insert record.txId }
        let settled ← carryOut record decision.action
        pure { tally with recovered := tally.recovered + if settled then 1 else 0 }
      else pure tally

/-! ## The endpoint locks -/

/-- The devices in the order in which they are locked, each once. -/
def orderedDeviceIds (deviceIds : List DeviceId) : List DeviceId :=
  (deviceIds.insertionSort (· ≤ ·)).dedup

theorem mem_orderedDeviceIds {deviceIds : List DeviceId} {deviceId : DeviceId} :
    deviceId ∈ orderedDeviceIds deviceIds ↔ deviceId ∈ deviceIds := by
  rw [orderedDeviceIds, List.mem_dedup, List.mem_insertionSort]

def acquireMany : List DeviceId → Core Unit
  | [] => pure ()
  | deviceId :: rest => do
      acquire deviceId
      acquireMany rest

/-- Run a program under the locks of some devices; the guard is dropped however it ends. -/
def underLocks {α : Type} (deviceIds : List DeviceId) (program : CoreResult α) : CoreResult α :=
  ExceptT.mk do
    acquireMany (orderedDeviceIds deviceIds)
    let outcome ← program.run
    release (orderedDeviceIds deviceIds)
    pure outcome

/-! ## The recovery pass -/

def recoverCandidates (gate : RecoveryRecordGate) :
    List TxJournalRecord → RecoveryTally → CoreResult RecoveryTally
  | [], tally => pure tally
  | candidate :: rest, tally => do
      let tally ← underLocks candidate.devices (recoverLocked gate candidate.txId tally)
      recoverCandidates gate rest tally

def recoverRecords (candidates : List TxJournalRecord) (scope : RecoveryReportScope)
    (gate : RecoveryRecordGate) : CoreResult RecoveryReport := do
  let tally ← recoverCandidates gate candidates {}
  let recoverable ← ExceptT.mk listRecoverable
  let pending := match scope with
    | .allRecoverable => recoverable
    | .attemptedTxIds => recoverable.filter fun record => tally.attemptedTxIds.contains record.txId
  pure
    { recovered := tally.recovered
      inDoubt := (pending.filter fun record => record.phase = .inDoubt).length
      pending := pending.length
      txIds := pending.map TxJournalRecord.txId
      decisions := tally.decisions }

/-- Recover what requires it. -/
def recoverPendingTransactions : CoreResult RecoveryReport := do
  let recoverable ← ExceptT.mk listRecoverable
  recoverRecords recoverable .allRecoverable .anyRecoverable

def recoverTimedOutConfirmedCommits (nowUnixSecs timeoutSecs : ℕ) : CoreResult RecoveryReport := do
  let recoverable ← ExceptT.mk listRecoverable
  recoverRecords
    (recoverable.filter fun record => isTimedOutConfirmedCommit record nowUnixSecs timeoutSecs)
    .attemptedTxIds (.timedOutConfirmedCommit nowUnixSecs timeoutSecs)

end AriaUnderlay
