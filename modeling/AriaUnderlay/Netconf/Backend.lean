import AriaUnderlay.Engine.Diff
import AriaUnderlay.Netconf.Device
import AriaUnderlay.Tx.Phase

/-!
# The NETCONF backend

What the adapter does to a device for each request: prepare, commit, final confirm, rollback and
verify.  The renderer of edits, the checksum of a configuration and the comparison of a
configuration with a desired state are parameters.  Closing a session is left out.
-/

namespace AriaUnderlay

open Effect

variable {Config Edit : Type}

abbrev Session (Config Edit : Type) : Type → Type := Program (netconfSignature Config Edit)

abbrev SessionResult (Config Edit : Type) : Type → Type :=
  Result (netconfSignature Config Edit) AdapterError

/-! ## Errors -/

/-- `str` of an exception. -/
def Raised.text : Raised → String
  | .adapter error => error.message
  | .session name message => if message.isEmpty then name else message

/-- The class of an exception. -/
def Raised.name : Raised → String
  | .adapter _ => "AdapterError"
  | .session name _ => name

def adapterErrorFromNcclientException (raised : Raised) : AdapterError :=
  let message := raised.text
  let lowered := message.toLower
  if ["AuthenticationError", "AuthenticationException", "SSHAuthenticationError"].contains
        raised.name ||
      ["authentication failed", "invalid username", "invalid password",
        "bad username or password"].any (containsText lowered) then
    { code := "AUTH_FAILED"
      message := "NETCONF authentication failed"
      normalizedError := "authentication failed"
      rawErrorSummary := message
      retryable := false }
  else if containsText lowered "timed out" || containsText lowered "timeout" then
    { code := "DEVICE_UNREACHABLE"
      message := "NETCONF connection timed out"
      normalizedError := "device unreachable"
      rawErrorSummary := message
      retryable := true }
  else
    { code := "NETCONF_CONNECT_FAILED"
      message := "NETCONF connection failed"
      normalizedError := "netconf connect failed"
      rawErrorSummary := message
      retryable := true }

/-- The error of one operation. -/
def adapterOperationError (code message : String) (retryable : Bool)
    (raised : Raised) : AdapterError where
  code := code
  message := message
  normalizedError := message.toLower
  rawErrorSummary := raised.text
  retryable := retryable

/-- The summary that is appended to, or the message if there is none. -/
def AdapterError.raw (error : AdapterError) : String :=
  if error.rawErrorSummary.isEmpty then error.message else error.rawErrorSummary

/-- Attach the error of a clean-up. -/
def appendSecondaryError (original : AdapterError) (operation : String)
    (secondary : AdapterError) : AdapterError :=
  { original with
    rawErrorSummary := original.raw ++ "; " ++ operation ++ " also failed: " ++ secondary.raw }

/-! ## Operations of a session -/

def perform (op : NetconfOp Edit) : Session Config Edit (Except Raised (op.Value Config)) :=
  @Program.perform (netconfSignature Config Edit) op

/-- Perform an operation and turn what it raises into an error of the adapter. -/
def performOr (op : NetconfOp Edit)
    (convert : Raised → AdapterError) : SessionResult Config Edit (op.Value Config) :=
  ExceptT.mk do
    let answer ← perform op
    pure (answer.mapError convert)

/-- Errors of the adapter are passed on, others are converted. -/
def orElse (convert : Raised → AdapterError) : Raised → AdapterError
  | .adapter error => error
  | raised => convert raised

def lockCandidate : SessionResult Config Edit Unit :=
  performOr .lockCandidate
    (adapterOperationError "NETCONF_LOCK_FAILED" "NETCONF candidate lock failed" true)

def unlockCandidate : SessionResult Config Edit Unit :=
  performOr .unlockCandidate
    (adapterOperationError "NETCONF_UNLOCK_FAILED" "NETCONF candidate unlock failed" true)

/-- Discard the candidate. -/
def discardCandidate : SessionResult Config Edit Unit :=
  performOr .discardChanges
    (adapterOperationError "NETCONF_DISCARD_FAILED" "NETCONF discard-changes failed" true)

/-- Discard the candidate on the way out with an error. -/
def discardCandidatePreservingError (original : AdapterError) :
    Session Config Edit AdapterError := do
  match ← discardCandidate.run with
  | .ok _ => pure original
  | .error discardError => pure (appendSecondaryError original "discard-changes" discardError)

def validateCandidate : SessionResult Config Edit Unit :=
  performOr .validateCandidate
    (adapterOperationError "NETCONF_VALIDATE_FAILED" "NETCONF candidate validate failed" false)

def readCandidate : SessionResult Config Edit Config :=
  performOr .readCandidate (adapterOperationError "NETCONF_GET_CANDIDATE_CONFIG_FAILED"
    "NETCONF get-config candidate failed" true)

/-- How a desired state becomes an edit. -/
structure ConfigRenderer (Edit : Type) where
  productionReady : Bool
  renderEditConfig : DeviceDesiredState → Except Raised Edit
  isBlank : Edit → Bool

/-- What the backend is configured with. -/
structure NetconfBackend (Config Edit : Type) where
  configRenderer : Option (ConfigRenderer Edit)
  checksum : Config → String
  /-- Whether a change leaves nothing to verify. -/
  scopeIsEmpty : ChangeSet → Bool
  /-- Compare the part of a configuration that a change touches with a desired state. -/
  compare : DeviceDesiredState → ChangeSet → Config → Except AdapterError Unit

namespace NetconfBackend

variable (backend : NetconfBackend Config Edit)

/-- The edit for a desired state. -/
def renderCandidateConfig (desired : DeviceDesiredState) : Except AdapterError Edit :=
  match backend.configRenderer with
  | none => .error
      { code := "NETCONF_RENDERER_NOT_CONFIGURED"
        message := "NETCONF edit-config renderer is not configured"
        normalizedError := "edit-config renderer missing"
        rawErrorSummary := "candidate lock is wired; production renderer is required before " ++
          "edit-config"
        retryable := false }
  | some renderer =>
      if !renderer.productionReady then .error
        { code := "NETCONF_RENDERER_NOT_PRODUCTION_READY"
          message := "NETCONF edit-config renderer is not production ready"
          normalizedError := "edit-config renderer not production ready"
          rawErrorSummary := "renderer exists but is still a skeleton or test renderer; " ++
            "refusing real edit-config"
          retryable := false }
      else
        match renderer.renderEditConfig desired with
        | .error raised => .error (orElse (adapterOperationError "NETCONF_RENDERER_FAILED"
            "NETCONF edit-config renderer failed" false) raised)
        | .ok edit =>
            if renderer.isBlank edit then .error
              { code := "NETCONF_EMPTY_RENDERED_CONFIG"
                message := "NETCONF edit-config renderer returned empty config"
                normalizedError := "empty rendered config"
                rawErrorSummary := "renderer output was empty"
                retryable := false }
            else .ok edit

/-- Render and edit the candidate. -/
def editCandidate (author : String)
    (desired : DeviceDesiredState) : SessionResult Config Edit Unit := do
  let edit ← ExceptT.mk (pure (backend.renderCandidateConfig desired))
  performOr (.editCandidate author edit)
    (adapterOperationError "NETCONF_EDIT_CONFIG_FAILED" "NETCONF edit-config failed" false)

def candidateChecksum : SessionResult Config Edit String := do
  let config ← readCandidate
  pure (backend.checksum config)

/-! ## Prepare -/

def prepareStrategyUnsupported (message raw : String) : AdapterError where
  code := "NETCONF_PREPARE_STRATEGY_UNSUPPORTED"
  message := message
  normalizedError := "prepare strategy unsupported"
  rawErrorSummary := raw
  retryable := false

/-- The device has a candidate. -/
def ensurePrepareSupported (capability : NetconfCapabilities) : Except AdapterError Unit :=
  if !capability.supportsCandidate && capability.supportsWritableRunning &&
      capability.supportsRollbackOnError then
    .error (prepareStrategyUnsupported "NETCONF prepare requires rollback after successful prepare"
      ("writable-running rollback-on-error cannot provide post-prepare " ++
        "rollback for multi-device transaction compensation"))
  else if !capability.supportsCandidate then
    .error (prepareStrategyUnsupported
      "NETCONF prepare requires candidate or writable-running rollback-on-error"
      ("device lacks candidate and rollback-on-error writable-running " ++ "capabilities"))
  else .ok ()

/-- The edits of a preparation, up to the checksum of the result. -/
def editAndCheck (author : String)
    (desired : DeviceDesiredState) : SessionResult Config Edit String := do
  backend.editCandidate author desired
  validateCandidate
  backend.candidateChecksum

/-- Leave a locked candidate with an error. -/
def unlockWithError (original : AdapterError) : SessionResult Config Edit String := do
  match ← ExceptT.lift unlockCandidate.run with
  | .ok _ => throw original
  | .error unlockError => throw (appendSecondaryError original "unlock" unlockError)

/-- The part of a preparation under the lock. -/
def prepareLocked (author : String)
    (desired : DeviceDesiredState) : SessionResult Config Edit String := do
  match ← ExceptT.lift (backend.editAndCheck author desired).run with
  | .error original => do
      let original ← ExceptT.lift (discardCandidatePreservingError original)
      unlockWithError original
  | .ok checksum => do
      match ← ExceptT.lift unlockCandidate.run with
      | .ok _ => pure checksum
      | .error unlockError => do
          let error ← ExceptT.lift (discardCandidatePreservingError unlockError)
          throw error

def prepareCandidate (author : String)
    (desired : DeviceDesiredState) : SessionResult Config Edit String := do
  let capability ← performOr .connect (orElse adapterErrorFromNcclientException)
  ExceptT.mk (pure (ensurePrepareSupported capability))
  lockCandidate
  backend.prepareLocked author desired

/-! ## Commit -/

def missingTxId (message raw : String) : AdapterError where
  code := "MISSING_TX_ID"
  message := message
  normalizedError := "tx_id missing"
  rawErrorSummary := raw
  retryable := false

/-- The error of a timeout of zero. -/
def invalidConfirmTimeout (confirmTimeoutSecs : ℕ) : AdapterError where
  code := "NETCONF_INVALID_CONFIRM_TIMEOUT"
  message := "NETCONF confirmed-commit timeout must be a positive integer"
  normalizedError := "invalid confirmed commit timeout"
  rawErrorSummary := "confirm_timeout_secs=" ++ toString confirmTimeoutSecs
  retryable := false

def candidateChanged (prepared current : String) : AdapterError where
  code := "NETCONF_CANDIDATE_CHANGED"
  message := "NETCONF candidate changed after prepare"
  normalizedError := "candidate changed after prepare"
  rawErrorSummary := "prepared_candidate_checksum=" ++ prepared ++
    ", current_candidate_checksum=" ++ current
  retryable := false

/-- The number of a strategy in a request. -/
def strategyToProto : Option TransactionStrategy → ℕ
  | none => 0
  | some .confirmedCommit => 1
  | some .candidateCommit => 2
  | some .runningRollbackOnError => 3
  | some .bestEffortCli => 4
  | some .unsupported => 100

def strategyUnsupported (code message normalized : String) (strategy : Option TransactionStrategy)
    (txId : String) : AdapterError where
  code := code
  message := message
  normalizedError := normalized
  rawErrorSummary := "strategy=" ++ toString (strategyToProto strategy) ++ ", tx_id=" ++ txId
  retryable := false

def verifyPreparedCandidateChecksum (prepared : String) : SessionResult Config Edit Unit := do
  let current ← backend.candidateChecksum
  if current = prepared then pure () else throw (candidateChanged prepared current)

/-- The commit, confirmed or not. -/
def commitCandidateSession (strategy : Option TransactionStrategy)
    (txId : String) : SessionResult Config Edit Unit :=
  if strategy = some .confirmedCommit then
    performOr (.commitConfirmed txId) (adapterOperationError "NETCONF_CONFIRMED_COMMIT_FAILED"
      "NETCONF confirmed-commit failed" true)
  else
    performOr .commit
      (adapterOperationError "NETCONF_COMMIT_FAILED" "NETCONF candidate commit failed" true)

/-- Validate and commit a candidate that has passed its check. -/
def validateAndCommit (strategy : Option TransactionStrategy)
    (txId : String) : SessionResult Config Edit Unit := do
  validateCandidate
  commitCandidateSession strategy txId

/-- Leave a commit that failed; the candidate is discarded only if it is known to be ours. -/
def abandonCommit (discardOnError : Bool)
    (original : AdapterError) : SessionResult Config Edit (List String) := do
  let original ← ExceptT.lift
    (if discardOnError then discardCandidatePreservingError original else pure original)
  match ← ExceptT.lift unlockCandidate.run with
  | .ok _ => throw original
  | .error unlockError => throw (appendSecondaryError original "unlock" unlockError)

/-- Leave a commit that succeeded; a failed unlock is only a warning. -/
def concludeCommit : SessionResult Config Edit (List String) := do
  match ← ExceptT.lift unlockCandidate.run with
  | .ok _ => pure []
  | .error unlockError =>
      pure ["candidate commit completed, but candidate unlock failed: " ++ unlockError.raw]

def commitLockedCandidate (strategy : Option TransactionStrategy) (txId : String)
    (preparedCandidateChecksum : Option String) : SessionResult Config Edit (List String) := do
  lockCandidate
  match preparedCandidateChecksum.filter fun checksum => !checksum.isEmpty with
  | some checksum => do
      match ← ExceptT.lift (backend.verifyPreparedCandidateChecksum checksum).run with
      | .error original => abandonCommit false original
      | .ok _ => do
          match ← ExceptT.lift (validateAndCommit strategy txId).run with
          | .error original => abandonCommit true original
          | .ok _ => concludeCommit
  | none => do
      match ← ExceptT.lift (validateAndCommit strategy txId).run with
      | .error original => abandonCommit preparedCandidateChecksum.isNone original
      | .ok _ => concludeCommit

/-- The checks that a confirmed commit makes before it connects. -/
def ensureConfirmable (strategy : Option TransactionStrategy) (txId : String)
    (confirmTimeoutSecs : ℕ) : Except AdapterError Unit :=
  if strategy = some .confirmedCommit then
    if txId.isEmpty then .error (missingTxId
      "NETCONF confirmed-commit requires tx_id as persist token"
      "CommitRequest.context.tx_id is empty")
    else if confirmTimeoutSecs = 0 then .error (invalidConfirmTimeout confirmTimeoutSecs)
    else .ok ()
  else .ok ()

/-- The commit of a transaction. -/
def commitCandidate (strategy : Option TransactionStrategy) (txId : String) (confirmTimeoutSecs : ℕ)
    (preparedCandidateChecksum : Option String) : SessionResult Config Edit (List String) := do
  ExceptT.mk (pure (ensureConfirmable strategy txId confirmTimeoutSecs))
  if strategy = some .runningRollbackOnError then pure []
  else if strategy = some .confirmedCommit ∨ strategy = some .candidateCommit then do
    let _ ← performOr .connect (orElse adapterErrorFromNcclientException)
    backend.commitLockedCandidate strategy txId preparedCandidateChecksum
  else throw (strategyUnsupported "NETCONF_COMMIT_STRATEGY_UNSUPPORTED"
    "NETCONF commit strategy is unsupported" "unsupported commit strategy" strategy txId)

/-! ## Confirm, roll back and verify -/

def finalConfirm (txId : String) : SessionResult Config Edit Unit :=
  if txId.isEmpty then throw (missingTxId
    "NETCONF final confirm requires tx_id as persist-id"
    "FinalConfirmRequest.context.tx_id is empty")
  else do
    let convert := orElse (adapterOperationError "NETCONF_FINAL_CONFIRM_FAILED"
      "NETCONF final confirm failed" true)
    let _ ← performOr .connect convert
    performOr (.confirmCommit txId) convert

def rollbackCandidate (strategy : Option TransactionStrategy)
    (txId : String) : SessionResult Config Edit Unit :=
  if strategy = some .confirmedCommit then
    if txId.isEmpty then throw (missingTxId
      "NETCONF cancel-commit requires tx_id as persist-id"
      "RollbackRequest.context.tx_id is empty")
    else do
      let convert := orElse (adapterOperationError "NETCONF_CANCEL_COMMIT_FAILED"
        "NETCONF cancel-commit failed" true)
      let _ ← performOr .connect convert
      performOr (.cancelCommit txId) convert
  else if strategy = some .candidateCommit then do
    let convert := orElse (adapterOperationError "NETCONF_DISCARD_FAILED"
      "NETCONF discard-changes failed" true)
    let _ ← performOr .connect convert
    performOr .discardChanges convert
  else throw (strategyUnsupported "NETCONF_ROLLBACK_STRATEGY_UNSUPPORTED"
    "NETCONF rollback strategy is unsupported" "unsupported rollback strategy" strategy txId)

def verifyRunning (desired : DeviceDesiredState)
    (changeSet : ChangeSet) : SessionResult Config Edit Unit :=
  if backend.scopeIsEmpty changeSet then pure ()
  else do
    let _ ← performOr .connect (orElse adapterErrorFromNcclientException)
    let config ← performOr .readRunning (adapterOperationError "NETCONF_GET_CONFIG_FAILED"
      "NETCONF get-config running failed" true)
    ExceptT.mk (pure (backend.compare desired changeSet config))

end NetconfBackend

end AriaUnderlay
