import AriaUnderlay.Api.RecoveryCoordinator
import AriaUnderlay.Model.Text

/-!
# Force resolve

An operator closes a transaction that recovery could not settle.  The event that announces it is
left out.
-/

namespace AriaUnderlay

open Collections Effect

/-- The request to resolve a transaction by hand. -/
structure ForceResolveTransactionRequest where
  requestId : String
  traceId : Option String
  txId : String
  operator : String
  reason : String
  breakGlassEnabled : Bool
  deriving DecidableEq, Repr

/-- What is reported of the resolution. -/
structure ForceResolveTransactionResponse where
  txId : String
  previousPhase : TxPhase
  resolvedPhase : TxPhase
  devices : List DeviceId
  resolved : Bool
  warnings : List String
  deriving DecidableEq, Repr

/-- The field must hold more than blanks. -/
def requireField (name value : String) : Except UnderlayError Unit :=
  if (trim value).isEmpty then .error (.invalidIntent ("force resolve requires " ++ name))
  else .ok ()

def validateForceResolveRequest
    (request : ForceResolveTransactionRequest) : Except UnderlayError Unit := do
  requireField "tx_id" request.txId
  requireField "operator" request.operator
  requireField "reason" request.reason
  if !request.breakGlassEnabled then
    .error (.adapterOperation "FORCE_RESOLVE_BREAK_GLASS_REQUIRED"
      "break-glass must be enabled to force resolve an in-doubt transaction" false [])
  else .ok ()

def transactionNotFound (txId : String) : UnderlayError :=
  .adapterOperation "TX_NOT_FOUND" ("transaction " ++ txId ++ " was not found") false []

def transactionNotInDoubt (record : TxJournalRecord) : UnderlayError :=
  .adapterOperation "TX_NOT_IN_DOUBT"
    ("transaction " ++ record.txId ++ " is " ++ record.phase.debugName ++ ", not InDoubt") false []

def productAuditError : UnderlayError → UnderlayError
  | .productAuditWriteFailed message => .productAuditWriteFailed message
  | other => .productAuditWriteFailed other.display

def ProductAuditRecord.forceResolveRequested (requestId traceId txId operatorId reason : String)
    (now : ℕ) : ProductAuditRecord where
  requestId := requestId
  traceId := traceId
  action := "transaction.force_resolve_requested"
  result := "authorized"
  txId := some txId
  deviceId := none
  operatorId := some operatorId
  reason := some reason
  attentionRequired := false
  errorCode := none
  errorMessage := none
  fields := ∅
  appendedAtUnixSecs := now

/-- The record of a transaction, which has to exist. -/
def existingRecord (txId : String) : CoreResult TxJournalRecord := do
  match ← ExceptT.mk (journalGet txId) with
  | some record => pure record
  | none => throw (transactionNotFound txId)

/-- Append an audit record. -/
def appendAudit (record : ProductAuditRecord) : Core (Except UnderlayError Unit) := do
  let appended ← productAuditAppend record
  pure (appended.mapError productAuditError)

/-- The part of a force resolve that runs under the locks. -/
def forceResolveLocked
    (request : ForceResolveTransactionRequest) : CoreResult ForceResolveTransactionResponse := do
  let traceId := request.traceId.getD request.requestId
  let record ← existingRecord request.txId
  if record.phase ≠ .inDoubt then throw (transactionNotInDoubt record)
  else do
    let authorization ← ExceptT.mk (authorize
      { requestId := request.requestId
        traceId := traceId
        operatorId := request.operator
        action := .forceResolveTransaction })
    let auditedAt ← ExceptT.lift nowUnixSecs
    ExceptT.mk (appendAudit (.forceResolveRequested request.requestId traceId record.txId
      authorization.operatorId request.reason auditedAt))
    let resolvedAt ← ExceptT.lift nowUnixSecs
    let resolved := record.withManualResolution request.operator request.reason request.requestId
      traceId resolvedAt
    let _ ← storePhase .forceResolved resolved .forceResolved
    pure
      { txId := record.txId
        previousPhase := record.phase
        resolvedPhase := .forceResolved
        devices := record.devices
        resolved := true
        warnings := [] }

def forceResolveTransaction
    (request : ForceResolveTransactionRequest) : CoreResult ForceResolveTransactionResponse := do
  ExceptT.mk (pure (validateForceResolveRequest request))
  let candidate ← existingRecord request.txId
  underLocks candidate.devices (forceResolveLocked request)

end AriaUnderlay
