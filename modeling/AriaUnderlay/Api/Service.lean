import AriaUnderlay.Api.ApplyCompensation
import AriaUnderlay.Api.ApplyRecords
import AriaUnderlay.Effect.Sum
import AriaUnderlay.Intent.SwitchPair

/-!
# The service

The requests that apply an intent, as the service carries them out around the coordinators.  An
apply of a domain takes the locks of its scope, looks its idempotency key up and calls the apply
coordinator only if the key has no record yet.

The service calls what the coordinators call and, besides, its own lock tables, the registry of
idempotency slots and two record stores.  The fingerprint of a payload is its serialization, which
is injective, and is represented by the payload.  A poisoned lock is left out.
-/

namespace AriaUnderlay

open Collections Effect

/-! ## Idempotency records -/

/-- What an idempotency key stands for. -/
structure ApplyDomainIdempotencyPayload where
  intent : UnderlayDomainIntent
  options : ApplyOptions
  deriving DecidableEq

/-- The response that is kept under a key. -/
structure ApplyIdempotencyRecord where
  storedAtUnixSecs : ℕ
  fingerprint : ApplyDomainIdempotencyPayload
  response : ApplyIntentResponse
  deriving DecidableEq

def ApplyDomainIntentRequest.fingerprint (request : ApplyDomainIntentRequest) :
    ApplyDomainIdempotencyPayload :=
  ⟨request.intent, request.options⟩

/-- How long a key may be. -/
def maxIdempotencyKeyBytes : ℕ := 125

/-- A key without blanks around it. -/
def normalizeIdempotencyKey (key : String) : Except UnderlayError String := do
  let key := trim key
  refuseIf (key = "") (.invalidIntent "idempotency_key must not be empty")
  refuseIf (key.utf8ByteSize > maxIdempotencyKeyBytes)
    (.invalidIntent ("idempotency_key must be at most " ++ toString maxIdempotencyKeyBytes
      ++ " bytes after trimming; got " ++ toString key.utf8ByteSize ++ " bytes"))
  return key

def idempotencyPayloadMismatchError (key : String) : UnderlayError :=
  .invalidIntent ("idempotency_key " ++ debugPath key
    ++ " was already used with a different apply payload")

/-! ## Calls -/

/-- The calls of the service besides those of the coordinators.  `coordinatorCalled` and
`coordinatorReturned` change nothing: they mark the moments at which an apply of a domain enters and
leaves the apply coordinator. -/
inductive ServiceOp where
  | lockScope (key : String)
  | unlockScopes (keys : List String)
  | findSlot (key : String)
  | getRecord (key : String)
  | insertSlot (key : String) (stored : Option ApplyIdempotencyRecord)
  | lockSlot (key : String)
  | fillSlot (key : String) (record : ApplyIdempotencyRecord)
  | unlockSlot (key : String)
  | putRecord (key : String) (record : ApplyIdempotencyRecord)
  | putApplyRecord (record : DomainApplyRecord)
  | getApplyRecord (requestId : String)
  | coordinatorCalled (request : ApplyDomainIntentRequest)
  | coordinatorReturned

/-- What these calls return. -/
def ServiceOp.Answer : ServiceOp → Type
  | .findSlot _ => Bool
  | .getRecord _ => Except UnderlayError (Option ApplyIdempotencyRecord)
  | .lockSlot _ => Option ApplyIdempotencyRecord
  | .putRecord _ _ | .putApplyRecord _ => Except UnderlayError Unit
  | .getApplyRecord _ => Except UnderlayError (Option DomainApplyRecord)
  | _ => Unit

/-- The calls with their answers. -/
def hostSignature : Signature where
  Op := ServiceOp
  Answer := ServiceOp.Answer

abbrev serviceSignature : Signature :=
  coreSignature.sum hostSignature

/-- Programs of the service. -/
abbrev Service : Type → Type := Program serviceSignature

abbrev ServiceResult : Type → Type := Result serviceSignature UnderlayError

/-- A program of the coordinators. -/
def coordinate {α : Type} (program : Core α) : Service α :=
  program.inLeft hostSignature

def host (op : ServiceOp) : Service op.Answer :=
  @Program.perform serviceSignature (.inr op)

/-! ## The locks of a scope -/

def normalizedLockComponent (field value : String) : Except UnderlayError String := do
  let value := trim value
  refuseIf (value = "") (.invalidIntent (field ++ " must not be empty"))
  refuseIf (':' ∈ value.toList) (.invalidIntent (field ++ " must not contain ':'"))
  return value

/-- The locks that a request needs. -/
def applyScopeLockKeys (request : ApplyDomainIntentRequest) :
    Except UnderlayError (List String) := do
  let domainId ← normalizedLockComponent "domain_id" request.intent.domainId
  let domainKey := "domain:" ++ domainId
  match request.options.lockScope with
  | .domain => return [domainKey]
  | .region =>
      match request.options.regionId with
      | none =>
          .error (.invalidIntent "ApplyOptions.region_id is required when lock_scope is Region")
      | some regionId =>
          let region ← normalizedLockComponent "region_id" regionId
          return [domainKey, "region:" ++ region]
  | .switchPair =>
      let keys ← request.intent.endpoints.mapM fun endpoint => do
        let endpointId ← normalizedLockComponent "management endpoint_id" endpoint.endpointId
        return "switch_pair:" ++ domainId ++ ":" ++ endpointId
      refuseIf (keys = [])
        (.invalidIntent "switch_pair lock scope requires at least one management endpoint")
      return (((keys ++ [domainKey]).mergeSort fun left right => left ≤ right).dedup)

def normalizeScopeKey (value : String) : Except UnderlayError String := do
  let value := trim value
  refuseIf (value = "") (.invalidIntent "apply lock scope key must not be empty")
  return value

/-- The keys in the order in which they are locked, each once. -/
def normalizeScopeKeys (keys : List String) : Except UnderlayError (List String) := do
  let keys ← keys.mapM normalizeScopeKey
  refuseIf (keys = []) (.invalidIntent "apply lock scope must include at least one key")
  return (.ofList keys : BTreeSet String).toList

def lockScopes : List String → Service Unit
  | [] => pure ()
  | key :: rest => do
      host (.lockScope key)
      lockScopes rest

/-- Run a program under the locks of some keys; the guard is dropped however it ends. -/
def underScopeLocks {α : Type} (keys : List String) (program : ServiceResult α) : ServiceResult α :=
  ExceptT.mk do
    lockScopes keys
    let outcome ← program.run
    host (.unlockScopes keys)
    pure outcome

/-! ## Idempotency slots -/

/-- Make sure that the registry has a slot for the key. -/
def slot (key : String) : ServiceResult Unit := do
  let found : Bool ← ExceptT.lift (host (.findSlot key))
  if found then pure ()
  else do
    let stored : Option ApplyIdempotencyRecord ← ExceptT.mk (host (.getRecord key))
    ExceptT.lift (host (.insertSlot key stored))

/-- Run a program that sees the content of a slot, under the lock of the slot. -/
def underSlotLock {α : Type} (key : String)
    (program : Option ApplyIdempotencyRecord → ServiceResult α) : ServiceResult α :=
  ExceptT.mk do
    let record : Option ApplyIdempotencyRecord ← host (.lockSlot key)
    let outcome ← (program record).run
    host (.unlockSlot key)
    pure outcome

def annotateApplyIdempotencyResponse (response : ApplyIntentResponse)
    (requestId traceId idempotencyKey : String) (reused : Bool) : ApplyIntentResponse :=
  { response with
    requestId := requestId
    traceId := traceId
    idempotencyKey := some idempotencyKey
    reused := reused }

/-! ## Apply of a domain -/

/-- Add a warning about a record that could not be stored. -/
def ApplyIntentResponse.warnUnstored (response : ApplyIntentResponse) (subject : String)
    (error : UnderlayError) : ApplyIntentResponse :=
  { response with
    warnings := response.warnings ++ [subject ++ " persistence failed: " ++ error.display] }

def persistDomainApplyRecord (request : ApplyDomainIntentRequest)
    (response : ApplyIntentResponse) : Service ApplyIntentResponse := do
  let now ← coordinate nowUnixSecs
  let stored : Except UnderlayError Unit ←
    host (.putApplyRecord (DomainApplyRecord.new request response now))
  match stored with
  | .ok () => pure response
  | .error error => pure (response.warnUnstored "domain apply record" error)

/-- Keep the response under the idempotency key, in the store and in the slot. -/
def storeIdempotencyRecord (key : String) (fingerprint : ApplyDomainIdempotencyPayload)
    (response : ApplyIntentResponse) : Service ApplyIntentResponse := do
  let now ← coordinate nowUnixSecs
  let record : ApplyIdempotencyRecord := ⟨now, fingerprint, response⟩
  let stored : Except UnderlayError Unit ← host (.putRecord key record)
  match stored with
  | .ok () => do
      host (.fillSlot key record)
      pure response
  | .error error => pure (response.warnUnstored "idempotency record" error)

variable (confirmedCommitTimeoutSecs : ℕ)

def callApplyCoordinator (request : ApplyDomainIntentRequest) (traceId : String)
    (desiredStates : List DeviceDesiredState) : Service ApplyIntentResponse := do
  host (.coordinatorCalled request)
  let deviceResults ← coordinate (applyDesiredStates confirmedCommitTimeoutSecs request.requestId
    traceId request.options.allowDegradedAtomicity request.options.driftPolicy desiredStates)
  host .coordinatorReturned
  pure (applyResponse request.requestId traceId deviceResults)

/-- The apply of a request whose idempotency key has this record. -/
def applyWithKey (request : ApplyDomainIntentRequest) (traceId key : String)
    (desiredStates : List DeviceDesiredState)
    (record : Option ApplyIdempotencyRecord) : ServiceResult ApplyIntentResponse :=
  match record with
  | some record =>
      if record.fingerprint ≠ request.fingerprint then
        throw (idempotencyPayloadMismatchError key)
      else
        pure (annotateApplyIdempotencyResponse record.response request.requestId traceId key true)
  | none => ExceptT.lift do
      let response ← callApplyCoordinator confirmedCommitTimeoutSecs request traceId desiredStates
      let response := annotateApplyIdempotencyResponse response request.requestId traceId key false
      let response ← persistDomainApplyRecord request response
      storeIdempotencyRecord key request.fingerprint response

/-- The part of an apply that runs under the locks of the scope. -/
def applyLocked (request : ApplyDomainIntentRequest) : ServiceResult ApplyIntentResponse := do
  let traceId := request.traceId.getD request.requestId
  let key ← ExceptT.mk (pure (request.idempotencyKey.mapM normalizeIdempotencyKey))
  let desiredStates ← ExceptT.mk (pure (planUnderlayDomain request.intent))
  match key with
  | some key => do
      slot key
      underSlotLock key
        (applyWithKey confirmedCommitTimeoutSecs request traceId key desiredStates)
  | none => ExceptT.lift do
      let response ← callApplyCoordinator confirmedCommitTimeoutSecs request traceId desiredStates
      persistDomainApplyRecord request response

def applyDomainIntent (request : ApplyDomainIntentRequest) : ServiceResult ApplyIntentResponse := do
  let keys ← ExceptT.mk (pure (applyScopeLockKeys request))
  let keys ← ExceptT.mk (pure (normalizeScopeKeys keys))
  underScopeLocks keys (applyLocked confirmedCommitTimeoutSecs request)

/-! ## Retry of failed endpoints -/

/-- The request to retry failed endpoints. -/
structure RetryFailedDomainEndpointsRequest where
  requestId : String
  traceId : Option String
  originalRequestId : String
  endpointIds : List DeviceId
  idempotencyKey : Option String
  deriving DecidableEq, Repr

/-- The text is more than blanks. -/
def validateRequestField (field value : String) : Except UnderlayError Unit :=
  refuseIf (trim value = "") (.invalidIntent (field ++ " must not be empty"))

/-- The record of an earlier apply. -/
def domainApplyRecord (requestId : String) : ServiceResult DomainApplyRecord := do
  ExceptT.mk (pure (validateRequestField "domain apply request_id" requestId))
  let found : Option DomainApplyRecord ← ExceptT.mk (host (.getApplyRecord requestId))
  match found with
  | some record => pure record
  | none => throw (.invalidIntent ("domain apply record " ++ requestId ++ " was not found"))

def retryFailedDomainEndpoints (request : RetryFailedDomainEndpointsRequest) :
    ServiceResult ApplyIntentResponse := do
  ExceptT.mk (pure (validateRequestField "retry failed endpoint request_id" request.requestId))
  ExceptT.mk (pure (validateRequestField "retry failed endpoint original_request_id"
    request.originalRequestId))
  let record ← domainApplyRecord request.originalRequestId
  let endpointIds ←
    ExceptT.mk (pure (selectRetryableFailedEndpoints record request.endpointIds))
  let intent ←
    ExceptT.mk (pure (filterDomainIntentToEndpoints record.request.intent endpointIds))
  applyDomainIntent confirmedCommitTimeoutSecs
    { requestId := request.requestId
      traceId := request.traceId
      idempotencyKey := request.idempotencyKey
      intent := intent
      options := record.request.options }

/-! ## Apply of a switch pair -/

/-- The request to apply the intent of a switch pair. -/
structure ApplyIntentRequest where
  requestId : String
  traceId : Option String
  intent : SwitchPairIntent
  options : ApplyOptions
  deriving DecidableEq, Repr

def applyIntent (request : ApplyIntentRequest) : CoreResult ApplyIntentResponse := do
  ExceptT.mk (pure (validateSwitchPairIntent request.intent))
  let traceId := request.traceId.getD request.requestId
  let deviceResults ← ExceptT.lift (applyDesiredStates confirmedCommitTimeoutSecs request.requestId
    traceId request.options.allowDegradedAtomicity request.options.driftPolicy
    (planSwitchPair request.intent))
  pure (applyResponse request.requestId traceId deviceResults)

end AriaUnderlay
