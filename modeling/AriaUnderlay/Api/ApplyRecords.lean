import AriaUnderlay.Api.RecoveryCoordinator
import AriaUnderlay.Api.Requests
import AriaUnderlay.Intent.Validation

/-!
# Records of applies

The service keeps a record of every apply of a domain.  The compensation plan sorts its endpoints by
what can be done about them, and a retry selects failed endpoints from it.
-/

namespace AriaUnderlay

open Collections Effect

/-! ## The record of an apply and its compensation plan -/

/-- A request with its response. -/
structure DomainApplyRecord where
  request : ApplyDomainIntentRequest
  response : ApplyIntentResponse
  domainId : String
  createdAtUnixSecs : ℕ
  updatedAtUnixSecs : ℕ

/-- The record of a response. -/
def DomainApplyRecord.new (request : ApplyDomainIntentRequest) (response : ApplyIntentResponse)
    (now : ℕ) : DomainApplyRecord where
  request := request
  response := response
  domainId := request.intent.domainId
  createdAtUnixSecs := now
  updatedAtUnixSecs := now

/-- What can be done about an earlier apply. -/
structure DomainApplyCompensationPlan where
  originalRequestId : String
  originalTraceId : String
  domainId : String
  status : ApplyStatus
  retryableFailed : List DeviceId
  requiresRecovery : List DeviceId
  completed : List DeviceId

/-- The devices whose result has one of these statuses. -/
def devicesWith (wanted : ApplyStatus → Bool) (results : List DeviceApplyResult) : List DeviceId :=
  (results.filter fun result => wanted result.status).map DeviceApplyResult.deviceId

def ApplyStatus.isRetryable : ApplyStatus → Bool
  | .failed | .rolledBack => true
  | _ => false

def DomainApplyCompensationPlan.fromRecord (record : DomainApplyRecord) :
    DomainApplyCompensationPlan where
  originalRequestId := record.request.requestId
  originalTraceId := record.request.traceId.getD record.request.requestId
  domainId := record.domainId
  status := record.response.status
  retryableFailed := devicesWith ApplyStatus.isRetryable record.response.deviceResults
  requiresRecovery := devicesWith (· = .inDoubt) record.response.deviceResults
  completed := devicesWith ApplyStatus.isSuccess record.response.deviceResults

/-- All failed endpoints when none is named, and otherwise the named ones if all of them failed. -/
def chooseEndpoints (record : DomainApplyRecord)
    (explicitEndpointIds : List DeviceId) : Except UnderlayError (List DeviceId) :=
  let retryable := (DomainApplyCompensationPlan.fromRecord record).retryableFailed
  if explicitEndpointIds = [] then .ok retryable
  else do
    explicitEndpointIds.forM fun endpointId =>
      invalidIf (endpointId ∉ retryable)
        ("endpoint " ++ endpointId ++ " is not a terminal failed endpoint for original request "
          ++ record.request.requestId)
    pure (orderedDeviceIds explicitEndpointIds)

/-- The endpoints of a retry. -/
def selectRetryableFailedEndpoints (record : DomainApplyRecord)
    (explicitEndpointIds : List DeviceId) : Except UnderlayError (List DeviceId) := do
  let selected ← chooseEndpoints record explicitEndpointIds
  invalidIf (selected = [])
    ("original request " ++ record.request.requestId
      ++ " has no terminal failed endpoints to retry")
  return selected

/-- What is selected failed, and there is something to retry. -/
theorem selectRetryableFailedEndpoints_ok {record : DomainApplyRecord}
    {explicitEndpointIds selected : List DeviceId}
    (isSelection : selectRetryableFailedEndpoints record explicitEndpointIds = .ok selected) :
    selected ≠ [] ∧ ∀ endpointId ∈ selected,
      endpointId ∈ record.response.deviceResults.map DeviceApplyResult.deviceId := by
  have failedIsResult : ∀ endpointId ∈
      (DomainApplyCompensationPlan.fromRecord record).retryableFailed,
      endpointId ∈ record.response.deviceResults.map DeviceApplyResult.deviceId :=
    fun endpointId isFailed => (List.filter_sublist.map _).subset isFailed
  rcases bind_eq_ok.mp isSelection with ⟨chosen, isChosen, isSelection⟩
  rcases bind_eq_ok.mp isSelection with ⟨⟨⟩, nonempty, same⟩
  obtain rfl : chosen = selected := Except.ok.inj same
  refine ⟨invalidIf_eq_ok.mp nonempty, fun endpointId isMember => failedIsResult endpointId ?_⟩
  unfold chooseEndpoints at isChosen
  split at isChosen
  · rwa [← Except.ok.inj isChosen] at isMember
  · rcases bind_eq_ok.mp isChosen with ⟨⟨⟩, allFailed, same⟩
    obtain rfl : orderedDeviceIds explicitEndpointIds = chosen := Except.ok.inj same
    have failed := forM_eq_ok.mp allFailed endpointId (mem_orderedDeviceIds.mp isMember)
    simpa using failed

end AriaUnderlay
