import AriaUnderlay.Api.AdminOps
import AriaUnderlay.Effect.Sum
import AriaUnderlay.Model.PythonNumber
import AriaUnderlay.Netconf.Driver
import AriaUnderlay.Worker.Config

/-!
# Administrative requests

The requests of operators that have effects: force resolve, force unlock, the lifecycle of alerts
and changes of the worker configuration.  They call what the core calls and, besides, the adapter
to break a session lock, the alert store and the configuration file.

The three changes of the worker configuration differ in the setting that they change and are
written once.  A call reads the whole file, asks for authorization, appends the audit record and
replaces the whole file.
-/

namespace AriaUnderlay

open Collections Effect

/-! ## Alerts -/

/-- The statuses of an alert. -/
inductive OperationAlertLifecycleStatus where
  | opened
  | acknowledged
  | resolved
  | suppressed
  | expired
  deriving DecidableEq, Repr

/-- One transition in the history of an alert. -/
structure OperationAlertLifecycleEvent where
  status : OperationAlertLifecycleStatus
  operatorId : String
  reason : Option String
  requestId : String
  traceId : String
  updatedAtUnixSecs : ℕ
  deriving DecidableEq, Repr

/-- The last status of an alert and its history. -/
structure OperationAlertLifecycleRecord where
  dedupeKey : String
  status : OperationAlertLifecycleStatus
  operatorId : Option String
  reason : Option String
  requestId : String
  traceId : String
  updatedAtUnixSecs : ℕ
  history : List OperationAlertLifecycleEvent
  deriving DecidableEq, Repr

/-- The transition that is to be recorded. -/
structure OperationAlertLifecycleTransition where
  dedupeKey : String
  status : OperationAlertLifecycleStatus
  operatorId : String
  reason : Option String
  requestId : String
  traceId : String
  deriving DecidableEq, Repr

/-! ## Calls -/

/-- The calls of administrative requests that the core does not make. -/
inductive OperatorOp where
  | inventoryGet (deviceId : DeviceId)
  | adapterClient (endpoint : String)
  | forceUnlock
      (device : DeviceInfo)
      (requestId traceId lockOwner reason : String)
      (breakGlassEnabled : Bool)
  | alertTransition (transition : OperationAlertLifecycleTransition)
  | configRead (path : String)
  | configWrite (path : String) (config : UnderlayWorkerDaemonConfig)

/-- What these calls return. -/
def OperatorOp.Answer : OperatorOp → Type
  | .inventoryGet _ => Except UnderlayError ManagedDevice
  | .forceUnlock _ _ _ _ _ _ => AdapterAnswer
  | .alertTransition _ => Except UnderlayError OperationAlertLifecycleRecord
  | .configRead _ => Except UnderlayError UnderlayWorkerDaemonConfig
  | .adapterClient _ | .configWrite _ _ => Except UnderlayError Unit

/-- The calls with their answers. -/
def operatorSignature : Signature where
  Op := OperatorOp
  Answer := OperatorOp.Answer

abbrev adminSignature : Signature :=
  coreSignature.sum operatorSignature

/-- Administrative programs. -/
abbrev Admin : Type → Type := Program adminSignature

abbrev AdminResult : Type → Type := Result adminSignature UnderlayError

/-- A call that the core makes as well. -/
def viaCore {α : Type} (program : Core (Except UnderlayError α)) : AdminResult α :=
  ExceptT.mk (program.inLeft operatorSignature)

def operate (op : OperatorOp) : Admin op.Answer :=
  @Program.perform adminSignature (.inr op)

/-! ## Force unlock -/

/-- The request to break the lock of a device. -/
structure ForceUnlockRequest where
  requestId : String
  traceId : Option String
  deviceId : DeviceId
  lockOwner : String
  reason : String
  breakGlassEnabled : Bool
  deriving DecidableEq, Repr

/-- What is reported of the broken lock. -/
structure ForceUnlockResponse where
  deviceId : DeviceId
  unlocked : Bool
  warnings : List String
  deriving DecidableEq, Repr

def forceUnlock (request : ForceUnlockRequest) : AdminResult ForceUnlockResponse := do
  let managed : ManagedDevice ← ExceptT.mk (operate (.inventoryGet request.deviceId))
  ExceptT.mk (operate (.adapterClient managed.info.adapterEndpoint))
  let outcome : AdapterOutcome ← ExceptT.mk (operate (.forceUnlock managed.info request.requestId
    (request.traceId.getD request.requestId) request.lockOwner request.reason
    request.breakGlassEnabled))
  pure
    { deviceId := request.deviceId
      unlocked := outcome.status = .committed
      warnings := outcome.warnings }

/-! ## Force unlock in the adapter -/

/-- The most digits that `int` converts. -/
def intMaxStrDigits : ℕ := 4300

/-- The session that a lock owner names.  On digits that are no decimals, such as superscripts, and
on too many digits `int` raises, which the driver reports as an internal error instead. -/
def forceUnlockSessionId (lockOwner : String) : Except AdapterError String :=
  let sessionId := Python.strip lockOwner
  if sessionId.toList.all Python.isDecimal ∧ sessionId.length ≤ intMaxStrDigits ∧
      (Python.parseInt sessionId).any (0 < ·) then
    .ok sessionId
  else
    .error
      { code := "NETCONF_FORCE_UNLOCK_SESSION_ID_INVALID"
        message := "NETCONF force unlock requires lock_owner to be a NETCONF session-id"
        normalizedError := "invalid force unlock session id"
        -- as `repr` quotes a text that has nothing to escape
        rawErrorSummary := "lock_owner='" ++ lockOwner ++ "'"
        retryable := false }

/-- The adapter's result for a force unlock.  `killSession` is what the device makes of the request
to kill a session; it is asked only under break-glass and for a session. -/
def adapterForceUnlock (killSession : String → Except AdapterError Unit) (lockOwner : String)
    (breakGlassEnabled : Bool) : AdapterResult :=
  if breakGlassEnabled then
    match forceUnlockSessionId lockOwner >>= killSession with
    | .ok () => { status := .committed }
    | .error error => failedResult error
  else { status := .failed, warnings := ["break-glass force unlock is disabled"] }

/-- What the core can hear about a force unlock: an error, or what it reads from the adapter's
result. -/
inductive UnlockAnswers (lockOwner : String) (breakGlassEnabled : Bool) : AdapterAnswer → Prop where
  | failed (error : UnderlayError) : UnlockAnswers lockOwner breakGlassEnabled (.error error)
  | served (killSession : String → Except AdapterError Unit) :
      UnlockAnswers lockOwner breakGlassEnabled
        (adapterResultToOutcome (adapterForceUnlock killSession lockOwner breakGlassEnabled))

/-- The adapter asks the device to kill a session. -/
def adapterUnlocks (lockOwner : String) (breakGlassEnabled : Bool) : Bool :=
  breakGlassEnabled && (forceUnlockSessionId lockOwner).isOk

/-- Only then it reports that a lock was broken. -/
theorem UnlockAnswers.unlocks {lockOwner : String} {breakGlassEnabled : Bool}
    {outcome : AdapterOutcome} (answers : UnlockAnswers lockOwner breakGlassEnabled (.ok outcome))
    (committed : outcome.status = .committed) :
    adapterUnlocks lockOwner breakGlassEnabled = true := by
  generalize isOutcome : (.ok outcome : AdapterAnswer) = answer at answers
  cases answers with
  | failed error => cases isOutcome
  | served killSession =>
      cases breakGlassEnabled with
      | false =>
          cases isOutcome
          cases committed
      | true =>
          cases named : forceUnlockSessionId lockOwner with
          | error error =>
              rw [adapterForceUnlock, if_pos rfl, named] at isOutcome
              cases isOutcome
          | ok sessionId =>
              rw [adapterUnlocks, named]
              rfl

/-- A device that kills every session. -/
theorem unlockAnswers_committed {lockOwner : String} {breakGlassEnabled : Bool}
    (unlocks : adapterUnlocks lockOwner breakGlassEnabled = true) :
    UnlockAnswers lockOwner breakGlassEnabled (.ok { status := .committed }) := by
  rw [adapterUnlocks, Bool.and_eq_true] at unlocks
  rcases unlocks with ⟨rfl, isSession⟩
  cases named : forceUnlockSessionId lockOwner with
  | error error =>
      rw [named] at isSession
      cases isSession
  | ok sessionId =>
      have served := @UnlockAnswers.served lockOwner true fun _ => .ok ()
      rw [adapterForceUnlock, if_pos rfl, named] at served
      exact served

/-! ## Lifecycle of alerts -/

/-- The request to move an alert to a status. -/
structure AlertLifecycleTransitionRequest where
  requestId : String
  traceId : Option String
  dedupeKey : String
  operator : String
  reason : String
  targetStatus : OperationAlertLifecycleStatus
  deriving DecidableEq, Repr

/-- A field of a request that must hold more than blanks. -/
def ensureNonEmpty (context field value : String) : Except UnderlayError Unit :=
  refuseIf (trim value = "") (.invalidIntent (context ++ " " ++ field ++ " must not be empty"))

def validateTransitionRequest (request : AlertLifecycleTransitionRequest) :
    Except UnderlayError Unit := do
  ensureNonEmpty "alert lifecycle" "request_id" request.requestId
  ensureNonEmpty "alert lifecycle" "dedupe_key" request.dedupeKey
  ensureNonEmpty "alert lifecycle" "operator" request.operator
  ensureNonEmpty "alert lifecycle" "reason" request.reason

def actionForStatus : OperationAlertLifecycleStatus → Except UnderlayError AdminAction
  | .opened => .error (.invalidIntent "alert lifecycle cannot manually transition to Open")
  | .acknowledged => .ok .acknowledgeAlert
  | .resolved => .ok .resolveAlert
  | .suppressed => .ok .suppressAlert
  | .expired => .ok .expireAlert

def alertLifecycleAction : OperationAlertLifecycleStatus → String
  | .opened => "alert.opened"
  | .acknowledged => "alert.acknowledged"
  | .resolved => "alert.resolved"
  | .suppressed => "alert.suppressed"
  | .expired => "alert.expired"

def OperationAlertLifecycleStatus.debugName : OperationAlertLifecycleStatus → String
  | .opened => "Open"
  | .acknowledged => "Acknowledged"
  | .resolved => "Resolved"
  | .suppressed => "Suppressed"
  | .expired => "Expired"

/-- The audit record of a request that was authorized. -/
def authorizedAuditRecord (requestId traceId action operatorId reason : String)
    (fields : BTreeMap String String) (now : ℕ) : ProductAuditRecord where
  requestId := requestId
  traceId := traceId
  action := action
  result := "authorized"
  txId := none
  deviceId := none
  operatorId := some operatorId
  reason := some reason
  attentionRequired := false
  errorCode := none
  errorMessage := none
  fields := fields
  appendedAtUnixSecs := now

def ProductAuditRecord.alertLifecycleTransition (requestId traceId dedupeKey : String)
    (status : OperationAlertLifecycleStatus) (operatorId reason : String)
    (now : ℕ) : ProductAuditRecord :=
  authorizedAuditRecord requestId traceId (alertLifecycleAction status) operatorId reason
    (.ofList [("dedupe_key", dedupeKey), ("status", status.debugName)]) now

def transitionAlert (request : AlertLifecycleTransitionRequest) :
    AdminResult OperationAlertLifecycleRecord := do
  ExceptT.mk (pure (validateTransitionRequest request))
  let traceId := request.traceId.getD request.requestId
  let action ← ExceptT.mk (pure (actionForStatus request.targetStatus))
  let _ ← viaCore (authorize ⟨request.requestId, traceId, request.operator, action⟩)
  let now ← ExceptT.lift (nowUnixSecs.inLeft operatorSignature)
  viaCore (productAuditAppend (.alertLifecycleTransition request.requestId traceId
    request.dedupeKey request.targetStatus request.operator request.reason now))
  ExceptT.mk (operate (.alertTransition
    { dedupeKey := request.dedupeKey
      status := request.targetStatus
      operatorId := request.operator
      reason := some request.reason
      requestId := request.requestId
      traceId := traceId }))

/-! ## Worker configuration -/

/-- The workers whose schedule can be changed. -/
inductive WorkerScheduleTarget where
  | operationSummaryRetention
  | operationAlert
  | journalGc
  | applyIdempotencyGc
  | driftAudit
  deriving DecidableEq, Repr

def WorkerScheduleTarget.label : WorkerScheduleTarget → String
  | .operationSummaryRetention => "operation_summary_retention"
  | .operationAlert => "operation_alert"
  | .journalGc => "journal_gc"
  | .applyIdempotencyGc => "apply_idempotency_gc"
  | .driftAudit => "drift_audit"

/-- The settings that a request can change. -/
inductive WorkerSetting where
  | summaryRetention
  | journalGcRetention
  | schedule (target : WorkerScheduleTarget)
  deriving DecidableEq, Repr

/-- A new value for one setting. -/
inductive WorkerSettingChange where
  | summaryRetention (retention : OperationSummaryRetentionPolicy)
  | journalGcRetention (retention : RetentionPolicy)
  | schedule (target : WorkerScheduleTarget) (schedule : WorkerScheduleConfig)
  deriving DecidableEq, Repr

namespace WorkerSettingChange

def setting : WorkerSettingChange → WorkerSetting
  | .summaryRetention _ => .summaryRetention
  | .journalGcRetention _ => .journalGcRetention
  | .schedule target _ => .schedule target

/-- The check of the new value. -/
def check : WorkerSettingChange → Except UnderlayError Unit
  | .summaryRetention retention => retention.validate
  | .journalGcRetention retention => retention.validate
  | .schedule _ timing =>
      refuseIf (timing.intervalSecs = 0)
        (.invalidIntent "worker schedule interval_secs must be greater than zero")

def action : WorkerSettingChange → AdminAction
  | .summaryRetention _ | .journalGcRetention _ => .changeRetentionPolicy
  | .schedule _ _ => .changeDaemonSchedule

def auditAction : WorkerSettingChange → String
  | .summaryRetention _ | .journalGcRetention _ => "daemon.retention_change_requested"
  | .schedule _ _ => "daemon.schedule_change_requested"

def target : WorkerSettingChange → String
  | .summaryRetention _ => "operation_summary"
  | .journalGcRetention _ => "journal_gc"
  | .schedule target _ => target.label

/-- The values that the audit record names. -/
def auditFields : WorkerSettingChange → List (String × String)
  | .summaryRetention retention =>
      [("max_records", (retention.maxRecords.map toString).getD "none"),
        ("max_bytes", (retention.maxBytes.map toString).getD "none"),
        ("max_rotated_files", toString retention.maxRotatedFiles)]
  | .journalGcRetention retention =>
      [("committed_journal_retention_days", toString retention.committedJournalRetentionDays),
        ("rolled_back_journal_retention_days", toString retention.rolledBackJournalRetentionDays),
        ("failed_journal_retention_days", toString retention.failedJournalRetentionDays),
        ("rollback_artifact_retention_days", toString retention.rollbackArtifactRetentionDays),
        ("max_artifacts_per_device", toString retention.maxArtifactsPerDevice)]
  | .schedule _ timing =>
      [("interval_secs", toString timing.intervalSecs),
        ("run_immediately", toString timing.runImmediately)]

end WorkerSettingChange

/-- The section of the file that has the setting. -/
def WorkerSetting.sectionName : WorkerSetting → String
  | .summaryRetention | .schedule .operationSummaryRetention => "operation_summary"
  | .schedule .operationAlert => "operation_alert"
  | .journalGcRetention | .schedule .journalGc => "journal_gc"
  | .schedule .applyIdempotencyGc => "apply_idempotency_gc"
  | .schedule .driftAudit => "drift_audit"

/-- The value of a setting, if the file has its section. -/
def WorkerSetting.get (config : UnderlayWorkerDaemonConfig) :
    WorkerSetting → Option WorkerSettingChange
  | .summaryRetention =>
      config.operationSummary.map fun part => .summaryRetention part.retention
  | .journalGcRetention => config.journalGc.map fun part => .journalGcRetention part.retention
  | .schedule .operationSummaryRetention =>
      config.operationSummary.map fun part =>
        .schedule .operationSummaryRetention part.retentionSchedule
  | .schedule .operationAlert =>
      config.operationAlert.map fun part => .schedule .operationAlert part.schedule
  | .schedule .journalGc => config.journalGc.map fun part => .schedule .journalGc part.schedule
  | .schedule .applyIdempotencyGc =>
      config.applyIdempotencyGc.map fun part => .schedule .applyIdempotencyGc part.schedule
  | .schedule .driftAudit => config.driftAudit.map fun part => .schedule .driftAudit part.schedule

def WorkerSettingChange.update (config : UnderlayWorkerDaemonConfig) :
    WorkerSettingChange → UnderlayWorkerDaemonConfig
  | .summaryRetention retention =>
      { config with
        operationSummary := config.operationSummary.map ({ · with retention := retention }) }
  | .journalGcRetention retention =>
      { config with journalGc := config.journalGc.map ({ · with retention := retention }) }
  | .schedule .operationSummaryRetention timing =>
      { config with
        operationSummary := config.operationSummary.map ({ · with retentionSchedule := timing }) }
  | .schedule .operationAlert timing =>
      { config with operationAlert := config.operationAlert.map ({ · with schedule := timing }) }
  | .schedule .journalGc timing =>
      { config with journalGc := config.journalGc.map ({ · with schedule := timing }) }
  | .schedule .applyIdempotencyGc timing =>
      { config with
        applyIdempotencyGc := config.applyIdempotencyGc.map ({ · with schedule := timing }) }
  | .schedule .driftAudit timing =>
      { config with driftAudit := config.driftAudit.map ({ · with schedule := timing }) }

def missingConfigSection (name : String) : UnderlayError :=
  .invalidIntent ("worker daemon config missing " ++ name ++ " section")

/-- The section of the change has to be in the file. -/
def WorkerSettingChange.locate (change : WorkerSettingChange)
    (config : UnderlayWorkerDaemonConfig) : Except UnderlayError Unit :=
  refuseIf (change.setting.get config = none) (missingConfigSection change.setting.sectionName)

/-- The fields that the three requests have in common. -/
structure WorkerConfigRequest where
  requestId : String
  traceId : Option String
  configPath : String
  operator : String
  reason : String
  deriving DecidableEq, Repr

/-- What is reported of the change. -/
structure WorkerConfigAdminResponse where
  configPath : String
  target : String
  changed : Bool
  warnings : List String
  deriving DecidableEq, Repr

def validateBaseRequest (request : WorkerConfigRequest) : Except UnderlayError Unit := do
  ensureNonEmpty "worker config admin" "request_id" request.requestId
  ensureNonEmpty "worker config admin" "operator" request.operator
  ensureNonEmpty "worker config admin" "reason" request.reason

/-- The audit record of a change. -/
def ProductAuditRecord.workerConfigChangeRequested (request : WorkerConfigRequest)
    (traceId : String) (change : WorkerSettingChange) (now : ℕ) : ProductAuditRecord :=
  authorizedAuditRecord request.requestId traceId change.auditAction request.operator
    request.reason
    (.ofList ([("config_path", request.configPath), ("target", change.target)] ++
      change.auditFields)) now

def changeWorkerSetting (request : WorkerConfigRequest) (change : WorkerSettingChange) :
    AdminResult WorkerConfigAdminResponse := do
  ExceptT.mk (pure (validateBaseRequest request))
  ExceptT.mk (pure change.check)
  let config : UnderlayWorkerDaemonConfig ← ExceptT.mk (operate (.configRead request.configPath))
  ExceptT.mk (pure (change.locate config))
  let traceId := request.traceId.getD request.requestId
  let _ ← viaCore (authorize ⟨request.requestId, traceId, request.operator, change.action⟩)
  let now ← ExceptT.lift (nowUnixSecs.inLeft operatorSignature)
  viaCore (appendAudit (.workerConfigChangeRequested request traceId change now))
  ExceptT.mk (operate (.configWrite request.configPath (change.update config)))
  pure
    { configPath := request.configPath
      target := change.target
      changed := true
      warnings := [] }

def changeSummaryRetention (request : WorkerConfigRequest)
    (retention : OperationSummaryRetentionPolicy) : AdminResult WorkerConfigAdminResponse :=
  changeWorkerSetting request (.summaryRetention retention)

def changeJournalGcRetention (request : WorkerConfigRequest)
    (retention : RetentionPolicy) : AdminResult WorkerConfigAdminResponse :=
  changeWorkerSetting request (.journalGcRetention retention)

/-- Change how often a worker runs. -/
def changeWorkerSchedule (request : WorkerConfigRequest) (target : WorkerScheduleTarget)
    (schedule : WorkerScheduleConfig) : AdminResult WorkerConfigAdminResponse :=
  changeWorkerSetting request (.schedule target schedule)

end AriaUnderlay
