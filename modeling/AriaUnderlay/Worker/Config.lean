import AriaUnderlay.Collections.Checks
import AriaUnderlay.Worker.Gc

/-!
# The configuration of the worker daemon

The configuration file has one optional section for every worker.  `validateWorkerConfigForRuntime`
checks a configuration before it is used, and `UnderlayWorkerDaemon.fromConfig` builds the workers
that it asks for.
-/

namespace AriaUnderlay

open Collections

/-! ## Sections -/

/-- How often a worker runs. -/
structure WorkerScheduleConfig where
  intervalSecs : UInt64 := 60 * 60
  runImmediately : Bool := true
  deriving DecidableEq, Repr

/-- How many summaries are kept. -/
structure OperationSummaryRetentionPolicy where
  maxRecords : Option UInt64 := none
  maxBytes : Option UInt64 := none
  maxRotatedFiles : UInt64 := 3
  deriving DecidableEq, Repr

/-- How many audit records are kept. -/
structure OperationAuditRetentionPolicy where
  maxRecords : Option UInt64 := none
  maxBytes : Option UInt64 := none
  maxRotatedFiles : UInt64 := 3
  deriving DecidableEq, Repr

/-- How long responses are kept. -/
structure ApplyIdempotencyRetentionPolicy where
  retentionDays : UInt32 := 30
  deriving DecidableEq, Repr

/-- How the configuration is reloaded. -/
structure WorkerReloadDaemonConfig where
  enabled : Bool := false
  pollIntervalSecs : UInt64 := 5
  checkpointPath : Option String := none
  deriving DecidableEq, Repr

/-- Where the summaries are, and how many are kept. -/
structure OperationSummaryDaemonConfig where
  path : String
  retention : OperationSummaryRetentionPolicy := {}
  retentionSchedule : WorkerScheduleConfig := {}
  deriving DecidableEq, Repr

/-- Where the audit records are, and how many are kept. -/
structure OperationAuditDaemonConfig where
  path : String
  retention : OperationAuditRetentionPolicy := {}
  retentionSchedule : WorkerScheduleConfig := {}
  deriving DecidableEq, Repr

/-- Where alerts go, and when. -/
structure OperationAlertDaemonConfig where
  path : String
  checkpointPath : String
  schedule : WorkerScheduleConfig := {}
  deriving DecidableEq, Repr

/-- What is collected of the journal, and when. -/
structure JournalGcDaemonConfig where
  journalRoot : String
  artifactRoot : Option String := none
  schedule : WorkerScheduleConfig := {}
  retention : RetentionPolicy := {}
  deriving DecidableEq, Repr

/-- Which kept responses are collected, and when. -/
structure ApplyIdempotencyGcDaemonConfig where
  root : String
  schedule : WorkerScheduleConfig := {}
  retention : ApplyIdempotencyRetentionPolicy := {}
  deriving DecidableEq, Repr

/-- The shadows that are compared, and when. -/
structure DriftAuditDaemonConfig where
  expectedShadowRoot : String
  observedShadowRoot : String
  schedule : WorkerScheduleConfig := {}
  deriving DecidableEq, Repr

/-- The configuration of all workers. -/
structure UnderlayWorkerDaemonConfig where
  reload : Option WorkerReloadDaemonConfig := none
  operationSummary : Option OperationSummaryDaemonConfig := none
  operationAudit : Option OperationAuditDaemonConfig := none
  operationAlert : Option OperationAlertDaemonConfig := none
  journalGc : Option JournalGcDaemonConfig := none
  applyIdempotencyGc : Option ApplyIdempotencyGcDaemonConfig := none
  driftAudit : Option DriftAuditDaemonConfig := none
  deriving DecidableEq, Repr

/-! ## Checks -/

/-- Limits are not zero. -/
def OperationSummaryRetentionPolicy.validate (policy : OperationSummaryRetentionPolicy) :
    Except UnderlayError Unit := do
  refuseIf (policy.maxRecords = some 0)
    (.invalidIntent "operation summary retention max_records must be greater than zero")
  refuseIf (policy.maxBytes = some 0)
    (.invalidIntent "operation summary retention max_bytes must be greater than zero")

/-- Limits are not zero. -/
def OperationAuditRetentionPolicy.validate (policy : OperationAuditRetentionPolicy) :
    Except UnderlayError Unit := do
  refuseIf (policy.maxRecords = some 0)
    (.invalidIntent "operation audit retention max_records must be greater than zero")
  refuseIf (policy.maxBytes = some 0)
    (.invalidIntent "operation audit retention max_bytes must be greater than zero")

/-- Some artifact is kept. -/
def RetentionPolicy.validate (policy : RetentionPolicy) : Except UnderlayError Unit :=
  refuseIf (policy.maxArtifactsPerDevice = 0)
    (.invalidIntent "journal GC retention max_artifacts_per_device must be greater than zero")

def ApplyIdempotencyRetentionPolicy.validate (policy : ApplyIdempotencyRetentionPolicy) :
    Except UnderlayError Unit :=
  refuseIf (policy.retentionDays = 0)
    (.invalidIntent "apply idempotency GC retention_days must be greater than zero")

/-- The interval is not zero. -/
def validateWorkerSchedule (field : String) (schedule : WorkerScheduleConfig) :
    Except UnderlayError Unit :=
  refuseIf (schedule.intervalSecs = 0)
    (.invalidIntent (field ++ ".interval_secs must be greater than zero"))

def validateReloadConfig (config : WorkerReloadDaemonConfig) : Except UnderlayError Unit :=
  if config.enabled = false then .ok ()
  else do
    refuseIf (config.pollIntervalSecs = 0)
      (.invalidIntent "reload.poll_interval_secs must be greater than zero")
    refuseIf (config.checkpointPath = none)
      (.invalidIntent "reload.checkpoint_path is required when enabled")

/-- Check a section if it is there. -/
def whenPresent {Section : Type}
    (check : Section → Except UnderlayError Unit) : Option Section → Except UnderlayError Unit
  | none => .ok ()
  | some found => check found

/-- The check of the configuration. -/
def validateWorkerConfigForRuntime (config : UnderlayWorkerDaemonConfig) :
    Except UnderlayError Unit := do
  refuseIf (config.operationAlert.isSome ∧ config.operationSummary.isNone)
    (.invalidIntent "operation_alert requires operation_summary.path")
  whenPresent (fun part => do
    part.retention.validate
    validateWorkerSchedule "operation_summary.retention_schedule" part.retentionSchedule)
    config.operationSummary
  whenPresent (fun part => do
    part.retention.validate
    validateWorkerSchedule "operation_audit.retention_schedule" part.retentionSchedule)
    config.operationAudit
  whenPresent (fun part =>
    validateWorkerSchedule "operation_alert.schedule" part.schedule) config.operationAlert
  whenPresent (fun part => do
    part.retention.validate
    validateWorkerSchedule "journal_gc.schedule" part.schedule) config.journalGc
  whenPresent (fun part => do
    part.retention.validate
    validateWorkerSchedule "apply_idempotency_gc.schedule" part.schedule)
    config.applyIdempotencyGc
  whenPresent (fun part =>
    validateWorkerSchedule "drift_audit.schedule" part.schedule) config.driftAudit
  whenPresent validateReloadConfig config.reload

/-! ## The daemon -/

/-- There is a limit. -/
def OperationSummaryRetentionPolicy.isEnabled (policy : OperationSummaryRetentionPolicy) : Bool :=
  policy.maxRecords.isSome ∨ policy.maxBytes.isSome

/-- There is a limit. -/
def OperationAuditRetentionPolicy.isEnabled (policy : OperationAuditRetentionPolicy) : Bool :=
  policy.maxRecords.isSome ∨ policy.maxBytes.isSome

/-- The workers of a daemon, each with the section it was built from.  The two paths are the files
to which the event sink of the workers records; the alert worker also has the summary file. -/
structure UnderlayWorkerDaemon where
  summaryPath : Option String := none
  auditPath : Option String := none
  operationSummaryCompaction : Option OperationSummaryDaemonConfig := none
  operationAuditCompaction : Option OperationAuditDaemonConfig := none
  operationAlertDelivery : Option (String × OperationAlertDaemonConfig) := none
  journalGc : Option JournalGcDaemonConfig := none
  applyIdempotencyGc : Option ApplyIdempotencyGcDaemonConfig := none
  driftAudit : Option DriftAuditDaemonConfig := none
  deriving DecidableEq, Repr

def UnderlayWorkerDaemon.fromConfig (config : UnderlayWorkerDaemonConfig) :
    Except UnderlayError UnderlayWorkerDaemon := do
  let summaryPath := config.operationSummary.map (·.path)
  let alertDelivery ← match config.operationAlert, summaryPath with
    | none, _ => Except.ok none
    | some part, some path => Except.ok (some (path, part))
    | some _, none =>
        Except.error (.invalidIntent "operation alert delivery requires operation_summary.path")
  return {
    summaryPath := summaryPath
    auditPath := config.operationAudit.map (·.path)
    operationSummaryCompaction := config.operationSummary.filter (·.retention.isEnabled)
    operationAuditCompaction := config.operationAudit.filter (·.retention.isEnabled)
    operationAlertDelivery := alertDelivery
    journalGc := config.journalGc
    applyIdempotencyGc := config.applyIdempotencyGc
    driftAudit := config.driftAudit }

end AriaUnderlay
