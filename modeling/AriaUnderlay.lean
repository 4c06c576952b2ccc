import AriaUnderlay.AdapterClient.Mapper
import AriaUnderlay.Api.ApplyAgreement
import AriaUnderlay.Api.ApplyCompensation
import AriaUnderlay.Api.ConfirmedRecovery
import AriaUnderlay.Api.Durability
import AriaUnderlay.Api.Mediation
import AriaUnderlay.Api.RetryAcceptance
import AriaUnderlay.Api.ShadowReplay
import AriaUnderlay.Api.ShadowUpdate
import AriaUnderlay.Api.StatusAgreement
import AriaUnderlay.Api.StoredStates
import AriaUnderlay.Api.TaskDiscipline
import AriaUnderlay.Api.WorkerConfigChanges
import AriaUnderlay.Device.SecretProvider
import AriaUnderlay.Engine.Convergence
import AriaUnderlay.Engine.NormalForm
import AriaUnderlay.Engine.StageSafety
import AriaUnderlay.H3c.VlanRanges
import AriaUnderlay.Ha.ActivePassive
import AriaUnderlay.Ha.Takeover
import AriaUnderlay.Netconf.Isolation
import AriaUnderlay.Netconf.KnownHosts
import AriaUnderlay.Planner.Consistency
import AriaUnderlay.Sot.Snapshot
import AriaUnderlay.Telemetry.AlertLifecycle
import AriaUnderlay.Telemetry.Compaction
import AriaUnderlay.Worker.DriftAudit
import AriaUnderlay.Worker.GcSafety
import AriaUnderlay.Worker.OperationAlerts
import AriaUnderlay.Worker.Reload
