import AriaUnderlay.Api.Discipline

/-!
# Whole tasks under a discipline

The applies, the recovery passes and the force resolves of the process.  A discipline for whole
tasks also says which records may start a transaction and which shadows may be stored, in terms of
what the task was asked for and of what it has planned or read.  Whatever the calls that it permits
preserve is an invariant of the process.
-/

namespace AriaUnderlay

open Collections Effect Fallible

/-- The record that an apply stores first. -/
def firstRecord (context : TxContext) (desired : DeviceDesiredState) (plan : DryRunPlan)
    (startedAt desiredAt plannedAt : ℕ) : TxJournalRecord :=
  ((TxJournalRecord.started context [desired.deviceId] startedAt).withDesiredStates
    [desired] desiredAt).withChangeSets plan.changeSets plannedAt

/-- The shadow that recovery stores for a device of a record. -/
def recoveredShadow (record : TxJournalRecord) (deviceId : DeviceId) (desired : DeviceDesiredState)
    (existing : Option DeviceShadowState) : DeviceShadowState :=
  match changeSetForRecord record deviceId with
  | some changeSet => changeSet.applyToShadow existing desired 0
  | none => DeviceShadowState.fromDesired desired 0

/-- The calls that take or drop endpoint locks. -/
def CoreOp.isLocking : CoreOp → Bool
  | .acquire _ | .acquireWithPolicy _ | .release _ => true
  | _ => false

/-- What the tasks of the core need of a discipline. -/
structure TaskDiscipline extends Discipline where
  /-- The desired states that applies are asked for. -/
  asked : DeviceDesiredState → Prop
  locks : ∀ op, op.isLocking = true → may op
  /-- A record that was read may be stored again. -/
  reads : ∀ {txId : String} {record : TxJournalRecord},
    honest (.journalGet txId) (.ok (some record)) → keeps record
  starts : ∀ {context : TxContext} {desired : DeviceDesiredState}
    {currentStates : List DeviceShadowState} {plan : DryRunPlan}
    {startedAt desiredAt plannedAt : ℕ},
    asked desired →
    buildDryRunPlan [desired] currentStates = .ok plan →
    plan.isNoop = false →
      keeps (firstRecord context desired plan startedAt desiredAt plannedAt)
  updates : ∀ {desired : DeviceDesiredState} {currentStates : List DeviceShadowState}
    {plan : DryRunPlan} {changeSet : ChangeSet} {existing : Option DeviceShadowState}
    {txId : String},
    asked desired →
    buildDryRunPlan [desired] currentStates = .ok plan →
    plan.changeSetFor desired.deviceId = some changeSet →
    honest (.shadowGet desired.deviceId) (.ok existing) →
      may (.shadowPut txId (changeSet.applyToShadow existing desired 0))
  recovers : ∀ {record : TxJournalRecord} {deviceId : DeviceId} {desired : DeviceDesiredState}
    {existing : Option DeviceShadowState},
    keeps record →
    desiredStateForRecord record deviceId = some desired →
    honest (.shadowGet deviceId) (.ok existing) →
      may (.shadowPut record.txId (recoveredShadow record deviceId desired existing))

namespace TaskDiscipline

open Discipline

variable {discipline : TaskDiscipline} {record recovering : TxJournalRecord}

/-- The program keeps the discipline. -/
abbrev Bounds {α : Type} (discipline : TaskDiscipline) (program : Core α) : Prop :=
  discipline.toDiscipline.Keeps program fun _ => True

theorem bounds_free {op : CoreOp} (isFree : op.isFree = true) :
    discipline.Bounds (interact op) :=
  keeps_free isFree fun _ _ => trivial

theorem bounds_lock {op : CoreOp} (isLocking : op.isLocking = true) :
    discipline.Bounds (interact op) :=
  confined_perform.mpr ⟨discipline.locks op isLocking, fun _ _ => trivial⟩

/-- The sequencing rule of a task that stops at its first error. -/
theorem bounds_bindResult {α β : Type} {program : CoreResult α} {next : α → CoreResult β}
    {middle : α → Prop} (first : discipline.toDiscipline.Keeps program.run (OnSuccess middle))
    (second : ∀ value, middle value → discipline.Bounds (next value).run) :
    discipline.Bounds (program >>= next).run :=
  Confined.bindResult first (fun value holds => second value (holds value rfl)) fun _ _ => trivial

/-- The same rule where nothing is known of the first result. -/
theorem Bounds.bindResult {α β : Type} {program : CoreResult α} {next : α → CoreResult β}
    (first : discipline.Bounds program.run) (second : ∀ value, discipline.Bounds (next value).run) :
    discipline.Bounds (program >>= next).run :=
  Confined.bindResult first (fun value _ => second value) fun _ _ => trivial

/-! ## The apply -/

section Apply

variable {desired : DeviceDesiredState} {currentStates : List DeviceShadowState}
variable {plan : DryRunPlan} {context : TxContext}

section

variable (asks : discipline.asked desired)

include asks

theorem bounds_updateShadowAfterCommit {strategy : TransactionStrategy}
    {report : DeviceVerifyReport} (planned : buildDryRunPlan [desired] currentStates = .ok plan)
    (kept : discipline.keeps record) :
    discipline.Bounds (updateShadowAfterCommit desired plan context record strategy report) := by
  unfold updateShadowAfterCommit
  split
  · exact (keeps_finishWithMissingChangeSet kept).mono fun _ _ => trivial
  · rename_i changeSet found
    have reads : discipline.toDiscipline.Keeps (shadowGet desired.deviceId) fun answer =>
        ∀ existing, answer = .ok existing →
          discipline.may
            (.shadowPut context.txId (changeSet.applyToShadow existing desired 0)) := by
      refine keeps_free rfl ?_
      rintro answer isHonest existing rfl
      exact discipline.updates asks planned found isHonest
    refine reads.bind fun answer permits => ?_
    cases answer with
    | error error => exact (keeps_finishWithShadowFailure kept).mono fun _ _ => trivial
    | ok existing =>
        have writes : discipline.Bounds
            (shadowPut context.txId (changeSet.applyToShadow existing desired 0)) :=
          confined_perform.mpr ⟨permits existing rfl, fun _ _ => trivial⟩
        refine writes.bind fun stored _ => ?_
        cases stored with
        | error error => exact (keeps_finishWithShadowFailure kept).mono fun _ _ => trivial
        | ok _ => trivial

theorem bounds_finishSuccessfulApply {strategy : TransactionStrategy}
    {report : DeviceVerifyReport} (planned : buildDryRunPlan [desired] currentStates = .ok plan)
    (kept : discipline.keeps record) :
    discipline.Bounds (finishSuccessfulApply desired plan context record strategy report) := by
  refine keeps_nowUnixSecs.bind fun now _ => ?_
  have keptStrategy : discipline.keeps (record.withStrategy strategy now) :=
    discipline.subject (.withStrategy (.refl record) strategy now) kept
  refine (keeps_transitionPhase keptStrategy .committed).bind fun answer holds => ?_
  cases answer with
  | error error => trivial
  | ok updated =>
      refine (keeps_journalPut .committed (holds updated rfl)).bind fun stored _ => ?_
      cases stored with
      | error error => trivial
      | ok _ => exact bounds_updateShadowAfterCommit asks planned (holds updated rfl)

variable {timeoutSecs : ℕ} {allowDegradedAtomicity : Bool}

theorem bounds_applyPrepared (planned : buildDryRunPlan [desired] currentStates = .ok plan)
    (kept : discipline.keeps record) :
    discipline.Bounds
      (applyPrepared timeoutSecs desired plan context allowDegradedAtomicity record) := by
  refine (guides_applyChangedEndpointStates timeoutSecs [desired] plan allowDegradedAtomicity
    record kept).bind ?_
  rintro ⟨result, after⟩ ⟨keptAfter, -⟩
  cases result with
  | ok outcome => exact bounds_finishSuccessfulApply asks planned keptAfter
  | error error => exact (keeps_finishFailedApply keptAfter).mono fun _ _ => trivial

theorem bounds_applyStarted (planned : buildDryRunPlan [desired] currentStates = .ok plan)
    (kept : discipline.keeps record) :
    discipline.Bounds
      (applyStarted timeoutSecs desired plan context allowDegradedAtomicity record) := by
  refine (keeps_transitionPhase kept .preparing).bind fun answer holds => ?_
  cases answer with
  | error error => trivial
  | ok updated =>
      refine (keeps_journalPut .preparing (holds updated rfl)).bind fun stored _ => ?_
      cases stored with
      | error error => trivial
      | ok _ => exact bounds_applyPrepared asks planned (holds updated rfl)

theorem bounds_applyTransaction {requestId traceId : String}
    (planned : buildDryRunPlan [desired] currentStates = .ok plan) (changes : plan.isNoop = false) :
    discipline.Bounds
      (applyTransaction timeoutSecs requestId traceId desired plan allowDegradedAtomicity) := by
  refine Confined.bind (bounds_free rfl) fun txId _ => ?_
  refine keeps_nowUnixSecs.bind fun startedAt _ => ?_
  refine keeps_nowUnixSecs.bind fun desiredAt _ => ?_
  refine keeps_nowUnixSecs.bind fun plannedAt _ => ?_
  have kept : discipline.keeps
      (firstRecord ⟨txId, requestId, traceId⟩ desired plan startedAt desiredAt plannedAt) :=
    discipline.starts asks planned changes
  refine (keeps_journalPut .started kept).bind fun stored _ => ?_
  cases stored with
  | error error => trivial
  | ok _ => exact bounds_applyStarted asks planned kept

end

theorem bounds_applyUnderLock (timeoutSecs : ℕ) (requestId traceId : String)
    (allowDegradedAtomicity : Bool) (driftPolicy : DriftPolicy) (asks : discipline.asked desired) :
    discipline.Bounds
      (applyUnderLock timeoutSecs requestId traceId desired allowDegradedAtomicity
        driftPolicy) := by
  refine (keeps_ensureNoInDoubtForDevices _).bind fun unblocked _ => ?_
  cases unblocked with
  | error error => trivial
  | ok _ =>
      refine (keeps_ensureDriftPolicyAllowsApply _ _).bind fun allowed _ => ?_
      cases allowed with
      | error error => trivial
      | ok _ =>
          refine (keeps_dryRunDesiredStates [desired]).bind fun result planned => ?_
          cases result with
          | error error => trivial
          | ok plan =>
              rcases planned plan rfl with ⟨currentStates, built⟩
              dsimp only
              split
              · trivial
              · rename_i changes
                exact bounds_applyTransaction asks built (Bool.not_eq_true _ ▸ changes)

theorem bounds_applyDesiredStates (timeoutSecs : ℕ) (requestId traceId : String)
    (allowDegradedAtomicity : Bool) (driftPolicy : DriftPolicy)
    {desiredStates : List DeviceDesiredState}
    (asks : ∀ desired ∈ desiredStates, discipline.asked desired) :
    discipline.Bounds
      (applyDesiredStates timeoutSecs requestId traceId allowDegradedAtomicity driftPolicy
        desiredStates) := by
  induction desiredStates with
  | nil => trivial
  | cons desired rest ih =>
      rw [List.forall_mem_cons] at asks
      have applies : discipline.Bounds (applySingleEndpointState timeoutSecs requestId traceId
          desired allowDegradedAtomicity driftPolicy) := by
        refine Confined.bind (bounds_lock rfl) fun acquired _ => ?_
        cases acquired with
        | error error => trivial
        | ok _ =>
            refine (bounds_applyUnderLock _ _ _ _ _ asks.1).bind fun result _ => ?_
            exact Confined.bind (bounds_lock rfl) fun _ _ => trivial
      exact applies.bind fun result _ => (ih asks.2).bind fun _ _ => trivial

end Apply

/-! ## Recovery -/

section Recovery

variable {context : TxContext}

theorem bounds_recoverWithTransportRetry {device : DeviceInfo}
    {strategy : Option TransactionStrategy} {action : RecoveryAction} (attempts : ℕ) :
    discipline.Bounds
      (recoverWithTransportRetry device context strategy action attempts).run := by
  induction attempts with
  | zero => trivial
  | succ attempts ih =>
      have connects : discipline.Bounds (adapterClient .recovery device.adapterEndpoint) :=
        bounds_free rfl
      have asks : discipline.Bounds (adapterCall device context (.recover strategy action)) :=
        bounds_free rfl
      refine Bounds.bindResult connects fun _ => ?_
      refine asks.bindLift fun answer _ => ?_
      split
      · trivial
      · split
        · trivial
        · exact ih
      · trivial

theorem bounds_recoverDevice (record : TxJournalRecord) (action : RecoveryAction) (id : DeviceId) :
    discipline.Bounds (recoverDevice record context action id).run := by
  have finds : discipline.Bounds (inventoryGet .recovery id) := bounds_free rfl
  refine Bounds.bindResult finds fun managed => ?_
  exact (bounds_recoverWithTransportRetry _).bindResult fun _ => trivial

theorem bounds_verifyForRecovery (record : TxJournalRecord) (device : DeviceInfo) (id : DeviceId) :
    discipline.Bounds (verifyForRecovery record context device id) := by
  unfold verifyForRecovery
  split
  · rename_i desired changeSet _ _
    have asks : discipline.Bounds (adapterCall device context (.verify desired changeSet)) :=
      bounds_free rfl
    refine asks.bind fun answer _ => ?_
    split
    · split <;> trivial
    · trivial
  · trivial

theorem bounds_recoverUnproved (record : TxJournalRecord) (device : DeviceInfo) (id : DeviceId)
    (confirmSummary verifySummary : String) :
    discipline.Bounds
      (recoverUnproved record context device id confirmSummary verifySummary).run := by
  refine (bounds_recoverWithTransportRetry _).bindLift fun answer _ => ?_
  split
  · dsimp only
    split <;> trivial
  · trivial

theorem bounds_recoverFinalConfirmingDevice (record : TxJournalRecord) (id : DeviceId) :
    discipline.Bounds (recoverFinalConfirmingDevice record context id).run := by
  have finds : discipline.Bounds (inventoryGet .recovery id) := bounds_free rfl
  refine Bounds.bindResult finds fun managed => ?_
  have connects : discipline.Bounds (adapterClient .recovery managed.info.adapterEndpoint) :=
    bounds_free rfl
  have confirms : discipline.Bounds (adapterCall managed.info context .finalConfirm) :=
    bounds_free rfl
  refine Bounds.bindResult connects fun _ => ?_
  refine confirms.bindLift fun answer _ => ?_
  split
  · trivial
  · refine (bounds_verifyForRecovery record managed.info id).bindLift fun verified _ => ?_
    cases verified with
    | none => trivial
    | some summary => exact bounds_recoverUnproved record managed.info id _ summary

theorem bounds_recoverDevices {recoverOne : DeviceId → CoreResult TxPhase}
    (bounded : ∀ id, discipline.Bounds (recoverOne id).run) (devices : List DeviceId)
    (progress : RecoveryProgress) :
    discipline.Bounds (recoverDevices recoverOne devices progress) := by
  induction devices generalizing progress with
  | nil => trivial
  | cons id rest ih => exact (bounded id).bind fun outcome _ => ih _

theorem bounds_recoverRecord (record : TxJournalRecord) (action : RecoveryAction) :
    discipline.Bounds (recoverRecord record action).run := by
  unfold recoverRecord recoverFinalConfirmingRecord
  split
  · split
    · trivial
    · exact (bounds_recoverDevices (bounds_recoverFinalConfirmingDevice record) _ _).bindLift
        fun _ _ => trivial
  · split
    · trivial
    · exact (bounds_recoverDevices (bounds_recoverDevice record action) _ _).bindLift
        fun _ _ => trivial

theorem bounds_persistRecoveredShadow (kept : discipline.keeps record) (devices : List DeviceId) :
    discipline.Bounds (persistRecoveredShadow record devices).run := by
  induction devices with
  | nil => trivial
  | cons id rest ih =>
      unfold persistRecoveredShadow
      split
      · trivial
      · rename_i desired found
        have reads : discipline.toDiscipline.Keeps (shadowGet id) (OnSuccess fun existing =>
            discipline.may
              (.shadowPut record.txId (recoveredShadow record id desired existing))) := by
          refine keeps_free rfl ?_
          rintro answer isHonest existing rfl
          exact discipline.recovers kept found isHonest
        refine bounds_bindResult reads fun existing permits => ?_
        have writes : discipline.Bounds
            (shadowPut record.txId (recoveredShadow record id desired existing)) :=
          confined_perform.mpr ⟨permits, fun _ _ => trivial⟩
        exact Bounds.bindResult writes fun _ => ih

theorem keeps_storePhase (site : PutSite) (phase : TxPhase) (kept : discipline.keeps record) :
    discipline.toDiscipline.Keeps (storePhase site record phase).run
      (OnSuccess discipline.keeps) := by
  refine Confined.bindResult (keeps_transitionPhase kept phase) (fun updated holds => ?_)
    fun _ _ _ impossible => nomatch impossible
  have keptUpdated : discipline.keeps updated := holds updated rfl
  refine Confined.bindResult (keeps_journalPut site keptUpdated) (fun _ _ => ?_)
    fun _ _ _ impossible => nomatch impossible
  rintro _ ⟨rfl⟩
  exact keptUpdated

theorem bounds_storeInDoubt (site : PutSite) (error : UnderlayError)
    (kept : discipline.keeps recovering) :
    discipline.Bounds (storeInDoubt site recovering error).run := by
  refine bounds_bindResult (keeps_transitionPhase kept .inDoubt) fun updated keptUpdated => ?_
  refine Confined.bindLift keeps_nowUnixSecs fun now _ => ?_
  exact keeps_journalPut site (keeps_withError keptUpdated)

theorem bounds_settleRecovered {found : Except UnderlayError TxPhase}
    (kept : discipline.keeps record) (keptRecovering : discipline.keeps recovering) :
    discipline.Bounds (settleRecovered record recovering found).run := by
  unfold settleRecovered
  split
  · exact (bounds_storeInDoubt _ _ keptRecovering).bindResult fun _ => trivial
  · refine (bounds_persistRecoveredShadow kept record.devices).bindLift fun stored _ => ?_
    split
    · exact (bounds_storeInDoubt _ _ keptRecovering).bindResult fun _ => trivial
    · exact bounds_bindResult (keeps_storePhase .recovered .committed keptRecovering)
        fun _ _ => trivial
  · exact bounds_bindResult (keeps_storePhase .recovered _ keptRecovering) fun _ _ => trivial

theorem bounds_carryOut (action : RecoveryAction) (kept : discipline.keeps record) :
    discipline.Bounds (carryOut record action).run := by
  have recovers : ∀ action, discipline.Bounds (do
      let recovering ← storePhase .recovering record .recovering
      let found ← ExceptT.lift (recoverRecord record action).run
      settleRecovered record recovering found : CoreResult Bool).run := by
    intro action
    refine bounds_bindResult (keeps_storePhase .recovering .recovering kept) ?_
    intro recovering keptRecovering
    exact (bounds_recoverRecord record action).bindLift fun found _ =>
      bounds_settleRecovered kept keptRecovering
  cases action with
  | noop => trivial
  | manualIntervention =>
      dsimp only [carryOut]
      split
      · trivial
      · exact bounds_bindResult (keeps_storePhase .manualIntervention .inDoubt kept)
          fun _ _ => trivial
  | discardPreparedChanges => exact recovers .discardPreparedChanges
  | adapterRecover => exact recovers .adapterRecover

/-- A record that is read from the journal may be stored again. -/
theorem keeps_journalGet (txId : String) :
    discipline.toDiscipline.Keeps (journalGet txId) (OnSuccess fun found =>
      ∀ record, found = some record → discipline.keeps record) := by
  refine keeps_free rfl ?_
  rintro _ isHonest _ rfl record rfl
  exact discipline.reads isHonest

theorem bounds_recoverLocked (gate : RecoveryRecordGate) (txId : String) (tally : RecoveryTally) :
    discipline.Bounds (recoverLocked gate txId tally).run := by
  refine bounds_bindResult (keeps_journalGet txId) fun found kept => ?_
  cases found with
  | none => trivial
  | some record =>
      dsimp only
      split
      · exact (bounds_carryOut _ (kept record rfl)).bindResult fun _ => trivial
      · trivial

theorem bounds_underLocks {α : Type} {program : CoreResult α} (deviceIds : List DeviceId)
    (bounded : discipline.Bounds program.run) :
    discipline.Bounds (underLocks deviceIds program).run := by
  have acquires : ∀ ids, discipline.Bounds (acquireMany ids) := by
    intro ids
    induction ids with
    | nil => trivial
    | cons id rest ih => exact Confined.bind (bounds_lock rfl) fun _ _ => ih
  refine (acquires _).bind fun _ _ => bounded.bind fun outcome _ => ?_
  exact Confined.bind (bounds_lock rfl) fun _ _ => trivial

theorem bounds_recoverRecords (candidates : List TxJournalRecord) (scope : RecoveryReportScope)
    (gate : RecoveryRecordGate) :
    discipline.Bounds (recoverRecords candidates scope gate).run := by
  have recovers : ∀ tally, discipline.Bounds (recoverCandidates gate candidates tally).run := by
    induction candidates with
    | nil => exact fun _ => trivial
    | cons candidate rest ih =>
        intro tally
        exact (bounds_underLocks _ (bounds_recoverLocked gate _ tally)).bindResult ih
  have lists : discipline.Bounds listRecoverable := bounds_free rfl
  exact (recovers {}).bindResult fun tally => Bounds.bindResult lists fun _ => trivial

end Recovery

/-! ## Force resolve -/

theorem keeps_existingRecord (txId : String) :
    discipline.toDiscipline.Keeps (existingRecord txId).run (OnSuccess discipline.keeps) := by
  refine Confined.bindResult (keeps_journalGet txId) (fun found kept => ?_)
    fun _ _ _ impossible => nomatch impossible
  cases found with
  | none => exact fun _ impossible => nomatch impossible
  | some record =>
      rintro _ ⟨rfl⟩
      exact kept _ rfl record rfl

theorem bounds_appendAudit (audit : ProductAuditRecord) :
    discipline.Bounds (appendAudit audit) := by
  have appends : discipline.Bounds (productAuditAppend audit) := bounds_free rfl
  exact appends.bind fun _ _ => trivial

theorem bounds_forceResolveLocked (request : ForceResolveTransactionRequest) :
    discipline.Bounds (forceResolveLocked request).run := by
  refine bounds_bindResult (keeps_existingRecord request.txId) fun record kept => ?_
  split
  · trivial
  · have authorizes : ∀ asked, discipline.Bounds (authorize asked) := fun _ => bounds_free rfl
    refine Bounds.bindResult (authorizes _) fun authorization => ?_
    refine Confined.bindLift keeps_nowUnixSecs fun auditedAt _ => ?_
    refine Bounds.bindResult (bounds_appendAudit _) fun _ => ?_
    refine Confined.bindLift keeps_nowUnixSecs fun resolvedAt _ => ?_
    have keptResolved : discipline.keeps (record.withManualResolution request.operator
        request.reason request.requestId (request.traceId.getD request.requestId) resolvedAt) :=
      discipline.subject (.withManualResolution (.refl record) _ _ _ _ resolvedAt) kept
    exact bounds_bindResult (keeps_storePhase .forceResolved .forceResolved keptResolved)
      fun _ _ => trivial

-- which requests are refused does not matter here
attribute [local irreducible] validateForceResolveRequest

theorem bounds_forceResolveTransaction (request : ForceResolveTransactionRequest) :
    discipline.Bounds (forceResolveTransaction request).run := by
  have validates : discipline.Bounds (.done (validateForceResolveRequest request)) := trivial
  refine Bounds.bindResult validates fun _ => ?_
  exact bounds_bindResult (keeps_existingRecord request.txId) fun candidate _ =>
    bounds_underLocks _ (bounds_forceResolveLocked request)

/-! ## The process -/

/-- The programs that the tasks run if applies are asked for certain states only. -/
inductive Entry (asked : DeviceDesiredState → Prop) : Core Unit → Prop where
  | applyDesiredStates
      (timeout : ℕ)
      (requestId traceId : String)
      (allowDegradedAtomicity : Bool)
      (driftPolicy : DriftPolicy)
      {desiredStates : List DeviceDesiredState}
      (asks : ∀ desired ∈ desiredStates, asked desired) :
      Entry asked do
        let _ ← AriaUnderlay.applyDesiredStates timeout requestId traceId allowDegradedAtomicity
          driftPolicy desiredStates
  | recoverPendingTransactions :
      Entry asked do
        let _ ← AriaUnderlay.recoverPendingTransactions.run
  | recoverTimedOutConfirmedCommits (nowUnixSecs timeoutSecs : ℕ) :
      Entry asked do
        let _ ← (AriaUnderlay.recoverTimedOutConfirmedCommits nowUnixSecs timeoutSecs).run
  | forceResolveTransaction (request : ForceResolveTransactionRequest) :
      Entry asked do
        let _ ← (AriaUnderlay.forceResolveTransaction request).run

theorem bounds_entry {program : Core Unit} (entry : Entry discipline.asked program) :
    discipline.Bounds program := by
  have lists : discipline.Bounds listRecoverable := bounds_free rfl
  cases entry with
  | applyDesiredStates _ _ _ _ _ asks =>
      exact (bounds_applyDesiredStates _ _ _ _ _ asks).bind fun _ _ => trivial
  | recoverPendingTransactions =>
      have recovers : discipline.Bounds recoverPendingTransactions.run :=
        Bounds.bindResult lists fun recoverable => bounds_recoverRecords _ _ _
      exact recovers.bind fun _ _ => trivial
  | recoverTimedOutConfirmedCommits now timeout =>
      have recovers : discipline.Bounds (recoverTimedOutConfirmedCommits now timeout).run :=
        Bounds.bindResult lists fun recoverable => bounds_recoverRecords _ _ _
      exact recovers.bind fun _ _ => trivial
  | forceResolveTransaction request =>
      exact (bounds_forceResolveTransaction request).bind fun _ _ => trivial

/-- What the permitted calls and a restart preserve holds in every pool of the process, if it makes
the answers of the stores honest. -/
theorem invariant_of_keeps {invariant : World → Prop}
    (answers : ∀ {thread world op answer after}, invariant world →
      coreEnvironment.respond thread world op answer after → discipline.honest op answer)
    (preserved : ∀ {thread world op answer after}, discipline.may op → invariant world →
      coreEnvironment.respond thread world op answer after → invariant after)
    (restarts : ∀ {world}, invariant world → invariant world.restart)
    (start : invariant World.initial)
    {pool : Pool coreSignature Thread World}
    (reaches : Pool.Reachable coreEnvironment (Entry discipline.asked) World.initial pool) :
    invariant pool.world := by
  let contract : Contract Thread World :=
    { guarantee := fun _ before after => invariant before → invariant after
      rely := fun _ _ _ => True
      invariant := invariant }
  have sound : contract.Sound coreEnvironment (Entry discipline.asked) :=
    { rely_refl := fun _ _ => trivial
      rely_trans := fun _ _ _ _ _ _ => trivial
      guarantee_rely := fun _ _ _ _ _ _ => trivial
      guarantee_invariant := fun _ _ _ holds kept => kept holds
      restart_invariant := fun _ holds => restarts holds
      entry_ensures := fun program entry thread world holds => by
        have ensures : Ensures coreEnvironment contract thread program (fun _ _ => True ∧ True)
            world := by
          refine Confined.ensures (fun _ => trivial) (fun _ _ => trivial) answers ?_
            (fun _ => trivial) (bounds_entry entry) holds
          exact fun permitted holds responds =>
            ⟨fun _ => preserved permitted holds responds, trivial⟩
        exact ensures.mono fun _ _ _ => trivial }
  exact sound.invariant start reaches

end TaskDiscipline

end AriaUnderlay
