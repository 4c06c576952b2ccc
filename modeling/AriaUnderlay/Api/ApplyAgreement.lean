import AriaUnderlay.Api.ApplyTable

/-!
# Journal, device and answer after an apply

Two questions about the end of an apply: does a durable `Failed` mean that the device was left
alone, and does the answer to the caller agree with the journal?  Both are settled for every
environment by reading the decision table.
-/

namespace AriaUnderlay

open Effect

/-! ## Which applies start a transaction -/

namespace ApplyEnv

variable (env : ApplyEnv) (world : World) (desired : DeviceDesiredState)

def inDoubtGate : Except UnderlayError Unit := do
  env.listRecoverable
  refuseInDoubt (recoverableRecords world.journal) [desired.deviceId]

def driftGate (driftPolicy : DriftPolicy) : Except UnderlayError Unit :=
  if driftPolicy = .reportOnly then pure ()
  else do
    let managed ← env.managed .driftGate desired.deviceId
    refuseDrift driftPolicy
      (if managed.info.lifecycleState = .drifted then [desired.deviceId] else [])

/-- The plan for the device. -/
def dryRun : Except UnderlayError DryRunPlan := do
  let _ ← env.managed .dryRun desired.deviceId
  env.client .dryRun
  let current ← env.currentState
  env.observedPut
  buildDryRunPlan [desired] [current]

/-- The three gates under the lock. -/
def gateUnderLock (driftPolicy : DriftPolicy) : Except UnderlayError DryRunPlan := do
  env.inDoubtGate world desired
  env.driftGate desired driftPolicy
  env.dryRun desired

def gate (driftPolicy : DriftPolicy) : Except UnderlayError DryRunPlan := do
  env.acquire
  env.gateUnderLock world desired driftPolicy

/-- The apply gets past the no-op check. -/
def proceeds (driftPolicy : DriftPolicy) : Bool :=
  match env.gate world desired driftPolicy with
  | .ok plan => !plan.isNoop
  | .error _ => false

/-- What such an apply is going to change. -/
def change : ChangeSet :=
  match env.currentState with
  | .ok current => computeDiff desired current
  | .error _ => { deviceId := desired.deviceId, ops := [] }

end ApplyEnv

variable {timeoutSecs : ℕ} {allowDegradedAtomicity degraded : Bool} {durable : Option TxPhase}
  {phase : TxPhase}

section Front

variable {env : ApplyEnv} {world : World} {desired : DeviceDesiredState}

theorem served_listRecoverable {post : Except UnderlayError (List TxJournalRecord) → World → Prop} :
    Served env.oracle listRecoverable post world ↔
      post (env.listRecoverable.map fun _ => recoverableRecords world.journal) world := by
  have settled : world.settle .journalListRecoverable (env.listRecoverable.map fun _ => []) =
      env.listRecoverable.map fun _ => recoverableRecords world.journal := by
    cases env.listRecoverable <;> rfl
  exact served_interact_settled env fun _ => settled

theorem served_getCurrentState {device : DeviceInfo}
    {post : Except UnderlayError DeviceShadowState → World → Prop} :
    Served env.oracle (getCurrentState device desired) post world ↔
      post env.currentState world :=
  served_interact_settled env fun _ => rfl

variable {post : Except UnderlayError Unit → World → Prop}

theorem served_observedPut {state : DeviceShadowState} :
    Served env.oracle (observedPut state) post world ↔
      post env.observedPut (world.after 0 (.observedPut state) env.observedPut) :=
  served_interact_settled env fun _ => rfl

theorem served_acquireWithPolicy {deviceIds : List DeviceId} :
    Served env.oracle (acquireWithPolicy deviceIds) post world ↔
      post env.acquire (world.after 0 (.acquireWithPolicy deviceIds) env.acquire) :=
  served_interact_settled env fun _ => rfl

theorem served_release {deviceIds : List DeviceId} {post : Unit → World → Prop} :
    Served env.oracle (release deviceIds) post world ↔
      post () (world.after 0 (.release deviceIds) ()) :=
  served_interact_settled env fun _ => rfl

theorem served_ensureNoInDoubtForDevices :
    Served env.oracle (ensureNoInDoubtForDevices [desired.deviceId]).run post world ↔
      post (env.inDoubtGate world desired) world := by
  simp only [ensureNoInDoubtForDevices, ApplyEnv.inDoubtGate, ExceptT.run_bind, ensures_bind,
    ExceptT.run_mk, served_listRecoverable]
  cases env.listRecoverable <;> exact Iff.rfl

theorem served_ensureDriftPolicyAllowsApply {driftPolicy : DriftPolicy} :
    Served env.oracle (ensureDriftPolicyAllowsApply [desired.deviceId] driftPolicy).run post
      world ↔ post (env.driftGate desired driftPolicy) world := by
  unfold ensureDriftPolicyAllowsApply ApplyEnv.driftGate
  split
  · exact Iff.rfl
  · simp only [driftedDevices, ExceptT.run_bind, ensures_bind, ExceptT.run_mk,
      served_inventoryGet]
    cases env.managed .driftGate desired.deviceId <;> exact Iff.rfl

theorem served_dryRunDesiredStates {post : Except UnderlayError DryRunPlan → World → Prop}
    (holds : ∀ after, after.trace env.txId = world.trace env.txId →
      post (env.dryRun desired) after) :
    Served env.oracle (dryRunDesiredStates [desired]).run post world := by
  simp only [dryRunDesiredStates, fetchCurrentStates, ExceptT.run_bind, ensures_bind,
    ExceptT.run_mk, served_inventoryGet]
  unfold ApplyEnv.dryRun at holds
  cases found : env.managed .dryRun desired.deviceId with
  | error error =>
      simp only [found] at holds
      exact holds world rfl
  | ok managed =>
      simp only [ensures_bind, served_adapterClient]
      cases reached : env.client .dryRun with
      | error error =>
          simp only [found, reached] at holds
          exact holds world rfl
      | ok _ =>
          simp only [ensures_bind, served_getCurrentState]
          cases read : env.currentState with
          | error error =>
              simp only [found, reached, read] at holds
              exact holds world rfl
          | ok current =>
              simp only [ensures_bind, served_observedPut]
              cases stored : env.observedPut with
              | error error =>
                  simp only [found, reached, read, stored] at holds
                  exact holds _ rfl
              | ok _ =>
                  simp only [found, reached, read, stored] at holds
                  exact holds _ rfl

/-- A dry run plans the change of its one device. -/
theorem changeSets_of_dryRun {plan : DryRunPlan} (planned : env.dryRun desired = .ok plan) :
    plan.changeSets = [env.change desired] := by
  simp only [ApplyEnv.dryRun, bind_eq_ok] at planned
  obtain ⟨_, -, _, -, current, read, _, -, built⟩ := planned
  by_cases same : current.deviceId = desired.deviceId
  · simp [buildDryRunPlan, same, bind, Except.bind, pure, Except.pure] at built
    simp [ApplyEnv.change, read, ← built]
  · simp [buildDryRunPlan, same, bind, Except.bind] at built

theorem changeSetFor_of_dryRun {plan : DryRunPlan} (planned : env.dryRun desired = .ok plan) :
    plan.changeSetFor desired.deviceId = some (env.change desired) := by
  have named : (env.change desired).deviceId = desired.deviceId := by
    unfold ApplyEnv.change
    cases env.currentState <;> rfl
  simp [DryRunPlan.changeSetFor, changeSets_of_dryRun planned, named]

/-- An apply either stops before its transaction or ends as the table says. -/
def ApplyEnv.Concludes (env : ApplyEnv) (timeoutSecs : ℕ) (desired : DeviceDesiredState)
    (allowDegradedAtomicity : Bool) (before : TxTrace) (planned : Except UnderlayError DryRunPlan)
    (result : DeviceApplyResult) (after : World) : Prop :=
  match planned with
  | .error _ => after.trace env.txId = before
  | .ok plan =>
      if plan.isNoop then after.trace env.txId = before
      else (result.status, after.trace env.txId) =
        env.transactionEnd timeoutSecs desired (env.change desired) allowDegradedAtomicity before

theorem served_applyUnderLock {requestId traceId : String} {driftPolicy : DriftPolicy} :
    Served env.oracle
      (applyUnderLock timeoutSecs requestId traceId desired allowDegradedAtomicity driftPolicy)
      (env.Concludes timeoutSecs desired allowDegradedAtomicity (world.trace env.txId)
        (env.gateUnderLock world desired driftPolicy)) world := by
  simp only [applyUnderLock, ensures_bind, served_ensureNoInDoubtForDevices]
  unfold ApplyEnv.gateUnderLock
  cases env.inDoubtGate world desired with
  | error _ => exact rfl
  | ok _ =>
      simp only [ensures_bind, served_ensureDriftPolicyAllowsApply]
      cases env.driftGate desired driftPolicy with
      | error _ => exact rfl
      | ok _ =>
          simp only [ensures_bind]
          apply served_dryRunDesiredStates
          intro after traceEq
          cases planned : env.dryRun desired with
          | error _ => exact traceEq
          | ok plan =>
              cases noop : plan.isNoop with
              | true => simp [noop, ApplyEnv.Concludes, bind, Except.bind, traceEq]
              | false =>
                  have nonempty : (env.change desired).isEmpty = false := by
                    simpa [DryRunPlan.isNoop, changeSets_of_dryRun planned] using noop
                  have transacted := @served_applyTransaction env timeoutSecs requestId traceId
                    desired allowDegradedAtomicity plan _ after (changeSetFor_of_dryRun planned)
                    nonempty
                  rw [traceEq] at transacted
                  simp only [noop, Bool.false_eq_true, if_false]
                  refine transacted.mono fun result later ended => ?_
                  simpa [ApplyEnv.Concludes, noop, bind, Except.bind] using ended

theorem served_applySingleEndpointState {timeoutSecs : ℕ} {requestId traceId : String}
    {allowDegradedAtomicity : Bool} {driftPolicy : DriftPolicy} :
    Served env.oracle
      (applySingleEndpointState timeoutSecs requestId traceId desired allowDegradedAtomicity
        driftPolicy)
      (env.Concludes timeoutSecs desired allowDegradedAtomicity (world.trace env.txId)
        (env.gate world desired driftPolicy)) world := by
  simp only [applySingleEndpointState, ensures_bind, served_acquireWithPolicy]
  unfold ApplyEnv.gate
  cases env.acquire with
  | error _ => exact rfl
  | ok _ =>
      simp only [ensures_bind]
      refine Ensures.mono served_applyUnderLock fun result after concludes => ?_
      -- neither the lock nor its release touches the journal
      simp only [ensures_bind, served_release]
      exact concludes

end Front

/-! ## The stages of the endpoint -/

namespace ApplyEnv

variable (env : ApplyEnv) (timeoutSecs : ℕ) (desired : DeviceDesiredState)
variable (changeSet : ChangeSet) (strategy : TransactionStrategy)

/-- A commit is accepted before anything goes wrong. -/
def acceptsCommit : Bool :=
  env.puts .strategySelected && env.prepares desired && env.puts .prepared &&
    env.puts .committing && env.commits desired strategy timeoutSecs

/-- After an accepted commit, every write and every call up to the last confirmation succeeds. -/
def concludesCommit : Bool :=
  env.puts .verifying && env.verifies desired changeSet && env.puts .finalConfirming &&
    env.confirms strategy

/-- After an accepted commit, a call is rejected. -/
def rejectsCommitted : Bool :=
  env.puts .verifying &&
    (!env.verifies desired changeSet || env.puts .finalConfirming && !env.confirms strategy)

/-- Up to the commit, a call is rejected. -/
def rejectsUncommitted : Bool :=
  env.puts .strategySelected &&
    (!env.prepares desired ||
      env.puts .prepared && env.puts .committing && !env.commits desired strategy timeoutSecs)

/-- Every step of the change succeeds. -/
def completes : Bool :=
  env.acceptsCommit timeoutSecs desired strategy && env.concludesCommit desired changeSet strategy

/-- A call of the change is rejected, which is answered by a rollback. -/
def rejects : Bool :=
  if env.acceptsCommit timeoutSecs desired strategy then
    env.rejectsCommitted desired changeSet strategy
  else env.rejectsUncommitted timeoutSecs desired strategy

end ApplyEnv

section Stages

variable {env : ApplyEnv} {desired : DeviceDesiredState}
variable {changeSet : ChangeSet} {strategy : TransactionStrategy}

/-- A phase in which the endpoint is being changed. -/
def TxPhase.isWorking : TxPhase → Bool
  | .preparing | .prepared | .committing | .verifying | .finalConfirming => true
  | _ => false

theorem StepEnd.andThen_assoc (first : StepEnd) (second third : TxTrace → StepEnd) :
    (first.andThen second).andThen third =
      first.andThen fun trace => (second trace).andThen third := by
  rcases first with ⟨_ | _, phase, trace⟩ <;> rfl

/-- The three ways in which a part of the change can end: every call and every write succeeded, the
last call was rejected and rolled back, or a write failed. -/
inductive PartEnd (env : ApplyEnv) (strategy : TransactionStrategy) (target : TxPhase)
    (before after : Bool) :
    (completes rejects : Bool) → StepEnd → Prop where
  | completed {rejects : Bool} :
      PartEnd env strategy target before after true rejects
        ⟨true, target, ⟨some target, after, false⟩⟩
  | rejected (phase : TxPhase) (working : phase.isWorking = true) :
      PartEnd env strategy target before after false true
        (env.rejectedEnd strategy phase ⟨some phase, before, false⟩)
  | interrupted
      (phase durable : TxPhase)
      (working : phase.isWorking = true)
      (durableWorking : durable.isWorking = true) :
      PartEnd env strategy target before after false false
        ⟨false, phase, ⟨some durable, before, false⟩⟩

theorem call_commit (trace : TxTrace) :
    trace.call (.commit strategy timeoutSecs (env.checksum desired))
        (env.adapter (.commit strategy timeoutSecs (env.checksum desired))) =
      { trace with accepted := trace.accepted || env.commits desired strategy timeoutSecs } := by
  simp [TxTrace.call, ApplyEnv.commits, AdapterCall.isSuccessfulRollback]

theorem partEnd_untilCommit :
    PartEnd env strategy .committing false true
      (env.acceptsCommit timeoutSecs desired strategy)
      (env.rejectsUncommitted timeoutSecs desired strategy)
      ((env.writeEnd .strategySelected .preparing ⟨some .preparing, false, false⟩).andThen
        fun trace => (env.prepareEnd desired strategy trace).andThen
          (env.commitEnd timeoutSecs desired strategy)) := by
  unfold ApplyEnv.acceptsCommit ApplyEnv.rejectsUncommitted ApplyEnv.prepareEnd
    ApplyEnv.commitEnd ApplyEnv.callEnd ApplyEnv.writeEnd
  simp only [call_commit]
  cases env.puts .strategySelected with
  | false => exact .interrupted .preparing .preparing rfl rfl
  | true =>
      cases env.prepares desired with
      | false => exact .rejected .preparing rfl
      | true =>
          cases env.puts .prepared with
          | false => exact .interrupted .prepared .preparing rfl rfl
          | true =>
              cases env.puts .committing with
              | false => exact .interrupted .committing .prepared rfl rfl
              | true =>
                  cases env.commits desired strategy timeoutSecs with
                  | false => exact .rejected .committing rfl
                  | true => exact .completed

theorem partEnd_afterCommit :
    PartEnd env strategy .finalConfirming true true
      (env.concludesCommit desired changeSet strategy)
      (env.rejectsCommitted desired changeSet strategy)
      ((env.verifyEnd desired changeSet strategy ⟨some .committing, true, false⟩).andThen
        (env.confirmEnd strategy)) := by
  unfold ApplyEnv.concludesCommit ApplyEnv.rejectsCommitted ApplyEnv.verifyEnd
    ApplyEnv.confirmEnd ApplyEnv.callEnd ApplyEnv.writeEnd
  cases env.puts .verifying with
  | false => exact .interrupted .verifying .committing rfl rfl
  | true =>
      cases env.verifies desired changeSet with
      | false => exact .rejected .verifying rfl
      | true =>
          cases env.puts .finalConfirming with
          | false => exact .interrupted .finalConfirming .verifying rfl rfl
          | true =>
              by_cases confirmed : strategy = .confirmedCommit
              · simp only [confirmed, if_true]
                cases env.confirms .confirmedCommit with
                | false => exact .rejected .finalConfirming rfl
                | true => exact .completed
              · have confirms : env.confirms strategy = true := by
                  simp [ApplyEnv.confirms, confirmed]
                simp only [confirmed, if_false, confirms]
                exact .completed

theorem partEnd_endpoint
    (chosen : env.strategy desired.deviceId allowDegradedAtomicity = .ok strategy) :
    PartEnd env strategy .finalConfirming (env.acceptsCommit timeoutSecs desired strategy) true
      (env.completes timeoutSecs desired changeSet strategy)
      (env.rejects timeoutSecs desired changeSet strategy)
      (env.endpointEnd timeoutSecs desired changeSet allowDegradedAtomicity
        ⟨some .preparing, false, false⟩) := by
  have split : env.endpointEnd timeoutSecs desired changeSet allowDegradedAtomicity
      ⟨some .preparing, false, false⟩ =
      ((env.writeEnd .strategySelected .preparing ⟨some .preparing, false, false⟩).andThen
        fun trace => (env.prepareEnd desired strategy trace).andThen
          (env.commitEnd timeoutSecs desired strategy)).andThen
        fun trace => (env.verifyEnd desired changeSet strategy trace).andThen
          (env.confirmEnd strategy) := by
    simp only [ApplyEnv.endpointEnd, chosen, StepEnd.andThen_assoc]
    rfl
  have first := @partEnd_untilCommit timeoutSecs env desired strategy
  rw [split]
  unfold ApplyEnv.completes ApplyEnv.rejects
  generalize (env.writeEnd .strategySelected .preparing _).andThen _ = untilCommit at first ⊢
  generalize env.acceptsCommit timeoutSecs desired strategy = accepts at first ⊢
  generalize env.rejectsUncommitted timeoutSecs desired strategy = rejects at first ⊢
  cases first with
  | completed => exact partEnd_afterCommit
  | rejected phase working => exact .rejected phase working
  | interrupted phase durable working durableWorking =>
      exact .interrupted phase durable working durableWorking

/-- An endpoint without a strategy is not touched. -/
theorem partEnd_unselected {allowDegradedAtomicity : Bool} {error : UnderlayError}
    (refused : env.strategy desired.deviceId allowDegradedAtomicity = .error error) :
    PartEnd env strategy .finalConfirming false true false false
      (env.endpointEnd timeoutSecs desired changeSet allowDegradedAtomicity
        ⟨some .preparing, false, false⟩) := by
  simp only [ApplyEnv.endpointEnd, refused]
  exact .interrupted .preparing .preparing rfl rfl

end Stages

section Working

variable {env : ApplyEnv} {strategy : TransactionStrategy}

theorem failedApplyPhase_of_isWorking (working : phase.isWorking = true) :
    failedApplyPhase phase = .failed := by
  cases phase <;> first | rfl | cases working

theorem requiresRecovery_of_isWorking (working : phase.isWorking = true) :
    phase.requiresRecovery = true := by
  cases phase <;> first | rfl | cases working

/-- Without a durable `RollingBack` nothing is rolled back. -/
theorem rejectedEnd_of_not_puts {trace : TxTrace} (unwritten : env.puts .rollingBack = false) :
    env.rejectedEnd strategy phase trace = ⟨false, phase, trace⟩ := by
  simp [ApplyEnv.rejectedEnd, ApplyEnv.rollbackEnd, unwritten]

/-- The rollback of a call that was rejected. -/
theorem rejectedEnd_of_puts {accepted : Bool} (written : env.puts .rollingBack = true) :
    env.rejectedEnd strategy phase ⟨durable, accepted, false⟩ =
      let settled := if env.rollsBack strategy then .rolledBack else .inDoubt
      ⟨false, settled,
        ⟨some (if env.puts .rollbackOutcome then settled else .rollingBack), accepted,
          accepted && env.rollsBack strategy⟩⟩ := by
  have rolled : (AdapterCall.rollback (some strategy)).isSuccessfulRollback
      (env.adapter (.rollback (some strategy))) = env.rollsBack strategy := rfl
  simp only [ApplyEnv.rejectedEnd, ApplyEnv.rollbackEnd, written, if_true, ApplyEnv.undoEnd,
    ApplyEnv.writeEnd, TxTrace.call, TxTrace.store, rolled]
  cases env.rollsBack strategy <;> cases env.puts .rollbackOutcome <;>
    simp [AdapterCall.isAcceptedCommit]

end Working

/-! ## A durable failure and the device -/

/-- A durable `Failed` means that the device was left alone: no commit was accepted, or it was
rolled back.  A commit that stands is left `Committed` or to recovery. -/
def FailedMeansUnchanged (world : World) (txId : String) : Prop :=
  (∀ record, world.journal[txId]? = some record → record.phase = .failed →
    (∀ event ∈ world.history txId, event.isAcceptedCommit = false) ∨
      rolledBackAfterCommit (world.history txId) = true) ∧
  ((∃ event ∈ world.history txId, event.isAcceptedCommit = true) →
    rolledBackAfterCommit (world.history txId) = false →
    ∃ record, world.journal[txId]? = some record ∧
      (record.phase.requiresRecovery = true ∨ record.phase = .committed))

def TxTrace.FailedMeansUnchanged (trace : TxTrace) : Prop :=
  (trace.phase = some .failed → trace.accepted = false ∨ trace.undone = true) ∧
  (trace.accepted = true → trace.undone = false →
    ∃ phase, trace.phase = some phase ∧ (phase.requiresRecovery = true ∨ phase = .committed))

theorem failedMeansUnchanged_iff_trace {world : World} {txId : String} :
    FailedMeansUnchanged world txId ↔ (world.trace txId).FailedMeansUnchanged := by
  cases stored : world.journal[txId]? <;>
    simp [FailedMeansUnchanged, TxTrace.FailedMeansUnchanged, World.trace, stored]

namespace ApplyEnv

variable (env : ApplyEnv) (timeoutSecs : ℕ) (desired : DeviceDesiredState)
variable (allowDegradedAtomicity : Bool)

/-- After an accepted commit the change stops without a durable `RollingBack`, and the journal takes
the final write. -/
def abandonsCommit (changeSet : ChangeSet) : Bool :=
  env.puts .started && env.puts .preparing &&
    match env.strategy desired.deviceId allowDegradedAtomicity with
    | .error _ => false
    | .ok strategy =>
        env.acceptsCommit timeoutSecs desired strategy &&
          !env.completes timeoutSecs desired changeSet strategy &&
          !(env.rejects timeoutSecs desired changeSet strategy && env.puts .rollingBack) &&
          env.puts .failedApply

end ApplyEnv

section FailedMeansUnchanged

variable {env : ApplyEnv} {strategy : TransactionStrategy} {accepted undone : Bool}

theorem failedMeansUnchanged_of_requiresRecovery
    (left : phase.requiresRecovery = true ∨ phase = .committed) :
    TxTrace.FailedMeansUnchanged ⟨some phase, accepted, undone⟩ := by
  refine ⟨fun failed => ?_, fun _ _ => ⟨phase, rfl, left⟩⟩
  obtain rfl : phase = .failed := Option.some_inj.mp failed
  rcases left with recovers | committed
  · cases recovers
  · cases committed

theorem failedMeansUnchanged_failed :
    TxTrace.FailedMeansUnchanged ⟨some .failed, accepted, false⟩ ↔ accepted = false := by
  constructor
  · rintro ⟨unchanged, -⟩
    simpa using unchanged rfl
  · rintro rfl
    exact ⟨fun _ => .inl rfl, fun impossible => by cases impossible⟩

theorem failedMeansUnchanged_rolledBack :
    TxTrace.FailedMeansUnchanged ⟨some .rolledBack, accepted, accepted⟩ := by
  refine ⟨nofun, ?_⟩
  rintro rfl impossible
  cases impossible

theorem failedMeansUnchanged_interrupted {durable : TxPhase} (working : phase.isWorking = true)
    (durableWorking : durable.isWorking = true) :
    (env.failureEnd phase ⟨some durable, accepted, false⟩).2.FailedMeansUnchanged ↔
      (env.puts .failedApply && accepted) = false := by
  simp only [ApplyEnv.failureEnd, failedApplyPhase_of_isWorking working, TxTrace.store]
  cases env.puts .failedApply with
  | true => exact failedMeansUnchanged_failed
  | false =>
      exact iff_of_true (failedMeansUnchanged_of_requiresRecovery
        (.inl (requiresRecovery_of_isWorking durableWorking))) rfl

theorem failedMeansUnchanged_rejected (written : env.puts .rollingBack = true) :
    let final := env.rejectedEnd strategy phase ⟨durable, accepted, false⟩
    (env.failureEnd final.phase final.trace).2.FailedMeansUnchanged := by
  simp only [rejectedEnd_of_puts written, ApplyEnv.failureEnd, TxTrace.store]
  cases env.rollsBack strategy with
  | true =>
      have undone := @failedMeansUnchanged_rolledBack accepted
      rw [Bool.and_true]
      cases env.puts .failedApply with
      | true => exact undone
      | false =>
          cases env.puts .rollbackOutcome with
          | true => exact undone
          | false => exact failedMeansUnchanged_of_requiresRecovery (.inl rfl)
  | false =>
      cases env.puts .failedApply <;> cases env.puts .rollbackOutcome <;>
        exact failedMeansUnchanged_of_requiresRecovery (.inl rfl)

theorem failedMeansUnchanged_success :
    (env.successEnd degraded ⟨some .finalConfirming, true, false⟩).2.FailedMeansUnchanged := by
  simp only [ApplyEnv.successEnd, TxTrace.store]
  cases env.puts .committed with
  | false => exact failedMeansUnchanged_of_requiresRecovery (.inl rfl)
  | true =>
      cases env.shadowUpdates with
      | true => exact failedMeansUnchanged_of_requiresRecovery (.inr rfl)
      | false =>
          cases env.puts .shadowFailure with
          | true => exact failedMeansUnchanged_of_requiresRecovery (.inl rfl)
          | false => exact failedMeansUnchanged_of_requiresRecovery (.inr rfl)

theorem failedMeansUnchanged_closeEnd {completes rejects : Bool} {final : StepEnd}
    (part : PartEnd env strategy .finalConfirming accepted true completes rejects final) :
    (env.closeEnd degraded final).2.FailedMeansUnchanged ↔
      (accepted && !completes && !(rejects && env.puts .rollingBack) &&
        env.puts .failedApply) = false := by
  cases part with
  | completed => exact iff_of_true failedMeansUnchanged_success (by simp)
  | rejected phase working =>
      cases written : env.puts .rollingBack with
      | true => exact iff_of_true (failedMeansUnchanged_rejected written) (by simp)
      | false =>
          rw [rejectedEnd_of_not_puts written]
          refine (failedMeansUnchanged_interrupted working working).trans ?_
          cases accepted <;> simp
  | interrupted phase durable working durableWorking =>
      refine (failedMeansUnchanged_interrupted working durableWorking).trans ?_
      cases accepted <;> simp

theorem failedMeansUnchanged_transactionEnd {desired : DeviceDesiredState} {changeSet : ChangeSet} :
    (env.transactionEnd timeoutSecs desired changeSet allowDegradedAtomicity
      ⟨none, false, false⟩).2.FailedMeansUnchanged ↔
      env.abandonsCommit timeoutSecs desired allowDegradedAtomicity changeSet = false := by
  unfold ApplyEnv.transactionEnd ApplyEnv.startedEnd ApplyEnv.abandonsCommit
  cases env.puts .started with
  | false => exact iff_of_true ⟨nofun, nofun⟩ rfl
  | true =>
      cases env.puts .preparing with
      | false => exact iff_of_true (failedMeansUnchanged_of_requiresRecovery (.inl rfl)) rfl
      | true =>
          cases chosen : env.strategy desired.deviceId allowDegradedAtomicity with
          | error _ =>
              have unselected := @partEnd_unselected timeoutSecs env desired changeSet
                .confirmedCommit _ _ chosen
              exact failedMeansUnchanged_closeEnd unselected
          | ok strategy => exact failedMeansUnchanged_closeEnd (partEnd_endpoint chosen)

end FailedMeansUnchanged

/-- An apply that gets past the no-op check ends as the table says, any other apply leaves no
trace. -/
theorem concludes_runAlone {env : ApplyEnv} {world : World} {timeoutSecs : ℕ}
    {requestId traceId : String} {desired : DeviceDesiredState} {allowDegradedAtomicity : Bool}
    {driftPolicy : DriftPolicy} (unused : world.Unused env.txId) :
    let final := runAlone env.oracle (applySingleEndpointState timeoutSecs requestId traceId desired
      allowDegradedAtomicity driftPolicy) world
    if env.proceeds world desired driftPolicy then
      (final.1.status, final.2.trace env.txId) =
        env.transactionEnd timeoutSecs desired (env.change desired) allowDegradedAtomicity
          ⟨none, false, false⟩
    else final.2.trace env.txId = ⟨none, false, false⟩ := by
  have concluded := Served.runAlone (@served_applySingleEndpointState env world desired timeoutSecs
    requestId traceId allowDegradedAtomicity driftPolicy)
  rw [trace_of_unused unused] at concluded
  unfold ApplyEnv.proceeds
  unfold ApplyEnv.Concludes at concluded
  cases planned : env.gate world desired driftPolicy with
  | error _ => simpa [planned] using concluded
  | ok plan =>
      cases noop : plan.isNoop <;> simpa [planned, noop] using concluded

theorem failedMeansUnchanged_iff (env : ApplyEnv) (world : World) (timeoutSecs : ℕ)
    (requestId traceId : String) (desired : DeviceDesiredState) (allowDegradedAtomicity : Bool)
    (driftPolicy : DriftPolicy) (unused : world.Unused env.txId) :
    FailedMeansUnchanged (runAlone env.oracle (applySingleEndpointState timeoutSecs requestId
      traceId desired allowDegradedAtomicity driftPolicy) world).2 env.txId ↔
      (env.proceeds world desired driftPolicy &&
        env.abandonsCommit timeoutSecs desired allowDegradedAtomicity (env.change desired)) =
          false := by
  have concluded := @concludes_runAlone env world timeoutSecs requestId traceId desired
    allowDegradedAtomicity driftPolicy unused
  rw [failedMeansUnchanged_iff_trace]
  cases proceeds : env.proceeds world desired driftPolicy with
  | false =>
      simp only [proceeds, Bool.false_eq_true, if_false] at concluded
      rw [concluded]
      exact iff_of_true ⟨nofun, nofun⟩ rfl
  | true =>
      simp only [proceeds, if_true] at concluded
      rw [show (runAlone env.oracle (applySingleEndpointState timeoutSecs requestId traceId desired
        allowDegradedAtomicity driftPolicy) world).2.trace env.txId = _ from
          congrArg Prod.snd concluded]
      exact failedMeansUnchanged_transactionEnd

/-- An environment in which everything succeeds but some writes of the journal. -/
def ApplyEnv.oblige (fails : PutSite → Bool) : ApplyEnv where
  acquire := .ok ()
  listRecoverable := .ok ()
  inventory := fun _ => .ok
    { info := { id := "leaf-a", adapterEndpoint := "http://adapter", lifecycleState := .ready }
      capability := some { recommendedStrategy := .confirmedCommit } }
  client := fun _ => .ok ()
  currentState := .ok { deviceId := "leaf-a", revision := 1 }
  capabilities := .ok { recommendedStrategy := .confirmedCommit }
  observedPut := .ok ()
  clock := fun position => position
  txId := "tx-1"
  put := fun site => if fails site then .error "no space left on device" else .ok ()
  adapter := fun call => .ok
    { status := match call with
        | .prepare _ => .prepared
        | .commit _ _ _ => .confirmedCommitPending
        | .verify _ _ => .noChange
        | .finalConfirm => .committed
        | .rollback _ => .rolledBack
        | .recover _ _ => .rolledBack }
  shadowGet := .ok ()
  shadowPut := .ok ()

def newVlan : DeviceDesiredState where
  deviceId := "leaf-a"
  vlans := .ofList [((100 : UInt16), (⟨100, some "prod", none⟩ : VlanConfig))]

theorem unused_initial (txId : String) : World.initial.Unused txId :=
  ⟨rfl, by simp [World.initial], rfl⟩

theorem failedMeansUnchanged_oblige :
    FailedMeansUnchanged (runAlone (ApplyEnv.oblige fun _ => false).oracle
      (applySingleEndpointState 120 "req-1" "trace-1" newVlan false .reportOnly)
        World.initial).2 "tx-1" :=
  (failedMeansUnchanged_iff (ApplyEnv.oblige fun _ => false) World.initial 120 "req-1" "trace-1"
    newVlan false .reportOnly (unused_initial "tx-1")).mpr (by decide +kernel)

/-- The write of `Verifying` fails after the commit was accepted: the journal says `Failed` while
the confirmed commit is still pending on the device. -/
theorem not_failedMeansUnchanged_verifying :
    ¬ FailedMeansUnchanged (runAlone (ApplyEnv.oblige (· = .verifying)).oracle
      (applySingleEndpointState 120 "req-1" "trace-1" newVlan false .reportOnly)
        World.initial).2 "tx-1" := by
  have left : (runAlone (ApplyEnv.oblige (· = .verifying)).oracle
      (applySingleEndpointState 120 "req-1" "trace-1" newVlan false .reportOnly)
        World.initial).2.trace "tx-1" = ⟨some .failed, true, false⟩ := by
    decide +kernel
  rw [failedMeansUnchanged_iff_trace, left, failedMeansUnchanged_failed]
  exact Bool.noConfusion

/-! ## The answer and the journal -/

/-- A success is durably committed, a failure needs no recovery, a doubt does. -/
def AnswerAgrees (result : DeviceApplyResult) (world : World) (txId : String) : Prop :=
  (result.status = .success ∨ result.status = .successWithWarning →
    ∃ record, world.journal[txId]? = some record ∧ record.phase = .committed) ∧
  (result.status = .failed ∨ result.status = .rolledBack →
    ∀ record, world.journal[txId]? = some record → record.phase.requiresRecovery = false) ∧
  (result.status = .inDoubt →
    ∃ record, world.journal[txId]? = some record ∧ record.phase.requiresRecovery = true)

def statusAgrees (status : ApplyStatus) (durable : Option TxPhase) : Bool :=
  match status with
  | .success | .successWithWarning => durable = some .committed
  | .failed | .rolledBack => !durable.any TxPhase.requiresRecovery
  | .inDoubt => durable.any TxPhase.requiresRecovery
  | .noOpSuccess | .partialSuccess => true

theorem answerAgrees_iff_statusAgrees {result : DeviceApplyResult} {world : World} {txId : String} :
    AnswerAgrees result world txId ↔
      statusAgrees result.status (world.trace txId).phase = true := by
  cases stored : world.journal[txId]? <;> cases answered : result.status <;>
    simp [AnswerAgrees, statusAgrees, World.trace, stored, answered]

namespace ApplyEnv

variable (env : ApplyEnv) (timeoutSecs : ℕ) (desired : DeviceDesiredState)
variable (allowDegradedAtomicity : Bool)

/-- The writes that the answer depends on take place. -/
def keepsJournal (changeSet : ChangeSet) : Bool :=
  !env.puts .started || env.puts .preparing &&
    match env.strategy desired.deviceId allowDegradedAtomicity with
    | .error _ => env.puts .failedApply
    | .ok strategy =>
        if env.completes timeoutSecs desired changeSet strategy then
          !env.puts .committed || env.shadowUpdates || env.puts .shadowFailure
        else
          env.puts .failedApply ||
            env.rejects timeoutSecs desired changeSet strategy && env.puts .rollingBack &&
              (!env.rollsBack strategy || env.puts .rollbackOutcome)

end ApplyEnv

section AnswerAgrees

variable {env : ApplyEnv} {strategy : TransactionStrategy} {accepted : Bool}

theorem statusAgrees_interrupted {durable : TxPhase} {undone : Bool}
    (working : phase.isWorking = true) (durableWorking : durable.isWorking = true) :
    statusAgrees (env.failureEnd phase ⟨some durable, accepted, undone⟩).1
      (env.failureEnd phase ⟨some durable, accepted, undone⟩).2.phase = env.puts .failedApply := by
  simp only [ApplyEnv.failureEnd, failedApplyPhase_of_isWorking working, TxTrace.store]
  cases env.puts .failedApply with
  | true => rfl
  | false => simp [statusAgrees, applyStatusForFailedPhase,
      requiresRecovery_of_isWorking durableWorking]

theorem statusAgrees_rejected (written : env.puts .rollingBack = true) :
    let final := env.rejectedEnd strategy phase ⟨durable, accepted, false⟩
    statusAgrees (env.failureEnd final.phase final.trace).1
        (env.failureEnd final.phase final.trace).2.phase =
      (env.puts .failedApply || (!env.rollsBack strategy || env.puts .rollbackOutcome)) := by
  simp only [rejectedEnd_of_puts written, ApplyEnv.failureEnd, TxTrace.store]
  cases env.rollsBack strategy <;> cases env.puts .failedApply <;>
    cases env.puts .rollbackOutcome <;> rfl

theorem statusAgrees_success {trace : TxTrace} (confirming : trace.phase = some .finalConfirming) :
    statusAgrees (env.successEnd degraded trace).1 (env.successEnd degraded trace).2.phase =
      (!env.puts .committed || env.shadowUpdates || env.puts .shadowFailure) := by
  simp only [ApplyEnv.successEnd, TxTrace.store]
  cases env.puts .committed with
  | false => simp [statusAgrees, confirming, TxPhase.requiresRecovery]
  | true =>
      cases env.shadowUpdates with
      | false => cases env.puts .shadowFailure <;> rfl
      | true => cases degraded <;> rfl

theorem statusAgrees_closeEnd {completes rejects : Bool} {final : StepEnd}
    (part : PartEnd env strategy .finalConfirming accepted true completes rejects final) :
    statusAgrees (env.closeEnd degraded final).1 (env.closeEnd degraded final).2.phase =
      if completes then !env.puts .committed || env.shadowUpdates || env.puts .shadowFailure
      else
        env.puts .failedApply ||
          rejects && env.puts .rollingBack &&
            (!env.rollsBack strategy || env.puts .rollbackOutcome) := by
  cases part with
  | completed => exact statusAgrees_success rfl
  | rejected phase working =>
      cases written : env.puts .rollingBack with
      | true => exact statusAgrees_rejected written
      | false =>
          rw [rejectedEnd_of_not_puts written]
          exact (statusAgrees_interrupted working working).trans (by simp)
  | interrupted phase durable working durableWorking =>
      exact (statusAgrees_interrupted working durableWorking).trans (by simp)

theorem statusAgrees_transactionEnd {desired : DeviceDesiredState} {changeSet : ChangeSet} :
    let final := env.transactionEnd timeoutSecs desired changeSet allowDegradedAtomicity
      ⟨none, false, false⟩
    statusAgrees final.1 final.2.phase =
      env.keepsJournal timeoutSecs desired allowDegradedAtomicity changeSet := by
  unfold ApplyEnv.transactionEnd ApplyEnv.startedEnd ApplyEnv.keepsJournal
  cases env.puts .started with
  | false => rfl
  | true =>
      cases env.puts .preparing with
      | false => rfl
      | true =>
          cases chosen : env.strategy desired.deviceId allowDegradedAtomicity with
          | error _ =>
              have unselected := @partEnd_unselected timeoutSecs env desired changeSet
                .confirmedCommit _ _ chosen
              exact (statusAgrees_closeEnd unselected).trans (by simp)
          | ok strategy => exact statusAgrees_closeEnd (partEnd_endpoint chosen)

end AnswerAgrees

theorem answerAgrees_iff (env : ApplyEnv) (world : World) (timeoutSecs : ℕ)
    (requestId traceId : String) (desired : DeviceDesiredState) (allowDegradedAtomicity : Bool)
    (driftPolicy : DriftPolicy) (unused : world.Unused env.txId)
    (proceeds : env.proceeds world desired driftPolicy = true) :
    let final := runAlone env.oracle (applySingleEndpointState timeoutSecs requestId traceId desired
      allowDegradedAtomicity driftPolicy) world
    AnswerAgrees final.1 final.2 env.txId ↔
      env.keepsJournal timeoutSecs desired allowDegradedAtomicity (env.change desired) = true := by
  intro final
  have concluded := @concludes_runAlone env world timeoutSecs requestId traceId desired
    allowDegradedAtomicity driftPolicy unused
  simp only [proceeds, if_true] at concluded
  have answered : final.1.status = _ := congrArg Prod.fst concluded
  have left : final.2.trace env.txId = _ := congrArg Prod.snd concluded
  rw [answerAgrees_iff_statusAgrees, answered, left]
  exact iff_of_eq (congrArg (· = true) statusAgrees_transactionEnd)

theorem answerAgrees_oblige :
    let final := runAlone (ApplyEnv.oblige fun _ => false).oracle
      (applySingleEndpointState 120 "req-1" "trace-1" newVlan false .reportOnly) World.initial
    AnswerAgrees final.1 final.2 "tx-1" :=
  (answerAgrees_iff (ApplyEnv.oblige fun _ => false) World.initial 120 "req-1" "trace-1" newVlan
    false .reportOnly (unused_initial "tx-1") (by decide +kernel)).mpr (by decide +kernel)

/-- The write of `Preparing` fails: the caller is told `Failed`, while the journal holds a `Started`
record that blocks the device until it is recovered. -/
theorem not_answerAgrees_preparing :
    let env := ApplyEnv.oblige (· = .preparing)
    let final := runAlone env.oracle
      (applySingleEndpointState 120 "req-1" "trace-1" newVlan false .reportOnly) World.initial
    env.proceeds World.initial newVlan .reportOnly = true ∧
      ¬ AnswerAgrees final.1 final.2 "tx-1" := by
  intro env final
  refine ⟨by decide +kernel, ?_⟩
  rw [answerAgrees_iff_statusAgrees]
  decide +kernel

end AriaUnderlay
