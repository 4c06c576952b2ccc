import AriaUnderlay.Api.ApplyEnv

/-!
# How an apply ends

The steps of the coordinator act on the trace of their transaction as a small decision table
(`StepEnd`).  The code follows the table (`Behaves`), so a question about the end of an apply is a
question about the table.
-/

namespace AriaUnderlay

open Effect

/-! ## The decision table -/

/-- How a step ends: whether it succeeds, the phase of the record in memory, and the trace. -/
structure StepEnd where
  succeeds : Bool
  phase : TxPhase
  trace : TxTrace

def StepEnd.andThen (first : StepEnd) (next : TxTrace → StepEnd) : StepEnd :=
  if first.succeeds then next first.trace else first

namespace ApplyEnv

variable (env : ApplyEnv)

/-- A write of the record. -/
def writeEnd (site : PutSite) (phase : TxPhase) (trace : TxTrace) : StepEnd :=
  if env.puts site then ⟨true, phase, trace.store phase⟩ else ⟨false, phase, trace⟩

/-- The rollback call and the write of its outcome. -/
def undoEnd (strategy : TransactionStrategy) (trace : TxTrace) : StepEnd :=
  let call := AdapterCall.rollback (some strategy)
  let trace := trace.call call (env.adapter call)
  if env.rollsBack strategy then env.writeEnd .rollbackOutcome .rolledBack trace
  else { env.writeEnd .rollbackOutcome .inDoubt trace with succeeds := false }

/-- The rollback of a step that failed in the given phase. -/
def rollbackEnd (strategy : TransactionStrategy) (phase : TxPhase) (trace : TxTrace) : StepEnd :=
  if env.puts .rollingBack then env.undoEnd strategy (trace.store .rollingBack)
  else ⟨false, phase, trace⟩

/-- A step that failed in the given phase stays failed, whatever its rollback achieves. -/
def rejectedEnd (strategy : TransactionStrategy) (phase : TxPhase) (trace : TxTrace) : StepEnd :=
  { env.rollbackEnd strategy phase trace with succeeds := false }

/-- An adapter call that either succeeds in the given phase or is rolled back. -/
def callEnd (strategy : TransactionStrategy) (phase : TxPhase) (call : AdapterCall)
    (accepted : Bool) (trace : TxTrace) : StepEnd :=
  let trace := trace.call call (env.adapter call)
  if accepted then ⟨true, phase, trace⟩ else env.rejectedEnd strategy phase trace

variable (timeoutSecs : ℕ) (desired : DeviceDesiredState) (changeSet : ChangeSet)

def prepareEnd (strategy : TransactionStrategy) (trace : TxTrace) : StepEnd :=
  (env.callEnd strategy .preparing (.prepare desired) (env.prepares desired) trace).andThen
    (env.writeEnd .prepared .prepared)

/-- The write and the commit. -/
def commitEnd (strategy : TransactionStrategy) (trace : TxTrace) : StepEnd :=
  (env.writeEnd .committing .committing trace).andThen
    (env.callEnd strategy .committing (.commit strategy timeoutSecs (env.checksum desired))
      (env.commits desired strategy timeoutSecs))

/-- The write and the verification. -/
def verifyEnd (strategy : TransactionStrategy) (trace : TxTrace) : StepEnd :=
  (env.writeEnd .verifying .verifying trace).andThen
    (env.callEnd strategy .verifying (.verify desired changeSet)
      (env.verifies desired changeSet))

/-- The write and the confirmation. -/
def confirmEnd (strategy : TransactionStrategy) (trace : TxTrace) : StepEnd :=
  (env.writeEnd .finalConfirming .finalConfirming trace).andThen fun trace =>
    if strategy = .confirmedCommit then
      env.callEnd strategy .finalConfirming .finalConfirm (env.confirms strategy) trace
    else ⟨true, .finalConfirming, trace⟩

/-- The four stages in a row. -/
def stagesEnd (strategy : TransactionStrategy) (trace : TxTrace) : StepEnd :=
  (env.prepareEnd desired strategy trace).andThen fun trace =>
    (env.commitEnd timeoutSecs desired strategy trace).andThen fun trace =>
      (env.verifyEnd desired changeSet strategy trace).andThen
        (env.confirmEnd strategy)

def endpointEnd (allowDegradedAtomicity : Bool) (trace : TxTrace) : StepEnd :=
  match env.strategy desired.deviceId allowDegradedAtomicity with
  | .error _ => ⟨false, .preparing, trace⟩
  | .ok strategy =>
      (env.writeEnd .strategySelected .preparing trace).andThen
        (env.stagesEnd timeoutSecs desired changeSet strategy)

/-- The status that a successful endpoint leads to, and the trace it leaves. -/
def successEnd (degraded : Bool) (trace : TxTrace) : ApplyStatus × TxTrace :=
  if env.puts .committed then
    let trace := trace.store .committed
    if env.shadowUpdates then (if degraded then .successWithWarning else .success, trace)
    else (.inDoubt, if env.puts .shadowFailure then trace.store .inDoubt else trace)
  else (.inDoubt, trace)

def failureEnd (phase : TxPhase) (trace : TxTrace) : ApplyStatus × TxTrace :=
  let phase := failedApplyPhase phase
  (applyStatusForFailedPhase phase, if env.puts .failedApply then trace.store phase else trace)

/-- The end of a transaction. -/
def closeEnd (degraded : Bool) (final : StepEnd) : ApplyStatus × TxTrace :=
  if final.succeeds then env.successEnd degraded final.trace
  else env.failureEnd final.phase final.trace

def preparedEnd (allowDegradedAtomicity : Bool) (trace : TxTrace) : ApplyStatus × TxTrace :=
  let degraded := match env.strategy desired.deviceId allowDegradedAtomicity with
    | .ok strategy => strategy.isDegraded
    | .error _ => false
  env.closeEnd degraded
    (env.endpointEnd timeoutSecs desired changeSet allowDegradedAtomicity trace)

def startedEnd (allowDegradedAtomicity : Bool) (trace : TxTrace) : ApplyStatus × TxTrace :=
  if env.puts .preparing then
    env.preparedEnd timeoutSecs desired changeSet allowDegradedAtomicity (trace.store .preparing)
  else (.failed, trace)

/-- The whole transaction. -/
def transactionEnd (allowDegradedAtomicity : Bool) (trace : TxTrace) : ApplyStatus × TxTrace :=
  if env.puts .started then
    env.startedEnd timeoutSecs desired changeSet allowDegradedAtomicity (trace.store .started)
  else (.failed, trace)

end ApplyEnv

/-! ## The coordinator follows the table -/

variable {error : UnderlayError} {context : TxContext} {plan : DryRunPlan}
  {record : TxJournalRecord} {world : World} {changeSet : ChangeSet}

section Behaves

variable {α β : Type} (env : ApplyEnv) (txId : String)

/-- The result and the record of an endpoint function agree with one end of the table. -/
structure Reaches (strategy : Option TransactionStrategy) (target : TxPhase) (yields : α → Prop)
    (predicted : StepEnd) (final : Except UnderlayError α × TxJournalRecord)
    (after : World) : Prop where
  txId_eq : final.2.txId = txId
  strategy_eq : final.2.strategy = strategy
  phase_eq : final.2.phase = predicted.phase
  trace_eq : after.trace txId = predicted.trace
  result : match final.1 with
    | .ok value => predicted.succeeds = true ∧ predicted.phase = target ∧ yields value
    | .error _ => predicted.succeeds = false ∧
        predicted.phase.isAllowed (failedApplyPhase predicted.phase) = true

theorem Reaches.mono {strategy : Option TransactionStrategy} {target : TxPhase}
    {strong weak : α → Prop} {predicted : StepEnd}
    {final : Except UnderlayError α × TxJournalRecord} {after : World}
    (reaches : Reaches txId strategy target strong predicted final after)
    (weaken : ∀ value, strong value → weak value) :
    Reaches txId strategy target weak predicted final after := by
  refine { reaches with result := ?_ }
  have result := reaches.result
  rcases final with ⟨error | value, record⟩
  · exact result
  · exact ⟨result.1, result.2.1, weaken value result.2.2⟩

/-- Started on a record of the transaction in phase `source`, the function ends as the table says,
and if it succeeds then in phase `target`. -/
def Behaves (strategy : Option TransactionStrategy) (source target : TxPhase) (program : Endpoint α)
    (yields : α → Prop) (table : TxTrace → StepEnd) : Prop :=
  ∀ record world, record.txId = txId → record.strategy = strategy → record.phase = source →
    Served env.oracle (program.start record)
      (Reaches txId strategy target yields (table (world.trace txId))) world

variable {env txId}
variable {strategy : Option TransactionStrategy} {source middle target : TxPhase}

variable {yields : α → Prop} {table : TxTrace → StepEnd} {site : PutSite} {device : DeviceInfo}
  {call : AdapterCall} {selected : TransactionStrategy}

theorem behaves_pure {value : α} (holds : yields value) :
    Behaves env txId strategy source source (pure value) yields (⟨true, source, ·⟩) := by
  intro record world txIdEq strategyEq phaseEq
  exact ⟨txIdEq, strategyEq, phaseEq, rfl, rfl, rfl, holds⟩

theorem behaves_throw (closes : source.isAllowed (failedApplyPhase source) = true) :
    Behaves env txId strategy source target (throw error) yields (⟨false, source, ·⟩) := by
  intro record world txIdEq strategyEq phaseEq
  exact ⟨txIdEq, strategyEq, phaseEq, rfl, rfl, closes⟩

theorem Behaves.bind {program : Endpoint α} {next : α → Endpoint β} {yieldsNext : β → Prop}
    {tableNext : TxTrace → StepEnd}
    (first : Behaves env txId strategy source middle program yields table)
    (second : ∀ value, yields value →
      Behaves env txId strategy middle target (next value) yieldsNext tableNext) :
    Behaves env txId strategy source target (program >>= next) yieldsNext
      fun trace => (table trace).andThen tableNext := by
  intro record world txIdEq strategyEq phaseEq
  apply (first record world txIdEq strategyEq phaseEq).bindFallible
  · rintro value record after ⟨txIdEq, strategyEq, phaseEq, traceEq, succeeds, atTarget, yielded⟩
    have continued := second value yielded record after txIdEq strategyEq (phaseEq.trans atTarget)
    simpa [StepEnd.andThen, succeeds, ← traceEq] using continued
  · rintro error record after ⟨txIdEq, strategyEq, phaseEq, traceEq, fails, closes⟩
    constructor <;> simp_all [StepEnd.andThen]

theorem Behaves.thenPure {program : Endpoint α} {value : α → β} {yieldsNext : β → Prop}
    (behaves : Behaves env txId strategy source target program yields table)
    (holds : ∀ result, yields result → yieldsNext (value result)) :
    Behaves env txId strategy source target (program >>= fun result => pure (value result))
      yieldsNext table := by
  intro record world txIdEq strategyEq phaseEq
  apply (behaves record world txIdEq strategyEq phaseEq).bindFallible
  · rintro result record after ⟨txIdEq, strategyEq, phaseEq, traceEq, succeeds, atTarget, yielded⟩
    exact ⟨txIdEq, strategyEq, phaseEq, traceEq, succeeds, atTarget, holds result yielded⟩
  · rintro error record after ⟨txIdEq, strategyEq, phaseEq, traceEq, fails, closes⟩
    exact ⟨txIdEq, strategyEq, phaseEq, traceEq, fails, closes⟩

theorem Behaves.congr {program : Endpoint α} {other : TxTrace → StepEnd}
    (behaves : Behaves env txId strategy source target program yields table)
    (agree : ∀ trace, table trace = other trace) :
    Behaves env txId strategy source target program yields other := by
  rwa [← funext agree]

theorem behaves_transitionTo {phase : TxPhase} (allowed : source.isAllowed phase = true) :
    Behaves env txId strategy source phase (transitionTo phase) (fun _ => True)
      (⟨true, phase, ·⟩) := by
  rintro record world txIdEq strategyEq rfl
  simp only [transitionTo, Fallible.start_bind, Fallible.start_get, Program.done_bind,
    Fallible.resume_ok, Fallible.start_attempt, ensures_bind,
    served_transitionPhase env allowed]
  intro position
  exact ⟨txIdEq, strategyEq, rfl, rfl, rfl, rfl, trivial⟩

theorem behaves_putRecord (closes : source.isAllowed (failedApplyPhase source) = true) :
    Behaves env txId strategy source source (putRecord site) (fun _ => True)
      (env.writeEnd site source) := by
  rintro record world rfl strategyEq rfl
  simp only [putRecord, Fallible.start_bind, Fallible.start_get, Program.done_bind,
    Fallible.resume_ok, Fallible.start_attempt, ensures_bind, served_journalPut, ensures_done]
  rcases env.put_cases site with ⟨puts, written⟩ | ⟨puts, message, written⟩
  · constructor <;> simp_all [ApplyEnv.writeEnd, Except.mapError, trace_journalPut]
  · constructor <;> simp_all [ApplyEnv.writeEnd, Except.mapError, World.after]

theorem behaves_adapterCall {next : AdapterAnswer → Endpoint α}
    (continues : Behaves env context.txId strategy source target (next (env.adapter call)) yields
      table) :
    Behaves env context.txId strategy source target
      (Fallible.always (adapterCall device context call) >>= next) yields
      fun trace => table (trace.call call (env.adapter call)) := by
  intro record world txIdEq strategyEq phaseEq
  simp only [Fallible.start_bind, Fallible.start_always, ensures_bind, served_adapterCall,
    ensures_done, Fallible.resume_ok]
  rw [← trace_adapter 0 world device]
  exact continues record _ txIdEq strategyEq phaseEq

/-- A lookup that leaves the world alone and stops the step if it fails. -/
theorem behaves_lookup {lookup : Core (Except UnderlayError α)} {answer : Except UnderlayError α}
    {next : α → Endpoint β} {yields : β → Prop}
    (served : ∀ world (post : Except UnderlayError α → World → Prop),
      Served env.oracle lookup post world ↔ post answer world)
    (closes : source.isAllowed (failedApplyPhase source) = true)
    (fails : ∀ error, answer = .error error → ∀ trace, table trace = ⟨false, source, trace⟩)
    (continues : ∀ value, answer = .ok value →
      Behaves env txId strategy source target (next value) yields table) :
    Behaves env txId strategy source target (Fallible.attempt lookup >>= next) yields table := by
  intro record world txIdEq strategyEq phaseEq
  simp only [Fallible.start_bind, Fallible.start_attempt, ensures_bind, served, ensures_done]
  cases answer with
  | error error =>
      rw [fails error rfl]
      exact ⟨txIdEq, strategyEq, phaseEq, rfl, rfl, closes⟩
  | ok value => exact continues value rfl record world txIdEq strategyEq phaseEq

theorem behaves_recordError {code message : String} :
    Behaves env txId strategy source source (recordError code message) (fun _ => True)
      (⟨true, source, ·⟩) := by
  rintro record world txIdEq strategyEq phaseEq
  simp only [recordError, Fallible.start_bind, Fallible.start_get, Program.done_bind,
    Fallible.resume_ok, Fallible.start_always, ensures_bind, served_nowUnixSecs, ensures_done,
    Fallible.start_set]
  intro position
  exact ⟨txIdEq, strategyEq, phaseEq, rfl, rfl, rfl, trivial⟩

/-- An answer that leaves the outcome of a rollback open is recorded, then reported. -/
theorem behaves_rollbackInDoubt {code message : String} :
    Behaves env txId strategy .rollingBack .rolledBack
      (do transitionTo .inDoubt
          recordError code message
          putRecord .rollbackOutcome
          throw error)
      (fun _ : Unit => True)
      fun trace => { env.writeEnd .rollbackOutcome .inDoubt trace with succeeds := false } := by
  have closes : TxPhase.inDoubt.isAllowed (failedApplyPhase .inDoubt) = true := rfl
  refine Behaves.congr ((behaves_transitionTo rfl).bind fun _ _ => behaves_recordError.bind
    fun _ _ => (behaves_putRecord closes).bind fun _ _ => behaves_throw closes) fun trace => ?_
  simp only [StepEnd.andThen, ApplyEnv.writeEnd, if_true]
  split <;> rfl

theorem behaves_settleRollback {requested : Option TransactionStrategy} (answer : AdapterAnswer) :
    Behaves env txId strategy .rollingBack .rolledBack (settleRollback answer) (fun _ => True)
      fun trace =>
        if (AdapterCall.rollback requested).isSuccessfulRollback answer then
          env.writeEnd .rollbackOutcome .rolledBack trace
        else { env.writeEnd .rollbackOutcome .inDoubt trace with succeeds := false } := by
  cases answer with
  | error error => exact behaves_rollbackInDoubt
  | ok outcome =>
      by_cases accepted : outcome.status = .rolledBack ∨ outcome.status = .noChange
      · simp only [settleRollback, AdapterCall.isSuccessfulRollback, accepted, decide_true,
          if_true]
        exact ((behaves_transitionTo rfl).bind fun _ _ => behaves_putRecord rfl).congr
          fun _ => rfl
      · simp only [settleRollback, AdapterCall.isSuccessfulRollback, accepted, decide_false,
          if_false, Bool.false_eq_true]
        exact behaves_rollbackInDoubt

theorem behaves_undo :
    Behaves env context.txId (some selected) .rollingBack .rolledBack
      (Fallible.always (adapterCall device context (.rollback (some selected))) >>=
        settleRollback)
      (fun _ => True) (env.undoEnd selected) :=
  behaves_adapterCall (behaves_settleRollback _)

theorem behaves_rollback (allowed : source.isAllowed .rollingBack = true)
    (closes : source.isAllowed (failedApplyPhase source) = true) :
    Behaves env context.txId (some selected) source .rolledBack
      (rollbackAfterEndpointFailure device context) (fun _ => True)
      (env.rollbackEnd selected source) := by
  rintro record world txIdEq strategyEq rfl
  simp only [rollbackAfterEndpointFailure, Fallible.start_bind, Fallible.start_get,
    Program.done_bind, Fallible.resume_ok, Fallible.start_attempt, ensures_bind,
    served_transitionPhase env allowed, ensures_done, served_journalPut]
  intro position
  rcases env.put_cases .rollingBack with ⟨puts, written⟩ | ⟨puts, message, written⟩
  · simp only [written, Except.mapError, ApplyEnv.rollbackEnd, puts, if_true]
    rw [show (record.withPhase .rollingBack (env.clock position)).strategy = some selected
      from strategyEq]
    have stored : (world.after 0 (.journalPut .rollingBack
        (record.withPhase .rollingBack (env.clock position))) (.ok ())).trace context.txId =
        (world.trace context.txId).store .rollingBack :=
      trace_journalPut txIdEq
    exact stored ▸ behaves_undo _ _ txIdEq strategyEq rfl
  · simp only [written, Except.mapError, ApplyEnv.rollbackEnd, puts]
    exact ⟨txIdEq, strategyEq, rfl, rfl, rfl, closes⟩

/-- A failed step reports its failure, whatever becomes of its rollback. -/
theorem behaves_reject {primary : UnderlayError} {yields : Unit → Prop}
    (allowed : source.isAllowed .rollingBack = true)
    (closes : source.isAllowed (failedApplyPhase source) = true) :
    Behaves env context.txId (some selected) source target
      (rollbackAfterEndpointFailurePreservingPrimary device context primary) yields
      (env.rejectedEnd selected source) := by
  intro record world txIdEq strategyEq phaseEq
  simp only [rollbackAfterEndpointFailurePreservingPrimary, Fallible.start_bind,
    Fallible.start_outcome, ensures_bind]
  refine Ensures.mono (behaves_rollback allowed closes record world txIdEq strategyEq phaseEq) ?_
  rintro ⟨_ | _, record⟩ after ⟨txIdEq, strategyEq, phaseEq, traceEq, result⟩
  · exact ⟨txIdEq, strategyEq, phaseEq, traceEq, rfl, result.2⟩
  · refine ⟨txIdEq, strategyEq, phaseEq, traceEq, rfl, ?_⟩
    simp only [ApplyEnv.rejectedEnd, result.2.1]
    rfl

/-- The write that announces a step. -/
theorem behaves_announce {phase : TxPhase} {next : Endpoint α}
    (allowed : source.isAllowed phase = true)
    (closes : phase.isAllowed (failedApplyPhase phase) = true)
    (continues : Behaves env txId strategy phase target next yields table) :
    Behaves env txId strategy source target
      (do transitionTo phase
          putRecord site
          next)
      yields fun trace => (env.writeEnd site phase trace).andThen table :=
  ((behaves_transitionTo allowed).bind fun _ _ =>
    (behaves_putRecord closes).bind fun _ _ => continues).congr fun _ => rfl

variable {desired : DeviceDesiredState} {timeoutSecs : ℕ}

/-- A failed step reports its failure also where it is expected to return a value. -/
theorem behaves_rejectThen {primary : UnderlayError} {next : Endpoint α}
    (allowed : source.isAllowed .rollingBack = true)
    (closes : source.isAllowed (failedApplyPhase source) = true) :
    Behaves env context.txId (some selected) source target
      (do rollbackAfterEndpointFailurePreservingPrimary device context primary
          next)
      yields (env.rejectedEnd selected source) :=
  ((behaves_reject allowed closes).bind fun _ (impossible : False) =>
    (impossible.elim : Behaves env context.txId (some selected) source target next yields
      (⟨false, source, ·⟩))).congr fun _ => rfl

/-- An adapter call whose answer is either accepted or rolled back. -/
theorem behaves_callEnd {handle : AdapterAnswer → Endpoint α} {accepted : Bool}
    {next : TxTrace → StepEnd}
    (accepts : accepted = true → Behaves env context.txId (some selected) source target
      (handle (env.adapter call)) yields next)
    (rejects : accepted = false → Behaves env context.txId (some selected) source target
      (handle (env.adapter call)) yields (env.rejectedEnd selected source)) :
    Behaves env context.txId (some selected) source target
      (Fallible.always (adapterCall device context call) >>= handle) yields
      fun trace => (env.callEnd selected source call accepted trace).andThen next := by
  cases accepted with
  | false => exact (behaves_adapterCall (rejects rfl)).congr fun _ => rfl
  | true => exact (behaves_adapterCall (accepts rfl)).congr fun _ => rfl

theorem writeEnd_andThen (trace : TxTrace) :
    (env.writeEnd site source trace).andThen (⟨true, source, ·⟩) =
      env.writeEnd site source trace := by
  simp only [ApplyEnv.writeEnd, StepEnd.andThen]
  split <;> rfl

theorem callEnd_andThen {accepted : Bool} (trace : TxTrace) :
    (env.callEnd selected source call accepted trace).andThen (⟨true, source, ·⟩) =
      env.callEnd selected source call accepted trace := by
  cases accepted <;> rfl

theorem behaves_prepareEndpoint :
    Behaves env context.txId (some selected) .preparing .prepared
      (prepareEndpoint device context desired) (· = env.checksum desired)
      (env.prepareEnd desired selected) := by
  refine behaves_callEnd ?_ ?_
  · intro accepted
    cases answered : env.adapter (.prepare desired) with
    | error error => simp [ApplyEnv.prepares, answered] at accepted
    | ok prepare =>
        have isPrepared : prepare.status = .prepared := by
          simpa [ApplyEnv.prepares, answered] using accepted
        have handed : prepare.preparedCandidateChecksum = env.checksum desired := by
          simp only [ApplyEnv.checksum, answered]
        simp only [isPrepared, ne_eq, not_true, if_false]
        apply Behaves.congr _ writeEnd_andThen
        exact behaves_announce rfl rfl (behaves_pure handed)
  · intro rejected
    cases answered : env.adapter (.prepare desired) with
    | error error => exact behaves_rejectThen rfl rfl
    | ok prepare =>
        have notPrepared : prepare.status ≠ .prepared := by
          simpa [ApplyEnv.prepares, answered] using rejected
        simp only [notPrepared, ne_eq, not_false_eq_true, if_true]
        exact behaves_rejectThen rfl rfl

theorem behaves_commitEndpoint :
    Behaves env context.txId (some selected) .prepared .committing
      (commitEndpoint timeoutSecs device context selected (env.checksum desired)) (fun _ => True)
      (env.commitEnd timeoutSecs desired selected) := by
  refine behaves_announce rfl rfl ((behaves_callEnd ?_ ?_).congr callEnd_andThen)
  all_goals
    intro decided
    simp only [ApplyEnv.commits] at decided
    cases answered : env.adapter (.commit selected timeoutSecs (env.checksum desired))
  · simp [AdapterCall.isAcceptedCommit, answered] at decided
  · simp only [AdapterCall.isAcceptedCommit, answered] at decided
    simp only [decided, if_true]
    exact behaves_pure trivial
  · exact behaves_rejectThen rfl rfl
  · simp only [AdapterCall.isAcceptedCommit, answered] at decided
    simp only [decided, Bool.false_eq_true, if_false]
    exact behaves_rejectThen rfl rfl

theorem behaves_verifyEndpoint :
    Behaves env context.txId (some selected) .committing .verifying
      (verifyEndpoint device context desired changeSet) (fun _ => True)
      (env.verifyEnd desired changeSet selected) := by
  refine behaves_announce rfl rfl ((behaves_callEnd ?_ ?_).congr callEnd_andThen)
  all_goals
    intro decided
    simp only [ApplyEnv.verifies] at decided
    cases answered : env.adapter (.verify desired changeSet)
  · simp [answered] at decided
  · simp only [answered] at decided
    simp only [decided, if_true]
    exact behaves_pure trivial
  · exact behaves_rejectThen rfl rfl
  · simp only [answered] at decided
    simp only [decided, Bool.false_eq_true, if_false]
    exact behaves_rejectThen rfl rfl

theorem behaves_confirmOrFinalize :
    Behaves env context.txId (some selected) .verifying .finalConfirming
      (confirmOrFinalize device context selected) (fun _ => True) (env.confirmEnd selected) := by
  unfold confirmOrFinalize
  by_cases confirmed : selected = .confirmedCommit
  · simp only [confirmed, if_true]
    refine behaves_announce rfl rfl ((behaves_callEnd ?_ ?_).congr callEnd_andThen)
    all_goals
      intro decided
      simp only [ApplyEnv.confirms, ne_eq, not_true, decide_false, Bool.false_or] at decided
      cases answered : env.adapter .finalConfirm
    · simp [answered] at decided
    · simp only [answered, decide_eq_true_eq] at decided
      simp only [decided, if_true]
      exact behaves_pure trivial
    · exact behaves_reject rfl rfl
    · simp only [answered, decide_eq_false_iff_not] at decided
      simp only [decided, if_false]
      exact behaves_reject rfl rfl
  · simp only [confirmed, if_false]
    have closes : TxPhase.finalConfirming.isAllowed (failedApplyPhase .finalConfirming) = true :=
      rfl
    refine ((behaves_transitionTo rfl).bind fun _ _ => behaves_putRecord closes).congr
      fun trace => ?_
    simp only [ApplyEnv.confirmEnd, confirmed, if_false, writeEnd_andThen]
    rfl

theorem behaves_runStages :
    Behaves env context.txId (some selected) .preparing .finalConfirming
      (runStages timeoutSecs device context selected desired changeSet)
      (fun result => result.1 = selected)
      (env.stagesEnd timeoutSecs desired changeSet selected) := by
  refine behaves_prepareEndpoint.bind ?_
  rintro checksum rfl
  refine behaves_commitEndpoint.bind fun _ _ => behaves_verifyEndpoint.bind fun report _ => ?_
  exact behaves_confirmOrFinalize.thenPure fun _ _ => rfl

theorem behaves_selectStrategy {deviceId : DeviceId} {allowDegradedAtomicity : Bool} :
    Behaves env txId strategy .preparing .preparing
      (selectStrategy deviceId allowDegradedAtomicity)
      (fun selection => env.strategy deviceId allowDegradedAtomicity = .ok selection.2)
      (⟨(env.strategy deviceId allowDegradedAtomicity).isOk, .preparing, ·⟩) := by
  unfold ApplyEnv.strategy
  refine behaves_lookup (fun _ _ => served_inventoryGet env) rfl ?_ fun managed found => ?_
  · intro error missing trace
    simp only [missing]
    rfl
  refine behaves_lookup (fun _ _ => served_adapterClient env) rfl ?_ fun _ reached => ?_
  · intro error failed trace
    simp only [found, failed]
    rfl
  refine behaves_lookup (fun _ _ => served_endpointCapability env) rfl ?_
    fun capability reported => ?_
  · intro error failed trace
    simp only [found, reached, failed, bind, Except.bind]
    rfl
  refine behaves_lookup (fun _ _ => Iff.rfl) rfl ?_ fun selected admitted => ?_
  · intro error refused trace
    simp only [found, reached, reported, refused, bind, Except.bind]
    rfl
  · simp only [found, reached, reported, admitted, bind, Except.bind]
    exact behaves_pure rfl

/-- The strategy is fixed in the middle of the step, so the record ends with some strategy. -/
theorem served_applyChangedEndpoint {allowDegradedAtomicity : Bool} {record : TxJournalRecord}
    {world : World} (txIdEq : record.txId = context.txId) (phaseEq : record.phase = .preparing) :
    Served env.oracle
      ((applyChangedEndpoint timeoutSecs context allowDegradedAtomicity desired
        changeSet).start record)
      (fun final after => ∃ strategy,
        Reaches context.txId strategy .finalConfirming
          (fun result => env.strategy desired.deviceId allowDegradedAtomicity = .ok result.1)
          (env.endpointEnd timeoutSecs desired changeSet allowDegradedAtomicity
            (world.trace context.txId)) final after) world := by
  have closes : TxPhase.preparing.isAllowed (failedApplyPhase .preparing) = true := rfl
  refine (behaves_selectStrategy record world txIdEq rfl phaseEq).bindFallible ?_ ?_
  · rintro ⟨device, selected⟩ record after ⟨txIdEq, -, phaseEq, traceEq, -, -, chosen⟩
    have stages : Behaves env context.txId (some selected) .preparing .finalConfirming
        (do putRecord .strategySelected
            runStages timeoutSecs device context selected desired changeSet)
        (fun result => result.1 = selected) _ :=
      (behaves_putRecord closes).bind fun _ _ => behaves_runStages
    have table : env.endpointEnd timeoutSecs desired changeSet allowDegradedAtomicity
        (world.trace context.txId) =
        (env.writeEnd .strategySelected .preparing (after.trace context.txId)).andThen
          (env.stagesEnd timeoutSecs desired changeSet selected) := by
      simp only [ApplyEnv.endpointEnd, chosen, traceEq]
    simp only [Fallible.start_bind, Fallible.start_get, Program.done_bind, Fallible.resume_ok,
      Fallible.start_always, ensures_bind, served_nowUnixSecs, ensures_done, Fallible.start_set]
    intro position
    rw [← ensures_bind, ← Fallible.start_bind, table]
    refine Ensures.mono (stages _ after txIdEq rfl phaseEq) fun final later reached => ?_
    refine ⟨some selected, reached.mono context.txId ?_⟩
    rintro result rfl
    exact chosen
  · rintro error record after ⟨txIdEq, strategyEq, phaseEq, traceEq, fails, -⟩
    have table : env.endpointEnd timeoutSecs desired changeSet allowDegradedAtomicity
        (world.trace context.txId) = ⟨false, .preparing, world.trace context.txId⟩ := by
      cases chosen : env.strategy desired.deviceId allowDegradedAtomicity with
      | error _ => simp only [ApplyEnv.endpointEnd, chosen]
      | ok _ => simp only [chosen] at fails; cases fails
    rw [table]
    exact ⟨_, txIdEq, strategyEq, phaseEq, traceEq, rfl, closes⟩

theorem served_applyChangedEndpointStates {allowDegradedAtomicity : Bool}
    (planned : plan.changeSetFor desired.deviceId = some changeSet)
    (nonempty : changeSet.isEmpty = false) (txIdEq : record.txId = context.txId)
    (phaseEq : record.phase = .preparing) :
    Served env.oracle
      ((applyChangedEndpointStates timeoutSecs [desired] plan context
        allowDegradedAtomicity).start record)
      (fun final after => ∃ strategy,
        Reaches context.txId strategy .finalConfirming
          (fun result => env.strategy desired.deviceId allowDegradedAtomicity = .ok result.1)
          (env.endpointEnd timeoutSecs desired changeSet allowDegradedAtomicity
            (world.trace context.txId)) final after) world := by
  simp only [applyChangedEndpointStates, applyChangedEndpoints, planned, nonempty,
    Bool.false_eq_true, if_false]
  simp only [Fallible.start_bind, ensures_bind]
  refine (served_applyChangedEndpoint txIdEq phaseEq).mono ?_
  rintro ⟨error | value, record⟩ after reached
  · exact reached
  · exact reached

end Behaves

/-! ## Closing the transaction -/

section Close

variable {env : ApplyEnv} {desired : DeviceDesiredState}

theorem served_finishFailedApply (txIdEq : record.txId = context.txId)
    (closes : record.phase.isAllowed (failedApplyPhase record.phase) = true) :
    Served env.oracle (finishFailedApply desired context record error)
      (fun result after => (result.status, after.trace context.txId) =
        env.failureEnd record.phase (world.trace context.txId)) world := by
  simp only [finishFailedApply, ensures_bind, served_transitionPhase env closes,
    served_nowUnixSecs, served_journalPut]
  intro moved recorded
  rcases env.put_cases .failedApply with ⟨puts, written⟩ | ⟨puts, message, written⟩
  · simp only [written, Except.mapError, ApplyEnv.failureEnd, puts, if_true]
    exact Prod.ext rfl (trace_journalPut txIdEq)
  · simp only [written, Except.mapError, ApplyEnv.failureEnd, puts]
    rfl

variable {report : DeviceVerifyReport}

theorem served_finishWithShadowFailure {strategy : TransactionStrategy} {warnings : List String}
    {failure : ShadowFailure} (txIdEq : record.txId = context.txId)
    (phaseEq : record.phase = .committed) :
    Served env.oracle
      (finishWithShadowFailure desired.deviceId context.txId record strategy warnings report
        failure)
      (fun result after => (result.status, after.trace context.txId) = (.inDoubt,
        if env.puts .shadowFailure then (world.trace context.txId).store .inDoubt
        else world.trace context.txId)) world := by
  have allowed : record.phase.isAllowed .inDoubt = true := by rw [phaseEq]; rfl
  simp only [finishWithShadowFailure, ensures_bind, served_transitionPhase env allowed,
    served_nowUnixSecs, served_journalPut]
  intro _ _
  rcases env.put_cases .shadowFailure with ⟨puts, written⟩ | ⟨puts, message, written⟩
  · simp only [written, Except.mapError, puts, if_true]
    exact Prod.ext rfl (trace_journalPut txIdEq)
  · simp only [written, Except.mapError, puts]
    rfl

theorem served_updateShadowAfterCommit {strategy : TransactionStrategy}
    (planned : plan.changeSetFor desired.deviceId = some changeSet)
    (txIdEq : record.txId = context.txId) (phaseEq : record.phase = .committed) :
    Served env.oracle (updateShadowAfterCommit desired plan context record strategy report)
      (fun result after => (result.status, after.trace context.txId) =
        if env.shadowUpdates then
          (if strategy.isDegraded then .successWithWarning else .success,
            world.trace context.txId)
        else (.inDoubt,
          if env.puts .shadowFailure then (world.trace context.txId).store .inDoubt
          else world.trace context.txId)) world := by
  simp only [updateShadowAfterCommit, planned, ensures_bind, served_shadowGet]
  cases read : env.shadowGet with
  | error _ =>
      have fails : env.shadowUpdates = false := by simp only [ApplyEnv.shadowUpdates, read]; rfl
      simp only [fails]
      exact served_finishWithShadowFailure txIdEq phaseEq
  | ok _ =>
      simp only [Except.map, ensures_bind, served_shadowPut]
      cases wrote : env.shadowPut with
      | error _ =>
          have fails : env.shadowUpdates = false := by
            simp only [ApplyEnv.shadowUpdates, read, wrote]; rfl
          simp only [fails]
          exact served_finishWithShadowFailure txIdEq phaseEq
      | ok _ =>
          have succeeds : env.shadowUpdates = true := by
            simp only [ApplyEnv.shadowUpdates, read, wrote]; rfl
          simp only [succeeds, if_true]
          exact Prod.ext rfl (trace_shadowPut ..)

theorem served_finishSuccessfulApply {strategy : TransactionStrategy}
    (planned : plan.changeSetFor desired.deviceId = some changeSet)
    (txIdEq : record.txId = context.txId) (phaseEq : record.phase = .finalConfirming) :
    Served env.oracle (finishSuccessfulApply desired plan context record strategy report)
      (fun result after => (result.status, after.trace context.txId) =
        env.successEnd strategy.isDegraded (world.trace context.txId)) world := by
  have allowed : ∀ now, (record.withStrategy strategy now).phase.isAllowed .committed = true := by
    intro now
    rw [show (record.withStrategy strategy now).phase = .finalConfirming from phaseEq]
    rfl
  simp only [finishSuccessfulApply, ensures_bind, served_nowUnixSecs,
    served_transitionPhase env (allowed _), served_journalPut]
  intro restamped moved
  rcases env.put_cases .committed with ⟨puts, written⟩ | ⟨puts, message, written⟩
  · simp only [written, Except.mapError, ApplyEnv.successEnd, puts, if_true]
    have stored : (world.after 0 (.journalPut .committed
        ((record.withStrategy strategy (env.clock restamped)).withPhase .committed
          (env.clock moved))) (.ok ())).trace context.txId =
        (world.trace context.txId).store .committed :=
      trace_journalPut txIdEq
    exact stored ▸ served_updateShadowAfterCommit planned txIdEq rfl
  · simp only [written, Except.mapError, ApplyEnv.successEnd, puts]
    rfl

end Close

section Transaction

variable (env : ApplyEnv) (timeoutSecs : ℕ) (requestId traceId : String)
variable (desired : DeviceDesiredState) (allowDegradedAtomicity : Bool)

/-- A journal that cannot be written is reported as a failure. -/
theorem status_deviceErrorResult_internal (deviceId : DeviceId) (txId : Option String)
    (message : String) :
    (deviceErrorResult deviceId true txId none (.internal message)).status = .failed := by
  simp [deviceErrorResult, journalErrorFields]

/-- The transaction from the first adapter call on. -/
theorem served_applyPrepared (planned : plan.changeSetFor desired.deviceId = some changeSet)
    (nonempty : changeSet.isEmpty = false) (txIdEq : record.txId = context.txId)
    (phaseEq : record.phase = .preparing) :
    Served env.oracle
      (applyPrepared timeoutSecs desired plan context allowDegradedAtomicity record)
      (fun result after => (result.status, after.trace context.txId) =
        env.preparedEnd timeoutSecs desired changeSet allowDegradedAtomicity
          (world.trace context.txId)) world := by
  apply Ensures.bind (served_applyChangedEndpointStates planned nonempty txIdEq phaseEq)
  rintro ⟨error | ⟨selected, report⟩, record⟩ after
    ⟨strategy, txIdEq, strategyEq, phaseEq, traceEq, result⟩
  · rcases result with ⟨fails, closes⟩
    simp only [ApplyEnv.preparedEnd, ApplyEnv.closeEnd, fails, Bool.false_eq_true, if_false]
    rw [← traceEq, ← phaseEq]
    exact served_finishFailedApply txIdEq (phaseEq ▸ closes)
  · rcases result with ⟨succeeds, atTarget, chosen⟩
    simp only [ApplyEnv.preparedEnd, ApplyEnv.closeEnd, succeeds, if_true, chosen]
    rw [← traceEq]
    exact served_finishSuccessfulApply planned txIdEq (phaseEq.trans atTarget)

theorem served_applyStarted (planned : plan.changeSetFor desired.deviceId = some changeSet)
    (nonempty : changeSet.isEmpty = false) (txIdEq : record.txId = context.txId)
    (phaseEq : record.phase = .started) :
    Served env.oracle
      (applyStarted timeoutSecs desired plan context allowDegradedAtomicity record)
      (fun result after => (result.status, after.trace context.txId) =
        env.startedEnd timeoutSecs desired changeSet allowDegradedAtomicity
          (world.trace context.txId)) world := by
  have allowed : record.phase.isAllowed .preparing = true := by rw [phaseEq]; rfl
  simp only [applyStarted, ensures_bind, served_transitionPhase env allowed, served_journalPut]
  intro moved
  rcases env.put_cases .preparing with ⟨puts, written⟩ | ⟨puts, message, written⟩
  · simp only [written, Except.mapError, ApplyEnv.startedEnd, puts, if_true]
    have stored : (world.after 0 (.journalPut .preparing
        (record.withPhase .preparing (env.clock moved))) (.ok ())).trace context.txId =
        (world.trace context.txId).store .preparing :=
      trace_journalPut txIdEq
    exact stored ▸ served_applyPrepared env timeoutSecs desired allowDegradedAtomicity planned
      nonempty txIdEq rfl
  · simp only [written, Except.mapError, ApplyEnv.startedEnd, puts]
    exact Prod.ext (status_deviceErrorResult_internal desired.deviceId context.txId message) rfl

theorem served_applyTransaction {plan : DryRunPlan} {changeSet : ChangeSet} {world : World}
    (planned : plan.changeSetFor desired.deviceId = some changeSet)
    (nonempty : changeSet.isEmpty = false) :
    Served env.oracle
      (applyTransaction timeoutSecs requestId traceId desired plan allowDegradedAtomicity)
      (fun result after => (result.status, after.trace env.txId) =
        env.transactionEnd timeoutSecs desired changeSet allowDegradedAtomicity
          (world.trace env.txId)) world := by
  simp only [applyTransaction, ensures_bind, served_newTxId, served_nowUnixSecs,
    served_journalPut]
  intro startedAt desiredAt plannedAt
  rcases env.put_cases .started with ⟨puts, written⟩ | ⟨puts, message, written⟩
  · simp only [written, Except.mapError, ApplyEnv.transactionEnd, puts, if_true]
    have stored : ((world.after 0 .newTxId env.txId).after 0 (.journalPut .started
        (((TxJournalRecord.started ⟨env.txId, requestId, traceId⟩ [desired.deviceId]
          (env.clock startedAt)).withDesiredStates [desired] (env.clock desiredAt)).withChangeSets
            plan.changeSets (env.clock plannedAt))) (.ok ())).trace env.txId =
        (world.trace env.txId).store .started :=
      trace_journalPut rfl
    exact stored ▸ served_applyStarted env timeoutSecs desired allowDegradedAtomicity planned
      nonempty rfl rfl
  · simp only [written, Except.mapError, ApplyEnv.transactionEnd, puts]
    exact Prod.ext (status_deviceErrorResult_internal desired.deviceId none message) rfl

end Transaction

end AriaUnderlay
