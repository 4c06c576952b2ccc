import AriaUnderlay.Api.AdminOps
import AriaUnderlay.Api.Requests
import AriaUnderlay.Core.History
import AriaUnderlay.Effect.Confined

/-!
# What the tasks store

The tasks write to two stores, the journal and the shadows.  A discipline restricts these writes and
says what the tasks may rely on when they read.  A task that is lent a record changes neither the
devices nor the plan of it, so whatever a discipline demands of the plan stays true of all records
that the task goes on to store.
-/

namespace AriaUnderlay

open Collections Effect Fallible

/-- The calls that neither write to the journal or to the shadows nor take or drop endpoint
locks. -/
def CoreOp.isFree : CoreOp → Bool
  | .acquire _ | .acquireWithPolicy _ | .release _ | .journalPut _ _ | .shadowPut _ _ => false
  | _ => true

/-- A restriction of the writes to the journal and to the shadows, and of the use of the locks. -/
structure Discipline where
  may : CoreOp → Prop
  honest : (op : CoreOp) → op.Answer → Prop
  /-- The records that may be stored. -/
  keeps : TxJournalRecord → Prop
  free : ∀ op, op.isFree = true → may op
  puts : ∀ site record, keeps record → may (.journalPut site record)
  subject : ∀ {first record : TxJournalRecord},
    first.SameSubject record → keeps first → keeps record

namespace Discipline

variable {α β : Type} {discipline : Discipline} {record : TxJournalRecord}

/-- The program keeps the discipline, and its result satisfies `post`. -/
abbrev Keeps (discipline : Discipline) (program : Core α) (post : α → Prop) : Prop :=
  Confined discipline.may discipline.honest program post

/-- A condition on the value that a fallible program returns. -/
abbrev OnSuccess (post : α → Prop) (result : Except UnderlayError α) : Prop :=
  ∀ value, result = .ok value → post value

/-- Lent a record that may be stored, the program keeps the discipline and hands such a record
back. -/
def Guides (discipline : Discipline) (program : Endpoint α) (post : α → Prop) : Prop :=
  ∀ record, discipline.keeps record →
    discipline.Keeps (program.start record) fun out =>
      discipline.keeps out.2 ∧ OnSuccess post out.1

theorem keeps_withError {code message : String} {now : ℕ} (kept : discipline.keeps record) :
    discipline.keeps (record.withError code message now) :=
  discipline.subject (.withError (.refl record) code message now) kept

section Calls

theorem keeps_free {op : CoreOp} {post : op.Answer → Prop} (isFree : op.isFree = true)
    (holds : ∀ answer, discipline.honest op answer → post answer) :
    discipline.Keeps (interact op) post :=
  confined_perform.mpr ⟨discipline.free op isFree, holds⟩

theorem keeps_journalPut (site : PutSite) (kept : discipline.keeps record) :
    discipline.Keeps (journalPut site record) fun _ => True :=
  confined_perform.mpr ⟨discipline.puts site record kept, fun _ _ => trivial⟩

theorem keeps_transitionPhase (kept : discipline.keeps record) (phase : TxPhase) :
    discipline.Keeps (transitionPhase record phase) (OnSuccess discipline.keeps) := by
  unfold transitionPhase
  split
  · exact fun _ impossible => nomatch impossible
  · refine (keeps_free rfl fun _ _ => trivial : discipline.Keeps nowUnixSecs fun _ => True).bind ?_
    rintro now - updated ⟨rfl⟩
    exact discipline.subject (.withPhase (.refl record) phase now) kept

end Calls

section Guides

variable {program : Endpoint α} {next : α → Endpoint β} {middle post : α → Prop} {last : β → Prop}

theorem guides_pure {value : α} (holds : post value) : discipline.Guides (pure value) post :=
  fun _ kept => ⟨kept, fun _ same => Except.ok.inj same ▸ holds⟩

theorem guides_throw {error : UnderlayError} : discipline.Guides (throw error) post :=
  fun _ kept => ⟨kept, fun _ impossible => nomatch impossible⟩

theorem guides_get : discipline.Guides get discipline.keeps :=
  fun _ kept => ⟨kept, fun _ same => Except.ok.inj same ▸ kept⟩

theorem guides_set (kept : discipline.keeps record) :
    discipline.Guides (set record) fun _ => True :=
  fun _ _ => ⟨kept, fun _ _ => trivial⟩

theorem Guides.bind (first : discipline.Guides program middle)
    (second : ∀ value, middle value → discipline.Guides (next value) last) :
    discipline.Guides (program >>= next) last := by
  intro record kept
  refine (first record kept).bindFallible ?_ ?_
  · exact fun value record ⟨kept, holds⟩ => second value (holds value rfl) record kept
  · exact fun error record ⟨kept, _⟩ => ⟨kept, fun _ impossible => nomatch impossible⟩

theorem guides_attempt {call : Core (Except UnderlayError α)}
    (keeps : discipline.Keeps call (OnSuccess post)) :
    discipline.Guides (attempt call) post := by
  intro record kept
  rw [start_attempt]
  exact keeps.bind fun answer holds => ⟨kept, holds⟩

theorem guides_always {call : Core α} (keeps : discipline.Keeps call post) :
    discipline.Guides (always call) post := by
  intro record kept
  rw [start_always]
  exact keeps.bind fun answer holds => ⟨kept, fun _ same => Except.ok.inj same ▸ holds⟩

theorem Guides.outcome (guides : discipline.Guides program post) :
    discipline.Guides (outcome program) fun _ => True := by
  intro record kept
  rw [start_outcome]
  exact (guides record kept).bind fun out ⟨kept, _⟩ => ⟨kept, fun _ _ => trivial⟩

theorem guides_free {op : CoreOp} (isFree : op.isFree = true) :
    discipline.Guides (always (interact op)) fun _ => True :=
  guides_always (keeps_free isFree fun _ _ => trivial)

end Guides

/-! ## The apply -/

section Apply

variable {device : DeviceInfo} {context : TxContext} {error : UnderlayError}

theorem guides_transitionTo (phase : TxPhase) :
    discipline.Guides (transitionTo phase) fun _ => True := by
  refine guides_get.bind fun record kept => ?_
  refine (guides_attempt (keeps_transitionPhase kept phase)).bind fun updated keptUpdated => ?_
  exact guides_set keptUpdated

theorem guides_putRecord (site : PutSite) :
    discipline.Guides (putRecord site) fun _ => True := by
  refine guides_get.bind fun record kept => ?_
  exact guides_attempt ((keeps_journalPut site kept).mono fun _ _ _ _ => trivial)

/-- Take the record to the next phase and store it. -/
theorem guides_advance (phase : TxPhase) (site : PutSite) :
    discipline.Guides (transitionTo phase >>= fun _ => putRecord site) fun _ => True :=
  (guides_transitionTo phase).bind fun _ _ => guides_putRecord site

theorem guides_recordError (code message : String) :
    discipline.Guides (recordError code message) fun _ => True := by
  refine guides_get.bind fun record kept => ?_
  refine (guides_free rfl).bind fun now _ => ?_
  exact guides_set (keeps_withError kept)

theorem guides_settleRollback (answer : AdapterAnswer) :
    discipline.Guides (settleRollback answer) fun _ => True := by
  cases answer with
  | error error =>
      refine (guides_transitionTo .inDoubt).bind fun _ _ => ?_
      refine (guides_recordError _ _).bind fun _ _ => ?_
      exact (guides_putRecord .rollbackOutcome).bind fun _ _ => guides_throw
  | ok outcome =>
      simp only [settleRollback]
      split
      · exact guides_advance .rolledBack .rollbackOutcome
      · refine (guides_transitionTo .inDoubt).bind fun _ _ => ?_
        refine (guides_recordError _ _).bind fun _ _ => ?_
        exact (guides_putRecord .rollbackOutcome).bind fun _ _ => guides_throw

theorem guides_rollbackAfterEndpointFailure :
    discipline.Guides (rollbackAfterEndpointFailure device context) fun _ => True := by
  refine guides_get.bind fun record kept => ?_
  refine (guides_attempt (keeps_transitionPhase kept .rollingBack)).bind fun updated kept => ?_
  refine (guides_attempt ((keeps_journalPut .rollingBack kept).mono fun _ _ _ _ => trivial)).bind ?_
  intro _ (_ : True)
  refine (guides_set kept).bind fun _ _ => ?_
  exact (guides_free rfl).bind fun answer _ => guides_settleRollback answer

theorem guides_rollbackPreservingPrimary {post : Unit → Prop} :
    discipline.Guides (rollbackAfterEndpointFailurePreservingPrimary device context error)
      post := by
  refine guides_rollbackAfterEndpointFailure.outcome.bind fun result _ => ?_
  cases result <;> exact guides_throw

/-- A step that was answered with an error is rolled back. -/
theorem guides_rollbackThen {rest : Endpoint α} {post : α → Prop} :
    discipline.Guides
      (rollbackAfterEndpointFailurePreservingPrimary device context error >>= fun _ => rest)
      post :=
  guides_rollbackPreservingPrimary.bind fun _ (impossible : False) => impossible.elim

theorem guides_prepareEndpoint (desired : DeviceDesiredState) :
    discipline.Guides (prepareEndpoint device context desired) fun _ => True := by
  refine (guides_free rfl).bind fun answer _ => ?_
  cases answer with
  | error error => exact guides_rollbackThen
  | ok prepare =>
      dsimp only
      split
      · exact guides_rollbackThen
      · refine (guides_transitionTo .prepared).bind fun _ _ => ?_
        exact (guides_putRecord .prepared).bind fun _ _ => guides_pure trivial

theorem guides_commitEndpoint (timeout : ℕ) (strategy : TransactionStrategy)
    (checksum : Option String) :
    discipline.Guides (commitEndpoint timeout device context strategy checksum) fun _ => True := by
  refine (guides_transitionTo .committing).bind fun _ _ => ?_
  refine (guides_putRecord .committing).bind fun _ _ => ?_
  refine (guides_free rfl).bind fun answer _ => ?_
  cases answer with
  | error error => exact guides_rollbackThen
  | ok commit =>
      dsimp only
      split
      · exact guides_pure trivial
      · exact guides_rollbackThen

theorem guides_verifyEndpoint (desired : DeviceDesiredState) (changeSet : ChangeSet) :
    discipline.Guides (verifyEndpoint device context desired changeSet) fun _ => True := by
  refine (guides_transitionTo .verifying).bind fun _ _ => ?_
  refine (guides_putRecord .verifying).bind fun _ _ => ?_
  refine (guides_free rfl).bind fun answer _ => ?_
  cases answer with
  | error error => exact guides_rollbackThen
  | ok verify =>
      dsimp only
      split
      · exact guides_pure trivial
      · exact guides_rollbackThen

theorem guides_confirmOrFinalize (strategy : TransactionStrategy) :
    discipline.Guides (confirmOrFinalize device context strategy) fun _ => True := by
  unfold confirmOrFinalize
  split
  · refine (guides_transitionTo .finalConfirming).bind fun _ _ => ?_
    refine (guides_putRecord .finalConfirming).bind fun _ _ => ?_
    refine (guides_free rfl).bind fun answer _ => ?_
    cases answer with
    | error error => exact guides_rollbackPreservingPrimary
    | ok confirm =>
        dsimp only
        split
        · exact guides_pure trivial
        · exact guides_rollbackPreservingPrimary
  · exact guides_advance .finalConfirming .finalConfirming

theorem guides_selectStrategy (deviceId : DeviceId) (allowDegradedAtomicity : Bool) :
    discipline.Guides (selectStrategy deviceId allowDegradedAtomicity) fun _ => True := by
  have capability : ∀ managed, discipline.Keeps (endpointCapability managed)
      (OnSuccess fun _ => True) := by
    intro managed
    unfold endpointCapability
    split
    · exact fun _ _ => trivial
    · exact keeps_free rfl fun _ _ _ _ => trivial
  refine (guides_attempt (keeps_free rfl fun _ _ _ _ => trivial)).bind fun managed (_ : True) => ?_
  refine (guides_attempt (keeps_free rfl fun _ _ _ _ => trivial)).bind fun _ (_ : True) => ?_
  refine (guides_attempt (capability managed)).bind fun profile _ => ?_
  have admitted : ∀ answer, discipline.Keeps (.done answer : Core (Except UnderlayError _))
      (OnSuccess fun _ : TransactionStrategy => True) := fun _ _ _ => trivial
  exact (guides_attempt (admitted _)).bind fun strategy _ => guides_pure trivial

theorem guides_applyChangedEndpoint (timeout : ℕ) (allowDegradedAtomicity : Bool)
    (desired : DeviceDesiredState) (changeSet : ChangeSet) :
    discipline.Guides
      (applyChangedEndpoint timeout context allowDegradedAtomicity desired changeSet)
      fun _ => True := by
  refine (guides_selectStrategy _ _).bind fun selected _ => ?_
  rcases selected with ⟨device, strategy⟩
  refine guides_get.bind fun record kept => ?_
  refine (guides_free rfl).bind fun now _ => ?_
  refine (guides_set (discipline.subject (.withStrategy (.refl record) strategy now) kept)).bind ?_
  intro _ _
  refine (guides_putRecord .strategySelected).bind fun _ _ => ?_
  refine (guides_prepareEndpoint desired).bind fun checksum _ => ?_
  refine (guides_commitEndpoint timeout strategy checksum).bind fun _ _ => ?_
  refine (guides_verifyEndpoint desired changeSet).bind fun report _ => ?_
  exact (guides_confirmOrFinalize strategy).bind fun _ _ => guides_pure trivial

theorem guides_applyChangedEndpoints (timeout : ℕ) (plan : DryRunPlan)
    (allowDegradedAtomicity : Bool) (desiredStates : List DeviceDesiredState)
    (selected : Option (TransactionStrategy × DeviceVerifyReport)) :
    discipline.Guides
      (applyChangedEndpoints timeout plan context allowDegradedAtomicity desiredStates selected)
      fun _ => True := by
  induction desiredStates generalizing selected with
  | nil => exact guides_pure trivial
  | cons desired rest ih =>
      unfold applyChangedEndpoints
      split
      · exact guides_throw
      · split
        · exact ih selected
        · exact (guides_applyChangedEndpoint _ _ _ _).bind fun outcome _ => ih _

theorem guides_applyChangedEndpointStates (timeout : ℕ) (desiredStates : List DeviceDesiredState)
    (plan : DryRunPlan) (allowDegradedAtomicity : Bool) :
    discipline.Guides
      (applyChangedEndpointStates timeout desiredStates plan context allowDegradedAtomicity)
      fun _ => True := by
  refine (guides_applyChangedEndpoints _ _ _ _ _).bind fun selected _ => ?_
  cases selected with
  | none => exact guides_throw
  | some outcome => exact guides_pure trivial

theorem isSuccess_deviceErrorResult {deviceId : DeviceId} {changed : Bool} {txId : Option String}
    {strategy : Option TransactionStrategy} {error : UnderlayError} :
    (deviceErrorResult deviceId changed txId strategy error).status.isSuccess = false := by
  simp only [deviceErrorResult]
  split <;> rfl

theorem isSuccess_applyStatusForFailedPhase (phase : TxPhase) :
    (applyStatusForFailedPhase phase).isSuccess = false := by
  cases phase <;> rfl

theorem keeps_nowUnixSecs : discipline.Keeps nowUnixSecs fun _ => True :=
  keeps_free rfl fun _ _ => trivial

theorem keeps_finishWithShadowFailure {deviceId : DeviceId} {txId : String}
    {strategy : TransactionStrategy} {warnings : List String} {report : DeviceVerifyReport}
    {failure : ShadowFailure} (kept : discipline.keeps record) :
    discipline.Keeps
      (finishWithShadowFailure deviceId txId record strategy warnings report failure)
      fun result => result.status.isSuccess = false := by
  refine (keeps_transitionPhase kept .inDoubt).bind fun answer holds => ?_
  cases answer with
  | error error => rfl
  | ok updated =>
      refine keeps_nowUnixSecs.bind fun now _ => ?_
      refine (keeps_journalPut .shadowFailure (keeps_withError (holds updated rfl))).bind ?_
      intro stored _
      cases stored <;> rfl

theorem keeps_finishWithMissingChangeSet {deviceId : DeviceId} {txId : String}
    {strategy : TransactionStrategy} {warnings : List String} {report : DeviceVerifyReport}
    (kept : discipline.keeps record) :
    discipline.Keeps (finishWithMissingChangeSet deviceId txId record strategy warnings report)
      fun result => result.status.isSuccess = false := by
  refine (keeps_transitionPhase kept .inDoubt).bind fun answer holds => ?_
  cases answer with
  | error error => rfl
  | ok updated =>
      refine keeps_nowUnixSecs.bind fun now _ => ?_
      exact (keeps_journalPut .shadowFailure (keeps_withError (holds updated rfl))).bind
        fun stored _ => rfl

theorem keeps_finishFailedApply {desired : DeviceDesiredState} (kept : discipline.keeps record) :
    discipline.Keeps (finishFailedApply desired context record error)
      fun result => result.status.isSuccess = false := by
  refine (keeps_transitionPhase kept _).bind fun answer holds => ?_
  cases answer with
  | error error => rfl
  | ok updated =>
      refine keeps_nowUnixSecs.bind fun now _ => ?_
      refine (keeps_journalPut .failedApply (keeps_withError (holds updated rfl))).bind ?_
      intro stored _
      cases stored <;> exact isSuccess_applyStatusForFailedPhase _

/-! ## The gates -/

theorem keeps_ensureNoInDoubtForDevices (deviceIds : List DeviceId) :
    discipline.Keeps (ensureNoInDoubtForDevices deviceIds).run fun _ => True := by
  have lists : discipline.Keeps listRecoverable fun _ => True := keeps_free rfl fun _ _ => trivial
  exact Confined.bindResult lists (fun _ _ => trivial) fun _ _ => trivial

theorem keeps_driftedDevices (deviceIds : List DeviceId) :
    discipline.Keeps (driftedDevices deviceIds).run fun _ => True := by
  induction deviceIds with
  | nil => trivial
  | cons deviceId rest ih =>
      have finds : discipline.Keeps (inventoryGet .driftGate deviceId) fun _ => True :=
        keeps_free rfl fun _ _ => trivial
      refine Confined.bindResult finds (fun managed _ => ?_) fun _ _ => trivial
      exact Confined.bindResult ih (fun _ _ => trivial) fun _ _ => trivial

theorem keeps_ensureDriftPolicyAllowsApply (deviceIds : List DeviceId) (policy : DriftPolicy) :
    discipline.Keeps (ensureDriftPolicyAllowsApply deviceIds policy).run fun _ => True := by
  unfold ensureDriftPolicyAllowsApply
  split
  · trivial
  · exact Confined.bindResult (keeps_driftedDevices deviceIds) (fun _ _ => trivial)
      fun _ _ => trivial

theorem keeps_fetchCurrentStates (desiredStates : List DeviceDesiredState) :
    discipline.Keeps (fetchCurrentStates desiredStates).run fun _ => True := by
  induction desiredStates with
  | nil => trivial
  | cons desired rest ih =>
      have asks : ∀ op : CoreOp, op.isFree = true → discipline.Keeps (interact op) fun _ => True :=
        fun op isFree => keeps_free isFree fun _ _ => trivial
      refine Confined.bindResult (asks (.inventoryGet .dryRun desired.deviceId) rfl) ?_
        fun _ _ => trivial
      intro managed _
      refine Confined.bindResult (asks (.adapterClient .dryRun managed.info.adapterEndpoint) rfl) ?_
        fun _ _ => trivial
      intro _ _
      refine Confined.bindResult (asks (.getCurrentState managed.info desired) rfl) ?_
        fun _ _ => trivial
      intro current _
      refine Confined.bindResult (asks (.observedPut current) rfl) ?_ fun _ _ => trivial
      intro _ _
      exact Confined.bindResult ih (fun _ _ => trivial) fun _ _ => trivial

/-- A dry run builds its plan from the states that it fetched. -/
theorem keeps_dryRunDesiredStates (desiredStates : List DeviceDesiredState) :
    discipline.Keeps (dryRunDesiredStates desiredStates).run
      (OnSuccess fun plan => ∃ currentStates,
        buildDryRunPlan desiredStates currentStates = .ok plan) := by
  refine Confined.bindResult (keeps_fetchCurrentStates desiredStates) ?_ ?_
  · exact fun currentStates _ plan built => ⟨currentStates, built⟩
  · exact fun _ _ _ impossible => nomatch impossible

end Apply

end Discipline

end AriaUnderlay
