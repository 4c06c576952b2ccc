import AriaUnderlay.Api.AdminRequests
import AriaUnderlay.Effect.Trace

/-!
# Mediation of administrative effects

An administrative request may change a journal record, break a session lock of a device, change an
alert or rewrite the worker configuration.  It is mediated when each of these comes after a
successful authorization of the operator for this action and after an audit record of the request.

Every policy and every audit store are covered by letting each call be answered by anything; only
the answers to force unlocks are those of the adapter.  All requests are mediated except one:
`forceUnlock` asks for no authorization and leaves no audit record.
-/

namespace AriaUnderlay

open Collections Effect

/-! ## Requests -/

/-- The administrative requests. -/
inductive AdminRequest where
  | forceResolveTransaction (request : ForceResolveTransactionRequest)
  | forceUnlock (request : ForceUnlockRequest)
  | alertTransition (request : AlertLifecycleTransitionRequest)
  | changeSummaryRetention
      (request : WorkerConfigRequest)
      (retention : OperationSummaryRetentionPolicy)
  | changeJournalGcRetention (request : WorkerConfigRequest) (retention : RetentionPolicy)
  | changeWorkerSchedule
      (request : WorkerConfigRequest)
      (target : WorkerScheduleTarget)
      (schedule : WorkerScheduleConfig)

namespace AdminRequest

/-- The identifier of a request. -/
def requestId : AdminRequest → String
  | .forceResolveTransaction request => request.requestId
  | .forceUnlock request => request.requestId
  | .alertTransition request => request.requestId
  | .changeSummaryRetention request _ | .changeJournalGcRetention request _
  | .changeWorkerSchedule request _ _ => request.requestId

/-- The operator that the request names; a force unlock names none. -/
def operator : AdminRequest → Option String
  | .forceResolveTransaction request => some request.operator
  | .forceUnlock _ => none
  | .alertTransition request => some request.operator
  | .changeSummaryRetention request _ | .changeJournalGcRetention request _
  | .changeWorkerSchedule request _ _ => some request.operator

/-- The action that stands for the effects of the request. -/
def action : AdminRequest → Option AdminAction
  | .forceResolveTransaction _ => some .forceResolveTransaction
  | .forceUnlock _ => some .forceUnlockSession
  | .alertTransition request => (actionForStatus request.targetStatus).toOption
  | .changeSummaryRetention _ _ | .changeJournalGcRetention _ _ => some .changeRetentionPolicy
  | .changeWorkerSchedule _ _ _ => some .changeDaemonSchedule

/-- What a request does. -/
def program : AdminRequest → Admin Unit
  | .forceResolveTransaction request => do
      let _ ← (AriaUnderlay.forceResolveTransaction request).run.inLeft operatorSignature
      pure ()
  | .forceUnlock request => do
      let _ ← (AriaUnderlay.forceUnlock request).run
      pure ()
  | .alertTransition request => do
      let _ ← (transitionAlert request).run
      pure ()
  | .changeSummaryRetention request retention => do
      let _ ← (AriaUnderlay.changeSummaryRetention request retention).run
      pure ()
  | .changeJournalGcRetention request retention => do
      let _ ← (AriaUnderlay.changeJournalGcRetention request retention).run
      pure ()
  | .changeWorkerSchedule request target schedule => do
      let _ ← (AriaUnderlay.changeWorkerSchedule request target schedule).run
      pure ()

/-- A force unlock for which the adapter asks the device to kill a session. -/
def breaksLock : AdminRequest → Bool
  | .forceUnlock request => adapterUnlocks request.lockOwner request.breakGlassEnabled
  | _ => false

end AdminRequest

/-! ## Effects -/

/-- The calls that can have an administrative effect. -/
def adminEffect : adminSignature.Op → Bool
  | .inl (.journalPut _ _) => true
  | .inr (.forceUnlock _ _ _ lockOwner _ breakGlassEnabled) =>
      adapterUnlocks lockOwner breakGlassEnabled
  | .inr (.alertTransition _) => true
  | .inr (.configWrite _ _) => true
  | _ => false

/-- The calls that count as having had one.  A force unlock breaks a lock if the adapter reports it
as committed. -/
def hadEffect : (op : adminSignature.Op) → adminSignature.Answer op → Bool
  | .inr (.forceUnlock _ _ _ _ _ _), (.ok outcome : AdapterAnswer) => outcome.status = .committed
  | .inr (.forceUnlock _ _ _ _ _ _), (.error _ : AdapterAnswer) => false
  | op, _ => adminEffect op

/-- The adapter could have given the answer; everything else may answer anything. -/
def answerable : Event adminSignature → Prop
  | ⟨.inr (.forceUnlock _ _ _ lockOwner _ breakGlassEnabled), answer⟩ =>
      UnlockAnswers lockOwner breakGlassEnabled answer
  | _ => True

theorem adminEffect_of_hadEffect {event : Event adminSignature} (given : answerable event)
    (had : hadEffect event.1 event.2 = true) :
    adminEffect event.1 = true := by
  rcases event with ⟨op | op, answer⟩
  · exact had
  · cases op with
    | forceUnlock device requestId traceId lockOwner reason breakGlassEnabled =>
        rcases (answer : AdapterAnswer) with error | outcome
        · cases had
        · exact UnlockAnswers.unlocks given (of_decide_eq_true had)
    | inventoryGet | adapterClient | configRead | alertTransition | configWrite => exact had

/-- What administrative requests have effects on. -/
structure AdminWorld where
  journal : BTreeMap String TxJournalRecord
  /-- The session locks that were broken, with the device and the owner. -/
  brokenLocks : List (DeviceId × String)
  alerts : BTreeMap String OperationAlertLifecycleRecord
  configs : String → Option UnderlayWorkerDaemonConfig

/-- A failed store is left as it was, and so is a lock whose break the adapter does not report. -/
def AdminWorld.after (world : AdminWorld) :
    (op : adminSignature.Op) → adminSignature.Answer op → AdminWorld
  | .inl (.journalPut _ record), (.ok _ : Except UnderlayError Unit) =>
      { world with journal := world.journal.insert record.txId record }
  | .inr (.forceUnlock device _ _ lockOwner _ _), (.ok outcome : AdapterAnswer) =>
      if outcome.status = .committed then
        { world with brokenLocks := world.brokenLocks ++ [(device.id, lockOwner)] }
      else world
  | .inr (.alertTransition _),
      (.ok record : Except UnderlayError OperationAlertLifecycleRecord) =>
      { world with alerts := world.alerts.insert record.dedupeKey record }
  | .inr (.configWrite path config), (.ok _ : Except UnderlayError Unit) =>
      { world with configs := Function.update world.configs path (some config) }
  | _, _ => world

/-- What is left after a run. -/
def AdminWorld.afterAll (world : AdminWorld) (events : List (Event adminSignature)) : AdminWorld :=
  events.foldl (fun world event => world.after event.1 event.2) world

theorem AdminWorld.after_of_no_effect {op : adminSignature.Op} {answer : adminSignature.Answer op}
    (noEffect : hadEffect op answer = false) (world : AdminWorld) :
    world.after op answer = world := by
  rcases op with op | op
  · cases op <;> first | rfl | cases noEffect
  · cases op with
    | forceUnlock device requestId traceId lockOwner reason breakGlassEnabled =>
        rcases (answer : AdapterAnswer) with error | outcome
        · rfl
        · exact if_neg (of_decide_eq_false noEffect)
    | inventoryGet | adapterClient | configRead => rfl
    | alertTransition | configWrite => cases noEffect

/-! ## Mediation -/

namespace AdminRequest

variable (request : AdminRequest)

/-- The operator of the request was authorized for its action. -/
def Authorized (events : List (Event adminSignature)) : Prop :=
  ∃ (asked : AuthorizationRequest) (decision : AuthorizationDecision),
    (⟨.inl (.authorize asked), Except.ok decision⟩ : Event adminSignature) ∈ events ∧
      asked.requestId = request.requestId ∧ some asked.operatorId = request.operator ∧
      some asked.action = request.action

/-- An audit record that names the request was appended. -/
def Audited (events : List (Event adminSignature)) : Prop :=
  ∃ record : ProductAuditRecord,
    (⟨.inl (.productAuditAppend record), Except.ok ()⟩ : Event adminSignature) ∈ events ∧
      record.requestId = request.requestId

/-- A call that can have an effect comes only after both. -/
def MayCall (earlier : List (Event adminSignature)) (op : adminSignature.Op) : Prop :=
  adminEffect op = true → request.Authorized earlier ∧ request.Audited earlier

/-- Every effect comes after an authorization and an audit record, and without the two of them
nothing changes. -/
structure Mediated (events : List (Event adminSignature)) : Prop where
  guarded : EachStep (fun earlier event => hadEffect event.1 event.2 = true →
    request.Authorized earlier ∧ request.Audited earlier) events
  unchanged : ¬(request.Authorized events ∧ request.Audited events) →
    ∀ world : AdminWorld, world.afterAll events = world

variable {request}

theorem Authorized.mono {earlier later : List (Event adminSignature)}
    (authorized : request.Authorized earlier) (grown : earlier ⊆ later) :
    request.Authorized later := by
  rcases authorized with ⟨asked, decision, member, same⟩
  exact ⟨asked, decision, grown member, same⟩

theorem Audited.mono {earlier later : List (Event adminSignature)}
    (audited : request.Audited earlier) (grown : earlier ⊆ later) :
    request.Audited later := by
  rcases audited with ⟨record, member, same⟩
  exact ⟨record, grown member, same⟩

/-- The second half of mediation follows from the first. -/
theorem mediated_of_guarded {events : List (Event adminSignature)}
    (guarded : EachStep (fun earlier event => hadEffect event.1 event.2 = true →
      request.Authorized earlier ∧ request.Audited earlier) events) :
    request.Mediated events := by
  refine ⟨guarded, fun missing world => ?_⟩
  induction events using List.reverseRecOn with
  | nil => rfl
  | append_singleton events event ih =>
      rcases eachStep_append_singleton.mp guarded with ⟨before, last⟩
      have missingBefore : ¬(request.Authorized events ∧ request.Audited events) := by
        rintro ⟨authorized, audited⟩
        exact missing ⟨authorized.mono (List.subset_append_left _ _),
          audited.mono (List.subset_append_left _ _)⟩
      have noEffect : hadEffect event.1 event.2 = false :=
        Bool.eq_false_of_not_eq_true fun had => missingBefore (last had)
      rw [AdminWorld.afterAll, List.foldl_append, List.foldl_cons, List.foldl_nil,
        AdminWorld.after_of_no_effect noEffect]
      exact ih before missingBefore

/-! ## The steps of mediated requests -/

variable {log : List (Event adminSignature)}

theorem mayCall_of_no_effect {op : adminSignature.Op} (noEffect : adminEffect op = false) :
    request.MayCall log op := by
  intro effect
  simp [noEffect] at effect

/-- Calls of the core without an administrative effect, in any order. -/
theorem ensures_quiet {α : Type} {program : Core α}
    (confined : Confined (fun op => adminEffect (.inl op) = false) (fun _ _ => True) program
      fun _ => True) :
    Ensures (recording adminSignature).left (.stepwise request.MayCall) () program
      (fun _ later => log <+: later) log := by
  have allowed : Confined
      (fun op => ∀ (log : List (Event adminSignature)) (_ : coreSignature.Answer op),
        request.MayCall log (.inl op))
      (fun _ _ => True) program fun _ => True := by
    induction program with
    | done value => trivial
    | call op next ih =>
        exact ⟨fun _ _ => mayCall_of_no_effect confined.1,
          fun answer _ => ih answer (confined.2 answer trivial)⟩
  exact (allowed.ensuresAllowed records_left).mono fun _ _ reached => reached.2

theorem quiet_nowUnixSecs :
    Confined (fun op => adminEffect (.inl op) = false) (fun _ _ => True) nowUnixSecs
      fun _ => True :=
  ⟨rfl, fun _ _ => trivial⟩

/-- An authorization that succeeds is on record afterwards. -/
theorem ensures_authorize {asked : AuthorizationRequest}
    (sameRequest : asked.requestId = request.requestId)
    (sameOperator : some asked.operatorId = request.operator)
    (sameAction : some asked.action = request.action) :
    Ensures (recording adminSignature).left (.stepwise request.MayCall) () (authorize asked)
      (fun (answer : Except UnderlayError AuthorizationDecision) later =>
        ∀ decision, answer = .ok decision → request.Authorized later) log := by
  apply ensures_allowed records_left
  · intro answer
    exact mayCall_of_no_effect rfl
  · intro answer decision granted
    have granted : (answer : Except UnderlayError AuthorizationDecision) = .ok decision := granted
    subst granted
    exact ⟨asked, decision, by simp, sameRequest, sameOperator, sameAction⟩

/-- An audit record that is appended is on record afterwards. -/
theorem ensures_productAuditAppend {record : ProductAuditRecord}
    (sameRequest : record.requestId = request.requestId) :
    Ensures (recording adminSignature).left (.stepwise request.MayCall) ()
      (productAuditAppend record)
      (fun (answer : Except UnderlayError Unit) later =>
        log <+: later ∧ (answer = .ok () → request.Audited later)) log := by
  apply ensures_allowed records_left
  · intro answer
    exact mayCall_of_no_effect rfl
  · intro answer
    refine ⟨List.prefix_append _ _, fun appended => ?_⟩
    have appended : (answer : Except UnderlayError Unit) = .ok () := appended
    subst appended
    exact ⟨record, by simp, sameRequest⟩

theorem ensures_appendAudit {record : ProductAuditRecord}
    (sameRequest : record.requestId = request.requestId) :
    Ensures (recording adminSignature).left (.stepwise request.MayCall) () (appendAudit record)
      (fun answer later => log <+: later ∧ (answer = .ok () → request.Audited later)) log := by
  unfold appendAudit
  apply Ensures.bind (ensures_productAuditAppend sameRequest)
  rintro (error | appended) later ⟨grown, audited⟩
  · exact ⟨grown, by simp [Except.mapError]⟩
  · exact ⟨grown, fun _ => audited rfl⟩

/-- An authorization and an audit record with the clock read in between, as the requests outside the
core make them. -/
theorem ensures_approved {α : Type} {asked : AuthorizationRequest}
    {audit : ℕ → Core (Except UnderlayError Unit)} {next : AdminResult α}
    (sameRequest : asked.requestId = request.requestId)
    (sameOperator : some asked.operatorId = request.operator)
    (sameAction : some asked.action = request.action)
    (audits : ∀ now log, Ensures (recording adminSignature).left (.stepwise request.MayCall) ()
      (audit now) (fun answer later => log <+: later ∧ (answer = .ok () → request.Audited later))
      log)
    (continues : ∀ later, request.Authorized later → request.Audited later →
      Ensures (recording adminSignature) (.stepwise request.MayCall) () next.run
        (fun _ _ => True) later) :
    Ensures (recording adminSignature) (.stepwise request.MayCall) ()
      (do
        let _ ← viaCore (authorize asked)
        let now ← ExceptT.lift (nowUnixSecs.inLeft operatorSignature)
        viaCore (audit now)
        next : AdminResult α).run (fun _ _ => True) log := by
  apply Ensures.bindResult
    (ensures_inLeft.mpr (ensures_authorize sameRequest sameOperator sameAction))
  · intro decision authorizedLog granted
    have authorized := granted decision rfl
    apply Ensures.bindLift (ensures_inLeft.mpr (ensures_quiet quiet_nowUnixSecs))
    intro now timedLog timed
    apply Ensures.bindResult (ensures_inLeft.mpr (audits now timedLog))
    · rintro ⟨⟩ auditedLog ⟨grown, audited⟩
      exact continues auditedLog (authorized.mono (timed.trans grown).subset) (audited rfl)
    · intros
      trivial
  · intros
    trivial

/-! ## Mediated requests -/

/-- A check that makes no call. -/
theorem ensures_checked {α β : Type} {outcome : Except UnderlayError α} {next : α → AdminResult β}
    (continues : ∀ value, outcome = .ok value →
      Ensures (recording adminSignature) (.stepwise request.MayCall) () (next value).run
        (fun _ _ => True) log) :
    Ensures (recording adminSignature) (.stepwise request.MayCall) ()
      (ExceptT.mk (pure outcome) >>= next).run (fun _ _ => True) log := by
  cases outcome with
  | error error => trivial
  | ok value => exact continues value rfl

/-- A call outside the core that is made where it may be made. -/
theorem ensures_operate {op : OperatorOp} (permitted : request.MayCall log (.inr op)) :
    Ensures (recording adminSignature) (.stepwise request.MayCall) () (operate op)
      (fun _ _ => True) log :=
  ensures_allowed records_self (fun _ => permitted) fun _ => trivial

theorem ensures_changeWorkerSetting {base : WorkerConfigRequest} {change : WorkerSettingChange}
    (sameRequest : base.requestId = request.requestId)
    (sameOperator : some base.operator = request.operator)
    (sameAction : some change.action = request.action) :
    Ensures (recording adminSignature) (.stepwise request.MayCall) ()
      (changeWorkerSetting base change).run (fun _ _ => True) log := by
  unfold changeWorkerSetting
  apply ensures_checked
  intro _ _
  apply ensures_checked
  intro _ _
  apply Ensures.bindResult (ensures_operate (mayCall_of_no_effect rfl))
  · intro config readLog _
    apply ensures_checked
    intro _ _
    apply ensures_approved sameRequest sameOperator sameAction
    · intro now log
      exact ensures_appendAudit sameRequest
    · intro later authorized audited
      apply Ensures.bindResult (ensures_operate fun _ => ⟨authorized, audited⟩)
      · intros
        trivial
      · intros
        trivial
  · intros
    trivial

theorem ensures_transitionAlert {base : AlertLifecycleTransitionRequest} :
    Ensures (recording adminSignature) (.stepwise (alertTransition base).MayCall) ()
      (transitionAlert base).run (fun _ _ => True) log := by
  unfold transitionAlert
  apply ensures_checked
  intro _ _
  apply ensures_checked
  intro action chosen
  have sameAction : some action = (alertTransition base).action := by
    simp [AdminRequest.action, chosen, Except.toOption]
  apply ensures_approved rfl rfl sameAction
  · intro now log
    exact ensures_productAuditAppend rfl
  · intro later authorized audited
    exact ensures_operate fun _ => ⟨authorized, audited⟩

variable {base : ForceUnlockRequest}

/-- A force unlock that the adapter refuses. -/
theorem ensures_forceUnlock
    (lockKept : adapterUnlocks base.lockOwner base.breakGlassEnabled = false) :
    Ensures (recording adminSignature) (.stepwise request.MayCall) ()
      (AriaUnderlay.forceUnlock base).run (fun _ _ => True) log := by
  unfold AriaUnderlay.forceUnlock
  apply Ensures.bindResult (ensures_operate (mayCall_of_no_effect rfl))
  · intro managed foundLog _
    apply Ensures.bindResult (ensures_operate (mayCall_of_no_effect rfl))
    · rintro ⟨⟩ connectedLog -
      have refused : request.MayCall connectedLog (.inr (.forceUnlock managed.info base.requestId
          (base.traceId.getD base.requestId) base.lockOwner base.reason base.breakGlassEnabled)) :=
        mayCall_of_no_effect lockKept
      apply Ensures.bindResult (ensures_operate refused)
      · intros
        trivial
      · intros
        trivial
    · intros
      trivial
  · intros
    trivial

/-! ## Force resolve -/

theorem quiet_existingRecord {txId : String} :
    Confined (fun op => adminEffect (.inl op) = false) (fun _ _ => True) (existingRecord txId).run
      fun _ => True := by
  refine ⟨rfl, fun answer _ => ?_⟩
  rcases (answer : Except UnderlayError (Option TxJournalRecord)) with error | none | record
  · trivial
  · trivial
  · trivial

theorem quiet_acquireMany {deviceIds : List DeviceId} :
    Confined (fun op => adminEffect (.inl op) = false) (fun _ _ => True) (acquireMany deviceIds)
      fun _ => True := by
  induction deviceIds with
  | nil => trivial
  | cons deviceId rest ih => exact ⟨rfl, fun _ _ => ih⟩

theorem ensures_storePhase {site : PutSite} {record : TxJournalRecord} {phase : TxPhase}
    (authorized : request.Authorized log) (audited : request.Audited log) :
    Ensures (recording adminSignature).left (.stepwise request.MayCall) ()
      (storePhase site record phase).run (fun _ _ => True) log := by
  unfold storePhase
  have transitions : Confined (fun op => adminEffect (.inl op) = false) (fun _ _ => True)
      (transitionPhase record phase) fun _ => True := by
    unfold transitionPhase
    split
    · trivial
    · exact ⟨rfl, fun _ _ => trivial⟩
  apply Ensures.bindResult (ensures_quiet transitions)
  · intro updated later grown
    have puts : Ensures (recording adminSignature).left (.stepwise request.MayCall) ()
        (journalPut site updated) (fun _ _ => True) later :=
      ensures_allowed records_left
        (fun _ _ => ⟨authorized.mono grown.subset, audited.mono grown.subset⟩) fun _ => trivial
    apply Ensures.bindResult puts
    · intros
      trivial
    · intros
      trivial
  · intros
    trivial

theorem ensures_forceResolveLocked {base : ForceResolveTransactionRequest} :
    Ensures (recording adminSignature).left (.stepwise (forceResolveTransaction base).MayCall) ()
      (forceResolveLocked base).run (fun _ _ => True) log := by
  unfold forceResolveLocked
  apply Ensures.bindResult (ensures_quiet quiet_existingRecord)
  · intro record foundLog _
    split
    · trivial
    · apply Ensures.bindResult (ensures_authorize rfl rfl rfl)
      · intro decision authorizedLog granted
        have authorized := granted decision rfl
        apply Ensures.bindLift (ensures_quiet quiet_nowUnixSecs)
        intro auditedAt timedLog timed
        apply Ensures.bindResult (ensures_appendAudit rfl)
        · rintro ⟨⟩ auditedLog ⟨grown, audited⟩
          apply Ensures.bindLift (ensures_quiet quiet_nowUnixSecs)
          intro resolvedAt later resolves
          apply Ensures.bindResult (ensures_storePhase
            (authorized.mono (timed.trans (grown.trans resolves)).subset)
            ((audited rfl).mono resolves.subset))
          · intros
            trivial
          · intros
            trivial
        · intros
          trivial
      · intros
        trivial
  · intros
    trivial

-- which requests are refused does not matter here
attribute [local irreducible] validateForceResolveRequest

theorem ensures_forceResolveTransaction {base : ForceResolveTransactionRequest} :
    Ensures (recording adminSignature).left (.stepwise (forceResolveTransaction base).MayCall) ()
      (AriaUnderlay.forceResolveTransaction base).run (fun _ _ => True) log := by
  unfold AriaUnderlay.forceResolveTransaction
  have validates : Ensures (recording adminSignature).left
      (.stepwise (forceResolveTransaction base).MayCall) ()
      (pure (validateForceResolveRequest base)) (fun _ _ => True) log := trivial
  apply Ensures.bindResult validates
  · rintro ⟨⟩ checkedLog -
    apply Ensures.bindResult (ensures_quiet quiet_existingRecord)
    · intro candidate foundLog _
      apply (ensures_quiet quiet_acquireMany).bind
      intro _ lockedLog _
      apply ensures_forceResolveLocked.bind
      intro outcome resolvedLog _
      have releases : Confined (fun op => adminEffect (.inl op) = false) (fun _ _ => True)
          (release (orderedDeviceIds candidate.devices)) fun _ => True :=
        ⟨rfl, fun _ _ => trivial⟩
      apply (ensures_quiet releases).bind
      intros
      trivial
    · intros
      trivial
  · intros
    trivial

/-! ## All requests -/

attribute [local irreducible] changeWorkerSetting transitionAlert

theorem ensures_program (lockKept : request.breaksLock = false) :
    Ensures (recording adminSignature) (.stepwise request.MayCall) () request.program
      (fun _ _ => True) log := by
  cases request with
  | forceResolveTransaction base =>
      rw [program, ensures_ended, ensures_inLeft]
      exact ensures_forceResolveTransaction
  | forceUnlock base =>
      rw [program, ensures_ended]
      exact ensures_forceUnlock lockKept
  | alertTransition base =>
      rw [program, ensures_ended]
      exact ensures_transitionAlert
  | changeSummaryRetention base retention =>
      rw [program, ensures_ended]
      exact ensures_changeWorkerSetting rfl rfl rfl
  | changeJournalGcRetention base retention =>
      rw [program, ensures_ended]
      exact ensures_changeWorkerSetting rfl rfl rfl
  | changeWorkerSchedule base target schedule =>
      rw [program, ensures_ended]
      exact ensures_changeWorkerSetting rfl rfl rfl

theorem mediated_of_traces {events : List (Event adminSignature)}
    (lockKept : request.breaksLock = false) (traced : Effect.Traces request.program events ())
    (given : ∀ event ∈ events, answerable event) :
    request.Mediated events := by
  have ensured : Ensures (recording adminSignature) (.stepwise request.MayCall) () request.program
      (fun _ _ => True) [] := ensures_program lockKept
  have guarded := eachStep_of_calls ensured eachStep_nil traced.calls
  apply mediated_of_guarded
  intro earlier event part had
  have member : event ∈ events := part.subset (by simp)
  exact guarded earlier event (by simpa using part)
    (adminEffect_of_hadEffect (given event member) had)

/-! ## The force unlock -/

/-- The calls of a force unlock that succeeds. -/
def unlockEvents (base : ForceUnlockRequest) (managed : ManagedDevice) :
    List (Event adminSignature) :=
  [⟨.inr (.inventoryGet base.deviceId), (.ok managed : Except UnderlayError ManagedDevice)⟩,
    ⟨.inr (.adapterClient managed.info.adapterEndpoint), (.ok () : Except UnderlayError Unit)⟩,
    ⟨.inr (.forceUnlock managed.info base.requestId (base.traceId.getD base.requestId)
      base.lockOwner base.reason base.breakGlassEnabled),
      (.ok { status := .committed } : AdapterAnswer)⟩]

theorem traces_unlockEvents (base : ForceUnlockRequest) (managed : ManagedDevice) :
    Effect.Traces (forceUnlock base).program (unlockEvents base managed) () :=
  .call _ (.call _ (.call _ (.done ())))

/-- Among them are none of the core: no authorization and no audit record. -/
theorem not_mem_unlockEvents {managed : ManagedDevice} {op : CoreOp} {answer : op.Answer} :
    (⟨.inl op, answer⟩ : Event adminSignature) ∉ unlockEvents base managed := by
  intro member
  have outside : ∀ event ∈ unlockEvents base managed, ∃ op, event.1 = .inr op := by
    simp only [unlockEvents, List.forall_mem_cons]
    exact ⟨⟨_, rfl⟩, ⟨_, rfl⟩, ⟨_, rfl⟩, by simp⟩
  rcases outside _ member with ⟨other, isOther⟩
  exact Sum.inl_ne_inr isOther

theorem answerable_unlockEvents
    (lockBroken : adapterUnlocks base.lockOwner base.breakGlassEnabled = true)
    (managed : ManagedDevice) :
    ∀ event ∈ unlockEvents base managed, answerable event := by
  simp only [unlockEvents, List.forall_mem_cons]
  exact ⟨trivial, trivial, unlockAnswers_committed lockBroken, by simp⟩

theorem not_mediated_unlockEvents (base : ForceUnlockRequest) (managed : ManagedDevice) :
    ¬(forceUnlock base).Mediated (unlockEvents base managed) := by
  rintro ⟨guarded, -⟩
  rcases guarded ((unlockEvents base managed).take 2) _ (List.prefix_refl _) rfl with
    ⟨-, record, member, -⟩
  exact not_mem_unlockEvents (List.take_subset _ _ member)

theorem exists_traces_program :
    ∃ events, Effect.Traces request.program events () ∧ ∀ event ∈ events, answerable event := by
  have answered : ∀ op : adminSignature.Op, ∃ answer, answerable ⟨op, answer⟩ := by
    rintro (op | op)
    · cases op with
      | acquire | release => exact ⟨(), trivial⟩
      | nowUnixSecs => exact ⟨(0 : ℕ), trivial⟩
      | newTxId => exact ⟨"", trivial⟩
      | _ => exact ⟨Except.error (.invalidIntent ""), trivial⟩
    · cases op with
      | forceUnlock => exact ⟨_, .failed (.invalidIntent "")⟩
      | _ => exact ⟨Except.error (.invalidIntent ""), trivial⟩
  rcases exists_traces answered request.program with ⟨events, ⟨⟩, traced, given⟩
  exact ⟨events, traced, given⟩

theorem exists_unmediated (lockBroken : request.breaksLock = true) :
    ∃ events, (Effect.Traces request.program events () ∧ ∀ event ∈ events, answerable event) ∧
      ¬request.Mediated events := by
  cases request with
  | forceUnlock base =>
      let managed : ManagedDevice :=
        { info := { id := base.deviceId, adapterEndpoint := "", lifecycleState := .ready }
          capability := none }
      exact ⟨unlockEvents base managed,
        ⟨traces_unlockEvents base managed, answerable_unlockEvents lockBroken managed⟩,
        not_mediated_unlockEvents base managed⟩
  | _ => cases lockBroken

end AdminRequest

/-- However the calls are answered, every request of a sequence is mediated just when none of them
is a force unlock under break-glass whose lock owner is a session. -/
theorem mediated_iff (requests : List AdminRequest) :
    (∀ runs : List (List (Event adminSignature)),
      List.Forall₂ (fun request events => Effect.Traces request.program events () ∧
        ∀ event ∈ events, answerable event) requests runs →
        List.Forall₂ AdminRequest.Mediated requests runs) ↔
      ∀ request ∈ requests, request.breaksLock = false := by
  constructor
  · intro mediated request member
    rw [← Bool.not_eq_true]
    intro lockBroken
    rcases AdminRequest.exists_unmediated lockBroken with ⟨badRun, badTraced, unmediated⟩
    -- any run of the other requests will do
    classical
    choose anyRun anyTraced using fun request => @AdminRequest.exists_traces_program request
    have traced : List.Forall₂ (fun request events => Effect.Traces request.program events () ∧
        ∀ event ∈ events, answerable event) requests
        (requests.map (Function.update anyRun request badRun)) := by
      rw [List.forall₂_map_right_iff, List.forall₂_same]
      intro other _
      by_cases same : other = request
      · subst same
        simpa using badTraced
      · simpa [same] using anyTraced other
    have each := mediated _ traced
    rw [List.forall₂_map_right_iff, List.forall₂_same] at each
    exact unmediated (by simpa using each request member)
  · intro lockKept runs traced
    induction traced with
    | nil => exact .nil
    | cons first rest ih =>
        exact .cons (AdminRequest.mediated_of_traces (lockKept _ (by simp)) first.1 first.2)
          (ih fun request member => lockKept request (by simp [member]))

/-- A force unlock that asks nobody and leaves no audit record. -/
theorem lock_broken_without_audit :
    let request : ForceUnlockRequest :=
      { requestId := "req-1"
        traceId := none
        deviceId := "leaf-a"
        lockOwner := "7"
        reason := ""
        breakGlassEnabled := true }
    let managed : ManagedDevice :=
      { info := { id := "leaf-a", adapterEndpoint := "http://adapter", lifecycleState := .ready }
        capability := none }
    let events := AdminRequest.unlockEvents request managed
    Effect.Traces (AdminRequest.forceUnlock request).program events () ∧
      (∀ event ∈ events, answerable event) ∧
      (∀ world : AdminWorld, (world.afterAll events).brokenLocks =
        world.brokenLocks ++ [("leaf-a", "7")]) ∧
      (∀ asked decision, (⟨.inl (.authorize asked), decision⟩ : Event adminSignature) ∉ events) ∧
      (∀ record appended,
        (⟨.inl (.productAuditAppend record), appended⟩ : Event adminSignature) ∉ events) ∧
      ¬(AdminRequest.forceUnlock request).Mediated events :=
  ⟨AdminRequest.traces_unlockEvents _ _,
    AdminRequest.answerable_unlockEvents (by decide +kernel) _, fun _ => rfl,
    fun _ _ => AdminRequest.not_mem_unlockEvents, fun _ _ => AdminRequest.not_mem_unlockEvents,
    AdminRequest.not_mediated_unlockEvents _ _⟩

end AriaUnderlay
