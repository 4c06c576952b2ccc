import AriaUnderlay.Api.AdminOps
import AriaUnderlay.Api.ApplyAgreement
import AriaUnderlay.Api.Service
import AriaUnderlay.Effect.Interleaving
import AriaUnderlay.Ha.LeaseSafety

/-!
# Requests in active-passive mode

A process that has acquired the lease recovers pending transactions and then serves requests, each
of which checks the lease when it comes in.  Whatever the tasks of several processes do in between,
everything that a request writes comes after its own check, and the check found the token of the
process and a fresh heartbeat in the lease file.

The check is not repeated.  A request that is under way when another process takes a stale lease
over goes on writing, which the operation of the cluster excludes by stopping or fencing the old
node first.
-/

namespace AriaUnderlay

open Collections Effect

/-! ## Programs -/

abbrev haSignature : Signature :=
  leaseSignature.sum serviceSignature

abbrev HaResult : Type → Type := Result haSignature UnderlayError

/-- A program of the lease. -/
def onLease {α : Type} (program : LeaseResult α) : HaResult α :=
  ExceptT.mk (program.run.inLeft serviceSignature)

/-- A program of the service that the lease protects. -/
def onService {α : Type} (program : ServiceResult α) : HaResult α :=
  ExceptT.mk (program.run.inRight leaseSignature)

/-- A program of the coordinators that may fail. -/
def coordinateResult {α : Type} (program : CoreResult α) : ServiceResult α :=
  ExceptT.mk (coordinate program.run)

/-- A guard is acquired before anything is recovered. -/
def activateActivePassive (config : ActiveLeaseConfig) :
    HaResult (ActiveLeaseGuard × RecoveryReport) := do
  let lease ← onLease (ActiveLeaseGuard.acquire config)
  onLease (ExceptT.lift (leaseCall (.acquired lease.token)))
  let startupRecovery ← onService (coordinateResult recoverPendingTransactions)
  pure (lease, startupRecovery)

/-- The requests that an active process serves.  `other` is any program of the service.  It stands
for the requests whose calls are not spelled out here: the initialization of a site, the
registration, onboarding and refresh of devices, the drift audit, the force unlock, the listings. -/
inductive ActiveRequest where
  | applyDomainIntent (request : ApplyDomainIntentRequest)
  | retryFailedDomainEndpoints (request : RetryFailedDomainEndpointsRequest)
  | dryRunDomain (request : ApplyDomainIntentRequest)
  | applyIntent (request : ApplyIntentRequest)
  | dryRun (request : ApplyIntentRequest)
  | recoverPendingTransactions
  | forceResolveTransaction (request : ForceResolveTransactionRequest)
  | other (program : ServiceResult Unit)

/-- What the service does for a request once the lease is checked. -/
def ActiveRequest.serve (confirmedCommitTimeoutSecs : ℕ) : ActiveRequest → ServiceResult Unit
  | .applyDomainIntent request =>
      discard (AriaUnderlay.applyDomainIntent confirmedCommitTimeoutSecs request)
  | .retryFailedDomainEndpoints request =>
      discard (AriaUnderlay.retryFailedDomainEndpoints confirmedCommitTimeoutSecs request)
  | .dryRunDomain request => do
      let desiredStates ← ExceptT.mk (pure (planUnderlayDomain request.intent))
      discard (coordinateResult (dryRunDesiredStates desiredStates))
  | .applyIntent request =>
      discard (coordinateResult (AriaUnderlay.applyIntent confirmedCommitTimeoutSecs request))
  | .dryRun request => do
      ExceptT.mk (pure (validateSwitchPairIntent request.intent))
      discard (coordinateResult (dryRunDesiredStates (planSwitchPair request.intent)))
  | .recoverPendingTransactions =>
      discard (coordinateResult AriaUnderlay.recoverPendingTransactions)
  | .forceResolveTransaction request =>
      discard (coordinateResult (AriaUnderlay.forceResolveTransaction request))
  | .other program => program

/-- A request that comes in while the process believes to be active. -/
def serveActive (guard : ActiveLeaseGuard) (confirmedCommitTimeoutSecs : ℕ)
    (request : ActiveRequest) : HaResult Unit := do
  onLease guard.ensureCurrent
  onService (request.serve confirmedCommitTimeoutSecs)

/-- What a task of a process does. -/
inductive HaJob where
  | activate (config : ActiveLeaseConfig)
  | serve (guard : ActiveLeaseGuard) (confirmedCommitTimeoutSecs : ℕ) (request : ActiveRequest)

/-- The program of a job. -/
def HaJob.program : HaJob → Program haSignature Unit
  | .activate config => do
      let _ ← (activateActivePassive config).run
      pure ()
  | .serve guard confirmedCommitTimeoutSecs request => do
      let _ ← (serveActive guard confirmedCommitTimeoutSecs request).run
      pure ()

/-! ## Writes -/

/-- The calls that change a device, the journal or the shadow store. -/
def isWrite : haSignature.Op → Bool
  | .inr (.inl (.adapter _ _ call)) => match call with
      | .verify _ _ => false
      | _ => true
  | .inr (.inl (.journalPut _ _)) | .inr (.inl (.shadowPut _ _)) => true
  | _ => false

namespace HaJob

variable (job : HaJob)

/-- The task has acquired the lease, or it has read the token of its process and a fresh heartbeat
in the lease file. -/
def Admitted (events : List (Event haSignature)) : Prop :=
  match job with
  | .activate _ =>
      ∃ token, (⟨.inl (.acquired token), ()⟩ : Event haSignature) ∈ events
  | .serve guard _ _ =>
      ∃ (record : ActiveLeaseRecord) (now : ℕ),
        (⟨.inl .read, ReadAnswer.record record⟩ : Event haSignature) ∈ events ∧
          (⟨.inl .nowUnixSecs, now⟩ : Event haSignature) ∈ events ∧
          record.token = guard.token ∧ now - record.updatedAtUnixSecs ≤ guard.ttlSecs

/-- A write comes only after that. -/
def MayCall (earlier : List (Event haSignature)) (op : haSignature.Op) : Prop :=
  isWrite op = true → job.Admitted earlier

variable {job} {log : List (Event haSignature)}

theorem Admitted.mono {later : List (Event haSignature)} (admitted : job.Admitted log)
    (grown : log ⊆ later) :
    job.Admitted later := by
  cases job with
  | activate config =>
      rcases admitted with ⟨token, member⟩
      exact ⟨token, grown member⟩
  | serve guard timeoutSecs request =>
      rcases admitted with ⟨record, now, hasRead, timed, current⟩
      exact ⟨record, now, grown hasRead, grown timed, current⟩

/-- The lease can be used at any time. -/
theorem ensures_onLease {α : Type} (program : Lease α) :
    Ensures (recording haSignature).left (.stepwise job.MayCall) () program
      (fun _ later => log <+: later) log := by
  have allowed : Confined
      (fun op => ∀ (log : List (Event haSignature)) (_ : leaseSignature.Answer op),
        job.MayCall log (.inl op))
      (fun _ _ => True) program fun _ => True := by
    induction program with
    | done value => trivial
    | call op next ih => exact ⟨fun _ _ => nofun, fun answer _ => ih answer⟩
  exact (allowed.ensuresAllowed records_left).mono fun _ _ reached => reached.2

/-- An admitted task may make any call. -/
theorem ensures_onService {α : Type} (program : Service α) (admitted : job.Admitted log) :
    Ensures (recording haSignature).right (.stepwise job.MayCall) () program
      (fun _ _ => True) log := by
  induction program generalizing log with
  | done value => trivial
  | call op next ih =>
      rintro answer after rfl
      refine ⟨stepwise_guarantee fun _ => admitted, ?_⟩
      rintro later rfl -
      exact ih answer (admitted.mono (List.subset_append_left _ _))

/-- The records that were read are on the log. -/
theorem ensures_readLeaseRecord {path : String} :
    Ensures (recording haSignature).left (.stepwise job.MayCall) () (readLeaseRecord path).run
      (fun outcome later => ∀ record, outcome = .ok record →
        (⟨.inl .read, ReadAnswer.record record⟩ : Event haSignature) ∈ later) log := by
  rintro (answer : ReadAnswer) after rfl
  refine ⟨stepwise_guarantee nofun, ?_⟩
  rintro later rfl -
  cases answer with
  | record found =>
      rintro record ⟨⟩
      simp
  | unparsable text => nofun
  | failed text => nofun

theorem ensures_leaseIsStale {record : ActiveLeaseRecord} {ttlSecs : ℕ} :
    Ensures (recording haSignature).left (.stepwise job.MayCall) () (leaseIsStale record ttlSecs)
      (fun stale later => log <+: later ∧ (stale = false → ∃ now : ℕ,
        (⟨.inl .nowUnixSecs, now⟩ : Event haSignature) ∈ later ∧
          now - record.updatedAtUnixSecs ≤ ttlSecs)) log := by
  rintro (now : ℕ) after rfl
  refine ⟨stepwise_guarantee nofun, ?_⟩
  rintro later rfl -
  refine ⟨List.prefix_append _ _, fun fresh => ⟨now, by simp, ?_⟩⟩
  simpa using fresh

theorem ensures_ensureCurrent {guard : ActiveLeaseGuard} {timeoutSecs : ℕ}
    {request : ActiveRequest} :
    Ensures (recording haSignature).left (.stepwise (serve guard timeoutSecs request).MayCall) ()
      guard.ensureCurrent.run
      (fun outcome later => outcome = .ok () → (serve guard timeoutSecs request).Admitted later)
      log := by
  unfold ActiveLeaseGuard.ensureCurrent
  apply Ensures.bindResult ensures_readLeaseRecord
  · intro record readLog hasRead
    split
    · rename_i sameToken
      apply Ensures.bindLift ensures_leaseIsStale
      rintro stale timedLog ⟨grown, timed⟩
      cases stale with
      | true => nofun
      | false =>
          intro _
          rcases timed rfl with ⟨now, member, fresh⟩
          exact ⟨record, now, grown.subset (hasRead record rfl), member, sameToken, fresh⟩
    · nofun
  · nofun

theorem ensures_activateActivePassive {config : ActiveLeaseConfig} :
    Ensures (recording haSignature) (.stepwise (activate config).MayCall) ()
      (activateActivePassive config).run (fun _ _ => True) log := by
  apply Ensures.bindResult (ensures_inLeft.mpr (ensures_onLease _))
  · intro lease acquiredLog _
    have marks : Ensures (recording haSignature).left (.stepwise (activate config).MayCall) ()
        (ExceptT.lift (leaseCall (.acquired lease.token)) : LeaseResult Unit).run
        (fun _ later => (activate config).Admitted later) acquiredLog := by
      rintro ⟨⟩ after rfl
      refine ⟨stepwise_guarantee nofun, ?_⟩
      rintro later rfl -
      exact ⟨lease.token, by simp⟩
    apply Ensures.bindResult (ensures_inLeft.mpr marks)
    · rintro ⟨⟩ admittedLog admitted
      apply Ensures.bindResult (ensures_inRight.mpr (ensures_onService _ admitted))
      · intros
        trivial
      · intros
        trivial
    · intros
      trivial
  · intros
    trivial

theorem ensures_serveActive {guard : ActiveLeaseGuard} {timeoutSecs : ℕ} {request : ActiveRequest} :
    Ensures (recording haSignature) (.stepwise (serve guard timeoutSecs request).MayCall) ()
      (serveActive guard timeoutSecs request).run (fun _ _ => True) log := by
  apply Ensures.bindResult (ensures_inLeft.mpr ensures_ensureCurrent)
  · rintro ⟨⟩ admittedLog admitted
    exact ensures_inRight.mpr (ensures_onService _ (admitted rfl))
  · intros
    trivial

theorem eachStep_mayCall {events : List (Event haSignature)} (called : Calls job.program events) :
    EachStep (fun earlier event => job.MayCall earlier event.1) events := by
  have ensured : Ensures (recording haSignature) (.stepwise job.MayCall) () job.program
      (fun _ _ => True) [] := by
    cases job with
    | activate config =>
        rw [program, ensures_ended]
        exact ensures_activateActivePassive
    | serve guard timeoutSecs request =>
        rw [program, ensures_ended]
        exact ensures_serveActive
  simpa using eachStep_of_calls ensured eachStep_nil called

end HaJob

/-! ## Interleaved tasks -/

/-- However the tasks of any number of processes interleave, and wherever they pause, every write of
a task comes after its own acquisition or check of the lease.  A request that finds another token in
the lease file writes nothing. -/
theorem write_follows_lease_check {Task : Type} [DecidableEq Task] {job : Task → HaJob}
    {run : List (Task × Event haSignature)}
    (called : ∀ task, Calls (job task).program (ownEvents task run)) :
    EachStep (fun earlier step => isWrite step.2.1 = true →
        (job step.1).Admitted (ownEvents step.1 earlier)) run ∧
      ∀ task guard timeoutSecs request, job task = .serve guard timeoutSecs request →
        (∀ record : ActiveLeaseRecord,
          (task, (⟨.inl .read, ReadAnswer.record record⟩ : Event haSignature)) ∈ run →
            record.token ≠ guard.token) →
        ∀ event, (task, event) ∈ run → isWrite event.1 = false := by
  have guarded : EachStep (fun earlier step => isWrite step.2.1 = true →
      (job step.1).Admitted (ownEvents step.1 earlier)) run :=
    eachStep_interleaved fun task => HaJob.eachStep_mayCall (called task)
  refine ⟨guarded, fun task guard timeoutSecs request serves moved event member => ?_⟩
  rw [← Bool.not_eq_true]
  intro writes
  rcases List.append_of_mem member with ⟨earlier, later, whole⟩
  have part : earlier ++ [(task, event)] <+: run := ⟨later, by simp [whole]⟩
  have admitted := guarded earlier _ part writes
  simp only [serves] at admitted
  rcases admitted with ⟨record, now, hasRead, -, sameToken, -⟩
  exact moved record (whole ▸ List.mem_append_left _ (mem_ownEvents.mp hasRead)) sameToken

/-! ## Two processes -/

/-- The tasks of each process are numbered. -/
structure HaTask where
  process : LeaseProcess
  number : Thread
  deriving DecidableEq

/-- The lease file, the stores and the devices are shared; endpoint locks belong to a process. -/
structure HaWorld where
  lease : LeaseWorld
  stores : World
  locks : LeaseProcess → DeviceId → Option Thread

/-- No lease and empty stores. -/
def HaWorld.initial : HaWorld where
  lease := .initial
  stores := .initial
  locks := fun _ _ => none

/-- The stores together with the locks of one process. -/
def HaWorld.view (world : HaWorld) (process : LeaseProcess) : World :=
  { world.stores with locks := world.locks process }

/-- What a process changes. -/
def HaWorld.setView (world : HaWorld) (process : LeaseProcess) (after : World) : HaWorld :=
  { world with
    stores := after
    locks := Function.update world.locks process after.locks }

/-- The service's own lock tables and record stores answer anything here. -/
def haEnvironment (ttlSecs : ℕ) : Environment haSignature HaTask HaWorld where
  respond := fun task world op answer after =>
    match op, answer with
    | .inl op, answer => ∃ lease,
        (leaseEnvironment ttlSecs).respond task.process world.lease op answer lease ∧
          after = { world with lease := lease }
    | .inr (.inl op), answer => ∃ stores,
        coreEnvironment.respond task.number (world.view task.process) op answer stores ∧
          after = world.setView task.process stores
    | .inr (.inr _), _ => after = world
  restart := id

/-! ## A request that outlives the lease -/

namespace Deposed

/-- The service has no record yet, and its stores and locks are free. -/
def hostAnswer : (op : ServiceOp) → op.Answer
  | .findSlot _ => false
  | .getRecord _ => .ok none
  | .lockSlot _ => none
  | .putRecord _ _ | .putApplyRecord _ => .ok ()
  | .getApplyRecord _ => .ok none
  | .lockScope _ | .unlockScopes _ | .insertSlot _ _ | .fillSlot _ _ | .unlockSlot _
  | .coordinatorCalled _ | .coordinatorReturned => ()

/-- A token is drawn when it is asked for. -/
def tokenFor (token : LeaseToken) : LeaseOp → LeaseToken
  | .newToken => token
  | _ => ""

def answers (task : HaTask) (now : ℕ) (token : LeaseToken) (world : HaWorld) :
    (op : haSignature.Op) → Option (haSignature.Answer op × HaWorld)
  | .inl op =>
      (leaseAnswers task.process (now, tokenFor token op) world.lease op).map fun response =>
        (response.1, { world with lease := response.2 })
  | .inr (.inl op) =>
      let view := world.view task.process
      let answer := view.settle op ((ApplyEnv.oblige fun _ => false).oracle op now)
      if available view op answer then
        some (answer, world.setView task.process (view.after task.number op answer))
      else none
  | .inr (.inr op) => some (hostAnswer op, world)

theorem answers_conform {task : HaTask} {now : ℕ} {token : LeaseToken} {world : HaWorld}
    {op : haSignature.Op} {response : haSignature.Answer op × HaWorld}
    (answered : answers task now token world op = some response) :
    (haEnvironment standbyConfig.ttlSecs).respond task world op response.1 response.2 := by
  rcases op with op | op | op
  · rcases Option.map_eq_some_iff.mp answered with ⟨leaseResponse, leaseAnswered, rfl⟩
    exact ⟨_, leaseAnswers_conform leaseAnswered, rfl⟩
  · simp only [answers] at answered
    split at answered
    · rename_i checked
      cases answered
      exact ⟨_, ⟨faithful_settle _ _ _, available_sound checked, rfl⟩, rfl⟩
    · cases answered
  · cases answered
    rfl

/-- A VLAN for a domain with one management endpoint. -/
def vlanRequest : ApplyDomainIntentRequest where
  requestId := "req-1"
  traceId := none
  idempotencyKey := none
  intent :=
    { domainId := "domain-a"
      topology := .stackSingleManagementIp
      endpoints := [⟨"leaf-a", "192.0.2.1", 830, "secret", none, none⟩]
      members := [⟨"switch-a", none, "leaf-a"⟩]
      vlans := [⟨100, none, none⟩]
      interfaces := [] }
  options := {}

def holder : HaTask := ⟨0, 0⟩
def requester : HaTask := ⟨0, 1⟩
def successor : HaTask := ⟨1, 0⟩

/-- What the tasks do. -/
def job (task : HaTask) : HaJob :=
  if task = requester then
    .serve ⟨standbyConfig.path, "node-a", "token-a", 0, standbyConfig.ttlSecs⟩ 120
      (.applyDomainIntent vlanRequest)
  else .activate { standbyConfig with ownerId := if task.process = 0 then "node-a" else "node-b" }

/-- The first process acquires the lease and starts on the request.  A hundred seconds later the
second process takes the stale lease over, and the first one goes on. -/
def story : Option (List (Event haSignature) × List (Event haSignature) ×
    List (Event haSignature) × List (Event haSignature)) := do
  let (activation, _, world) ←
    (job holder).program.follow (answers holder 0 "token-a") 100 .initial
  let (start, left, world) ←
    (job requester).program.follow (answers requester 0 "") 20 world
  let (takeover, _, world) ←
    (job successor).program.follow (answers successor 100 "token-b") 100 world
  let (continuation, _, _) ← left.follow (answers requester 100 "") 100 world
  return (activation, start, takeover, continuation)

def acquires (token : LeaseToken) : haSignature.Op → Bool
  | .inl (.acquired acquired) => acquired = token
  | _ => false

def prepares : haSignature.Op → Bool
  | .inr (.inl (.adapter _ _ (.prepare _))) => true
  | _ => false

/-- The run of both processes. -/
def run (activation start takeover continuation : List (Event haSignature)) :
    List (HaTask × Event haSignature) :=
  activation.map (holder, ·) ++ start.map (requester, ·) ++ takeover.map (successor, ·) ++
    continuation.map (requester, ·)

theorem story_is_run {activation start takeover continuation : List (Event haSignature)}
    (isStory : story = some (activation, start, takeover, continuation)) :
    (∀ task, Calls (job task).program
        (ownEvents task (run activation start takeover continuation))) ∧
      ∃ last, AnsweredBy (haEnvironment standbyConfig.ttlSecs) HaWorld.initial
        (run activation start takeover continuation) last := by
  simp only [story, Option.bind_eq_bind, Option.bind_eq_some_iff] at isStory
  rcases isStory with ⟨⟨_, _, activated⟩, activates, ⟨_, left, started⟩, starts,
    ⟨_, _, taken⟩, takes, ⟨_, _, last⟩, continues, ⟨⟩⟩
  constructor
  · intro task
    have distinct : requester ≠ holder ∧ successor ≠ holder ∧ successor ≠ requester := by decide
    simp only [run, ownEvents_append, ownEvents_map]
    by_cases isHolder : task = holder
    · subst isHolder
      simpa [distinct] using calls_of_follow activates (.start _)
    · by_cases isRequester : task = requester
      · subst isRequester
        have goesOn := calls_of_follow starts (calls_of_follow continues (.start _))
        simpa [distinct, distinct.1.symm] using goesOn
      · by_cases isSuccessor : task = successor
        · subst isSuccessor
          simpa [distinct.2.1.symm, distinct.2.2.symm] using calls_of_follow takes (.start _)
        · simpa [Ne.symm isHolder, Ne.symm isRequester, Ne.symm isSuccessor] using Calls.start _
  · refine ⟨last, answeredBy_append.mpr ⟨taken, ?_, answeredBy_of_follow answers_conform continues⟩⟩
    refine answeredBy_append.mpr ⟨started, ?_, answeredBy_of_follow answers_conform takes⟩
    exact answeredBy_append.mpr ⟨activated, answeredBy_of_follow answers_conform activates,
      answeredBy_of_follow answers_conform starts⟩

/-- The requests of both processes follow their checks of the lease, also in this run. -/
theorem write_follows_lease_check_story :
    ∃ activation start takeover continuation,
      story = some (activation, start, takeover, continuation) ∧
        EachStep (fun earlier step => isWrite step.2.1 = true →
          (job step.1).Admitted (ownEvents step.1 earlier))
          (run activation start takeover continuation) := by
  have told : story.isSome = true := by decide +kernel
  rcases Option.isSome_iff_exists.mp told with
    ⟨⟨activation, start, takeover, continuation⟩, isStory⟩
  exact ⟨activation, start, takeover, continuation, isStory,
    (write_follows_lease_check (story_is_run isStory).1).1⟩

/-- The second process has taken the stale lease over, and yet the request that the first one was
executing goes on to prepare its change on the device. -/
theorem prepare_after_takeover :
    ∃ activation start takeover continuation last,
      (∀ task, Calls (job task).program
          (ownEvents task (run activation start takeover continuation))) ∧
        AnsweredBy (haEnvironment standbyConfig.ttlSecs) HaWorld.initial
          (run activation start takeover continuation) last ∧
        (∃ event ∈ activation, acquires "token-a" event.1 = true) ∧
        start ≠ [] ∧
        (∃ event ∈ takeover, acquires "token-b" event.1 = true) ∧
        ∃ event ∈ continuation, prepares event.1 = true := by
  have told : story.any (fun parts => parts.1.any (fun event => acquires "token-a" event.1) &&
      !parts.2.1.isEmpty && parts.2.2.1.any (fun event => acquires "token-b" event.1) &&
      parts.2.2.2.any fun event => prepares event.1) = true := by
    decide +kernel
  rcases (Option.any_eq_true _ _).mp told with
    ⟨⟨activation, start, takeover, continuation⟩, isStory, holds⟩
  simp only [Bool.and_eq_true, List.any_eq_true, Bool.not_eq_true', List.isEmpty_eq_false_iff]
    at holds
  rcases story_is_run isStory with ⟨called, last, answered⟩
  exact ⟨activation, start, takeover, continuation, last, called, answered, holds.1.1.1,
    holds.1.1.2, holds.1.2, holds.2⟩

end Deposed

end AriaUnderlay
