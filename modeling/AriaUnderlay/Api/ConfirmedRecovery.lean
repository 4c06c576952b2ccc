import AriaUnderlay.Api.RecoveryPass
import AriaUnderlay.Netconf.Rollback

/-!
# Recovery of a confirmation

A record that crashed while its commit was being confirmed is recovered by confirming it again, then
by verifying it, and then by asking the adapter.  This file runs that recovery against devices
behind the driver.  A device undoes a commit that waits for its confirmation when its own timer runs
out, which may happen at any time.

A verification looks the same whether the commit has been confirmed or still waits.  It is the only
way in which recovery closes a transaction that a device may still undo.
-/

namespace AriaUnderlay

open Effect

variable {Config Edit : Type}

/-! ## Devices behind their adapters -/

/-- The devices, and the calls that have been made to them. -/
structure Fleet (Config : Type) where
  devices : DeviceId → NetconfDevice Config
  calls : List (DeviceId × AdapterCall × AdapterAnswer)

/-- The timer of a device may run out. -/
def NetconfDevice.Elapses (before after : NetconfDevice Config) : Prop :=
  after = before ∨ ∃ pending, before.pending = some pending ∧
    after = { before with running := pending.remembered, pending := none }

/-- How a call ends: with the result of the driver, or with an error of the transport that does not
tell whether the driver has served the call. -/
inductive AnswersFrom (merge : Config → Edit → Config) (backend : NetconfBackend Config Edit)
    (txId : String) (call : AdapterCall)
    (device : NetconfDevice Config) : AdapterAnswer → NetconfDevice Config → Prop where
  | served {result : AdapterResult} {after : NetconfDevice Config}
      (serves : Serves merge backend txId call device result after) :
      AnswersFrom merge backend txId call device (adapterResultToOutcome result) after
  | answerLost {result : AdapterResult} {after : NetconfDevice Config}
      (message : String)
      (serves : Serves merge backend txId call device result after) :
      AnswersFrom merge backend txId call device (.error (.adapterTransport message)) after
  | requestLost (message : String) :
      AnswersFrom merge backend txId call device (.error (.adapterTransport message)) device

/-- One device answers a call, and the call is noted. -/
def Fleet.AnswersCall (merge : Config → Edit → Config) (backend : NetconfBackend Config Edit)
    (before : Fleet Config) (device : DeviceId) (txId : String) (call : AdapterCall)
    (answer : AdapterAnswer) (after : Fleet Config) : Prop :=
  ∃ left, AnswersFrom merge backend txId call (before.devices device) answer left ∧
    after =
      { devices := Function.update before.devices device left
        calls := before.calls ++ [(device, call, answer)] }

/-- The environment of recovery: the devices answer the adapter calls, the other answers are free.
The inventory keeps devices under their own names. -/
def fleetEnvironment (merge : Config → Edit → Config) (backend : NetconfBackend Config Edit) :
    Environment coreSignature Thread (Fleet Config) where
  respond := fun _ before op answer after =>
    ∃ elapsed : DeviceId → NetconfDevice Config,
      (∀ device, (before.devices device).Elapses (elapsed device)) ∧
        match op, answer with
        | .adapter device context call, answer =>
            Fleet.AnswersCall merge backend { before with devices := elapsed } device.id
              context.txId call answer after
        | .inventoryGet _ deviceId, .ok managed =>
            managed.info.id = deviceId ∧ after = { before with devices := elapsed }
        | _, _ => after = { before with devices := elapsed }
  restart := id

/-- Waiting commits are only lost, and calls are only added. -/
structure Fleet.Subsides (txId : String) (before after : Fleet Config) : Prop where
  awaits : ∀ device, (after.devices device).Awaits txId → (before.devices device).Awaits txId
  calls : before.calls ⊆ after.calls

variable {after : NetconfDevice Config} {device : DeviceInfo}

section Subsides

variable {txId : String} {first second third : Fleet Config}

theorem Fleet.Subsides.refl (fleet : Fleet Config) : fleet.Subsides txId fleet :=
  ⟨fun _ => id, List.Subset.refl _⟩

theorem Fleet.Subsides.trans (earlier : first.Subsides txId second)
    (later : second.Subsides txId third) :
    first.Subsides txId third :=
  ⟨fun device awaits => earlier.awaits device (later.awaits device awaits),
    List.Subset.trans earlier.calls later.calls⟩

theorem NetconfDevice.Elapses.awaits {before : NetconfDevice Config}
    (elapses : before.Elapses after) (awaits : after.Awaits txId) :
    before.Awaits txId := by
  rcases elapses with rfl | ⟨pending, -, rfl⟩
  · exact awaits
  · rcases awaits with ⟨_, impossible, -⟩
    cases impossible

end Subsides

/-! ## Calls -/

section Calls

variable {merge : Config → Edit → Config} {backend : NetconfBackend Config Edit}
variable {txId : String} {thread : Thread} {fleet : Fleet Config}

/-- The program only loses waiting commits, and if it ends then `post` holds. -/
abbrev Subsiding {α : Type} (merge : Config → Edit → Config) (backend : NetconfBackend Config Edit)
    (txId : String) (thread : Thread) (program : Core α) (post : α → Fleet Config → Prop)
    (fleet : Fleet Config) : Prop :=
  Ensures (fleetEnvironment merge backend) (Contract.lone Thread (Fleet.Subsides txId)) thread
    program post fleet

/-- What holds at the beginning and is not affected by waiting commits that are lost can be used in
the end. -/
theorem Subsiding.reaching {α : Type} {program : Core α} {post : α → Fleet Config → Prop}
    (subsiding : Subsiding merge backend txId thread program post fleet) :
    Subsiding merge backend txId thread program
      (fun value later => post value later ∧ fleet.Subsides txId later) fleet := by
  refine Ensures.reaching Fleet.Subsides.refl Fleet.Subsides.trans id ?_ subsiding
  rintro before after rfl
  exact .refl before

theorem subsiding_inventoryGet (site : LookupSite) (deviceId : DeviceId) :
    Subsiding merge backend txId thread (inventoryGet site deviceId)
      (fun answer _ => ∀ managed, answer = .ok managed → managed.info.id = deviceId) fleet := by
  rintro answer after ⟨elapsed, elapses, responds⟩
  cases answer with
  | error error =>
      subst responds
      refine ⟨⟨fun device => (elapses device).awaits, List.Subset.refl _⟩, ?_⟩
      rintro later rfl - managed impossible
      cases impossible
  | ok managed =>
      rcases responds with ⟨named, rfl⟩
      refine ⟨⟨fun device => (elapses device).awaits, List.Subset.refl _⟩, ?_⟩
      rintro later rfl - _ ⟨⟩
      exact named

theorem subsiding_adapterClient (site : LookupSite) (endpoint : String) :
    Subsiding merge backend txId thread (adapterClient site endpoint) (fun _ _ => True) fleet := by
  rintro answer after ⟨elapsed, elapses, rfl⟩
  exact ⟨⟨fun device => (elapses device).awaits, List.Subset.refl _⟩, fun _ _ _ => trivial⟩

/-- The calls that recovery makes for a confirmed commit. -/
inductive Confirming : AdapterCall → Prop where
  | finalConfirm : Confirming .finalConfirm
  | verify (desired : DeviceDesiredState) (changeSet : ChangeSet) :
      Confirming (.verify desired changeSet)
  | recover : Confirming (.recover (some .confirmedCommit) .adapterRecover)

/-- The answer claims that the commit is no longer waiting. -/
def reportsConfirmed (call : AdapterCall) (answer : AdapterAnswer) : Prop :=
  (∀ desired changeSet, call ≠ .verify desired changeSet) ∧
    ∃ outcome, answer = .ok outcome ∧ outcome.status = .committed

theorem ConfirmServed.awaits {device : NetconfDevice Config} {result : AdapterResult}
    (served : ConfirmServed txId device result after) (awaits : after.Awaits txId) :
    device.Awaits txId ∧ ∃ error, result = failedResult error := by
  cases served with
  | committed =>
      rcases awaits with ⟨_, impossible, -⟩
      cases impossible
  | failed left =>
      rcases left with rfl | ⟨-, rfl⟩
      · exact ⟨awaits, _, rfl⟩
      · rcases awaits with ⟨_, impossible, -⟩
        cases impossible

variable {call : AdapterCall}

/-- A device that still waits waited before, and it was not reported to be confirmed. -/
theorem awaits_of_serves {device : NetconfDevice Config} {result : AdapterResult}
    (confirming : Confirming call) (serves : Serves merge backend txId call device result after)
    (awaits : after.Awaits txId) :
    device.Awaits txId ∧ ¬ reportsConfirmed call (adapterResultToOutcome result) := by
  have failing :
      ∀ error, ¬ reportsConfirmed call (adapterResultToOutcome (failedResult error)) := by
    rintro error ⟨-, outcome, impossible, -⟩
    cases impossible
  cases confirming with
  | finalConfirm =>
      rcases ((does_finalConfirmCall txId).executes serves).awaits awaits with ⟨before, error, rfl⟩
      exact ⟨before, failing error⟩
  | recover =>
      rcases ((does_recoverConfirmedCommit txId).executes serves).awaits awaits with
        ⟨before, error, rfl⟩
      exact ⟨before, failing error⟩
  | verify desired changeSet =>
      have same := ((does_verify desired changeSet).executes serves).1
      subst same
      exact ⟨awaits, fun reports => reports.1 desired changeSet rfl⟩

theorem awaits_of_answersFrom {device : NetconfDevice Config} {answer : AdapterAnswer}
    (confirming : Confirming call)
    (answers : AnswersFrom merge backend txId call device answer after)
    (awaits : after.Awaits txId) :
    device.Awaits txId ∧ ¬ reportsConfirmed call answer := by
  have failing : ∀ message, ¬ reportsConfirmed call (.error (.adapterTransport message)) := by
    rintro message ⟨-, outcome, impossible, -⟩
    cases impossible
  cases answers with
  | served serves => exact awaits_of_serves confirming serves awaits
  | answerLost message serves =>
      exact ⟨(awaits_of_serves confirming serves awaits).1, failing message⟩
  | requestLost message => exact ⟨awaits, failing message⟩

theorem subsiding_adapterCall {context : TxContext} (sameTx : context.txId = txId)
    (confirming : Confirming call) :
    Subsiding merge backend txId thread (adapterCall device context call)
      (fun answer later => (device.id, call, answer) ∈ later.calls ∧
        (reportsConfirmed call answer → ¬ (later.devices device.id).Awaits txId)) fleet := by
  subst sameTx
  rintro answer after ⟨elapsed, elapses, left, answers, rfl⟩
  refine ⟨⟨?_, List.subset_append_left _ _⟩, ?_⟩
  · intro other awaits
    by_cases same : other = device.id
    · subst same
      simp only [Function.update_self] at awaits
      exact (elapses _).awaits (awaits_of_answersFrom confirming answers awaits).1
    · simp only [Function.update_of_ne same] at awaits
      exact (elapses other).awaits awaits
  · rintro later rfl -
    refine ⟨by simp, ?_⟩
    intro reports awaits
    simp only [Function.update_self] at awaits
    exact (awaits_of_answersFrom confirming answers awaits).2 reports

end Calls

/-! ## One device -/

/-- Recovery relied on the verification of a device: its confirmation was not reported to have
succeeded, and its verification was accepted. -/
def ClosedByVerify (record : TxJournalRecord)
    (calls : List (DeviceId × AdapterCall × AdapterAnswer)) (device : DeviceId) : Prop :=
  (∃ answer, (device, AdapterCall.finalConfirm, answer) ∈ calls ∧
    ¬ reportsConfirmed .finalConfirm answer) ∧
  ∃ desired changeSet outcome,
    desiredStateForRecord record device = some desired ∧
    changeSetForRecord record device = some changeSet ∧
    (device, AdapterCall.verify desired changeSet, .ok outcome) ∈ calls ∧
    isVerifyAccepted outcome.status = true

/-- The device no longer waits, or recovery relied on its verification. -/
def Closed (record : TxJournalRecord) (device : DeviceId) (fleet : Fleet Config) : Prop :=
  (fleet.devices device).Awaits record.txId → ClosedByVerify record fleet.calls device

section Device

variable {merge : Config → Edit → Config} {backend : NetconfBackend Config Edit}
variable {thread : Thread} {record : TxJournalRecord} {fleet later : Fleet Config}

theorem ClosedByVerify.mono {first second : List (DeviceId × AdapterCall × AdapterAnswer)}
    {device : DeviceId} (closed : ClosedByVerify record first device) (subset : first ⊆ second) :
    ClosedByVerify record second device := by
  rcases closed with
    ⟨⟨answer, confirmed, unreported⟩, desired, changeSet, outcome, wanted, planned, verified,
      accepted⟩
  exact ⟨⟨answer, subset confirmed, unreported⟩, desired, changeSet, outcome, wanted, planned,
    subset verified, accepted⟩

theorem Closed.subsides {device : DeviceId} (closed : Closed record device fleet)
    (subsides : fleet.Subsides record.txId later) :
    Closed record device later :=
  fun awaits => (closed (subsides.awaits device awaits)).mono subsides.calls

theorem subsiding_recoverWithTransportRetry (attempts : ℕ) :
    Subsiding merge backend record.txId thread
      (recoverWithTransportRetry device record.context (some .confirmedCommit) .adapterRecover
        attempts).run
      (fun result later => ∀ outcome, result = .ok outcome → outcome.status = .committed →
        ¬ (later.devices device.id).Awaits record.txId) fleet := by
  induction attempts generalizing fleet with
  | zero => exact fun _ impossible => nomatch impossible
  | succ attempts ih =>
      refine Ensures.bindResult (subsiding_adapterClient .recovery device.adapterEndpoint) ?_
        fun _ _ _ _ impossible => nomatch impossible
      intro _ reached _
      refine Ensures.bindLift (subsiding_adapterCall rfl .recover) ?_
      rintro answer later ⟨-, confirmed⟩
      cases answer with
      | ok outcome =>
          rintro _ ⟨⟩ committed
          exact confirmed ⟨nofun, outcome, rfl, committed⟩
      | error error =>
          cases error with
          | adapterTransport message =>
              dsimp only
              split
              · exact fun _ impossible => nomatch impossible
              · exact ih
          | _ => exact fun _ impossible => nomatch impossible

theorem subsiding_recoverUnproved {deviceId : DeviceId} {confirmSummary verifySummary : String}
    (named : device.id = deviceId) (confirmed : record.strategy = some .confirmedCommit) :
    Subsiding merge backend record.txId thread
      (recoverUnproved record record.context device deviceId confirmSummary verifySummary).run
      (fun result later => result = .ok .committed → Closed record deviceId later) fleet := by
  subst named
  unfold recoverUnproved
  rw [confirmed]
  refine Ensures.bindLift (subsiding_recoverWithTransportRetry recoveryTransportRetryAttempts) ?_
  rintro (error | outcome) later known
  · exact nofun
  · dsimp only
    split
    · intro same awaits
      have isCommitted : recoverPhaseFromAdapterStatus .adapterRecover outcome.status =
          .committed := Except.ok.inj same
      have committed : outcome.status = .committed := by
        cases reported : outcome.status <;> simp_all [recoverPhaseFromAdapterStatus]
      exact absurd awaits (known outcome rfl committed)
    · exact nofun

/-- What the verification says, with the call that was made. -/
theorem subsiding_verifyForRecovery :
    Subsiding merge backend record.txId thread
      (verifyForRecovery record record.context device device.id)
      (fun result later => result = none → ∃ desired changeSet outcome,
        desiredStateForRecord record device.id = some desired ∧
        changeSetForRecord record device.id = some changeSet ∧
        (device.id, AdapterCall.verify desired changeSet, .ok outcome) ∈ later.calls ∧
        isVerifyAccepted outcome.status = true) fleet := by
  unfold verifyForRecovery
  cases wanted : desiredStateForRecord record device.id with
  | none =>
      intro impossible
      cases impossible
  | some desired =>
      cases planned : changeSetForRecord record device.id with
      | none =>
          intro impossible
          cases impossible
      | some changeSet =>
          refine (subsiding_adapterCall rfl (.verify desired changeSet)).bind ?_
          rintro answer later ⟨noted, -⟩
          cases answer with
          | error error =>
              intro impossible
              cases impossible
          | ok outcome =>
              dsimp only
              split
              case isTrue accepted =>
                intro _
                exact ⟨desired, changeSet, outcome, rfl, rfl, noted,
                  by simp [isVerifyAccepted, accepted]⟩
              case isFalse =>
                intro impossible
                cases impossible

theorem subsiding_recoverFinalConfirmingDevice (deviceId : DeviceId)
    (confirmed : record.strategy = some .confirmedCommit) :
    Subsiding merge backend record.txId thread
      (recoverFinalConfirmingDevice record record.context deviceId).run
      (fun result later => result = .ok .committed → Closed record deviceId later) fleet := by
  refine Ensures.bindResult (subsiding_inventoryGet .recovery deviceId) ?_
    fun _ _ _ impossible => nomatch impossible
  intro managed known isNamed
  have named : managed.info.id = deviceId := isNamed managed rfl
  subst named
  refine Ensures.bindResult (subsiding_adapterClient .recovery _) ?_
    fun _ _ _ impossible => nomatch impossible
  intro _ reached _
  refine Ensures.bindLift (subsiding_adapterCall rfl .finalConfirm) ?_
  rintro answer asked ⟨noted, cleared⟩
  split
  case isTrue accepted =>
    intro _ awaits
    refine absurd awaits (cleared ⟨nofun, ?_⟩)
    cases answer with
    | error error => simp [Except.toOption] at accepted
    | ok outcome => exact ⟨outcome, rfl, by simpa [Except.toOption] using accepted⟩
  case isFalse rejected =>
    have unreported : ¬ reportsConfirmed .finalConfirm answer := by
      rintro ⟨-, outcome, rfl, committed⟩
      simp [Except.toOption, committed] at rejected
    refine Ensures.bindLift subsiding_verifyForRecovery.reaching ?_
    rintro verified checked ⟨accepted, subsides⟩
    cases verified with
    | none =>
        intro _ _
        exact ⟨⟨answer, subsides.calls noted, unreported⟩, accepted rfl⟩
    | some summary => exact subsiding_recoverUnproved rfl confirmed

/-! ## All devices -/

theorem subsiding_recoverDevices {progress : RecoveryProgress}
    {results : List (Except UnderlayError TxPhase)} (devices : List DeviceId)
    (confirmed : record.strategy = some .confirmedCommit) (gathers : progress.Gathers results) :
    Subsiding merge backend record.txId thread
      (recoverDevices (recoverFinalConfirmingDevice record record.context) devices progress)
      (fun final later => ∃ more, final.Gathers (results ++ more) ∧
        ((∀ result ∈ more, result = .ok .committed) →
          ∀ device ∈ devices, Closed record device later)) fleet := by
  induction devices generalizing progress results fleet with
  | nil => exact ⟨[], by simpa using gathers, fun _ _ isDevice => nomatch isDevice⟩
  | cons device rest ih =>
      refine (subsiding_recoverFinalConfirmingDevice device confirmed).bind ?_
      intro result middle closes
      refine (Subsiding.reaching (ih (gathers.add device result))).mono ?_
      rintro final last ⟨⟨more, gathersAll, closesRest⟩, subsides⟩
      refine ⟨result :: more, by simpa using gathersAll, ?_⟩
      intro committed other isOther
      rcases List.mem_cons.mp isOther with rfl | isRest
      · exact (closes (committed result List.mem_cons_self)).subsides subsides
      · exact closesRest (fun found isFound => committed found (List.mem_cons_of_mem _ isFound))
          other isRest

theorem subsiding_recoverFinalConfirmingRecord
    (confirmed : record.strategy = some .confirmedCommit) :
    Subsiding merge backend record.txId thread (recoverFinalConfirmingRecord record).run
      (fun result later => result = .ok .committed →
        ∀ device ∈ record.devices, Closed record device later) fleet := by
  unfold recoverFinalConfirmingRecord
  split
  · intro impossible
    cases impossible
  · refine Ensures.bindLift
      (subsiding_recoverDevices record.devices confirmed RecoveryProgress.gathers_nil) ?_
    rintro progress later ⟨results, gathers, closes⟩ committed
    have decided : TxPhase.committed ≠ .inDoubt := nofun
    exact closes ((gathers.conclude decided).mp committed).2

end Device

/-- A device of a transaction that recovery has closed as committed waits for its confirmation only
if recovery relied on its verification. -/
theorem awaits_only_if_verified (merge : Config → Edit → Config)
    (backend : NetconfBackend Config Edit) (record : TxJournalRecord)
    (devices : DeviceId → NetconfDevice Config) {thread : Thread} {final : Fleet Config}
    (confirmed : record.strategy = some .confirmedCommit)
    (executes : Executes (fleetEnvironment merge backend) thread
      (recoverFinalConfirmingRecord record).run { devices := devices, calls := [] }
      (.ok .committed) final) :
    ∀ device ∈ record.devices, (final.devices device).Awaits record.txId →
      ClosedByVerify record final.calls device :=
  (subsiding_recoverFinalConfirmingRecord confirmed).executes executes rfl

/-! ## A confirmation that is lost -/

/-- A confirmed commit of one device. -/
def confirmingRecord : TxJournalRecord :=
  { startedRecord with
    phase := .finalConfirming
    desiredStates := [textDesired 10]
    changeSets := [{ deviceId := "leaf-1", ops := [] }]
    strategy := some .confirmedCommit }

/-- The device on which the commit waits. -/
def waitingTextDevice : NetconfDevice String :=
  { textDevice with
    running := { config := "base;vlan 10;", authors := ["tx-1"] }
    candidate := { config := "base;vlan 10;", authors := ["tx-1"] }
    pending := some { persistId := "tx-1", remembered := textDevice.running } }

/-- The driver serves every call on a device that does what it can, but confirmations do not reach
it. -/
def serveUnconfirmed (txId : String) (call : AdapterCall)
    (device : NetconfDevice String) : AdapterAnswer × NetconfDevice String :=
  match call with
  | .finalConfirm => (.error (.adapterTransport "connection reset"), device)
  | call =>
      let served := obligedRun appendEdit (textBackend true) txId call "" device
      (adapterResultToOutcome served.1, served.2)

def unconfirmedFleet : Program.Handler coreSignature (Fleet String) := fun op fleet =>
  match op with
  | .adapter device context call =>
      let served := serveUnconfirmed context.txId call (fleet.devices device.id)
      (served.1,
        { devices := Function.update fleet.devices device.id served.2
          calls := fleet.calls ++ [(device.id, call, served.1)] })
  | op => ((Surroundings.answering fun _ => .ok { status := .noChange }).oracle op 0, fleet)

theorem answersFrom_serveUnconfirmed (txId : String) (call : AdapterCall)
    (device : NetconfDevice String) :
    AnswersFrom appendEdit (textBackend true) txId call device (serveUnconfirmed txId call device).1
      (serveUnconfirmed txId call device).2 := by
  have serves := serves_obligedRun appendEdit (textBackend true) txId call "" device
  cases call with
  | finalConfirm => exact .requestLost _
  | _ => exact .served serves

theorem unconfirmedFleet_conforms (op : CoreOp) (fleet : Fleet String) :
    (fleetEnvironment appendEdit (textBackend true)).respond 0 fleet op
      (unconfirmedFleet op fleet).1 (unconfirmedFleet op fleet).2 := by
  refine ⟨fleet.devices, fun _ => .inl rfl, ?_⟩
  cases op with
  | adapter device context call =>
      exact ⟨_, answersFrom_serveUnconfirmed context.txId call (fleet.devices device.id), rfl⟩
  | inventoryGet site deviceId => exact ⟨rfl, rfl⟩
  | _ => rfl

/-- Recovery closes the transaction while its commit waits on the device. -/
theorem exists_unconfirmed :
    ∃ final, Executes (fleetEnvironment appendEdit (textBackend true)) 0
        (recoverFinalConfirmingRecord confirmingRecord).run
        { devices := fun _ => waitingTextDevice, calls := [] } (.ok .committed) final ∧
      (final.devices "leaf-1").Awaits "tx-1" := by
  have executes := Executes.of_eval id unconfirmedFleet_conforms
    (recoverFinalConfirmingRecord confirmingRecord).run
    { devices := fun _ => waitingTextDevice, calls := [] }
  have committed : ((recoverFinalConfirmingRecord confirmingRecord).run.eval unconfirmedFleet
      { devices := fun _ => waitingTextDevice, calls := [] }).1.toOption = some .committed := by
    decide +kernel
  have waits : (((recoverFinalConfirmingRecord confirmingRecord).run.eval unconfirmedFleet
      { devices := fun _ => waitingTextDevice, calls := [] }).2.devices "leaf-1").pending.map
        PendingCommit.persistId = some "tx-1" := by
    decide +kernel
  revert executes committed waits
  generalize (recoverFinalConfirmingRecord confirmingRecord).run.eval unconfirmedFleet
    { devices := fun _ => waitingTextDevice, calls := [] } = run
  rcases run with ⟨error | phase, final⟩
  · nofun
  · intro executes committed waits
    obtain rfl : phase = .committed := Option.some.inj committed
    rcases Option.map_eq_some_iff.mp waits with ⟨pending, isPending, named⟩
    exact ⟨final, executes, pending, isPending, named⟩

theorem not_confirmed_confirmingRecord :
    ∃ final, Executes (fleetEnvironment appendEdit (textBackend true)) 0
        (recoverFinalConfirmingRecord confirmingRecord).run
        { devices := fun _ => waitingTextDevice, calls := [] } (.ok .committed) final ∧
      confirmingRecord.phase = .finalConfirming ∧
      confirmingRecord.strategy = some .confirmedCommit ∧
      ∃ device ∈ confirmingRecord.devices,
        (final.devices device).Awaits confirmingRecord.txId := by
  rcases exists_unconfirmed with ⟨final, executes, waits⟩
  exact ⟨final, executes, rfl, rfl, "leaf-1", List.mem_cons_self, waits⟩

theorem verified_confirmingRecord :
    ∃ final, Executes (fleetEnvironment appendEdit (textBackend true)) 0
        (recoverFinalConfirmingRecord confirmingRecord).run
        { devices := fun _ => waitingTextDevice, calls := [] } (.ok .committed) final ∧
      ClosedByVerify confirmingRecord final.calls "leaf-1" := by
  rcases exists_unconfirmed with ⟨final, executes, waits⟩
  exact ⟨final, executes, awaits_only_if_verified appendEdit (textBackend true) confirmingRecord
    (fun _ => waitingTextDevice) rfl executes "leaf-1" List.mem_cons_self waits⟩

end AriaUnderlay
