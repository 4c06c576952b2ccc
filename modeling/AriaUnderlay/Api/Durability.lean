import AriaUnderlay.Api.Process
import AriaUnderlay.Netconf.Rollback

/-!
# What a durable phase stands for

A process may stop between any two calls.  These results say what can be concluded about a
transaction from a phase that its journal holds, or held once: that a `Committed` change was
verified, that its shadow is stored, and that a rollback is not taken back.

Where a result depends on the answers to recovery requests, these are answers that a driver of a
NETCONF device gives.
-/

namespace AriaUnderlay

open Collections Effect

/-! ## Answers of drivers -/

/-- A driver of some device could have given the answer. -/
def DriverAnswers (txId : String) (call : AdapterCall) (answer : AdapterAnswer) : Prop :=
  ∃ (Config Edit : Type) (merge : Config → Edit → Config) (backend : NetconfBackend Config Edit),
    NetconfAnswers merge backend txId call answer

/-- Drivers could have given the answers to all recovery requests. -/
def RecoveryAnswered (txId : String) (events : List TxEvent) : Prop :=
  ∀ device strategy action answer, .called device (.recover strategy action) answer ∈ events →
    DriverAnswers txId (.recover strategy action) answer

/-- Drivers could have given the answers to all calls. -/
def DriverAnswered (txId : String) (events : List TxEvent) : Prop :=
  ∀ device call answer, .called device call answer ∈ events → DriverAnswers txId call answer

theorem DriverAnswered.recoveryAnswered {txId : String} {events : List TxEvent}
    (answered : DriverAnswered txId events) :
    RecoveryAnswered txId events :=
  fun device _ _ answer made => answered device _ answer made

/-- Only a confirmed commit is recovered as committed. -/
theorem DriverAnswers.confirmedCommit {txId : String} {strategy : Option TransactionStrategy}
    {outcome : AdapterOutcome}
    (answers : DriverAnswers txId (.recover strategy .adapterRecover) (.ok outcome))
    (committed : outcome.status = .committed) :
    strategy = some .confirmedCommit := by
  obtain ⟨Config, Edit, merge, backend, answers⟩ := answers
  generalize isOutcome : (.ok outcome : AdapterAnswer) = answer at answers
  cases answers with
  | transport message => cases isOutcome
  | @served device after result executes =>
      have served := (does_recover txId strategy .adapterRecover).executes executes
      cases served with
      | confirm _ confirmed _ => exact confirmed
      | refused _ => cases isOutcome
      | rollback _ rollback =>
          cases rollback with
          | failed _ => cases isOutcome
          | rolledBack _ =>
              cases isOutcome
              cases committed

theorem RecoveryAnswered.recoversConfirmed {txId : String} {events : List TxEvent}
    (answered : RecoveryAnswered txId events) :
    RecoversConfirmed events := by
  intro device strategy outcome made committed
  exact (answered device strategy _ _ made).confirmedCommit committed

/-! ## A device behind its driver -/

/-- The text device after a confirmed commit of VLAN 100. -/
def confirmableTextDevice : NetconfDevice String :=
  (obligedRun appendEdit (textBackend true) "tx-1" (.commit .confirmedCommit 120 none) ""
    preparedTextDevice).2

/-- An environment in which a driver answers, each call in the state that an apply brings the device
to. -/
def driven (accepts : Bool) : ApplyEnv :=
  { ApplyEnv.oblige fun _ => false with
    adapter := fun call =>
      let device := match call with
        | .prepare _ => textDevice
        | .commit _ _ _ => preparedTextDevice
        | _ => confirmableTextDevice
      adapterResultToOutcome
        (obligedRun appendEdit (textBackend accepts) "tx-1" call "" device).1 }

/-- The same driver, which rejects the change, and a device that has no confirmed commit. -/
def drivenCandidate : ApplyEnv :=
  { driven false with
    inventory := fun _ => .ok
      { info := { id := "leaf-a", adapterEndpoint := "http://adapter", lifecycleState := .ready }
        capability := some { recommendedStrategy := .candidateCommit } } }

/-- The calls were answered as the environment answers them. -/
def TxEvent.answeredBy (env : ApplyEnv) : TxEvent → Bool
  | .called _ call answer => answer = env.adapter call
  | _ => true

theorem driverAnswered_of_driven (accepts : Bool) {events : List TxEvent}
    (answered : events.all (TxEvent.answeredBy (driven accepts)) = true) :
    DriverAnswered "tx-1" events := by
  intro device call answer made
  have isAnswer : answer = (driven accepts).adapter call :=
    of_decide_eq_true (List.all_eq_true.mp answered _ made)
  rw [isAnswer]
  exact ⟨String, String, appendEdit, textBackend accepts, .served (serves_obligedRun _ _ _ _ _ _)⟩

/-- The phase of the record that a history ends with. -/
theorem exists_stored_of_getLast? {events : List TxEvent} {phase : TxPhase}
    (ends : events.getLast?.map (fun event => event.record?.map TxJournalRecord.phase) =
      some (some phase)) :
    ∃ record, events = events.dropLast ++ [.stored record] ∧ record.phase = phase := by
  obtain ⟨event, last, hasPhase⟩ := Option.map_eq_some_iff.mp ends
  cases event with
  | stored record =>
      exact ⟨record, (List.dropLast_append_getLast? _ last).symm, Option.some_inj.mp hasPhase⟩
  | called device call answer => cases hasPhase
  | shadowStored state => cases hasPhase

/-! ## Reading off runs -/

section Ends

variable {txId : String} {events : List TxEvent}

/-- The history ends with a record in the given phase. -/
def EndsIn (phase : TxPhase) (events : List TxEvent) : Prop :=
  events.getLast?.map (fun event => event.record?.map TxJournalRecord.phase) = some (some phase)

instance (phase : TxPhase) : Decidable (EndsIn phase events) :=
  inferInstanceAs (Decidable (_ = _))

/-- The event is a verification. -/
def TxEvent.isVerify : TxEvent → Bool
  | .called _ (.verify _ _) _ => true
  | _ => false

/-- The event stores a shadow. -/
def TxEvent.isShadow : TxEvent → Bool
  | .shadowStored _ => true
  | _ => false

/-- There is nothing to spare where nothing was being rolled back. -/
theorem SparesRollback.of_not_mem (unrolled : .rollingBack ∉ durablePhases events) :
    SparesRollback events := by
  rintro before record later rfl rolled
  have stillDurable : .rollingBack ∈ durablePhases (before ++ .stored record :: later) := by
    rw [durablePhases, storedRecords, List.filterMap_append, List.map_append]
    exact List.mem_append_left _ rolled
  exact absurd stillDurable unrolled

/-- Only confirmed commits are spared. -/
theorem SparesRollback.of_unconfirmed
    (unconfirmed : ∀ record ∈ storedRecords events, record.strategy ≠ some .confirmedCommit) :
    SparesRollback events := by
  rintro before record later rfl - -
  exact unconfirmed record (by simp [storedRecords])

theorem EndsIn.exists_record {phase : TxPhase} (ends : EndsIn phase events) :
    ∃ record, events = events.dropLast ++ [.stored record] ∧ record.phase = phase :=
  exists_stored_of_getLast? ends

theorem EndsIn.not_rollbackIrrevocable (ends : EndsIn .committed events)
    (rolled : .rollingBack ∈ durablePhases events.dropLast) :
    ¬RollbackIrrevocable events := by
  intro irrevocable
  obtain ⟨record, split, committed⟩ := ends.exists_record
  exact irrevocable _ _ _ split rolled committed

theorem EndsIn.not_shadowsFirst (ends : EndsIn .committed events) (legal : Legal txId events)
    (unshadowed : events.any TxEvent.isShadow = false) :
    ¬ShadowsFirst events := by
  intro shadowsFirst
  obtain ⟨record, split, committed⟩ := ends.exists_record
  have last : lastStored events = some record := by
    rw [split]
    simp
  obtain ⟨device, rest, isCons⟩ := List.exists_cons_of_ne_nil (legal.lastStored last).nonempty
  obtain ⟨changeSet, -, -, base, desired, stored⟩ :=
    shadowsFirst _ record [] split committed device (by rw [isCons]; exact List.mem_cons_self)
  exact List.any_eq_false.mp unshadowed _ (List.mem_of_mem_dropLast stored) rfl

end Ends

/-! ## Results -/

section Results

-- the runs are evaluated by the kernel only, never while two histories are compared
attribute [local irreducible] stoppedApply recoveredApply

variable {pool : Pool coreSignature Thread World} {txId : String}

/-- A rollback is not taken back in runs in which recovery leaves confirmed commits alone that were
being rolled back. -/
theorem ProcessReaches.rollback_irrevocable (reaches : ProcessReaches pool)
    (answered : RecoveryAnswered txId (pool.world.history txId))
    (spares : SparesRollback (pool.world.history txId)) :
    RollbackIrrevocable (pool.world.history txId) :=
  (reaches.consistent.legal txId).rollbackIrrevocable spares answered.recoversConfirmed

/-- A process stops after it decided to roll a candidate commit back, and recovery takes the
transaction up. -/
theorem rollbackIrrevocable_recoveredApply :
    [.rollingBack, .recovering] ⊆
        durablePhases ((recoveredApply drivenCandidate 28).history "tx-1") ∧
      RollbackIrrevocable ((recoveredApply drivenCandidate 28).history "tx-1") :=
  ⟨by decide +kernel,
    ProcessReaches.rollback_irrevocable (reaches_recoveredApply drivenCandidate 28)
      (driverAnswered_of_driven false (by decide +kernel)).recoveryAnswered
      (.of_unconfirmed (by decide +kernel))⟩

/-- A process stops after it decided to roll a rejected change back.  Recovery then confirms the
commit on the device and closes the transaction as `Committed`. -/
theorem not_rollbackIrrevocable_recoveredApply :
    ProcessReaches (Pool.idle (recoveredApply (driven false) 28)) ∧
      DriverAnswered "tx-1" ((recoveredApply (driven false) 28).history "tx-1") ∧
      ¬RollbackIrrevocable ((recoveredApply (driven false) 28).history "tx-1") := by
  have ends : EndsIn .committed ((recoveredApply (driven false) 28).history "tx-1") := by
    decide +kernel
  exact ⟨reaches_recoveredApply (driven false) 28,
    driverAnswered_of_driven false (by decide +kernel),
    ends.not_rollbackIrrevocable (by decide +kernel)⟩

/-- Where recovery leaves confirmed commits alone that were being rolled back, a `Committed` change
was never being rolled back, and it was verified after its commit.  The exception is a confirmed
commit that was never about to be confirmed and that recovery confirmed on every device. -/
theorem ProcessReaches.committed_verified {before later : List TxEvent} {record : TxJournalRecord}
    (reaches : ProcessReaches pool) (answered : RecoveryAnswered txId (pool.world.history txId))
    (spares : SparesRollback (pool.world.history txId))
    (split : pool.world.history txId = before ++ .stored record :: later)
    (committed : record.phase = .committed) :
    .rollingBack ∉ durablePhases before ∧
      (verifiedAfterCommit record.changeSets before = true ∨
        .finalConfirming ∉ durablePhases before ∧
          (lastStored before).map TxJournalRecord.phase = some .recovering ∧
            ∀ device ∈ record.devices, ∃ outcome,
              .called device (.recover (some .confirmedCommit) .adapterRecover) (.ok outcome) ∈
                  sinceStored before ∧
                outcome.status = .committed) := by
  have legal := reaches.consistent.legal txId
  have irrevocable := legal.rollbackIrrevocable spares answered.recoversConfirmed
  refine ⟨fun rolled => irrevocable _ _ _ split rolled committed, ?_⟩
  rw [split] at legal answered
  obtain ⟨previous, last, evidence⟩ := legal.commitEvidence committed
  have next := legal.next
  simp only [LegalNext, last] at next
  by_cases confirming : .finalConfirming ∈ durablePhases before
  · left
    rw [next.changeSets_eq]
    exact legal.of_append.verified_of_confirming confirming last
  · rcases evidence with ⟨isConfirming, verified⟩ | ⟨recovering, heard⟩
    · exact Or.inl verified
    · refine Or.inr ⟨confirming, by rw [last, Option.map_some, recovering], ?_⟩
      intro device isDevice
      obtain ⟨outcome, made, isCommitted⟩ :=
        legal.of_append.recover_of_reported last recovering confirming (heard device isDevice).1
      have inHistory : .called device (.recover previous.strategy .adapterRecover) (.ok outcome) ∈
          before ++ .stored record :: later :=
        List.mem_append_left _ ((List.rtakeWhile_suffix _ _).subset made)
      have confirmed := (answered device _ _ _ inHistory).confirmedCommit isCommitted
      rw [confirmed] at made
      exact ⟨outcome, made, isCommitted⟩

/-- A process stops after its commit reached the device, and recovery confirms the commit. -/
theorem committed_verified_recoveredApply :
    ∃ before record, (recoveredApply (driven true) 24).history "tx-1" = before ++ [.stored record] ∧
      record.phase = .committed ∧ .rollingBack ∉ durablePhases before ∧
      (verifiedAfterCommit record.changeSets before = true ∨
        .finalConfirming ∉ durablePhases before ∧
          (lastStored before).map TxJournalRecord.phase = some .recovering ∧
            ∀ device ∈ record.devices, ∃ outcome,
              .called device (.recover (some .confirmedCommit) .adapterRecover) (.ok outcome) ∈
                  sinceStored before ∧
                outcome.status = .committed) := by
  have ends : EndsIn .committed ((recoveredApply (driven true) 24).history "tx-1") := by
    decide +kernel
  obtain ⟨record, split, committed⟩ := ends.exists_record
  exact ⟨_, record, split, committed,
    ProcessReaches.committed_verified (reaches_recoveredApply (driven true) 24)
      (driverAnswered_of_driven true (by decide +kernel)).recoveryAnswered
      (.of_not_mem (by decide +kernel)) split committed⟩

/-- A process stops after its commit reached the device.  Recovery confirms the commit and closes
the transaction, and nobody has verified anything. -/
theorem not_verified_recoveredApply :
    ProcessReaches (Pool.idle (recoveredApply (driven true) 24)) ∧
      DriverAnswered "tx-1" ((recoveredApply (driven true) 24).history "tx-1") ∧
      EndsIn .committed ((recoveredApply (driven true) 24).history "tx-1") ∧
      ((recoveredApply (driven true) 24).history "tx-1").any TxEvent.isVerify = false :=
  ⟨reaches_recoveredApply (driven true) 24, driverAnswered_of_driven true (by decide +kernel),
    by decide +kernel, by decide +kernel⟩

/-- The shadow of a `Committed` change is stored first exactly where recovery writes the record. -/
theorem ProcessReaches.shadows_first_iff (reaches : ProcessReaches pool) :
    ShadowsFirst (pool.world.history txId) ↔ ClosedByRecovery (pool.world.history txId) :=
  (reaches.consistent.legal txId).shadowsFirst_iff

theorem shadowsFirst_iff_recoveredApply :
    ShadowsFirst ((recoveredApply (driven true) 24).history "tx-1") ↔
      ClosedByRecovery ((recoveredApply (driven true) 24).history "tx-1") :=
  ProcessReaches.shadows_first_iff (reaches_recoveredApply (driven true) 24)

/-- A process stops after its apply wrote `Committed` and before it stored the shadow.  Recovery has
nothing left to do for the transaction. -/
theorem not_shadowsFirst_stoppedApply :
    ProcessReaches (Pool.idle (stoppedApply (driven true) 32)) ∧
      recoverableRecords (stoppedApply (driven true) 32).journal = [] ∧
      ¬ShadowsFirst ((stoppedApply (driven true) 32).history "tx-1") := by
  have ends : EndsIn .committed ((stoppedApply (driven true) 32).history "tx-1") := by
    decide +kernel
  have reaches := reaches_stoppedApply (driven true) 32
  exact ⟨reaches, by decide +kernel,
    ends.not_shadowsFirst (reaches.consistent.legal "tx-1") (by decide +kernel)⟩

end Results

end AriaUnderlay
