import AriaUnderlay.Api.ApplyAgreement
import AriaUnderlay.Api.RecoverySafety

/-!
# One process

Applies, recovery passes and force resolves run as tasks of one process that shares the journal and
the endpoint locks.  Tasks take turns at every call, answers of the adapters and failures of the
stores are arbitrary, and the process may restart at any time.  The contract of the tasks makes
every history legal, and the results of this module read off what legal histories are.
-/

namespace AriaUnderlay

open Collections Effect

/-- The programs that the tasks run. -/
inductive CoreEntry : Core Unit → Prop where
  | applyDesiredStates
      (timeout : ℕ)
      (requestId traceId : String)
      (allowDegradedAtomicity : Bool)
      (driftPolicy : DriftPolicy)
      (desiredStates : List DeviceDesiredState) :
      CoreEntry do
        let _ ← AriaUnderlay.applyDesiredStates timeout requestId traceId allowDegradedAtomicity
          driftPolicy desiredStates
  | recoverPendingTransactions :
      CoreEntry do
        let _ ← AriaUnderlay.recoverPendingTransactions.run
  | recoverTimedOutConfirmedCommits (nowUnixSecs timeoutSecs : ℕ) :
      CoreEntry do
        let _ ← (AriaUnderlay.recoverTimedOutConfirmedCommits nowUnixSecs timeoutSecs).run
  | forceResolveTransaction (request : ForceResolveTransactionRequest) :
      CoreEntry do
        let _ ← (AriaUnderlay.forceResolveTransaction request).run

theorem consistent_initial : Consistent World.initial where
  legal := fun _ => legal_nil
  journal := fun txId => by simp [World.initial, lastStored, storedRecords]
  alone := fun txId record durable => by simp [World.initial] at durable

section Sound

-- comparing two force resolves would otherwise run the checks of their requests
attribute [local irreducible] forceResolveTransaction

/-- The tasks of the process keep the contract. -/
theorem coreContract_sound : coreContract.Sound coreEnvironment CoreEntry where
  rely_refl := Undisturbed.refl
  rely_trans := fun _ _ _ _ first second => first.trans second
  guarantee_rely := fun _ _ _ _ differ step => step.undisturbed differ
  guarantee_invariant := fun _ _ _ consistent step => step.consistent consistent
  restart_invariant := fun _ consistent => consistent.restart
  entry_ensures := by
    intro program entry thread world consistent
    have ends : ∀ {α : Type} {task : Core α}, Safe thread task (fun _ _ => True) world →
        Safe thread (task >>= fun _ => pure ()) (fun _ _ => True) world :=
      fun safe => safe.bind fun _ _ _ => trivial
    cases entry with
    | applyDesiredStates => exact ends (safe_applyDesiredStates _)
    | recoverPendingTransactions => exact ends (safe_recoverPendingTransactions consistent)
    | recoverTimedOutConfirmedCommits =>
        exact ends (safe_recoverTimedOutConfirmedCommits consistent)
    | forceResolveTransaction => exact ends safe_forceResolveTransaction

end Sound

/-- The pools that the process reaches from empty stores. -/
abbrev ProcessReaches (pool : Pool coreSignature Thread World) : Prop :=
  Pool.Reachable coreEnvironment CoreEntry World.initial pool

/-! ## Runs of one transaction -/

/-- The task that applies the desired state with a new VLAN. -/
def newVlanApply : Core Unit := do
  let _ ← applyDesiredStates 120 "req-1" "trace-1" false .reportOnly [newVlan]

/-- The task that recovers what needs recovery. -/
def recoveryPass : Core Unit := do
  let _ ← recoverPendingTransactions.run

/-- The stores after a process stopped at some call of the apply. -/
def stoppedApply (env : ApplyEnv) (limit : ℕ) : World :=
  (restartAfter env.oracle limit newVlanApply World.initial).getD World.initial

/-- The stores after the restarted process has made its recovery pass. -/
def recoveredApply (env : ApplyEnv) (limit : ℕ) : World :=
  (restartAfter env.oracle 100 recoveryPass (stoppedApply env limit)).getD (stoppedApply env limit)

theorem ProcessReaches.restartAfter {oracle : Oracle} {limit : ℕ} {program : Core Unit}
    {world : World} (reaches : ProcessReaches (Pool.idle world)) (enters : CoreEntry program) :
    ProcessReaches
      (Pool.idle ((AriaUnderlay.restartAfter oracle limit program world).getD world)) := by
  cases restarts : AriaUnderlay.restartAfter oracle limit program world with
  | none => exact reaches
  | some later => exact reachable_restartAfter reaches enters restarts

theorem reaches_stoppedApply (env : ApplyEnv) (limit : ℕ) :
    ProcessReaches (Pool.idle (stoppedApply env limit)) :=
  ProcessReaches.restartAfter Relation.ReflTransGen.refl (.applyDesiredStates _ _ _ _ _ _)

theorem reaches_recoveredApply (env : ApplyEnv) (limit : ℕ) :
    ProcessReaches (Pool.idle (recoveredApply env limit)) :=
  (reaches_stoppedApply env limit).restartAfter .recoverPendingTransactions

section Process

variable {pool : Pool coreSignature Thread World}

theorem ProcessReaches.consistent (reaches : ProcessReaches pool) : Consistent pool.world :=
  coreContract_sound.invariant consistent_initial reaches

/-! ## Phases -/

/-- From one phase to another by steps of the table. -/
abbrev TxPhase.Leads : TxPhase → TxPhase → Prop :=
  Relation.ReflTransGen fun source target => source.isAllowed target = true

/-- Once a phase is final, the phases after it are the same. -/
theorem eq_of_isChain_of_isFinal {phase : TxPhase} {later : List TxPhase}
    (chain : (phase :: later).IsChain fun source target => source.isAllowed target = true)
    (final : phase.isFinal = true) :
    ∀ other ∈ later, other = phase := by
  induction later generalizing phase with
  | nil => exact fun other isOther => nomatch isOther
  | cons next rest ih =>
      obtain ⟨allowed, chainRest⟩ := List.isChain_cons_cons.mp chain
      obtain rfl : next = phase := TxPhase.eq_of_isAllowed_of_isFinal allowed final
      intro other isOther
      rcases List.mem_cons.mp isOther with rfl | isRest
      · rfl
      · exact ih chainRest final other isRest

/-- The durable phases of every transaction follow the table, a final phase is the last one, and the
journal holds the record that was stored last. -/
theorem ProcessReaches.phases_follow (reaches : ProcessReaches pool) (txId : String) :
    pool.world.journal[txId]? = lastStored (pool.world.history txId) ∧
      (durablePhases (pool.world.history txId)).IsChain TxPhase.Leads ∧
        ∀ earlier phase later, durablePhases (pool.world.history txId) = earlier ++ phase :: later →
          phase.isFinal = true → ∀ other ∈ later, other = phase := by
  have consistent := reaches.consistent
  have chain := (consistent.legal txId).isChain_durablePhases
  refine ⟨consistent.journal txId, chain.imp fun _ _ allowed => .single allowed, ?_⟩
  intro earlier phase later split final
  rw [split] at chain
  exact eq_of_isChain_of_isFinal chain.right_of_append final

/-- A process that stops while it commits and then recovers. -/
theorem phases_follow_recoveredApply :
    let world := recoveredApply (ApplyEnv.oblige fun _ => false) 24
    durablePhases (world.history "tx-1") =
        [.started, .preparing, .preparing, .prepared, .committing, .recovering, .rolledBack] ∧
      (durablePhases (world.history "tx-1")).IsChain TxPhase.Leads :=
  ⟨by decide +kernel, (ProcessReaches.phases_follow
    (reaches_recoveredApply (ApplyEnv.oblige fun _ => false) 24) "tx-1").2.1⟩

/-- No device has two unresolved transactions. -/
theorem ProcessReaches.one_unresolved (reaches : ProcessReaches pool) {left right : String}
    {leftRecord rightRecord : TxJournalRecord} {device : DeviceId}
    (leftDurable : pool.world.journal[left]? = some leftRecord)
    (rightDurable : pool.world.journal[right]? = some rightRecord)
    (leftRequires : leftRecord.phase.requiresRecovery = true)
    (rightRequires : rightRecord.phase.requiresRecovery = true)
    (isLeft : device ∈ leftRecord.devices) (isRight : device ∈ rightRecord.devices) :
    left = right :=
  reaches.consistent.alone right rightRecord rightDurable rightRequires left leftRecord device
    leftDurable leftRequires isLeft isRight

/-- A process that stops while it verifies leaves one unresolved transaction on the device. -/
theorem one_unresolved_stoppedApply :
    let world := stoppedApply (ApplyEnv.oblige fun _ => false) 25
    ∃ record, world.journal["tx-1"]? = some record ∧ record.phase = .verifying ∧
      ∀ other otherRecord, world.journal[other]? = some otherRecord →
        otherRecord.phase.requiresRecovery = true → "leaf-a" ∈ otherRecord.devices →
          "tx-1" = other := by
  intro world
  have journaled : world.journal["tx-1"]?.map (fun record => (record.phase, record.devices)) =
      some (.verifying, ["leaf-a"]) := by
    decide +kernel
  obtain ⟨record, durable, fields⟩ := Option.map_eq_some_iff.mp journaled
  obtain ⟨verifying, devices⟩ := Prod.mk.inj fields
  refine ⟨record, durable, verifying, fun other otherRecord otherDurable requires isDevice => ?_⟩
  exact ProcessReaches.one_unresolved
    (reaches_stoppedApply (ApplyEnv.oblige fun _ => false) 25) durable otherDurable
    (by rw [verifying]; rfl) requires (by rw [devices]; exact List.mem_singleton_self _) isDevice

end Process

end AriaUnderlay
