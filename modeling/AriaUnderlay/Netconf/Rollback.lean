import AriaUnderlay.Netconf.Leftovers

/-!
# Rolling a transaction back on a device

The core stops with a transaction after its preparation, its commit or its verification and then
asks for a rollback, or for a recovery after a restart.  This file compares what the driver reports
with what is on the device.

A rollback is chosen by the strategy of the transaction and not by how far it got.  Discarding
undoes no commit that took effect, and cancelling a commit leaves the candidate as it is and is
refused while nothing has been committed.
-/

namespace AriaUnderlay

open Effect

variable {Config Edit : Type}

/-- A run of the driver for one call of the core. -/
abbrev Serves (merge : Config → Edit → Config) (backend : NetconfBackend Config Edit)
    (txId : String) (call : AdapterCall) (device : NetconfDevice Config) (result : AdapterResult)
    (after : NetconfDevice Config) : Prop :=
  Executes (netconfEnvironment merge) () (NetconfDriver.serve backend txId call) device result after

/-- The calls by which the core gives a transaction up. -/
inductive AdapterCall.Retreats (strategy : Option TransactionStrategy) : AdapterCall → Prop where
  | rollback : Retreats strategy (.rollback strategy)
  | recover (action : RecoveryAction) : Retreats strategy (.recover strategy action)

section Stopped

variable (merge : Config → Edit → Config) (backend : NetconfBackend Config Edit)
variable (txId : String) (strategy : TransactionStrategy) (before : NetconfDevice Config)

/-- The devices that the core can leave when it stops with a transaction.  A commit follows a
preparation that succeeded, and every step may itself end in any way.  An attempt to give the
transaction up that did not succeed may be repeated. -/
inductive Stopped : NetconfDevice Config → Prop where
  | idle : Stopped before
  | prepared {desired : DeviceDesiredState} {result : AdapterResult} {after : NetconfDevice Config}
      (prepares : Serves merge backend txId (.prepare desired) before result after) :
      Stopped after
  | committed {desired : DeviceDesiredState} {prepared result : AdapterResult}
      {confirmTimeoutSecs : ℕ} {checksum : Option String} {middle after : NetconfDevice Config}
      (prepares : Serves merge backend txId (.prepare desired) before prepared middle)
      (succeeded : prepared.status = .prepared)
      (commits : Serves merge backend txId (.commit strategy confirmTimeoutSecs checksum) middle
        result after) :
      Stopped after
  | verified {desired : DeviceDesiredState} {changeSet : ChangeSet} {result : AdapterResult}
      {device after : NetconfDevice Config}
      (stopped : Stopped device)
      (verifies : Serves merge backend txId (.verify desired changeSet) device result after) :
      Stopped after
  | retreated {call : AdapterCall} {result : AdapterResult} {device after : NetconfDevice Config}
      (stopped : Stopped device)
      (retreats : call.Retreats (some strategy))
      (serves : Serves merge backend txId call device result after)
      (unsuccessful : result.status ≠ .rolledBack) :
      Stopped after

end Stopped

/-- Nothing of the transaction is left: running is what it was, and the candidate has none of the
transaction's edits. -/
def Restored (txId : String) (before after : NetconfDevice Config) : Prop :=
  after.running.config = before.running.config ∧ txId ∉ after.candidate.authors

section Invariant

variable {merge : Config → Edit → Config} {backend : NetconfBackend Config Edit}
variable {txId : String} {strategy : TransactionStrategy}
  {before device after : NetconfDevice Config}

/-- What holds of every device on which the core has stopped with a transaction. -/
structure Traces (txId : String) (strategy : TransactionStrategy)
    (before device : NetconfDevice Config) : Prop where
  /-- Running has not changed, or one can see whose edits changed it. -/
  running : device.running = before.running ∨ txId ∈ device.running.authors
  /-- A confirmed commit that can still be cancelled leads back and left its edits behind. -/
  pending : ∀ pending, device.pending = some pending → pending.persistId = txId →
    pending.remembered = before.running ∧ txId ∈ device.candidate.authors ∧
      strategy = .confirmedCommit

theorem Traces.idle (fresh : ¬before.Awaits txId) : Traces txId strategy before before where
  running := Or.inl rfl
  pending := fun pending isPending own => (fresh ⟨pending, isPending, own⟩).elim

/-- Changes of the candidate only, while nothing of the transaction waits for its confirmation. -/
theorem Traces.of_candidate (fresh : ¬before.Awaits txId)
    (sameRunning : after.running = before.running) (samePending : after.pending = before.pending) :
    Traces txId strategy before after where
  running := Or.inl sameRunning
  pending := fun pending isPending own =>
    (fresh ⟨pending, samePending ▸ isPending, own⟩).elim

theorem PreparationLeft.traces {desired : DeviceDesiredState} (fresh : ¬before.Awaits txId)
    (left : PreparationLeft merge backend txId desired before after) :
    Traces txId strategy before after := by
  rcases left with (rfl | ⟨edit, -, rfl⟩) | rfl
  · exact .idle fresh
  · exact .of_candidate fresh rfl rfl
  · exact .of_candidate fresh rfl rfl

variable {result : AdapterResult}

theorem PrepareServed.traces {desired : DeviceDesiredState} (fresh : ¬before.Awaits txId)
    (served : PrepareServed merge backend txId desired before result after) :
    Traces txId strategy before after := by
  cases served with
  | prepared rendered => exact .of_candidate fresh rfl rfl
  | failed left => exact left.traces fresh

/-- A commit that takes effect moves the edits of the transaction to running. -/
theorem Traces.of_committed {edit : Edit} (nonePending : before.pending = none) :
    Traces txId strategy before
      ((before.edited merge txId edit).committed (some strategy) txId) := by
  have own : txId ∈ (before.edited merge txId edit).candidate.authors := by
    simp [NetconfDevice.edited, NetconfDevice.effect]
  unfold NetconfDevice.committed
  by_cases confirmed : some strategy = some .confirmedCommit
  · rw [if_pos confirmed]
    refine ⟨Or.inr own, fun pending isPending _ => ?_⟩
    cases isPending
    exact ⟨rfl, own, Option.some.inj confirmed⟩
  · rw [if_neg confirmed]
    refine ⟨Or.inr own, fun pending isPending _ => ?_⟩
    rw [show (before.edited merge txId edit).pending = none from nonePending] at isPending
    cases isPending

theorem CommitServed.traces {edit : Edit} {checksum : Option String} (fresh : ¬before.Awaits txId)
    (served : CommitServed backend txId (some strategy) checksum (before.edited merge txId edit)
      result after) :
    Traces txId strategy before after := by
  cases served with
  | committed commits nonePending checked => exact .of_committed nonePending
  | skipped rollbackOnError => exact .of_candidate fresh rfl rfl
  | failed left =>
      rcases left with rfl | rfl | ⟨nonePending, rfl⟩
      · exact .of_candidate fresh rfl rfl
      · exact .of_candidate fresh rfl rfl
      · exact .of_committed nonePending

/-- Confirming leaves nothing to cancel. -/
theorem Traces.confirmed (traces : Traces txId strategy before device) :
    Traces txId strategy before device.confirmed where
  running := traces.running
  pending := fun _ isPending => nomatch isPending

theorem RollbackTarget.traces (traces : Traces txId strategy before device)
    (target : RollbackTarget merge txId device (some strategy) after) :
    Traces txId strategy before after := by
  generalize asked : some strategy = request at target
  cases target with
  | cancel awaits =>
      rcases awaits with ⟨pending, isPending, own⟩
      refine ⟨Or.inl ?_, fun _ isNone => nomatch isNone⟩
      simp only [NetconfDevice.cancelled, NetconfDevice.effect, isPending, Option.map_some,
        Option.getD_some]
      exact (traces.pending pending isPending own).1
  | discard =>
      refine ⟨traces.running, fun pending isPending own => ?_⟩
      have confirmed : strategy = .confirmedCommit := (traces.pending pending isPending own).2.2
      rw [confirmed] at asked
      cases asked

theorem RollbackServed.traces (traces : Traces txId strategy before device)
    (served : RollbackServed merge txId (some strategy) device result after) :
    Traces txId strategy before after := by
  cases served with
  | rolledBack target => exact target.traces traces
  | failed left =>
      rcases left with rfl | target
      · exact traces
      · exact target.traces traces

theorem ConfirmServed.traces (traces : Traces txId strategy before device)
    (served : ConfirmServed txId device result after) :
    Traces txId strategy before after := by
  cases served with
  | committed awaits => exact traces.confirmed
  | failed left =>
      rcases left with rfl | ⟨-, rfl⟩
      · exact traces
      · exact traces.confirmed

theorem RecoverServed.traces {action : RecoveryAction} (traces : Traces txId strategy before device)
    (served : RecoverServed merge txId (some strategy) action device result after) :
    Traces txId strategy before after := by
  cases served with
  | rollback retreats served => exact served.traces traces
  | confirm recovers confirmed served => exact served.traces traces
  | refused unclear => exact traces

/-- What the device can look like when the core stops. -/
theorem Stopped.traces (fresh : ¬before.Awaits txId)
    (stopped : Stopped merge backend txId strategy before device) :
    Traces txId strategy before device := by
  induction stopped with
  | idle => exact .idle fresh
  | prepared prepares => exact ((does_prepare txId _).executes prepares).traces fresh
  | committed prepares succeeded commits =>
      have served := (does_prepare txId _).executes prepares
      cases served with
      | prepared rendered => exact ((does_commit txId _ _ _).executes commits).traces fresh
      | failed left => cases succeeded
  | verified _ verifies ih =>
      rw [((does_verify _ _).executes verifies).1]
      exact ih
  | retreated _ retreats serves _ ih =>
      cases retreats with
      | rollback => exact ((does_rollback txId _).executes serves).traces ih
      | recover action => exact ((does_recover txId _ action).executes serves).traces ih

/-- A call that gives a transaction up and reports it rolled back has reached its target. -/
theorem Serves.rollbackTarget {call : AdapterCall} {request : Option TransactionStrategy}
    (retreats : call.Retreats request) (serves : Serves merge backend txId call device result after)
    (rolledBack : result.status = .rolledBack) :
    RollbackTarget merge txId device request after := by
  have reached : ∀ {result : AdapterResult}, result.status = .rolledBack →
      RollbackServed merge txId request device result after →
      RollbackTarget merge txId device request after := by
    intro result isRolledBack served
    cases served with
    | rolledBack target => exact target
    | failed left => cases isRolledBack
  cases retreats with
  | rollback => exact reached rolledBack ((does_rollback txId _).executes serves)
  | recover action =>
      have served := (does_recover txId _ action).executes serves
      cases served with
      | rollback _ served => exact reached rolledBack served
      | confirm _ _ served => cases served <;> cases rolledBack
      | refused unclear =>
          change _ = AdapterOperationStatus.rolledBack at rolledBack
          rcases unclear with isInDoubt | isFailed
          · rw [isInDoubt] at rolledBack
            cases rolledBack
          · rw [isFailed] at rolledBack
            cases rolledBack

/-- A reported rollback is one exactly if the transaction commits its candidate without a
confirmation and no commit of it has taken effect. -/
theorem restored_iff {call : AdapterCall} {result : AdapterResult} (fresh : ¬before.Awaits txId)
    (stopped : Stopped merge backend txId strategy before device)
    (retreats : call.Retreats (some strategy))
    (serves : Serves merge backend txId call device result after)
    (rolledBack : result.status = .rolledBack) :
    Restored txId before after ↔
      strategy = .candidateCommit ∧ txId ∉ device.running.authors := by
  have traces := stopped.traces fresh
  have target := Serves.rollbackTarget retreats serves rolledBack
  generalize asked : some strategy = request at target
  cases target with
  | cancel awaits =>
      -- the candidate keeps the edits that the cancelled commit was made of
      rcases awaits with ⟨pending, isPending, own⟩
      rcases traces.pending pending isPending own with ⟨-, left, confirmed⟩
      constructor
      · rintro ⟨-, clean⟩
        exact (clean left).elim
      · rintro ⟨candidate, -⟩
        rw [confirmed] at candidate
        cases candidate
  | discard =>
      constructor
      · rintro ⟨-, clean⟩
        exact ⟨Option.some.inj asked, clean⟩
      · rintro ⟨-, clean⟩
        rcases traces.running with same | own
        · exact ⟨congrArg Datastore.config same, clean⟩
        · exact (clean own).elim

end Invariant

/-! ## Runs on a device that does what it can -/

/-- The run of a call on a device that does what it can. -/
def obligedRun (merge : Config → Edit → Config) (backend : NetconfBackend Config Edit)
    (txId : String) (call : AdapterCall) (refusal : String)
    (device : NetconfDevice Config) : AdapterResult × NetconfDevice Config :=
  (NetconfDriver.serve backend txId call).eval (obliging merge refusal) device

theorem serves_obligedRun (merge : Config → Edit → Config) (backend : NetconfBackend Config Edit)
    (txId : String) (call : AdapterCall) (refusal : String) (device : NetconfDevice Config) :
    Serves merge backend txId call device
      (obligedRun merge backend txId call refusal device).1
      (obligedRun merge backend txId call refusal device).2 :=
  Executes.of_eval id (fun op state => obliging_conforms refusal op state) _ device

/-- The text device after a preparation for VLAN 100. -/
def preparedTextDevice : NetconfDevice String :=
  (obligedRun appendEdit (textBackend true) "tx-1" (.prepare (textDesired 100)) "" textDevice).2

theorem textDevice_fresh (txId : String) : ¬textDevice.Awaits txId := by
  rintro ⟨pending, isPending, -⟩
  cases isPending

/-- Given up between its preparation and its commit, a candidate commit leaves nothing behind. -/
theorem restored_iff_prepared :
    Restored "tx-1" textDevice
        (obligedRun appendEdit (textBackend true) "tx-1" (.rollback (some .candidateCommit)) ""
          preparedTextDevice).2 ↔
      TransactionStrategy.candidateCommit = .candidateCommit ∧
        "tx-1" ∉ preparedTextDevice.running.authors :=
  restored_iff (textDevice_fresh "tx-1")
    (.prepared (serves_obligedRun appendEdit (textBackend true) "tx-1" _ "" textDevice)) .rollback
    (serves_obligedRun appendEdit (textBackend true) "tx-1" _ "" preparedTextDevice)
    (by decide +kernel)

/-- The text device after a candidate commit of VLAN 100. -/
def committedTextDevice : NetconfDevice String :=
  (obligedRun appendEdit (textBackend false) "tx-1" (.commit .candidateCommit 120 none) ""
    preparedTextDevice).2

/-- A verification that fails after a candidate commit is answered by discarding the candidate.
This is reported as a rollback while the commit stays in running. -/
theorem not_restored_candidateCommit :
    ∃ device result after,
      Stopped appendEdit (textBackend false) "tx-1" .candidateCommit textDevice device ∧
      Serves appendEdit (textBackend false) "tx-1" (.rollback (some .candidateCommit)) device
        result after ∧
      result.status = .rolledBack ∧ after.running.config = "base;vlan 100;" ∧
      ¬Restored "tx-1" textDevice after := by
  have prepares : Serves appendEdit (textBackend false) "tx-1" (.prepare (textDesired 100))
      textDevice _ preparedTextDevice :=
    serves_obligedRun appendEdit (textBackend false) "tx-1" _ "" textDevice
  have commits : Serves appendEdit (textBackend false) "tx-1" (.commit .candidateCommit 120 none)
      preparedTextDevice _ committedTextDevice :=
    serves_obligedRun appendEdit (textBackend false) "tx-1" _ "" preparedTextDevice
  have verifies := serves_obligedRun appendEdit (textBackend false) "tx-1"
    (.verify (textDesired 100) { deviceId := "leaf-1", ops := [] }) "" committedTextDevice
  refine ⟨_, _, _, .verified (.committed prepares (by decide +kernel) commits) verifies,
    serves_obligedRun appendEdit (textBackend false) "tx-1" _ "" _, by decide +kernel,
    by decide +kernel, ?_⟩
  rintro ⟨sameRunning, -⟩
  revert sameRunning
  decide +kernel

/-! ## Aborting after the preparation -/

/-- The transaction can be given up: if every operation succeeds that the device does not forbid,
then both requests that the core may send for a prepared transaction report a rollback and leave a
candidate without edits. -/
def Abortable (merge : Config → Edit → Config) (backend : NetconfBackend Config Edit)
    (txId : String) (strategy : Option TransactionStrategy)
    (device : NetconfDevice Config) : Prop :=
  ∀ refusal, ∀ call ∈
      [.rollback strategy, AdapterCall.recover strategy (recoveryActionForPhase .prepared)],
    adapterResultToOutcome (obligedRun merge backend txId call refusal device).1 =
        .ok { status := .rolledBack } ∧
      (obligedRun merge backend txId call refusal device).2.candidate =
        (obligedRun merge backend txId call refusal device).2.running

section Abort

variable {merge : Config → Edit → Config} {backend : NetconfBackend Config Edit}
variable {txId : String} {strategy : Option TransactionStrategy}
variable {before device : NetconfDevice Config}

theorem abortable_candidateCommit :
    Abortable merge backend txId (some .candidateCommit) device := by
  intro refusal call isCall
  simp only [List.mem_cons, List.not_mem_nil, or_false] at isCall
  rcases isCall with rfl | rfl
  · exact ⟨rfl, rfl⟩
  · exact ⟨rfl, rfl⟩

/-- A rollback that may be reported needs a candidate commit, or a confirmed commit to cancel. -/
theorem Abortable.candidateCommit (nothingToCancel : ¬device.Awaits txId)
    (abortable : Abortable merge backend txId strategy device) :
    strategy = some .candidateCommit := by
  rcases abortable "" (.rollback strategy) (by simp) with ⟨reported, -⟩
  have serves := serves_obligedRun merge backend txId (.rollback strategy) "" device
  have served := (does_rollback txId strategy).executes serves
  generalize (obligedRun merge backend txId (.rollback strategy) "" device).1 = result at *
  generalize (obligedRun merge backend txId (.rollback strategy) "" device).2 = after at *
  cases served with
  | rolledBack target =>
      cases target with
      | cancel awaits => exact (nothingToCancel awaits).elim
      | discard => rfl
  | failed left => cases reported

/-- A prepared transaction can be given up exactly under the strategy whose rollback discards. -/
theorem abortable_iff {desired : DeviceDesiredState} {result : AdapterResult}
    (fresh : ¬before.Awaits txId)
    (prepares : Serves merge backend txId (.prepare desired) before result device)
    (prepared : result.status = .prepared) :
    Abortable merge backend txId strategy device ↔ strategy = some .candidateCommit := by
  have served := (does_prepare txId desired).executes prepares
  constructor
  · intro abortable
    cases served with
    | @prepared edit rendered =>
        have nothingToCancel : ¬(before.edited merge txId edit).Awaits txId := fresh
        exact abortable.candidateCommit nothingToCancel
    | failed left => cases prepared
  · rintro rfl
    exact abortable_candidateCommit

end Abort

theorem abortable_iff_prepared :
    Abortable appendEdit (textBackend true) "tx-1" (some .candidateCommit) preparedTextDevice ↔
      some TransactionStrategy.candidateCommit = some .candidateCommit :=
  abortable_iff (textDevice_fresh "tx-1")
    (serves_obligedRun appendEdit (textBackend true) "tx-1" (.prepare (textDesired 100)) ""
      textDevice)
    (by decide +kernel)

/-- Under a confirmed commit, the rollback of a prepared transaction asks to cancel a commit that
was never made.  It fails and leaves the edits in the candidate. -/
theorem not_abortable_confirmedCommit :
    (obligedRun appendEdit (textBackend true) "tx-1" (.prepare (textDesired 100)) "" textDevice).1
        = { status := .prepared, preparedCandidateChecksum := "base;vlan 100;" } ∧
      ¬Abortable appendEdit (textBackend true) "tx-1" (some .confirmedCommit)
        preparedTextDevice := by
  refine ⟨by decide +kernel, fun abortable => ?_⟩
  have reported := (abortable "" (.rollback (some .confirmedCommit)) (by simp)).1
  revert reported
  decide +kernel

end AriaUnderlay
