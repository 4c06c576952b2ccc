import AriaUnderlay.Netconf.Rollback

/-!
# Transactions that share one candidate

The candidate of a device outlives sessions and locks.  A preparation edits whatever candidate it
finds, so that the edits of a transaction that was never cleaned up are committed together with
those of the next one.

A run of the adapter on one device is a sequence of calls for any transactions.  For each
transaction the run notes what its last successful preparation was made of.
-/

namespace AriaUnderlay

open Effect

variable {Config Edit : Type}

/-- What a successful preparation was made of. -/
structure Preparation (Config Edit : Type) where
  /-- The content of running when it was made. -/
  base : Config
  /-- The edit that was rendered for it. -/
  edit : Edit
  /-- The checksum that it returned. -/
  checksum : String
  deriving DecidableEq

/-- A device together with the last successful preparation of each transaction. -/
structure Station (Config Edit : Type) where
  device : NetconfDevice Config
  preparations : String → Option (Preparation Config Edit)

/-- Nothing has been prepared yet. -/
def Station.initial (device : NetconfDevice Config) : Station Config Edit where
  device := device
  preparations := fun _ => none

/-- What is noted after a call. -/
def Station.note (backend : NetconfBackend Config Edit) (station : Station Config Edit)
    (txId : String) (call : AdapterCall)
    (result : AdapterResult) : String → Option (Preparation Config Edit) :=
  match call, result.errors with
  | .prepare desired, [] =>
      match backend.renderCandidateConfig desired with
      | .ok edit => Function.update station.preparations txId (some
          { base := station.device.running.config
            edit := edit
            checksum := result.preparedCandidateChecksum })
      | .error _ => station.preparations
  | _, _ => station.preparations

section Runs

variable (merge : Config → Edit → Config) (backend : NetconfBackend Config Edit)

/-- One call of the adapter on a device. -/
def Station.Step (station : Station Config Edit) (txId : String) (call : AdapterCall)
    (result : AdapterResult) (next : Station Config Edit) : Prop :=
  Serves merge backend txId call station.device result next.device ∧
    next.preparations = station.note backend txId call result

/-- The stations that a run of calls reaches if all of its calls are of a kind. -/
inductive Station.Reaches
    (kind : Station Config Edit → String → AdapterCall → Prop) : Station Config Edit → Prop where
  | start (device : NetconfDevice Config) : Reaches kind (.initial device)
  | step {station next : Station Config Edit} {txId : String} {call : AdapterCall}
      {result : AdapterResult}
      (reaches : Reaches kind station)
      (isKind : kind station txId call)
      (steps : station.Step merge backend txId call result next) :
      Reaches kind next

/-- A commit that succeeds changes running by the edit of its own preparation and by nothing
else. -/
def CommitsOwn (station : Station Config Edit) (txId : String) (call : AdapterCall)
    (result : AdapterResult) (next : Station Config Edit) : Prop :=
  ∀ strategy confirmTimeoutSecs checksum, call = .commit strategy confirmTimeoutSecs checksum →
    result.errors = [] →
      ∃ preparation, station.preparations txId = some preparation ∧
        next.device.running.config = merge station.device.running.config preparation.edit

end Runs

/-- The calls that keep transactions apart: preparations find a candidate without edits, and commits
are of a candidate, come with the checksum of their own preparation and find running as that
preparation did. -/
def Secluded (station : Station Config Edit) (txId : String) : AdapterCall → Prop
  | .prepare _ => station.device.candidate.config = station.device.running.config
  | .commit strategy _ checksum => CommitsCandidate (some strategy) ∧
      ∃ preparation, station.preparations txId = some preparation ∧
        checksum = some preparation.checksum ∧ preparation.checksum ≠ "" ∧
        preparation.base = station.device.running.config
  | _ => True

section Isolation

variable {merge : Config → Edit → Config} {backend : NetconfBackend Config Edit}
variable {station next : Station Config Edit} {txId : String} {call : AdapterCall}
variable {result : AdapterResult}

/-- Every noted checksum is the one of the edit on the content of running. -/
def Station.Accurate (merge : Config → Edit → Config) (backend : NetconfBackend Config Edit)
    (station : Station Config Edit) : Prop :=
  ∀ txId preparation, station.preparations txId = some preparation →
    preparation.checksum = backend.checksum (merge preparation.base preparation.edit)

theorem Station.accurate_initial (device : NetconfDevice Config) :
    (Station.initial device : Station Config Edit).Accurate merge backend := by
  intro txId preparation isNoted
  cases isNoted

/-- Calls other than preparations note nothing. -/
theorem Station.note_of_not_prepare (other : ∀ desired, call ≠ .prepare desired) :
    station.note backend txId call result = station.preparations := by
  cases call with
  | prepare desired => exact (other desired rfl).elim
  | _ => rfl

theorem Station.Accurate.step (accurate : station.Accurate merge backend)
    (secluded : Secluded station txId call)
    (steps : station.Step merge backend txId call result next) :
    next.Accurate merge backend := by
  rcases steps with ⟨serves, noted⟩
  unfold Station.Accurate
  rw [noted]
  by_cases prepares : ∃ desired, call = .prepare desired
  · rcases prepares with ⟨desired, rfl⟩
    have served := (does_prepare txId desired).executes serves
    generalize next.device = after at served
    cases served with
    | @prepared edit rendered =>
        simp only [Station.note, rendered]
        intro other preparation isNoted
        by_cases same : other = txId
        · subst same
          rw [Function.update_self, Option.some.injEq] at isNoted
          subst isNoted
          -- the candidate that was edited had the content of running
          have clean : station.device.candidate.config = station.device.running.config := secluded
          simp only [NetconfDevice.edited, NetconfDevice.effect, clean]
        · rw [Function.update_of_ne same] at isNoted
          exact accurate other preparation isNoted
    | failed left => exact accurate
  · rw [Station.note_of_not_prepare fun desired isPrepare => prepares ⟨desired, isPrepare⟩]
    exact accurate

theorem Station.Reaches.accurate (reaches : Station.Reaches merge backend Secluded station) :
    station.Accurate merge backend := by
  induction reaches with
  | start device => exact Station.accurate_initial device
  | step _ secluded steps ih => exact ih.step secluded steps

/-- The content of running after a commit is the one of the candidate. -/
theorem NetconfDevice.running_committed (device : NetconfDevice Config)
    (strategy : Option TransactionStrategy) :
    (device.committed strategy txId).running = device.candidate := by
  unfold NetconfDevice.committed
  split <;> rfl

/-- The checksum of the candidate does not collide with the one of what the transaction prepared. -/
def Station.ChecksumTells (merge : Config → Edit → Config) (backend : NetconfBackend Config Edit)
    (station : Station Config Edit) (txId : String) : Prop :=
  ∀ preparation, station.preparations txId = some preparation →
    backend.checksum station.device.candidate.config =
        backend.checksum (merge preparation.base preparation.edit) →
      station.device.candidate.config = merge preparation.base preparation.edit

/-- In a run of secluded calls, every commit that succeeds applies exactly its own preparation. -/
theorem Station.Reaches.commitsOwn (checksumTells : station.ChecksumTells merge backend txId)
    (reaches : Station.Reaches merge backend Secluded station)
    (secluded : Secluded station txId call)
    (steps : station.Step merge backend txId call result next) :
    CommitsOwn merge station txId call result next := by
  rintro strategy confirmTimeoutSecs checksum rfl succeeded
  rcases secluded with ⟨commits, preparation, isNoted, isChecksum, nonempty, sameBase⟩
  refine ⟨preparation, isNoted, ?_⟩
  have served := (does_commit txId _ _ _).executes steps.1
  generalize next.device = after at served
  cases served with
  | committed _ nonePending checked =>
      have isOwn : backend.checksum station.device.candidate.config = preparation.checksum :=
        checked preparation.checksum (by rw [isChecksum]; rfl) nonempty
      rw [reaches.accurate txId preparation isNoted] at isOwn
      rw [NetconfDevice.running_committed, ← sameBase]
      exact checksumTells preparation isNoted isOwn
  | skipped rollbackOnError =>
      rcases commits with confirmed | candidate
      · rw [rollbackOnError] at confirmed
        cases confirmed
      · rw [rollbackOnError] at candidate
        cases candidate
  | failed left => cases succeeded

end Isolation

/-! ## Runs on the text device -/

/-- The result of a call on the text device of a station, if the device does what it can. -/
def Station.answer (station : Station String String) (txId : String)
    (call : AdapterCall) : AdapterResult :=
  (obligedRun appendEdit (textBackend true) txId call "" station.device).1

/-- The station after such a call. -/
def Station.after (station : Station String String) (txId : String)
    (call : AdapterCall) : Station String String where
  device := (obligedRun appendEdit (textBackend true) txId call "" station.device).2
  preparations := station.note (textBackend true) txId call (station.answer txId call)

theorem Station.step_after (station : Station String String) (txId : String) (call : AdapterCall) :
    station.Step appendEdit (textBackend true) txId call (station.answer txId call)
      (station.after txId call) :=
  ⟨serves_obligedRun appendEdit (textBackend true) txId call "" station.device, rfl⟩

theorem Station.Reaches.after {kind : Station String String → String → AdapterCall → Prop}
    {station : Station String String}
    (reaches : Station.Reaches appendEdit (textBackend true) kind station) (txId : String)
    (call : AdapterCall) (isKind : kind station txId call) :
    Station.Reaches appendEdit (textBackend true) kind (station.after txId call) :=
  .step reaches isKind (station.step_after txId call)

/-- The text device with a preparation of one transaction. -/
def preparedStation : Station String String :=
  (Station.initial textDevice).after "tx-1" (.prepare (textDesired 100))

theorem commitsOwn_preparedStation :
    CommitsOwn appendEdit preparedStation "tx-1"
      (.commit .candidateCommit 120 (some "base;vlan 100;"))
      (preparedStation.answer "tx-1" (.commit .candidateCommit 120 (some "base;vlan 100;")))
      (preparedStation.after "tx-1" (.commit .candidateCommit 120 (some "base;vlan 100;"))) := by
  have reaches : Station.Reaches appendEdit (textBackend true) Secluded preparedStation :=
    (Station.Reaches.start textDevice).after "tx-1" (.prepare (textDesired 100)) rfl
  have secluded : Secluded preparedStation "tx-1"
      (.commit .candidateCommit 120 (some "base;vlan 100;")) := by
    refine ⟨Or.inr rfl,
      { base := "base;", edit := "vlan 100;", checksum := "base;vlan 100;" }, ?_, rfl, ?_, ?_⟩
    · decide +kernel
    · decide
    · decide +kernel
  -- the checksum of the text device is the text itself
  exact reaches.commitsOwn (fun _ _ same => same) secluded (preparedStation.step_after _ _)

/-- The text device after a transaction was prepared, given up without success, and followed by the
preparation of another one. -/
def mixedStation : Station String String :=
  (((Station.initial textDevice).after "tx-1" (.prepare (textDesired 100))).after "tx-1"
    (.rollback (some .confirmedCommit))).after "tx-2" (.prepare (textDesired 200))

/-- The commit of the second transaction passes the check of its checksum and carries the edit of
the first one to running. -/
theorem not_commitsOwn_mixedStation :
    Station.Reaches appendEdit (textBackend true) (fun _ _ _ => True) mixedStation ∧
      mixedStation.Step appendEdit (textBackend true) "tx-2"
        (.commit .confirmedCommit 120 (some "base;vlan 100;vlan 200;"))
        { status := .confirmedCommitPending }
        (mixedStation.after "tx-2"
          (.commit .confirmedCommit 120 (some "base;vlan 100;vlan 200;"))) ∧
      ¬CommitsOwn appendEdit mixedStation "tx-2"
        (.commit .confirmedCommit 120 (some "base;vlan 100;vlan 200;"))
        { status := .confirmedCommitPending }
        (mixedStation.after "tx-2"
          (.commit .confirmedCommit 120 (some "base;vlan 100;vlan 200;"))) := by
  have answered : mixedStation.answer "tx-2"
      (.commit .confirmedCommit 120 (some "base;vlan 100;vlan 200;")) =
        { status := .confirmedCommitPending } := by
    decide +kernel
  refine ⟨?_, ?_, fun commitsOwn => ?_⟩
  · exact (((Station.Reaches.start textDevice).after "tx-1" _ trivial).after "tx-1" _
      trivial).after "tx-2" _ trivial
  · have steps := mixedStation.step_after "tx-2"
      (.commit .confirmedCommit 120 (some "base;vlan 100;vlan 200;"))
    rw [answered] at steps
    exact steps
  · rcases commitsOwn _ _ _ rfl rfl with ⟨preparation, isNoted, isMerge⟩
    have noted : (mixedStation.preparations "tx-2").map Preparation.edit = some "vlan 200;" := by
      decide +kernel
    rw [isNoted, Option.map_some, Option.some.injEq] at noted
    rw [noted] at isMerge
    revert isMerge
    decide +kernel

end AriaUnderlay
