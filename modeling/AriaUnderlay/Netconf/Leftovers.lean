import AriaUnderlay.Netconf.Driver

/-!
# What the calls of the adapter leave on a device

For each operation of the backend, and then for each call of the driver, the results it can have
together with the device it can leave.  Every operation of a session may fail, with or without
having taken effect.
-/

namespace AriaUnderlay

open Collections Effect

variable {Config Edit : Type} {merge : Config → Edit → Config}

/-- Whatever the device answers, the session ends in `post`. -/
abbrev Does (merge : Config → Edit → Config) {α : Type} (session : Session Config Edit α)
    (post : α → NetconfDevice Config → Prop) (device : NetconfDevice Config) : Prop :=
  Ensures (netconfEnvironment merge) (Contract.alone Unit (NetconfDevice Config)) () session post
    device

namespace NetconfDevice

/-- The device after an edit of its candidate. -/
abbrev edited (merge : Config → Edit → Config) (device : NetconfDevice Config) (author : String)
    (edit : Edit) : NetconfDevice Config :=
  device.effect merge (.editCandidate author edit)

/-- The device without the edits of its candidate. -/
def discarded (device : NetconfDevice Config) : NetconfDevice Config :=
  { device with candidate := device.running }

/-- The device after a commit of its candidate under a strategy. -/
def committed (device : NetconfDevice Config) (strategy : Option TransactionStrategy)
    (txId : String) : NetconfDevice Config :=
  if strategy = some .confirmedCommit then
    { device with
      running := device.candidate
      pending := some { persistId := txId, remembered := device.running } }
  else { device with running := device.candidate }

/-- The device holds a confirmed commit of the transaction that is still to be confirmed. -/
def Awaits (device : NetconfDevice Config) (txId : String) : Prop :=
  ∃ pending, device.pending = some pending ∧ pending.persistId = txId

theorem awaits_iff_legal_confirm {device : NetconfDevice Config} {txId : String} :
    device.legal (.confirmCommit txId : NetconfOp Edit) = true ↔ device.Awaits txId := by
  cases found : device.pending <;> simp [legal, Awaits, found]

theorem awaits_iff_legal_cancel {device : NetconfDevice Config} {txId : String} :
    device.legal (.cancelCommit txId : NetconfOp Edit) = true ↔ device.Awaits txId := by
  cases found : device.pending <;> simp [legal, Awaits, found]

end NetconfDevice

/-! ## Single operations -/

section Operations

variable {device : NetconfDevice Config} {op : NetconfOp Edit} {convert : Raised → AdapterError}
variable {post : Except AdapterError (op.Value Config) → NetconfDevice Config → Prop}

theorem does_performOr
    (success : device.legal op = true →
      post (.ok (device.value op)) (device.effect merge op))
    (failure : ∀ raised, raised.possible op = true → post (.error (convert raised)) device)
    (hidden : ∀ raised, raised.possible op = true → device.legal op = true →
      post (.error (convert raised)) (device.effect merge op)) :
    Does merge (performOr op convert).run post device := by
  rintro (raised | value) after responds
  · rcases responds with ⟨possible, unchanged | ⟨isLegal, changed⟩⟩
    · refine ⟨trivial, fun later same _ => ?_⟩
      rw [← same, unchanged]
      exact failure raised possible
    · refine ⟨trivial, fun later same _ => ?_⟩
      rw [← same, changed]
      exact hidden raised possible isLegal
  · rcases responds with ⟨isLegal, isValue, changed⟩
    refine ⟨trivial, fun later same _ => ?_⟩
    rw [← same, changed, isValue]
    exact success isLegal

/-- An operation that only looks at the device. -/
theorem does_performOr_quiet (quiet : device.effect merge op = device)
    (success : post (.ok (device.value op)) device)
    (failure : ∀ raised, raised.possible op = true → post (.error (convert raised)) device) :
    Does merge (performOr op convert).run post device := by
  apply does_performOr
  · intro _
    rw [quiet]
    exact success
  · exact failure
  · intro raised possible _
    rw [quiet]
    exact failure raised possible

end Operations

/-! ## The backend -/

section Backend

variable {device : NetconfDevice Config} {backend : NetconfBackend Config Edit}

theorem does_connect {convert : Raised → AdapterError} :
    Does merge (performOr .connect convert : SessionResult Config Edit NetconfCapabilities).run
      (fun _ after => after = device) device :=
  does_performOr_quiet rfl rfl fun _ _ => rfl

theorem does_unlockCandidate :
    Does merge (unlockCandidate : SessionResult Config Edit Unit).run
      (fun _ after => after = device) device :=
  does_performOr_quiet rfl rfl fun _ _ => rfl

theorem does_validateCandidate :
    Does merge (validateCandidate : SessionResult Config Edit Unit).run
      (fun _ after => after = device) device :=
  does_performOr_quiet rfl rfl fun _ _ => rfl

theorem does_lockCandidate :
    Does merge (lockCandidate : SessionResult Config Edit Unit).run
      (fun _ after => after = device) device :=
  does_performOr_quiet rfl rfl fun _ _ => rfl

theorem does_discardCandidatePreservingError (original : AdapterError) :
    Does merge (discardCandidatePreservingError original : Session Config Edit AdapterError)
      (fun _ after => after = device ∨ after = device.discarded) device := by
  have discards : Does merge (discardCandidate : SessionResult Config Edit Unit).run
      (fun _ after => after = device ∨ after = device.discarded) device :=
    does_performOr (fun _ => .inr rfl) (fun _ _ => .inl rfl) fun _ _ _ => .inr rfl
  refine discards.bind ?_
  rintro (discardError | _) after left <;> exact left

theorem does_candidateChecksum :
    Does merge backend.candidateChecksum.run
      (fun result after => after = device ∧
        ∀ checksum, result = .ok checksum → checksum = backend.checksum device.candidate.config)
      device := by
  have reads : Does merge (readCandidate : SessionResult Config Edit Config).run
      (fun result after => after = device ∧
        ∀ config, result = .ok config → config = device.candidate.config) device := by
    refine does_performOr_quiet rfl ⟨rfl, fun config same => ?_⟩ fun _ _ => ⟨rfl, nofun⟩
    cases same
    rfl
  refine reads.bindResult ?_ ?_
  · rintro config after ⟨unchanged, isConfig⟩
    refine ⟨unchanged, fun checksum same => ?_⟩
    cases same
    rw [isConfig config rfl]
  · rintro error after ⟨unchanged, -⟩
    exact ⟨unchanged, nofun⟩

/-- The candidate has been edited for the author, or the renderer refused and nothing happened. -/
def EditedOrNot (merge : Config → Edit → Config) (backend : NetconfBackend Config Edit)
    (author : String) (desired : DeviceDesiredState) (device after : NetconfDevice Config) : Prop :=
  after = device ∨
    ∃ edit, backend.renderCandidateConfig desired = .ok edit ∧
      after = device.edited merge author edit

theorem does_editCandidate (author : String) (desired : DeviceDesiredState) :
    Does merge (backend.editCandidate author desired).run
      (fun result after => match result with
        | .ok _ => ∃ edit, backend.renderCandidateConfig desired = .ok edit ∧
            after = device.edited merge author edit
        | .error _ => EditedOrNot merge backend author desired device after)
      device := by
  unfold NetconfBackend.editCandidate
  cases rendered : backend.renderCandidateConfig desired with
  | error refused => exact Or.inl rfl
  | ok edit =>
      refine does_performOr ?_ ?_ ?_
      · intro _
        exact ⟨edit, rfl, rfl⟩
      · intro raised _
        exact Or.inl rfl
      · intro raised _ _
        exact Or.inr ⟨edit, rendered, rfl⟩

theorem does_editAndCheck (author : String) (desired : DeviceDesiredState) :
    Does merge (backend.editAndCheck author desired).run
      (fun result after => match result with
        | .ok checksum => ∃ edit, backend.renderCandidateConfig desired = .ok edit ∧
            after = device.edited merge author edit ∧
            checksum = backend.checksum after.candidate.config
        | .error _ => EditedOrNot merge backend author desired device after)
      device := by
  refine (does_editCandidate author desired).bindResult ?_ fun _ _ left => left
  rintro _ middle ⟨edit, rendered, isEdited⟩
  refine does_validateCandidate.bindResult ?_ ?_
  · rintro _ after rfl
    refine does_candidateChecksum.mono ?_
    rintro (error | checksum) last ⟨rfl, isChecksum⟩
    · exact Or.inr ⟨edit, rendered, isEdited⟩
    · exact ⟨edit, rendered, isEdited, isChecksum checksum rfl⟩
  · rintro error after rfl
    exact Or.inr ⟨edit, rendered, isEdited⟩

/-- What a preparation that failed may leave: also a candidate without any edits. -/
def PreparationLeft (merge : Config → Edit → Config) (backend : NetconfBackend Config Edit)
    (author : String) (desired : DeviceDesiredState) (device after : NetconfDevice Config) : Prop :=
  EditedOrNot merge backend author desired device after ∨ after = device.discarded

theorem EditedOrNot.left_of_discard {author : String} {desired : DeviceDesiredState}
    {middle after : NetconfDevice Config}
    (edited : EditedOrNot merge backend author desired device middle)
    (discards : after = middle ∨ after = middle.discarded) :
    PreparationLeft merge backend author desired device after := by
  rcases discards with rfl | rfl
  · exact Or.inl edited
  · rcases edited with rfl | ⟨edit, -, rfl⟩
    · exact Or.inr rfl
    · exact Or.inr rfl

theorem does_prepareLocked (author : String) (desired : DeviceDesiredState) :
    Does merge (backend.prepareLocked author desired).run
      (fun result after => match result with
        | .ok checksum => ∃ edit, backend.renderCandidateConfig desired = .ok edit ∧
            after = device.edited merge author edit ∧
            checksum = backend.checksum after.candidate.config
        | .error _ => PreparationLeft merge backend author desired device after)
      device := by
  refine (does_editAndCheck author desired).bindLift ?_
  rintro (original | checksum) middle checked
  · refine (does_discardCandidatePreservingError original).bindLift ?_
    intro secondary after discards
    refine does_unlockCandidate.bindLift ?_
    rintro (unlockError | _) last rfl
    · exact checked.left_of_discard discards
    · exact checked.left_of_discard discards
  · refine does_unlockCandidate.bindLift ?_
    rcases checked with ⟨edit, rendered, isEdited, isChecksum⟩
    rintro (unlockError | _) last rfl
    · refine (does_discardCandidatePreservingError unlockError).bindLift ?_
      intro secondary after discards
      have edited : EditedOrNot merge backend author desired device last :=
        Or.inr ⟨edit, rendered, isEdited⟩
      exact edited.left_of_discard discards
    · exact ⟨edit, rendered, isEdited, isChecksum⟩

theorem does_prepareCandidate (author : String) (desired : DeviceDesiredState) :
    Does merge (backend.prepareCandidate author desired).run
      (fun result after => match result with
        | .ok checksum => ∃ edit, backend.renderCandidateConfig desired = .ok edit ∧
            after = device.edited merge author edit ∧
            checksum = backend.checksum after.candidate.config
        | .error _ => PreparationLeft merge backend author desired device after)
      device := by
  refine does_connect.bindResult ?_ ?_
  · rintro capability middle rfl
    cases supported : NetconfBackend.ensurePrepareSupported capability with
    | error refused =>
        rw [ExceptT.run_bind]
        exact Or.inl (Or.inl rfl)
    | ok _ =>
        refine does_lockCandidate.bindResult ?_ ?_
        · rintro _ after rfl
          exact does_prepareLocked author desired
        · rintro error after rfl
          exact Or.inl (Or.inl rfl)
  · rintro error after rfl
    exact Or.inl (Or.inl rfl)

theorem does_validateAndCommit (strategy : Option TransactionStrategy) (txId : String) :
    Does merge (NetconfBackend.validateAndCommit strategy txId : SessionResult Config Edit Unit).run
      (fun result after => match result with
        | .ok _ => device.pending = none ∧ after = device.committed strategy txId
        | .error _ => after = device ∨
            device.pending = none ∧ after = device.committed strategy txId)
      device := by
  refine does_validateCandidate.bindResult ?_ ?_
  · rintro _ middle rfl
    by_cases confirmed : strategy = some .confirmedCommit
    · subst confirmed
      refine does_performOr ?_ ?_ ?_
      · intro isLegal
        exact ⟨Option.isNone_iff_eq_none.mp isLegal, rfl⟩
      · intro raised _
        exact Or.inl rfl
      · intro raised _ isLegal
        exact Or.inr ⟨Option.isNone_iff_eq_none.mp isLegal, rfl⟩
    · have session : (NetconfBackend.commitCandidateSession strategy txId :
          SessionResult Config Edit Unit) =
          performOr .commit (adapterOperationError "NETCONF_COMMIT_FAILED"
            "NETCONF candidate commit failed" true) := if_neg confirmed
      have isCommitted : middle.committed strategy txId =
          middle.effect merge (.commit : NetconfOp Edit) := if_neg confirmed
      rw [session, isCommitted]
      refine does_performOr ?_ ?_ ?_
      · intro isLegal
        exact ⟨Option.isNone_iff_eq_none.mp isLegal, rfl⟩
      · intro raised _
        exact Or.inl rfl
      · intro raised _ isLegal
        exact Or.inr ⟨Option.isNone_iff_eq_none.mp isLegal, rfl⟩
  · rintro error after rfl
    exact Or.inl rfl

/-- What a commit that failed may leave. -/
def CommitLeft (strategy : Option TransactionStrategy) (txId : String)
    (device after : NetconfDevice Config) : Prop :=
  after = device ∨ after = device.discarded ∨
    device.pending = none ∧ after = device.committed strategy txId

/-- Discarding after a commit that took effect does nothing. -/
theorem NetconfDevice.discarded_committed (strategy : Option TransactionStrategy) (txId : String) :
    (device.committed strategy txId).discarded = device.committed strategy txId := by
  unfold committed
  split <;> rfl

theorem does_abandonCommit {strategy : Option TransactionStrategy} {txId : String}
    {middle : NetconfDevice Config} (discardOnError : Bool) (original : AdapterError)
    (left : middle = device ∨ device.pending = none ∧ middle = device.committed strategy txId) :
    Does merge
      (NetconfBackend.abandonCommit discardOnError original :
        SessionResult Config Edit (List String)).run
      (fun result after => match result with
        | .ok _ => False
        | .error _ => CommitLeft strategy txId device after)
      middle := by
  have discards : Does merge
      (if discardOnError then discardCandidatePreservingError original else pure original :
        Session Config Edit AdapterError)
      (fun _ after => after = middle ∨ after = middle.discarded) middle := by
    cases discardOnError with
    | true => exact does_discardCandidatePreservingError original
    | false => exact Or.inl rfl
  refine discards.bindLift ?_
  intro secondary after discarded
  have leaves : CommitLeft strategy txId device after := by
    rcases left with rfl | ⟨nonePending, rfl⟩
    · exact discarded.imp id Or.inl
    · refine Or.inr (Or.inr ⟨nonePending, ?_⟩)
      rcases discarded with rfl | rfl
      · rfl
      · exact NetconfDevice.discarded_committed strategy txId
  refine does_unlockCandidate.bindLift ?_
  rintro (unlockError | _) last rfl
  · exact leaves
  · exact leaves

theorem does_concludeCommit {post : Except AdapterError (List String) → NetconfDevice Config → Prop}
    (always : ∀ warnings, post (.ok warnings) device) :
    Does merge (NetconfBackend.concludeCommit : SessionResult Config Edit (List String)).run post
      device := by
  refine does_unlockCandidate.bindLift ?_
  rintro (unlockError | _) last rfl
  · exact always _
  · exact always _

/-- The outcome of a commit under one of the two strategies that commit a candidate. -/
def CommitOutcome (backend : NetconfBackend Config Edit) (strategy : Option TransactionStrategy)
    (txId : String) (preparedCandidateChecksum : Option String) (device : NetconfDevice Config)
    (result : Except AdapterError (List String)) (after : NetconfDevice Config) : Prop :=
  match result with
  | .ok _ => device.pending = none ∧ after = device.committed strategy txId ∧
      ∀ checksum, preparedCandidateChecksum = some checksum → checksum ≠ "" →
        backend.checksum device.candidate.config = checksum
  | .error _ => CommitLeft strategy txId device after

theorem does_verifyPreparedCandidateChecksum (prepared : String) :
    Does merge (backend.verifyPreparedCandidateChecksum prepared).run
      (fun result after => after = device ∧
        ∀ value, result = .ok value → backend.checksum device.candidate.config = prepared)
      device := by
  refine does_candidateChecksum.bindResult ?_ ?_
  · rintro current after ⟨unchanged, isChecksum⟩
    by_cases same : current = prepared
    · rw [if_pos same]
      exact ⟨unchanged, fun _ _ => (isChecksum current rfl).symm.trans same⟩
    · rw [if_neg same]
      exact ⟨unchanged, nofun⟩
  · rintro error after ⟨unchanged, -⟩
    exact ⟨unchanged, nofun⟩

/-- The part of a commit that follows the check of the candidate. -/
theorem does_commitChecked {preparedCandidateChecksum : Option String}
    (strategy : Option TransactionStrategy) (txId : String) (discardOnError : Bool)
    (checked : ∀ checksum, preparedCandidateChecksum = some checksum → checksum ≠ "" →
      backend.checksum device.candidate.config = checksum) :
    Does merge
      (do
        match ← ExceptT.lift (NetconfBackend.validateAndCommit strategy txId).run with
        | .error original => NetconfBackend.abandonCommit discardOnError original
        | .ok _ => NetconfBackend.concludeCommit : SessionResult Config Edit (List String)).run
      (CommitOutcome backend strategy txId preparedCandidateChecksum device) device := by
  refine (does_validateAndCommit strategy txId).bindLift ?_
  rintro (original | _) middle left
  · refine (does_abandonCommit discardOnError original left).mono ?_
    rintro (error | warnings) after leaves
    · exact leaves
    · exact leaves.elim
  · refine does_concludeCommit fun warnings => ?_
    exact ⟨left.1, left.2, checked⟩

theorem does_commitLockedCandidate (strategy : Option TransactionStrategy) (txId : String)
    (preparedCandidateChecksum : Option String) :
    Does merge (backend.commitLockedCandidate strategy txId preparedCandidateChecksum).run
      (CommitOutcome backend strategy txId preparedCandidateChecksum device) device := by
  refine does_lockCandidate.bindResult ?_ ?_
  · rintro _ middle rfl
    cases given : preparedCandidateChecksum.filter fun checksum => !checksum.isEmpty with
    | none =>
        refine does_commitChecked strategy txId _ fun checksum isChecksum nonempty => ?_
        subst isChecksum
        simp [Option.filter, nonempty] at given
    | some prepared =>
        have isPrepared : preparedCandidateChecksum = some prepared :=
          (Option.filter_eq_some_iff.mp given).1
        refine (does_verifyPreparedCandidateChecksum prepared).bindLift ?_
        rintro (original | _) after ⟨rfl, checked⟩
        · have untouched : after = after ∨
              after.pending = none ∧ after = after.committed strategy txId := Or.inl rfl
          refine (does_abandonCommit false original untouched).mono ?_
          rintro (error | warnings) last leaves
          · exact leaves
          · exact leaves.elim
        · refine does_commitChecked strategy txId true fun checksum isChecksum _ => ?_
          rw [isPrepared, Option.some.injEq] at isChecksum
          exact (checked _ rfl).trans isChecksum
  · rintro error after rfl
    exact Or.inl rfl

/-- A confirmed commit or a candidate commit; other strategies commit nothing. -/
theorem does_commitCandidate (strategy : Option TransactionStrategy) (txId : String)
    (confirmTimeoutSecs : ℕ) (preparedCandidateChecksum : Option String) :
    Does merge
      (backend.commitCandidate strategy txId confirmTimeoutSecs preparedCandidateChecksum).run
      (fun result after =>
        if strategy = some .confirmedCommit ∨ strategy = some .candidateCommit then
          CommitOutcome backend strategy txId preparedCandidateChecksum device result after
        else after = device ∧
          (strategy ≠ some .runningRollbackOnError → ∃ error, result = .error error))
      device := by
  unfold NetconfBackend.commitCandidate
  cases confirmable : NetconfBackend.ensureConfirmable strategy txId confirmTimeoutSecs with
  | error refused =>
      have confirmed : strategy = some .confirmedCommit := by
        by_contra other
        simp [NetconfBackend.ensureConfirmable, other] at confirmable
      subst confirmed
      exact Or.inl rfl
  | ok _ =>
      by_cases rollbackOnError : strategy = some .runningRollbackOnError
      · subst rollbackOnError
        exact ⟨rfl, fun other => (other rfl).elim⟩
      · by_cases commits : strategy = some .confirmedCommit ∨ strategy = some .candidateCommit
        · simp only [if_pos commits, if_neg rollbackOnError]
          refine does_connect.bindResult ?_ ?_
          · rintro capability middle rfl
            exact does_commitLockedCandidate strategy txId preparedCandidateChecksum
          · rintro error after rfl
            exact Or.inl rfl
        · simp only [if_neg commits, if_neg rollbackOnError]
          exact ⟨rfl, fun _ => ⟨_, rfl⟩⟩

/-- The device after the confirmation of a commit. -/
def NetconfDevice.confirmed (device : NetconfDevice Config) : NetconfDevice Config :=
  { device with pending := none }

/-- No error of a final confirmation is taken for a consumed persist id. -/
theorem persistIdAlreadyConsumed_finalConfirm {raised : Raised} {op : NetconfOp Edit}
    (possible : raised.possible op = true) :
    persistIdAlreadyConsumed (orElse (adapterOperationError "NETCONF_FINAL_CONFIRM_FAILED"
      "NETCONF final confirm failed" true) raised) = false := by
  cases raised with
  | session name message =>
      have normalized : ["persist-id already consumed", "persist-id not found",
          "unknown persist-id"].contains "NETCONF final confirm failed".toLower = false := by
        decide +kernel
      simp only [persistIdAlreadyConsumed, orElse, adapterOperationError, normalized]
      decide
  | adapter error =>
      cases op with
      | connect => exact Bool.not_eq_true' _ ▸ possible
      | _ => simp [Raised.possible] at possible

theorem does_finalConfirm (txId : String) :
    Does merge (NetconfBackend.finalConfirm txId : SessionResult Config Edit Unit).run
      (fun result after => match result with
        | .ok _ => device.Awaits txId ∧ after = device.confirmed
        | .error error => persistIdAlreadyConsumed error = false ∧
            (after = device ∨ device.Awaits txId ∧ after = device.confirmed))
      device := by
  by_cases missing : txId.isEmpty
  · have session : (NetconfBackend.finalConfirm txId : SessionResult Config Edit Unit) =
        throw (NetconfBackend.missingTxId "NETCONF final confirm requires tx_id as persist-id"
          "FinalConfirmRequest.context.tx_id is empty") := if_pos missing
    rw [session]
    exact ⟨rfl, Or.inl rfl⟩
  · have session : (NetconfBackend.finalConfirm txId : SessionResult Config Edit Unit) = (do
        let _ ← performOr .connect (orElse (adapterOperationError "NETCONF_FINAL_CONFIRM_FAILED"
          "NETCONF final confirm failed" true))
        performOr (.confirmCommit txId) (orElse (adapterOperationError
          "NETCONF_FINAL_CONFIRM_FAILED" "NETCONF final confirm failed" true))) := if_neg missing
    rw [session]
    have connects : Does merge
        (performOr .connect (orElse (adapterOperationError "NETCONF_FINAL_CONFIRM_FAILED"
          "NETCONF final confirm failed" true)) :
            SessionResult Config Edit NetconfCapabilities).run
        (fun result after => after = device ∧
          ∀ error, result = .error error → persistIdAlreadyConsumed error = false) device := by
      refine does_performOr_quiet rfl ⟨rfl, nofun⟩ fun raised possible => ⟨rfl, ?_⟩
      rintro error same
      cases same
      exact persistIdAlreadyConsumed_finalConfirm possible
    refine connects.bindResult ?_ ?_
    · rintro capability middle ⟨rfl, -⟩
      refine does_performOr ?_ ?_ ?_
      · intro isLegal
        exact ⟨NetconfDevice.awaits_iff_legal_confirm.mp isLegal, rfl⟩
      · intro raised possible
        exact ⟨persistIdAlreadyConsumed_finalConfirm possible, Or.inl rfl⟩
      · intro raised possible isLegal
        exact ⟨persistIdAlreadyConsumed_finalConfirm possible,
          Or.inr ⟨NetconfDevice.awaits_iff_legal_confirm.mp isLegal, rfl⟩⟩
    · rintro error after ⟨rfl, isPlain⟩
      exact ⟨isPlain error rfl, Or.inl rfl⟩

/-- The device after the cancellation of a confirmed commit. -/
abbrev NetconfDevice.cancelled (merge : Config → Edit → Config) (device : NetconfDevice Config)
    (txId : String) : NetconfDevice Config :=
  device.effect merge (.cancelCommit txId)

/-- The device that a rollback aims at, if its strategy and the device allow one. -/
inductive RollbackTarget (merge : Config → Edit → Config) (txId : String)
    (device : NetconfDevice Config) :
    Option TransactionStrategy → NetconfDevice Config → Prop where
  | cancel (awaits : device.Awaits txId) :
      RollbackTarget merge txId device (some .confirmedCommit) (device.cancelled merge txId)
  | discard : RollbackTarget merge txId device (some .candidateCommit) device.discarded

theorem does_rollbackCandidate (strategy : Option TransactionStrategy) (txId : String) :
    Does merge
      (NetconfBackend.rollbackCandidate strategy txId : SessionResult Config Edit Unit).run
      (fun result after => match result with
        | .ok _ => RollbackTarget merge txId device strategy after
        | .error _ => after = device ∨ RollbackTarget merge txId device strategy after)
      device := by
  by_cases confirmed : strategy = some .confirmedCommit
  · subst confirmed
    by_cases missing : txId.isEmpty
    · have session : (NetconfBackend.rollbackCandidate (some .confirmedCommit) txId :
          SessionResult Config Edit Unit) =
          throw (NetconfBackend.missingTxId "NETCONF cancel-commit requires tx_id as persist-id"
            "RollbackRequest.context.tx_id is empty") := by
        rw [NetconfBackend.rollbackCandidate, if_pos rfl]
        exact if_pos missing
      rw [session]
      exact Or.inl rfl
    · have session : (NetconfBackend.rollbackCandidate (some .confirmedCommit) txId :
          SessionResult Config Edit Unit) = (do
            let _ ← performOr .connect (orElse (adapterOperationError
              "NETCONF_CANCEL_COMMIT_FAILED" "NETCONF cancel-commit failed" true))
            performOr (.cancelCommit txId) (orElse (adapterOperationError
              "NETCONF_CANCEL_COMMIT_FAILED" "NETCONF cancel-commit failed" true))) := by
        rw [NetconfBackend.rollbackCandidate, if_pos rfl]
        exact if_neg missing
      rw [session]
      refine does_connect.bindResult ?_ ?_
      · rintro capability middle rfl
        refine does_performOr ?_ ?_ ?_
        · intro isLegal
          exact .cancel (NetconfDevice.awaits_iff_legal_cancel.mp isLegal)
        · intro raised _
          exact Or.inl rfl
        · intro raised _ isLegal
          exact Or.inr (.cancel (NetconfDevice.awaits_iff_legal_cancel.mp isLegal))
      · rintro error after rfl
        exact Or.inl rfl
  · by_cases candidate : strategy = some .candidateCommit
    · subst candidate
      refine does_connect.bindResult ?_ ?_
      · rintro capability middle rfl
        exact does_performOr (fun _ => .discard) (fun _ _ => Or.inl rfl)
          fun _ _ _ => Or.inr .discard
      · rintro error after rfl
        exact Or.inl rfl
    · have session : (NetconfBackend.rollbackCandidate strategy txId :
          SessionResult Config Edit Unit) =
          throw (NetconfBackend.strategyUnsupported "NETCONF_ROLLBACK_STRATEGY_UNSUPPORTED"
            "NETCONF rollback strategy is unsupported" "unsupported rollback strategy" strategy
            txId) := by
        rw [NetconfBackend.rollbackCandidate, if_neg confirmed]
        exact if_neg candidate
      rw [session]
      exact Or.inl rfl

theorem does_verifyRunning (desired : DeviceDesiredState) (changeSet : ChangeSet) :
    Does merge (backend.verifyRunning desired changeSet).run
      (fun result after => after = device ∧
        (result = .ok () → backend.scopeIsEmpty changeSet = true ∨
          backend.compare desired changeSet device.running.config = .ok ()))
      device := by
  unfold NetconfBackend.verifyRunning
  cases empty : backend.scopeIsEmpty changeSet with
  | true => exact ⟨rfl, fun _ => Or.inl rfl⟩
  | false =>
      refine does_connect.bindResult ?_ ?_
      · rintro capability middle rfl
        have reads : Does merge
            (performOr .readRunning (adapterOperationError "NETCONF_GET_CONFIG_FAILED"
              "NETCONF get-config running failed" true) : SessionResult Config Edit Config).run
            (fun result after => after = middle ∧
              ∀ config, result = .ok config → config = middle.running.config) middle := by
          refine does_performOr_quiet rfl ⟨rfl, fun config same => ?_⟩ fun _ _ => ⟨rfl, nofun⟩
          cases same
          rfl
        refine reads.bindResult ?_ ?_
        · rintro config after ⟨unchanged, isConfig⟩
          refine ⟨unchanged, fun accepted => Or.inr ?_⟩
          rw [← isConfig config rfl]
          exact accepted
        · rintro error after ⟨unchanged, -⟩
          exact ⟨unchanged, nofun⟩
      · rintro error after rfl
        exact ⟨rfl, nofun⟩

end Backend

/-! ## The driver -/

section Driver

variable {device : NetconfDevice Config} {backend : NetconfBackend Config Edit}

theorem does_resultOf {α : Type} {call : SessionResult Config Edit α} {success : α → AdapterResult}
    {middle : Except AdapterError α → NetconfDevice Config → Prop}
    {post : AdapterResult → NetconfDevice Config → Prop}
    (called : Does merge call.run middle device)
    (succeeds : ∀ value after, middle (.ok value) after → post (success value) after)
    (fails : ∀ error after, middle (.error error) after → post (failedResult error) after) :
    Does merge (resultOf call success) post device := by
  refine called.bind ?_
  rintro (error | value) after reached
  · exact fails error after reached
  · exact succeeds value after reached

/-- How a prepare may end. -/
inductive PrepareServed (merge : Config → Edit → Config) (backend : NetconfBackend Config Edit)
    (txId : String) (desired : DeviceDesiredState)
    (device : NetconfDevice Config) : AdapterResult → NetconfDevice Config → Prop where
  | prepared {edit : Edit} (rendered : backend.renderCandidateConfig desired = .ok edit) :
      PrepareServed merge backend txId desired device
        { status := .prepared
          preparedCandidateChecksum :=
            backend.checksum (device.edited merge txId edit).candidate.config }
        (device.edited merge txId edit)
  | failed {error : AdapterError} {after : NetconfDevice Config}
      (left : PreparationLeft merge backend txId desired device after) :
      PrepareServed merge backend txId desired device (failedResult error) after

theorem does_prepare (txId : String) (desired : DeviceDesiredState) :
    Does merge (NetconfDriver.prepare backend txId desired)
      (PrepareServed merge backend txId desired device) device := by
  cases supported : rejectUnsupportedBgpDesiredState desired with
  | error refused =>
      have session : NetconfDriver.prepare backend txId desired =
          (pure (failedResult refused) : Session Config Edit AdapterResult) := by
        simp only [NetconfDriver.prepare, supported]
        rfl
      rw [session]
      exact .failed (Or.inl (Or.inl rfl))
  | ok _ =>
      have session : NetconfDriver.prepare backend txId desired =
          resultOf (backend.prepareCandidate txId desired) fun checksum =>
            { status := .prepared, preparedCandidateChecksum := checksum } := by
        simp only [NetconfDriver.prepare, supported]
        rfl
      rw [session]
      refine does_resultOf (does_prepareCandidate txId desired) ?_ ?_
      · rintro checksum after ⟨edit, rendered, rfl, rfl⟩
        exact .prepared rendered
      · intro error after left
        exact .failed left

/-- The strategies under which the candidate is committed. -/
def CommitsCandidate (strategy : Option TransactionStrategy) : Prop :=
  strategy = some .confirmedCommit ∨ strategy = some .candidateCommit

instance (strategy : Option TransactionStrategy) : Decidable (CommitsCandidate strategy) :=
  inferInstanceAs (Decidable (_ ∨ _))

/-- The status of a commit. -/
def commitStatus (strategy : Option TransactionStrategy) : AdapterOperationStatus :=
  if strategy = some .confirmedCommit then .confirmedCommitPending else .committed

/-- How a commit may end. -/
inductive CommitServed (backend : NetconfBackend Config Edit) (txId : String)
    (strategy : Option TransactionStrategy) (preparedCandidateChecksum : Option String)
    (device : NetconfDevice Config) : AdapterResult → NetconfDevice Config → Prop where
  | committed {warnings : List String}
      (commits : CommitsCandidate strategy)
      (nonePending : device.pending = none)
      (checked : ∀ checksum, preparedCandidateChecksum = some checksum → checksum ≠ "" →
        backend.checksum device.candidate.config = checksum) :
      CommitServed backend txId strategy preparedCandidateChecksum device
        { status := commitStatus strategy, warnings := warnings }
        (device.committed strategy txId)
  | skipped {warnings : List String} (rollbackOnError : strategy = some .runningRollbackOnError) :
      CommitServed backend txId strategy preparedCandidateChecksum device
        { status := commitStatus strategy, warnings := warnings } device
  | failed {error : AdapterError} {after : NetconfDevice Config}
      (left : CommitLeft strategy txId device after) :
      CommitServed backend txId strategy preparedCandidateChecksum device (failedResult error) after

theorem does_commit (txId : String) (strategy : Option TransactionStrategy) (confirmTimeoutSecs : ℕ)
    (preparedCandidateChecksum : Option String) :
    Does merge
      (NetconfDriver.commit backend txId strategy confirmTimeoutSecs preparedCandidateChecksum)
      (CommitServed backend txId strategy preparedCandidateChecksum device) device := by
  cases validated : validatedConfirmTimeoutSecs strategy confirmTimeoutSecs with
  | error refused =>
      have session : NetconfDriver.commit backend txId strategy confirmTimeoutSecs
          preparedCandidateChecksum =
          (pure (failedResult refused) : Session Config Edit AdapterResult) := by
        simp only [NetconfDriver.commit, validated]
        rfl
      rw [session]
      exact .failed (Or.inl rfl)
  | ok _ =>
      have session : NetconfDriver.commit backend txId strategy confirmTimeoutSecs
          preparedCandidateChecksum =
          resultOf (backend.commitCandidate strategy txId confirmTimeoutSecs
            preparedCandidateChecksum)
            fun warnings => { status := commitStatus strategy, warnings := warnings } := by
        simp only [NetconfDriver.commit, validated]
        rfl
      rw [session]
      refine does_resultOf (does_commitCandidate strategy txId confirmTimeoutSecs
        preparedCandidateChecksum) ?_ ?_
      · intro warnings after outcome
        by_cases commits : strategy = some .confirmedCommit ∨ strategy = some .candidateCommit
        · rw [if_pos commits] at outcome
          rcases outcome with ⟨nonePending, rfl, checked⟩
          exact .committed commits nonePending checked
        · rw [if_neg commits] at outcome
          rcases outcome with ⟨rfl, onlyRollback⟩
          refine .skipped ?_
          by_contra other
          rcases onlyRollback other with ⟨error, isError⟩
          cases isError
      · intro error after outcome
        by_cases commits : strategy = some .confirmedCommit ∨ strategy = some .candidateCommit
        · rw [if_pos commits] at outcome
          exact .failed outcome
        · rw [if_neg commits] at outcome
          exact .failed (Or.inl outcome.1)

/-- How a rollback may end. -/
inductive RollbackServed (merge : Config → Edit → Config) (txId : String)
    (strategy : Option TransactionStrategy)
    (device : NetconfDevice Config) : AdapterResult → NetconfDevice Config → Prop where
  | rolledBack {after : NetconfDevice Config}
      (target : RollbackTarget merge txId device strategy after) :
      RollbackServed merge txId strategy device { status := .rolledBack } after
  | failed {error : AdapterError} {after : NetconfDevice Config}
      (left : after = device ∨ RollbackTarget merge txId device strategy after) :
      RollbackServed merge txId strategy device (failedResult error) after

theorem does_rollback (txId : String) (strategy : Option TransactionStrategy) :
    Does merge (NetconfDriver.rollback txId strategy : Session Config Edit AdapterResult)
      (RollbackServed merge txId strategy device) device := by
  refine does_resultOf (does_rollbackCandidate strategy txId) ?_ ?_
  · intro _ after target
    exact .rolledBack target
  · intro error after left
    exact .failed left

/-- How a confirmation may end. -/
inductive ConfirmServed (txId : String) (device : NetconfDevice Config) :
    AdapterResult → NetconfDevice Config → Prop where
  | committed (awaits : device.Awaits txId) :
      ConfirmServed txId device { status := .committed } device.confirmed
  | failed {error : AdapterError} {after : NetconfDevice Config}
      (left : after = device ∨ device.Awaits txId ∧ after = device.confirmed) :
      ConfirmServed txId device (failedResult error) after

theorem does_finalConfirmCall (txId : String) :
    Does merge (NetconfDriver.finalConfirm txId : Session Config Edit AdapterResult)
      (ConfirmServed txId device) device := by
  refine does_resultOf (does_finalConfirm txId) ?_ ?_
  · rintro _ after ⟨awaits, rfl⟩
    exact .committed awaits
  · rintro error after ⟨-, left⟩
    exact .failed left

theorem does_recoverConfirmedCommit (txId : String) :
    Does merge (NetconfDriver.recoverConfirmedCommit txId : Session Config Edit AdapterResult)
      (ConfirmServed txId device) device := by
  refine (does_finalConfirm txId).bind ?_
  rintro (error | _) after reached
  · rcases reached with ⟨plain, left⟩
    simp only [plain, Bool.false_eq_true, if_false]
    exact .failed left
  · rcases reached with ⟨awaits, rfl⟩
    exact .committed awaits

theorem does_verify (desired : DeviceDesiredState) (changeSet : ChangeSet) :
    Does merge (NetconfDriver.verify backend desired changeSet)
      (fun result after => after = device ∧
        (result.errors = [] → backend.scopeIsEmpty changeSet = true ∨
          backend.compare desired changeSet device.running.config = .ok ())) device := by
  cases supported : rejectUnsupportedBgpDesiredState desired with
  | error refused =>
      have session : NetconfDriver.verify backend desired changeSet =
          (pure (failedResult refused) : Session Config Edit AdapterResult) := by
        simp only [NetconfDriver.verify, supported]
        rfl
      rw [session]
      exact ⟨rfl, nofun⟩
  | ok _ =>
      have session : NetconfDriver.verify backend desired changeSet =
          resultOf (backend.verifyRunning desired changeSet) fun _ => { status := .noChange } := by
        simp only [NetconfDriver.verify, supported]
        rfl
      rw [session]
      refine does_resultOf (does_verifyRunning desired changeSet) ?_ ?_
      · rintro ⟨⟩ after ⟨unchanged, accepted⟩
        exact ⟨unchanged, fun _ => accepted rfl⟩
      · rintro error after ⟨unchanged, -⟩
        exact ⟨unchanged, nofun⟩

/-- How a recovery may end. -/
inductive RecoverServed (merge : Config → Edit → Config) (txId : String)
    (strategy : Option TransactionStrategy) (action : RecoveryAction)
    (device : NetconfDevice Config) : AdapterResult → NetconfDevice Config → Prop where
  | rollback {result : AdapterResult} {after : NetconfDevice Config}
      (retreats : action = .discardPreparedChanges ∨
        action = .adapterRecover ∧ ¬CommitsCandidate strategy)
      (served : RollbackServed merge txId strategy device result after) :
      RecoverServed merge txId strategy action device result after
  | confirm {result : AdapterResult} {after : NetconfDevice Config}
      (recovers : action = .adapterRecover)
      (confirmed : strategy = some .confirmedCommit)
      (served : ConfirmServed txId device result after) :
      RecoverServed merge txId strategy action device result after
  | refused {status : AdapterOperationStatus} {error : AdapterError}
      (unclear : status = .inDoubt ∨ status = .failed) :
      RecoverServed merge txId strategy action device { status := status, errors := [error] } device

theorem does_recover (txId : String) (strategy : Option TransactionStrategy)
    (action : RecoveryAction) :
    Does merge (NetconfDriver.recover txId strategy action : Session Config Edit AdapterResult)
      (RecoverServed merge txId strategy action device) device := by
  cases action with
  | noop => exact .refused (Or.inr rfl)
  | manualIntervention => exact .refused (Or.inr rfl)
  | discardPreparedChanges =>
      exact (does_rollback txId strategy).mono fun _ _ served => .rollback (Or.inl rfl) served
  | adapterRecover =>
      by_cases candidate : strategy = some .candidateCommit
      · subst candidate
        exact .refused (Or.inl rfl)
      · by_cases confirmed : strategy = some .confirmedCommit
        · subst confirmed
          exact (does_recoverConfirmedCommit txId).mono fun _ _ served => .confirm rfl rfl served
        · simp only [NetconfDriver.recover, if_neg candidate, if_neg confirmed]
          exact (does_rollback txId strategy).mono fun _ _ served =>
            .rollback (Or.inr ⟨rfl, not_or.mpr ⟨confirmed, candidate⟩⟩) served

end Driver

/-! ## Devices that do what they can -/

/-- A device on which every operation succeeds that its state does not forbid. -/
def obliging (merge : Config → Edit → Config) (refusal : String) :
    Program.Handler (netconfSignature Config Edit) (NetconfDevice Config) := fun op device =>
  if device.legal op then (.ok (device.value op), device.effect merge op)
  else (.error (.session "RPCError" refusal), device)

theorem obliging_conforms (refusal : String) (op : NetconfOp Edit) (device : NetconfDevice Config) :
    (netconfEnvironment merge).respond () device op (obliging merge refusal op device).1
      (obliging merge refusal op device).2 := by
  unfold obliging
  by_cases isLegal : device.legal op = true
  · rw [if_pos isLegal]
    exact ⟨isLegal, rfl, rfl⟩
  · rw [if_neg isLegal]
    refine ⟨?_, Or.inl rfl⟩
    cases op <;> rfl

/-- A device whose configuration is a text, to which edits are appended. -/
def appendEdit (config edit : String) : String := config ++ edit

/-- The backend of such a device.  An edit lists the VLANs of the desired state. -/
def textBackend (accepts : Bool) : NetconfBackend String String where
  configRenderer := some
    { productionReady := true
      renderEditConfig := fun desired =>
        .ok (String.join (desired.vlans.toList.map fun vlan => "vlan " ++ toString vlan.1 ++ ";"))
      isBlank := String.isEmpty }
  checksum := id
  scopeIsEmpty := fun _ => false
  compare := fun _ _ _ =>
    if accepts then .ok ()
    else .error
      { code := "NETCONF_VERIFY_FAILED"
        message := "running state differs"
        normalizedError := "running state differs"
        rawErrorSummary := ""
        retryable := false }

/-- A desired state with one VLAN. -/
def textDesired (vlanId : UInt16) : DeviceDesiredState where
  deviceId := "leaf-1"
  vlans := (∅ : BTreeMap UInt16 VlanConfig).insert vlanId
    { vlanId := vlanId, name := none, description := none }

def textDevice : NetconfDevice String where
  capabilities :=
    { supportsCandidate := true
      supportsWritableRunning := false
      supportsRollbackOnError := false }
  running := { config := "base;", authors := [] }
  candidate := { config := "base;", authors := [] }
  pending := none

end AriaUnderlay
