import AriaUnderlay.Api.ApplyCoordinator
import AriaUnderlay.Core.Custody

/-!
# The apply keeps the contract

An apply stores only records that may follow the durable one and asks its device only what the
durable phase permits.  The functions that are lent the record keep books: the record at hand, the
durable record and the history.  At an error the books have to be closable, so that the handler of
the failure may store its phase.
-/

namespace AriaUnderlay

open Collections Effect Fallible

/-! ## Books -/

/-- The record at hand, the durable one and the history. -/
structure Books where
  record : TxJournalRecord
  durable : TxJournalRecord
  events : List TxEvent

variable {error : UnderlayError} {record : TxJournalRecord} {phase : TxPhase} {site : PutSite}
  {code message : String} {device : DeviceInfo} {context : TxContext} {desired : DeviceDesiredState}
  {timeout : ℕ} {allowDegradedAtomicity : Bool} {plan : DryRunPlan}

section Conducts

variable {env : Environment coreSignature Thread World} {contract : Contract Thread World}
variable {thread : Thread} {txId : String} (custody : Custody env contract thread txId)
variable {α β : Type}

/-- From the given books the program leads to books that satisfy `post`. -/
def Conducts (program : Endpoint α) (post : Except UnderlayError α → Books → Prop)
    (books : Books) : Prop :=
  ∀ world, custody.holds books.durable books.events world →
    Ensures env contract thread (program.start books.record)
      (fun out later => ∃ after : Books, after.record = out.2 ∧
        custody.holds after.durable after.events later ∧ post out.1 after) world

variable {custody}
variable {program : Endpoint α} {post : Except UnderlayError α → Books → Prop} {books : Books}

theorem Conducts.mono {weak : Except UnderlayError α → Books → Prop}
    (conducts : Conducts custody program post books)
    (weaken : ∀ result after, post result after → weak result after) :
    Conducts custody program weak books := by
  intro world holds
  refine (conducts world holds).mono ?_
  rintro out later ⟨after, sameRecord, holdsLater, reached⟩
  exact ⟨after, sameRecord, holdsLater, weaken out.1 after reached⟩

theorem conducts_pure {value : α} (reached : post (.ok value) books) :
    Conducts custody (pure value) post books :=
  fun _ holds => ⟨books, rfl, holds, reached⟩

theorem conducts_throw (reached : post (.error error) books) :
    Conducts custody (throw error) post books :=
  fun _ holds => ⟨books, rfl, holds, reached⟩

theorem Conducts.bind {next : α → Endpoint β} {middle : Except UnderlayError α → Books → Prop}
    {post : Except UnderlayError β → Books → Prop} (first : Conducts custody program middle books)
    (success : ∀ value after, middle (.ok value) after → Conducts custody (next value) post after)
    (failure : ∀ error after, middle (.error error) after → post (.error error) after) :
    Conducts custody (program >>= next) post books := by
  intro world holds
  refine (first world holds).bindFallible ?_ ?_
  · rintro value record later ⟨after, rfl, holdsLater, reached⟩
    exact success value after reached later holdsLater
  · rintro error record later ⟨after, sameRecord, holdsLater, reached⟩
    exact ⟨after, sameRecord, holdsLater, failure error after reached⟩

/-- The sequencing rule with the weakest condition between the two programs. -/
theorem conducts_bind {next : α → Endpoint β} {post : Except UnderlayError β → Books → Prop}
    (conducts : Conducts custody program
      (fun result after => match result with
        | .ok value => Conducts custody (next value) post after
        | .error error => post (.error error) after) books) :
    Conducts custody (program >>= next) post books :=
  conducts.bind (fun _ _ continues => continues) fun _ _ failed => failed

theorem conducts_get {post : Except UnderlayError TxJournalRecord → Books → Prop}
    (reached : post (.ok books.record) books) :
    Conducts custody get post books :=
  fun _ holds => ⟨books, rfl, holds, reached⟩

theorem conducts_set {post : Except UnderlayError PUnit → Books → Prop}
    (reached : post (.ok ⟨⟩) { books with record := record }) :
    Conducts custody (set record) post books :=
  fun _ holds => ⟨{ books with record := record }, rfl, holds, reached⟩

theorem Conducts.outcome {program : Endpoint α}
    {post : Except UnderlayError (Except UnderlayError α) → Books → Prop}
    (conducts : Conducts custody program (fun result after => post (.ok result) after) books) :
    Conducts custody (outcome program) post books := by
  intro world holds
  rw [start_outcome]
  refine (conducts world holds).bind ?_
  rintro out later ⟨after, sameRecord, holdsLater, reached⟩
  exact ⟨after, sameRecord, holdsLater, reached⟩

/-- A lookup changes nothing. -/
theorem conducts_lookup {call : Core (Except UnderlayError α)}
    (ensured : ∀ world, custody.holds books.durable books.events world →
      Ensures env contract thread call
        (fun answer later => custody.holds books.durable books.events later ∧ post answer books)
        world) :
    Conducts custody (attempt call) post books := by
  intro world holds
  rw [start_attempt]
  refine (ensured world holds).bind ?_
  rintro answer later ⟨holdsLater, reached⟩
  exact ⟨books, rfl, holdsLater, reached⟩

theorem conducts_transitionPhase {post : Except UnderlayError TxJournalRecord → Books → Prop}
    (allowed : record.phase.isAllowed phase = true)
    (reached : ∀ now, post (.ok (record.withPhase phase now)) books) :
    Conducts custody (attempt (transitionPhase record phase)) post books := by
  refine conducts_lookup fun world holds => (custody.transitionPhase holds).mono ?_
  rintro answer later ⟨holdsLater, known⟩
  refine ⟨holdsLater, ?_⟩
  cases answer with
  | error error =>
      rw [allowed] at known
      exact nomatch known
  | ok updated =>
      obtain ⟨-, now, rfl⟩ := known
      exact reached now

theorem conducts_journalPut {post : Except UnderlayError Unit → Books → Prop}
    (follows : Follows books.events books.durable record)
    (stored : post (.ok ()) ⟨books.record, record, books.events ++ [.stored record]⟩)
    (refused : ∀ error, post (.error error) books) :
    Conducts custody (attempt (journalPut site record)) post books := by
  intro world holds
  rw [start_attempt]
  refine (custody.journalPut site record follows holds).bind fun answer later known => ?_
  cases answer with
  | ok _ => exact ⟨⟨books.record, record, books.events ++ [.stored record]⟩, rfl, known, stored⟩
  | error error => exact ⟨books, rfl, known, refused error⟩

theorem conducts_transitionTo {post : Except UnderlayError Unit → Books → Prop}
    (allowed : books.record.phase.isAllowed phase = true)
    (reached : ∀ now, post (.ok ()) { books with record := books.record.withPhase phase now }) :
    Conducts custody (transitionTo phase) post books := by
  refine conducts_bind (conducts_get ?_)
  refine conducts_bind (conducts_transitionPhase allowed fun now => ?_)
  exact conducts_set (reached now)

theorem conducts_putRecord {post : Except UnderlayError Unit → Books → Prop}
    (follows : Follows books.events books.durable books.record)
    (stored : post (.ok ())
      ⟨books.record, books.record, books.events ++ [.stored books.record]⟩)
    (refused : ∀ error, post (.error error) books) :
    Conducts custody (putRecord site) post books :=
  conducts_bind (conducts_get (conducts_journalPut follows stored refused))

theorem conducts_now {post : Except UnderlayError ℕ → Books → Prop}
    (reached : ∀ now, post (.ok now) books) :
    Conducts custody (always nowUnixSecs) post books := by
  intro world holds
  rw [start_always]
  exact (custody.nowUnixSecs holds).bind fun now later holdsLater =>
    ⟨books, rfl, holdsLater, reached now⟩

theorem conducts_recordError {post : Except UnderlayError Unit → Books → Prop}
    (reached : ∀ now, post (.ok ())
      { books with record := books.record.withError code message now }) :
    Conducts custody (recordError code message) post books := by
  refine conducts_bind (conducts_get ?_)
  refine conducts_bind (conducts_now fun now => ?_)
  exact conducts_set (reached now)

theorem conducts_adapterCall {call : AdapterCall}
    {post : Except UnderlayError AdapterAnswer → Books → Prop} (sameTx : context.txId = txId)
    (isDevice : device.id ∈ books.durable.devices)
    (permitted : CallPermitted books.events books.durable call)
    (reached : ∀ answer, post (.ok answer)
      { books with events := books.events ++ [.called device.id call answer] }) :
    Conducts custody (always (adapterCall device context call)) post books := by
  intro world holds
  rw [start_always]
  exact (custody.adapterCall device context call sameTx isDevice permitted holds).bind
    fun answer later holdsLater =>
      ⟨{ books with events := books.events ++ [.called device.id call answer] }, rfl, holdsLater,
        reached answer⟩

end Conducts

/-! ## What the books say at each stage -/

/-- The record at hand has been stored in the given phase. -/
structure Stage (first : TxJournalRecord) (phase : TxPhase) (books : Books) : Prop where
  record : first.SameSubject books.record
  durable : first.SameSubject books.durable
  recordPhase : books.record.phase = phase
  durablePhase : books.durable.phase = phase

/-- The handler of a failure may store the phase it stores. -/
structure Closable (first : TxJournalRecord) (books : Books) : Prop where
  record : first.SameSubject books.record
  durable : first.SameSubject books.durable
  allowed : books.durable.phase.isAllowed (failedApplyPhase books.record.phase) = true

/-- Success is described by `ok`; after a failure the books are closable. -/
def OrClosable {α : Type} (first : TxJournalRecord) (ok : α → Books → Prop) :
    Except UnderlayError α → Books → Prop
  | .ok value, books => ok value books
  | .error _, books => Closable first books

/-- The phases that an apply goes through up to the last confirmation. -/
def TxPhase.isUnderWay : TxPhase → Bool
  | .preparing | .prepared | .committing | .verifying | .finalConfirming => true
  | _ => false

theorem failedApplyPhase_of_isUnderWay (underWay : phase.isUnderWay = true) :
    failedApplyPhase phase = .failed := by
  cases phase <;> simp_all [TxPhase.isUnderWay, failedApplyPhase]

theorem isAllowed_failed (underWay : phase.isUnderWay = true) :
    phase.isAllowed .failed = true := by
  cases phase <;> simp_all [TxPhase.isUnderWay, TxPhase.isAllowed]

theorem isAllowed_rollingBack (underWay : phase.isUnderWay = true) :
    phase.isAllowed .rollingBack = true := by
  cases phase <;> simp_all [TxPhase.isUnderWay, TxPhase.isAllowed]

section Stages

variable {env : Environment coreSignature Thread World} {contract : Contract Thread World}
variable {thread : Thread} {txId : String} {custody : Custody env contract thread txId}
variable {α β : Type} {first : TxJournalRecord} {source target : TxPhase} {books : Books}

theorem Conducts.seq {program : Endpoint α} {next : α → Endpoint β} {middle : α → Books → Prop}
    {ok : β → Books → Prop} (conducts : Conducts custody program (OrClosable first middle) books)
    (success : ∀ value after, middle value after →
      Conducts custody (next value) (OrClosable first ok) after) :
    Conducts custody (program >>= next) (OrClosable first ok) books :=
  conducts.bind success fun _ _ closable => closable

theorem Stage.closable (stage : Stage first source books) (underWay : source.isUnderWay = true) :
    Closable first books := by
  refine ⟨stage.record, stage.durable, ?_⟩
  rw [stage.recordPhase, stage.durablePhase, failedApplyPhase_of_isUnderWay underWay]
  exact isAllowed_failed underWay

/-- Take the record to the next phase and store it. -/
theorem conducts_advance (stage : Stage first source books) (underWay : source.isUnderWay = true)
    (targetUnderWay : target.isUnderWay = true) (allowed : source.isAllowed target = true)
    (verified : target = .finalConfirming →
      verifiedAfterCommit first.changeSets books.events = true) :
    Conducts custody (transitionTo target >>= fun _ => putRecord site)
      (OrClosable first fun _ after => Stage first target after ∧
        ∃ record, after.events = books.events ++ [.stored record]) books := by
  refine conducts_bind (conducts_transitionTo (stage.recordPhase ▸ allowed) fun now => ?_)
  have same := stage.record.withPhase target now
  apply conducts_putRecord
  · refine stage.durable.follows same (stage.durablePhase ▸ allowed) ?_ fun committed => ?_
    · rw [same.changeSets_eq]
      exact verified
    · cases (committed : target = .committed)
      cases targetUnderWay
  · exact ⟨⟨same, same, rfl, rfl⟩, _, rfl⟩
  · refine fun error => ⟨same, stage.durable, ?_⟩
    rw [stage.durablePhase]
    change source.isAllowed (failedApplyPhase target) = true
    rw [failedApplyPhase_of_isUnderWay targetUnderWay]
    exact isAllowed_failed underWay

/-- Ask the device something that the durable phase permits. -/
theorem conducts_ask {call : AdapterCall} (stage : Stage first source books)
    (sameTx : context.txId = txId) (isDevice : device.id ∈ first.devices)
    (permitted : CallPermitted books.events books.durable call) :
    Conducts custody (always (adapterCall device context call))
      (OrClosable first fun answer after => Stage first source after ∧
        after.events = books.events ++ [.called device.id call answer]) books := by
  refine conducts_adapterCall sameTx (stage.durable.devices_eq ▸ isDevice) permitted ?_
  exact fun answer => ⟨⟨stage.record, stage.durable, stage.recordPhase, stage.durablePhase⟩, rfl⟩

/-! ## Rollback -/

/-- Store the outcome of a rollback. -/
theorem conducts_rollbackOutcome (record : first.SameSubject books.record)
    (durable : first.SameSubject books.durable) (rollingBack : books.durable.phase = .rollingBack)
    (outcome : books.record.phase = .rolledBack ∨ books.record.phase = .inDoubt) :
    Conducts custody (putRecord site) (fun _ after => Closable first after) books := by
  have allowed : books.durable.phase.isAllowed books.record.phase = true := by
    rcases outcome with reached | reached <;> rw [rollingBack, reached] <;> rfl
  have failed : failedApplyPhase books.record.phase = books.record.phase := by
    rcases outcome with reached | reached <;> rw [reached] <;> rfl
  apply conducts_putRecord
  · refine durable.follows record allowed (fun confirming => ?_) fun committed => ?_
    · rcases outcome with reached | reached <;> rw [reached] at confirming <;> cases confirming
    · rcases outcome with reached | reached <;> rw [reached] at committed <;> cases committed
  · exact ⟨record, record, by simp [failed, TxPhase.isAllowed]⟩
  · exact fun error => ⟨record, durable, by rw [failed]; exact allowed⟩

/-- Give the transaction up as undecided. -/
theorem conducts_inDoubt (stage : Stage first .rollingBack books) :
    Conducts custody
      (do transitionTo .inDoubt; recordError code message; putRecord site; throw error :
        Endpoint Unit)
      (fun _ after => Closable first after) books := by
  refine conducts_bind (conducts_transitionTo (by rw [stage.recordPhase]; rfl) fun now => ?_)
  refine conducts_bind (conducts_recordError fun later => ?_)
  have same := (stage.record.withPhase .inDoubt now).withError code message later
  refine Conducts.bind (conducts_rollbackOutcome same stage.durable stage.durablePhase (.inr rfl))
    ?_ ?_
  · exact fun _ after closable => conducts_throw closable
  · exact fun _ after closable => closable

theorem conducts_settleRollback {answer : AdapterAnswer} (stage : Stage first .rollingBack books) :
    Conducts custody (settleRollback answer) (fun _ after => Closable first after) books := by
  cases answer with
  | error error => exact conducts_inDoubt stage
  | ok outcome =>
      simp only [settleRollback]
      split
      · refine conducts_bind (conducts_transitionTo (by rw [stage.recordPhase]; rfl) fun now => ?_)
        exact conducts_rollbackOutcome (stage.record.withPhase .rolledBack now) stage.durable
          stage.durablePhase (.inl rfl)
      · exact conducts_inDoubt stage

theorem conducts_rollback (stage : Stage first source books) (underWay : source.isUnderWay = true)
    (sameTx : context.txId = txId) (isDevice : device.id ∈ first.devices) :
    Conducts custody (rollbackAfterEndpointFailure device context)
      (fun _ after => Closable first after) books := by
  have allowed := isAllowed_rollingBack underWay
  refine conducts_bind (conducts_get ?_)
  refine conducts_bind (conducts_transitionPhase (stage.recordPhase ▸ allowed) fun now => ?_)
  have same := stage.record.withPhase .rollingBack now
  refine conducts_bind (conducts_journalPut ?_ ?_ fun error => stage.closable underWay)
  · exact stage.durable.follows same (stage.durablePhase ▸ allowed) nofun nofun
  refine conducts_bind (conducts_set ?_)
  have rolling : Stage first .rollingBack
      ⟨books.record.withPhase .rollingBack now, books.record.withPhase .rollingBack now,
        books.events ++ [.stored (books.record.withPhase .rollingBack now)]⟩ :=
    ⟨same, same, rfl, rfl⟩
  refine Conducts.bind (conducts_ask rolling sameTx isDevice rfl) ?_ fun _ _ closable => closable
  exact fun answer after known => conducts_settleRollback known.1

theorem conducts_rollbackPreservingPrimary {primary : UnderlayError} {ok : Unit → Books → Prop}
    (stage : Stage first source books) (underWay : source.isUnderWay = true)
    (sameTx : context.txId = txId) (isDevice : device.id ∈ first.devices) :
    Conducts custody (rollbackAfterEndpointFailurePreservingPrimary device context primary)
      (OrClosable first ok) books := by
  refine conducts_bind (.outcome ((conducts_rollback stage underWay sameTx isDevice).mono ?_))
  intro result after closable
  cases result with
  | ok _ => exact conducts_throw closable
  | error rollbackError => exact conducts_throw closable

/-- Nothing that comes after the rollback of a failed step is ever run. -/
theorem conducts_rollbackThen {primary : UnderlayError} {next : Unit → Endpoint β}
    {ok : β → Books → Prop} (stage : Stage first source books)
    (underWay : source.isUnderWay = true) (sameTx : context.txId = txId)
    (isDevice : device.id ∈ first.devices) :
    Conducts custody
      (rollbackAfterEndpointFailurePreservingPrimary device context primary >>= next)
      (OrClosable first ok) books := by
  have rollsBack : Conducts custody
      (rollbackAfterEndpointFailurePreservingPrimary device context primary)
      (OrClosable first fun _ _ => False) books :=
    conducts_rollbackPreservingPrimary stage underWay sameTx isDevice
  exact rollsBack.seq fun _ _ impossible => impossible.elim

/-! ## Stages of the transaction -/

theorem conducts_prepareEndpoint (stage : Stage first .preparing books)
    (sameTx : context.txId = txId) (isDevice : device.id ∈ first.devices) :
    Conducts custody (prepareEndpoint device context desired)
      (OrClosable first fun _ after => Stage first .prepared after) books := by
  refine Conducts.seq (conducts_ask stage sameTx isDevice stage.durablePhase) ?_
  rintro answer after ⟨asked, -⟩
  cases answer with
  | error error =>
      exact conducts_rollbackThen asked rfl sameTx isDevice
  | ok prepare =>
      dsimp only
      split
      · exact conducts_rollbackThen asked rfl sameTx isDevice
      · rw [← bind_assoc]
        refine Conducts.seq (conducts_advance asked rfl rfl rfl nofun) ?_
        exact fun _ _ advanced => conducts_pure advanced.1

theorem conducts_commitEndpoint {strategy : TransactionStrategy} {checksum : Option String}
    (stage : Stage first .prepared books) (sameTx : context.txId = txId)
    (isDevice : device.id ∈ first.devices) :
    Conducts custody (commitEndpoint timeout device context strategy checksum)
      (OrClosable first fun _ after => Stage first .committing after ∧
        after.events.any TxEvent.isAcceptedCommit = true) books := by
  unfold commitEndpoint
  rw [← bind_assoc]
  refine Conducts.seq (conducts_advance stage rfl rfl rfl nofun) ?_
  rintro _ started ⟨committing, -⟩
  refine Conducts.seq (conducts_ask committing sameTx isDevice committing.durablePhase) ?_
  rintro answer after ⟨asked, events⟩
  cases answer with
  | error error =>
      exact conducts_rollbackThen asked rfl sameTx isDevice
  | ok commit =>
      dsimp only
      split
      case isTrue accepted =>
        refine conducts_pure ⟨asked, ?_⟩
        simp [events, TxEvent.isAcceptedCommit, AdapterCall.isAcceptedCommit, accepted]
      case isFalse =>
        exact conducts_rollbackThen asked rfl sameTx isDevice

variable {changeSet : ChangeSet} {deviceId : DeviceId} {report : DeviceVerifyReport}

theorem conducts_verifyEndpoint (stage : Stage first .committing books)
    (committed : books.events.any TxEvent.isAcceptedCommit = true)
    (isPlanned : changeSet ∈ first.changeSets) (sameTx : context.txId = txId)
    (isDevice : device.id ∈ first.devices) :
    Conducts custody (verifyEndpoint device context desired changeSet)
      (OrClosable first fun _ after => Stage first .verifying after ∧
        verifiedAfterCommit first.changeSets after.events = true) books := by
  unfold verifyEndpoint
  rw [← bind_assoc]
  refine Conducts.seq (conducts_advance stage rfl rfl rfl nofun) ?_
  rintro _ started ⟨verifying, record, stored⟩
  refine Conducts.seq (conducts_ask verifying sameTx isDevice (.inl verifying.durablePhase)) ?_
  rintro answer after ⟨asked, events⟩
  cases answer with
  | error error =>
      exact conducts_rollbackThen asked rfl sameTx isDevice
  | ok verify =>
      dsimp only
      split
      case isTrue accepted =>
        refine conducts_pure ⟨asked, ?_⟩
        rw [verifiedAfterCommit, events, stored, thenLater_append]
        simp [committed, TxEvent.isAcceptedVerify, AdapterCall.isAcceptedVerify, accepted,
          isPlanned]
      case isFalse =>
        exact conducts_rollbackThen asked rfl sameTx isDevice

theorem conducts_confirmOrFinalize {strategy : TransactionStrategy}
    (stage : Stage first .verifying books)
    (verified : verifiedAfterCommit first.changeSets books.events = true)
    (sameTx : context.txId = txId) (isDevice : device.id ∈ first.devices) :
    Conducts custody (confirmOrFinalize device context strategy)
      (OrClosable first fun _ after => Stage first .finalConfirming after ∧
        verifiedAfterCommit first.changeSets after.events = true) books := by
  unfold confirmOrFinalize
  split
  · unfold finalConfirmEndpoint
    rw [← bind_assoc]
    refine Conducts.seq (conducts_advance stage rfl rfl rfl fun _ => verified) ?_
    rintro _ started ⟨confirming, record, stored⟩
    refine Conducts.seq (conducts_ask confirming sameTx isDevice (.inl confirming.durablePhase)) ?_
    rintro answer after ⟨asked, events⟩
    have stillVerified : verifiedAfterCommit first.changeSets after.events = true := by
      rw [events, stored]
      exact verifiedAfterCommit_append (verifiedAfterCommit_append verified _) _
    cases answer with
    | error error => exact conducts_rollbackPreservingPrimary asked rfl sameTx isDevice
    | ok confirm =>
        dsimp only
        split
        · exact conducts_pure ⟨asked, stillVerified⟩
        · exact conducts_rollbackPreservingPrimary asked rfl sameTx isDevice
  · refine (conducts_advance stage rfl rfl rfl fun _ => verified).mono ?_
    rintro (error | _) after reached
    · exact reached
    · obtain ⟨confirming, record, stored⟩ := reached
      exact ⟨confirming, stored ▸ verifiedAfterCommit_append verified _⟩

theorem conducts_runStages {strategy : TransactionStrategy} (stage : Stage first .preparing books)
    (isPlanned : changeSet ∈ first.changeSets) (sameTx : context.txId = txId)
    (isDevice : device.id ∈ first.devices) :
    Conducts custody (runStages timeout device context strategy desired changeSet)
      (OrClosable first fun _ after => Stage first .finalConfirming after ∧
        verifiedAfterCommit first.changeSets after.events = true) books := by
  refine Conducts.seq (conducts_prepareEndpoint stage sameTx isDevice) fun checksum _ prepared => ?_
  refine Conducts.seq (conducts_commitEndpoint prepared sameTx isDevice) ?_
  rintro _ _ ⟨committing, committed⟩
  refine Conducts.seq
    (conducts_verifyEndpoint committing committed isPlanned sameTx isDevice) ?_
  rintro report _ ⟨verifying, verified⟩
  refine Conducts.seq (conducts_confirmOrFinalize verifying verified sameTx isDevice) ?_
  exact fun _ _ confirmed => conducts_pure confirmed

theorem conducts_selectStrategy (closable : Closable first books) :
    Conducts custody (selectStrategy deviceId allowDegradedAtomicity)
      (OrClosable first fun selected after => books = after ∧ selected.1.id = deviceId) books := by
  have looksUp : Conducts custody (attempt (inventoryGet .endpoint deviceId))
      (OrClosable first fun managed after => books = after ∧ managed.info.id = deviceId) books := by
    refine conducts_lookup fun world holds => (custody.inventoryGet holds).mono ?_
    rintro (error | managed) later ⟨holdsLater, named⟩
    · exact ⟨holdsLater, closable⟩
    · exact ⟨holdsLater, rfl, named managed rfl⟩
  refine looksUp.seq ?_
  rintro managed _ ⟨rfl, named⟩
  have connects : Conducts custody (attempt (adapterClient .endpoint managed.info.adapterEndpoint))
      (OrClosable first fun _ after => books = after) books := by
    refine conducts_lookup fun world holds => (custody.adapterClient holds).mono ?_
    rintro (error | _) later holdsLater
    · exact ⟨holdsLater, closable⟩
    · exact ⟨holdsLater, rfl⟩
  refine connects.seq ?_
  rintro _ _ rfl
  have learns : Conducts custody (attempt (endpointCapability managed))
      (OrClosable first fun _ after => books = after) books := by
    refine conducts_lookup fun world holds => ?_
    unfold endpointCapability
    split
    · exact ⟨holds, rfl⟩
    · refine (custody.getCapabilities holds).mono ?_
      rintro (error | _) later holdsLater
      · exact ⟨holdsLater, closable⟩
      · exact ⟨holdsLater, rfl⟩
  refine learns.seq ?_
  rintro capability _ rfl
  have admits : Conducts custody (attempt (.done
      (admitStrategy deviceId allowDegradedAtomicity capability.recommendedStrategy)))
      (OrClosable first fun _ after => books = after) books := by
    refine conducts_lookup fun world holds => ⟨holds, ?_⟩
    cases admitStrategy deviceId allowDegradedAtomicity capability.recommendedStrategy with
    | error error => exact closable
    | ok strategy => exact rfl
  refine admits.seq ?_
  rintro strategy _ rfl
  exact conducts_pure ⟨rfl, named⟩

theorem conducts_applyChangedEndpoint (stage : Stage first .preparing books)
    (isPlanned : changeSet ∈ first.changeSets) (sameTx : context.txId = txId)
    (isDevice : desired.deviceId ∈ first.devices) :
    Conducts custody
      (applyChangedEndpoint timeout context allowDegradedAtomicity desired changeSet)
      (OrClosable first fun _ after => Stage first .finalConfirming after ∧
        verifiedAfterCommit first.changeSets after.events = true) books := by
  refine Conducts.seq (conducts_selectStrategy (stage.closable rfl)) ?_
  rintro ⟨device, strategy⟩ _ ⟨rfl, named⟩
  refine conducts_bind (conducts_get ?_)
  refine conducts_bind (conducts_now fun now => ?_)
  refine conducts_bind (conducts_set ?_)
  have same := stage.record.withStrategy strategy now
  have unchanged : (books.record.withStrategy strategy now).phase = .preparing := stage.recordPhase
  refine conducts_bind (conducts_putRecord ?_ ?_ ?_)
  · refine stage.durable.follows same ?_ (fun confirming => ?_) fun committed => ?_
    · change books.durable.phase.isAllowed books.record.phase = true
      rw [stage.durablePhase, stage.recordPhase]
      rfl
    · exact nomatch unchanged.symm.trans confirming
    · exact nomatch unchanged.symm.trans committed
  · exact conducts_runStages ⟨same, same, unchanged, unchanged⟩ isPlanned sameTx (named ▸ isDevice)
  · refine fun error => ⟨same, stage.durable, ?_⟩
    change books.durable.phase.isAllowed (failedApplyPhase books.record.phase) = true
    rw [stage.durablePhase, stage.recordPhase]
    rfl

theorem conducts_applyChangedEndpointStates (stage : Stage first .preparing books)
    (planned : first.changeSets = plan.changeSets) (sameTx : context.txId = txId)
    (isDevice : desired.deviceId ∈ first.devices) :
    Conducts custody
      (applyChangedEndpointStates timeout [desired] plan context allowDegradedAtomicity)
      (OrClosable first fun _ after => Stage first .finalConfirming after ∧
        verifiedAfterCommit first.changeSets after.events = true) books := by
  have loops : Conducts custody
      (applyChangedEndpoints timeout plan context allowDegradedAtomicity [desired] none)
      (OrClosable first fun selected after => selected.elim (Closable first after) fun _ =>
        Stage first .finalConfirming after ∧
          verifiedAfterCommit first.changeSets after.events = true) books := by
    unfold applyChangedEndpoints
    cases found : plan.changeSetFor desired.deviceId with
    | none => exact conducts_throw (stage.closable rfl)
    | some changeSet =>
        have isPlanned : changeSet ∈ first.changeSets := planned ▸ List.mem_of_find?_eq_some found
        dsimp only
        split
        · exact conducts_pure (stage.closable rfl)
        · refine Conducts.seq (conducts_applyChangedEndpoint stage isPlanned sameTx isDevice) ?_
          exact fun _ _ confirmed => conducts_pure confirmed
  refine loops.seq fun selected after reached => ?_
  cases selected with
  | some outcome => exact conducts_pure reached
  | none => exact conducts_throw reached

/-! ## Closing the transaction -/

variable {durable : TxJournalRecord} {events : List TxEvent} {world : World}

theorem closes_transitionPhase {next : Except UnderlayError TxJournalRecord → Core β}
    (holds : custody.holds durable events world)
    (refused : ∀ error last,
      Ensures env contract thread (next (.error error)) (fun _ _ => True) last)
    (continues : ∀ now last, custody.holds durable events last →
      Ensures env contract thread (next (.ok (record.withPhase phase now)))
        (fun _ _ => True) last) :
    Ensures env contract thread (transitionPhase record phase >>= next)
      (fun _ _ => True) world := by
  refine (custody.transitionPhase holds).bind fun answer last known => ?_
  cases answer with
  | error error => exact refused error last
  | ok updated =>
      obtain ⟨holdsLast, -, now, rfl⟩ := known
      exact continues now last holdsLast

theorem closes_inDoubt {next : Except UnderlayError Unit → Core β} {now later : ℕ}
    (same : durable.SameSubject record) (committed : durable.phase = .committed)
    (holds : custody.holds durable events world)
    (continues : ∀ answer last, Ensures env contract thread (next answer) (fun _ _ => True) last) :
    Ensures env contract thread
      (journalPut site ((record.withPhase .inDoubt now).withError code message later) >>= next)
      (fun _ _ => True) world := by
  have follows : Follows events durable
      ((record.withPhase .inDoubt now).withError code message later) := by
    refine (TxJournalRecord.SameSubject.refl durable).follows
      ((same.withPhase .inDoubt now).withError code message later) ?_ nofun nofun
    rw [committed]
    rfl
  exact (custody.journalPut site _ follows holds).bind fun answer last _ => continues answer last

theorem closes_finishWithShadowFailure {strategy : TransactionStrategy} {warnings : List String}
    {failure : ShadowFailure} (same : durable.SameSubject record)
    (committed : durable.phase = .committed) (holds : custody.holds durable events world) :
    Ensures env contract thread
      (finishWithShadowFailure deviceId txId record strategy warnings report failure)
      (fun _ _ => True) world := by
  refine closes_transitionPhase holds (fun _ _ => trivial) fun now later holdsLater => ?_
  refine (custody.nowUnixSecs holdsLater).bind fun stamp last holdsLast => ?_
  refine closes_inDoubt same committed holdsLast fun answer _ => ?_
  cases answer <;> trivial

theorem closes_finishWithMissingChangeSet {strategy : TransactionStrategy}
    {warnings : List String} (same : durable.SameSubject record)
    (committed : durable.phase = .committed) (holds : custody.holds durable events world) :
    Ensures env contract thread
      (finishWithMissingChangeSet deviceId txId record strategy warnings report)
      (fun _ _ => True) world := by
  refine closes_transitionPhase holds (fun _ _ => trivial) fun now later holdsLater => ?_
  refine (custody.nowUnixSecs holdsLater).bind fun stamp last holdsLast => ?_
  exact closes_inDoubt same committed holdsLast fun _ _ => trivial

theorem closes_updateShadowAfterCommit {strategy : TransactionStrategy}
    (sameTx : context.txId = txId) (committed : record.phase = .committed)
    (holds : custody.holds record events world) :
    Ensures env contract thread
      (updateShadowAfterCommit desired plan context record strategy report)
      (fun _ _ => True) world := by
  subst sameTx
  have same := TxJournalRecord.SameSubject.refl record
  unfold updateShadowAfterCommit
  cases plan.changeSetFor desired.deviceId with
  | none => exact closes_finishWithMissingChangeSet same committed holds
  | some changeSet =>
      refine (custody.shadowGet holds).bind fun existing later holdsLater => ?_
      cases existing with
      | error error => exact closes_finishWithShadowFailure same committed holdsLater
      | ok existing =>
          refine (custody.shadowPut _ (.inr committed) holdsLater).bind fun answer last known => ?_
          cases answer with
          | error error => exact closes_finishWithShadowFailure same committed known
          | ok _ => trivial

theorem closes_finishSuccessfulApply {strategy : TransactionStrategy}
    (sameTx : context.txId = txId) (stage : Stage first .finalConfirming books)
    (verified : verifiedAfterCommit first.changeSets books.events = true)
    (holds : custody.holds books.durable books.events world) :
    Ensures env contract thread
      (finishSuccessfulApply desired plan context books.record strategy report)
      (fun _ _ => True) world := by
  refine (custody.nowUnixSecs holds).bind fun now later holdsLater => ?_
  refine closes_transitionPhase holdsLater (fun _ _ => trivial) fun stamp last holdsLast => ?_
  have same := (stage.record.withStrategy strategy now).withPhase .committed stamp
  have follows : Follows books.events books.durable
      ((books.record.withStrategy strategy now).withPhase .committed stamp) := by
    refine stage.durable.follows same (by rw [stage.durablePhase]; rfl) nofun fun _ => ?_
    exact .inl ⟨stage.durablePhase, by rw [same.changeSets_eq]; exact verified⟩
  refine (custody.journalPut .committed _ follows holdsLast).bind fun stored _ known => ?_
  cases stored with
  | error error => trivial
  | ok _ => exact closes_updateShadowAfterCommit sameTx rfl known

theorem closes_finishFailedApply (closable : Closable first books)
    (holds : custody.holds books.durable books.events world) :
    Ensures env contract thread (finishFailedApply desired context books.record error)
      (fun _ _ => True) world := by
  refine closes_transitionPhase holds (fun _ _ => trivial) fun now later holdsLater => ?_
  refine (custody.nowUnixSecs holdsLater).bind fun stamp last holdsLast => ?_
  have follows : Follows books.events books.durable
      ((books.record.withPhase (failedApplyPhase books.record.phase) now).withError
        (journalErrorFields error).1 (journalErrorFields error).2 stamp) := by
    refine closable.durable.follows ((closable.record.withPhase _ now).withError _ _ stamp)
      closable.allowed (fun confirming => ?_) fun committed => ?_
    · change failedApplyPhase books.record.phase = .finalConfirming at confirming
      cases phase : books.record.phase <;> rw [phase] at confirming <;> cases confirming
    · change failedApplyPhase books.record.phase = .committed at committed
      cases phase : books.record.phase <;> rw [phase] at committed <;> cases committed
  refine (custody.journalPut .failedApply _ follows holdsLast).bind fun stored _ _ => ?_
  cases stored <;> trivial

theorem closes_applyPrepared (sameTx : context.txId = txId)
    (preparing : record.phase = .preparing) (planned : record.changeSets = plan.changeSets)
    (isDevice : desired.deviceId ∈ record.devices) (holds : custody.holds record events world) :
    Ensures env contract thread
      (applyPrepared timeout desired plan context allowDegradedAtomicity record)
      (fun _ _ => True) world := by
  have stage : Stage record .preparing ⟨record, record, events⟩ :=
    ⟨.refl record, .refl record, preparing, preparing⟩
  have conducted : Conducts custody
      (applyChangedEndpointStates timeout [desired] plan context allowDegradedAtomicity)
      (OrClosable record fun _ after => Stage record .finalConfirming after ∧
        verifiedAfterCommit record.changeSets after.events = true) ⟨record, record, events⟩ :=
    conducts_applyChangedEndpointStates stage planned sameTx isDevice
  refine (conducted world holds).bind ?_
  rintro ⟨result, final⟩ later ⟨after, rfl, holdsLater, reached⟩
  cases result with
  | error error => exact closes_finishFailedApply reached holdsLater
  | ok outcome => exact closes_finishSuccessfulApply sameTx reached.1 reached.2 holdsLater

theorem closes_applyStarted (sameTx : context.txId = txId) (started : record.phase = .started)
    (planned : record.changeSets = plan.changeSets) (isDevice : desired.deviceId ∈ record.devices)
    (holds : custody.holds record events world) :
    Ensures env contract thread
      (applyStarted timeout desired plan context allowDegradedAtomicity record)
      (fun _ _ => True) world := by
  refine closes_transitionPhase holds (fun _ _ => trivial) fun now later holdsLater => ?_
  have same := TxJournalRecord.SameSubject.refl record
  have follows : Follows events record (record.withPhase .preparing now) :=
    same.follows (same.withPhase .preparing now) (by rw [started]; rfl) nofun nofun
  refine (custody.journalPut .preparing _ follows holdsLater).bind fun stored _ known => ?_
  cases stored with
  | error error => trivial
  | ok _ => exact closes_applyPrepared sameTx rfl planned isDevice known

end Stages

/-! ## The apply among other tasks -/

section Safe

variable {thread : Thread} {world : World} {devices : List DeviceId}

theorem mem_recoverableRecords {journal : BTreeMap String TxJournalRecord} {txId : String}
    (durable : journal[txId]? = some record) (requires : record.phase.requiresRecovery = true) :
    record ∈ recoverableRecords journal := by
  have isEntry : (txId, record) ∈ journal.toList :=
    Std.ExtTreeMap.mem_toList_iff_getElem?_eq_some.mpr durable
  exact List.mem_filter.mpr ⟨List.mem_map.mpr ⟨(txId, record), isEntry, rfl⟩, requires⟩

/-- If nothing is refused then no unresolved transaction occupies the devices. -/
theorem alone_of_refuseInDoubt
    (accepted : refuseInDoubt (recoverableRecords world.journal) devices = .ok ()) (txId : String) :
    world.Alone txId devices := by
  intro other record device durable requires isRecord isDevice
  have noneBlocks : inDoubtRecordsForDevices (recoverableRecords world.journal) devices = [] := by
    by_contra blocked
    simp [refuseInDoubt, blocked] at accepted
  have blocks : record ∈ inDoubtRecordsForDevices (recoverableRecords world.journal) devices := by
    simp only [inDoubtRecordsForDevices, List.mem_filter, List.any_eq_true, List.contains_iff_mem]
    exact ⟨⟨mem_recoverableRecords durable requires, requires⟩, device, isRecord, isDevice⟩
  rw [noneBlocks] at blocks
  cases blocks

theorem safe_ensureNoInDoubt (locked : world.Locked thread devices) :
    Safe thread (ensureNoInDoubtForDevices devices).run
      (fun answer later => answer = .ok () → Cleared thread devices later) world := by
  have lists : Safe thread listRecoverable
      (fun answer later => ∀ records, answer = .ok records →
        refuseInDoubt records devices = .ok () → Cleared thread devices later) world := by
    refine (safe_quiet rfl).mono ?_
    rintro answer later ⟨faithful, undisturbed, -⟩ records rfl accepted
    obtain rfl : records = recoverableRecords world.journal := faithful
    have cleared : Cleared thread devices world := ⟨locked, alone_of_refuseInDoubt accepted⟩
    exact cleared.stable undisturbed
  refine Ensures.bindResult lists ?_ ?_
  · exact fun records later cleared accepted => cleared records rfl accepted
  · exact fun error later _ impossible => nomatch impossible

/-- A call that is none of the transactions' business. -/
theorem safe_quiet_cleared {op : CoreOp} (quiet : op.isQuiet = true)
    (cleared : Cleared thread devices world) :
    Safe thread (interact op) (fun _ later => Cleared thread devices later) world :=
  (safe_quiet quiet).mono fun _ _ ⟨_, undisturbed, _⟩ => cleared.stable undisturbed

theorem safe_driftedDevices (deviceIds : List DeviceId) (cleared : Cleared thread devices world) :
    Safe thread (driftedDevices deviceIds).run
      (fun _ later => Cleared thread devices later) world := by
  induction deviceIds generalizing world with
  | nil => exact cleared
  | cons deviceId rest ih =>
      refine Ensures.bindResult (safe_quiet_cleared rfl cleared) ?_ fun _ _ still => still
      intro managed later still
      refine Ensures.bindResult (ih still) ?_ fun _ _ still => still
      exact fun drifted last still => still

theorem safe_ensureDriftPolicy {policy : DriftPolicy} (deviceIds : List DeviceId)
    (cleared : Cleared thread devices world) :
    Safe thread (ensureDriftPolicyAllowsApply deviceIds policy).run
      (fun _ later => Cleared thread devices later) world := by
  unfold ensureDriftPolicyAllowsApply
  split
  · exact cleared
  · refine Ensures.bindResult (safe_driftedDevices deviceIds cleared) ?_ fun _ _ still => still
    exact fun drifted later still => still

theorem safe_fetchCurrentStates (desiredStates : List DeviceDesiredState)
    (cleared : Cleared thread devices world) :
    Safe thread (fetchCurrentStates desiredStates).run
      (fun _ later => Cleared thread devices later) world := by
  induction desiredStates generalizing world with
  | nil => exact cleared
  | cons desired rest ih =>
      refine Ensures.bindResult (safe_quiet_cleared rfl cleared) ?_ fun _ _ still => still
      intro managed _ cleared
      refine Ensures.bindResult (safe_quiet_cleared rfl cleared) ?_ fun _ _ still => still
      intro _ _ cleared
      refine Ensures.bindResult (safe_quiet_cleared rfl cleared) ?_ fun _ _ still => still
      intro current _ cleared
      refine Ensures.bindResult (safe_quiet_cleared rfl cleared) ?_ fun _ _ still => still
      intro _ _ cleared
      refine Ensures.bindResult (ih cleared) ?_ fun _ _ still => still
      exact fun others _ still => still

/-- A plan for one device has changes for that device only. -/
theorem changeSets_of_buildDryRunPlan {currentStates : List DeviceShadowState}
    (built : buildDryRunPlan [desired] currentStates = .ok plan) :
    ∃ changeSet ∈ plan.changeSets, changeSet.deviceId = desired.deviceId := by
  simp only [buildDryRunPlan, List.mapM_cons, List.mapM_nil, bind_eq_ok] at built
  obtain ⟨changeSets, ⟨changeSet, computed, rest, -, listed⟩, planned⟩ := built
  obtain rfl : { changeSets := changeSets } = plan := Except.ok.inj planned
  obtain rfl : changeSet :: rest = changeSets := Except.ok.inj listed
  refine ⟨changeSet, List.mem_cons_self, ?_⟩
  split at computed
  · obtain rfl := Except.ok.inj computed
    rfl
  · cases computed

variable {traceId : String} {driftPolicy : DriftPolicy}

theorem safe_applyTransaction {requestId : String}
    (planned : ∃ changeSet ∈ plan.changeSets, changeSet.deviceId = desired.deviceId)
    (cleared : Cleared thread [desired.deviceId] world) :
    Safe thread
      (applyTransaction timeout requestId traceId desired plan allowDegradedAtomicity)
      (fun _ _ => True) world := by
  refine (safe_newTxId cleared).bind ?_
  rintro txId drawnWorld ⟨drawn, cleared⟩
  have stamps : ∀ {before : World}, Drawn thread txId before ∧
      Cleared thread [desired.deviceId] before →
      Safe thread nowUnixSecs (fun _ later => Drawn thread txId later ∧
        Cleared thread [desired.deviceId] later) before := by
    rintro before ⟨drawn, cleared⟩
    refine (safe_quiet rfl).mono ?_
    exact fun _ _ ⟨_, undisturbed, _⟩ => ⟨drawn.stable undisturbed, cleared.stable undisturbed⟩
  refine (stamps ⟨drawn, cleared⟩).bind fun startedAt _ ready => ?_
  refine (stamps ready).bind fun desiredAt _ ready => ?_
  refine (stamps ready).bind fun plannedAt readyWorld ready => ?_
  refine (safe_journalPut_opens ⟨rfl, rfl, List.cons_ne_nil _ _, ?_⟩ ready.1 ready.2).bind ?_
  · intro device isDevice
    obtain rfl : device = desired.deviceId := List.mem_singleton.mp isDevice
    exact planned
  · intro answer later owns
    cases answer with
    | error error => trivial
    | ok _ =>
        have holds : (ownership thread txId).holds _ _ later := owns _ rfl
        exact closes_applyStarted rfl rfl rfl List.mem_cons_self holds

theorem safe_applyUnderLock {requestId : String} (locked : world.Locked thread [desired.deviceId]) :
    Safe thread
      (applyUnderLock timeout requestId traceId desired allowDegradedAtomicity driftPolicy)
      (fun _ _ => True) world := by
  refine (safe_ensureNoInDoubt locked).bind fun answer _ cleared => ?_
  cases answer with
  | error error => trivial
  | ok _ =>
      refine (safe_ensureDriftPolicy [desired.deviceId] (cleared rfl)).bind ?_
      intro answer clearedWorld cleared
      cases answer with
      | error error => trivial
      | ok _ =>
          have fetches : Safe thread (dryRunDesiredStates [desired]).run
              (fun answer later => Cleared thread [desired.deviceId] later ∧
                ∀ plan, answer = .ok plan →
                  ∃ changeSet ∈ plan.changeSets, changeSet.deviceId = desired.deviceId)
              clearedWorld := by
            refine Ensures.bindResult (safe_fetchCurrentStates [desired] cleared) ?_ ?_
            · exact fun states later still =>
                ⟨still, fun plan built => changeSets_of_buildDryRunPlan built⟩
            · exact fun error later still => ⟨still, fun plan impossible => nomatch impossible⟩
          refine fetches.bind ?_
          rintro (error | plan) later ⟨cleared, planned⟩
          · trivial
          · dsimp only
            split
            · trivial
            · exact safe_applyTransaction (planned plan rfl) cleared

/-- An apply keeps the contract of the tasks. -/
theorem safe_applySingleEndpointState {requestId : String} :
    Safe thread
      (applySingleEndpointState timeout requestId traceId desired allowDegradedAtomicity
        driftPolicy)
      (fun _ _ => True) world := by
  refine (safe_acquireWithPolicy (List.cons_ne_nil _ _)).bind fun answer later locked => ?_
  cases answer with
  | error error => trivial
  | ok _ =>
      refine (safe_applyUnderLock (locked _ rfl)).bind fun result _ _ => ?_
      exact safe_release.bind fun _ _ _ => trivial

theorem safe_applyDesiredStates {requestId : String} (desiredStates : List DeviceDesiredState) :
    Safe thread
      (applyDesiredStates timeout requestId traceId allowDegradedAtomicity driftPolicy
        desiredStates)
      (fun _ _ => True) world := by
  induction desiredStates generalizing world with
  | nil => trivial
  | cons desired rest ih =>
      refine safe_applySingleEndpointState.bind fun result _ _ => ?_
      exact ih.bind fun _ _ _ => trivial

end Safe

end AriaUnderlay
