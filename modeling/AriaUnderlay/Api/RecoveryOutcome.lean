import AriaUnderlay.Api.RecoveryCoordinator
import AriaUnderlay.Core.Custody

/-!
# What recovery concludes

Recovery asks the devices of a record one after the other.  The calls to one device form a segment
of the history, and the answer to the last call of a segment is the verdict on the device.  The
record is settled as committed or rolled back only if the verdicts on all devices agree.

The rules of custody are all that is used, so the results hold for recovery among other tasks as
well as for recovery that runs alone.
-/

namespace AriaUnderlay

open Collections Effect

/-! ## Verdicts -/

/-- What the answer to a call says about the device. -/
def TxEvent.verdict : TxEvent → Option TxPhase
  | .called _ .finalConfirm (.ok outcome) =>
      if outcome.status = .committed then some .committed else none
  | .called _ (.verify _ _) (.ok outcome) =>
      if isVerifyAccepted outcome.status then some .committed else none
  | .called _ (.recover _ action) (.ok outcome) =>
      if outcome.status = .rolledBack ∨
          outcome.status = .noChange ∧ action = .discardPreparedChanges then some .rolledBack
      else if outcome.status = .committed ∧ action = .adapterRecover then some .committed
      else none
  | _ => none

/-- The answer to the last call counts. -/
def verdict (segment : List TxEvent) : Option TxPhase :=
  segment.getLast?.bind TxEvent.verdict

/-- The phase that settles a record, if there is one. -/
def settled : Except UnderlayError TxPhase → Option TxPhase
  | .ok .committed => some .committed
  | .ok .rolledBack => some .rolledBack
  | _ => none

/-- The phases in which recovery leaves a record. -/
def TxPhase.isRecoveryOutcome : TxPhase → Bool
  | .committed | .rolledBack | .inDoubt => true
  | _ => false

@[simp]
theorem verdict_nil : verdict [] = none := rfl

@[simp]
theorem verdict_append_singleton (segment : List TxEvent) (event : TxEvent) :
    verdict (segment ++ [event]) = event.verdict := by
  simp [verdict]

/-- Calls that came to nothing leave the verdict to the calls after them. -/
theorem verdict_append {earlier : List TxEvent} (nothing : verdict earlier = none)
    (later : List TxEvent) :
    verdict (earlier ++ later) = verdict later := by
  unfold verdict at *
  rw [List.getLast?_append]
  cases last : later.getLast? with
  | none => simpa using nothing
  | some event => rfl

theorem isRecoveryOutcome_recoverPhaseFromAdapterStatus (action : RecoveryAction)
    (status : AdapterOperationStatus) :
    (recoverPhaseFromAdapterStatus action status).isRecoveryOutcome = true := by
  cases status <;> cases action <;> rfl

/-- The phase read off an answer to a recovery is the verdict on the device. -/
theorem settled_recoverPhaseFromAdapterStatus (device : DeviceId)
    (strategy : Option TransactionStrategy) (action : RecoveryAction) (outcome : AdapterOutcome) :
    settled (.ok (recoverPhaseFromAdapterStatus action outcome.status)) =
      (TxEvent.called device (.recover strategy action) (.ok outcome)).verdict := by
  rcases outcome with ⟨status, warnings, checksum⟩
  cases status <;> cases action <;> rfl

/-! ## The calls of recovery -/

/-- What recovery may ask a device of a record. -/
inductive RecoveryCall (record : TxJournalRecord) (action : RecoveryAction)
    (device : DeviceId) : AdapterCall → Prop where
  | recover : RecoveryCall record action device (.recover record.strategy action)
  | finalConfirm
      (confirming : record.phase = .finalConfirming)
      (confirmed : record.strategy = some .confirmedCommit) :
      RecoveryCall record action device .finalConfirm
  | verify {desired : DeviceDesiredState} {changeSet : ChangeSet}
      (confirming : record.phase = .finalConfirming)
      (confirmed : record.strategy = some .confirmedCommit)
      (wanted : desiredStateForRecord record device = some desired)
      (planned : changeSetForRecord record device = some changeSet) :
      RecoveryCall record action device (.verify desired changeSet)

/-- The events are calls of recovery to one device. -/
def Segment (record : TxJournalRecord) (action : RecoveryAction) (device : DeviceId)
    (segment : List TxEvent) : Prop :=
  ∀ event ∈ segment, ∃ call answer, event = .called device call answer ∧
    RecoveryCall record action device call

/-- The durable record is the one that recovery has taken up. -/
structure Recovering (record durable : TxJournalRecord) (events : List TxEvent) : Prop where
  phase_eq : durable.phase = .recovering
  strategy_eq : durable.strategy = record.strategy
  devices_eq : durable.devices = record.devices
  before : phaseBefore events = some record.phase

variable {call : AdapterCall} {phase : TxPhase} {record : TxJournalRecord} {code lead : String}
  {results : List (Except UnderlayError TxPhase)} {segments : List (List TxEvent)}

section Segments

variable {durable : TxJournalRecord} {action : RecoveryAction} {device : DeviceId}
variable {events earlier later segment : List TxEvent}

theorem Segment.nil : Segment record action device [] :=
  fun _ isMember => nomatch isMember

theorem Segment.append (first : Segment record action device earlier)
    (second : Segment record action device later) :
    Segment record action device (earlier ++ later) := by
  intro event isMember
  rcases List.mem_append.mp isMember with isEarlier | isLater
  · exact first event isEarlier
  · exact second event isLater

theorem Segment.single (asked : RecoveryCall record action device call) (answer : AdapterAnswer) :
    Segment record action device [.called device call answer] := by
  intro event isMember
  obtain rfl := List.mem_singleton.mp isMember
  exact ⟨call, answer, rfl, asked⟩

theorem Segment.record?_eq_none (isSegment : Segment record action device segment) :
    ∀ event ∈ segment, event.record? = none := by
  intro event isMember
  obtain ⟨call, answer, rfl, -⟩ := isSegment event isMember
  rfl

/-- Calls do not change which record is durable, nor the one before it. -/
theorem phaseBefore_append_calls (calls : ∀ event ∈ later, event.record? = none) :
    phaseBefore (events ++ later) = phaseBefore events := by
  induction later using List.reverseRecOn with
  | nil => simp
  | append_singleton later event ih =>
      have isCall : event.record? = none := calls event (by simp)
      rw [← List.append_assoc, phaseBefore_append, isCall]
      exact ih fun other isOther => calls other (by simp [isOther])

theorem sinceStored_append_calls (calls : ∀ event ∈ later, event.record? = none) :
    sinceStored (events ++ later) = sinceStored events ++ later := by
  induction later using List.reverseRecOn with
  | nil => simp
  | append_singleton later event ih =>
      have isCall : event.record? = none := calls event (by simp)
      rw [← List.append_assoc, sinceStored_append, isCall,
        ih fun other isOther => calls other (by simp [isOther])]
      simp

theorem Recovering.append (recovering : Recovering record durable events)
    (calls : ∀ event ∈ later, event.record? = none) :
    Recovering record durable (events ++ later) :=
  { recovering with before := (phaseBefore_append_calls calls).trans recovering.before }

theorem RecoveryCall.permitted (asked : RecoveryCall record action device call)
    (recovering : Recovering record durable events) :
    CallPermitted events durable call := by
  cases asked with
  | recover => exact ⟨recovering.phase_eq, recovering.strategy_eq.symm⟩
  | finalConfirm confirming => exact .inr ⟨recovering.phase_eq, confirming ▸ recovering.before⟩
  | verify confirming => exact .inr ⟨recovering.phase_eq, confirming ▸ recovering.before⟩

/-- A device on which the verdict is committed was reported to carry the change. -/
theorem Segment.reported (isSegment : Segment record action device segment)
    (committed : verdict segment = some .committed) :
    Reported segment record device := by
  obtain ⟨event, isLast, meaning⟩ := Option.bind_eq_some_iff.mp committed
  have isMember : event ∈ segment := List.mem_of_getLast? isLast
  obtain ⟨call, answer, rfl, asked⟩ := isSegment event isMember
  refine ⟨call, answer, isMember, ?_⟩
  cases answer with
  | error error => cases asked <;> simp [TxEvent.verdict] at meaning
  | ok outcome =>
      cases asked with
      | finalConfirm => simpa [TxEvent.verdict, AdapterCall.reportsCommitted] using meaning
      | verify confirming confirmed wanted planned =>
          have isPlanned := List.mem_of_find?_eq_some planned
          simp only [TxEvent.verdict, Option.ite_none_right_eq_some] at meaning
          simp [AdapterCall.reportsCommitted, AdapterCall.isAcceptedVerify, meaning.1, isPlanned]
      | recover =>
          simp only [TxEvent.verdict] at meaning
          split at meaning
          · cases meaning
          · split at meaning
            case isTrue reported =>
              obtain ⟨status, rfl⟩ := reported
              simpa [AdapterCall.reportsCommitted] using status
            case isFalse => cases meaning

end Segments

/-! ## One device -/

section Examine

variable {env : Environment coreSignature Thread World} {contract : Contract Thread World}
variable {thread : Thread} {txId : String} {custody : Custody env contract thread txId}
variable {durable : TxJournalRecord} {action : RecoveryAction}
variable {device : DeviceInfo} {context : TxContext} {events : List TxEvent} {world : World}

theorem ensures_ask (recovering : Recovering record durable events) (sameTx : context.txId = txId)
    (isDevice : device.id ∈ record.devices) (asked : RecoveryCall record action device.id call)
    (holds : custody.holds durable events world) :
    Ensures env contract thread (adapterCall device context call)
      (fun answer later =>
        custody.holds durable (events ++ [.called device.id call answer]) later) world :=
  custody.adapterCall device context call sameTx (recovering.devices_eq ▸ isDevice)
    (asked.permitted recovering) holds

/-- The calls made so far, with what `known` says of them and of the result. -/
def Asked {α : Type} (custody : Custody env contract thread txId) (record durable : TxJournalRecord)
    (action : RecoveryAction) (device : DeviceId) (events : List TxEvent)
    (known : α → List TxEvent → Prop) (result : α) (later : World) : Prop :=
  ∃ segment, Segment record action device segment ∧
    custody.holds durable (events ++ segment) later ∧ known result segment

variable {deviceId : DeviceId}

/-- The calls that come first do not matter once others have been made. -/
theorem Asked.prepend {α : Type} {known weak : α → List TxEvent → Prop} {result : α}
    {later : World} {earlier : List TxEvent} (isSegment : Segment record action deviceId earlier)
    (asked : Asked custody record durable action deviceId (events ++ earlier) known result later)
    (weaken : ∀ segment, known result segment → weak result (earlier ++ segment)) :
    Asked custody record durable action deviceId events weak result later := by
  obtain ⟨segment, isRest, holds, knows⟩ := asked
  exact ⟨earlier ++ segment, isSegment.append isRest, List.append_assoc .. ▸ holds,
    weaken segment knows⟩

/-- What the answer to a recovery that may be tried again tells. -/
def Retried (action : RecoveryAction) : Except UnderlayError AdapterOutcome → List TxEvent → Prop
  | .ok outcome, segment =>
      verdict segment = settled (.ok (recoverPhaseFromAdapterStatus action outcome.status))
  | .error _, segment => verdict segment = none

theorem ensures_recoverWithTransportRetry (attempts : ℕ)
    (recovering : Recovering record durable events) (sameTx : context.txId = txId)
    (isDevice : device.id ∈ record.devices) (holds : custody.holds durable events world) :
    Ensures env contract thread
      (recoverWithTransportRetry device context record.strategy action attempts).run
      (Asked custody record durable action device.id events (Retried action)) world := by
  induction attempts generalizing events world with
  | zero => exact ⟨[], .nil, by simpa using holds, rfl⟩
  | succ attempts ih =>
      unfold recoverWithTransportRetry
      refine Ensures.bindResult (custody.adapterClient holds) ?_ ?_
      · intro _ connected holds
        refine Ensures.bindLift (ensures_ask recovering sameTx isDevice .recover holds) ?_
        intro answer answered holds
        have isSegment : Segment record action device.id
            [.called device.id (.recover record.strategy action) answer] :=
          .single .recover answer
        split
        · exact ⟨_, isSegment, holds,
            (settled_recoverPhaseFromAdapterStatus device.id record.strategy action _).symm⟩
        · split
          · exact ⟨_, isSegment, holds, rfl⟩
          · refine (ih (recovering.append isSegment.record?_eq_none) holds).mono ?_
            intro result later asked
            refine asked.prepend isSegment fun segment knows => ?_
            cases result with
            | ok outcome => exact (verdict_append rfl segment).trans knows
            | error error => exact (verdict_append rfl segment).trans knows
        · exact ⟨_, isSegment, holds, rfl⟩
      · exact fun error later holds => ⟨[], .nil, by simpa using holds, rfl⟩

/-- What an examination of a device ends with. -/
def Examined (result : Except UnderlayError TxPhase) (segment : List TxEvent) : Prop :=
  settled result = verdict segment ∧ ∀ phase, result = .ok phase → phase.isRecoveryOutcome = true

theorem ensures_recoverDevice (recovering : Recovering record durable events)
    (sameTx : context.txId = txId) (isDevice : deviceId ∈ record.devices)
    (holds : custody.holds durable events world) :
    Ensures env contract thread (recoverDevice record context action deviceId).run
      (Asked custody record durable action deviceId events Examined) world := by
  refine Ensures.bindResult (custody.inventoryGet holds) ?_ ?_
  · rintro managed later ⟨holds, named⟩
    obtain rfl := named managed rfl
    refine Ensures.bindResult
      (ensures_recoverWithTransportRetry _ recovering sameTx isDevice holds) ?_ ?_
    · rintro outcome last ⟨segment, isSegment, holds, knows⟩
      refine ⟨segment, isSegment, holds, knows.symm, ?_⟩
      rintro phase same
      obtain rfl := Except.ok.inj same
      exact isRecoveryOutcome_recoverPhaseFromAdapterStatus action outcome.status
    · rintro error last ⟨segment, isSegment, holds, knows⟩
      exact ⟨segment, isSegment, holds, knows.symm, nofun⟩
  · rintro error later ⟨holds, -⟩
    exact ⟨[], .nil, by simpa using holds, rfl, nofun⟩

/-- What a verification that proved something, or nothing, tells. -/
def Verified : Option String → List TxEvent → Prop
  | none, segment => verdict segment = some .committed
  | some _, segment => verdict segment = none

theorem ensures_verifyForRecovery (confirming : record.phase = .finalConfirming)
    (confirmed : record.strategy = some .confirmedCommit)
    (recovering : Recovering record durable events) (sameTx : context.txId = txId)
    (isDevice : device.id ∈ record.devices) (holds : custody.holds durable events world) :
    Ensures env contract thread (verifyForRecovery record context device device.id)
      (Asked custody record durable .adapterRecover device.id events Verified) world := by
  unfold verifyForRecovery
  split
  · rename_i desired changeSet wanted planned
    have asked : RecoveryCall record .adapterRecover device.id (.verify desired changeSet) :=
      .verify confirming confirmed wanted planned
    refine (ensures_ask recovering sameTx isDevice asked holds).bind ?_
    intro answer later holds
    cases answer with
    | error error => exact ⟨_, .single asked _, holds, rfl⟩
    | ok verify =>
        dsimp only
        split
        case isTrue accepted =>
          refine ⟨_, .single asked _, holds, ?_⟩
          simp [Verified, verdict, TxEvent.verdict, isVerifyAccepted, accepted]
        case isFalse rejected =>
          refine ⟨_, .single asked _, holds, ?_⟩
          simp [Verified, verdict, TxEvent.verdict, isVerifyAccepted, rejected]
  · exact ⟨[], .nil, by simpa using holds, rfl⟩

theorem ensures_recoverUnproved {confirmSummary verifySummary : String}
    (recovering : Recovering record durable events) (sameTx : context.txId = txId)
    (isDevice : device.id ∈ record.devices) (holds : custody.holds durable events world) :
    Ensures env contract thread
      (recoverUnproved record context device device.id confirmSummary verifySummary).run
      (Asked custody record durable .adapterRecover device.id events Examined) world := by
  refine Ensures.bindLift (ensures_recoverWithTransportRetry _ recovering sameTx isDevice holds) ?_
  rintro (error | outcome) later ⟨segment, isSegment, holds, knows⟩
  · exact ⟨segment, isSegment, holds, knows.symm, nofun⟩
  · dsimp only
    split
    · refine ⟨segment, isSegment, holds, knows.symm, ?_⟩
      intro phase same
      obtain rfl := Except.ok.inj same
      exact isRecoveryOutcome_recoverPhaseFromAdapterStatus _ outcome.status
    · rename_i unsettled
      refine ⟨segment, isSegment, holds, ?_, nofun⟩
      rw [knows]
      generalize recoverPhaseFromAdapterStatus .adapterRecover outcome.status = phase at unsettled
      cases phase <;> simp_all [settled]

theorem ensures_recoverFinalConfirmingDevice (confirming : record.phase = .finalConfirming)
    (confirmed : record.strategy = some .confirmedCommit)
    (recovering : Recovering record durable events) (sameTx : context.txId = txId)
    (isDevice : deviceId ∈ record.devices) (holds : custody.holds durable events world) :
    Ensures env contract thread (recoverFinalConfirmingDevice record context deviceId).run
      (Asked custody record durable .adapterRecover deviceId events Examined) world := by
  refine Ensures.bindResult (custody.inventoryGet holds) ?_ ?_
  · rintro managed later ⟨holds, named⟩
    obtain rfl := named managed rfl
    refine Ensures.bindResult (custody.adapterClient holds) ?_ ?_
    · intro _ connected holds
      have asked : RecoveryCall record .adapterRecover managed.info.id .finalConfirm :=
        .finalConfirm confirming confirmed
      refine Ensures.bindLift (ensures_ask recovering sameTx isDevice asked holds) ?_
      intro answer answered holds
      have confirms : Segment record .adapterRecover managed.info.id
          [.called managed.info.id .finalConfirm answer] := .single asked answer
      split
      · rename_i committed
        refine ⟨_, confirms, holds, ?_, ?_⟩
        · cases answer <;> simp_all [settled, verdict, TxEvent.verdict, Except.toOption]
        · rintro phase same
          obtain rfl := Except.ok.inj same
          rfl
      · rename_i unconfirmed
        have nothing : verdict [.called managed.info.id .finalConfirm answer] = none := by
          cases answer <;> simp_all [verdict, TxEvent.verdict, Except.toOption]
        have still := recovering.append confirms.record?_eq_none
        refine Ensures.bindLift
          (ensures_verifyForRecovery confirming confirmed still sameTx isDevice holds) ?_
        rintro (_ | verifySummary) verifiedWorld ⟨segment, verifies, holds, knows⟩
        · refine ⟨_, confirms.append verifies, by simpa using holds, ?_, ?_⟩
          · rw [verdict_append nothing, knows]
            rfl
          · rintro phase same
            obtain rfl := Except.ok.inj same
            rfl
        · refine (ensures_recoverUnproved (still.append verifies.record?_eq_none) sameTx isDevice
            holds).mono fun result last asked => ?_
          rw [List.append_assoc] at asked
          refine asked.prepend (confirms.append verifies) ?_
          rintro rest ⟨agrees, outcomes⟩
          rw [List.append_assoc]
          exact ⟨by rw [verdict_append nothing, verdict_append knows, agrees], outcomes⟩
    · exact fun error later holds => ⟨[], .nil, by simpa using holds, rfl, nofun⟩
  · rintro error later ⟨holds, -⟩
    exact ⟨[], .nil, by simpa using holds, rfl, nofun⟩

end Examine

/-! ## All devices -/

/-- What the loop over the devices has gathered from the results. -/
structure RecoveryProgress.Gathers (progress : RecoveryProgress)
    (results : List (Except UnderlayError TxPhase)) : Prop where
  merged : ∀ phase, phase ≠ .inDoubt →
    (progress.mergedPhase = some phase ↔ results ≠ [] ∧ ∀ result ∈ results, result = .ok phase)
  empty : progress.mergedPhase = none ↔ results = []
  failures : progress.failures = [] ↔ ∀ result ∈ results, ∃ phase, result = .ok phase

section Gathers

variable {progress : RecoveryProgress}

theorem RecoveryProgress.gathers_nil : RecoveryProgress.Gathers {} [] where
  merged := by simp
  empty := by simp
  failures := by simp

theorem mergeRecoveryPhase_eq_iff {current : Option TxPhase} {next : TxPhase}
    (decided : phase ≠ .inDoubt) :
    mergeRecoveryPhase current next = phase ↔
      next = phase ∧ (current = none ∨ current = some phase) := by
  cases current with
  | none => simp [mergeRecoveryPhase]
  | some present =>
      simp only [mergeRecoveryPhase, reduceCtorEq, false_or, Option.some.injEq]
      split
      case isTrue same =>
        subst same
        simp
      case isFalse differ =>
        constructor
        · exact fun doubt => absurd doubt.symm decided
        · rintro ⟨rfl, rfl⟩
          exact absurd rfl differ

theorem RecoveryProgress.Gathers.add (gathers : progress.Gathers results) (deviceId : DeviceId)
    (result : Except UnderlayError TxPhase) :
    (progress.add deviceId result).Gathers (results ++ [result]) := by
  have earlier : ∀ phase, phase ≠ .inDoubt →
      (progress.mergedPhase = none ∨ progress.mergedPhase = some phase ↔
        ∀ found ∈ results, found = .ok phase) := by
    intro phase decided
    rw [gathers.empty, gathers.merged phase decided]
    by_cases empty : results = []
    · simp [empty]
    · simp [empty]
  cases result with
  | ok next =>
      refine ⟨fun phase decided => ?_, by simp [RecoveryProgress.add], ?_⟩
      · simp only [RecoveryProgress.add, Option.some.injEq, mergeRecoveryPhase_eq_iff decided,
          earlier phase decided]
        simp [or_imp, forall_and, and_comm]
      · simp [RecoveryProgress.add, gathers.failures, or_imp, forall_and]
  | error error =>
      refine ⟨fun phase decided => ?_, by simp [RecoveryProgress.add], ?_⟩
      · simp only [RecoveryProgress.add, Option.some.injEq, mergeRecoveryPhase_eq_iff decided]
        simp [or_imp, forall_and, decided.symm]
      · simp [RecoveryProgress.add, or_imp, forall_and]

/-- Only results that all agree settle a record. -/
theorem RecoveryProgress.Gathers.conclude (gathers : progress.Gathers results)
    (decided : phase ≠ .inDoubt) :
    progress.conclude record code lead = .ok phase ↔
      results ≠ [] ∧ ∀ result ∈ results, result = .ok phase := by
  unfold RecoveryProgress.conclude
  by_cases failed : progress.failures = []
  · simp only [failed, List.isEmpty_nil, if_true, Except.ok.injEq]
    rw [← gathers.merged phase decided]
    cases progress.mergedPhase with
    | none => simp [decided.symm]
    | some merged => simp
  · have someFailed : ¬ ∀ result ∈ results, ∃ phase, result = .ok phase :=
      fun allOk => failed (gathers.failures.mpr allOk)
    simp only [List.isEmpty_iff, failed, if_false, reduceCtorEq, false_iff]
    rintro ⟨-, all⟩
    exact someFailed fun result isResult => ⟨phase, all result isResult⟩

/-- The phase that is concluded is one of those that the devices ended with. -/
theorem RecoveryProgress.Gathers.isRecoveryOutcome (gathers : progress.Gathers results)
    (outcomes : ∀ result ∈ results, ∀ phase, result = .ok phase → phase.isRecoveryOutcome = true)
    (concluded : progress.conclude record code lead = .ok phase) :
    phase.isRecoveryOutcome = true := by
  by_cases doubt : phase = .inDoubt
  · subst doubt
    rfl
  · obtain ⟨nonempty, all⟩ := (gathers.conclude doubt).mp concluded
    obtain ⟨result, rest, rfl⟩ := List.exists_cons_of_ne_nil nonempty
    exact outcomes result List.mem_cons_self phase (all result List.mem_cons_self)

end Gathers

/-- What the segments of all devices make of the record. -/
structure Concludes (record : TxJournalRecord) (segments : List (List TxEvent))
    (result : Except UnderlayError TxPhase) : Prop where
  outcome : ∀ phase, result = .ok phase → phase.isRecoveryOutcome = true
  committed : result = .ok .committed →
    record.devices ≠ [] ∧ ∀ segment ∈ segments, verdict segment = some .committed
  rolledBack : result = .ok .rolledBack → ∀ segment ∈ segments, verdict segment = some .rolledBack

theorem verdict_of_examined (examined : List.Forall₂ Examined results segments)
    (decisive : settled (.ok phase) = some phase) (all : ∀ result ∈ results, result = .ok phase) :
    ∀ segment ∈ segments, verdict segment = some phase := by
  induction examined with
  | nil => exact fun segment isSegment => nomatch isSegment
  | @cons result segment results segments agrees _ ih =>
      intro found isFound
      rcases List.mem_cons.mp isFound with rfl | isLater
      · rw [← agrees.1, all result List.mem_cons_self, decisive]
      · exact ih (fun other isOther => all other (List.mem_cons_of_mem _ isOther)) found isLater

theorem isRecoveryOutcome_of_examined (examined : List.Forall₂ Examined results segments) :
    ∀ result ∈ results, ∀ phase, result = .ok phase → phase.isRecoveryOutcome = true := by
  induction examined with
  | nil => exact fun result isResult => nomatch isResult
  | cons agrees _ ih =>
      intro found isFound
      rcases List.mem_cons.mp isFound with rfl | isLater
      · exact agrees.2
      · exact ih found isLater

theorem RecoveryProgress.Gathers.concludes {progress : RecoveryProgress}
    (gathers : progress.Gathers results) (nonempty : record.devices ≠ [])
    (examined : List.Forall₂ Examined results segments) :
    Concludes record segments (progress.conclude record code lead) where
  outcome := fun _ concluded =>
    gathers.isRecoveryOutcome (isRecoveryOutcome_of_examined examined) concluded
  committed := by
    intro concluded
    have decided : TxPhase.committed ≠ .inDoubt := by decide
    exact ⟨nonempty, verdict_of_examined examined rfl ((gathers.conclude decided).mp concluded).2⟩
  rolledBack := by
    intro concluded
    have decided : TxPhase.rolledBack ≠ .inDoubt := by decide
    exact verdict_of_examined examined rfl ((gathers.conclude decided).mp concluded).2

section Record

variable {env : Environment coreSignature Thread World} {contract : Contract Thread World}
variable {thread : Thread} {txId : String} {custody : Custody env contract thread txId}
variable {durable : TxJournalRecord} {action : RecoveryAction}
variable {events : List TxEvent} {world : World}

variable {devices : List DeviceId}

theorem ensures_recoverDevices {recoverOne : DeviceId → CoreResult TxPhase}
    {progress : RecoveryProgress}
    (examines : ∀ device ∈ devices, ∀ {events world}, Recovering record durable events →
      custody.holds durable events world →
        Ensures env contract thread (recoverOne device).run
          (Asked custody record durable action device events Examined) world)
    (recovering : Recovering record durable events) (gathers : progress.Gathers results)
    (holds : custody.holds durable events world) :
    Ensures env contract thread (recoverDevices recoverOne devices progress)
      (fun final later => ∃ segments more,
        List.Forall₂ (Segment record action) devices segments ∧
          List.Forall₂ Examined more segments ∧ final.Gathers (results ++ more) ∧
            custody.holds durable (events ++ segments.flatten) later) world := by
  induction devices generalizing events world progress results with
  | nil => exact ⟨[], [], .nil, .nil, by simpa using gathers, by simpa using holds⟩
  | cons device rest ih =>
      unfold recoverDevices
      refine (examines device List.mem_cons_self recovering holds).bind ?_
      rintro result later ⟨segment, isSegment, holds, examined⟩
      have examinesRest := fun other isOther => @examines other (List.mem_cons_of_mem _ isOther)
      refine (ih examinesRest (recovering.append isSegment.record?_eq_none)
        (gathers.add device result) holds).mono ?_
      rintro final last ⟨segments, more, areSegments, areExamined, gathersAll, holds⟩
      exact ⟨segment :: segments, result :: more, .cons isSegment areSegments,
        .cons examined areExamined, by simpa using gathersAll, by simpa using holds⟩

/-- The calls that recovery makes for a record, and what they make of it. -/
def Recovers (custody : Custody env contract thread txId) (record durable : TxJournalRecord)
    (action : RecoveryAction) (events : List TxEvent) (result : Except UnderlayError TxPhase)
    (later : World) : Prop :=
  ∃ segments, List.Forall₂ (Segment record action) record.devices segments ∧
    Concludes record segments result ∧ custody.holds durable (events ++ segments.flatten) later

theorem ensures_recoverRecord (decided : action = recoveryActionForPhase record.phase)
    (recovering : Recovering record durable events) (sameTx : record.txId = txId)
    (holds : custody.holds durable events world) :
    Ensures env contract thread (recoverRecord record action).run
      (Recovers custody record durable action events) world := by
  unfold recoverRecord
  split
  · rename_i confirming
    obtain rfl : action = .adapterRecover := by rw [decided, confirming.1]; rfl
    unfold recoverFinalConfirmingRecord
    split
    · rename_i empty
      have none : record.devices = [] := List.isEmpty_iff.mp empty
      refine ⟨[], none ▸ .nil, ⟨?_, nofun, nofun⟩, by simpa using holds⟩
      rintro phase same
      obtain rfl := Except.ok.inj same
      rfl
    · rename_i nonempty
      refine Ensures.bindLift (ensures_recoverDevices (fun device isDevice _ _ recovering holds =>
        ensures_recoverFinalConfirmingDevice confirming.1 confirming.2 recovering sameTx isDevice
          holds) recovering RecoveryProgress.gathers_nil holds) ?_
      rintro progress later ⟨segments, results, areSegments, examined, gathers, holds⟩
      exact ⟨segments, areSegments, gathers.concludes (by simpa using nonempty) examined, holds⟩
  · split
    · rename_i empty
      have none : record.devices = [] := List.isEmpty_iff.mp empty
      refine ⟨[], none ▸ .nil, ⟨?_, ?_, fun _ _ isSegment => nomatch isSegment⟩,
        by simpa using holds⟩
      · rintro phase same
        obtain rfl := Except.ok.inj same
        split <;> rfl
      · intro committed
        have := Except.ok.inj committed
        split at this <;> cases this
    · rename_i nonempty
      refine Ensures.bindLift (ensures_recoverDevices (fun device isDevice _ _ recovering holds =>
        ensures_recoverDevice recovering sameTx isDevice holds) recovering
          RecoveryProgress.gathers_nil holds) ?_
      rintro progress later ⟨segments, results, areSegments, examined, gathers, holds⟩
      exact ⟨segments, areSegments, gathers.concludes (by simpa using nonempty) examined, holds⟩

/-! ## Storing the conclusion -/

theorem ensures_storePhase {site : PutSite} (same : durable.SameSubject record)
    (allowed : durable.phase.isAllowed phase = true) (notConfirming : phase ≠ .finalConfirming)
    (evidence : ∀ now, phase = .committed →
      CommitEvidence events durable (record.withPhase phase now))
    (holds : custody.holds durable events world) :
    Ensures env contract thread (storePhase site record phase).run
      (fun result later => ∀ updated, result = .ok updated →
        custody.holds updated (events ++ [.stored updated]) later ∧
          ∃ now, updated = record.withPhase phase now) world := by
  refine Ensures.bindResult (custody.transitionPhase holds) ?_ fun _ _ _ _ impossible =>
    nomatch impossible
  rintro updated later ⟨holds, -, now, rfl⟩
  have follows : Follows events durable (record.withPhase phase now) :=
    (TxJournalRecord.SameSubject.refl durable).follows (same.withPhase phase now) allowed
      (fun confirming => (notConfirming confirming).elim) (evidence now)
  refine Ensures.bindResult (custody.journalPut site _ follows holds) ?_ fun _ _ _ _ impossible =>
    nomatch impossible
  rintro _ last holds stored isStored
  obtain rfl := Except.ok.inj isStored
  exact ⟨holds, now, rfl⟩

theorem ensures_storeInDoubt {site : PutSite} {error : UnderlayError}
    (recovering : durable.phase = .recovering) (holds : custody.holds durable events world) :
    Ensures env contract thread (storeInDoubt site durable error).run
      (fun result later => result = .ok () → ∃ last, last.phase = .inDoubt ∧
        custody.holds last (events ++ [.stored last]) later) world := by
  refine Ensures.bindResult (custody.transitionPhase holds) ?_ fun _ _ _ impossible =>
    nomatch impossible
  rintro updated later ⟨holds, -, now, rfl⟩
  refine Ensures.bindLift (custody.nowUnixSecs holds) fun stamp _ holds => ?_
  have same := TxJournalRecord.SameSubject.refl durable
  have follows : Follows events durable ((durable.withPhase .inDoubt now).withError
      (journalErrorFields error).1 (journalErrorFields error).2 stamp) :=
    same.follows ((same.withPhase .inDoubt now).withError _ _ stamp)
      (by rw [recovering]; rfl) nofun nofun
  refine (custody.journalPut site _ follows holds).mono ?_
  rintro (error | _) last holds isOk
  · cases isOk
  · exact ⟨_, rfl, holds⟩

/-- The state that recovery stores for a device replays the changes of the record. -/
theorem replays_of_desiredStateForRecord {device : DeviceId} {desired : DeviceDesiredState}
    (wanted : desiredStateForRecord record device = some desired)
    (existing : Option DeviceShadowState) :
    Replays record device
      (match changeSetForRecord record device with
        | some changeSet => changeSet.applyToShadow existing desired 0
        | none => DeviceShadowState.fromDesired desired 0) := by
  have named : desired.deviceId = device := by
    simpa using List.find?_some wanted
  refine ⟨desired, List.mem_of_find?_eq_some wanted, named, ?_⟩
  cases planned : changeSetForRecord record device with
  | some changeSet =>
      have planNamed : changeSet.deviceId = device := by
        simpa using List.find?_some planned
      exact .inl ⟨changeSet, List.mem_of_find?_eq_some planned, planNamed, existing, rfl⟩
  | none =>
      refine .inr ⟨fun changeSet isPlanned => ?_, rfl⟩
      simpa using List.find?_eq_none.mp planned changeSet isPlanned

/-- The events are shadow writes. -/
def ShadowWrites (events : List TxEvent) : Prop :=
  ∀ event ∈ events, ∃ state, event = .shadowStored state

theorem ShadowWrites.nil : ShadowWrites [] :=
  fun _ isMember => nomatch isMember

theorem ShadowWrites.record?_eq_none {shadows : List TxEvent} (writes : ShadowWrites shadows) :
    ∀ event ∈ shadows, event.record? = none := by
  intro event isMember
  obtain ⟨state, rfl⟩ := writes event isMember
  rfl

theorem ensures_persistRecoveredShadow (devices : List DeviceId)
    (recovering : durable.phase = .recovering) (sameTx : record.txId = txId)
    (holds : custody.holds durable events world) :
    Ensures env contract thread (persistRecoveredShadow record devices).run
      (fun result later => ∃ shadows, ShadowWrites shadows ∧
        custody.holds durable (events ++ shadows) later ∧
          (result = .ok () → ∀ device ∈ devices, Shadowed shadows record device)) world := by
  subst sameTx
  induction devices generalizing events world with
  | nil =>
      exact ⟨[], .nil, by simpa using holds, fun _ _ isDevice => nomatch isDevice⟩
  | cons device rest ih =>
      unfold persistRecoveredShadow
      split
      · exact ⟨[], .nil, by simpa using holds, fun impossible => nomatch impossible⟩
      · rename_i desired wanted
        refine Ensures.bindResult (custody.shadowGet holds) ?_ ?_
        · intro existing later holds
          refine Ensures.bindResult (custody.shadowPut _ (.inl recovering) holds) ?_ ?_
          · intro _ stored holds
            refine (ih holds).mono ?_
            rintro result last ⟨shadows, writes, holds, complete⟩
            refine ⟨.shadowStored _ :: shadows, ?_, by simpa using holds, ?_⟩
            · intro event isMember
              rcases List.mem_cons.mp isMember with rfl | isRest
              · exact ⟨_, rfl⟩
              · exact writes event isRest
            · intro isOk other isOther
              rcases List.mem_cons.mp isOther with rfl | isRest
              · exact ⟨_, List.mem_cons_self, replays_of_desiredStateForRecord wanted existing⟩
              · obtain ⟨state, isStored, replays⟩ := complete isOk other isRest
                exact ⟨state, List.mem_cons_of_mem _ isStored, replays⟩
          · exact fun error last holds =>
              ⟨[], .nil, by simpa using holds, fun impossible => nomatch impossible⟩
        · exact fun error later holds =>
            ⟨[], .nil, by simpa using holds, fun impossible => nomatch impossible⟩

/-- What recovery did for a record and how it left the record. -/
structure Recovered (record : TxJournalRecord) (action : RecoveryAction)
    (segments : List (List TxEvent)) (shadows : List TxEvent) (last : TxJournalRecord) : Prop where
  calls : List.Forall₂ (Segment record action) record.devices segments
  writes : ShadowWrites shadows
  outcome : last.phase.isRecoveryOutcome = true
  committed : last.phase = .committed → record.devices ≠ [] ∧
    (∀ segment ∈ segments, verdict segment = some .committed) ∧
      ∀ device ∈ record.devices, Shadowed shadows record device
  rolledBack : last.phase = .rolledBack →
    ∀ segment ∈ segments, verdict segment = some .rolledBack

/-- A record without a verdict on which all devices agree is left in doubt. -/
theorem Recovered.inDoubt {shadows : List TxEvent} {last : TxJournalRecord}
    (recovered : Recovered record action segments shadows last)
    (divided : (∃ segment ∈ segments, verdict segment = none) ∨
      ∃ left ∈ segments, ∃ right ∈ segments, verdict left ≠ verdict right) :
    last.phase = .inDoubt := by
  have split : ∀ phase, ¬ ∀ segment ∈ segments, verdict segment = some phase := by
    rintro phase all
    rcases divided with ⟨segment, isSegment, nothing⟩ | ⟨left, isLeft, right, isRight, differ⟩
    · rw [all segment isSegment] at nothing
      cases nothing
    · exact differ ((all left isLeft).trans (all right isRight).symm)
  have outcome := recovered.outcome
  cases reached : last.phase with
  | committed => exact absurd (recovered.committed reached).2.1 (split _)
  | rolledBack => exact absurd (recovered.rolledBack reached) (split _)
  | inDoubt => rfl
  | _ => simp [reached, TxPhase.isRecoveryOutcome] at outcome

theorem record?_eq_none_of_segments
    (areSegments : List.Forall₂ (Segment record action) devices segments) :
    ∀ event ∈ segments.flatten, event.record? = none := by
  induction areSegments with
  | nil => exact fun event isMember => nomatch isMember
  | cons isSegment _ ih =>
      intro event isMember
      rcases List.mem_append.mp isMember with isFirst | isLater
      · exact isSegment.record?_eq_none event isFirst
      · exact ih event isLater

theorem reported_of_segments {device : DeviceId}
    (areSegments : List.Forall₂ (Segment record action) devices segments)
    (committed : ∀ segment ∈ segments, verdict segment = some .committed)
    (isDevice : device ∈ devices) :
    Reported segments.flatten record device := by
  induction areSegments with
  | nil => cases isDevice
  | @cons first segment devices segments isSegment _ ih =>
      rcases List.mem_cons.mp isDevice with rfl | isLater
      · obtain ⟨call, answer, isMember, reports⟩ :=
          isSegment.reported (committed segment List.mem_cons_self)
        exact ⟨call, answer, List.mem_append_left _ isMember, reports⟩
      · obtain ⟨call, answer, isMember, reports⟩ :=
          ih (fun other isOther => committed other (List.mem_cons_of_mem _ isOther)) isLater
        exact ⟨call, answer, List.mem_append_right _ isMember, reports⟩

/-- How a record is left whose devices have been asked. -/
def Settles (custody : Custody env contract thread txId) (record : TxJournalRecord)
    (action : RecoveryAction) (events : List TxEvent) (segments : List (List TxEvent)) (flag : Bool)
    (later : World) : Prop :=
  ∃ shadows last, Recovered record action segments shadows last ∧
    custody.holds last (events ++ shadows ++ [.stored last]) later ∧
      (flag = true ↔ last.phase ≠ .inDoubt)

theorem ensures_settleRecovered {recovering : TxJournalRecord} {before : List TxEvent}
    {found : Except UnderlayError TxPhase} (same : record.SameSubject recovering)
    (phase_eq : recovering.phase = .recovering) (stored : sinceStored before = [])
    (sameTx : record.txId = txId)
    (areSegments : List.Forall₂ (Segment record action) record.devices segments)
    (concludes : Concludes record segments found)
    (holds : custody.holds recovering (before ++ segments.flatten) world) :
    Ensures env contract thread (settleRecovered record recovering found).run
      (fun result later => ∀ flag, result = .ok flag →
        Settles custody record action (before ++ segments.flatten) segments flag later) world := by
  have doubtful : ∀ {shadows : List TxEvent} {last : TxJournalRecord}, ShadowWrites shadows →
      last.phase = .inDoubt → Recovered record action segments shadows last := by
    intro shadows last writes doubt
    exact ⟨areSegments, writes, by rw [doubt]; rfl, by simp [doubt], by simp [doubt]⟩
  unfold settleRecovered
  split
  · refine Ensures.bindResult (ensures_storeInDoubt phase_eq holds) ?_ fun _ _ _ _ impossible =>
      nomatch impossible
    rintro _ later reached flag isFlag
    obtain rfl := Except.ok.inj isFlag
    obtain ⟨last, doubt, holds⟩ := reached rfl
    exact ⟨[], last, doubtful .nil doubt, by simpa using holds, by simp [doubt]⟩
  · obtain ⟨nonempty, agreed⟩ := concludes.committed rfl
    refine Ensures.bindLift
      (ensures_persistRecoveredShadow record.devices phase_eq sameTx holds) ?_
    rintro (error | _) persisted ⟨shadows, writes, holds, complete⟩
    · refine Ensures.bindResult (ensures_storeInDoubt phase_eq holds) ?_ fun _ _ _ _ impossible =>
        nomatch impossible
      rintro _ later reached flag isFlag
      obtain rfl := Except.ok.inj isFlag
      obtain ⟨last, doubt, holds⟩ := reached rfl
      exact ⟨shadows, last, doubtful writes doubt, holds, by simp [doubt]⟩
    · have shadowed := complete rfl
      have since : sinceStored (before ++ segments.flatten ++ shadows) =
          segments.flatten ++ shadows := by
        rw [sinceStored_append_calls writes.record?_eq_none,
          sinceStored_append_calls (record?_eq_none_of_segments areSegments), stored,
          List.nil_append]
      refine Ensures.bindResult (ensures_storePhase (.refl recovering) (by rw [phase_eq]; rfl) nofun
        ?_ holds) ?_ fun _ _ _ _ impossible => nomatch impossible
      · refine fun now _ => .inr ⟨phase_eq, fun device isDevice => ?_⟩
        have isOurs : device ∈ record.devices := same.devices_eq ▸ isDevice
        have sameNow := same.withPhase .committed now
        rw [since]
        exact ⟨((reported_of_segments areSegments agreed isOurs).of_sameSubject sameNow).mono
            (List.subset_append_left _ _),
          ((shadowed device isOurs).of_sameSubject sameNow).mono (List.subset_append_right _ _)⟩
      · rintro updated later reached flag isFlag
        obtain rfl := Except.ok.inj isFlag
        obtain ⟨holds, now, rfl⟩ := reached updated rfl
        exact ⟨shadows, _, ⟨areSegments, writes, rfl, fun _ => ⟨nonempty, agreed, shadowed⟩,
          by simp [TxJournalRecord.withPhase]⟩, holds, by simp [TxJournalRecord.withPhase]⟩
  · rename_i phase uncommitted
    have outcome : phase = .rolledBack ∨ phase = .inDoubt := by
      have possible := concludes.outcome phase rfl
      cases phase <;> simp_all [TxPhase.isRecoveryOutcome]
    have allowed : recovering.phase.isAllowed phase = true := by
      rcases outcome with rfl | rfl <;> rw [phase_eq] <;> rfl
    refine Ensures.bindResult (ensures_storePhase (.refl recovering) allowed ?_ ?_ holds) ?_
      fun _ _ _ _ impossible => nomatch impossible
    · rcases outcome with rfl | rfl <;> nofun
    · rintro now rfl
      exact absurd rfl uncommitted
    · rintro updated later reached flag isFlag
      obtain rfl := Except.ok.inj isFlag
      obtain ⟨holds, now, rfl⟩ := reached updated rfl
      refine ⟨[], _, ⟨areSegments, .nil, concludes.outcome phase rfl, ?_, ?_⟩,
        by simpa using holds, ?_⟩
      · rintro rfl
        exact absurd rfl uncommitted
      · rintro rfl
        exact concludes.rolledBack rfl
      · rcases outcome with rfl | rfl <;> simp [TxJournalRecord.withPhase]

/-- How a record is left that recovery has taken up. -/
def CarriesOut (custody : Custody env contract thread txId) (record : TxJournalRecord)
    (action : RecoveryAction) (events : List TxEvent) (flag : Bool) (later : World) : Prop :=
  ∃ recovering segments, recovering.phase = .recovering ∧
    Settles custody record action (events ++ [.stored recovering] ++ segments.flatten) segments flag
      later

/-- Recovery of a record in a phase that it can recover from by itself. -/
theorem ensures_carryOut (decided : action = recoveryActionForPhase record.phase)
    (automatic : action = .discardPreparedChanges ∨ action = .adapterRecover)
    (holds : custody.holds record events world) :
    Ensures env contract thread (carryOut record action).run
      (fun result later => ∀ flag, result = .ok flag →
        CarriesOut custody record action events flag later) world := by
  have sameTx := (custody.last holds).2
  have unfolded : carryOut record action = (do
      let recovering ← storePhase .recovering record .recovering
      let found ← ExceptT.lift (recoverRecord record action).run
      settleRecovered record recovering found) := by
    rcases automatic with rfl | rfl <;> rfl
  rw [unfolded]
  refine Ensures.bindResult (ensures_storePhase (.refl record)
    (isAllowed_recovering (decided ▸ automatic)) nofun (fun _ => nofun) holds) ?_
      fun _ _ _ _ impossible => nomatch impossible
  intro recovering later reached
  obtain ⟨holdsLater, now, rfl⟩ := reached recovering rfl
  have recovering : Recovering record (record.withPhase .recovering now)
      (events ++ [.stored (record.withPhase .recovering now)]) :=
    ⟨rfl, rfl, rfl, by simp [(custody.last holds).1]⟩
  refine Ensures.bindLift (ensures_recoverRecord decided recovering sameTx holdsLater) ?_
  rintro found last ⟨segments, areSegments, concludes, holdsLast⟩
  have same := (TxJournalRecord.SameSubject.refl record).withPhase .recovering now
  refine (ensures_settleRecovered same rfl (by simp) sameTx areSegments concludes holdsLast).mono ?_
  exact fun result final settles flag isFlag => ⟨_, segments, rfl, settles flag isFlag⟩

end Record

end AriaUnderlay
