import AriaUnderlay.Core.Effects
import Mathlib.Data.List.DropRight

/-!
# Histories of transactions

The history of a transaction lists what was stored about it and what its devices were asked.  Two
notions are read off a history: the durable phases, one after the other, and the evidence on which a
`Committed` record rests.  `Legal` says which histories the coordinators may produce: every event is
one that may follow the events before it.
-/

namespace AriaUnderlay

/-! ## Answers that count -/

namespace AdapterCall

/-- The adapter took a commit with the status that its strategy calls for. -/
def isAcceptedCommit : AdapterCall → AdapterAnswer → Bool
  | .commit strategy _ _, .ok outcome => commitStatusMatchesStrategy outcome.status strategy
  | _, _ => false

def isSuccessfulRollback : AdapterCall → AdapterAnswer → Bool
  | .rollback _, .ok outcome => outcome.status = .rolledBack ∨ outcome.status = .noChange
  | _, _ => false

/-- The device was found to carry one of the given changes. -/
def isAcceptedVerify (changeSets : List ChangeSet) : AdapterCall → AdapterAnswer → Bool
  | .verify _ changeSet, .ok outcome =>
      isVerifyAccepted outcome.status && changeSets.contains changeSet
  | _, _ => false

/-- The device was reported to carry the committed change. -/
def reportsCommitted (changeSets : List ChangeSet) : AdapterCall → AdapterAnswer → Bool
  | .finalConfirm, .ok outcome => outcome.status = .committed
  | .recover _ .adapterRecover, .ok outcome => outcome.status = .committed
  | call, answer => call.isAcceptedVerify changeSets answer

/-- The device is asked to make a pending commit permanent. -/
def asksToConfirm : AdapterCall → Bool
  | .finalConfirm => true
  | .recover (some .confirmedCommit) .adapterRecover => true
  | _ => false

end AdapterCall

namespace TxEvent

def record? : TxEvent → Option TxJournalRecord
  | .stored record => some record
  | _ => none

@[simp]
theorem record?_stored (record : TxJournalRecord) : (stored record).record? = some record := rfl

@[simp]
theorem record?_called (device : DeviceId) (call : AdapterCall) (answer : AdapterAnswer) :
    (called device call answer).record? = none := rfl

@[simp]
theorem record?_shadowStored (state : DeviceShadowState) : (shadowStored state).record? = none :=
  rfl

def isAcceptedCommit : TxEvent → Bool
  | .called _ call answer => call.isAcceptedCommit answer
  | _ => false

def isSuccessfulRollback : TxEvent → Bool
  | .called _ call answer => call.isSuccessfulRollback answer
  | _ => false

def isAcceptedVerify (changeSets : List ChangeSet) : TxEvent → Bool
  | .called _ call answer => call.isAcceptedVerify changeSets answer
  | _ => false

end TxEvent

/-! ## Reading a history -/

/-- An element with the first property is followed, later on, by one with the second. -/
def thenLater {α : Type} (first second : α → Bool) : List α → Bool
  | [] => false
  | value :: rest => first value && rest.any second || thenLater first second rest

theorem thenLater_append {α : Type} (first second : α → Bool) (values : List α) (value : α) :
    thenLater first second (values ++ [value]) =
      (thenLater first second values || values.any first && second value) := by
  induction values with
  | nil => simp [thenLater]
  | cons head rest ih =>
      simp only [List.cons_append, thenLater, ih, List.any_append, List.any_cons, List.any_nil,
        Bool.or_false]
      cases first head <;> cases rest.any second <;> cases second value <;>
        cases thenLater first second rest <;> cases rest.any first <;> rfl

/-- A rollback succeeded after a commit was accepted. -/
def rolledBackAfterCommit (events : List TxEvent) : Bool :=
  thenLater TxEvent.isAcceptedCommit TxEvent.isSuccessfulRollback events

/-- One of the changes was verified after a commit was accepted. -/
def verifiedAfterCommit (changeSets : List ChangeSet) (events : List TxEvent) : Bool :=
  thenLater TxEvent.isAcceptedCommit (TxEvent.isAcceptedVerify changeSets) events

/-- More events do not make a verification undone. -/
theorem verifiedAfterCommit_append {changeSets : List ChangeSet} {events : List TxEvent}
    (verified : verifiedAfterCommit changeSets events = true) (event : TxEvent) :
    verifiedAfterCommit changeSets (events ++ [event]) = true := by
  rw [verifiedAfterCommit, thenLater_append]
  simp [show thenLater _ _ events = true from verified]

/-- The records that were stored. -/
def storedRecords (events : List TxEvent) : List TxJournalRecord :=
  events.filterMap TxEvent.record?

/-- The durable phases of the transaction, in order. -/
def durablePhases (events : List TxEvent) : List TxPhase :=
  (storedRecords events).map TxJournalRecord.phase

def lastStored (events : List TxEvent) : Option TxJournalRecord :=
  (storedRecords events).getLast?

/-- The phase of the record before the last one. -/
def phaseBefore (events : List TxEvent) : Option TxPhase :=
  (durablePhases events).dropLast.getLast?

/-- What happened after the last record was stored. -/
def sinceStored (events : List TxEvent) : List TxEvent :=
  events.rtakeWhile fun event => event.record?.isNone

section Read

variable (events : List TxEvent) (event : TxEvent)

@[simp]
theorem storedRecords_append :
    storedRecords (events ++ [event]) = storedRecords events ++ event.record?.toList := by
  cases event <;> simp [storedRecords]

@[simp]
theorem durablePhases_append :
    durablePhases (events ++ [event]) =
      durablePhases events ++ (event.record?.map TxJournalRecord.phase).toList := by
  cases event <;> simp [durablePhases]

@[simp]
theorem lastStored_append :
    lastStored (events ++ [event]) = event.record?.or (lastStored events) := by
  cases event <;> simp [lastStored]

@[simp]
theorem phaseBefore_append :
    phaseBefore (events ++ [event]) =
      if event.record?.isNone then phaseBefore events
      else (lastStored events).map TxJournalRecord.phase := by
  cases event <;> simp [phaseBefore, lastStored, durablePhases]

@[simp]
theorem sinceStored_append :
    sinceStored (events ++ [event]) =
      if event.record?.isNone then sinceStored events ++ [event] else [] := by
  cases event <;> simp [sinceStored, List.rtakeWhile_concat]

theorem getLast?_durablePhases :
    (durablePhases events).getLast? = (lastStored events).map TxJournalRecord.phase := by
  simp [durablePhases, lastStored]

end Read

/-! ## Legal histories -/

/-- The record that opens a transaction. -/
structure Opens (txId : String) (record : TxJournalRecord) : Prop where
  txId_eq : record.txId = txId
  phase_eq : record.phase = .started
  nonempty : record.devices ≠ []
  planned : ∀ device ∈ record.devices, ∃ changeSet ∈ record.changeSets, changeSet.deviceId = device

/-- The state is what the changes of the record make of some shadow of the device, or the desired
state if the record has no changes for the device. -/
def Replays (record : TxJournalRecord) (device : DeviceId) (state : DeviceShadowState) : Prop :=
  ∃ desired ∈ record.desiredStates, desired.deviceId = device ∧
    ((∃ changeSet ∈ record.changeSets, changeSet.deviceId = device ∧
        ∃ base, state = changeSet.applyToShadow base desired 0) ∨
      (∀ changeSet ∈ record.changeSets, changeSet.deviceId ≠ device) ∧
        state = .fromDesired desired 0)

/-- The device was reported to carry the change. -/
def Reported (events : List TxEvent) (record : TxJournalRecord) (device : DeviceId) : Prop :=
  ∃ call answer, .called device call answer ∈ events ∧
    call.reportsCommitted record.changeSets answer = true

/-- The shadow of the device was brought up to date. -/
def Shadowed (events : List TxEvent) (record : TxJournalRecord) (device : DeviceId) : Prop :=
  ∃ state, .shadowStored state ∈ events ∧ Replays record device state

/-- What a `Committed` record rests on: an apply has verified its change, or recovery has heard from
every device and stored its shadow since it took the record up. -/
def CommitEvidence (events : List TxEvent) (previous record : TxJournalRecord) : Prop :=
  (previous.phase = .finalConfirming ∧ verifiedAfterCommit record.changeSets events = true) ∨
    previous.phase = .recovering ∧ ∀ device ∈ record.devices,
      Reported (sinceStored events) record device ∧ Shadowed (sinceStored events) record device

/-- A record that may replace the one before it. -/
structure Follows (events : List TxEvent) (previous record : TxJournalRecord) : Prop where
  txId_eq : record.txId = previous.txId
  devices_eq : record.devices = previous.devices
  desiredStates_eq : record.desiredStates = previous.desiredStates
  changeSets_eq : record.changeSets = previous.changeSets
  allowed : previous.phase.isAllowed record.phase = true
  /-- A change is confirmed only after it was verified. -/
  verified : record.phase = .finalConfirming → verifiedAfterCommit record.changeSets events = true
  evidence : record.phase = .committed → CommitEvidence events previous record

/-- The records belong to one transaction with one plan. -/
structure TxJournalRecord.SameSubject (first record : TxJournalRecord) : Prop where
  txId_eq : record.txId = first.txId
  devices_eq : record.devices = first.devices
  desiredStates_eq : record.desiredStates = first.desiredStates
  changeSets_eq : record.changeSets = first.changeSets

namespace TxJournalRecord.SameSubject

variable {first record previous : TxJournalRecord}

theorem refl (record : TxJournalRecord) : SameSubject record record :=
  ⟨rfl, rfl, rfl, rfl⟩

theorem withPhase (same : SameSubject first record) (phase : TxPhase) (now : ℕ) :
    SameSubject first (record.withPhase phase now) :=
  ⟨same.txId_eq, same.devices_eq, same.desiredStates_eq, same.changeSets_eq⟩

theorem withError (same : SameSubject first record) (code message : String) (now : ℕ) :
    SameSubject first (record.withError code message now) :=
  ⟨same.txId_eq, same.devices_eq, same.desiredStates_eq, same.changeSets_eq⟩

theorem withStrategy (same : SameSubject first record) (strategy : TransactionStrategy) (now : ℕ) :
    SameSubject first (record.withStrategy strategy now) :=
  ⟨same.txId_eq, same.devices_eq, same.desiredStates_eq, same.changeSets_eq⟩

theorem withManualResolution (same : SameSubject first record)
    (operator reason requestId traceId : String) (now : ℕ) :
    SameSubject first (record.withManualResolution operator reason requestId traceId now) :=
  ⟨same.txId_eq, same.devices_eq, same.desiredStates_eq, same.changeSets_eq⟩

theorem follows {events : List TxEvent} (durable : SameSubject first previous)
    (same : SameSubject first record) (allowed : previous.phase.isAllowed record.phase = true)
    (verified : record.phase = .finalConfirming →
      verifiedAfterCommit record.changeSets events = true)
    (evidence : record.phase = .committed → CommitEvidence events previous record) :
    Follows events previous record where
  txId_eq := same.txId_eq.trans durable.txId_eq.symm
  devices_eq := same.devices_eq.trans durable.devices_eq.symm
  desiredStates_eq := same.desiredStates_eq.trans durable.desiredStates_eq.symm
  changeSets_eq := same.changeSets_eq.trans durable.changeSets_eq.symm
  allowed := allowed
  verified := verified
  evidence := evidence

end TxJournalRecord.SameSubject

section Evidence

variable {first record : TxJournalRecord} {events later : List TxEvent} {device : DeviceId}

theorem Reported.mono (reported : Reported events record device) (subset : events ⊆ later) :
    Reported later record device := by
  obtain ⟨call, answer, isMember, reports⟩ := reported
  exact ⟨call, answer, subset isMember, reports⟩

theorem Shadowed.mono (shadowed : Shadowed events record device) (subset : events ⊆ later) :
    Shadowed later record device := by
  obtain ⟨state, isMember, replays⟩ := shadowed
  exact ⟨state, subset isMember, replays⟩

theorem Reported.of_sameSubject (same : first.SameSubject record)
    (reported : Reported events first device) :
    Reported events record device := by
  unfold Reported
  rw [same.changeSets_eq]
  exact reported

theorem Shadowed.of_sameSubject (same : first.SameSubject record)
    (shadowed : Shadowed events first device) :
    Shadowed events record device := by
  unfold Shadowed Replays
  rw [same.desiredStates_eq, same.changeSets_eq]
  exact shadowed

end Evidence

/-- The calls that may be made while a record is the durable one.  Recovery confirms and verifies
only what was being confirmed. -/
def CallPermitted (events : List TxEvent) (previous : TxJournalRecord) : AdapterCall → Prop
  | .prepare _ => previous.phase = .preparing
  | .commit _ _ _ => previous.phase = .committing
  | .verify _ _ => previous.phase = .verifying ∨
      previous.phase = .recovering ∧ phaseBefore events = some .finalConfirming
  | .finalConfirm => previous.phase = .finalConfirming ∨
      previous.phase = .recovering ∧ phaseBefore events = some .finalConfirming
  | .rollback _ => previous.phase = .rollingBack
  | .recover strategy _ => previous.phase = .recovering ∧ strategy = previous.strategy

/-- An event that may come after the given ones. -/
def LegalNext (txId : String) (events : List TxEvent) : TxEvent → Prop
  | .stored record =>
      match lastStored events with
      | none => Opens txId record
      | some previous => Follows events previous record
  | .called device call _ => ∃ previous, lastStored events = some previous ∧
      device ∈ previous.devices ∧ CallPermitted events previous call
  | .shadowStored _ => ∃ previous, lastStored events = some previous ∧
      (previous.phase = .recovering ∨ previous.phase = .committed)

def LegalBackwards (txId : String) : List TxEvent → Prop
  | [] => True
  | event :: earlier => LegalBackwards txId earlier ∧ LegalNext txId earlier.reverse event

/-- Every event may follow the events before it. -/
def Legal (txId : String) (events : List TxEvent) : Prop :=
  LegalBackwards txId events.reverse

variable {record previous : TxJournalRecord}

section Legal

variable {txId : String} {events : List TxEvent}

theorem legal_nil : Legal txId [] :=
  trivial

theorem legal_append {event : TxEvent} :
    Legal txId (events ++ [event]) ↔ Legal txId events ∧ LegalNext txId events event := by
  simp [Legal, LegalBackwards]

variable {later : List TxEvent}

theorem Legal.of_append (legal : Legal txId (events ++ later)) :
    Legal txId events := by
  induction later using List.reverseRecOn with
  | nil => simpa using legal
  | append_singleton later event ih =>
      rw [← List.append_assoc, legal_append] at legal
      exact ih legal.1

theorem Legal.next {event : TxEvent} (legal : Legal txId (events ++ event :: later)) :
    LegalNext txId events event := by
  rw [List.append_cons] at legal
  exact (legal_append.mp legal.of_append).2

/-- What the first record of a transaction says stays true of the later ones. -/
structure Identified (txId : String) (record : TxJournalRecord) : Prop where
  txId_eq : record.txId = txId
  nonempty : record.devices ≠ []
  planned : ∀ device ∈ record.devices, ∃ changeSet ∈ record.changeSets, changeSet.deviceId = device

theorem Legal.lastStored (legal : Legal txId events) (last : lastStored events = some record) :
    Identified txId record := by
  induction events using List.reverseRecOn generalizing record with
  | nil => simp [AriaUnderlay.lastStored, storedRecords] at last
  | append_singleton events event ih =>
      rcases legal_append.mp legal with ⟨earlier, next⟩
      cases event with
      | stored stored =>
          obtain rfl : stored = record := by simpa using last
          simp only [LegalNext] at next
          cases before : AriaUnderlay.lastStored events with
          | none =>
              rw [before] at next
              exact ⟨next.txId_eq, next.nonempty, next.planned⟩
          | some previous =>
              rw [before] at next
              have known := ih earlier before
              exact
                { txId_eq := next.txId_eq.trans known.txId_eq
                  nonempty := next.devices_eq ▸ known.nonempty
                  planned := next.devices_eq ▸ next.changeSets_eq ▸ known.planned }
      | called device call answer => exact ih earlier (by simpa using last)
      | shadowStored state => exact ih earlier (by simpa using last)

/-- The durable phases follow the table of transitions. -/
theorem Legal.isChain_durablePhases (legal : Legal txId events) :
    (durablePhases events).IsChain fun source target => source.isAllowed target = true := by
  induction events using List.reverseRecOn with
  | nil => exact .nil
  | append_singleton events event ih =>
      rcases legal_append.mp legal with ⟨earlier, next⟩
      cases event with
      | stored record =>
          simp only [durablePhases_append, TxEvent.record?_stored, Option.map_some,
            Option.toList_some]
          refine List.isChain_append.mpr ⟨ih earlier, .singleton _, ?_⟩
          intro source isLast target isHead
          obtain rfl : record.phase = target := by simpa using isHead
          rw [getLast?_durablePhases, Option.mem_def, Option.map_eq_some_iff] at isLast
          obtain ⟨previous, last, rfl⟩ := isLast
          simp only [LegalNext, last] at next
          exact next.allowed
      | called device call answer => simpa using ih earlier
      | shadowStored state => simpa using ih earlier

/-- Every `Committed` record rests on evidence. -/
theorem Legal.commitEvidence (legal : Legal txId (events ++ .stored record :: later))
    (committed : record.phase = .committed) :
    ∃ previous, AriaUnderlay.lastStored events = some previous ∧
      CommitEvidence events previous record := by
  have next := legal.next
  cases last : AriaUnderlay.lastStored events with
  | none =>
      simp only [LegalNext, last] at next
      rw [next.phase_eq] at committed
      cases committed
  | some previous =>
      simp only [LegalNext, last] at next
      exact ⟨previous, rfl, next.evidence committed⟩

/-- A call made since the last record was permitted by that record. -/
theorem Legal.callPermitted {device : DeviceId} {call : AdapterCall} {answer : AdapterAnswer}
    (legal : Legal txId events) (made : .called device call answer ∈ sinceStored events) :
    ∃ previous, AriaUnderlay.lastStored events = some previous ∧
      CallPermitted events previous call := by
  induction events using List.reverseRecOn with
  | nil => simp [sinceStored] at made
  | append_singleton events event ih =>
      rcases legal_append.mp legal with ⟨earlier, next⟩
      have carried : ∀ previous, CallPermitted events previous call → event.record? = none →
          CallPermitted (events ++ [event]) previous call := by
        intro previous permitted isCall
        cases call <;> simpa [CallPermitted, isCall] using permitted
      cases event with
      | stored record => simp at made
      | shadowStored state =>
          obtain ⟨previous, last, permitted⟩ := ih earlier (by simpa using made)
          exact ⟨previous, by simpa using last, carried previous permitted rfl⟩
      | called other otherCall otherAnswer =>
          have cases_ : .called device call answer ∈ sinceStored events ∨
              TxEvent.called device call answer = .called other otherCall otherAnswer := by
            simpa using made
          rcases cases_ with before | now
          · obtain ⟨previous, last, permitted⟩ := ih earlier before
            exact ⟨previous, by simpa using last, carried previous permitted rfl⟩
          · obtain ⟨previous, last, -, permitted⟩ := next
            cases now
            exact ⟨previous, by simpa using last, carried previous permitted rfl⟩

end Legal

/-! ## Verification -/

section Verification

variable {txId : String} {events : List TxEvent}

/-- A transaction whose change was being confirmed has been verified. -/
theorem Legal.verified_of_confirming (legal : Legal txId events)
    (confirmed : .finalConfirming ∈ durablePhases events)
    (last : AriaUnderlay.lastStored events = some record) :
    verifiedAfterCommit record.changeSets events = true := by
  induction events using List.reverseRecOn generalizing record with
  | nil => simp [durablePhases, storedRecords] at confirmed
  | append_singleton events event ih =>
      rcases legal_append.mp legal with ⟨earlier, next⟩
      apply verifiedAfterCommit_append
      cases event with
      | called device call answer =>
          exact ih earlier (by simpa using confirmed) (by simpa using last)
      | shadowStored state => exact ih earlier (by simpa using confirmed) (by simpa using last)
      | stored stored =>
          obtain rfl : stored = record := by simpa using last
          have reached : .finalConfirming ∈ durablePhases events ∨
              .finalConfirming = stored.phase := by simpa using confirmed
          simp only [LegalNext] at next
          cases before : AriaUnderlay.lastStored events with
          | none =>
              rw [before] at next
              have noPhases : durablePhases events = [] := by
                have none : storedRecords events = [] := List.getLast?_eq_none_iff.mp before
                simp [durablePhases, none]
              rw [noPhases, next.phase_eq] at reached
              simp at reached
          | some previous =>
              rw [before] at next
              rcases reached with earlierPhase | now
              · rw [next.changeSets_eq]
                exact ih earlier earlierPhase before
              · exact next.verified now.symm

/-- Without a confirmation, recovery has only heard from a device what it recovered. -/
theorem Legal.recover_of_reported {device : DeviceId} (legal : Legal txId events)
    (last : AriaUnderlay.lastStored events = some previous)
    (recovering : previous.phase = .recovering)
    (unconfirmed : .finalConfirming ∉ durablePhases events)
    (reported : Reported (sinceStored events) record device) :
    ∃ outcome, .called device (.recover previous.strategy .adapterRecover) (.ok outcome) ∈
        sinceStored events ∧ outcome.status = .committed := by
  obtain ⟨call, answer, made, reports⟩ := reported
  obtain ⟨_, sameLast, permitted⟩ := legal.callPermitted made
  obtain rfl : previous = _ := Option.some_inj.mp (last.symm.trans sameLast)
  have notBefore : phaseBefore events ≠ some .finalConfirming := by
    intro before
    exact unconfirmed (List.dropLast_subset _ (List.mem_of_getLast? before))
  cases call with
  | recover strategy action =>
      obtain ⟨-, rfl⟩ := permitted
      cases action <;> cases answer <;>
        simp [AdapterCall.reportsCommitted, AdapterCall.isAcceptedVerify] at reports
      exact ⟨_, made, reports⟩
  | finalConfirm => simp_all [CallPermitted]
  | verify desired changeSet => simp_all [CallPermitted]
  | _ => simp [AdapterCall.reportsCommitted, AdapterCall.isAcceptedVerify] at reports

end Verification

/-! ## Shadows -/

/-- Before a `Committed` record became durable, the changes of each of its devices were replayed on
a shadow and stored. -/
def ShadowsFirst (events : List TxEvent) : Prop :=
  ∀ before record later, events = before ++ .stored record :: later → record.phase = .committed →
    ∀ device ∈ record.devices, ∃ changeSet ∈ record.changeSets, changeSet.deviceId = device ∧
      ∃ base desired, .shadowStored (changeSet.applyToShadow base desired 0) ∈ before

/-- Every `Committed` record replaces a `Recovering` one. -/
def ClosedByRecovery (events : List TxEvent) : Prop :=
  ∀ before record later, events = before ++ .stored record :: later → record.phase = .committed →
    ∃ previous, lastStored before = some previous ∧ previous.phase = .recovering

/-- The phases of an apply that has not ended. -/
def TxPhase.isApplying : TxPhase → Bool
  | .started | .preparing | .prepared | .committing | .verifying | .finalConfirming => true
  | _ => false

theorem TxPhase.isApplying_of_isAllowed {source target : TxPhase}
    (allowed : source.isAllowed target = true) (applying : target.isApplying = true) :
    source.isApplying = true := by
  cases source <;> cases target <;> simp_all [isAllowed, isApplying]

section Shadows

variable {txId : String} {events : List TxEvent}

/-- An apply stores no shadow before it ends. -/
theorem Legal.not_shadowStored (legal : Legal txId events)
    (last : AriaUnderlay.lastStored events = some record)
    (applying : record.phase.isApplying = true) (state : DeviceShadowState) :
    .shadowStored state ∉ events := by
  induction events using List.reverseRecOn generalizing record with
  | nil => exact List.not_mem_nil
  | append_singleton events event ih =>
      rcases legal_append.mp legal with ⟨earlier, next⟩
      cases event with
      | called device call answer =>
          simpa using ih earlier (by simpa using last) applying
      | shadowStored other =>
          obtain ⟨previous, lastBefore, written⟩ := next
          obtain rfl : previous = record := by
            rw [lastStored_append] at last
            exact Option.some_inj.mp (lastBefore.symm.trans last)
          rcases written with recovering | committed
          · rw [recovering] at applying
            cases applying
          · rw [committed] at applying
            cases applying
      | stored stored =>
          obtain rfl : stored = record := by simpa using last
          simp only [LegalNext] at next
          cases before : AriaUnderlay.lastStored events with
          | some previous =>
              rw [before] at next
              simpa using ih earlier before (TxPhase.isApplying_of_isAllowed next.allowed applying)
          | none =>
              -- nothing is stored before the first record
              intro isMember
              have isEarlier : .shadowStored state ∈ events := by simpa using isMember
              obtain ⟨first, rest, split⟩ := List.append_of_mem isEarlier
              subst split
              obtain ⟨previous, lastBefore, -⟩ := earlier.next
              have none : storedRecords (first ++ .shadowStored state :: rest) = [] :=
                List.getLast?_eq_none_iff.mp before
              have noneBefore : storedRecords first = [] := by
                simp only [storedRecords, List.filterMap_append, List.append_eq_nil_iff] at none
                exact none.1
              simp [AriaUnderlay.lastStored, noneBefore] at lastBefore

/-- Shadows come first exactly where recovery, and not the apply itself, writes `Committed`. -/
theorem Legal.shadowsFirst_iff (legal : Legal txId events) :
    ShadowsFirst events ↔ ClosedByRecovery events := by
  constructor
  · intro shadowsFirst before record later split committed
    rw [split] at legal
    obtain ⟨previous, last, evidence⟩ := legal.commitEvidence committed
    refine ⟨previous, last, ?_⟩
    rcases evidence with ⟨confirming, -⟩ | ⟨recovering, -⟩
    · have next := legal.next
      simp only [LegalNext, last] at next
      obtain ⟨device, rest, isCons⟩ :=
        List.exists_cons_of_ne_nil (legal.of_append.lastStored last).nonempty
      obtain ⟨changeSet, -, -, base, desired, stored⟩ :=
        shadowsFirst before record later split committed device
          (by rw [next.devices_eq, isCons]; exact List.mem_cons_self)
      exact (legal.of_append.not_shadowStored last (by rw [confirming]; rfl) _ stored).elim
    · exact recovering
  · intro closed before record later split committed device isDevice
    obtain ⟨previous, last, recovering⟩ := closed before record later split committed
    rw [split] at legal
    obtain ⟨other, sameLast, evidence⟩ := legal.commitEvidence committed
    obtain rfl : previous = other := Option.some_inj.mp (last.symm.trans sameLast)
    have next := legal.next
    simp only [LegalNext, last] at next
    rcases evidence with ⟨confirming, -⟩ | ⟨-, heard⟩
    · rw [recovering] at confirming
      cases confirming
    · obtain ⟨-, state, stored, desired, -, -, replays⟩ := heard device isDevice
      have inBefore : .shadowStored state ∈ before := (List.rtakeWhile_suffix _ _).subset stored
      rcases replays with ⟨changeSet, isPlanned, named, base, rfl⟩ | ⟨unplanned, -⟩
      · exact ⟨changeSet, isPlanned, named, base, desired, inBefore⟩
      · -- every device of a transaction has a change
        have known := legal.of_append.lastStored last
        obtain ⟨changeSet, isPlanned, named⟩ := known.planned device (next.devices_eq ▸ isDevice)
        exact (unplanned changeSet (next.changeSets_eq ▸ isPlanned) named).elim

end Shadows

/-! ## Rollback -/

/-- Once `RollingBack` is durable, nothing is committed and no device is asked to confirm. -/
def RollbackIrrevocable (events : List TxEvent) : Prop :=
  ∀ before event later, events = before ++ event :: later →
    .rollingBack ∈ durablePhases before →
      match event with
      | .stored record => record.phase ≠ .committed
      | .called _ call _ => call.asksToConfirm = false
      | .shadowStored _ => True

/-- Recovery does not take up a confirmed commit that was being rolled back. -/
def SparesRollback (events : List TxEvent) : Prop :=
  ∀ before record later, events = before ++ .stored record :: later →
    .rollingBack ∈ durablePhases before → record.phase = .recovering →
      record.strategy ≠ some .confirmedCommit

/-- Only a confirmed commit is recovered as committed. -/
def RecoversConfirmed (events : List TxEvent) : Prop :=
  ∀ device strategy outcome,
    .called device (.recover strategy .adapterRecover) (.ok outcome) ∈ events →
      outcome.status = .committed → strategy = some .confirmedCommit

/-- The durable record of a transaction that has been rolling back. -/
def Withdrawn (events : List TxEvent) (record : TxJournalRecord) : Prop :=
  record.phase = .rollingBack ∨ record.phase = .rolledBack ∨ record.phase = .inDoubt ∨
    record.phase = .forceResolved ∨
      record.phase = .recovering ∧ record.strategy ≠ some .confirmedCommit ∧
        phaseBefore events ≠ some .finalConfirming

section Rollback

variable {txId : String} {events : List TxEvent}

theorem Withdrawn.not_asksToConfirm {call : AdapterCall} (withdrawn : Withdrawn events record)
    (permitted : CallPermitted events record call) :
    call.asksToConfirm = false := by
  rcases withdrawn with atRest | atRest | atRest | atRest | ⟨recovering, unconfirmed, before⟩
  case inr.inr.inr.inr =>
    cases call with
    | finalConfirm => simp_all [CallPermitted]
    | recover strategy action =>
        obtain ⟨-, rfl⟩ := permitted
        unfold AdapterCall.asksToConfirm
        split <;> simp_all
    | _ => rfl
  all_goals cases call <;> simp_all [CallPermitted, AdapterCall.asksToConfirm]

/-- A withdrawn transaction gives no evidence for a commit. -/
theorem Withdrawn.not_commitEvidence (legal : Legal txId events)
    (recovers : RecoversConfirmed events) (last : lastStored events = some previous)
    (withdrawn : Withdrawn events previous) (devices : record.devices = previous.devices) :
    ¬ CommitEvidence events previous record := by
  rintro (⟨confirming, -⟩ | ⟨recovering, heard⟩)
  · rcases withdrawn with atRest | atRest | atRest | atRest | ⟨atRest, -⟩ <;>
      rw [confirming] at atRest <;> cases atRest
  · obtain ⟨-, unconfirmed, before⟩ : previous.phase = .recovering ∧
        previous.strategy ≠ some .confirmedCommit ∧ phaseBefore events ≠ some .finalConfirming := by
      rcases withdrawn with atRest | atRest | atRest | atRest | known
      case inr.inr.inr.inr => exact known
      all_goals rw [recovering] at atRest; cases atRest
    obtain ⟨device, rest, isCons⟩ := List.exists_cons_of_ne_nil (legal.lastStored last).nonempty
    obtain ⟨⟨call, answer, made, reports⟩, -⟩ := heard device (by simp [devices, isCons])
    obtain ⟨_, sameLast, permitted⟩ := legal.callPermitted made
    obtain rfl : previous = _ := Option.some_inj.mp (last.symm.trans sameLast)
    have inEvents : .called device call answer ∈ events :=
      (List.rtakeWhile_suffix _ _).subset made
    cases call with
    | recover strategy action =>
        obtain ⟨-, rfl⟩ := permitted
        cases action <;> cases answer <;>
          simp [AdapterCall.reportsCommitted, AdapterCall.isAcceptedVerify] at reports
        exact unconfirmed (recovers device _ _ inEvents reports)
    | finalConfirm => simp_all [CallPermitted]
    | verify desired changeSet => simp_all [CallPermitted]
    | _ => simp [AdapterCall.reportsCommitted, AdapterCall.isAcceptedVerify] at reports

theorem Withdrawn.follows (legal : Legal txId events) (recovers : RecoversConfirmed events)
    (last : lastStored events = some previous) (withdrawn : Withdrawn events previous)
    (follows : Follows events previous record)
    (spared : record.phase = .recovering → record.strategy ≠ some .confirmedCommit) :
    Withdrawn (events ++ [.stored record]) record := by
  have notConfirming : previous.phase ≠ .finalConfirming := by
    rcases withdrawn with atRest | atRest | atRest | atRest | ⟨atRest, -⟩ <;> rw [atRest] <;> nofun
  have notCommitted : record.phase ≠ .committed := fun committed =>
    withdrawn.not_commitEvidence legal recovers last follows.devices_eq (follows.evidence committed)
  have allowed := follows.allowed
  simp only [Withdrawn, phaseBefore_append, TxEvent.record?_stored, last, Option.isNone_some,
    Bool.false_eq_true, if_false, Option.map_some, ne_eq, Option.some.injEq]
  rcases withdrawn with atRest | atRest | atRest | atRest | ⟨atRest, -⟩ <;>
    rw [atRest] at allowed notConfirming <;>
    cases reached : record.phase <;> simp_all [TxPhase.isAllowed]

/-- Once `RollingBack` is durable the transaction stays withdrawn. -/
theorem Legal.withdrawn (legal : Legal txId events) (spares : SparesRollback events)
    (recovers : RecoversConfirmed events) (rolled : .rollingBack ∈ durablePhases events) :
    ∃ record, AriaUnderlay.lastStored events = some record ∧ Withdrawn events record := by
  induction events using List.reverseRecOn with
  | nil => simp [durablePhases, storedRecords] at rolled
  | append_singleton events event ih =>
      rcases legal_append.mp legal with ⟨earlier, next⟩
      have sparesBefore : SparesRollback events := by
        intro before record later split
        exact spares before record (later ++ [event]) (by simp [split])
      have recoversBefore : RecoversConfirmed events := by
        intro device strategy outcome made
        exact recovers device strategy outcome (List.mem_append_left _ made)
      have carried : event.record? = none →
          ∃ record, AriaUnderlay.lastStored (events ++ [event]) = some record ∧
            Withdrawn (events ++ [event]) record := by
        intro isCall
        obtain ⟨record, last, withdrawn⟩ := ih earlier sparesBefore recoversBefore
          (by simpa [isCall] using rolled)
        exact ⟨record, by simpa [isCall] using last, by simpa [Withdrawn, isCall] using withdrawn⟩
      cases event with
      | called device call answer => exact carried rfl
      | shadowStored state => exact carried rfl
      | stored record =>
          refine ⟨record, by simp, ?_⟩
          by_cases before : .rollingBack ∈ durablePhases events
          · obtain ⟨previous, last, withdrawn⟩ := ih earlier sparesBefore recoversBefore before
            simp only [LegalNext, last] at next
            exact withdrawn.follows earlier recoversBefore last next
              (spares events record [] rfl before)
          · have now : .rollingBack = record.phase := by simpa [before] using rolled
            exact .inl now.symm

/-- A rollback is irrevocable as long as recovery leaves confirmed commits alone that were being
rolled back. -/
theorem Legal.rollbackIrrevocable (legal : Legal txId events) (spares : SparesRollback events)
    (recovers : RecoversConfirmed events) :
    RollbackIrrevocable events := by
  rintro before event later rfl rolled
  have next := legal.next
  have sparesBefore : SparesRollback before := by
    intro earlier record rest split
    exact spares earlier record (rest ++ event :: later) (by simp [split])
  have recoversBefore : RecoversConfirmed before := by
    intro device strategy outcome made
    exact recovers device strategy outcome (List.mem_append_left _ made)
  obtain ⟨previous, last, withdrawn⟩ :=
    legal.of_append.withdrawn sparesBefore recoversBefore rolled
  cases event with
  | shadowStored state => trivial
  | called device call answer =>
      obtain ⟨_, sameLast, -, permitted⟩ := next
      obtain rfl : previous = _ := Option.some_inj.mp (last.symm.trans sameLast)
      exact withdrawn.not_asksToConfirm permitted
  | stored record =>
      simp only [LegalNext, last] at next
      exact fun committed => withdrawn.not_commitEvidence legal.of_append recoversBefore last
        next.devices_eq (next.evidence committed)

end Rollback

end AriaUnderlay
