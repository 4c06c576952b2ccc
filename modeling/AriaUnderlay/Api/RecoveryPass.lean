import AriaUnderlay.Api.RecoveryOutcome
import AriaUnderlay.Core.Lone

/-!
# A pass of recovery

A pass visits one candidate after the other.  What a visit does to the record that it finds is a
parameter here; the induction over the candidates says what the pass does to the whole journal and
what it counts.  A record is changed by the first visit that takes it up: afterwards its phase is
one that recovery leaves alone.
-/

namespace AriaUnderlay

open Collections Effect

/-! ## What a pass takes up -/

/-- Recovery acts on such a record by itself. -/
def TxPhase.isAutomatic (phase : TxPhase) : Bool :=
  recoveryActionForPhase phase = .discardPreparedChanges ||
    recoveryActionForPhase phase = .adapterRecover

/-- The record of a transaction if a pass with this gate selects it. -/
def World.selected (world : World) (gate : RecoveryRecordGate)
    (txId : String) : Option TxJournalRecord :=
  world.journal[txId]?.filter fun record => record.phase.requiresRecovery && gate.matches record

/-- The record of a transaction if a pass with this gate changes it. -/
def World.takenUp (world : World) (gate : RecoveryRecordGate)
    (txId : String) : Option TxJournalRecord :=
  (world.selected gate txId).filter fun record => record.phase.isAutomatic

/-- The transaction has ended on all devices or on none. -/
def World.isSettled (world : World) (txId : String) : Bool :=
  world.journal[txId]?.any fun record => record.phase = .committed || record.phase = .rolledBack

/-- Records are stored under their own names. -/
def World.Keyed (world : World) : Prop :=
  ∀ (txId : String) (record : TxJournalRecord), world.journal[txId]? = some record →
    record.txId = txId

section Selection

variable {world later : World} {gate : RecoveryRecordGate} {txId : String}
variable {record : TxJournalRecord}

theorem World.selected_eq_some :
    world.selected gate txId = some record ↔ world.journal[txId]? = some record ∧
      record.phase.requiresRecovery = true ∧ gate.matches record = true := by
  simp [World.selected, Option.filter_eq_some_iff]

theorem World.takenUp_eq_some :
    world.takenUp gate txId = some record ↔
      world.selected gate txId = some record ∧ record.phase.isAutomatic = true := by
  simp [World.takenUp, Option.filter_eq_some_iff]

theorem World.takenUp_congr (same : later.journal[txId]? = world.journal[txId]?) :
    later.takenUp gate txId = world.takenUp gate txId := by
  simp [World.takenUp, World.selected, same]

theorem World.isSettled_congr (same : later.journal[txId]? = world.journal[txId]?) :
    later.isSettled txId = world.isSettled txId := by
  simp [World.isSettled, same]

theorem not_isAutomatic_of_isRecoveryOutcome {phase : TxPhase}
    (outcome : phase.isRecoveryOutcome = true) :
    phase.isAutomatic = false := by
  cases phase <;> simp_all [TxPhase.isRecoveryOutcome, TxPhase.isAutomatic, recoveryActionForPhase]

/-- What a pass leaves behind it does not take up again. -/
theorem World.takenUp_eq_none (durable : world.journal[txId]? = some record)
    (outcome : record.phase.isRecoveryOutcome = true) :
    world.takenUp gate txId = none := by
  cases found : world.takenUp gate txId with
  | none => rfl
  | some taken =>
      rcases World.takenUp_eq_some.mp found with ⟨isSelected, automatic⟩
      have same : record = taken :=
        Option.some.inj (durable.symm.trans (World.selected_eq_some.mp isSelected).1)
      rw [← same, not_isAutomatic_of_isRecoveryOutcome outcome] at automatic
      cases automatic

/-- A selected record that is not taken up is in doubt. -/
theorem inDoubt_of_not_isAutomatic {phase : TxPhase} (requires : phase.requiresRecovery = true)
    (manual : phase.isAutomatic = false) :
    phase = .inDoubt := by
  cases phase <;> simp_all [TxPhase.requiresRecovery, TxPhase.isAutomatic, recoveryActionForPhase]

theorem automatic_action {phase : TxPhase} (automatic : phase.isAutomatic = true) :
    recoveryActionForPhase phase = .discardPreparedChanges ∨
      recoveryActionForPhase phase = .adapterRecover := by
  simpa [TxPhase.isAutomatic] using automatic

end Selection

/-! ## Visits -/

section Pass

/-- What a visit makes of a transaction: the record that it takes up, the history before and after
it, and the record that it leaves. -/
abbrev VisitOutcome : Type :=
  TxJournalRecord → List TxEvent → List TxEvent → TxJournalRecord → Prop

/-- A record was taken up and left in a phase that ends recovery; the flag tells whether it was
settled. -/
structure Visited (outcome : VisitOutcome) (record : TxJournalRecord) (flag : Bool)
    (before after : World) : Prop where
  left : ∃ last, after.journal[record.txId]? = some last ∧ last.txId = record.txId ∧
    last.phase.isRecoveryOutcome = true ∧ (flag = true ↔ last.phase ≠ .inDoubt) ∧
      outcome record (before.history record.txId) (after.history record.txId) last
  others : World.OthersKept record.txId before after

variable {outcome : VisitOutcome}
variable {behaves : (op : CoreOp) → op.Answer → Prop} {guarantee : World → World → Prop}
variable {thread : Thread} {world : World} {gate : RecoveryRecordGate} {txId : String}

/-- Taking and dropping locks is invisible. -/
theorem Visited.of_sameRecords {record : TxJournalRecord} {flag : Bool}
    {before locked worked after : World} (first : before.SameRecords locked)
    (visited : Visited outcome record flag locked worked) (last : worked.SameRecords after) :
    Visited outcome record flag before after where
  left := by
    rcases visited.left with ⟨left, durable, sameTx, isOutcome, counted, holds⟩
    rw [first.2] at holds
    exact ⟨left, by rw [last.1, durable], sameTx, isOutcome, counted, by rw [last.2]; exact holds⟩
  others := (first.othersKept.trans visited.others).trans last.othersKept

/-- What a pass may do to a record that it finds. -/
def VisitsRecords (behaves : (op : CoreOp) → op.Answer → Prop) (guarantee : World → World → Prop)
    (thread : Thread) (outcome : VisitOutcome) : Prop :=
  ∀ (record : TxJournalRecord) (world : World), record.phase.isAutomatic = true →
    world.journal[record.txId]? = some record →
      Ensures (loneEnvironment behaves) (Contract.lone Thread guarantee) thread
        (carryOut record (recoveryActionForPhase record.phase)).run
        (fun result later => ∀ flag, result = .ok flag → Visited outcome record flag world later)
        world

/-- What one iteration does. -/
structure Iterated (outcome : VisitOutcome) (gate : RecoveryRecordGate) (txId : String)
    (flag : Bool) (before after : World) : Prop where
  taken : ∀ record, before.takenUp gate txId = some record →
    Visited outcome record flag before after
  skipped : before.takenUp gate txId = none → flag = false ∧ before.SameRecords after

theorem iterated_of_skipped {later : World} (absent : world.takenUp gate txId = none)
    (same : world.SameRecords later) :
    Iterated outcome gate txId false world later where
  taken := fun record taken => by
    rw [absent] at taken
    cases taken
  skipped := fun _ => ⟨rfl, same⟩

variable (kept : ∀ {before after : World}, after.journal = before.journal → guarantee before after)
variable (visits : VisitsRecords behaves guarantee thread outcome)

include kept

theorem lone_acquireMany (devices : List DeviceId) :
    Ensures (loneEnvironment behaves) (Contract.lone Thread guarantee) thread (acquireMany devices)
      (fun _ later => world.SameRecords later) world := by
  induction devices generalizing world with
  | nil => exact .refl world
  | cons device rest ih =>
      apply (lone_acquire kept device).bind
      intro _ taken sameTaken
      apply ih.mono
      intro _ later sameLater
      exact sameTaken.trans sameLater

include visits

theorem lone_recoverLocked (keyed : world.Keyed) (tally : RecoveryTally) :
    Ensures (loneEnvironment behaves) (Contract.lone Thread guarantee) thread
      (recoverLocked gate txId tally).run
      (fun result later => ∀ final, result = .ok final → ∃ flag : Bool,
        final.recovered = tally.recovered + (if flag then 1 else 0) ∧
          Iterated outcome gate txId flag world later) world := by
  unfold recoverLocked
  refine Ensures.bindResult (lone_journalGet kept txId) ?_
    fun _ _ _ _ impossible => nomatch impossible
  rintro found later ⟨same, isFound⟩
  obtain rfl := isFound found rfl
  cases durable : world.journal[txId]? with
  | none =>
      intro final isFinal
      obtain rfl := Except.ok.inj isFinal
      exact ⟨false, rfl,
        iterated_of_skipped (by simp [World.takenUp, World.selected, durable]) same⟩
  | some record =>
      dsimp only
      split
      case isTrue chosen =>
        have isSelected : world.selected gate txId = some record :=
          World.selected_eq_some.mpr ⟨durable, by simpa using chosen⟩
        by_cases automatic : record.phase.isAutomatic = true
        · have sameTx : record.txId = txId := keyed txId record durable
          have durableLater : later.journal[record.txId]? = some record := by
            rw [same.1, sameTx, durable]
          refine Ensures.bindResult (visits record later automatic durableLater) ?_
            fun _ _ _ _ impossible => nomatch impossible
          intro flag last reached final isFinal
          obtain rfl := Except.ok.inj isFinal
          refine ⟨flag, rfl, ?_, ?_⟩
          · intro taken isTaken
            have isRecord : some record = some taken := by
              rw [← isSelected]
              exact (World.takenUp_eq_some.mp isTaken).1
            cases isRecord
            exact (reached flag rfl).of_sameRecords same (.refl last)
          · intro absent
            have taken := World.takenUp_eq_some.mpr ⟨isSelected, automatic⟩
            rw [absent] at taken
            cases taken
        · -- a record that needs an operator is left alone
          have manual : record.phase.isAutomatic = false := by simpa using automatic
          have doubt : record.phase = .inDoubt :=
            inDoubt_of_not_isAutomatic (by simp_all) manual
          have unfolded : carryOut record (classifyRecovery record).action = pure false := by
            simp [classifyRecovery, doubt, recoveryActionForPhase, carryOut]
          rw [unfolded]
          intro final isFinal
          obtain rfl := Except.ok.inj isFinal
          refine ⟨false, rfl, iterated_of_skipped ?_ same⟩
          simp [World.takenUp, isSelected, manual]
      case isFalse rejected =>
        intro final isFinal
        obtain rfl := Except.ok.inj isFinal
        refine ⟨false, rfl, iterated_of_skipped ?_ same⟩
        have unselected : world.selected gate txId = none := by
          simpa [World.selected, durable] using rejected
        simp [World.takenUp, unselected]

theorem lone_iteration (keyed : world.Keyed) (devices : List DeviceId) (tally : RecoveryTally) :
    Ensures (loneEnvironment behaves) (Contract.lone Thread guarantee) thread
      (underLocks devices (recoverLocked gate txId tally)).run
      (fun result later => ∀ final, result = .ok final → ∃ flag : Bool,
        final.recovered = tally.recovered + (if flag then 1 else 0) ∧
          Iterated outcome gate txId flag world later) world := by
  apply (lone_acquireMany kept (orderedDeviceIds devices)).bind
  intro _ locked same
  have keyedLocked : locked.Keyed := by
    intro other record durable
    rw [same.1] at durable
    exact keyed other record durable
  apply (lone_recoverLocked kept visits keyedLocked tally).bind
  intro result worked reached
  apply (lone_release kept (orderedDeviceIds devices)).bind
  intro _ later released final isFinal
  rcases reached final isFinal with ⟨flag, counted, iterated⟩
  have takenUp_eq : locked.takenUp gate txId = world.takenUp gate txId :=
    World.takenUp_congr (by rw [same.1])
  refine ⟨flag, counted, ?_, ?_⟩
  · intro record taken
    exact (iterated.taken record (takenUp_eq.trans taken)).of_sameRecords same released
  · intro absent
    rcases iterated.skipped (takenUp_eq.trans absent) with ⟨isFalse, sameWorked⟩
    exact ⟨isFalse, (same.trans sameWorked).trans released⟩

end Pass

/-! ## All candidates -/

/-- The transactions among the given ones that are taken up before and settled after. -/
def settledAmong (gate : RecoveryRecordGate) (txIds : List String)
    (before after : World) : Finset String :=
  txIds.toFinset.filter fun txId => (before.takenUp gate txId).isSome && after.isSettled txId

/-- What a pass over some transactions does, and how many it counts as settled. -/
structure Passed (outcome : VisitOutcome) (gate : RecoveryRecordGate) (txIds : List String)
    (count : ℕ) (before after : World) : Prop where
  taken : ∀ txId ∈ txIds, ∀ record, before.takenUp gate txId = some record →
    ∃ last, after.journal[txId]? = some last ∧ last.phase.isRecoveryOutcome = true ∧
      outcome record (before.history txId) (after.history txId) last
  skipped : ∀ txId, (txId ∈ txIds → before.takenUp gate txId = none) →
    after.journal[txId]? = before.journal[txId]? ∧ after.history txId = before.history txId
  counted : count = (settledAmong gate txIds before after).card

section Candidates

variable {outcome : VisitOutcome} {gate : RecoveryRecordGate}
variable {txId : String} {txIds : List String} {flag : Bool} {count : ℕ}
variable {before middle after : World}

theorem passed_nil (world : World) : Passed outcome gate [] 0 world world where
  taken := fun _ isMember => nomatch isMember
  skipped := fun _ _ => ⟨rfl, rfl⟩
  counted := by simp [settledAmong]

theorem Passed.of_sameRecords (passed : Passed outcome gate txIds count before middle)
    (same : middle.SameRecords after) :
    Passed outcome gate txIds count before after where
  taken := by
    rw [same.1, same.2]
    exact passed.taken
  skipped := by
    rw [same.1, same.2]
    exact passed.skipped
  counted := by
    simpa [settledAmong, World.isSettled, same.1] using passed.counted

section

variable (iterated : Iterated outcome gate txId flag before middle)

include iterated

theorem Iterated.keyed (keyed : before.Keyed) :
    middle.Keyed := by
  intro other record durable
  cases found : before.takenUp gate txId with
  | none =>
      rw [(iterated.skipped found).2.1] at durable
      exact keyed other record durable
  | some taken =>
      have visited := iterated.taken taken found
      by_cases same : other = taken.txId
      · subst same
        rcases visited.left with ⟨last, left, sameTx, -⟩
        obtain rfl : last = record := Option.some.inj (left.symm.trans durable)
        exact sameTx
      · rw [(visited.others other same).1] at durable
        exact keyed other record durable

/-- An iteration concerns the records of one transaction only. -/
theorem Iterated.others (keyed : before.Keyed) :
    World.OthersKept txId before middle := by
  cases found : before.takenUp gate txId with
  | none => exact (iterated.skipped found).2.othersKept
  | some taken =>
      have isSelected := (World.takenUp_eq_some.mp found).1
      have sameTx := keyed txId taken (World.selected_eq_some.mp isSelected).1
      have others := (iterated.taken taken found).others
      rw [sameTx] at others
      exact others

theorem Iterated.left {record : TxJournalRecord} (keyed : before.Keyed)
    (taken : before.takenUp gate txId = some record) :
    ∃ last, middle.journal[txId]? = some last ∧ last.phase.isRecoveryOutcome = true ∧
      (flag = true ↔ last.phase ≠ .inDoubt) ∧
        outcome record (before.history txId) (middle.history txId) last := by
  have isSelected := (World.takenUp_eq_some.mp taken).1
  have sameTx := keyed txId record (World.selected_eq_some.mp isSelected).1
  rcases (iterated.taken record taken).left with ⟨last, durable, -, isOutcome, counted, holds⟩
  rw [sameTx] at durable holds
  exact ⟨last, durable, isOutcome, counted, holds⟩

/-- A record is not taken up twice. -/
theorem Iterated.takenUp_eq_none (keyed : before.Keyed) :
    middle.takenUp gate txId = none := by
  cases found : before.takenUp gate txId with
  | none =>
      have same : middle.journal[txId]? = before.journal[txId]? := by
        rw [(iterated.skipped found).2.1]
      exact (World.takenUp_congr same).trans found
  | some record =>
      rcases iterated.left keyed found with ⟨last, durable, isOutcome, -⟩
      exact World.takenUp_eq_none durable isOutcome

end

theorem isSettled_iff_of_isRecoveryOutcome {world : World} {last : TxJournalRecord}
    (durable : world.journal[txId]? = some last) (isOutcome : last.phase.isRecoveryOutcome = true) :
    world.isSettled txId = true ↔ last.phase ≠ .inDoubt := by
  cases reached : last.phase <;>
    simp_all [World.isSettled, TxPhase.isRecoveryOutcome]

/-- The flag of an iteration tells whether the transaction is among those that end settled. -/
theorem Iterated.flag_iff (iterated : Iterated outcome gate txId flag before middle)
    (keyed : before.Keyed) :
    flag = true ↔ ((before.takenUp gate txId).isSome && middle.isSettled txId) = true := by
  cases found : before.takenUp gate txId with
  | none => simp [(iterated.skipped found).1]
  | some record =>
      rcases iterated.left keyed found with ⟨last, durable, isOutcome, counted, -⟩
      rw [counted, ← isSettled_iff_of_isRecoveryOutcome durable isOutcome]
      simp

theorem Passed.cons (iterated : Iterated outcome gate txId flag before middle)
    (keyed : before.Keyed) (passed : Passed outcome gate txIds count middle after) :
    Passed outcome gate (txId :: txIds) ((if flag then 1 else 0) + count) before after := by
  have others := iterated.others keyed
  have spent := iterated.takenUp_eq_none keyed
  rcases passed.skipped txId fun _ => spent with ⟨sameJournal, sameHistory⟩
  have takenUp_others : ∀ other, other ≠ txId →
      middle.takenUp gate other = before.takenUp gate other :=
    fun other differs => World.takenUp_congr (others other differs).1
  refine ⟨?_, ?_, ?_⟩
  · intro other isMember record taken
    by_cases same : other = txId
    · subst same
      rcases iterated.left keyed taken with ⟨last, durable, isOutcome, -, holds⟩
      exact ⟨last, sameJournal.trans durable, isOutcome, by rw [sameHistory]; exact holds⟩
    · have isLater : other ∈ txIds := (List.mem_cons.mp isMember).resolve_left same
      rcases passed.taken other isLater record ((takenUp_others other same).trans taken) with
        ⟨last, durable, isOutcome, holds⟩
      rw [(others other same).2] at holds
      exact ⟨last, durable, isOutcome, holds⟩
  · intro other absent
    by_cases same : other = txId
    · subst same
      have untouched := (iterated.skipped (absent List.mem_cons_self)).2
      rw [sameJournal, sameHistory, untouched.1, untouched.2]
      exact ⟨rfl, rfl⟩
    · rcases passed.skipped other fun isLater =>
        (takenUp_others other same).trans (absent (List.mem_cons_of_mem _ isLater)) with
        ⟨laterJournal, laterHistory⟩
      rw [laterJournal, laterHistory]
      exact others other same
  · -- the first transaction counts by its flag, the others as they do in the rest of the pass
    have settled_eq : after.isSettled txId = middle.isSettled txId :=
      World.isSettled_congr sameJournal
    have first := iterated.flag_iff keyed
    rw [← settled_eq] at first
    have members : ∀ other, other ∈ settledAmong gate (txId :: txIds) before after ↔
        other = txId ∧ flag = true ∨ other ∈ settledAmong gate txIds middle after := by
      intro other
      simp only [settledAmong, List.toFinset_cons, Finset.mem_filter, Finset.mem_insert]
      by_cases same : other = txId
      · subst same
        simp [first, spent]
      · simp [same, takenUp_others other same]
    rw [passed.counted]
    cases flag with
    | false =>
        have unchanged : settledAmong gate (txId :: txIds) before after =
            settledAmong gate txIds middle after :=
          Finset.ext fun other => (members other).trans (by simp)
        simp [unchanged]
    | true =>
        have isNew : txId ∉ settledAmong gate txIds middle after := by
          simp [settledAmong, spent]
        have inserted : settledAmong gate (txId :: txIds) before after =
            insert txId (settledAmong gate txIds middle after) :=
          Finset.ext fun other => (members other).trans (by simp)
        rw [inserted, Finset.card_insert_of_notMem isNew, Nat.add_comm]
        rfl

end Candidates

section Run

variable {outcome : VisitOutcome}
variable {behaves : (op : CoreOp) → op.Answer → Prop} {guarantee : World → World → Prop}
variable {thread : Thread} {world : World} {gate : RecoveryRecordGate}

theorem lone_recoverCandidates
    (kept : ∀ {before after : World}, after.journal = before.journal → guarantee before after)
    (visits : VisitsRecords behaves guarantee thread outcome) (keyed : world.Keyed)
    (candidates : List TxJournalRecord) (tally : RecoveryTally) :
    Ensures (loneEnvironment behaves) (Contract.lone Thread guarantee) thread
      (recoverCandidates gate candidates tally).run
      (fun result later => ∀ final, result = .ok final → ∃ count,
        final.recovered = tally.recovered + count ∧
          Passed outcome gate (candidates.map TxJournalRecord.txId) count world later) world := by
  induction candidates generalizing world tally with
  | nil =>
      intro final isFinal
      obtain rfl := Except.ok.inj isFinal
      exact ⟨0, rfl, passed_nil world⟩
  | cons candidate rest ih =>
      refine Ensures.bindResult (lone_iteration kept visits keyed candidate.devices tally) ?_
        fun _ _ _ _ impossible => nomatch impossible
      intro next middle reached
      rcases reached next rfl with ⟨flag, counted, iterated⟩
      apply (ih (iterated.keyed keyed) next).mono
      intro result later passes final isFinal
      rcases passes final isFinal with ⟨count, countedRest, passed⟩
      refine ⟨_, ?_, passed.cons iterated keyed⟩
      rw [countedRest, counted, Nat.add_assoc]

/-- A pass that succeeds has visited all candidates. -/
theorem lone_recoverRecords
    (kept : ∀ {before after : World}, after.journal = before.journal → guarantee before after)
    (visits : VisitsRecords behaves guarantee thread outcome) (keyed : world.Keyed)
    (candidates : List TxJournalRecord) (scope : RecoveryReportScope) :
    Ensures (loneEnvironment behaves) (Contract.lone Thread guarantee) thread
      (recoverRecords candidates scope gate).run
      (fun result later => ∀ report, result = .ok report →
        Passed outcome gate (candidates.map TxJournalRecord.txId) report.recovered world later)
      world := by
  refine Ensures.bindResult (lone_recoverCandidates kept visits keyed candidates {}) ?_
    fun _ _ _ _ impossible => nomatch impossible
  intro tally middle reached
  rcases reached tally rfl with ⟨count, counted, passed⟩
  have listed : Ensures (loneEnvironment behaves) (Contract.lone Thread guarantee) thread
      listRecoverable (fun _ later => middle.SameRecords later) middle :=
    lone_interact fun _ _ _ => ⟨kept rfl, rfl, rfl⟩
  refine Ensures.bindResult listed ?_ fun _ _ _ _ impossible => nomatch impossible
  intro recoverable later same report isReport
  obtain rfl := Except.ok.inj isReport
  obtain rfl : tally.recovered = count := by simpa using counted
  exact passed.of_sameRecords same

end Run

/-! ## Accounting -/

/-- Recovery has accounted for a record: it stored that it recovers, asked every device, stored the
shadows if all devices have the change, and stored what the devices agree on. -/
def Accounted : VisitOutcome :=
  fun record before after last => ∃ recovering segments shadows,
    recovering.phase = .recovering ∧
    after = before ++ [.stored recovering] ++ segments.flatten ++ shadows ++ [.stored last] ∧
    Recovered record (recoveryActionForPhase record.phase) segments shadows last ∧
    ((∃ segment ∈ segments, verdict segment = none) ∨
      (∃ left ∈ segments, ∃ right ∈ segments, verdict left ≠ verdict right) →
        last.phase = .inDoubt)

theorem visitsRecords_accounted (behaves : (op : CoreOp) → op.Answer → Prop) (thread : Thread) :
    VisitsRecords behaves (fun _ _ => True) thread Accounted := by
  intro record world automatic durable
  have begun : (loneCustody behaves thread world record record.txId).holds record [.stored record]
      world :=
    Tracks.begin durable rfl
  apply (ensures_carryOut rfl (automatic_action automatic) begun).mono
  intro result later carried flag isFlag
  rcases carried flag isFlag with
    ⟨recovering, segments, phase_eq, shadows, last, recovered, tracks, counted⟩
  rcases tracks.made with ⟨made, isMade, extended⟩
  obtain rfl : _ = made := (List.cons.inj isMade).2
  refine ⟨⟨last, tracks.durable, tracks.txId_eq, recovered.outcome, counted, ?_⟩, tracks.others⟩
  refine ⟨recovering, segments, shadows, phase_eq, ?_, recovered, recovered.inDoubt⟩
  rw [extended]
  simp

/-- A pass without rivals leaves each record that it takes up with the phase on which all its
devices agree, leaves the others alone and counts those that it settled. -/
theorem recoverRecords_accounts {thread : Thread} {candidates : List TxJournalRecord}
    {scope : RecoveryReportScope} {gate : RecoveryRecordGate} {world final : World}
    {report : RecoveryReport} (keyed : world.Keyed)
    (executes : Executes (loneEnvironment anyAnswer) thread
      (recoverRecords candidates scope gate).run world (.ok report) final) :
    (∀ txId ∈ candidates.map TxJournalRecord.txId, ∀ record,
      world.selected gate txId = some record → record.phase.isAutomatic = true →
        ∃ last, final.journal[txId]? = some last ∧
          Accounted record (world.history txId) (final.history txId) last) ∧
    (∀ txId, (txId ∈ candidates.map TxJournalRecord.txId → world.selected gate txId = none) →
      final.journal[txId]? = world.journal[txId]? ∧ final.history txId = world.history txId) ∧
    report.recovered = ((candidates.map TxJournalRecord.txId).toFinset.filter fun txId =>
      (world.selected gate txId).isSome && final.isSettled txId).card := by
  have passed := (lone_recoverRecords (fun _ => trivial) (visitsRecords_accounted anyAnswer thread)
    keyed candidates scope).executes executes report rfl
  refine ⟨?_, ?_, ?_⟩
  · intro txId isCandidate record isSelected automatic
    rcases passed.taken txId isCandidate record
      (World.takenUp_eq_some.mpr ⟨isSelected, automatic⟩) with ⟨last, durable, -, accounted⟩
    exact ⟨last, durable, accounted⟩
  · intro txId unselected
    apply passed.skipped txId
    intro isCandidate
    simp [World.takenUp, unselected isCandidate]
  · rw [passed.counted]
    congr 1
    apply Finset.filter_congr
    intro txId isCandidate
    -- a record that is selected but not taken up is in doubt, and stays so
    cases isSelected : world.selected gate txId with
    | none => simp [World.takenUp, isSelected]
    | some record =>
        by_cases automatic : record.phase.isAutomatic = true
        · simp [World.takenUp_eq_some.mpr ⟨isSelected, automatic⟩]
        · have absent : world.takenUp gate txId = none := by
            simp [World.takenUp, isSelected, automatic]
          rcases World.selected_eq_some.mp isSelected with ⟨durable, requires, -⟩
          have doubt := inDoubt_of_not_isAutomatic requires (by simpa using automatic)
          have same := (passed.skipped txId fun _ => absent).1
          simp [absent, World.isSettled, same, durable, doubt]

/-- The stores of a process that has left one record behind. -/
def World.holding (record : TxJournalRecord) : World :=
  { World.initial with journal := (∅ : BTreeMap String TxJournalRecord).insert record.txId record }

theorem World.journal_holding (record : TxJournalRecord) (txId : String) :
    (World.holding record).journal[txId]? = if txId = record.txId then some record else none := by
  have stores : World.initial.Stores
      { World.holding record with
        history := Function.update World.initial.history record.txId [.stored record] } record :=
    ⟨rfl, rfl, rfl, rfl⟩
  exact stores.getElem? txId

theorem World.keyed_holding (record : TxJournalRecord) : (World.holding record).Keyed := by
  intro txId found durable
  rw [World.journal_holding] at durable
  split at durable
  case isTrue same =>
    obtain rfl := Option.some.inj durable
    exact same.symm
  case isFalse => cases durable

/-- Surroundings in which every device is known and answers a call in the same way. -/
def Surroundings.answering (answer : AdapterCall → AdapterAnswer) : Surroundings where
  inventory := fun deviceId => .ok
    { info := { id := deviceId, adapterEndpoint := "adapter", lifecycleState := .ready }
      capability := none }
  client := fun _ => .ok ()
  adapter := fun _ _ => answer
  shadowGetError := fun _ => none
  shadowPutError := fun _ => none

/-- A transaction of one device that stopped before the device was asked to change. -/
def startedRecord : TxJournalRecord :=
  TxJournalRecord.started { txId := "tx-1", requestId := "req-1", traceId := "trace-1" }
    ["leaf-1"] 0

/-- A transaction of two devices that stopped while it was committing. -/
def committingRecord : TxJournalRecord :=
  { startedRecord with
    devices := ["leaf-1", "leaf-2"]
    phase := .committing
    strategy := some .confirmedCommit }

/-- One of the devices has committed the change, and the other one has rolled it back. -/
def disagreeing : Surroundings :=
  { Surroundings.answering fun _ => .ok { status := .committed } with
    adapter := fun deviceId _ _ => .ok
      { status := if deviceId = "leaf-1" then .committed else .rolledBack } }

/-- What recovery makes of this. -/
def disagreeingPass : Except UnderlayError RecoveryReport × World :=
  runAlone disagreeing.oracle
    (recoverRecords [committingRecord] .allRecoverable .anyRecoverable).run
    (World.holding committingRecord)

theorem recoverRecords_accounts_committingRecord :
    ∃ report final, Executes (loneEnvironment anyAnswer) 0
        (recoverRecords [committingRecord] .allRecoverable .anyRecoverable).run
        (World.holding committingRecord) (.ok report) final ∧
      report.recovered = 0 ∧
      ∃ last, final.journal["tx-1"]? = some last ∧ last.phase = .inDoubt ∧
        Accounted committingRecord [] (final.history "tx-1") last := by
  have counts : disagreeingPass.1.toOption.map RecoveryReport.recovered = some 0 := by
    decide +kernel
  have doubts : disagreeingPass.2.journal["tx-1"]?.map TxJournalRecord.phase = some .inDoubt := by
    decide +kernel
  have executes := executes_anyAnswer (disagreeing.executes_runAlone
    (recoverRecords [committingRecord] .allRecoverable .anyRecoverable).run
    (World.holding committingRecord))
  rw [← disagreeingPass] at executes
  revert counts doubts executes
  generalize disagreeingPass = pass
  rcases pass with ⟨error | report, final⟩
  · nofun
  · intro counts doubts executes
    have accounts := recoverRecords_accounts (World.keyed_holding committingRecord) executes
    have isSelected : (World.holding committingRecord).selected .anyRecoverable "tx-1" =
        some committingRecord :=
      World.selected_eq_some.mpr ⟨World.journal_holding committingRecord "tx-1", rfl, rfl⟩
    rcases accounts.1 "tx-1" (by simp [committingRecord, startedRecord, TxJournalRecord.started])
      committingRecord isSelected rfl with ⟨last, durable, accounted⟩
    rw [durable] at doubts
    exact ⟨report, final, executes, Option.some.inj counts, last, durable, Option.some.inj doubts,
      accounted⟩

end AriaUnderlay
