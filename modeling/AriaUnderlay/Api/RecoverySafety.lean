import AriaUnderlay.Api.AdminOps
import AriaUnderlay.Api.ApplySafety
import AriaUnderlay.Api.RecoveryOutcome

/-!
# Recovery and force resolve keep the contract

Both read a record, take the locks of its devices and read the record again.  Devices of a record
never change, so the locks are those of the record that is read under them, and an unresolved record
whose devices are locked is owned.
-/

namespace AriaUnderlay

open Collections Effect

/-! ## What every task preserves -/

/-- Records stay, with their devices. -/
def World.Persists (before after : World) : Prop :=
  ∀ (txId : String) (record : TxJournalRecord), before.journal[txId]? = some record →
    ∃ later : TxJournalRecord, after.journal[txId]? = some later ∧ later.devices = record.devices

section Persists

variable {thread : Thread} {before middle after : World}

theorem World.Persists.refl (world : World) : world.Persists world :=
  fun _ record durable => ⟨record, durable, rfl⟩

theorem World.Persists.trans (first : before.Persists middle) (second : middle.Persists after) :
    before.Persists after := by
  intro txId record durable
  obtain ⟨later, durableMiddle, sameMiddle⟩ := first txId record durable
  obtain ⟨last, durableAfter, same⟩ := second txId later durableMiddle
  exact ⟨last, durableAfter, same.trans sameMiddle⟩

theorem CoreStep.persists (step : CoreStep thread before after) : before.Persists after := by
  -- a task whose number differs is not disturbed, and that includes the records
  have differ : thread ≠ thread + 1 := Nat.ne_of_lt (Nat.lt_succ_self thread)
  exact (step.undisturbed differ).persists

theorem Safe.persists {α : Type} {program : Core α} {post : α → World → Prop} {world : World}
    (safe : Safe thread program post world) :
    Safe thread program (fun value later => post value later ∧ world.Persists later) world :=
  safe.reaching World.Persists.refl World.Persists.trans CoreStep.persists Undisturbed.persists

end Persists

/-! ## Locks -/

section Locks

variable {thread : Thread} {world : World} {devices : List DeviceId}

theorem safe_acquireMany (devices : List DeviceId) (consistent : Consistent world) :
    Safe thread (acquireMany devices)
      (fun _ later => (∀ device, device ∈ devices ∨ world.locks device = some thread →
        later.locks device = some thread) ∧ Consistent later) world := by
  induction devices generalizing world with
  | nil => exact ⟨fun device held => held.resolve_left List.not_mem_nil, consistent⟩
  | cons first rest ih =>
      refine safe_acquire.bind ?_
      rintro _ later ⟨taken, kept, consistent⟩
      refine (ih consistent).mono ?_
      rintro _ last ⟨holds, consistent⟩
      refine ⟨fun device wanted => ?_, consistent⟩
      rcases wanted with isDevice | held
      · rcases List.mem_cons.mp isDevice with rfl | isRest
        · exact holds device (.inr taken)
        · exact holds device (.inl isRest)
      · exact holds device (.inr (kept device held))

/-- Run a program under locks that it may rely on. -/
theorem safe_underLocks {α : Type} {program : CoreResult α} (consistent : Consistent world)
    (inside : ∀ later, Consistent later →
      (∀ device ∈ devices, later.locks device = some thread) → world.Persists later →
        Safe thread program.run (fun _ _ => True) later) :
    Safe thread (underLocks devices program).run
      (fun _ later => Consistent later ∧ world.Persists later) world := by
  refine Safe.persists ?_
  refine (safe_acquireMany (orderedDeviceIds devices) consistent).persists.bind ?_
  rintro _ locked ⟨⟨held, consistent⟩, persists⟩
  have heldAll : ∀ device ∈ devices, locked.locks device = some thread :=
    fun device isDevice => held device (.inl (mem_orderedDeviceIds.mpr isDevice))
  refine (inside locked consistent heldAll persists).bind fun outcome _ _ => ?_
  exact safe_release.bind fun _ _ consistent => consistent

end Locks

/-! ## Owning what was read -/

variable {devices : List DeviceId}

section Read

variable {thread : Thread} {world : World} {txId : String}

/-- An unresolved record whose devices are locked is owned. -/
theorem Consistent.owns {record : TxJournalRecord} (consistent : Consistent world)
    (durable : world.journal[txId]? = some record) (requires : record.phase.requiresRecovery = true)
    (held : ∀ device ∈ record.devices, world.locks device = some thread) :
    Owns thread txId record (world.history txId) world := by
  have last : lastStored (world.history txId) = some record :=
    (consistent.journal txId).symm.trans durable
  have identified := (consistent.legal txId).lastStored last
  exact
    { durable := durable
      history := rfl
      last := last
      txId_eq := identified.txId_eq
      locked := ⟨identified.nonempty, held⟩
      alone := consistent.alone txId record durable requires }

/-- The record that a task reads under the locks of its devices. -/
theorem safe_journalGet (consistent : Consistent world)
    (known : ∃ record : TxJournalRecord, world.journal[txId]? = some record ∧
      record.devices = devices) (held : ∀ device ∈ devices, world.locks device = some thread) :
    Safe thread (journalGet txId)
      (fun answer later => ∀ record, answer = .ok (some record) →
        record.phase.requiresRecovery = true →
          ∃ events, Owns thread txId record events later) world := by
  refine (safe_quiet rfl).mono ?_
  rintro answer later ⟨faithful, undisturbed, -⟩ record rfl requires
  have durable : world.journal[txId]? = some record := Eq.symm faithful
  obtain ⟨found, isFound, rfl⟩ := known
  obtain rfl : found = record := Option.some_inj.mp (isFound.symm.trans durable)
  exact ⟨_, (consistent.owns durable requires held).stable undisturbed⟩

end Read

/-! ## The recovery pass -/

section Recovery

variable {thread : Thread} {world : World} {txId : String}

theorem safe_carryOut {record : TxJournalRecord} {events : List TxEvent}
    (owns : Owns thread txId record events world) :
    Safe thread (carryOut record (classifyRecovery record).action).run
      (fun _ _ => True) world := by
  change Safe thread (carryOut record (recoveryActionForPhase record.phase)).run _ world
  have holds : (ownership thread txId).holds record events world := owns
  cases decided : recoveryActionForPhase record.phase with
  | noop => trivial
  | manualIntervention =>
      have inDoubt : record.phase = .inDoubt := by
        cases phase : record.phase <;> simp_all [recoveryActionForPhase]
      simp only [carryOut, inDoubt, if_true]
      trivial
  | discardPreparedChanges =>
      exact (ensures_carryOut decided.symm (.inl rfl) holds).mono fun _ _ _ => trivial
  | adapterRecover =>
      exact (ensures_carryOut decided.symm (.inr rfl) holds).mono fun _ _ _ => trivial

theorem safe_recoverLocked {gate : RecoveryRecordGate} {tally : RecoveryTally}
    (consistent : Consistent world)
    (known : ∃ record : TxJournalRecord, world.journal[txId]? = some record ∧
      record.devices = devices) (held : ∀ device ∈ devices, world.locks device = some thread) :
    Safe thread (recoverLocked gate txId tally).run (fun _ _ => True) world := by
  refine Ensures.bindResult (safe_journalGet consistent known held) ?_ fun _ _ _ => trivial
  intro found later owned
  cases found with
  | none => trivial
  | some record =>
      dsimp only
      split
      · rename_i selected
        have requires : record.phase.requiresRecovery = true := (Bool.and_eq_true_iff.mp selected).1
        obtain ⟨events, owns⟩ := owned record rfl requires
        exact Ensures.bindResult (safe_carryOut owns) (fun _ _ _ => trivial) fun _ _ _ => trivial
      · trivial

/-- The journal knows the candidates by their devices. -/
def World.Knows (world : World) (candidates : List TxJournalRecord) : Prop :=
  ∀ candidate ∈ candidates, ∃ record : TxJournalRecord,
    world.journal[candidate.txId]? = some record ∧ record.devices = candidate.devices

variable {candidates : List TxJournalRecord}

theorem World.Knows.persists {later : World} (knows : world.Knows candidates)
    (persists : world.Persists later) :
    later.Knows candidates := by
  intro candidate isCandidate
  obtain ⟨record, durable, devices⟩ := knows candidate isCandidate
  obtain ⟨last, durableLater, same⟩ := persists _ record durable
  exact ⟨last, durableLater, same.trans devices⟩

theorem safe_recoverCandidates {gate : RecoveryRecordGate} {tally : RecoveryTally}
    (consistent : Consistent world) (knows : world.Knows candidates) :
    Safe thread (recoverCandidates gate candidates tally).run (fun _ _ => True) world := by
  induction candidates generalizing world tally with
  | nil => trivial
  | cons candidate rest ih =>
      refine Ensures.bindResult (safe_underLocks consistent ?_) ?_ fun _ _ _ => trivial
      · intro later consistent held persists
        exact safe_recoverLocked consistent (knows.persists persists candidate List.mem_cons_self)
          held
      · rintro tally later ⟨consistent, persists⟩
        exact ih consistent fun other isOther =>
          knows.persists persists other (List.mem_cons_of_mem _ isOther)

theorem safe_listRecoverable (consistent : Consistent world) :
    Safe thread listRecoverable
      (fun answer later => ∀ records, answer = .ok records →
        Consistent later ∧ later.Knows records) world := by
  refine (safe_quiet rfl).mono ?_
  rintro answer later ⟨faithful, undisturbed, consistentLater⟩ records rfl
  obtain rfl : records = recoverableRecords world.journal := faithful
  have knows : world.Knows (recoverableRecords world.journal) := by
    intro candidate isCandidate
    obtain ⟨⟨key, record⟩, isEntry, rfl⟩ := List.mem_map.mp (List.mem_filter.mp isCandidate).1
    have durable : world.journal[key]? = some record :=
      Std.ExtTreeMap.mem_toList_iff_getElem?_eq_some.mp isEntry
    have last := (consistent.journal key).symm.trans durable
    have named : record.txId = key := ((consistent.legal key).lastStored last).txId_eq
    exact ⟨record, named ▸ durable, rfl⟩
  exact ⟨consistentLater, knows.persists undisturbed.persists⟩

theorem safe_recoverRecords {scope : RecoveryReportScope} {gate : RecoveryRecordGate}
    (consistent : Consistent world) (knows : world.Knows candidates) :
    Safe thread (recoverRecords candidates scope gate).run (fun _ _ => True) world := by
  refine Ensures.bindResult (safe_recoverCandidates consistent knows) ?_ fun _ _ _ => trivial
  intro tally later _
  have lists : Safe thread listRecoverable (fun _ _ => True) later :=
    (safe_quiet rfl).mono fun _ _ _ => trivial
  exact Ensures.bindResult lists (fun _ _ _ => trivial) fun _ _ _ => trivial

/-- A recovery pass over everything keeps the contract of the tasks. -/
theorem safe_recoverPendingTransactions (consistent : Consistent world) :
    Safe thread recoverPendingTransactions.run (fun _ _ => True) world := by
  refine Ensures.bindResult (safe_listRecoverable consistent) ?_ fun _ _ _ => trivial
  intro records later reached
  obtain ⟨consistent, knows⟩ := reached records rfl
  exact safe_recoverRecords consistent knows

/-- A recovery pass over timed-out confirmed commits keeps the contract of the tasks. -/
theorem safe_recoverTimedOutConfirmedCommits {nowUnixSecs timeoutSecs : ℕ}
    (consistent : Consistent world) :
    Safe thread (recoverTimedOutConfirmedCommits nowUnixSecs timeoutSecs).run
      (fun _ _ => True) world := by
  refine Ensures.bindResult (safe_listRecoverable consistent) ?_ fun _ _ _ => trivial
  intro records later reached
  obtain ⟨consistent, knows⟩ := reached records rfl
  exact safe_recoverRecords consistent fun candidate isCandidate =>
    knows candidate (List.mem_filter.mp isCandidate).1

end Recovery

/-! ## Force resolve -/

section ForceResolve

variable {thread : Thread} {world : World} {request : ForceResolveTransactionRequest}

theorem safe_forceResolveLocked (consistent : Consistent world)
    (known : ∃ record : TxJournalRecord, world.journal[request.txId]? = some record ∧
      record.devices = devices) (held : ∀ device ∈ devices, world.locks device = some thread) :
    Safe thread (forceResolveLocked request).run (fun _ _ => True) world := by
  have reads : Safe thread (existingRecord request.txId).run
      (fun answer later => ∀ record, answer = .ok record →
        record.phase.requiresRecovery = true →
          ∃ events, Owns thread request.txId record events later) world := by
    refine Ensures.bindResult (safe_journalGet consistent known held) ?_ fun _ _ _ _ impossible =>
      nomatch impossible
    intro found later owned
    cases found with
    | none => exact fun _ impossible => nomatch impossible
    | some record =>
        intro other isRecord requires
        obtain rfl := Except.ok.inj isRecord
        exact owned record rfl requires
  refine Ensures.bindResult reads ?_ fun _ _ _ => trivial
  intro record later owned
  dsimp only
  split
  · trivial
  · rename_i inDoubt
    have inDoubt : record.phase = .inDoubt := not_not.mp inDoubt
    obtain ⟨events, owns⟩ := owned record rfl (by rw [inDoubt]; rfl)
    refine Ensures.bindResult (safe_quiet_owns rfl owns) ?_ fun _ _ _ => trivial
    rintro authorization _ ⟨-, owns⟩
    refine Ensures.bindLift (safe_quiet_owns rfl owns) ?_
    rintro auditedAt _ ⟨-, owns⟩
    have audits : ∀ audit, ∀ {before}, Owns thread request.txId record events before →
        Safe thread (appendAudit audit)
          (fun _ later => Owns thread request.txId record events later) before := by
      intro audit before owns
      exact (safe_quiet_owns rfl owns).bind fun _ _ known => known.2
    refine Ensures.bindResult (audits _ owns) ?_ fun _ _ _ => trivial
    intro _ _ owns
    refine Ensures.bindLift (safe_quiet_owns rfl owns) ?_
    rintro resolvedAt _ ⟨-, owns⟩
    have holds : (ownership thread request.txId).holds record events _ := owns
    have same := (TxJournalRecord.SameSubject.refl record).withManualResolution request.operator
      request.reason request.requestId (request.traceId.getD request.requestId) resolvedAt
    refine Ensures.bindResult (ensures_storePhase same (by rw [inDoubt]; rfl) nofun
      (fun _ => nofun)
      holds) ?_ fun _ _ _ => trivial
    exact fun _ _ _ => trivial

attribute [local irreducible] validateForceResolveRequest

/-- A force resolve keeps the contract of the tasks. -/
theorem safe_forceResolveTransaction :
    Safe thread (forceResolveTransaction request).run (fun _ _ => True) world := by
  have validates : Safe thread (pure (validateForceResolveRequest request) : Core _)
      (fun _ later => world = later) world := rfl
  refine Ensures.bindResult validates ?_ fun _ _ _ => trivial
  rintro _ _ rfl
  have reads : Safe thread (existingRecord request.txId).run
      (fun answer later => ∀ candidate, answer = .ok candidate → Consistent later ∧
        ∃ record : TxJournalRecord, later.journal[request.txId]? = some record ∧
          record.devices = candidate.devices) world := by
    have gets : Safe thread (journalGet request.txId)
        (fun answer later => ∀ candidate, answer = .ok (some candidate) → Consistent later ∧
          ∃ record : TxJournalRecord, later.journal[request.txId]? = some record ∧
            record.devices = candidate.devices) world := by
      refine (safe_quiet rfl).mono ?_
      rintro answer later ⟨faithful, undisturbed, consistentLater⟩ candidate rfl
      have durable : world.journal[request.txId]? = some candidate := Eq.symm faithful
      exact ⟨consistentLater, undisturbed.persists _ candidate durable⟩
    refine Ensures.bindResult gets ?_ fun _ _ _ _ impossible => nomatch impossible
    intro found later known
    cases found with
    | none => exact fun _ impossible => nomatch impossible
    | some record =>
        intro candidate isCandidate
        obtain rfl := Except.ok.inj isCandidate
        exact known record rfl
  refine Ensures.bindResult reads ?_ fun _ _ _ => trivial
  intro candidate later known
  obtain ⟨consistent, record, durable, devices⟩ := known candidate rfl
  refine (safe_underLocks consistent ?_).mono fun _ _ _ => trivial
  intro locked consistent held persists
  obtain ⟨last, durableLocked, same⟩ := persists _ record durable
  exact safe_forceResolveLocked consistent ⟨last, durableLocked, same.trans devices⟩ held

end ForceResolve

end AriaUnderlay
