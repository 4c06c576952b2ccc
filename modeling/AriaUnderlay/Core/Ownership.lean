import AriaUnderlay.Core.History
import AriaUnderlay.Effect.RelyGuarantee

/-!
# Who may write which transaction

The tasks of one process share the journal and the endpoint locks.  A task writes a transaction only
while it holds the locks of all devices of the transaction, or while it alone has drawn the
transaction's name.  The contract below states this discipline: what a task may do in one step, what
the others therefore leave alone, and the invariant that the histories are legal and that no device
has two unresolved transactions.
-/

namespace AriaUnderlay

open Collections Effect

/-! ## The contract -/

/-- No other unresolved transaction occupies one of the devices. -/
def World.Alone (world : World) (txId : String) (devices : List DeviceId) : Prop :=
  ∀ other record device, world.journal[other]? = some record →
    record.phase.requiresRecovery = true → device ∈ record.devices → device ∈ devices →
      other = txId

/-- The task holds the locks of all devices, of which there is at least one. -/
def World.Locked (world : World) (thread : Thread) (devices : List DeviceId) : Prop :=
  devices ≠ [] ∧ ∀ device ∈ devices, world.locks device = some thread

/-- The parts of the world that tasks have to agree on. -/
structure World.SameLedger (before after : World) : Prop where
  drawn : after.drawn = before.drawn
  journal : after.journal = before.journal
  history : after.history = before.history

/-- A record is stored and logged. -/
structure World.Stores (before after : World) (record : TxJournalRecord) : Prop where
  locks : after.locks = before.locks
  drawn : after.drawn = before.drawn
  journal : after.journal = before.journal.insert record.txId record
  history : after.history = Function.update before.history record.txId
    (before.history record.txId ++ [.stored record])

/-- What a task may do in one step. -/
inductive CoreStep (thread : Thread) (before after : World) : Prop where
  | lock (same : before.SameLedger after)
      (own : ∀ device, after.locks device = before.locks device ∨
        before.locks device = none ∧ after.locks device = some thread ∨
        before.locks device = some thread ∧ after.locks device = none)
  | draw (txId : String)
      (unused : before.Unused txId)
      (locks : after.locks = before.locks)
      (drawn : after.drawn = Function.update before.drawn txId (some thread))
      (journal : after.journal = before.journal)
      (history : after.history = before.history)
  | openTx (record : TxJournalRecord)
      (stores : before.Stores after record)
      (drawn : before.drawn record.txId = some thread)
      (absent : before.journal[record.txId]? = none)
      (locked : before.Locked thread record.devices)
      (alone : before.Alone record.txId record.devices)
      (legal : LegalNext record.txId (before.history record.txId) (.stored record))
  | store (previous record : TxJournalRecord)
      (stores : before.Stores after record)
      (durable : before.journal[record.txId]? = some previous)
      (devices : record.devices = previous.devices)
      (locked : before.Locked thread record.devices)
      (alone : before.Alone record.txId record.devices)
      (legal : LegalNext record.txId (before.history record.txId) (.stored record))
  | log (txId : String) (previous : TxJournalRecord) (event : TxEvent)
      (isCall : event.record? = none)
      (locks : after.locks = before.locks)
      (drawn : after.drawn = before.drawn)
      (journal : after.journal = before.journal)
      (history : after.history = Function.update before.history txId
        (before.history txId ++ [event]))
      (durable : before.journal[txId]? = some previous)
      (locked : before.Locked thread previous.devices)
      (legal : LegalNext txId (before.history txId) event)

/-- What the other tasks leave alone. -/
structure Undisturbed (thread : Thread) (before after : World) : Prop where
  locks : ∀ device, after.locks device = some thread ↔ before.locks device = some thread
  drawn : ∀ txId, before.drawn txId = some thread → before.journal[txId]? = none →
    after.drawn txId = some thread ∧ after.journal[txId]? = none ∧
      after.history txId = before.history txId
  owned : ∀ (txId : String) (record : TxJournalRecord) (device : DeviceId),
    before.journal[txId]? = some record → device ∈ record.devices →
      before.locks device = some thread →
        after.journal[txId]? = some record ∧ after.history txId = before.history txId
  appears : ∀ (txId : String) (record : TxJournalRecord) (device : DeviceId),
    after.journal[txId]? = some record → device ∈ record.devices →
      before.locks device = some thread → before.journal[txId]? = some record
  persists : ∀ (txId : String) (record : TxJournalRecord), before.journal[txId]? = some record →
    ∃ later : TxJournalRecord, after.journal[txId]? = some later ∧ later.devices = record.devices

/-- Histories are legal, the journal holds the last record of each, and no device has two unresolved
transactions. -/
structure Consistent (world : World) : Prop where
  legal : ∀ txId, Legal txId (world.history txId)
  journal : ∀ txId, world.journal[txId]? = lastStored (world.history txId)
  alone : ∀ txId record, world.journal[txId]? = some record →
    record.phase.requiresRecovery = true → world.Alone txId record.devices

/-- What tasks grant each other. -/
def coreContract : Contract Thread World where
  guarantee := CoreStep
  rely := Undisturbed
  invariant := Consistent

/-! ## The contract is sound -/

section Contract

variable {thread other : Thread} {before after : World} {record : TxJournalRecord}

theorem World.Stores.getElem? (stores : before.Stores after record) (txId : String) :
    after.journal[txId]? = if txId = record.txId then some record else before.journal[txId]? := by
  rw [stores.journal, Std.ExtTreeMap.getElem?_insert]
  by_cases same : txId = record.txId
  · simp [same]
  · simp [same, Ne.symm same]

theorem World.Stores.history_eq (stores : before.Stores after record) (txId : String) :
    after.history txId =
      if txId = record.txId then before.history txId ++ [.stored record]
      else before.history txId := by
  rw [stores.history]
  by_cases same : txId = record.txId
  · subst same
    simp
  · simp [same]

theorem Undisturbed.refl (thread : Thread) (world : World) : Undisturbed thread world world where
  locks := fun _ => Iff.rfl
  drawn := fun _ drawn absent => ⟨drawn, absent, rfl⟩
  owned := fun _ _ _ durable _ _ => ⟨durable, rfl⟩
  appears := fun _ _ _ durable _ _ => durable
  persists := fun _ record durable => ⟨record, durable, rfl⟩

theorem Undisturbed.of_sameLedger (locks : after.locks = before.locks)
    (same : before.SameLedger after) :
    Undisturbed thread before after where
  locks := fun device => by rw [locks]
  drawn := fun txId drawn absent => ⟨same.drawn ▸ drawn, same.journal ▸ absent,
    congrFun same.history txId⟩
  owned := fun txId _ _ durable _ _ => ⟨same.journal ▸ durable, congrFun same.history txId⟩
  appears := fun _ _ _ durable _ _ => same.journal ▸ durable
  persists := fun _ record durable => ⟨record, same.journal ▸ durable, rfl⟩

theorem Undisturbed.trans {middle : World} (first : Undisturbed thread before middle)
    (second : Undisturbed thread middle after) :
    Undisturbed thread before after where
  locks := fun device => (second.locks device).trans (first.locks device)
  drawn := by
    intro txId drawn absent
    obtain ⟨drawnMiddle, absentMiddle, sameMiddle⟩ := first.drawn txId drawn absent
    obtain ⟨drawnAfter, absentAfter, same⟩ := second.drawn txId drawnMiddle absentMiddle
    exact ⟨drawnAfter, absentAfter, same.trans sameMiddle⟩
  owned := by
    intro txId record device durable isDevice locked
    obtain ⟨durableMiddle, sameMiddle⟩ := first.owned txId record device durable isDevice locked
    obtain ⟨durableAfter, same⟩ := second.owned txId record device durableMiddle isDevice
      ((first.locks device).mpr locked)
    exact ⟨durableAfter, same.trans sameMiddle⟩
  appears := by
    intro txId record device durable isDevice locked
    exact first.appears txId record device
      (second.appears txId record device durable isDevice ((first.locks device).mpr locked))
      isDevice locked
  persists := by
    intro txId record durable
    obtain ⟨later, durableMiddle, sameMiddle⟩ := first.persists txId record durable
    obtain ⟨last, durableAfter, same⟩ := second.persists txId later durableMiddle
    exact ⟨last, durableAfter, same.trans sameMiddle⟩

/-- A lock is held by one task. -/
theorem World.Locked.ne {devices : List DeviceId} {device : DeviceId}
    (locked : before.Locked thread devices) (differ : thread ≠ other)
    (isDevice : device ∈ devices) :
    before.locks device ≠ some other := by
  rw [locked.2 device isDevice]
  simpa using differ

/-- A step that touches one transaction disturbs nobody who does not own it. -/
theorem Undisturbed.of_touch (touched : String) (locks : after.locks = before.locks)
    (drawn : after.drawn = before.drawn)
    (frame : ∀ txId, txId ≠ touched → after.journal[txId]? = before.journal[txId]? ∧
      after.history txId = before.history txId)
    (undrawn : before.drawn touched = some other → before.journal[touched]? ≠ none)
    (unowned : ∀ (record : TxJournalRecord) (device : DeviceId),
      before.journal[touched]? = some record ∨ after.journal[touched]? = some record →
        device ∈ record.devices → before.locks device ≠ some other)
    (persists : ∀ record : TxJournalRecord, before.journal[touched]? = some record →
      ∃ later : TxJournalRecord,
        after.journal[touched]? = some later ∧ later.devices = record.devices) :
    Undisturbed other before after := by
  refine ⟨fun device => by rw [locks], ?_, ?_, ?_, ?_⟩
  · intro txId isDrawn absent
    have ne : txId ≠ touched := by
      rintro rfl
      exact undrawn isDrawn absent
    exact ⟨drawn ▸ isDrawn, (frame txId ne).1 ▸ absent, (frame txId ne).2⟩
  · intro txId record device durable isDevice locked
    have ne : txId ≠ touched := by
      rintro rfl
      exact unowned record device (.inl durable) isDevice locked
    exact ⟨(frame txId ne).1 ▸ durable, (frame txId ne).2⟩
  · intro txId record device durable isDevice locked
    have ne : txId ≠ touched := by
      rintro rfl
      exact unowned record device (.inr durable) isDevice locked
    exact (frame txId ne).1 ▸ durable
  · intro txId record durable
    by_cases same : txId = touched
    · subst same
      exact persists record durable
    · exact ⟨record, (frame txId same).1 ▸ durable, rfl⟩

/-- One task's step leaves the transactions of the others alone. -/
theorem CoreStep.undisturbed (differ : thread ≠ other) (step : CoreStep thread before after) :
    Undisturbed other before after := by
  cases step with
  | lock same own =>
      refine ⟨fun device => ?_, ?_, ?_, ?_, ?_⟩
      · rcases own device with kept | ⟨free, taken⟩ | ⟨held, freed⟩
        · rw [kept]
        · simp [free, taken, differ]
        · simp [held, freed, differ]
      · exact fun txId drawn absent => ⟨same.drawn ▸ drawn, same.journal ▸ absent,
          congrFun same.history txId⟩
      · exact fun txId record device durable _ _ => ⟨same.journal ▸ durable,
          congrFun same.history txId⟩
      · exact fun txId record device durable _ _ => same.journal ▸ durable
      · exact fun txId record durable => ⟨record, same.journal ▸ durable, rfl⟩
  | draw txId unused locks drawn journal history =>
      refine ⟨fun device => by rw [locks], ?_, ?_, ?_, ?_⟩
      · intro name isDrawn absent
        have ne : name ≠ txId := by
          rintro rfl
          rw [unused.1] at isDrawn
          cases isDrawn
        refine ⟨?_, journal ▸ absent, congrFun history name⟩
        rw [drawn, Function.update_of_ne ne]
        exact isDrawn
      · exact fun name record device durable _ _ => ⟨journal ▸ durable, congrFun history name⟩
      · exact fun name record device durable _ _ => journal ▸ durable
      · exact fun name record durable => ⟨record, journal ▸ durable, rfl⟩
  | openTx record stores isDrawn absent locked alone legal =>
      refine .of_touch record.txId stores.locks stores.drawn ?_ ?_ ?_ ?_
      · intro txId ne
        simp [stores.getElem?, stores.history_eq, ne]
      · intro alsoDrawn
        rw [isDrawn] at alsoDrawn
        exact absurd (Option.some_inj.mp alsoDrawn) differ
      · rintro found device (durable | durable) isDevice
        · simp [absent] at durable
        · obtain rfl : record = found := by simpa [stores.getElem?] using durable
          exact locked.ne differ isDevice
      · simp [absent]
  | store previous record stores durable devices locked alone legal =>
      refine .of_touch record.txId stores.locks stores.drawn ?_ (by simp [durable]) ?_ ?_
      · intro txId ne
        simp [stores.getElem?, stores.history_eq, ne]
      · rintro found device (isFound | isFound) isDevice
        · obtain rfl : previous = found := by simpa [durable] using isFound
          exact locked.ne differ (devices ▸ isDevice)
        · obtain rfl : record = found := by simpa [stores.getElem?] using isFound
          exact locked.ne differ isDevice
      · intro found isFound
        obtain rfl : previous = found := by simpa [durable] using isFound
        exact ⟨record, by simp [stores.getElem?], devices⟩
  | log txId previous event isCall locks drawn journal history durable locked legal =>
      refine .of_touch txId locks drawn ?_ (by simp [durable]) ?_ ?_
      · intro name ne
        simp [journal, history, ne]
      · rintro found device (isFound | isFound) isDevice
        all_goals
          obtain rfl : previous = found := by simpa [journal, durable] using isFound
          exact locked.ne differ isDevice
      · exact fun found isFound => ⟨found, journal ▸ isFound, rfl⟩

theorem Consistent.of_sameLedger (consistent : Consistent before)
    (journal : after.journal = before.journal) (history : after.history = before.history) :
    Consistent after := by
  refine ⟨?_, ?_, ?_⟩
  · rw [history]
    exact consistent.legal
  · rw [history, journal]
    exact consistent.journal
  · intro txId record durable requires
    unfold World.Alone
    rw [journal] at durable ⊢
    exact consistent.alone txId record durable requires

theorem Consistent.of_stores (consistent : Consistent before) (stores : before.Stores after record)
    (alone : before.Alone record.txId record.devices)
    (legal : LegalNext record.txId (before.history record.txId) (.stored record)) :
    Consistent after := by
  refine ⟨fun txId => ?_, fun txId => ?_, ?_⟩
  · rw [stores.history_eq]
    split
    · subst txId
      exact legal_append.mpr ⟨consistent.legal _, legal⟩
    · exact consistent.legal txId
  · rw [stores.getElem?, stores.history_eq]
    split
    · simp
    · exact consistent.journal txId
  · intro txId found durable requires other rival device rivalDurable rivalRequires isRival isFound
    rw [stores.getElem?] at durable rivalDurable
    by_cases same : txId = record.txId <;> by_cases rivalSame : other = record.txId
    · rw [same, rivalSame]
    · rw [if_pos same] at durable
      rw [if_neg rivalSame] at rivalDurable
      cases durable
      exact same ▸ alone other rival device rivalDurable rivalRequires isRival isFound
    · rw [if_neg same] at durable
      rw [if_pos rivalSame] at rivalDurable
      cases rivalDurable
      exact absurd (alone txId found device durable requires isFound isRival) same
    · rw [if_neg same] at durable
      rw [if_neg rivalSame] at rivalDurable
      exact consistent.alone txId found durable requires other rival device rivalDurable
        rivalRequires isRival isFound

theorem CoreStep.consistent (consistent : Consistent before) (step : CoreStep thread before after) :
    Consistent after := by
  cases step with
  | lock same own => exact consistent.of_sameLedger same.journal same.history
  | draw txId unused locks drawn journal history => exact consistent.of_sameLedger journal history
  | openTx record stores isDrawn absent locked alone legal =>
      exact consistent.of_stores stores alone legal
  | store previous record stores durable devices locked alone legal =>
      exact consistent.of_stores stores alone legal
  | log txId previous event isCall locks drawn journal history durable locked legal =>
      refine ⟨fun name => ?_, fun name => ?_, ?_⟩
      · rw [history]
        by_cases same : name = txId
        · subst same
          simpa using legal_append.mpr ⟨consistent.legal _, legal⟩
        · simpa [same] using consistent.legal name
      · rw [history, journal]
        by_cases same : name = txId
        · subst same
          simpa [isCall] using consistent.journal name
        · simpa [same] using consistent.journal name
      · intro name record found requires
        unfold World.Alone
        rw [journal] at found ⊢
        exact consistent.alone name record found requires

theorem Consistent.restart {world : World} (consistent : Consistent world) :
    Consistent world.restart :=
  ⟨consistent.legal, consistent.journal, consistent.alone⟩

end Contract

end AriaUnderlay
