import AriaUnderlay.Core.Ownership

/-!
# Custody of a transaction

A task that is in charge of a transaction knows the durable record and the history, and only its own
calls change them.  `Custody` collects the rules by which such a task can be reasoned about, whoever
else is running.  A task that holds the locks of all devices of an unresolved transaction has
custody under the contract of the tasks.
-/

namespace AriaUnderlay

open Collections Effect

/-! ## Rules of custody -/

/-- The calls that change neither locks nor transactions. -/
def CoreOp.isQuiet : CoreOp → Bool
  | .nowUnixSecs | .inventoryGet _ _ | .adapterClient _ _ | .getCurrentState _ _
  | .getCapabilities _ | .journalGet _ | .journalListRecoverable | .shadowGet _ | .observedPut _
  | .authorize _ | .productAuditAppend _ => true
  | _ => false

/-- What it takes to be in charge of a transaction. -/
structure Custody (env : Environment coreSignature Thread World) (contract : Contract Thread World)
    (thread : Thread) (txId : String) where
  /-- The durable record and the history, as the task knows them. -/
  holds : TxJournalRecord → List TxEvent → World → Prop
  last : ∀ {record events world}, holds record events world →
    lastStored events = some record ∧ record.txId = txId
  quiet : ∀ {record events world} (op : CoreOp), op.isQuiet = true → holds record events world →
    Ensures env contract thread (interact op)
      (fun answer later => Faithful world op answer ∧ holds record events later) world
  adapterCall : ∀ {record events world} (device : DeviceInfo) (context : TxContext)
    (call : AdapterCall), context.txId = txId → device.id ∈ record.devices →
      CallPermitted events record call → holds record events world →
        Ensures env contract thread (adapterCall device context call)
          (fun answer later => holds record (events ++ [.called device.id call answer]) later) world
  journalPut : ∀ {previous events world} (site : PutSite) (record : TxJournalRecord),
    Follows events previous record → holds previous events world →
      Ensures env contract thread (journalPut site record)
        (fun answer later => match answer with
          | .ok _ => holds record (events ++ [.stored record]) later
          | .error _ => holds previous events later) world
  shadowPut : ∀ {record events world} (state : DeviceShadowState),
    record.phase = .recovering ∨ record.phase = .committed → holds record events world →
    Ensures env contract thread (shadowPut txId state)
      (fun answer later => match answer with
        | .ok _ => holds record (events ++ [.shadowStored state]) later
        | .error _ => holds record events later) world

variable {deviceId : DeviceId}

namespace Custody

variable {env : Environment coreSignature Thread World} {contract : Contract Thread World}
variable {thread : Thread} {txId : String} {custody : Custody env contract thread txId}
variable {record durable : TxJournalRecord} {events : List TxEvent} {world : World}

variable (holds : custody.holds durable events world)

include holds

theorem nowUnixSecs :
    Ensures env contract thread nowUnixSecs
      (fun _ later => custody.holds durable events later) world :=
  (custody.quiet .nowUnixSecs rfl holds).mono fun _ _ known => known.2

theorem inventoryGet {site : LookupSite} :
    Ensures env contract thread (inventoryGet site deviceId)
      (fun answer later => custody.holds durable events later ∧
        ∀ managed, answer = .ok managed → managed.info.id = deviceId) world := by
  refine (custody.quiet (.inventoryGet site deviceId) rfl holds).mono ?_
  rintro answer later ⟨faithful, holdsLater⟩
  refine ⟨holdsLater, ?_⟩
  rintro managed rfl
  exact faithful

theorem adapterClient {site : LookupSite} {endpoint : String} :
    Ensures env contract thread (adapterClient site endpoint)
      (fun _ later => custody.holds durable events later) world :=
  (custody.quiet (.adapterClient site endpoint) rfl holds).mono fun _ _ known => known.2

theorem getCapabilities {device : DeviceInfo} :
    Ensures env contract thread (getCapabilities device)
      (fun _ later => custody.holds durable events later) world :=
  (custody.quiet (.getCapabilities device) rfl holds).mono fun _ _ known => known.2

theorem shadowGet :
    Ensures env contract thread (shadowGet deviceId)
      (fun _ later => custody.holds durable events later) world :=
  (custody.quiet (.shadowGet deviceId) rfl holds).mono fun _ _ known => known.2

theorem transitionPhase {phase : TxPhase} :
    Ensures env contract thread (transitionPhase record phase)
      (fun answer later => custody.holds durable events later ∧
        match answer with
        | .ok updated => record.phase.isAllowed phase = true ∧
            ∃ now, updated = record.withPhase phase now
        | .error _ => record.phase.isAllowed phase = false) world := by
  unfold AriaUnderlay.transitionPhase validateTransition
  by_cases allowed : record.phase.isAllowed phase = true
  · rw [if_pos allowed]
    refine (custody.nowUnixSecs holds).bind fun now later holdsLater => ?_
    exact ⟨holdsLater, allowed, now, rfl⟩
  · rw [if_neg allowed]
    exact ⟨holds, by simpa using allowed⟩

end Custody

/-! ## Owning a transaction -/

/-- Every step of the program keeps the contract, and if it finishes then `post` holds. -/
abbrev Safe {α : Type} (thread : Thread) (program : Core α) (post : α → World → Prop)
    (world : World) : Prop :=
  Ensures coreEnvironment coreContract thread program post world

/-- The task alone may write the transaction, whose durable record and history it knows. -/
structure Owns (thread : Thread) (txId : String) (record : TxJournalRecord) (events : List TxEvent)
    (world : World) : Prop where
  durable : world.journal[txId]? = some record
  history : world.history txId = events
  last : lastStored events = some record
  txId_eq : record.txId = txId
  locked : world.Locked thread record.devices
  alone : world.Alone txId record.devices

section Stable

variable {thread : Thread} {before after : World} {devices : List DeviceId} {txId : String}

theorem World.Locked.stable (locked : before.Locked thread devices)
    (undisturbed : Undisturbed thread before after) :
    after.Locked thread devices :=
  ⟨locked.1, fun device isDevice => (undisturbed.locks device).mpr (locked.2 device isDevice)⟩

theorem World.Alone.stable (alone : before.Alone txId devices)
    (locked : before.Locked thread devices) (undisturbed : Undisturbed thread before after) :
    after.Alone txId devices := by
  intro other record device durable requires isRecord isDevice
  exact alone other record device
    (undisturbed.appears other record device durable isRecord (locked.2 device isDevice))
    requires isRecord isDevice

theorem Owns.stable {record : TxJournalRecord} {events : List TxEvent}
    (owns : Owns thread txId record events before) (undisturbed : Undisturbed thread before after) :
    Owns thread txId record events after := by
  obtain ⟨device, rest, isCons⟩ := List.exists_cons_of_ne_nil owns.locked.1
  have isDevice : device ∈ record.devices := by simp [isCons]
  obtain ⟨durable, same⟩ := undisturbed.owned txId record device owns.durable isDevice
    (owns.locked.2 device isDevice)
  exact
    { durable := durable
      history := same.trans owns.history
      last := owns.last
      txId_eq := owns.txId_eq
      locked := owns.locked.stable undisturbed
      alone := owns.alone.stable owns.locked undisturbed }

end Stable

/-! ## Rules under the contract -/

section Rules

variable {thread : Thread} {world : World} {txId : String}
variable {previous record : TxJournalRecord} {events : List TxEvent}

theorem safe_interact {op : CoreOp} {post : op.Answer → World → Prop}
    (holds : ∀ answer, Faithful world op answer → Available world op answer →
      CoreStep thread world (world.after thread op answer) ∧
        ∀ later, Undisturbed thread (world.after thread op answer) later → Consistent later →
          post answer later) :
    Safe thread (interact op) post world := by
  rintro answer after ⟨faithful, available, rfl⟩
  exact holds answer faithful available

theorem quiet_after {op : CoreOp} (quiet : op.isQuiet = true) (answer : op.Answer) :
    (world.after thread op answer).locks = world.locks ∧
      world.SameLedger (world.after thread op answer) := by
  cases op <;> first
    | exact ⟨rfl, rfl, rfl, rfl⟩
    | (cases answer <;> exact ⟨rfl, rfl, rfl, rfl⟩)
    | cases quiet

theorem safe_quiet {op : CoreOp} (quiet : op.isQuiet = true) :
    Safe thread (interact op)
      (fun answer later => Faithful world op answer ∧ Undisturbed thread world later ∧
        Consistent later) world := by
  refine safe_interact fun answer faithful _ => ?_
  obtain ⟨locks, same⟩ := @quiet_after thread world op quiet answer
  refine ⟨.lock same fun device => .inl (congrFun locks device), ?_⟩
  intro later undisturbed consistent
  exact ⟨faithful, (Undisturbed.of_sameLedger locks same).trans undisturbed, consistent⟩

/-- A call that is none of the transaction's business. -/
theorem safe_quiet_owns {op : CoreOp} (quiet : op.isQuiet = true)
    (owns : Owns thread txId previous events world) :
    Safe thread (interact op)
      (fun answer later => Faithful world op answer ∧ Owns thread txId previous events later)
      world :=
  (safe_quiet quiet).mono fun _ _ ⟨faithful, undisturbed, _⟩ =>
    ⟨faithful, owns.stable undisturbed⟩

theorem World.Alone.of_stores {after : World} (alone : world.Alone record.txId record.devices)
    (stores : world.Stores after record) :
    after.Alone record.txId record.devices := by
  intro other rival device durable requires isRival isDevice
  rw [stores.getElem?] at durable
  split at durable
  · assumption
  · exact alone other rival device durable requires isRival isDevice

/-- The task owns what it has stored under its locks. -/
theorem owns_of_stores {after : World} (stores : world.Stores after record)
    (history : world.history record.txId = events) (locked : world.Locked thread record.devices)
    (alone : world.Alone record.txId record.devices) :
    Owns thread record.txId record (events ++ [.stored record]) after where
  durable := by simp [stores.getElem?]
  history := by simp [stores.history_eq, history]
  last := by simp
  txId_eq := rfl
  locked := by simpa [World.Locked, stores.locks] using locked
  alone := alone.of_stores stores

theorem safe_journalPut {site : PutSite} (owns : Owns thread txId previous events world)
    (follows : Follows events previous record) :
    Safe thread (journalPut site record)
      (fun answer later => match answer with
        | .ok _ => Owns thread txId record (events ++ [.stored record]) later
        | .error _ => Owns thread txId previous events later) world := by
  obtain rfl : record.txId = txId := follows.txId_eq.trans owns.txId_eq
  refine safe_interact fun answer _ _ => ?_
  cases answer with
  | error error =>
      refine ⟨.lock ⟨rfl, rfl, rfl⟩ fun device => .inl rfl, ?_⟩
      exact fun later undisturbed _ => owns.stable undisturbed
  | ok _ =>
      have stores : world.Stores
          (world.after thread (.journalPut site record) (.ok ())) record :=
        ⟨rfl, rfl, rfl, rfl⟩
      have legal : LegalNext record.txId (world.history record.txId) (.stored record) := by
        simpa [LegalNext, owns.history, owns.last] using follows
      have locked : world.Locked thread record.devices := follows.devices_eq ▸ owns.locked
      have alone : world.Alone record.txId record.devices := follows.devices_eq ▸ owns.alone
      refine ⟨.store previous record stores owns.durable follows.devices_eq locked alone legal, ?_⟩
      intro later undisturbed _
      exact (owns_of_stores stores owns.history locked alone).stable undisturbed

/-- An event other than a store. -/
theorem Owns.log (owns : Owns thread txId previous events world) (after : World) (event : TxEvent)
    (isCall : event.record? = none) (legal : LegalNext txId events event)
    (locks : after.locks = world.locks) (drawn : after.drawn = world.drawn)
    (journal : after.journal = world.journal)
    (history : after.history = Function.update world.history txId (world.history txId ++ [event])) :
    CoreStep thread world after ∧
      ∀ later, Undisturbed thread after later →
        Owns thread txId previous (events ++ [event]) later := by
  constructor
  · exact .log txId previous event isCall locks drawn journal history owns.durable owns.locked
      (owns.history ▸ legal)
  · intro later undisturbed
    have logged : Owns thread txId previous (events ++ [event]) after :=
      { durable := journal ▸ owns.durable
        history := by simp [history, owns.history]
        last := by simpa [isCall] using owns.last
        txId_eq := owns.txId_eq
        locked := by simpa [World.Locked, locks] using owns.locked
        alone := by simpa [World.Alone, journal] using owns.alone }
    exact logged.stable undisturbed

theorem safe_adapterCall {device : DeviceInfo} {context : TxContext} {call : AdapterCall}
    (owns : Owns thread context.txId previous events world)
    (isDevice : device.id ∈ previous.devices) (permitted : CallPermitted events previous call) :
    Safe thread (adapterCall device context call)
      (fun answer later =>
        Owns thread context.txId previous (events ++ [.called device.id call answer]) later)
      world := by
  refine safe_interact fun answer _ _ => ?_
  obtain ⟨step, continues⟩ := owns.log
    (world.after thread (.adapter device context call) answer) (.called device.id call answer) rfl
    ⟨previous, owns.last, isDevice, permitted⟩ rfl rfl rfl rfl
  exact ⟨step, fun later undisturbed _ => continues later undisturbed⟩

theorem safe_shadowPut {state : DeviceShadowState} (owns : Owns thread txId previous events world)
    (permitted : previous.phase = .recovering ∨ previous.phase = .committed) :
    Safe thread (shadowPut txId state)
      (fun answer later => match answer with
        | .ok _ => Owns thread txId previous (events ++ [.shadowStored state]) later
        | .error _ => Owns thread txId previous events later) world := by
  refine safe_interact fun answer _ _ => ?_
  cases answer with
  | error error =>
      refine ⟨.lock ⟨rfl, rfl, rfl⟩ fun device => .inl rfl, ?_⟩
      exact fun later undisturbed _ => owns.stable undisturbed
  | ok _ =>
      obtain ⟨step, continues⟩ := owns.log
        (world.after thread (.shadowPut txId state) (.ok ())) (.shadowStored state) rfl
        ⟨previous, owns.last, permitted⟩ rfl rfl rfl rfl
      exact ⟨step, fun later undisturbed _ => continues later undisturbed⟩

/-- A task that owns a transaction has custody of it. -/
def ownership (thread : Thread) (txId : String) :
    Custody coreEnvironment coreContract thread txId where
  holds := Owns thread txId
  last := fun owns => ⟨owns.last, owns.txId_eq⟩
  quiet := fun _ quiet owns => safe_quiet_owns quiet owns
  adapterCall := fun _ _ _ sameTx isDevice permitted owns => by
    subst sameTx
    exact safe_adapterCall owns isDevice permitted
  journalPut := fun _ _ follows owns => safe_journalPut owns follows
  shadowPut := fun _ permitted owns => safe_shadowPut owns permitted

/-! ## Coming to own a transaction -/

/-- The task holds the locks of the devices, and no unresolved transaction occupies them. -/
structure Cleared (thread : Thread) (devices : List DeviceId) (world : World) : Prop where
  locked : world.Locked thread devices
  clear : ∀ txId, world.Alone txId devices

/-- The task alone knows the name of a transaction that has not been stored. -/
structure Drawn (thread : Thread) (txId : String) (world : World) : Prop where
  drawn : world.drawn txId = some thread
  absent : world.journal[txId]? = none
  silent : world.history txId = []

variable {devices : List DeviceId}

theorem Cleared.stable {later : World} (cleared : Cleared thread devices world)
    (undisturbed : Undisturbed thread world later) :
    Cleared thread devices later where
  locked := cleared.locked.stable undisturbed
  clear := fun txId => (cleared.clear txId).stable cleared.locked undisturbed

theorem Drawn.stable {later : World} (drawn : Drawn thread txId world)
    (undisturbed : Undisturbed thread world later) :
    Drawn thread txId later := by
  obtain ⟨isDrawn, absent, same⟩ := undisturbed.drawn txId drawn.drawn drawn.absent
  exact ⟨isDrawn, absent, same.trans drawn.silent⟩

theorem safe_newTxId (cleared : Cleared thread devices world) :
    Safe thread newTxId
      (fun txId later => Drawn thread txId later ∧ Cleared thread devices later) world := by
  refine safe_interact fun answer _ unused => ?_
  refine ⟨.draw answer unused rfl rfl rfl rfl, fun later undisturbed _ => ⟨?_, ?_⟩⟩
  · have drawn : Drawn thread answer (world.after thread .newTxId answer) :=
      ⟨@Function.update_self String (fun _ => Option Thread) _ answer (some thread) world.drawn,
        unused.2.1, unused.2.2⟩
    exact drawn.stable undisturbed
  · have still : Cleared thread devices (world.after thread .newTxId answer) :=
      ⟨cleared.locked, cleared.clear⟩
    exact still.stable undisturbed

/-- The first record of a transaction. -/
theorem safe_journalPut_opens {site : PutSite} (opens : Opens record.txId record)
    (drawn : Drawn thread record.txId world) (cleared : Cleared thread record.devices world) :
    Safe thread (journalPut site record)
      (fun answer later => ∀ stored, answer = .ok stored →
        Owns thread record.txId record [.stored record] later) world := by
  refine safe_interact fun answer _ _ => ?_
  cases answer with
  | error error =>
      refine ⟨.lock ⟨rfl, rfl, rfl⟩ fun device => .inl rfl, ?_⟩
      exact fun later _ _ stored isOk => nomatch isOk
  | ok _ =>
      have stores : world.Stores
          (world.after thread (.journalPut site record) (.ok ())) record :=
        ⟨rfl, rfl, rfl, rfl⟩
      have legal : LegalNext record.txId (world.history record.txId) (.stored record) := by
        simpa [LegalNext, drawn.silent, lastStored, storedRecords] using opens
      refine ⟨.openTx record stores drawn.drawn drawn.absent cleared.locked (cleared.clear _) legal,
        ?_⟩
      intro later undisturbed _ _ _
      exact (owns_of_stores stores drawn.silent cleared.locked (cleared.clear _)).stable undisturbed

/-! ## Locks -/

theorem safe_acquireWithPolicy (nonempty : devices ≠ []) :
    Safe thread (acquireWithPolicy devices)
      (fun answer later => ∀ taken, answer = .ok taken → later.Locked thread devices) world := by
  refine safe_interact fun answer _ available => ?_
  cases answer with
  | error error =>
      refine ⟨.lock ⟨rfl, rfl, rfl⟩ fun device => .inl rfl, ?_⟩
      exact fun later _ _ taken isOk => nomatch isOk
  | ok _ =>
      have locked : (world.after thread (.acquireWithPolicy devices) (.ok ())).Locked thread
          devices :=
        ⟨nonempty, fun device isDevice => if_pos isDevice⟩
      refine ⟨.lock ⟨rfl, rfl, rfl⟩ fun device => ?_, ?_⟩
      · by_cases isDevice : device ∈ devices
        · exact .inr (.inl ⟨available device isDevice, if_pos isDevice⟩)
        · exact .inl (if_neg isDevice)
      · exact fun later undisturbed _ _ _ => locked.stable undisturbed

theorem safe_acquire :
    Safe thread (acquire deviceId)
      (fun _ later => later.locks deviceId = some thread ∧
        (∀ device, world.locks device = some thread → later.locks device = some thread) ∧
          Consistent later) world := by
  refine safe_interact fun answer _ free => ?_
  have taken : (world.after thread (.acquire deviceId) answer).locks deviceId = some thread := by
    simp [World.after]
  have others : ∀ device, device ≠ deviceId →
      (world.after thread (.acquire deviceId) answer).locks device = world.locks device := by
    intro device ne
    simp [World.after, ne]
  refine ⟨.lock ⟨rfl, rfl, rfl⟩ fun device => ?_, fun later undisturbed consistent => ?_⟩
  · by_cases same : device = deviceId
    · subst same
      exact .inr (.inl ⟨free, taken⟩)
    · exact .inl (others device same)
  · refine ⟨(undisturbed.locks deviceId).mpr taken, fun device held => ?_, consistent⟩
    refine (undisturbed.locks device).mpr ?_
    by_cases same : device = deviceId
    · exact same ▸ taken
    · exact (others device same).trans held

theorem safe_release :
    Safe thread (release devices) (fun _ later => Consistent later) world := by
  refine safe_interact fun answer _ _ => ⟨.lock ⟨rfl, rfl, rfl⟩ fun device => ?_,
    fun later _ consistent => consistent⟩
  by_cases held : device ∈ devices ∧ world.locks device = some thread
  · exact .inr (.inr ⟨held.2, if_pos held⟩)
  · exact .inl (if_neg held)

end Rules

end AriaUnderlay
