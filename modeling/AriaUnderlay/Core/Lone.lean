import AriaUnderlay.Core.Custody
import AriaUnderlay.Core.Run
import AriaUnderlay.Effect.Execution

/-!
# A task without rivals

While no other task runs, the world changes by the calls of one task only.  `loneEnvironment`
answers such a task as the stores have to and as a further condition on the answers allows.  Without
rivals the locks are free whenever they are asked for.

A lone task that has read a record is in charge of its transaction, whatever happened before: it
knows what it has added to the history since then.
-/

namespace AriaUnderlay

open Collections Effect

/-- The environment of a task that runs alone and is answered as `behaves` allows. -/
def loneEnvironment
    (behaves : (op : CoreOp) → op.Answer → Prop) : Environment coreSignature Thread World where
  respond := fun thread world op answer after =>
    behaves op answer ∧ Faithful world op answer ∧ after = world.after thread op answer
  restart := World.restart

/-- Any answer is allowed. -/
def anyAnswer (op : CoreOp) (_ : op.Answer) : Prop := True

section Lone

variable {behaves : (op : CoreOp) → op.Answer → Prop} {guarantee : World → World → Prop}
variable {thread : Thread} {world : World}

theorem lone_interact {op : CoreOp} {post : op.Answer → World → Prop}
    (holds : ∀ answer, behaves op answer → Faithful world op answer →
      guarantee world (world.after thread op answer) ∧ post answer (world.after thread op answer)) :
    Ensures (loneEnvironment behaves) (Contract.lone Thread guarantee) thread (interact op) post
      world := by
  rintro answer after ⟨behaved, faithful, rfl⟩
  rcases holds answer behaved faithful with ⟨kept, reached⟩
  refine ⟨kept, ?_⟩
  rintro later rfl -
  exact reached

/-- The call leaves the records and the histories as they are. -/
def World.SameRecords (before after : World) : Prop :=
  after.journal = before.journal ∧ after.history = before.history

theorem World.SameRecords.refl (world : World) : world.SameRecords world :=
  ⟨rfl, rfl⟩

theorem World.SameRecords.trans {before middle after : World} (first : before.SameRecords middle)
    (second : middle.SameRecords after) :
    before.SameRecords after :=
  ⟨second.1.trans first.1, second.2.trans first.2⟩

variable (kept : ∀ {before after : World}, after.journal = before.journal → guarantee before after)

include kept

/-- A call that changes no transaction. -/
theorem lone_quiet {op : CoreOp} (quiet : op.isQuiet = true) :
    Ensures (loneEnvironment behaves) (Contract.lone Thread guarantee) thread (interact op)
      (fun answer later => behaves op answer ∧ Faithful world op answer ∧ world.SameRecords later)
      world := by
  apply lone_interact
  intro answer behaved faithful
  rcases @quiet_after thread world op quiet answer with ⟨-, -, journal, history⟩
  exact ⟨kept journal, behaved, faithful, journal, history⟩

theorem lone_journalGet (txId : String) :
    Ensures (loneEnvironment behaves) (Contract.lone Thread guarantee) thread (journalGet txId)
      (fun answer later => world.SameRecords later ∧
        ∀ found, answer = .ok found → found = world.journal[txId]?) world := by
  apply lone_interact
  intro answer _ faithful
  refine ⟨kept rfl, ⟨rfl, rfl⟩, ?_⟩
  rintro found rfl
  exact faithful

/-- A call that takes or drops locks. -/
theorem lone_acquire (deviceId : DeviceId) :
    Ensures (loneEnvironment behaves) (Contract.lone Thread guarantee) thread (acquire deviceId)
      (fun _ later => world.SameRecords later) world :=
  lone_interact fun _ _ _ => ⟨kept rfl, rfl, rfl⟩

theorem lone_release (deviceIds : List DeviceId) :
    Ensures (loneEnvironment behaves) (Contract.lone Thread guarantee) thread (release deviceIds)
      (fun _ later => world.SameRecords later) world :=
  lone_interact fun _ _ _ => ⟨kept rfl, rfl, rfl⟩

end Lone

/-! ## Steady surroundings -/

/-- Surroundings that answer a question the same way every time it is asked. -/
structure Surroundings where
  inventory : DeviceId → Except UnderlayError ManagedDevice
  client : String → Except UnderlayError Unit
  adapter : DeviceId → TxContext → AdapterCall → AdapterAnswer
  /-- Why the shadow of a device cannot be read. -/
  shadowGetError : DeviceId → Option UnderlayError
  /-- Why the shadow of a device cannot be written. -/
  shadowPutError : DeviceId → Option UnderlayError

namespace Surroundings

def managed (surroundings : Surroundings)
    (deviceId : DeviceId) : Except UnderlayError ManagedDevice :=
  (surroundings.inventory deviceId).map fun managed => managed.named deviceId

/-- The answers that the surroundings give.  They leave the clock and the journal free. -/
def behaves (surroundings : Surroundings) : (op : CoreOp) → op.Answer → Prop
  | .inventoryGet _ deviceId, answer => answer = surroundings.managed deviceId
  | .adapterClient _ endpoint, answer => answer = surroundings.client endpoint
  | .adapter device context call, answer => answer = surroundings.adapter device.id context call
  | .shadowGet deviceId, .ok _ => surroundings.shadowGetError deviceId = none
  | .shadowGet deviceId, .error error => surroundings.shadowGetError deviceId = some error
  | .shadowPut _ state, .ok _ => surroundings.shadowPutError state.deviceId = none
  | .shadowPut _ state, .error error => surroundings.shadowPutError state.deviceId = some error
  | _, _ => True

/-- Surroundings with a clock that stands still and a journal that never fails. -/
def oracle (surroundings : Surroundings) : Oracle
  | .acquire _, _ | .release _, _ => ()
  | .acquireWithPolicy _, _ => .ok ()
  | .nowUnixSecs, _ => (0 : ℕ)
  | .newTxId, _ => ""
  | .inventoryGet _ deviceId, _ => surroundings.inventory deviceId
  | .adapterClient _ endpoint, _ => surroundings.client endpoint
  | .adapter device context call, _ => surroundings.adapter device.id context call
  | .journalPut _ _, _ => .ok ()
  | .journalGet _, _ => .ok none
  | .journalListRecoverable, _ => .ok []
  | .shadowGet deviceId, _ => match surroundings.shadowGetError deviceId with
      | none => .ok none
      | some error => .error error
  | .shadowPut _ state, _ => match surroundings.shadowPutError state.deviceId with
      | none => .ok ()
      | some error => .error error
  | .observedPut _, _ => .ok ()
  -- recovery never asks for these
  | .getCurrentState _ _, _ => .error (.internal "")
  | .getCapabilities _, _ => .error (.internal "")
  | .authorize _, _ => .error (.authorizationDenied "")
  | .productAuditAppend _, _ => .error (.productAuditWriteFailed "")

theorem behaves_settle (surroundings : Surroundings) (world : World) (op : CoreOp) (position : ℕ) :
    surroundings.behaves op (world.settle op (surroundings.oracle op position)) := by
  cases op with
  | inventoryGet site deviceId =>
      simp only [oracle, behaves, managed]
      cases surroundings.inventory deviceId <;> rfl
  | shadowGet deviceId =>
      simp only [oracle]
      cases failing : surroundings.shadowGetError deviceId <;> exact failing
  | shadowPut txId state =>
      simp only [oracle]
      cases failing : surroundings.shadowPutError state.deviceId <;> exact failing
  | adapterClient site endpoint => rfl
  | adapter device context call => rfl
  | _ => trivial

/-- The run in these surroundings. -/
theorem executes_runAlone {α : Type} (surroundings : Surroundings) (program : Core α)
    (world : World) :
    Executes (loneEnvironment surroundings.behaves) 0 program world
      (runAlone surroundings.oracle program world).1
      (runAlone surroundings.oracle program world).2 := by
  have conforms : ∀ (op : CoreOp) (state : World × ℕ),
      (loneEnvironment surroundings.behaves).respond 0 state.1 op
        (serve surroundings.oracle op state).1 (serve surroundings.oracle op state).2.1 :=
    fun op state =>
      ⟨surroundings.behaves_settle state.1 op state.2, faithful_settle state.1 op _, rfl⟩
  exact Executes.of_eval Prod.fst conforms program (world, 0)

end Surroundings

theorem executes_anyAnswer {α : Type} {behaves : (op : CoreOp) → op.Answer → Prop} {thread : Thread}
    {program : Core α} {value : α} {world last : World}
    (executes : Executes (loneEnvironment behaves) thread program world value last) :
    Executes (loneEnvironment anyAnswer) thread program world value last := by
  refine executes.mono ?_
  rintro before op answer after ⟨-, faithful, after_eq⟩
  exact ⟨trivial, faithful, after_eq⟩

/-! ## In charge of a transaction -/

/-- Nothing but one transaction has changed. -/
def World.OthersKept (txId : String) (before after : World) : Prop :=
  ∀ other, other ≠ txId →
    after.journal[other]? = before.journal[other]? ∧ after.history other = before.history other

section OthersKept

variable {txId : String} {before middle after : World}

theorem World.OthersKept.trans (first : World.OthersKept txId before middle)
    (second : World.OthersKept txId middle after) :
    World.OthersKept txId before after := by
  intro other differs
  rcases first other differs with ⟨firstJournal, firstHistory⟩
  rcases second other differs with ⟨secondJournal, secondHistory⟩
  exact ⟨secondJournal.trans firstJournal, secondHistory.trans firstHistory⟩

theorem World.SameRecords.othersKept (same : before.SameRecords after) :
    World.OthersKept txId before after := by
  intro other _
  rw [same.1, same.2]
  exact ⟨rfl, rfl⟩

theorem World.othersKept_log (world : World) (txId : String) (event : TxEvent) :
    World.OthersKept txId world (world.log txId event) := by
  intro other differs
  exact ⟨rfl, by simp [World.log, differs]⟩

theorem World.Stores.othersKept {record : TxJournalRecord} (stores : before.Stores after record) :
    World.OthersKept record.txId before after := by
  intro other differs
  exact ⟨by simp [stores.getElem?, differs], by simp [stores.history_eq, differs]⟩

end OthersKept

/-- The transaction since the task has read its record in the world `start`. -/
structure Tracks (start : World) (read : TxJournalRecord) (txId : String)
    (previous : TxJournalRecord) (events : List TxEvent) (world : World) : Prop where
  made : ∃ made, events = .stored read :: made ∧
    world.history txId = start.history txId ++ made
  durable : world.journal[txId]? = some previous
  last : lastStored events = some previous
  txId_eq : previous.txId = txId
  others : World.OthersKept txId start world

section Tracks

variable {behaves : (op : CoreOp) → op.Answer → Prop}
variable {thread : Thread} {start world : World} {txId : String}
variable {read previous record : TxJournalRecord} {events : List TxEvent}

/-- The task has just read the record. -/
theorem Tracks.begin (durable : start.journal[txId]? = some read) (txId_eq : read.txId = txId) :
    Tracks start read txId read [.stored read] start where
  made := ⟨[], rfl, by simp⟩
  durable := durable
  last := rfl
  txId_eq := txId_eq
  others := fun _ _ => ⟨rfl, rfl⟩

theorem Tracks.sameRecords {later : World} (tracks : Tracks start read txId previous events world)
    (same : world.SameRecords later) :
    Tracks start read txId previous events later where
  made := by
    rw [same.2]
    exact tracks.made
  durable := by
    rw [same.1]
    exact tracks.durable
  last := tracks.last
  txId_eq := tracks.txId_eq
  others := tracks.others.trans same.othersKept

/-- An event other than a store. -/
theorem Tracks.log {later : World} (tracks : Tracks start read txId previous events world)
    (event : TxEvent) (isCall : event.record? = none) (journal : later.journal = world.journal)
    (history : later.history = (world.log txId event).history) :
    Tracks start read txId previous (events ++ [event]) later where
  made := by
    rcases tracks.made with ⟨made, rfl, extended⟩
    exact ⟨made ++ [event], by simp, by simp [history, World.log, extended]⟩
  durable := by
    rw [journal]
    exact tracks.durable
  last := by simpa [isCall] using tracks.last
  txId_eq := tracks.txId_eq
  others := by
    intro other differs
    rw [journal, history]
    exact tracks.others.trans (world.othersKept_log txId event) other differs

theorem Tracks.store {later : World} (tracks : Tracks start read record.txId previous events world)
    (stores : world.Stores later record) :
    Tracks start read record.txId record (events ++ [.stored record]) later where
  made := by
    rcases tracks.made with ⟨made, rfl, extended⟩
    exact ⟨made ++ [.stored record], by simp, by simp [stores.history_eq, extended]⟩
  durable := by simp [stores.getElem?]
  last := by simp
  txId_eq := rfl
  others := tracks.others.trans stores.othersKept

/-- A lone task that has read a record has custody of its transaction. -/
def loneCustody (behaves : (op : CoreOp) → op.Answer → Prop) (thread : Thread) (start : World)
    (read : TxJournalRecord) (txId : String) :
    Custody (loneEnvironment behaves) (Contract.lone Thread fun _ _ => True) thread txId where
  holds := Tracks start read txId
  last := fun tracks => ⟨tracks.last, tracks.txId_eq⟩
  quiet := fun op quiet tracks =>
    (lone_quiet (fun _ => trivial) quiet).mono fun _ _ ⟨_, faithful, same⟩ =>
      ⟨faithful, tracks.sameRecords same⟩
  adapterCall := fun device context call sameTx _ _ tracks => by
    subst sameTx
    exact lone_interact fun answer _ _ =>
      ⟨trivial, tracks.log (.called device.id call answer) rfl rfl rfl⟩
  journalPut := fun site record follows tracks => by
    apply lone_interact
    intro answer _ _
    have sameTx : record.txId = txId := follows.txId_eq.trans tracks.txId_eq
    subst sameTx
    cases answer with
    | error error => exact ⟨trivial, tracks⟩
    | ok _ => exact ⟨trivial, tracks.store ⟨rfl, rfl, rfl, rfl⟩⟩
  shadowPut := fun state _ tracks => by
    apply lone_interact
    intro answer _ _
    cases answer with
    | error error => exact ⟨trivial, tracks⟩
    | ok _ => exact ⟨trivial, tracks.log (.shadowStored state) rfl rfl rfl⟩

end Tracks

end AriaUnderlay
