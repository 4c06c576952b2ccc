import AriaUnderlay.Api.TaskDiscipline
import AriaUnderlay.Core.Lone
import AriaUnderlay.Engine.Replay

/-!
# Storing a recovered shadow again

Recovery stores the shadows of a transaction before it marks the transaction as committed.  If the
process stops in between, the next recovery stores them again, computed from what is in the store by
then.  The content of the stored shadows does not change by that.
-/

namespace AriaUnderlay

open Collections Effect

/-- The state apart from its revision. -/
def DeviceShadowState.content (state : DeviceShadowState) : DeviceShadowState :=
  { state with revision := 0 }

/-- Every device of the record has a desired state without contradictions, and the change set
recorded for it is the diff from some observed state. -/
def TxJournalRecord.Planned (record : TxJournalRecord) : Prop :=
  ∀ device ∈ record.devices, ∃ desired observed,
    desiredStateForRecord record device = some desired ∧
      (normalizeDesiredState desired).Consistent ∧
        changeSetForRecord record device = some (computeDiff desired observed)

/-- Storing the recovered shadow of the device again would not change its content. -/
def Settled (record : TxJournalRecord) (world : World) (device : DeviceId) : Prop :=
  ∃ state, world.shadows[device]? = some state ∧
    ∀ desired, desiredStateForRecord record device = some desired →
      (recoveredShadow record device desired (some state)).content = state.content

section Settled

variable {record : TxJournalRecord} {world : World} {device other : DeviceId}
variable {thread : Thread} {desired : DeviceDesiredState}

theorem recoveredShadow_deviceId (planned : record.Planned) (isDevice : device ∈ record.devices)
    (wanted : desiredStateForRecord record device = some desired)
    (existing : Option DeviceShadowState) :
    (recoveredShadow record device desired existing).deviceId = device := by
  rcases planned device isDevice with ⟨_, observed, sameWanted, -, isChange⟩
  have named : desired.deviceId = device := by
    simpa using List.find?_some wanted
  rw [recoveredShadow, isChange]
  simpa only [ChangeSet.applyToShadow, foldl_applyOp_deviceId] using named

/-- The replay does not look at the revision of the state it starts from. -/
theorem applyToShadow_setRevision (changeSet : ChangeSet) (state : DeviceShadowState)
    (revision laterRevision : UInt64) :
    changeSet.applyToShadow (some { state with revision := revision }) desired laterRevision =
      changeSet.applyToShadow (some state) desired laterRevision := by
  simp only [ChangeSet.applyToShadow, Option.getD_some]

/-- What recovery computes from its own result has the same content. -/
theorem recoveredShadow_again (planned : record.Planned) (isDevice : device ∈ record.devices)
    (wanted : desiredStateForRecord record device = some desired)
    (existing : Option DeviceShadowState) (revision : UInt64) :
    (recoveredShadow record device desired
          (some { recoveredShadow record device desired existing with
            revision := revision })).content =
      (recoveredShadow record device desired existing).content := by
  rcases planned device isDevice with ⟨same, observed, sameWanted, consistent, isChange⟩
  obtain rfl : same = desired := Option.some.inj (sameWanted.symm.trans wanted)
  simp only [recoveredShadow, isChange]
  rw [applyToShadow_setRevision, applyToShadow_again consistent.separate observed existing 0 0]
  simp only [DeviceShadowState.content]

/-- A stored state is found under its device, and the other devices keep theirs. -/
theorem getElem?_storeState (device : DeviceId) (store : BTreeMap DeviceId DeviceShadowState)
    (state : DeviceShadowState) :
    (storeState store state)[device]? =
      if device = state.deviceId then
        some { state with revision := storedRevision store[state.deviceId]? state }
      else store[device]? := by
  rw [storeState, Std.ExtTreeMap.getElem?_insert]
  by_cases same : state.deviceId = device
  · simp [same]
  · have differs : device ≠ state.deviceId := fun equal => same equal.symm
    simp [same, differs]

/-- The world after the recovered shadow of a device was stored. -/
def World.storing (world : World) (thread : Thread) (record : TxJournalRecord) (device : DeviceId)
    (desired : DeviceDesiredState) : World :=
  world.after thread
    (.shadowPut record.txId (recoveredShadow record device desired world.shadows[device]?)) (.ok ())

theorem storing_other (planned : record.Planned) (isDevice : device ∈ record.devices)
    (wanted : desiredStateForRecord record device = some desired) (differs : other ≠ device)
    (world : World) (thread : Thread) :
    (world.storing thread record device desired).shadows[other]? = world.shadows[other]? := by
  have named := recoveredShadow_deviceId planned isDevice wanted world.shadows[device]?
  show (storeState world.shadows _)[other]? = _
  rw [getElem?_storeState, named, if_neg differs]

theorem storing_self (planned : record.Planned) (isDevice : device ∈ record.devices)
    (wanted : desiredStateForRecord record device = some desired) (world : World)
    (thread : Thread) :
    ∃ revision, (world.storing thread record device desired).shadows[device]? =
      some { recoveredShadow record device desired world.shadows[device]? with
        revision := revision } := by
  have named := recoveredShadow_deviceId planned isDevice wanted world.shadows[device]?
  have isStored := getElem?_storeState device world.shadows
    (recoveredShadow record device desired world.shadows[device]?)
  rw [if_pos named.symm] at isStored
  exact ⟨_, isStored⟩

theorem settled_storing (planned : record.Planned) (isDevice : device ∈ record.devices)
    (wanted : desiredStateForRecord record device = some desired) :
    Settled record (world.storing thread record device desired) device := by
  rcases storing_self planned isDevice wanted world thread with ⟨revision, isStored⟩
  refine ⟨_, isStored, fun same sameWanted => ?_⟩
  obtain rfl : desired = same := Option.some.inj (wanted.symm.trans sameWanted)
  exact recoveredShadow_again planned isDevice wanted _ revision

/-- A settled device keeps the content of its shadow and stays settled. -/
theorem Settled.storing (settled : Settled record world other) (planned : record.Planned)
    (isDevice : device ∈ record.devices)
    (wanted : desiredStateForRecord record device = some desired) (thread : Thread) :
    Settled record (world.storing thread record device desired) other ∧
      (world.storing thread record device desired).shadows[other]?.map DeviceShadowState.content =
        world.shadows[other]?.map DeviceShadowState.content := by
  by_cases same : other = device
  · subst same
    refine ⟨settled_storing planned isDevice wanted, ?_⟩
    rcases settled with ⟨state, isStored, absorbs⟩
    rcases storing_self planned isDevice wanted world thread with ⟨revision, isAgain⟩
    rw [isAgain, isStored]
    exact congrArg some (absorbs desired wanted)
  · have unchanged := storing_other planned isDevice wanted same world thread
    rcases settled with ⟨state, isStored, absorbs⟩
    exact ⟨⟨state, unchanged.trans isStored, absorbs⟩, by rw [unchanged]⟩

/-- What a run of `persistRecoveredShadow` does to the shadows. -/
structure Persisted (record : TxJournalRecord) (before after : World)
    (devices : List DeviceId) : Prop where
  others : ∀ other, other ∉ devices → after.shadows[other]? = before.shadows[other]?
  settled : ∀ other, Settled record before other → Settled record after other ∧
    after.shadows[other]?.map DeviceShadowState.content =
      before.shadows[other]?.map DeviceShadowState.content

theorem Persisted.refl (record : TxJournalRecord) (world : World) (devices : List DeviceId) :
    Persisted record world world devices :=
  ⟨fun _ _ => rfl, fun _ settled => ⟨settled, rfl⟩⟩

theorem ensures_persistRecoveredShadow_lone (planned : record.Planned) {devices : List DeviceId}
    (areDevices : ∀ device ∈ devices, device ∈ record.devices) :
    Ensures (loneEnvironment anyAnswer) (Contract.lone Thread fun _ _ => True) thread
      (persistRecoveredShadow record devices).run
      (fun result later => Persisted record world later devices ∧
        (result = .ok () → ∀ device ∈ devices, Settled record later device)) world := by
  induction devices generalizing world with
  | nil => exact ⟨.refl record world [], fun _ _ isDevice => absurd isDevice List.not_mem_nil⟩
  | cons device rest ih =>
      have isDevice : device ∈ record.devices := areDevices device List.mem_cons_self
      rcases planned device isDevice with ⟨desired, observed, wanted, consistent, isChange⟩
      unfold persistRecoveredShadow
      rw [wanted]
      have reads : Ensures (loneEnvironment anyAnswer) (Contract.lone Thread fun _ _ => True) thread
          (shadowGet device)
          (fun answer later => world = later ∧
            ∀ existing, answer = .ok existing → existing = world.shadows[device]?) world := by
        refine lone_interact fun answer _ faithful => ⟨trivial, ?_⟩
        cases answer with
        | error error => exact ⟨rfl, fun _ impossible => by cases impossible⟩
        | ok found => exact ⟨rfl, fun existing isFound => Except.ok.inj isFound ▸ faithful⟩
      refine Ensures.bindResult reads ?_ ?_
      · rintro existing _ ⟨rfl, isExisting⟩
        obtain rfl := isExisting existing rfl
        have writes : Ensures (loneEnvironment anyAnswer) (Contract.lone Thread fun _ _ => True)
            thread (shadowPut record.txId (recoveredShadow record device desired
              world.shadows[device]?))
            (fun answer later => answer = .ok () →
              later = world.storing thread record device desired) world := by
          refine lone_interact fun answer _ _ => ⟨trivial, ?_⟩
          rintro rfl
          rfl
        have failed : Ensures (loneEnvironment anyAnswer) (Contract.lone Thread fun _ _ => True)
            thread (shadowPut record.txId (recoveredShadow record device desired
              world.shadows[device]?))
            (fun answer later => ∀ error, answer = .error error → world = later) world := by
          refine lone_interact fun answer _ _ => ⟨trivial, ?_⟩
          rintro error rfl
          rfl
        refine Ensures.bindResult (writes.and failed) ?_ ?_
        · rintro _ _ ⟨isStored, -⟩
          obtain rfl := isStored rfl
          refine (ih fun other isRest => areDevices other (List.mem_cons_of_mem _ isRest)).mono ?_
          rintro result later ⟨persisted, complete⟩
          refine ⟨⟨fun other isOther => ?_, fun other settled => ?_⟩, fun isOk => ?_⟩
          · simp only [List.mem_cons, not_or] at isOther
            rw [persisted.others other isOther.2]
            exact storing_other planned isDevice wanted isOther.1 world thread
          · rcases settled.storing planned isDevice wanted thread with ⟨still, same⟩
            rcases persisted.settled other still with ⟨last, sameLast⟩
            exact ⟨last, sameLast.trans same⟩
          · intro other isOther
            rcases List.mem_cons.mp isOther with rfl | isRest
            · exact (persisted.settled other (settled_storing planned isDevice wanted)).1
            · exact complete isOk other isRest
        · rintro error later ⟨-, unchanged⟩
          obtain rfl := unchanged error rfl
          exact ⟨.refl record world _, fun impossible => by cases impossible⟩
      · rintro error later ⟨rfl, -⟩
        exact ⟨.refl record world _, fun impossible => by cases impossible⟩

end Settled

/-- Replaying a diff again changes at most the revision of the result, whatever it was replayed on.
Hence, if a process stops after it has stored the shadows of a recovered transaction, storing them
again does not change the content of any stored shadow. -/
theorem applyToShadow_replay_harmless :
    (∀ (desired : DeviceDesiredState) (observed : DeviceShadowState)
        (base : Option DeviceShadowState) (revision laterRevision : UInt64),
      (normalizeDesiredState desired).Consistent →
        ((computeDiff desired observed).applyToShadow
          (some ((computeDiff desired observed).applyToShadow base desired revision)) desired
          laterRevision).content =
        ((computeDiff desired observed).applyToShadow base desired revision).content) ∧
      ∀ (record : TxJournalRecord) (thread later : Thread) (world stored last : World)
        (result : Except UnderlayError Unit), record.Planned →
        Executes (loneEnvironment anyAnswer) thread
          (persistRecoveredShadow record record.devices).run world (.ok ()) stored →
        Executes (loneEnvironment anyAnswer) later
          (persistRecoveredShadow record record.devices).run stored.restart result last →
        ∀ device : DeviceId, last.shadows[device]?.map DeviceShadowState.content =
          stored.shadows[device]?.map DeviceShadowState.content := by
  constructor
  · intro desired observed base revision laterRevision consistent
    rw [applyToShadow_again consistent.separate observed base revision laterRevision]
    simp only [DeviceShadowState.content]
  · intro record thread later world stored last result planned first second device
    have once := (ensures_persistRecoveredShadow_lone planned fun _ isDevice => isDevice).executes
      first
    have again := (ensures_persistRecoveredShadow_lone planned fun _ isDevice => isDevice).executes
      second
    by_cases isDevice : device ∈ record.devices
    · exact (again.1.settled device (once.2 rfl device isDevice)).2
    · rw [again.1.others device isDevice]
      rfl

/-- The transaction of an apply that binds another ACL. -/
def rebindingRecord : TxJournalRecord :=
  firstRecord ⟨"tx-1", "req-1", "trace-1"⟩ rebindingDesired
    ⟨[computeDiff rebindingDesired sampleCurrent]⟩ 0 0 0

theorem rebindingRecord_planned : rebindingRecord.Planned := by
  intro device isDevice
  obtain rfl : device = "leaf-a" := List.mem_singleton.mp isDevice
  exact ⟨rebindingDesired, sampleCurrent, rfl, by decide +kernel, rfl⟩

/-- Stores that never fail. -/
def steadyStores : Surroundings where
  inventory := fun _ => .error (.internal "")
  client := fun _ => .ok ()
  adapter := fun _ _ _ => .error (.internal "")
  shadowGetError := fun _ => none
  shadowPutError := fun _ => none

theorem executes_persistRecoveredShadow_steady (world : World) :
    ∃ stored, Executes (loneEnvironment anyAnswer) 0
      (persistRecoveredShadow rebindingRecord rebindingRecord.devices).run world (.ok ())
      stored := by
  have executes := executes_anyAnswer (steadyStores.executes_runAlone
    (persistRecoveredShadow rebindingRecord rebindingRecord.devices).run world)
  exact ⟨_, executes⟩

theorem applyToShadow_replay_harmless_rebinding :
    ((computeDiff rebindingDesired sampleCurrent).applyToShadow
        (some ((computeDiff rebindingDesired sampleCurrent).applyToShadow none rebindingDesired 0))
        rebindingDesired 7).content =
      ((computeDiff rebindingDesired sampleCurrent).applyToShadow none rebindingDesired 0).content ∧
    ∃ stored last : World,
      Executes (loneEnvironment anyAnswer) 0
        (persistRecoveredShadow rebindingRecord rebindingRecord.devices).run World.initial (.ok ())
        stored ∧
      Executes (loneEnvironment anyAnswer) 0
        (persistRecoveredShadow rebindingRecord rebindingRecord.devices).run stored.restart (.ok ())
        last ∧
      last.shadows["leaf-a"]?.map DeviceShadowState.content =
        stored.shadows["leaf-a"]?.map DeviceShadowState.content := by
  constructor
  · exact applyToShadow_replay_harmless.1 rebindingDesired sampleCurrent none 0 7
      (by decide +kernel)
  · rcases executes_persistRecoveredShadow_steady World.initial with ⟨stored, first⟩
    rcases executes_persistRecoveredShadow_steady stored.restart with ⟨last, second⟩
    exact ⟨stored, last, first, second, applyToShadow_replay_harmless.2 rebindingRecord 0 0
      World.initial stored last (.ok ()) rebindingRecord_planned first second "leaf-a"⟩

end AriaUnderlay
