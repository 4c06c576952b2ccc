import AriaUnderlay.Api.AdminRequests
import AriaUnderlay.Storage.Directory

/-!
# Lifecycles of alerts

The lifecycle of an alert is a record with the history of its transitions.  There are two stores,
one in memory and one that keeps all records in one file and reads and writes all of them at every
transition.  A store `Tracks` the map of records that it holds if it answers from this map and a
transition takes it to the next map.  Whatever tracks a map only ever appends to the histories.
-/

namespace AriaUnderlay

open Collections Storage

/-! ## Transitions -/

/-- The table of transitions. -/
def isAllowedLifecycleTransition :
    OperationAlertLifecycleStatus → OperationAlertLifecycleStatus → Bool
  | .opened, .acknowledged | .opened, .resolved | .opened, .suppressed | .opened, .expired => true
  | .acknowledged, .resolved | .acknowledged, .suppressed | .acknowledged, .expired => true
  | _, _ => false

/-- The entry that a transition adds to the history. -/
def OperationAlertLifecycleTransition.event (transition : OperationAlertLifecycleTransition)
    (now : ℕ) : OperationAlertLifecycleEvent where
  status := transition.status
  operatorId := transition.operatorId
  reason := transition.reason
  requestId := transition.requestId
  traceId := transition.traceId
  updatedAtUnixSecs := now

/-- The record after a transition. -/
def transitionLifecycleRecord (current : Option OperationAlertLifecycleRecord)
    (transition : OperationAlertLifecycleTransition)
    (now : ℕ) : Except UnderlayError OperationAlertLifecycleRecord :=
  let fromStatus := (current.map (·.status)).getD .opened
  if isAllowedLifecycleTransition fromStatus transition.status then
    let record := current.getD
      { dedupeKey := transition.dedupeKey
        status := .opened
        operatorId := none
        reason := none
        requestId := transition.requestId
        traceId := transition.traceId
        updatedAtUnixSecs := now
        history := [] }
    .ok { record with
      status := transition.status
      operatorId := some transition.operatorId
      reason := transition.reason
      requestId := transition.requestId
      traceId := transition.traceId
      updatedAtUnixSecs := now
      history := record.history ++ [transition.event now] }
  else
    .error (.invalidIntent ("cannot transition alert " ++ transition.dedupeKey ++ " from " ++
      fromStatus.debugName ++ " to " ++ transition.status.debugName))

/-! ## Stores -/

/-- The records by their keys. -/
abbrev AlertLifecycles : Type := BTreeMap String OperationAlertLifecycleRecord

/-- What a store offers.  The clock is an argument of a transition. -/
structure AlertLifecycleStore (State : Type) where
  get : State → String → Except UnderlayError (Option OperationAlertLifecycleRecord)
  list : State → Except UnderlayError (List OperationAlertLifecycleRecord)
  transition : State → OperationAlertLifecycleTransition → ℕ →
    Except UnderlayError OperationAlertLifecycleRecord × State

/-- The store in memory. -/
def inMemoryAlertLifecycleStore : AlertLifecycleStore AlertLifecycles where
  get := fun records dedupeKey => .ok records[dedupeKey]?
  list := fun records => .ok (valuesInOrder records)
  transition := fun records transition now =>
    match transitionLifecycleRecord records[transition.dedupeKey]? transition now with
    | .error error => (.error error, records)
    | .ok record => (.ok record, records.insert record.dedupeKey record)

section File

variable {Payload : Type} (codec : Codec AlertLifecycles Payload) (path : String)

/-- The records of the file. -/
def readLifecycleRecords (file : Option Payload) : Except UnderlayError AlertLifecycles :=
  match file with
  | none => .ok ∅
  | some payload =>
      match codec.decode payload with
      | .ok records => .ok records
      | .error text =>
          .error (.internal ("parse operation alert lifecycle " ++ debugPath path ++ ": " ++ text))

/-- The store whose records are in one file; there is no file before the first transition. -/
def jsonFileAlertLifecycleStore : AlertLifecycleStore (Option Payload) where
  get := fun file dedupeKey => do
    let records ← readLifecycleRecords codec path file
    return records[dedupeKey]?
  list := fun file => do
    let records ← readLifecycleRecords codec path file
    return valuesInOrder records
  transition := fun file transition now =>
    match readLifecycleRecords codec path file with
    | .error error => (.error error, file)
    | .ok records =>
        match transitionLifecycleRecord records[transition.dedupeKey]? transition now with
        | .error error => (.error error, file)
        | .ok record => (.ok record, some (codec.encode (records.insert record.dedupeKey record)))

end File

/-! ## Append-only histories -/

namespace OperationAlertLifecycleRecord

variable (record : OperationAlertLifecycleRecord)

/-- The statuses of the history lead from the first one to the next by allowed transitions. -/
def IsPath : Prop :=
  List.IsChain (fun before after => isAllowedLifecycleTransition before after = true)
    (.opened :: record.history.map (·.status))

/-- The record shows its last transition. -/
def IsCurrent : Prop :=
  ∃ last, record.history.getLast? = some last ∧ record.status = last.status ∧
    record.operatorId = some last.operatorId ∧ record.reason = last.reason ∧
      record.requestId = last.requestId ∧ record.traceId = last.traceId

/-- The record without its timestamps. -/
def untimed : OperationAlertLifecycleRecord :=
  { record with
    updatedAtUnixSecs := 0
    history := record.history.map fun event => { event with updatedAtUnixSecs := 0 } }

end OperationAlertLifecycleRecord

/-- The statuses without a way out. -/
def OperationAlertLifecycleStatus.isFinal : OperationAlertLifecycleStatus → Bool
  | .resolved | .suppressed | .expired => true
  | _ => false

namespace AlertLifecycleStore

variable {State : Type} (store : AlertLifecycleStore State)

/-- A store after some transitions. -/
def run (initial : State) (requests : List (OperationAlertLifecycleTransition × ℕ)) : State :=
  requests.foldl (fun state request => (store.transition state request.1 request.2).2) initial

/-- A transition that succeeds adds one entry to one record, and one that is refused changes
nothing. -/
def Appends (state : State) (transition : OperationAlertLifecycleTransition) (now : ℕ) : Prop :=
  match store.transition state transition now with
  | (.error _, next) => next = state
  | (.ok record, next) =>
      record.dedupeKey = transition.dedupeKey ∧
      (∃ previous, store.get state transition.dedupeKey = .ok previous ∧
        record.history = (previous.map (·.history)).getD [] ++ [transition.event now]) ∧
      store.get next transition.dedupeKey = .ok (some record) ∧
      ∀ other, other ≠ transition.dedupeKey → store.get next other = store.get state other

/-- In every state that is reached, the histories are paths that end in the current status, a
transition appends, and a final status stays. -/
structure AppendOnly (initial : State) : Prop where
  records : ∀ requests, ∃ records, store.list (store.run initial requests) = .ok records ∧
    ∀ record ∈ records, record.IsPath ∧ record.IsCurrent
  step : ∀ requests transition now, store.Appends (store.run initial requests) transition now
  final : ∀ requests later dedupeKey record,
    store.get (store.run initial requests) dedupeKey = .ok (some record) →
      record.status.isFinal = true →
        store.get (store.run initial (requests ++ later)) dedupeKey = .ok (some record)

/-- What a user sees of a step: the result and then the list, both without timestamps. -/
def observe {Step : Type} (request : Step → OperationAlertLifecycleTransition × ℕ)
    (state : State) (step : Step) :
    (Except UnderlayError OperationAlertLifecycleRecord ×
      Except UnderlayError (List OperationAlertLifecycleRecord)) × State :=
  let (result, next) := store.transition state (request step).1 (request step).2
  ((result.map (·.untimed), (store.list next).map (List.map (·.untimed))), next)

end AlertLifecycleStore

/-! ## The map of records -/

section Map

variable {records : AlertLifecycles} {transition : OperationAlertLifecycleTransition} {now : ℕ}
  {record : OperationAlertLifecycleRecord} {current : Option OperationAlertLifecycleRecord}

/-- What a transition that is not refused makes of a record. -/
theorem transitionLifecycleRecord_eq_ok
    (succeeded : transitionLifecycleRecord current transition now = .ok record) :
    isAllowedLifecycleTransition ((current.map (·.status)).getD .opened) transition.status = true ∧
      record.dedupeKey = (current.map (·.dedupeKey)).getD transition.dedupeKey ∧
      record.history = (current.map (·.history)).getD [] ++ [transition.event now] ∧
      record.status = transition.status ∧ record.IsCurrent := by
  unfold transitionLifecycleRecord at succeeded
  dsimp only at succeeded
  split at succeeded
  case isFalse => cases succeeded
  case isTrue allowed =>
    cases succeeded
    refine ⟨allowed, ?_, ?_, rfl, ?_⟩
    · cases current <;> rfl
    · cases current <;> rfl
    · exact ⟨transition.event now, by simp, rfl, rfl, rfl, rfl, rfl⟩

/-- Every record stands under its key, and its history leads to its status. -/
def AlertLifecycles.Valid (records : AlertLifecycles) : Prop :=
  ∀ (dedupeKey : String) (record : OperationAlertLifecycleRecord),
    records[dedupeKey]? = some record →
      record.dedupeKey = dedupeKey ∧ record.IsPath ∧ record.IsCurrent

theorem valid_empty : AlertLifecycles.Valid ∅ := by
  intro dedupeKey record found
  simp at found

theorem getLast?_of_isCurrent (isCurrent : record.IsCurrent) :
    (.opened :: record.history.map (·.status)).getLast? = some record.status := by
  rcases isCurrent with ⟨last, isLast, sameStatus, -⟩
  have nonempty : record.history.map (·.status) ≠ [] := by
    intro empty
    rw [List.map_eq_nil_iff] at empty
    simp [empty] at isLast
  rw [List.getLast?_cons_of_ne_nil nonempty, List.getLast?_map, isLast, sameStatus]
  rfl

theorem isPath_of_transition (valid : records.Valid)
    (succeeded :
      transitionLifecycleRecord records[transition.dedupeKey]? transition now = .ok record) :
    record.IsPath := by
  rcases transitionLifecycleRecord_eq_ok succeeded with ⟨allowed, -, isHistory, -, -⟩
  rw [OperationAlertLifecycleRecord.IsPath, isHistory, List.map_append, ← List.cons_append]
  cases found : records[transition.dedupeKey]? with
  | none =>
      rw [found] at allowed
      simpa [OperationAlertLifecycleTransition.event] using allowed
  | some previous =>
      rw [found] at allowed
      rcases valid _ _ found with ⟨-, isPath, isCurrent⟩
      refine List.IsChain.append isPath (by simp) ?_
      intro before isBefore after isAfter
      rw [Option.map_some, Option.getD_some, getLast?_of_isCurrent isCurrent] at isBefore
      obtain rfl : previous.status = before := Option.some.inj isBefore
      obtain rfl : transition.status = after := Option.some.inj isAfter
      exact allowed

theorem dedupeKey_of_transition (valid : records.Valid)
    (succeeded :
      transitionLifecycleRecord records[transition.dedupeKey]? transition now = .ok record) :
    record.dedupeKey = transition.dedupeKey := by
  rcases transitionLifecycleRecord_eq_ok succeeded with ⟨-, isKey, -⟩
  rw [isKey]
  cases found : records[transition.dedupeKey]? with
  | none => rfl
  | some previous => exact (valid _ _ found).1

/-- A transition keeps every record in order. -/
theorem valid_transition (valid : records.Valid) :
    (inMemoryAlertLifecycleStore.transition records transition now).2.Valid := by
  simp only [inMemoryAlertLifecycleStore]
  cases succeeded : transitionLifecycleRecord records[transition.dedupeKey]? transition now with
  | error error => exact valid
  | ok record =>
      intro dedupeKey stored found
      simp only [Std.ExtTreeMap.getElem?_insert, compare_eq_iff_eq] at found
      split at found
      case isTrue same =>
        cases found
        rcases transitionLifecycleRecord_eq_ok succeeded with ⟨-, -, -, -, isCurrent⟩
        exact ⟨same, isPath_of_transition valid succeeded, isCurrent⟩
      case isFalse => exact valid dedupeKey stored found

theorem appends_inMemory (valid : records.Valid) :
    inMemoryAlertLifecycleStore.Appends records transition now := by
  simp only [AlertLifecycleStore.Appends, inMemoryAlertLifecycleStore]
  cases succeeded : transitionLifecycleRecord records[transition.dedupeKey]? transition now with
  | error error => rfl
  | ok record =>
      rcases transitionLifecycleRecord_eq_ok succeeded with ⟨-, -, isHistory, -, -⟩
      have isKey := dedupeKey_of_transition valid succeeded
      refine ⟨isKey, ⟨_, rfl, isHistory⟩, ?_, ?_⟩
      · simp [isKey]
      · intro other differs
        rw [isKey, Std.ExtTreeMap.getElem?_insert]
        simp [Ne.symm differs]

/-- A record with a final status stays as it is. -/
theorem final_transition {dedupeKey : String} (valid : records.Valid)
    (found : records[dedupeKey]? = some record) (isFinal : record.status.isFinal = true) :
    (inMemoryAlertLifecycleStore.transition records transition now).2[dedupeKey]? =
      some record := by
  simp only [inMemoryAlertLifecycleStore]
  cases succeeded : transitionLifecycleRecord records[transition.dedupeKey]? transition now with
  | error error => exact found
  | ok changed =>
      have isKey := dedupeKey_of_transition valid succeeded
      simp only [Std.ExtTreeMap.getElem?_insert, compare_eq_iff_eq, isKey]
      split
      case isFalse => exact found
      case isTrue same =>
        rcases transitionLifecycleRecord_eq_ok succeeded with ⟨allowed, -⟩
        rw [same, found] at allowed
        cases isStatus : record.status <;>
          simp [isStatus, OperationAlertLifecycleStatus.isFinal, isAllowedLifecycleTransition]
            at isFinal allowed

end Map

/-! ## Stores that track a map -/

/-- The store answers from a map of records, and its transitions are those of the map. -/
structure AlertLifecycleStore.Tracks {State : Type} (store : AlertLifecycleStore State)
    (holds : State → AlertLifecycles → Prop) : Prop where
  get : ∀ {state records}, holds state records →
    ∀ dedupeKey, store.get state dedupeKey = .ok records[dedupeKey]?
  list : ∀ {state records}, holds state records → store.list state = .ok (valuesInOrder records)
  transition : ∀ {state records}, holds state records → ∀ transition now,
    (store.transition state transition now).1 =
        (inMemoryAlertLifecycleStore.transition records transition now).1 ∧
      holds (store.transition state transition now).2
        (inMemoryAlertLifecycleStore.transition records transition now).2
  refused : ∀ {state records}, holds state records → ∀ transition now error,
    (store.transition state transition now).1 = .error error →
      (store.transition state transition now).2 = state

section Tracks

variable {State : Type} {store : AlertLifecycleStore State}
  {holds : State → AlertLifecycles → Prop} {state initial : State} {records : AlertLifecycles}

theorem inMemory_tracks : inMemoryAlertLifecycleStore.Tracks Eq where
  get := fun same _ => by rw [same]; rfl
  list := fun same => by rw [same]; rfl
  transition := fun same _ _ => by rw [same]; exact ⟨rfl, rfl⟩
  refused := by
    rintro state records rfl transition now error failed
    simp only [inMemoryAlertLifecycleStore] at failed ⊢
    cases outcome : transitionLifecycleRecord state[transition.dedupeKey]? transition now with
    | error error => rfl
    | ok record =>
        rw [outcome] at failed
        cases failed

theorem jsonFile_tracks {Payload : Type} (codec : Codec AlertLifecycles Payload) (path : String) :
    (jsonFileAlertLifecycleStore codec path).Tracks fun file records =>
      readLifecycleRecords codec path file = .ok records where
  get := fun isRead _ => by simp only [jsonFileAlertLifecycleStore, isRead]; rfl
  list := fun isRead => by simp only [jsonFileAlertLifecycleStore, isRead]; rfl
  transition := by
    intro file records isRead transition now
    simp only [jsonFileAlertLifecycleStore, inMemoryAlertLifecycleStore, isRead]
    cases transitionLifecycleRecord records[transition.dedupeKey]? transition now with
    | error error => exact ⟨rfl, isRead⟩
    | ok record => exact ⟨rfl, by rw [readLifecycleRecords, codec.decode_encode]⟩
  refused := by
    intro file records isRead transition now error failed
    simp only [jsonFileAlertLifecycleStore, isRead] at failed ⊢
    cases outcome : transitionLifecycleRecord records[transition.dedupeKey]? transition now with
    | error error => rfl
    | ok record =>
        rw [outcome] at failed
        cases failed

/-- The state that is reached holds a valid map. -/
theorem holds_run (tracks : store.Tracks holds)
    (requests : List (OperationAlertLifecycleTransition × ℕ)) (start : holds state records)
    (valid : records.Valid) :
    ∃ reached, holds (store.run state requests) reached ∧ reached.Valid := by
  induction requests generalizing state records with
  | nil => exact ⟨records, start, valid⟩
  | cons request requests ih =>
      exact ih (tracks.transition start request.1 request.2).2 (valid_transition valid)

theorem appends_of_tracks (tracks : store.Tracks holds) (start : holds state records)
    (valid : records.Valid) (transition : OperationAlertLifecycleTransition) (now : ℕ) :
    store.Appends state transition now := by
  have appends := @appends_inMemory records transition now valid
  have sameResult := (tracks.transition start transition now).1
  have after := (tracks.transition start transition now).2
  unfold AlertLifecycleStore.Appends at appends ⊢
  rcases outcome : store.transition state transition now with ⟨error | record, next⟩
  · have unchanged := tracks.refused start transition now error (by rw [outcome])
    rw [outcome] at unchanged
    exact unchanged
  · rw [outcome] at sameResult after
    rcases inMemoryOutcome : inMemoryAlertLifecycleStore.transition records transition now with
      ⟨result, reached⟩
    rw [inMemoryOutcome] at sameResult appends after
    obtain rfl : Except.ok record = result := sameResult
    rcases appends with ⟨isKey, ⟨previous, isPrevious, isHistory⟩, isStored, others⟩
    refine ⟨isKey, ⟨previous, ?_, isHistory⟩, ?_, fun other differs => ?_⟩
    · rw [tracks.get start]
      exact isPrevious
    · rw [tracks.get after]
      exact isStored
    · rw [tracks.get after, tracks.get start]
      exact others other differs

theorem final_run {dedupeKey : String} {record : OperationAlertLifecycleRecord}
    (tracks : store.Tracks holds) (later : List (OperationAlertLifecycleTransition × ℕ))
    (start : holds state records) (valid : records.Valid)
    (found : records[dedupeKey]? = some record) (isFinal : record.status.isFinal = true) :
    store.get (store.run state later) dedupeKey = .ok (some record) := by
  induction later generalizing state records with
  | nil =>
      change store.get state dedupeKey = _
      rw [tracks.get start, found]
  | cons request later ih =>
      exact ih (tracks.transition start request.1 request.2).2 (valid_transition valid)
        (final_transition valid found isFinal)

theorem appendOnly_of_tracks (tracks : store.Tracks holds) (start : holds initial ∅) :
    store.AppendOnly initial := by
  refine ⟨?_, ?_, ?_⟩
  · intro requests
    rcases holds_run tracks requests start valid_empty with ⟨reached, after, valid⟩
    refine ⟨valuesInOrder reached, tracks.list after, fun record member => ?_⟩
    rw [valuesInOrder, List.mem_map] at member
    rcases member with ⟨⟨dedupeKey, stored⟩, isEntry, rfl⟩
    exact (valid dedupeKey stored (Std.ExtTreeMap.mem_toList_iff_getElem?_eq_some.mp isEntry)).2
  · intro requests transition now
    rcases holds_run tracks requests start valid_empty with ⟨reached, after, valid⟩
    exact appends_of_tracks tracks after valid transition now
  · intro requests later dedupeKey record found isFinal
    rcases holds_run tracks requests start valid_empty with ⟨reached, after, valid⟩
    rw [AlertLifecycleStore.run, List.foldl_append]
    apply final_run tracks later after valid _ isFinal
    rw [tracks.get after] at found
    exact Except.ok.inj found

end Tracks

/-! ## Two stores and two clocks -/

section Clocks

variable {records others : AlertLifecycles} {transition : OperationAlertLifecycleTransition}

/-- Maps that differ in timestamps only. -/
def SameUntimed (records others : AlertLifecycles) : Prop :=
  records.map (fun _ record => record.untimed) = others.map fun _ record => record.untimed

theorem sameUntimed_iff :
    SameUntimed records others ↔ ∀ dedupeKey : String,
      records[dedupeKey]?.map (·.untimed) = others[dedupeKey]?.map (·.untimed) := by
  constructor
  · intro same dedupeKey
    have sameHere := congrArg (fun map : AlertLifecycles => map[dedupeKey]?) same
    simpa using sameHere
  · intro same
    apply Std.ExtTreeMap.ext_getElem?
    intro dedupeKey
    simpa using same dedupeKey

theorem valuesInOrder_of_sameUntimed (same : SameUntimed records others) :
    (valuesInOrder records).map (·.untimed) = (valuesInOrder others).map (·.untimed) := by
  have sameList := congrArg (fun map : AlertLifecycles => map.toList.map Prod.snd) same
  simpa [valuesInOrder, Std.ExtTreeMap.toList_map, Function.comp_def] using sameList

/-- Timestamps have no influence on a transition. -/
theorem transitionLifecycleRecord_untimed {current other : Option OperationAlertLifecycleRecord}
    (same : current.map (·.untimed) = other.map (·.untimed)) (now later : ℕ) :
    (transitionLifecycleRecord current transition now).map (·.untimed) =
      (transitionLifecycleRecord other transition later).map (·.untimed) := by
  unfold transitionLifecycleRecord
  cases current with
  | none =>
      cases other with
      | none =>
          dsimp only
          split
          · rfl
          · rfl
      | some record => cases same
  | some record =>
      cases other with
      | none => cases same
      | some twin =>
          have sameRecord : record.untimed = twin.untimed := Option.some.inj same
          have sameKey := congrArg (·.dedupeKey) sameRecord
          have sameStatus := congrArg (·.status) sameRecord
          have sameHistory := congrArg (·.history) sameRecord
          simp only [OperationAlertLifecycleRecord.untimed] at sameKey sameStatus sameHistory
          simp only [Option.map_some, Option.getD_some, sameStatus]
          split
          · simp [Except.map, OperationAlertLifecycleRecord.untimed,
              OperationAlertLifecycleTransition.event, sameKey, sameHistory]
          · rfl

/-- Two maps that differ in timestamps go on to do so. -/
theorem sameUntimed_transition (same : SameUntimed records others) (now later : ℕ) :
    (inMemoryAlertLifecycleStore.transition records transition now).1.map (·.untimed) =
        (inMemoryAlertLifecycleStore.transition others transition later).1.map (·.untimed) ∧
      SameUntimed (inMemoryAlertLifecycleStore.transition records transition now).2
        (inMemoryAlertLifecycleStore.transition others transition later).2 := by
  have sameHere := sameUntimed_iff.mp same
  have sameResult := @transitionLifecycleRecord_untimed transition _ _
    (sameHere transition.dedupeKey) now later
  simp only [inMemoryAlertLifecycleStore]
  generalize transitionLifecycleRecord records[transition.dedupeKey]? transition now = result
    at sameResult ⊢
  generalize transitionLifecycleRecord others[transition.dedupeKey]? transition later = otherResult
    at sameResult ⊢
  rcases result with error | record
  · rcases otherResult with error | twin
    · exact ⟨sameResult, same⟩
    · cases sameResult
  · rcases otherResult with error | twin
    · cases sameResult
    · refine ⟨sameResult, sameUntimed_iff.mpr fun dedupeKey => ?_⟩
      have sameRecord : record.untimed = twin.untimed := Except.ok.inj sameResult
      have sameKey : record.dedupeKey = twin.dedupeKey := congrArg (·.dedupeKey) sameRecord
      simp only [Std.ExtTreeMap.getElem?_insert, sameKey]
      split
      · simp [sameRecord]
      · exact sameHere dedupeKey

end Clocks

/-- A request, and what the clocks of the two stores show when it is made. -/
structure LifecycleRequest where
  transition : OperationAlertLifecycleTransition
  memoryClock : ℕ
  fileClock : ℕ

/-- The lifecycles of alerts are append-only paths in both stores, and both stores give the same
answers up to timestamps. -/
theorem alertLifecycles_appendOnly {Payload : Type} (codec : Codec AlertLifecycles Payload)
    (path : String) (requests : List LifecycleRequest) :
    inMemoryAlertLifecycleStore.AppendOnly ∅ ∧
      (jsonFileAlertLifecycleStore codec path).AppendOnly none ∧
        trace (inMemoryAlertLifecycleStore.observe fun request : LifecycleRequest =>
            (request.transition, request.memoryClock)) ∅ requests =
          trace ((jsonFileAlertLifecycleStore codec path).observe fun request : LifecycleRequest =>
            (request.transition, request.fileClock)) none requests := by
  have tracks := jsonFile_tracks codec path
  refine ⟨appendOnly_of_tracks inMemory_tracks rfl, appendOnly_of_tracks tracks rfl, ?_⟩
  -- the file holds the map in memory but for the timestamps
  apply trace_eq_of_simulation (fun records file => ∃ held,
    readLifecycleRecords codec path file = .ok held ∧ SameUntimed records held)
    _ ⟨∅, rfl, rfl⟩ (show ∀ request ∈ requests, (fun _ => True) request from fun _ _ => trivial)
  rintro records file request - ⟨held, isRead, same⟩
  rcases tracks.transition isRead request.transition request.fileClock with ⟨sameResult, isReadNext⟩
  rcases @sameUntimed_transition records held request.transition same request.memoryClock
    request.fileClock with ⟨untimedResult, sameNext⟩
  refine ⟨?_, _, isReadNext, sameNext⟩
  simp only [AlertLifecycleStore.observe, Prod.mk.injEq]
  constructor
  · rw [untimedResult, sameResult]
  · rw [tracks.list isReadNext, inMemory_tracks.list rfl]
    exact congrArg Except.ok (valuesInOrder_of_sameUntimed sameNext)

/-- The file as the members of its JSON object. -/
def membersCodec : Codec AlertLifecycles (List (String × OperationAlertLifecycleRecord)) where
  encode := fun records => records.toList
  decode := fun members => .ok (Std.ExtTreeMap.ofList members compare)
  decode_encode := fun records => congrArg Except.ok (ofList_toList records)

/-- An operator moves an alert on; the file is written a second later than the map in memory. -/
def driftAlertRequest (status : OperationAlertLifecycleStatus) (now : ℕ) : LifecycleRequest where
  transition :=
    { dedupeKey := "drift:leaf-1"
      status := status
      operatorId := "netops"
      reason := none
      requestId := "req-1"
      traceId := "trace-1" }
  memoryClock := now
  fileClock := now + 1

/-- An alert is acknowledged and resolved; after that it can not be acknowledged any more. -/
theorem alertLifecycles_appendOnly_driftAlert :
    let requests := [driftAlertRequest .acknowledged 10, driftAlertRequest .resolved 20,
      driftAlertRequest .acknowledged 30]
    let seen := trace ((jsonFileAlertLifecycleStore membersCodec "alerts.json").observe
      fun request : LifecycleRequest => (request.transition, request.fileClock)) none requests
    seen = trace (inMemoryAlertLifecycleStore.observe fun request : LifecycleRequest =>
        (request.transition, request.memoryClock)) ∅ requests ∧
      seen.map (fun answer => answer.1.toOption.map (·.status)) =
        [some .acknowledged, some .resolved, none] :=
  ⟨(alertLifecycles_appendOnly membersCodec "alerts.json" _).2.2.symm, by decide +kernel⟩

end AriaUnderlay
