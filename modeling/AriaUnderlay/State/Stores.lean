import AriaUnderlay.Core.Effects
import AriaUnderlay.Intent.Validation
import AriaUnderlay.Storage.Directory

/-!
# Shadow and journal stores

Both stores exist twice, in memory and as a directory with one JSON file for every device or
transaction.  The models assume that file operations do not fail, that a file is replaced at once
and that a record can be read back from its JSON text.  The order in which a directory or a hash map
lists its entries is left open.

The stores in memory are the maps that the core's environment works with, and the file stores give
the same answers to every sequence of operations on valid identifiers.
-/

namespace AriaUnderlay

open Collections Storage

variable {Payload : Type}

/-- The file of an identifier. -/
def jsonFileName (id : String) : String :=
  id ++ ".json"

/-! ## Shadow states in memory -/

/-- Shadow states in memory. -/
abbrev InMemoryShadowStateStore : Type := BTreeMap DeviceId DeviceShadowState

namespace InMemoryShadowStateStore

def get (store : InMemoryShadowStateStore) (deviceId : DeviceId) :
    Except UnderlayError (Option DeviceShadowState) :=
  .ok store[deviceId]?

def put (store : InMemoryShadowStateStore) (state : DeviceShadowState) :
    Except UnderlayError DeviceShadowState × InMemoryShadowStateStore :=
  let stored := { state with revision := storedRevision store[state.deviceId]? state }
  (.ok stored, store.insert state.deviceId stored)

/-- Remove a shadow and return it. -/
def remove (store : InMemoryShadowStateStore) (deviceId : DeviceId) :
    Except UnderlayError (Option DeviceShadowState) × InMemoryShadowStateStore :=
  (.ok store[deviceId]?, store.erase deviceId)

/-- All shadows, sorted by device. -/
def list (store : InMemoryShadowStateStore) (order : Enumeration DeviceShadowState) :
    Except UnderlayError (List DeviceShadowState) :=
  .ok ((order.order (valuesInOrder store)).mergeSort fun left right =>
    left.deviceId ≤ right.deviceId)

end InMemoryShadowStateStore

/-! ## Shadow states in files -/

/-- A directory with one file per shadow. -/
structure JsonFileShadowStateStore (Payload : Type) where
  root : String
  directory : Directory Payload

namespace JsonFileShadowStateStore

def validateShadowDeviceId (deviceId : DeviceId) : Except UnderlayError Unit :=
  refuseIf (isCanonicalIdentifier deviceId = false)
    (.invalidDeviceState ("device_id " ++ deviceId ++ " is invalid for file shadow store: " ++
      canonicalRule))

/-- The file of a device. -/
def pathFor (deviceId : DeviceId) : Except UnderlayError String := do
  validateShadowDeviceId deviceId
  return jsonFileName deviceId

variable (codec : Codec DeviceShadowState Payload) (store : JsonFileShadowStateStore Payload)

def readShadowState (path : String) (payload : Payload) :
    Except UnderlayError DeviceShadowState :=
  match codec.decode payload with
  | .ok state => .ok state
  | .error text => .error (.internal ("parse shadow state " ++
      debugPath (store.root ++ "/" ++ path) ++ ": " ++ text))

/-- Read a shadow from its file. -/
def get (deviceId : DeviceId) : Except UnderlayError (Option DeviceShadowState) := do
  let path ← pathFor deviceId
  match store.directory.read path with
  | none => return none
  | some payload =>
      let state ← store.readShadowState codec path payload
      return some state

def put (state : DeviceShadowState) :
    Except UnderlayError DeviceShadowState × JsonFileShadowStateStore Payload :=
  let prepared := do
    let current ← store.get codec state.deviceId
    let path ← pathFor state.deviceId
    return (path, { state with revision := storedRevision current state })
  match prepared with
  | .error error => (.error error, store)
  | .ok (path, stored) =>
      (.ok stored, { store with directory := store.directory.write path (codec.encode stored) })

def remove (deviceId : DeviceId) :
    Except UnderlayError (Option DeviceShadowState) × JsonFileShadowStateStore Payload :=
  match pathFor deviceId with
  | .error error => (.error error, store)
  | .ok path =>
      match store.directory.read path with
      | none => (.ok none, store)
      | some payload =>
          match store.readShadowState codec path payload with
          | .error error => (.error error, store)
          | .ok state => (.ok (some state), { store with directory := store.directory.remove path })

def list (order : Enumeration (String × Payload)) :
    Except UnderlayError (List DeviceShadowState) :=
  match store.directory with
  | none => .ok []
  | some _ =>
      (loadFiles "json" (store.readShadowState codec) (fun _ => true) []
        (order.order store.directory.files)).map fun states =>
          states.mergeSort fun left right => left.deviceId ≤ right.deviceId

end JsonFileShadowStateStore

/-! ## Journal records in memory -/

/-- Journal records in memory. -/
abbrev InMemoryTxJournalStore : Type := BTreeMap String TxJournalRecord

namespace InMemoryTxJournalStore

def put (store : InMemoryTxJournalStore) (record : TxJournalRecord) :
    Except UnderlayError Unit × InMemoryTxJournalStore :=
  (.ok (), store.insert record.txId record)

def get (store : InMemoryTxJournalStore) (txId : String) :
    Except UnderlayError (Option TxJournalRecord) :=
  .ok store[txId]?

def listRecoverable (store : InMemoryTxJournalStore) :
    Except UnderlayError (List TxJournalRecord) :=
  .ok (recoverableRecords store)

end InMemoryTxJournalStore

/-! ## Journal records in files -/

/-- A directory with one file per record. -/
structure JsonFileTxJournalStore (Payload : Type) where
  root : String
  directory : Directory Payload

namespace JsonFileTxJournalStore

def validateJournalTxId (txId : String) : Except UnderlayError Unit :=
  refuseIf (isCanonicalIdentifier txId = false)
    (.invalidIntent ("tx_id " ++ debugPath txId ++ " is invalid for file journal store"))

/-- The file of a transaction. -/
def pathFor (txId : String) : Except UnderlayError String := do
  validateJournalTxId txId
  return jsonFileName txId

variable (codec : Codec TxJournalRecord Payload) (store : JsonFileTxJournalStore Payload)

def readJournalRecord (path : String) (payload : Payload) :
    Except UnderlayError TxJournalRecord :=
  match codec.decode payload with
  | .ok record => .ok record
  | .error text => .error (.internal ("parse tx journal " ++
      debugPath (store.root ++ "/" ++ path) ++ ": " ++ text))

/-- Write a record to its file. -/
def put (record : TxJournalRecord) :
    Except UnderlayError Unit × JsonFileTxJournalStore Payload :=
  match pathFor record.txId with
  | .error error => (.error error, store)
  | .ok path =>
      (.ok (), { store with directory := store.directory.write path (codec.encode record) })

/-- Read a record from its file. -/
def get (txId : String) : Except UnderlayError (Option TxJournalRecord) := do
  let path ← pathFor txId
  match store.directory.read path with
  | none => return none
  | some payload =>
      let record ← store.readJournalRecord codec path payload
      return some record

def listRecoverable (order : Enumeration (String × Payload)) :
    Except UnderlayError (List TxJournalRecord) :=
  match store.directory with
  | none => .ok []
  | some _ =>
      (loadFiles "json" (store.readJournalRecord codec)
        (fun record => record.phase.requiresRecovery) []
        (order.order store.directory.files)).map fun records =>
          records.mergeSort fun left right => left.txId ≤ right.txId

end JsonFileTxJournalStore

/-! ## Operations -/

/-- A listing comes with the orders in which the map and the directory enumerate their entries. -/
inductive ShadowOp (Payload : Type) where
  | put (state : DeviceShadowState)
  | get (deviceId : DeviceId)
  | remove (deviceId : DeviceId)
  | list (states : Enumeration DeviceShadowState) (files : Enumeration (String × Payload))

/-- The answers to these calls. -/
inductive ShadowAnswer where
  | put (result : Except UnderlayError DeviceShadowState)
  | get (result : Except UnderlayError (Option DeviceShadowState))
  | remove (result : Except UnderlayError (Option DeviceShadowState))
  | list (result : Except UnderlayError (List DeviceShadowState))

/-- The identifiers in the operation are canonical. -/
def ShadowOp.IsCanonical : ShadowOp Payload → Prop
  | .put state => isCanonicalIdentifier state.deviceId = true
  | .get deviceId | .remove deviceId => isCanonicalIdentifier deviceId = true
  | .list _ _ => True

/-- A call to the store in memory. -/
def InMemoryShadowStateStore.step (store : InMemoryShadowStateStore) :
    ShadowOp Payload → ShadowAnswer × InMemoryShadowStateStore
  | .put state => (.put (store.put state).1, (store.put state).2)
  | .get deviceId => (.get (store.get deviceId), store)
  | .remove deviceId => (.remove (store.remove deviceId).1, (store.remove deviceId).2)
  | .list states _ => (.list (store.list states), store)

/-- A call to the store in files. -/
def JsonFileShadowStateStore.step (codec : Codec DeviceShadowState Payload)
    (store : JsonFileShadowStateStore Payload) :
    ShadowOp Payload → ShadowAnswer × JsonFileShadowStateStore Payload
  | .put state => (.put (store.put codec state).1, (store.put codec state).2)
  | .get deviceId => (.get (store.get codec deviceId), store)
  | .remove deviceId => (.remove (store.remove codec deviceId).1, (store.remove codec deviceId).2)
  | .list _ files => (.list (store.list codec files), store)

/-- The calls of a journal store. -/
inductive JournalOp (Payload : Type) where
  | put (record : TxJournalRecord)
  | get (txId : String)
  | listRecoverable (files : Enumeration (String × Payload))

/-- The answers to these calls. -/
inductive JournalAnswer where
  | put (result : Except UnderlayError Unit)
  | get (result : Except UnderlayError (Option TxJournalRecord))
  | listRecoverable (result : Except UnderlayError (List TxJournalRecord))

def JournalOp.IsValid : JournalOp Payload → Prop
  | .put record => isCanonicalIdentifier record.txId = true
  | .get txId => isCanonicalIdentifier txId = true
  | .listRecoverable _ => True

def InMemoryTxJournalStore.step (store : InMemoryTxJournalStore) :
    JournalOp Payload → JournalAnswer × InMemoryTxJournalStore
  | .put record => (.put (store.put record).1, (store.put record).2)
  | .get txId => (.get (store.get txId), store)
  | .listRecoverable _ => (.listRecoverable store.listRecoverable, store)

/-- A call to the journal in files. -/
def JsonFileTxJournalStore.step (codec : Codec TxJournalRecord Payload)
    (store : JsonFileTxJournalStore Payload) :
    JournalOp Payload → JournalAnswer × JsonFileTxJournalStore Payload
  | .put record => (.put (store.put codec record).1, (store.put codec record).2)
  | .get txId => (.get (store.get codec txId), store)
  | .listRecoverable files => (.listRecoverable (store.listRecoverable codec files), store)

/-! ## The file stores follow the stores in memory -/

/-- The directory has one file for every entry of the map, and entries stand under their own valid
identifier. -/
structure Mirrors {α : Type} (codec : Codec α Payload) (key : α → String)
    (directory : Directory Payload) (map : BTreeMap String α) : Prop where
  represents : Represents codec jsonFileName directory map
  keyed : KeyedBy key map
  named : ∀ index value, map[index]? = some value → index ≠ ""

theorem jsonFileName_injective : Function.Injective jsonFileName := by
  intro left right same
  simpa [jsonFileName, String.ext_iff] using same

theorem extension_jsonFileName {id : String} (nonempty : id ≠ "") :
    extension (jsonFileName id) = some "json" := by
  have split : jsonFileName id = id ++ "." ++ "json" := by
    simp [jsonFileName, String.ext_iff]
  rw [split]
  exact extension_append nonempty (by decide) (by decide)

theorem ne_empty_of_isCanonicalIdentifier {id : String}
    (canonical : isCanonicalIdentifier id = true) :
    id ≠ "" := by
  simp only [isCanonicalIdentifier, decide_eq_true_eq] at canonical
  exact canonical.1

section Mirrors

variable {α ε : Type} {codec : Codec α Payload} {key : α → String}
variable {directory : Directory Payload} {map : BTreeMap String α}

theorem Mirrors.empty (noFiles : ∀ name, directory.read name = none) :
    Mirrors codec key directory ∅ where
  represents := .empty noFiles
  keyed := .empty
  named := by simp

variable (mirrors : Mirrors codec key directory map)

include mirrors

theorem Mirrors.insert (value : α) (nonempty : key value ≠ "") :
    Mirrors codec key (directory.write (jsonFileName (key value)) (codec.encode value))
      (map.insert (key value) value) where
  represents := mirrors.represents.write jsonFileName_injective
  keyed := mirrors.keyed.insert
  named := by
    intro index stored found
    rw [Std.ExtTreeMap.getElem?_insert] at found
    split at found
    · rename_i same
      rwa [← Std.LawfulEqCmp.eq_of_compare same]
    · exact mirrors.named index stored found

theorem Mirrors.erase {id : String} :
    Mirrors codec key (directory.remove (jsonFileName id)) (map.erase id) where
  represents := mirrors.represents.remove jsonFileName_injective
  keyed := mirrors.keyed.erase
  named := by
    intro index stored found
    rw [Std.ExtTreeMap.getElem?_erase] at found
    split at found
    · cases found
    · exact mirrors.named index stored found

theorem Mirrors.loadFiles {parse : String → Payload → Except ε α} {keep : α → Bool}
    (parses : ∀ path value, parse path (codec.encode value) = .ok value)
    (order : Enumeration (String × Payload)) :
    (loadFiles "json" parse keep [] (order.order directory.files)).map
        (fun values => values.mergeSort fun left right => key left ≤ key right) =
      .ok ((valuesInOrder map).filter keep) :=
  mirrors.represents.mergeSort_loadFiles jsonFileName_injective mirrors.keyed order
    fun index value found =>
      ⟨extension_jsonFileName (mirrors.named index value found), parses _ value⟩

/-- A missing directory belongs to an empty map. -/
theorem Mirrors.valuesInOrder_eq_nil (missing : directory = none) :
    valuesInOrder map = [] := by
  have noFiles := mirrors.represents.files_perm jsonFileName_injective
  rw [missing] at noFiles
  have noEntries :
      (map.toList.map fun entry => (jsonFileName entry.1, codec.encode entry.2)) = [] :=
    List.nil_perm.mp noFiles
  rw [valuesInOrder, List.map_eq_nil_iff.mp noEntries, List.map_nil]

end Mirrors

section Shadows

variable {codec : Codec DeviceShadowState Payload} {store : JsonFileShadowStateStore Payload}
variable {memory : InMemoryShadowStateStore} {deviceId : DeviceId}

theorem JsonFileShadowStateStore.readShadowState_encode (path : String)
    (state : DeviceShadowState) :
    store.readShadowState codec path (codec.encode state) = .ok state := by
  simp [readShadowState, codec.decode_encode]

theorem JsonFileShadowStateStore.pathFor_eq_ok (canonical : isCanonicalIdentifier deviceId = true) :
    pathFor deviceId = .ok (jsonFileName deviceId) := by
  simp [pathFor, validateShadowDeviceId, refuseIf, canonical]

section

variable (mirrors : Mirrors codec DeviceShadowState.deviceId store.directory memory)

include mirrors

theorem JsonFileShadowStateStore.get_eq (canonical : isCanonicalIdentifier deviceId = true) :
    store.get codec deviceId = memory.get deviceId := by
  simp only [get, pathFor_eq_ok canonical]
  change (match store.directory.read (jsonFileName deviceId) with
    | none => pure none
    | some payload => do
        let state ← store.readShadowState codec (jsonFileName deviceId) payload
        return some state) = Except.ok memory[deviceId]?
  rw [mirrors.represents.read]
  cases memory[deviceId]? with
  | none => rfl
  | some state =>
      rw [Option.map_some]
      simp only [readShadowState_encode]
      rfl

theorem JsonFileShadowStateStore.put_eq {state : DeviceShadowState}
    (canonical : isCanonicalIdentifier state.deviceId = true) :
    store.put codec state =
      (.ok { state with revision := storedRevision memory[state.deviceId]? state },
        { store with
          directory := store.directory.write (jsonFileName state.deviceId)
            (codec.encode
              { state with revision := storedRevision memory[state.deviceId]? state }) }) := by
  simp only [put, get_eq mirrors canonical, pathFor_eq_ok canonical, InMemoryShadowStateStore.get]
  rfl

theorem JsonFileShadowStateStore.remove_mirrors
    (canonical : isCanonicalIdentifier deviceId = true) :
    (store.remove codec deviceId).1 = (memory.remove deviceId).1 ∧
      Mirrors codec DeviceShadowState.deviceId (store.remove codec deviceId).2.directory
        (memory.remove deviceId).2 := by
  simp only [remove, pathFor_eq_ok canonical, mirrors.represents.read,
    InMemoryShadowStateStore.remove]
  cases found : memory[deviceId]? with
  | none =>
      have absent : memory.erase deviceId = memory := by
        apply Std.ExtTreeMap.ext_getElem?
        intro other
        rw [Std.ExtTreeMap.getElem?_erase]
        split
        · rename_i same
          rw [← Std.LawfulEqCmp.eq_of_compare same, found]
        · rfl
      rw [absent]
      exact ⟨rfl, mirrors⟩
  | some state =>
      simp only [Option.map_some, readShadowState_encode]
      exact ⟨trivial, mirrors.erase⟩

theorem JsonFileShadowStateStore.list_eq (states : Enumeration DeviceShadowState)
    (files : Enumeration (String × Payload)) :
    store.list codec files = memory.list states := by
  have sorted : memory.list states = .ok (valuesInOrder memory) := by
    have perm : (states.order (valuesInOrder memory)).Perm
        ((valuesInOrder memory).filter fun _ => true) := by
      simpa using states.perm (valuesInOrder memory)
    simp only [InMemoryShadowStateStore.list, mergeSort_eq_valuesInOrder mirrors.keyed perm,
      List.filter_true]
  rw [sorted, list]
  split
  · rename_i missing
    rw [mirrors.valuesInOrder_eq_nil missing]
  · rw [mirrors.loadFiles readShadowState_encode files, List.filter_true]

end

theorem JsonFileShadowStateStore.step_mirrors {op : ShadowOp Payload} (canonical : op.IsCanonical)
    (mirrors : Mirrors codec DeviceShadowState.deviceId store.directory memory) :
    (store.step codec op).1 = (memory.step op).1 ∧
      Mirrors codec DeviceShadowState.deviceId (store.step codec op).2.directory
        (memory.step op).2 := by
  cases op with
  | put state =>
      simp only [step, put_eq mirrors canonical]
      exact ⟨rfl, mirrors.insert
        { state with revision := storedRevision memory[state.deviceId]? state }
        (ne_empty_of_isCanonicalIdentifier canonical)⟩
  | get deviceId =>
      simp only [step, InMemoryShadowStateStore.step, get_eq mirrors canonical]
      exact ⟨trivial, mirrors⟩
  | remove deviceId =>
      rcases remove_mirrors mirrors canonical with ⟨sameAnswer, stillMirrors⟩
      simp only [step, InMemoryShadowStateStore.step, sameAnswer]
      exact ⟨trivial, stillMirrors⟩
  | list states files =>
      simp only [step, InMemoryShadowStateStore.step, list_eq mirrors states files]
      exact ⟨trivial, mirrors⟩

end Shadows

section Journal

variable {codec : Codec TxJournalRecord Payload} {store : JsonFileTxJournalStore Payload}
variable {memory : InMemoryTxJournalStore} {txId : String}

theorem JsonFileTxJournalStore.readJournalRecord_encode (path : String) (record : TxJournalRecord) :
    store.readJournalRecord codec path (codec.encode record) = .ok record := by
  simp [readJournalRecord, codec.decode_encode]

theorem JsonFileTxJournalStore.pathFor_eq_ok (valid : isCanonicalIdentifier txId = true) :
    pathFor txId = .ok (jsonFileName txId) := by
  simp [pathFor, validateJournalTxId, refuseIf, valid]

theorem JsonFileTxJournalStore.get_eq
    (mirrors : Mirrors codec TxJournalRecord.txId store.directory memory)
    (valid : isCanonicalIdentifier txId = true) :
    store.get codec txId = memory.get txId := by
  simp only [get, pathFor_eq_ok valid]
  change (match store.directory.read (jsonFileName txId) with
    | none => pure none
    | some payload => do
        let record ← store.readJournalRecord codec (jsonFileName txId) payload
        return some record) = Except.ok memory[txId]?
  rw [mirrors.represents.read]
  cases memory[txId]? with
  | none => rfl
  | some record =>
      rw [Option.map_some]
      simp only [readJournalRecord_encode]
      rfl

theorem JsonFileTxJournalStore.listRecoverable_eq
    (mirrors : Mirrors codec TxJournalRecord.txId store.directory memory)
    (files : Enumeration (String × Payload)) :
    store.listRecoverable codec files = memory.listRecoverable := by
  have unfolded : memory.listRecoverable =
      .ok ((valuesInOrder memory).filter fun record => record.phase.requiresRecovery) := rfl
  rw [unfolded, listRecoverable]
  split
  · rename_i missing
    rw [mirrors.valuesInOrder_eq_nil missing, List.filter_nil]
  · rw [mirrors.loadFiles readJournalRecord_encode files]

theorem JsonFileTxJournalStore.step_mirrors {op : JournalOp Payload} (valid : op.IsValid)
    (mirrors : Mirrors codec TxJournalRecord.txId store.directory memory) :
    (store.step codec op).1 = (memory.step op).1 ∧
      Mirrors codec TxJournalRecord.txId (store.step codec op).2.directory
        (memory.step op).2 := by
  cases op with
  | put record =>
      simp only [step, put, pathFor_eq_ok valid]
      exact ⟨rfl, mirrors.insert record (ne_empty_of_isCanonicalIdentifier valid)⟩
  | get txId =>
      simp only [step, InMemoryTxJournalStore.step, get_eq mirrors valid]
      exact ⟨trivial, mirrors⟩
  | listRecoverable files =>
      simp only [step, InMemoryTxJournalStore.step, listRecoverable_eq mirrors files]
      exact ⟨trivial, mirrors⟩

end Journal

/-- Started empty, the file stores answer every sequence of operations on valid identifiers as the
stores in memory do. -/
theorem file_stores_agree_with_memory {Record : Type}
    (shadowCodec : Codec DeviceShadowState Payload) (journalCodec : Codec TxJournalRecord Record)
    (shadows : JsonFileShadowStateStore Payload) (journal : JsonFileTxJournalStore Record)
    (noShadows : ∀ name, shadows.directory.read name = none)
    (noRecords : ∀ name, journal.directory.read name = none) :
    (∀ ops : List (ShadowOp Payload), (∀ op ∈ ops, op.IsCanonical) →
      trace (JsonFileShadowStateStore.step shadowCodec) shadows ops =
        trace InMemoryShadowStateStore.step ∅ ops) ∧
    ∀ ops : List (JournalOp Record), (∀ op ∈ ops, op.IsValid) →
      trace (JsonFileTxJournalStore.step journalCodec) journal ops =
        trace InMemoryTxJournalStore.step ∅ ops := by
  constructor
  · intro ops canonical
    exact trace_eq_of_simulation
      (fun store memory => Mirrors shadowCodec DeviceShadowState.deviceId store.directory memory)
      JsonFileShadowStateStore.step_mirrors (.empty noShadows) canonical
  · intro ops valid
    exact trace_eq_of_simulation
      (fun store memory => Mirrors journalCodec TxJournalRecord.txId store.directory memory)
      JsonFileTxJournalStore.step_mirrors (.empty noRecords) valid

/-- A format in which every value is its own text. -/
def plainCodec (α : Type) : Codec α α where
  encode := id
  decode := .ok
  decode_encode := fun _ => rfl

def storedOrder (α : Type) : Enumeration α where
  order := id
  perm := fun _ => .refl _

def sampleShadowOps : List (ShadowOp DeviceShadowState) :=
  [.put { deviceId := "leaf-b", revision := 0 }, .put { deviceId := "leaf-a", revision := 7 },
    .put { deviceId := "leaf-b", revision := 0 }, .remove "spine-1", .get "leaf-b",
    .list (storedOrder _) (storedOrder _)]

def sampleJournalOps : List (JournalOp TxJournalRecord) :=
  [.put (.started ⟨"tx-2", "request-2", "trace-2"⟩ ["leaf-b"] 10),
    .put (.started ⟨"tx-1", "request-1", "trace-1"⟩ ["leaf-a"] 20), .get "tx-3",
    .listRecoverable (storedOrder _)]

theorem file_stores_agree_on_samples :
    trace (JsonFileShadowStateStore.step (plainCodec _)) ⟨"shadow", none⟩ sampleShadowOps =
        trace InMemoryShadowStateStore.step ∅ sampleShadowOps ∧
      trace (JsonFileTxJournalStore.step (plainCodec _)) ⟨"journal", some ∅⟩ sampleJournalOps =
        trace InMemoryTxJournalStore.step ∅ sampleJournalOps := by
  have agree := file_stores_agree_with_memory (plainCodec _) (plainCodec _)
    ⟨"shadow", none⟩ ⟨"journal", some ∅⟩ (fun _ => rfl) (fun name => by simp [Directory.read])
  constructor
  · apply agree.1
    simp only [sampleShadowOps, List.forall_mem_cons, List.not_mem_nil, false_implies,
      implies_true, ShadowOp.IsCanonical]
    decide +kernel
  · apply agree.2
    simp only [sampleJournalOps, List.forall_mem_cons, List.not_mem_nil, false_implies,
      implies_true, JournalOp.IsValid, TxJournalRecord.started]
    decide +kernel

end AriaUnderlay
