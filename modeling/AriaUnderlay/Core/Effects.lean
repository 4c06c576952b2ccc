import AriaUnderlay.Effect.RelyGuarantee
import AriaUnderlay.Tx.Journal

/-!
# The world of the core

The core talks to the journal, the shadow and observed stores, the inventory, the endpoint lock
table, the clock and, through the adapter, to the devices.  `CoreOp` lists these interactions.
`World` holds what is shared between the tasks of the process, together with a history of each
transaction: the records stored for it, the adapter calls made for it with their answers, and the
shadow states stored for it.

What an interaction does to the world is a function of its answer (`World.after`).  Which answers
are possible is a relation: stores return what they hold or fail (`Faithful`), locks are granted
only while free and new transaction identifiers are unused (`Available`); adapters may answer
anything.
-/

namespace AriaUnderlay

open Collections Effect

/-! ## Adapter -/

/-- The statuses that the adapter reports. -/
inductive AdapterOperationStatus where
  | unspecified
  | noChange
  | prepared
  | committed
  | rolledBack
  | failed
  | inDoubt
  | confirmedCommitPending
  deriving DecidableEq, Repr

def AdapterOperationStatus.debugName : AdapterOperationStatus → String
  | .unspecified => "Unspecified"
  | .noChange => "NoChange"
  | .prepared => "Prepared"
  | .committed => "Committed"
  | .rolledBack => "RolledBack"
  | .failed => "Failed"
  | .inDoubt => "InDoubt"
  | .confirmedCommitPending => "ConfirmedCommitPending"

/-- What the adapter reports of a call. -/
structure AdapterOutcome where
  status : AdapterOperationStatus
  warnings : List String := []
  preparedCandidateChecksum : Option String := none
  deriving DecidableEq, Repr

/-- The adapter calls that carry a transaction context. -/
inductive AdapterCall where
  | prepare (desired : DeviceDesiredState)
  | commit
      (strategy : TransactionStrategy)
      (confirmTimeoutSecs : ℕ)
      (preparedCandidateChecksum : Option String)
  | verify (desired : DeviceDesiredState) (changeSet : ChangeSet)
  | finalConfirm
  | rollback (strategy : Option TransactionStrategy)
  | recover (strategy : Option TransactionStrategy) (action : RecoveryAction)
  deriving DecidableEq

/-- The answer to an adapter call. -/
abbrev AdapterAnswer : Type := Except UnderlayError AdapterOutcome

/-- The status that a successful commit has under a strategy. -/
def commitStatusMatchesStrategy (status : AdapterOperationStatus)
    (strategy : TransactionStrategy) : Bool :=
  match strategy with
  | .confirmedCommit => status = .confirmedCommitPending
  | _ => status = .committed

def isVerifyAccepted (status : AdapterOperationStatus) : Bool :=
  status = .noChange ∨ status = .committed

/-! ## Inventory -/

/-- The states of a device in the inventory. -/
inductive DeviceLifecycleState where
  | pending
  | probing
  | ready
  | degraded
  | unsupported
  | unreachable
  | authFailed
  | drifted
  | maintenance
  deriving DecidableEq, Repr

/-- What a transaction needs to know of a device. -/
structure DeviceInfo where
  id : DeviceId
  adapterEndpoint : String
  lifecycleState : DeviceLifecycleState
  deriving DecidableEq, Repr

/-- The strategy that fits the capabilities of a device. -/
structure DeviceCapabilityProfile where
  recommendedStrategy : TransactionStrategy
  deriving DecidableEq, Repr

/-- A device of the inventory. -/
structure ManagedDevice where
  info : DeviceInfo
  capability : Option DeviceCapabilityProfile
  deriving DecidableEq, Repr

/-! ## Interactions -/

/-- The statement of the source that writes a journal record. -/
inductive PutSite where
  | started
  | preparing
  | strategySelected
  | prepared
  | committing
  | verifying
  | finalConfirming
  | rollingBack
  | rollbackOutcome
  | failedApply
  | committed
  | shadowFailure
  | recovering
  | manualIntervention
  | recoveredShadowFailure
  | recovered
  | recoveryFailure
  | forceResolved
  deriving DecidableEq, Repr

/-- The statement of the source that looks a device or its adapter up. -/
inductive LookupSite where
  | driftGate
  | dryRun
  | endpoint
  | recovery
  deriving DecidableEq, Repr

/-- The actions that need an authorization. -/
inductive AdminAction where
  | listOperationSummaries
  | listAlerts
  | listInDoubtTransactions
  | acknowledgeAlert
  | resolveAlert
  | suppressAlert
  | expireAlert
  | forceResolveTransaction
  | forceUnlockSession
  | changeRetentionPolicy
  | changeDaemonSchedule
  | getProductStatusBundle
  | getWorkerReloadStatus
  | exportAuditHistory
  deriving DecidableEq, Repr

/-- An operator asks to do an action. -/
structure AuthorizationRequest where
  requestId : String
  traceId : String
  operatorId : String
  action : AdminAction
  deriving DecidableEq, Repr

/-- The permission of an operator. -/
structure AuthorizationDecision where
  operatorId : String
  action : AdminAction
  deriving DecidableEq, Repr

/-- What the audit store keeps of an action. -/
structure ProductAuditRecord where
  requestId : String
  traceId : String
  action : String
  result : String
  txId : Option String
  deviceId : Option DeviceId
  operatorId : Option String
  reason : Option String
  attentionRequired : Bool
  errorCode : Option String
  errorMessage : Option String
  fields : BTreeMap String String
  appendedAtUnixSecs : ℕ

/-- The calls that leave the core. -/
inductive CoreOp where
  | acquire (deviceId : DeviceId)
  | acquireWithPolicy (deviceIds : List DeviceId)
  | release (deviceIds : List DeviceId)
  | nowUnixSecs
  | newTxId
  | inventoryGet (site : LookupSite) (deviceId : DeviceId)
  | adapterClient (site : LookupSite) (endpoint : String)
  | getCurrentState (device : DeviceInfo) (desired : DeviceDesiredState)
  | getCapabilities (device : DeviceInfo)
  | adapter (device : DeviceInfo) (context : TxContext) (call : AdapterCall)
  | journalPut (site : PutSite) (record : TxJournalRecord)
  | journalGet (txId : String)
  | journalListRecoverable
  | shadowGet (deviceId : DeviceId)
  | shadowPut (txId : String) (state : DeviceShadowState)
  | observedPut (state : DeviceShadowState)
  | authorize (request : AuthorizationRequest)
  | productAuditAppend (record : ProductAuditRecord)

/-- What the calls return. -/
def CoreOp.Answer : CoreOp → Type
  | .acquire _ | .release _ => Unit
  | .nowUnixSecs => ℕ
  | .newTxId => String
  | .inventoryGet _ _ => Except UnderlayError ManagedDevice
  | .getCurrentState _ _ => Except UnderlayError DeviceShadowState
  | .getCapabilities _ => Except UnderlayError DeviceCapabilityProfile
  | .adapter _ _ _ => AdapterAnswer
  | .journalGet _ => Except UnderlayError (Option TxJournalRecord)
  | .journalListRecoverable => Except UnderlayError (List TxJournalRecord)
  | .shadowGet _ => Except UnderlayError (Option DeviceShadowState)
  | .authorize _ => Except UnderlayError AuthorizationDecision
  | .acquireWithPolicy _ | .adapterClient _ _ | .journalPut _ _ | .shadowPut _ _ | .observedPut _
  | .productAuditAppend _ => Except UnderlayError Unit

/-- The calls with their answers. -/
def coreSignature : Signature where
  Op := CoreOp
  Answer := CoreOp.Answer

/-- Programs of the core. -/
abbrev Core : Type → Type := Program coreSignature

abbrev CoreResult : Type → Type := Result coreSignature UnderlayError

/-- Code that updates the journal record it was lent. -/
abbrev Endpoint : Type → Type := Fallible coreSignature UnderlayError TxJournalRecord

/-! ## Calls -/

def interact (op : CoreOp) : Core op.Answer :=
  @Program.perform coreSignature op

def nowUnixSecs : Core ℕ :=
  interact .nowUnixSecs

/-- Call the adapter of a device. -/
def adapterCall (device : DeviceInfo) (context : TxContext)
    (call : AdapterCall) : Core AdapterAnswer :=
  interact (.adapter device context call)

/-- Write a journal record. -/
def journalPut (site : PutSite) (record : TxJournalRecord) : Core (Except UnderlayError Unit) :=
  interact (.journalPut site record)

def inventoryGet (site : LookupSite)
    (deviceId : DeviceId) : Core (Except UnderlayError ManagedDevice) :=
  interact (.inventoryGet site deviceId)

/-- Connect to an adapter. -/
def adapterClient (site : LookupSite) (endpoint : String) : Core (Except UnderlayError Unit) :=
  interact (.adapterClient site endpoint)

def getCurrentState (device : DeviceInfo)
    (desired : DeviceDesiredState) : Core (Except UnderlayError DeviceShadowState) :=
  interact (.getCurrentState device desired)

def getCapabilities (device : DeviceInfo) : Core (Except UnderlayError DeviceCapabilityProfile) :=
  interact (.getCapabilities device)

/-- Store an observed state. -/
def observedPut (state : DeviceShadowState) : Core (Except UnderlayError Unit) :=
  interact (.observedPut state)

def shadowGet (deviceId : DeviceId) : Core (Except UnderlayError (Option DeviceShadowState)) :=
  interact (.shadowGet deviceId)

def shadowPut (txId : String) (state : DeviceShadowState) : Core (Except UnderlayError Unit) :=
  interact (.shadowPut txId state)

def listRecoverable : Core (Except UnderlayError (List TxJournalRecord)) :=
  interact .journalListRecoverable

def acquireWithPolicy (deviceIds : List DeviceId) : Core (Except UnderlayError Unit) :=
  interact (.acquireWithPolicy deviceIds)

def release (deviceIds : List DeviceId) : Core Unit :=
  interact (.release deviceIds)

/-- Draw a transaction identifier. -/
def newTxId : Core String :=
  interact .newTxId

/-- Wait for the lock of a device. -/
def acquire (deviceId : DeviceId) : Core Unit :=
  interact (.acquire deviceId)

/-- Read a journal record. -/
def journalGet (txId : String) : Core (Except UnderlayError (Option TxJournalRecord)) :=
  interact (.journalGet txId)

def authorize (request : AuthorizationRequest) :
    Core (Except UnderlayError AuthorizationDecision) :=
  interact (.authorize request)

/-- Append an audit record. -/
def productAuditAppend (record : ProductAuditRecord) : Core (Except UnderlayError Unit) :=
  interact (.productAuditAppend record)

/-- `transition_phase` on a copy of the record. -/
def transitionPhase (record : TxJournalRecord)
    (phase : TxPhase) : Core (Except UnderlayError TxJournalRecord) :=
  match validateTransition record.phase phase with
  | .error error => pure (.error error)
  | .ok () => do
      let now ← nowUnixSecs
      pure (.ok (record.withPhase phase now))

/-! ## Shared state -/

/-- Tasks of the process. -/
abbrev Thread : Type := ℕ

/-- What happened to one transaction, in order. -/
inductive TxEvent where
  | stored (record : TxJournalRecord)
  | called (device : DeviceId) (call : AdapterCall) (answer : AdapterAnswer)
  | shadowStored (state : DeviceShadowState)

/-- The stores, locks and identifiers that the tasks share. -/
structure World where
  journal : BTreeMap String TxJournalRecord
  shadows : BTreeMap DeviceId DeviceShadowState
  observed : BTreeMap DeviceId DeviceShadowState
  locks : DeviceId → Option Thread
  /-- The transaction identifiers drawn by running tasks. -/
  drawn : String → Option Thread
  history : String → List TxEvent

/-- A process that starts with empty stores. -/
def World.initial : World where
  journal := ∅
  shadows := ∅
  observed := ∅
  locks := fun _ => none
  drawn := fun _ => none
  history := fun _ => []

def World.log (world : World) (txId : String) (event : TxEvent) : World :=
  { world with history := Function.update world.history txId (world.history txId ++ [event]) }

/-- The revision under which a store keeps a state that it already holds or not. -/
def storedRevision (present : Option DeviceShadowState) (state : DeviceShadowState) : UInt64 :=
  match present with
  | some previous => if previous.revision = 0xFFFFFFFFFFFFFFFF then previous.revision
      else previous.revision + 1
  | none => max state.revision 1

def storeState (store : BTreeMap DeviceId DeviceShadowState)
    (state : DeviceShadowState) : BTreeMap DeviceId DeviceShadowState :=
  store.insert state.deviceId
    { state with revision := storedRevision store[state.deviceId]? state }

def recoverableRecords (journal : BTreeMap String TxJournalRecord) : List TxJournalRecord :=
  (journal.toList.map Prod.snd).filter fun record => record.phase.requiresRecovery

/-! ## Effects -/

/-- The world after a task's interaction was answered. -/
def World.after (thread : Thread) (world : World) : (op : CoreOp) → op.Answer → World
  | .acquire deviceId, _ =>
      { world with locks := Function.update world.locks deviceId (some thread) }
  | .acquireWithPolicy deviceIds, .ok _ =>
      { world with
        locks := fun deviceId =>
          if deviceId ∈ deviceIds then some thread else world.locks deviceId }
  | .release deviceIds, _ =>
      { world with
        locks := fun deviceId =>
          if deviceId ∈ deviceIds ∧ world.locks deviceId = some thread then none
          else world.locks deviceId }
  | .newTxId, txId => { world with drawn := Function.update world.drawn txId (some thread) }
  | .adapter device context call, answer =>
      world.log context.txId (.called device.id call answer)
  | .journalPut _ record, .ok _ =>
      { world.log record.txId (.stored record) with
        journal := world.journal.insert record.txId record }
  | .shadowPut txId state, .ok _ =>
      { world.log txId (.shadowStored state) with shadows := storeState world.shadows state }
  | .observedPut state, .ok _ => { world with observed := storeState world.observed state }
  | _, _ => world

/-- No task has drawn or used the transaction identifier. -/
def World.Unused (world : World) (txId : String) : Prop :=
  world.drawn txId = none ∧ world.journal[txId]? = none ∧ world.history txId = []

/-- Stores answer with what they hold, and the inventory keeps devices under their own name. -/
def Faithful (world : World) : (op : CoreOp) → op.Answer → Prop
  | .inventoryGet _ deviceId, .ok managed => managed.info.id = deviceId
  | .journalGet txId, .ok record => record = world.journal[txId]?
  | .journalListRecoverable, .ok records => records = recoverableRecords world.journal
  | .shadowGet deviceId, .ok state => state = world.shadows[deviceId]?
  | _, _ => True

/-- Locks are granted while they are free, and identifiers are new. -/
def Available (world : World) : (op : CoreOp) → op.Answer → Prop
  | .acquire deviceId, _ => world.locks deviceId = none
  | .acquireWithPolicy deviceIds, .ok _ => ∀ deviceId ∈ deviceIds, world.locks deviceId = none
  | .acquireWithPolicy _, .error error =>
      ∃ message, error = .adapterOperation "ENDPOINT_LOCK_TIMEOUT" message true []
  | .newTxId, txId => world.Unused txId
  | _, _ => True

/-- A restart keeps the stores and drops the locks. -/
def World.restart (world : World) : World :=
  { world with locks := fun _ => none, drawn := fun _ => none }

/-- The environment in which the tasks of one process run. -/
def coreEnvironment : Environment coreSignature Thread World where
  respond := fun thread world op answer after =>
    Faithful world op answer ∧ Available world op answer ∧ after = world.after thread op answer
  restart := World.restart

end AriaUnderlay
