import AriaUnderlay.Api.ApplyCoordinator
import AriaUnderlay.Core.History
import AriaUnderlay.Core.Run

/-!
# The environment of an apply

One apply is determined by what its environment answers: the stores, the inventory and the adapter.
`ApplyEnv` lists these answers and serves them.  What the apply does to its transaction is read off
the world it leaves: the durable phase, and whether a commit was accepted or undone.
-/

namespace AriaUnderlay

open Effect

/-! ## The environment of one apply -/

/-- The answers that an apply gets. -/
structure ApplyEnv where
  acquire : Except UnderlayError Unit
  listRecoverable : Except UnderlayError Unit
  inventory : LookupSite → Except UnderlayError ManagedDevice
  client : LookupSite → Except UnderlayError Unit
  currentState : Except UnderlayError DeviceShadowState
  capabilities : Except UnderlayError DeviceCapabilityProfile
  observedPut : Except UnderlayError Unit
  clock : ℕ → ℕ
  txId : String
  /-- A failing write leaves the stored record as it was and reports an internal error. -/
  put : PutSite → Except String Unit
  adapter : AdapterCall → AdapterAnswer
  shadowGet : Except UnderlayError Unit
  shadowPut : Except UnderlayError Unit

namespace ApplyEnv

/-- The answers, call by call. -/
def oracle (env : ApplyEnv) : Oracle
  | .acquire _, _ | .release _, _ => ()
  | .acquireWithPolicy _, _ => env.acquire
  | .nowUnixSecs, position => env.clock position
  | .newTxId, _ => env.txId
  | .inventoryGet site _, _ => env.inventory site
  | .adapterClient site _, _ => env.client site
  | .getCurrentState _ _, _ => env.currentState
  | .getCapabilities _, _ => env.capabilities
  | .adapter _ _ call, _ => env.adapter call
  | .journalPut site _, _ => (env.put site).mapError .internal
  | .journalGet _, _ => .ok none
  | .journalListRecoverable, _ => env.listRecoverable.map fun _ => []
  | .shadowGet _, _ => env.shadowGet.map fun _ => none
  | .shadowPut _ _, _ => env.shadowPut
  | .observedPut _, _ => env.observedPut
  -- an apply never asks for these
  | .authorize _, _ => .error (.authorizationDenied "")
  | .productAuditAppend _, _ => .error (.productAuditWriteFailed "")

variable (env : ApplyEnv)

def puts (site : PutSite) : Bool :=
  (env.put site).isOk

theorem put_cases (site : PutSite) :
    (env.puts site = true ∧ env.put site = .ok ()) ∨
      env.puts site = false ∧ ∃ message, env.put site = .error message := by
  cases written : env.put site with
  | ok _ => exact .inl ⟨by simp only [puts, written]; rfl, rfl⟩
  | error message => exact .inr ⟨by simp only [puts, written]; rfl, message, rfl⟩

/-- The prepare is accepted. -/
def prepares (desired : DeviceDesiredState) : Bool :=
  match env.adapter (.prepare desired) with
  | .ok prepare => prepare.status = .prepared
  | .error _ => false

/-- The checksum that a successful prepare hands to the commit. -/
def checksum (desired : DeviceDesiredState) : Option String :=
  match env.adapter (.prepare desired) with
  | .ok prepare => prepare.preparedCandidateChecksum
  | .error _ => none

/-- The commit is accepted. -/
def commits (desired : DeviceDesiredState) (strategy : TransactionStrategy)
    (timeoutSecs : ℕ) : Bool :=
  let call := AdapterCall.commit strategy timeoutSecs (env.checksum desired)
  call.isAcceptedCommit (env.adapter call)

/-- The verification is accepted. -/
def verifies (desired : DeviceDesiredState) (changeSet : ChangeSet) : Bool :=
  match env.adapter (.verify desired changeSet) with
  | .ok verify => isVerifyAccepted verify.status
  | .error _ => false

/-- Only a confirmed commit has to be confirmed. -/
def confirms (strategy : TransactionStrategy) : Bool :=
  strategy ≠ .confirmedCommit ||
    match env.adapter .finalConfirm with
    | .ok confirm => confirm.status = .committed
    | .error _ => false

/-- The rollback is successful. -/
def rollsBack (strategy : TransactionStrategy) : Bool :=
  let call := AdapterCall.rollback (some strategy)
  call.isSuccessfulRollback (env.adapter call)

def managed (site : LookupSite) (deviceId : DeviceId) : Except UnderlayError ManagedDevice :=
  (env.inventory site).map fun managed => managed.named deviceId

def capabilityOf (managed : ManagedDevice) : Except UnderlayError DeviceCapabilityProfile :=
  match managed.capability with
  | some capability => .ok capability
  | none => env.capabilities

/-- The strategy with which the endpoint is changed, if it can be changed at all. -/
def strategy (deviceId : DeviceId)
    (allowDegradedAtomicity : Bool) : Except UnderlayError TransactionStrategy := do
  let managed ← env.managed .endpoint deviceId
  env.client .endpoint
  let capability ← env.capabilityOf managed
  admitStrategy deviceId allowDegradedAtomicity capability.recommendedStrategy

def shadowUpdates : Bool :=
  env.shadowGet.isOk && env.shadowPut.isOk

end ApplyEnv

/-! ## What a transaction leaves behind -/

/-- The durable phase of a transaction and the fate of its commit. -/
@[ext]
structure TxTrace where
  phase : Option TxPhase
  accepted : Bool
  undone : Bool
  deriving DecidableEq, Repr

def World.trace (world : World) (txId : String) : TxTrace where
  phase := world.journal[txId]?.map TxJournalRecord.phase
  accepted := (world.history txId).any TxEvent.isAcceptedCommit
  undone := rolledBackAfterCommit (world.history txId)

/-- A phase becomes durable. -/
def TxTrace.store (trace : TxTrace) (phase : TxPhase) : TxTrace :=
  { trace with phase := some phase }

/-- A call is answered. -/
def TxTrace.call (trace : TxTrace) (call : AdapterCall) (answer : AdapterAnswer) : TxTrace :=
  { trace with
    accepted := trace.accepted || call.isAcceptedCommit answer
    undone := trace.undone || trace.accepted && call.isSuccessfulRollback answer }

theorem trace_adapter (thread : Thread) (world : World) (device : DeviceInfo)
    (context : TxContext) (call : AdapterCall) (answer : AdapterAnswer) :
    (world.after thread (.adapter device context call) answer).trace context.txId =
      (world.trace context.txId).call call answer := by
  simp [World.after, World.log, World.trace, TxTrace.call, rolledBackAfterCommit,
    thenLater_append, TxEvent.isAcceptedCommit, TxEvent.isSuccessfulRollback]

variable {world : World} {record : TxJournalRecord} {txId : String}

theorem trace_journalPut {thread : Thread} {site : PutSite} (same : record.txId = txId) :
    (world.after thread (.journalPut site record) (.ok ())).trace txId =
      (world.trace txId).store record.phase := by
  subst same
  simp [World.after, World.log, World.trace, TxTrace.store, rolledBackAfterCommit,
    thenLater_append, TxEvent.isAcceptedCommit, TxEvent.isSuccessfulRollback]

theorem trace_shadowPut (thread : Thread) (world : World) (txId other : String)
    (state : DeviceShadowState) (answer : Except UnderlayError Unit) :
    (world.after thread (.shadowPut txId state) answer).trace other = world.trace other := by
  cases answer with
  | error _ => rfl
  | ok _ =>
      by_cases same : other = txId
      · subst same
        simp [World.after, World.log, World.trace, rolledBackAfterCommit, thenLater_append,
          TxEvent.isAcceptedCommit, TxEvent.isSuccessfulRollback]
      · simp [World.after, World.log, World.trace, same]

theorem trace_of_unused (unused : world.Unused txId) :
    world.trace txId = { phase := none, accepted := false, undone := false } := by
  rcases unused with ⟨-, absent, silent⟩
  simp [World.trace, absent, silent, rolledBackAfterCommit, thenLater]

/-! ## Serving the interactions -/

section Served

variable (env : ApplyEnv)

theorem served_interact {oracle : Oracle} {op : CoreOp} {post : op.Answer → World → Prop} :
    Served oracle (interact op) post world ↔
      ∀ position, post (world.settle op (oracle op position))
        (world.after 0 op (world.settle op (oracle op position))) :=
  served_call oracle

/-- An answer that does not depend on the position in the program is the answer. -/
theorem served_interact_settled {op : CoreOp} {post : op.Answer → World → Prop} {answer : op.Answer}
    (settled : ∀ position, world.settle op (env.oracle op position) = answer) :
    Served env.oracle (interact op) post world ↔ post answer (world.after 0 op answer) := by
  simp only [served_interact, settled, forall_const]

theorem served_nowUnixSecs {post : ℕ → World → Prop} :
    Served env.oracle nowUnixSecs post world ↔ ∀ position, post (env.clock position) world :=
  served_interact

theorem served_transitionPhase {phase : TxPhase}
    {post : Except UnderlayError TxJournalRecord → World → Prop}
    (allowed : record.phase.isAllowed phase = true) :
    Served env.oracle (transitionPhase record phase) post world ↔
      ∀ position, post (.ok (record.withPhase phase (env.clock position))) world := by
  simp only [transitionPhase, validateTransition, allowed, if_true, ensures_bind,
    served_nowUnixSecs, Program.pure_eq_done, ensures_done]

variable {post : Except UnderlayError Unit → World → Prop}

theorem served_journalPut {site : PutSite} :
    Served env.oracle (journalPut site record) post world ↔
      post ((env.put site).mapError .internal)
        (world.after 0 (.journalPut site record) ((env.put site).mapError .internal)) :=
  served_interact_settled env fun _ => rfl

theorem served_adapterCall {device : DeviceInfo} {context : TxContext} {call : AdapterCall}
    {post : AdapterAnswer → World → Prop} :
    Served env.oracle (adapterCall device context call) post world ↔
      post (env.adapter call)
        (world.after 0 (.adapter device context call) (env.adapter call)) :=
  served_interact_settled env fun _ => rfl

theorem served_inventoryGet {site : LookupSite} {deviceId : DeviceId}
    {post : Except UnderlayError ManagedDevice → World → Prop} :
    Served env.oracle (inventoryGet site deviceId) post world ↔
      post (env.managed site deviceId) world := by
  have settled : world.settle (.inventoryGet site deviceId) (env.inventory site) =
      env.managed site deviceId := by
    unfold ApplyEnv.managed
    cases env.inventory site <;> rfl
  exact served_interact_settled env fun _ => settled

theorem served_adapterClient {site : LookupSite} {endpoint : String} :
    Served env.oracle (adapterClient site endpoint) post world ↔ post (env.client site) world :=
  served_interact_settled env fun _ => rfl

theorem served_getCapabilities {device : DeviceInfo}
    {post : Except UnderlayError DeviceCapabilityProfile → World → Prop} :
    Served env.oracle (getCapabilities device) post world ↔ post env.capabilities world :=
  served_interact_settled env fun _ => rfl

theorem served_endpointCapability {managed : ManagedDevice}
    {post : Except UnderlayError DeviceCapabilityProfile → World → Prop} :
    Served env.oracle (endpointCapability managed) post world ↔
      post (env.capabilityOf managed) world := by
  unfold endpointCapability ApplyEnv.capabilityOf
  cases managed.capability with
  | some capability => exact Iff.rfl
  | none => exact served_getCapabilities env

theorem served_shadowGet {deviceId : DeviceId}
    {post : Except UnderlayError (Option DeviceShadowState) → World → Prop} :
    Served env.oracle (shadowGet deviceId) post world ↔
      post (env.shadowGet.map fun _ => world.shadows[deviceId]?) world := by
  have settled : world.settle (.shadowGet deviceId) (env.shadowGet.map fun _ => none) =
      env.shadowGet.map fun _ => world.shadows[deviceId]? := by
    cases env.shadowGet <;> rfl
  exact served_interact_settled env fun _ => settled

theorem served_shadowPut {state : DeviceShadowState} :
    Served env.oracle (shadowPut txId state) post world ↔
      post env.shadowPut (world.after 0 (.shadowPut txId state) env.shadowPut) :=
  served_interact_settled env fun _ => rfl

theorem served_newTxId {post : String → World → Prop} :
    Served env.oracle newTxId post world ↔
      post env.txId (world.after 0 .newTxId env.txId) :=
  served_interact_settled env fun _ => rfl

end Served

end AriaUnderlay
