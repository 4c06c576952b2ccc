import AriaUnderlay.Collections.Checks
import AriaUnderlay.Effect.Schedule
import AriaUnderlay.Model.Text
import AriaUnderlay.Tx.Phase

/-!
# The active-passive lease

Several processes compete for one lease file.  Each of them runs `acquire`, refreshes the lease
while it holds the guard, and releases it on drop.  The file operations of different processes
interleave freely; time passes between any two of them on a clock that all share.

The file is created empty and its content is written in a second step, as `create_lease_file` does
it, while a refresh replaces the whole file at once.  A process that removed or replaced a file
leaves the handles of others behind: content written through such a handle is lost.
-/

namespace AriaUnderlay

open Collections Effect

/-! ## Records and configuration -/

/-- A token that `Uuid::new_v4` draws. -/
abbrev LeaseToken : Type := String

/-- What the lease file says. -/
structure ActiveLeaseRecord where
  ownerId : String
  token : LeaseToken
  acquiredAtUnixSecs : ℕ
  updatedAtUnixSecs : ℕ
  deriving DecidableEq, Repr

/-- The configuration of the lease. -/
structure ActiveLeaseConfig where
  path : String
  ownerId : String
  ttlSecs : ℕ
  heartbeatIntervalSecs : ℕ
  deriving DecidableEq, Repr

/-- The lease in the hands of a process. -/
structure ActiveLeaseGuard where
  path : String
  ownerId : String
  token : LeaseToken
  acquiredAtUnixSecs : ℕ
  ttlSecs : ℕ
  deriving DecidableEq, Repr

/-- The check of the configuration. -/
def ActiveLeaseConfig.validate (config : ActiveLeaseConfig) : Except UnderlayError Unit := do
  refuseIf (config.path = "")
    (.invalidIntent "active-passive lease path must not be empty")
  refuseIf (trim config.ownerId = "")
    (.invalidIntent "active-passive lease owner_id must not be empty")
  refuseIf (config.ttlSecs = 0)
    (.invalidIntent "active-passive lease ttl_secs must be greater than zero")
  refuseIf (config.heartbeatIntervalSecs = 0)
    (.invalidIntent "active-passive lease heartbeat_interval_secs must be greater than zero")
  refuseIf (config.heartbeatIntervalSecs > config.ttlSecs)
    (.invalidIntent "active-passive lease heartbeat_interval_secs must not exceed ttl_secs")

def activeLeaseIoError (text : String) : UnderlayError :=
  .internal ("active-passive lease io error: " ++ text)

def activeLeaseError (code message : String) (retryable : Bool) : UnderlayError :=
  .adapterOperation code message retryable [⟨code, message⟩]

/-! ## File operations -/

/-- The answers to the creation of the file. -/
inductive CreateAnswer where
  | created
  | alreadyExists (text : String)
  | failed (text : String)

/-- The answers to a read. -/
inductive ReadAnswer where
  | record (record : ActiveLeaseRecord)
  | unparsable (text : String)
  | failed (text : String)

/-- The answers to a removal. -/
inductive RemoveAnswer where
  | removed
  | notFound
  | failed (text : String)

/-- What a process asks of its surroundings.  `acquired` and `dropped` change nothing on disk: they
mark the moments at which `acquire` returns a guard and at which a guard is given up. -/
inductive LeaseOp where
  | createParentDir
  | newToken
  | nowUnixSecs
  | createNew (token : LeaseToken)
  | write (record : ActiveLeaseRecord)
  | read
  | replace (record : ActiveLeaseRecord)
  | remove
  | spawnHeartbeat
  | acquired (token : LeaseToken)
  | dropped (token : LeaseToken)

/-- What the calls return. -/
def LeaseOp.Answer : LeaseOp → Type
  | .createParentDir | .write _ | .replace _ | .spawnHeartbeat => Except String Unit
  | .newToken => LeaseToken
  | .nowUnixSecs => ℕ
  | .createNew _ => CreateAnswer
  | .read => ReadAnswer
  | .remove => RemoveAnswer
  | .acquired _ | .dropped _ => Unit

/-- The calls with their answers. -/
def leaseSignature : Signature where
  Op := LeaseOp
  Answer := LeaseOp.Answer

/-- Programs on the lease. -/
abbrev Lease : Type → Type := Program leaseSignature

abbrev LeaseResult : Type → Type := Result leaseSignature UnderlayError

def leaseCall (op : LeaseOp) : Lease op.Answer :=
  @Program.perform leaseSignature op

/-! ## The protocol -/

def leaseIsStale (record : ActiveLeaseRecord) (ttlSecs : ℕ) : Lease Bool := do
  let now : ℕ ← leaseCall .nowUnixSecs
  return now - record.updatedAtUnixSecs > ttlSecs

def createLeaseFile (record : ActiveLeaseRecord) : Lease CreateAnswer := do
  match ← leaseCall (.createNew record.token) with
  | .created =>
      match ← leaseCall (.write record) with
      | .ok () => return .created
      | .error text => return .failed text
  | refused => return refused

def readLeaseRecord (path : String) : LeaseResult ActiveLeaseRecord :=
  ExceptT.mk do
    match ← leaseCall .read with
    | .record record => return .ok record
    | .unparsable text =>
        return .error (.internal ("parse active-passive lease " ++ debugPath path ++ ": " ++ text))
    | .failed text => return .error (activeLeaseIoError text)

def writeLeaseRecord (record : ActiveLeaseRecord) : LeaseResult Unit :=
  ExceptT.mk do
    match ← leaseCall (.replace record) with
    | .ok () => return .ok ()
    | .error text => return .error (activeLeaseIoError text)

def removeStaleLease : LeaseResult Unit :=
  ExceptT.mk do
    match ← leaseCall .remove with
    | .removed | .notFound => return .ok ()
    | .failed text => return .error (activeLeaseIoError text)

def releaseLeaseIfCurrent (path : String) (token : LeaseToken) : Lease Unit := do
  match ← (readLeaseRecord path).run with
  | .ok record => if record.token = token then discard (leaseCall .remove)
  | .error _ => return ()

def ActiveLeaseGuard.fromAcquired (config : ActiveLeaseConfig) (token : LeaseToken)
    (acquiredAtUnixSecs : ℕ) : LeaseResult ActiveLeaseGuard :=
  ExceptT.mk do
    match ← leaseCall .spawnHeartbeat with
    | .ok () =>
        return .ok {
          path := config.path
          ownerId := config.ownerId
          token := token
          acquiredAtUnixSecs := acquiredAtUnixSecs
          ttlSecs := config.ttlSecs }
    | .error text =>
        leaseCall (.dropped token)
        releaseLeaseIfCurrent config.path token
        return .error (.internal ("spawn active lease heartbeat: " ++ text))

/-- Take over a lease file that another process left behind. -/
def ActiveLeaseGuard.takeOver (config : ActiveLeaseConfig)
    (record : ActiveLeaseRecord) : LeaseResult ActiveLeaseGuard := do
  let current ← readLeaseRecord config.path
  if ← ExceptT.lift (leaseIsStale current config.ttlSecs) then
    removeStaleLease
    match ← ExceptT.lift (createLeaseFile record) with
    | .created => ActiveLeaseGuard.fromAcquired config record.token record.acquiredAtUnixSecs
    | .alreadyExists text | .failed text => throw (activeLeaseIoError text)
  else
    throw (activeLeaseError "HA_LEASE_HELD"
      ("active-passive lease " ++ debugPath config.path ++ " is held by " ++ current.ownerId) true)

def ActiveLeaseGuard.acquire (config : ActiveLeaseConfig) : LeaseResult ActiveLeaseGuard := do
  ExceptT.mk (return config.validate)
  match ← ExceptT.lift (leaseCall .createParentDir) with
  | .error text => throw (activeLeaseIoError text)
  | .ok () =>
      let token : LeaseToken ← ExceptT.lift (leaseCall .newToken)
      let acquiredAtUnixSecs : ℕ ← ExceptT.lift (leaseCall .nowUnixSecs)
      let record : ActiveLeaseRecord := {
        ownerId := config.ownerId
        token := token
        acquiredAtUnixSecs := acquiredAtUnixSecs
        updatedAtUnixSecs := acquiredAtUnixSecs }
      match ← ExceptT.lift (createLeaseFile record) with
      | .created => ActiveLeaseGuard.fromAcquired config token acquiredAtUnixSecs
      | .alreadyExists _ => ActiveLeaseGuard.takeOver config record
      | .failed text => throw (activeLeaseIoError text)

def refreshLeaseRecord (path ownerId : String) (token : LeaseToken)
    (acquiredAtUnixSecs : ℕ) : LeaseResult Unit := do
  let current ← readLeaseRecord path
  if current.token = token then
    let now : ℕ ← ExceptT.lift (leaseCall .nowUnixSecs)
    writeLeaseRecord {
      ownerId := ownerId
      token := token
      acquiredAtUnixSecs := acquiredAtUnixSecs
      updatedAtUnixSecs := now }
  else
    throw (activeLeaseError "HA_LEASE_LOST"
      ("active-passive lease " ++ debugPath path ++ " is no longer held by this process") true)

def ActiveLeaseGuard.ensureCurrent (guard : ActiveLeaseGuard) : LeaseResult Unit := do
  let record ← readLeaseRecord guard.path
  if record.token = guard.token then
    if ← ExceptT.lift (leaseIsStale record guard.ttlSecs) then
      throw (activeLeaseError "HA_LEASE_STALE"
        ("active-passive lease " ++ debugPath guard.path ++ " heartbeat is stale") true)
  else
    throw (activeLeaseError "HA_LEASE_LOST"
      ("active-passive lease " ++ debugPath guard.path ++ " moved from " ++ guard.ownerId ++ " to "
        ++ record.ownerId) true)

/-- What the holder of a guard does with it: a round of the heartbeat thread or a check. -/
inductive GuardAction where
  | heartbeat
  | ensureCurrent

def ActiveLeaseGuard.act (guard : ActiveLeaseGuard) : GuardAction → Lease Unit
  | .heartbeat =>
      discard (refreshLeaseRecord guard.path guard.ownerId guard.token
        guard.acquiredAtUnixSecs).run
  | .ensureCurrent => discard guard.ensureCurrent.run

/-- The heartbeat thread has ended before the file is looked at. -/
def ActiveLeaseGuard.drop (guard : ActiveLeaseGuard) : Lease Unit := do
  leaseCall (.dropped guard.token)
  releaseLeaseIfCurrent guard.path guard.token

/-- The life of a process: acquire the lease, use the guard and drop it. -/
def holdLease (config : ActiveLeaseConfig) (actions : List GuardAction) : Lease Unit := do
  match ← (ActiveLeaseGuard.acquire config).run with
  | .error _ => return ()
  | .ok guard =>
      leaseCall (.acquired guard.token)
      actions.forM guard.act
      guard.drop

/-! ## The shared file -/

/-- A file that a process created or replaced; it is empty until its content is written. -/
structure LeaseFile where
  token : LeaseToken
  content : Option ActiveLeaseRecord
  deriving DecidableEq, Repr

/-- The life of a token. -/
inductive LeasePhase where
  | idle
  | creating
  | written
  | held
  | dropped
  deriving DecidableEq, Repr

/-- Processes that share the file. -/
abbrev LeaseProcess : Type := ℕ

/-- The file and the clock, and what is known about the processes that use them: who drew a token,
what a process read last, how far a token has come, when its lease was last written, and whether
its lease was ever older than the ttl. -/
structure LeaseWorld where
  clock : ℕ
  file : Option LeaseFile
  lastWrite : ℕ
  drawn : LeaseToken → Option LeaseProcess
  seen : LeaseProcess → Option ActiveLeaseRecord
  phase : LeaseToken → LeasePhase
  writtenAt : LeaseToken → ℕ
  lapsed : LeaseToken → Bool

/-- No file, and no token drawn. -/
def LeaseWorld.initial : LeaseWorld where
  clock := 0
  file := none
  lastWrite := 0
  drawn := fun _ => none
  seen := fun _ => none
  phase := fun _ => .idle
  writtenAt := fun _ => 0
  lapsed := fun _ => false

/-- A lease counts from its write until its guard is dropped. -/
def LeasePhase.isLive : LeasePhase → Bool
  | .written | .held => true
  | _ => false

/-- The clock moves on. -/
def LeaseWorld.tick (ttlSecs now : ℕ) (world : LeaseWorld) : LeaseWorld :=
  { world with
    clock := now
    lapsed := fun token =>
      world.lapsed token ||
        ((world.phase token).isLive && decide (world.writtenAt token + ttlSecs < now)) }

/-- What the surroundings may answer. -/
def LeaseWorld.Allows (world : LeaseWorld) (now : ℕ) : (op : LeaseOp) → op.Answer → Prop
  | .newToken, token => world.drawn token = none
  | .nowUnixSecs, time => time = now
  | .createNew _, .created => world.file = none
  | .createNew _, .alreadyExists _ => world.file ≠ none
  | .read, .record record => ∃ token, world.file = some ⟨token, some record⟩
  | .read, .unparsable _ => ∃ token, world.file = some ⟨token, none⟩
  | .remove, .removed => world.file ≠ none
  | .remove, .notFound => world.file = none
  | _, _ => True

/-- What a call changes. -/
def LeaseWorld.after (process : LeaseProcess) (world : LeaseWorld) :
    (op : LeaseOp) → op.Answer → LeaseWorld
  | .newToken, token => { world with drawn := Function.update world.drawn token (some process) }
  | .createNew token, .created =>
      { world with
        file := some ⟨token, none⟩
        lastWrite := world.clock
        phase := Function.update world.phase token .creating }
  | .write record, .ok () =>
      { world with
        -- the handle still leads to the file only if nobody removed or replaced it
        file := if world.file = some ⟨record.token, none⟩ then some ⟨record.token, some record⟩
          else world.file
        lastWrite := world.clock
        phase := Function.update world.phase record.token .written
        writtenAt := Function.update world.writtenAt record.token world.clock }
  | .read, .record record =>
      { world with seen := Function.update world.seen process (some record) }
  | .replace record, .ok () =>
      { world with
        file := some ⟨record.token, some record⟩
        lastWrite := world.clock
        writtenAt := Function.update world.writtenAt record.token world.clock }
  | .remove, .removed => { world with file := none }
  | .acquired token, () => { world with phase := Function.update world.phase token .held }
  | .dropped token, () => { world with phase := Function.update world.phase token .dropped }
  | _, _ => world

def leaseEnvironment (ttlSecs : ℕ) : Environment leaseSignature LeaseProcess LeaseWorld where
  respond := fun process world op answer after =>
    ∃ now, world.clock ≤ now ∧ world.Allows now op answer ∧
      after = (world.tick ttlSecs now).after process op answer
  restart := id

/-- The answer of a file system that does not fail, at a given time and with a given new token. -/
def LeaseWorld.answer (world : LeaseWorld) (now : ℕ) (token : LeaseToken) :
    (op : LeaseOp) → op.Answer
  | .createParentDir | .write _ | .replace _ | .spawnHeartbeat => .ok ()
  | .newToken => token
  | .nowUnixSecs => now
  | .createNew _ => if world.file = none then .created else .alreadyExists "File exists"
  | .read =>
      match world.file with
      | some ⟨_, some record⟩ => .record record
      | some ⟨_, none⟩ => .unparsable "EOF while parsing a value"
      | none => .failed "No such file or directory"
  | .remove => if world.file = none then .notFound else .removed
  | .acquired _ | .dropped _ => ()

theorem LeaseWorld.allows_answer {world : LeaseWorld} {now : ℕ} {token : LeaseToken}
    (undrawn : world.drawn token = none) (op : LeaseOp) :
    world.Allows now op (world.answer now token op) := by
  cases op with
  | createParentDir | write | replace | spawnHeartbeat | acquired | dropped => exact trivial
  | newToken => exact undrawn
  | nowUnixSecs => rfl
  | createNew | remove =>
      by_cases absent : world.file = none
      · simp [LeaseWorld.answer, LeaseWorld.Allows, absent]
      · simp [LeaseWorld.answer, LeaseWorld.Allows, absent]
  | read =>
      rcases found : world.file with _ | ⟨holder, _ | record⟩
      · simp [LeaseWorld.answer, LeaseWorld.Allows, found]
      · simp [LeaseWorld.answer, LeaseWorld.Allows, found]
      · simp [LeaseWorld.answer, LeaseWorld.Allows, found]

/-- Processes that acquire, hold and drop the lease with a common ttl. -/
def HoldsLease (ttlSecs : ℕ) (program : Lease Unit) : Prop :=
  ∃ config actions, config.ttlSecs = ttlSecs ∧ program = holdLease config actions

end AriaUnderlay
