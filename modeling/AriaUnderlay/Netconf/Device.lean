import AriaUnderlay.Effect.Execution

/-!
# A NETCONF device

One candidate and one running datastore that persist across sessions.  An edit merges into the
candidate, a commit copies the candidate to running, a confirmed commit does the same but remembers
the previous running until it is confirmed, discarding resets the candidate to running, and
cancelling restores the remembered running.

The content of a datastore and the edits are arbitrary types.  A datastore also notes whose edits
went into it; this is not sent to the device and only serves to speak about it.  An operation that
fails may have taken effect all the same.
-/

namespace AriaUnderlay

open Effect

/-- A configuration and who wrote it. -/
structure Datastore (Config : Type) where
  config : Config
  /-- The transactions whose edits were merged into the content. -/
  authors : List String
  deriving DecidableEq, Repr

/-- A confirmed commit that has been neither confirmed nor cancelled. -/
structure PendingCommit (Config : Type) where
  persistId : String
  remembered : Datastore Config
  deriving DecidableEq, Repr

/-- The capabilities that a preparation looks at. -/
structure NetconfCapabilities where
  supportsCandidate : Bool
  supportsWritableRunning : Bool
  supportsRollbackOnError : Bool
  deriving DecidableEq, Repr

/-- A device as its sessions see it. -/
structure NetconfDevice (Config : Type) where
  capabilities : NetconfCapabilities
  running : Datastore Config
  candidate : Datastore Config
  pending : Option (PendingCommit Config)
  deriving DecidableEq, Repr

/-! ## Operations -/

/-- The operations of a session. -/
inductive NetconfOp (Edit : Type) where
  | connect
  | lockCandidate
  | unlockCandidate
  | editCandidate (author : String) (edit : Edit)
  | validateCandidate
  | readCandidate
  | readRunning
  | commit
  | commitConfirmed (persistId : String)
  | confirmCommit (persistId : String)
  | cancelCommit (persistId : String)
  | discardChanges
  deriving DecidableEq, Repr

/-- The errors of the adapter. -/
structure AdapterError where
  code : String
  message : String
  normalizedError : String
  rawErrorSummary : String
  retryable : Bool
  deriving DecidableEq, Repr

/-- What an operation raises: an error of the adapter itself or an exception of the session. -/
inductive Raised where
  | adapter (error : AdapterError)
  | session (name message : String)
  deriving DecidableEq, Repr

def persistIdAlreadyConsumed (error : AdapterError) : Bool :=
  ["NETCONF_PERSIST_ID_ALREADY_CONSUMED", "NETCONF_PERSIST_ID_NOT_FOUND"].contains error.code ||
    ["persist-id already consumed", "persist-id not found", "unknown persist-id"].contains
      error.normalizedError

variable {Config Edit : Type}

/-- What an operation may raise.  Only connecting raises errors of the adapter itself, and none of
these is about a persist id. -/
def Raised.possible : NetconfOp Edit → Raised → Bool
  | .connect, .adapter error => !persistIdAlreadyConsumed error
  | _, .adapter _ => false
  | _, .session _ _ => true

/-- What an operation that succeeds returns. -/
def NetconfOp.Value (Config : Type) : NetconfOp Edit → Type
  | .connect => NetconfCapabilities
  | .readCandidate | .readRunning => Config
  | _ => Unit

def netconfSignature (Config Edit : Type) : Signature where
  Op := NetconfOp Edit
  Answer := fun op => Except Raised (op.Value Config)

/-! ## Semantics -/

namespace NetconfDevice

/-- The operations that the state of the device does not forbid. -/
def legal (device : NetconfDevice Config) : NetconfOp Edit → Bool
  | .commit | .commitConfirmed _ => device.pending.isNone
  | .confirmCommit persistId | .cancelCommit persistId =>
      device.pending.any fun pending => pending.persistId = persistId
  | _ => true

/-- What an operation does to the device. -/
def effect (merge : Config → Edit → Config) (device : NetconfDevice Config) :
    NetconfOp Edit → NetconfDevice Config
  | .editCandidate author edit =>
      { device with
        candidate :=
          { config := merge device.candidate.config edit
            authors := device.candidate.authors ++ [author] } }
  | .commit => { device with running := device.candidate }
  | .commitConfirmed persistId =>
      { device with
        running := device.candidate
        pending := some { persistId := persistId, remembered := device.running } }
  | .confirmCommit _ => { device with pending := none }
  | .cancelCommit _ =>
      { device with
        running := (device.pending.map PendingCommit.remembered).getD device.running
        pending := none }
  | .discardChanges => { device with candidate := device.running }
  | .connect | .lockCandidate | .unlockCandidate | .validateCandidate | .readCandidate
  | .readRunning => device

/-- What an operation reads. -/
def value (device : NetconfDevice Config) : (op : NetconfOp Edit) → op.Value Config
  | .connect => device.capabilities
  | .readCandidate => device.candidate.config
  | .readRunning => device.running.config
  | .lockCandidate | .unlockCandidate | .editCandidate _ _ | .validateCandidate | .commit
  | .commitConfirmed _ | .confirmCommit _ | .cancelCommit _ | .discardChanges => ()

end NetconfDevice

/-- The device answers as it should, or with an exception that may hide an effect. -/
def netconfEnvironment (merge : Config → Edit → Config) :
    Environment (netconfSignature Config Edit) Unit (NetconfDevice Config) where
  respond := fun _ device op answer after => match answer with
    | .ok value =>
        device.legal op = true ∧ value = device.value op ∧ after = device.effect merge op
    | .error raised => raised.possible op = true ∧
        (after = device ∨ device.legal op = true ∧ after = device.effect merge op)
  restart := id

end AriaUnderlay
