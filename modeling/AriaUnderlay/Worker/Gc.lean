import AriaUnderlay.Effect.Schedule
import AriaUnderlay.State.Stores

/-!
# Journal and artifact collection

`JournalGc::run_once` lists the journal directory, reads the records one after another, removes the
journals and artifacts of old terminal transactions, and then goes through the artifact directories:
those of unknown transactions are removed, and of the others the newest ones stay.  Transactions
start, change phase and write artifacts meanwhile; each directory listing, read and removal is a
step of its own.
-/

namespace AriaUnderlay

open Collections Effect Storage

/-! ## Policy and report -/

/-- How long journals and artifacts are kept. -/
structure RetentionPolicy where
  committedJournalRetentionDays : UInt32 := 30
  rolledBackJournalRetentionDays : UInt32 := 30
  failedJournalRetentionDays : UInt32 := 90
  rollbackArtifactRetentionDays : UInt32 := 30
  maxArtifactsPerDevice : UInt32 := 50
  deriving DecidableEq, Repr

/-- What the collector is configured with. -/
structure JournalGc where
  journalRoot : Option String
  artifactRoot : Option String
  nowUnixSecs : Option ℕ
  deriving DecidableEq, Repr

/-- What a run has removed and failed to remove. -/
structure JournalGcReport where
  journalsDeleted : ℕ := 0
  journalsRetained : ℕ := 0
  journalsFailed : ℕ := 0
  artifactsDeleted : ℕ := 0
  artifactsFailed : ℕ := 0
  journalDeletedTxIds : List String := []
  failedJournalRefs : List String := []
  artifactDeletedRefs : List String := []
  failedArtifactRefs : List String := []
  deriving DecidableEq, Repr

/-- The report with sorted lists. -/
def JournalGcReport.sortDetails (report : JournalGcReport) : JournalGcReport :=
  { report with
    journalDeletedTxIds := report.journalDeletedTxIds.mergeSort (· ≤ ·)
    failedJournalRefs := report.failedJournalRefs.mergeSort (· ≤ ·)
    artifactDeletedRefs := report.artifactDeletedRefs.mergeSort (· ≤ ·)
    failedArtifactRefs := report.failedArtifactRefs.mergeSort (· ≤ ·) }

/-- The last component of a path. -/
def pathRef (path : String) : String :=
  (((path.splitOn "/").filter (· ≠ "")).getLast?).getD path

def JournalGcReport.recordJournalFailure (report : JournalGcReport) (path : String) :
    JournalGcReport :=
  if report.failedJournalRefs.contains (pathRef path) then report
  else
    { report with
      journalsFailed := report.journalsFailed + 1
      failedJournalRefs := report.failedJournalRefs ++ [pathRef path] }

def JournalGcReport.recordArtifactFailure (report : JournalGcReport) (reference : String) :
    JournalGcReport :=
  if report.failedArtifactRefs.contains reference then report
  else
    { report with
      artifactsFailed := report.artifactsFailed + 1
      failedArtifactRefs := report.failedArtifactRefs ++ [reference] }

def isTerminalPhase : TxPhase → Bool
  | .committed | .rolledBack | .failed | .forceResolved => true
  | _ => false

theorem isTerminalPhase_eq (phase : TxPhase) :
    isTerminalPhase phase = !phase.requiresRecovery := by
  cases phase <;> rfl

def u32Max : UInt32 := 0xFFFFFFFF

def journalRetentionDays (phase : TxPhase) (policy : RetentionPolicy) : UInt32 :=
  match phase with
  | .committed => policy.committedJournalRetentionDays
  | .rolledBack => policy.rolledBackJournalRetentionDays
  | .failed | .forceResolved => policy.failedJournalRetentionDays
  | _ => u32Max

/-- The age exceeds the retention. -/
def isOlderThan (updatedAtUnixSecs nowUnixSecs : ℕ) (retentionDays : UInt32) : Bool :=
  if retentionDays = u32Max then false
  else nowUnixSecs - updatedAtUnixSecs ≥ retentionDays.toNat * (24 * 60 * 60)

/-! ## File operations -/

/-- An entry of a directory listing: one that cannot be read, one that does not count (no directory
where directories are wanted, or a name that is not text), or a name. -/
inductive DirEntry where
  | unreadable
  | other
  | named (name : String)
  deriving DecidableEq, Repr

/-- Operations of a run, and below them those of transactions.  `ended` marks the end of a run. -/
inductive GcOp where
  | journalRootExists
  | nowUnixSecs
  | listJournal
  | readRecord (path : String)
  | removeJournal (path : String)
  | artifactRootExists
  | listDevices
  | listTxDirs (deviceId : DeviceId)
  | isTxDir (deviceId : DeviceId) (txId : String)
  | removeTxDir (deviceId : DeviceId) (txId : String)
  | ended
  | putRecord (record : TxJournalRecord)
  | writeArtifact (deviceId : DeviceId) (txId : String)

/-- What the calls return. -/
def GcOp.Answer : GcOp → Type
  | .journalRootExists | .artifactRootExists | .isTxDir _ _ => Bool
  | .nowUnixSecs => ℕ
  | .listJournal | .listDevices | .listTxDirs _ => Except String (List DirEntry)
  | .readRecord _ => Except String TxJournalRecord
  | .removeJournal _ | .removeTxDir _ _ | .putRecord _ | .writeArtifact _ _ => Except String Unit
  | .ended => Unit

/-- The calls with their answers. -/
def gcSignature : Signature where
  Op := GcOp
  Answer := GcOp.Answer

/-- Programs of the collector. -/
abbrev Gc : Type → Type := Program gcSignature

def gcCall (op : GcOp) : Gc op.Answer :=
  @Program.perform gcSignature op

/-! ## Artifacts -/

def removeArtifact (deviceId : DeviceId) (txId : String) (report : JournalGcReport) :
    Gc JournalGcReport := do
  let artifactRef := deviceId ++ "/" ++ txId
  match ← gcCall (.removeTxDir deviceId txId) with
  | .ok () =>
      return { report with
        artifactsDeleted := report.artifactsDeleted + 1
        artifactDeletedRefs := report.artifactDeletedRefs ++ [artifactRef] }
  | .error _ => return report.recordArtifactFailure artifactRef

/-- Go through the device directories of an artifact root. -/
def forEachDevice (root : String) (visit : JournalGcReport → DeviceId → Gc JournalGcReport)
    (report : JournalGcReport) : Gc JournalGcReport := do
  match ← gcCall .listDevices with
  | .error _ => return report.recordArtifactFailure (pathRef root)
  | .ok entries =>
      entries.foldlM (fun report entry =>
        match entry with
        | .unreadable => return report.recordArtifactFailure (pathRef root)
        | .other => return report
        | .named deviceId => visit report deviceId) report

def JournalGc.deleteArtifactsForTx (gc : JournalGc) (txId : String) (report : JournalGcReport) :
    Gc JournalGcReport := do
  match gc.artifactRoot with
  | none => return report
  | some root =>
      let present : Bool ← gcCall .artifactRootExists
      if present then
        forEachDevice root (fun report deviceId => do
          let isDir : Bool ← gcCall (.isTxDir deviceId txId)
          if isDir then removeArtifact deviceId txId report else return report) report
      else
        return report

/-- One transaction directory of a device: unknown ones are removed, terminal ones collected. -/
def pruneEntry (terminalByTx : BTreeMap String ℕ) (knownTxIds : BTreeSet String)
    (deviceId : DeviceId) (progress : JournalGcReport × List (ℕ × String))
    (entry : DirEntry) : Gc (JournalGcReport × List (ℕ × String)) :=
  match entry with
  | .unreadable => return (progress.1.recordArtifactFailure deviceId, progress.2)
  | .other => return progress
  | .named txId =>
      match terminalByTx[txId]? with
      | some updatedAt => return (progress.1, progress.2 ++ [(updatedAt, txId)])
      | none =>
          if txId ∈ knownTxIds then return progress
          else do
            let report ← removeArtifact deviceId txId progress.1
            return (report, progress.2)

/-- The newest artifacts stay. -/
def pruneTerminal (maxArtifactsPerDevice : ℕ) (deviceId : DeviceId)
    (progress : JournalGcReport × BTreeSet String)
    (artifact : ℕ × String) : Gc (JournalGcReport × BTreeSet String) := do
  if progress.2.size < maxArtifactsPerDevice then
    return (progress.1, progress.2.insert artifact.2)
  else
    let present : Bool ← gcCall (.isTxDir deviceId artifact.2)
    if present then
      let report ← removeArtifact deviceId artifact.2 progress.1
      return (report, progress.2)
    else
      return progress

def newestFirst (left right : ℕ × String) : Bool :=
  right.1 < left.1 || (right.1 = left.1 && right.2 ≤ left.2)

def pruneDevice (terminalByTx : BTreeMap String ℕ) (knownTxIds : BTreeSet String)
    (maxArtifactsPerDevice : ℕ) (report : JournalGcReport)
    (deviceId : DeviceId) : Gc JournalGcReport := do
  match ← gcCall (.listTxDirs deviceId) with
  | .error _ => return report.recordArtifactFailure deviceId
  | .ok entries =>
      let (report, terminalArtifacts) ←
        entries.foldlM (pruneEntry terminalByTx knownTxIds deviceId) (report, [])
      let (report, _) ← (terminalArtifacts.mergeSort newestFirst).foldlM
        (pruneTerminal maxArtifactsPerDevice deviceId) (report, ∅)
      return report

def terminalByTx (records : List TxJournalRecord) : BTreeMap String ℕ :=
  .ofList ((records.filter fun record => isTerminalPhase record.phase).map fun record =>
    (record.txId, record.updatedAtUnixSecs))

/-- The same on all devices. -/
def JournalGc.pruneArtifactsPerDevice (gc : JournalGc) (terminalRecords : List TxJournalRecord)
    (knownTxIds : BTreeSet String) (maxArtifactsPerDevice : ℕ)
    (report : JournalGcReport) : Gc JournalGcReport := do
  match gc.artifactRoot with
  | none => return report
  | some root =>
      if maxArtifactsPerDevice = 0 then return report
      else
        let present : Bool ← gcCall .artifactRootExists
        if present then
          forEachDevice root
            (pruneDevice (terminalByTx terminalRecords) knownTxIds maxArtifactsPerDevice) report
        else
          return report

/-! ## Journals -/

/-- What the scan of the journal has found. -/
structure JournalScan where
  report : JournalGcReport := {}
  terminalRecords : List TxJournalRecord := []
  knownTxIds : BTreeSet String := ∅

/-- A file name without its extension. -/
def fileStem (name : String) : String :=
  match (name.toList.reverse.dropWhile (· ≠ '.')).tail with
  | [] => name
  | stem => .ofList stem.reverse

/-- Remove a journal that is due. -/
def removeDueJournal (path : String) (record : TxJournalRecord) (journalDue : Bool)
    (report : JournalGcReport) : Gc JournalGcReport := do
  if journalDue then
    match ← gcCall (.removeJournal path) with
    | .ok () =>
        return { report with
          journalsDeleted := report.journalsDeleted + 1
          journalDeletedTxIds := report.journalDeletedTxIds ++ [record.txId] }
    | .error _ => return report.recordJournalFailure path
  else
    return { report with journalsRetained := report.journalsRetained + 1 }

theorem fileStem_jsonFileName {id : String} (nonempty : id ≠ "") :
    fileStem (jsonFileName id) = id := by
  have reversed : (jsonFileName id).toList.reverse =
      ['n', 'o', 's', 'j', '.'] ++ id.toList.reverse := by
    simp [jsonFileName, String.toList_append]
  rw [fileStem, reversed]
  rcases idReversed : id.toList.reverse with _ | ⟨last, rest⟩
  · simp at idReversed
    exact absurd idReversed nonempty
  · simp [← List.reverse_eq_iff.mp idReversed]

/-- A terminal record: its journal and its artifacts go when they are due. -/
def JournalGc.collectTerminal (gc : JournalGc) (policy : RetentionPolicy) (now : ℕ) (path : String)
    (record : TxJournalRecord) (report : JournalGcReport) : Gc JournalGcReport := do
  let artifactDue :=
    isOlderThan record.updatedAtUnixSecs now policy.rollbackArtifactRetentionDays
  let journalDue := isOlderThan record.updatedAtUnixSecs now
    (max (journalRetentionDays record.phase policy) policy.rollbackArtifactRetentionDays)
  let report ← removeDueJournal path record journalDue report
  if artifactDue then gc.deleteArtifactsForTx record.txId report else return report

def JournalGc.scanEntry (gc : JournalGc) (policy : RetentionPolicy) (root : String) (now : ℕ)
    (scan : JournalScan) (entry : DirEntry) : Gc JournalScan :=
  match entry with
  | .unreadable => return { scan with report := scan.report.recordJournalFailure root }
  | .other => return scan
  | .named path =>
      if extension path ≠ some "json" then return scan
      else do
        let named := { scan with knownTxIds := scan.knownTxIds.insert (fileStem path) }
        match ← gcCall (.readRecord path) with
        | .error _ => return { named with report := named.report.recordJournalFailure path }
        | .ok record =>
            let known := { named with knownTxIds := named.knownTxIds.insert record.txId }
            if isTerminalPhase record.phase then do
              let report ← gc.collectTerminal policy now path record known.report
              return { known with
                report := report
                terminalRecords := known.terminalRecords ++ [record] }
            else
              return { known with
                report := { known.report with
                  journalsRetained := known.report.journalsRetained + 1 } }

def JournalGc.now (gc : JournalGc) : Gc ℕ :=
  match gc.nowUnixSecs with
  | some now => return now
  | none => gcCall .nowUnixSecs

/-- One run of the collector. -/
def JournalGc.runOnce (gc : JournalGc) (policy : RetentionPolicy) : Gc JournalGcReport := do
  match gc.journalRoot with
  | none => return {}
  | some root =>
      let present : Bool ← gcCall .journalRootExists
      if present then
        let now ← gc.now
        match ← gcCall .listJournal with
        | .error _ => return (JournalGcReport.recordJournalFailure {} root).sortDetails
        | .ok entries =>
            let scan ← entries.foldlM (gc.scanEntry policy root now) {}
            let report ← gc.pruneArtifactsPerDevice scan.terminalRecords scan.knownTxIds
              policy.maxArtifactsPerDevice.toNat scan.report
            return report.sortDetails
      else
        return {}

/-! ## The shared directories -/

/-- A removal, with the transaction's record at that moment. -/
inductive GcRemoval where
  | journal (txId : String) (record : Option TxJournalRecord)
  | artifact (deviceId : DeviceId) (txId : String) (record : Option TxJournalRecord)
  deriving DecidableEq

def GcRemoval.record : GcRemoval → Option TxJournalRecord
  | .journal _ record | .artifact _ _ record => record

abbrev GcThread : Type := ℕ

/-- The journal by transaction, the device directories and the artifact directories in them; what
was removed so far, and which runs are between their journal listing and their end. -/
structure GcWorld where
  journal : BTreeMap String TxJournalRecord
  devices : List DeviceId
  artifacts : List (DeviceId × String)
  removals : List GcRemoval
  collecting : Finset GcThread

/-- Empty directories. -/
def GcWorld.initial : GcWorld where
  journal := ∅
  devices := []
  artifacts := []
  removals := []
  collecting := ∅

/-- Named, so that all definitions below decide membership of an artifact with the same proof. -/
theorem lawfulBEq_artifact : LawfulBEq (DeviceId × String) :=
  inferInstance

attribute [local instance] lawfulBEq_artifact

/-- What the file system answers; operations may fail. -/
def GcWorld.Allows (world : GcWorld) : (op : GcOp) → op.Answer → Prop
  | .listJournal, .ok entries =>
      (∀ name, .named name ∈ entries → extension name = some "json" →
        ∃ txId ∈ world.journal, name = jsonFileName txId) ∧
      ∀ txId ∈ world.journal, .named (jsonFileName txId) ∈ entries ∨ .unreadable ∈ entries
  | .readRecord path, .ok record =>
      path = jsonFileName (fileStem path) ∧ world.journal[fileStem path]? = some record
  | .removeJournal path, .ok () => fileStem path ∈ world.journal
  | .listDevices, .ok entries => ∀ deviceId, .named deviceId ∈ entries → deviceId ∈ world.devices
  | .listTxDirs deviceId, .ok entries =>
      ∀ txId, .named txId ∈ entries → (deviceId, txId) ∈ world.artifacts
  | .isTxDir deviceId txId, answer => answer = decide ((deviceId, txId) ∈ world.artifacts)
  | .removeTxDir deviceId txId, .ok () => (deviceId, txId) ∈ world.artifacts
  -- the durable phases may skip some: a write that fails leaves the record as it was
  | .putRecord record, .ok () => isCanonicalIdentifier record.txId = true
  -- the record is written before the first artifact
  | .writeArtifact _ txId, .ok () => txId ∈ world.journal
  | _, _ => True

/-- What a call changes. -/
def GcWorld.after (thread : GcThread) (world : GcWorld) : (op : GcOp) → op.Answer → GcWorld
  | .listJournal, .ok _ =>
      { world with collecting := insert thread world.collecting }
  | .removeJournal path, .ok () =>
      { world with
        journal := world.journal.erase (fileStem path)
        removals := world.removals ++
          [.journal (fileStem path) world.journal[fileStem path]?] }
  | .removeTxDir deviceId txId, .ok () =>
      { world with
        artifacts := world.artifacts.filter (· ≠ (deviceId, txId))
        removals := world.removals ++ [.artifact deviceId txId world.journal[txId]?] }
  | .ended, () => { world with collecting := world.collecting.erase thread }
  | .putRecord record, .ok () => { world with journal := world.journal.insert record.txId record }
  | .writeArtifact deviceId txId, .ok () =>
      { world with
        devices := deviceId :: world.devices
        artifacts := (deviceId, txId) :: world.artifacts }
  | _, _ => world

/-- The two directories. -/
def gcEnvironment : Environment gcSignature GcThread GcWorld where
  respond := fun thread world op answer after =>
    world.Allows op answer ∧ after = world.after thread op answer
  restart := fun world => { world with collecting := ∅ }

/-- One run of the collector. -/
def collect (gc : JournalGc) (policy : RetentionPolicy) : Gc Unit := do
  let _ ← gc.runOnce policy
  gcCall .ended

/-- Runs of the collector and the single steps of transactions. -/
inductive SharesRoots : Gc Unit → Prop where
  | collect (gc : JournalGc) (policy : RetentionPolicy) : SharesRoots (collect gc policy)
  | putRecord (record : TxJournalRecord) :
      SharesRoots (do let _ ← gcCall (.putRecord record))
  | writeArtifact (deviceId : DeviceId) (txId : String) :
      SharesRoots (do let _ ← gcCall (.writeArtifact deviceId txId))

/-- No removal hit a transaction that requires recovery. -/
def GcWorld.RemovalsSafe (world : GcWorld) : Prop :=
  ∀ removal ∈ world.removals, ∀ record, removal.record = some record →
    record.phase.requiresRecovery = false

end AriaUnderlay
