import AriaUnderlay.Worker.Gc

/-!
# What a collection may remove

A run decides from the records it read and from the names it listed, and removes later.  A
transaction that starts in between is unknown to the run, so that its artifacts look like orphans;
and a record that was read as terminal may have become one that requires recovery.

`QuietGc` rules these out.  Under it a transaction that the run has seen terminal, or has not seen
at all, does not require recovery until the run has ended, which is what makes its removals safe.
-/

namespace AriaUnderlay

open Collections Effect Storage

/-- While a run is between its journal listing and its end, no transaction starts and no terminal
record returns to a phase that requires recovery; and journal listings are complete. -/
def QuietGc (world : GcWorld) : (op : GcOp) → op.Answer → Prop
  | .putRecord record, .ok () =>
      world.collecting.Nonempty → record.phase.requiresRecovery = true →
        ∃ previous, world.journal[record.txId]? = some previous ∧
          previous.phase.requiresRecovery = true
  | .listJournal, .ok entries => .unreadable ∉ entries
  | _, _ => True

def quietGcEnvironment : Environment gcSignature GcThread GcWorld where
  respond := fun thread world op answer after =>
    world.Allows op answer ∧ QuietGc world op answer ∧ after = world.after thread op answer
  restart := fun world => { world with collecting := ∅ }

/-! ## The contract -/

/-- The transaction has a record that requires recovery. -/
def GcWorld.Live (world : GcWorld) (txId : String) : Prop :=
  ∃ record, world.journal[txId]? = some record ∧ record.phase.requiresRecovery = true

/-- Removals were safe, and records stand under their names. -/
structure GcWorld.Sound (world : GcWorld) : Prop where
  removals : world.RemovalsSafe
  keyed : KeyedBy TxJournalRecord.txId world.journal
  named : ∀ txId ∈ world.journal, txId ≠ ""

/-- Nothing becomes live behind the back of a run. -/
structure GcWorld.Calm (thread : GcThread) (before after : GcWorld) : Prop where
  collecting : thread ∈ after.collecting ↔ thread ∈ before.collecting
  live : thread ∈ before.collecting → ∀ txId, after.Live txId → before.Live txId

def gcContract : Contract GcThread GcWorld where
  guarantee := fun thread before after =>
    (∀ other, thread ≠ other → before.Calm other after) ∧ (before.Sound → after.Sound)
  rely := fun thread before after => before.Calm thread after
  invariant := GcWorld.Sound

section Contract

variable {thread other : GcThread} {world before middle last : GcWorld} {txId : String}
variable {op : GcOp} {answer : op.Answer}

theorem GcWorld.Calm.refl (world : GcWorld) : world.Calm thread world where
  collecting := Iff.rfl
  live := fun _ _ live => live

theorem GcWorld.Calm.trans (first : before.Calm thread middle) (second : middle.Calm thread last) :
    before.Calm thread last where
  collecting := second.collecting.trans first.collecting
  live := fun collects txId live =>
    first.live collects txId (second.live (first.collecting.mpr collects) txId live)

theorem live_of_erase {path : String} {removals : List GcRemoval}
    (live : GcWorld.Live
      { world with journal := world.journal.erase path, removals := removals } txId) :
    world.Live txId := by
  rcases live with ⟨record, found, requires⟩
  rw [Std.ExtTreeMap.getElem?_erase] at found
  split at found
  · cases found
  · exact ⟨record, found, requires⟩

/-- The transaction that the call removes something of. -/
def GcOp.removes : GcOp → Option String
  | .removeJournal path => some (fileStem path)
  | .removeTxDir _ txId => some txId
  | _ => none

theorem GcWorld.Sound.remove {removal : GcRemoval} (sound : world.Sound)
    (notLive : ¬world.Live txId) (isRecord : removal.record = world.journal[txId]?) :
    ∀ found ∈ world.removals ++ [removal], ∀ record, found.record = some record →
      record.phase.requiresRecovery = false := by
  intro found member record hasRecord
  rcases List.mem_append.mp member with isOld | isNew
  · exact sound.removals found isOld record hasRecord
  · rw [List.mem_singleton.mp isNew, isRecord] at hasRecord
    cases requires : record.phase.requiresRecovery with
    | false => rfl
    | true => exact absurd ⟨record, hasRecord, requires⟩ notLive

theorem GcWorld.Sound.after (sound : world.Sound) (allowed : world.Allows op answer)
    (safe : ∀ removed, op.removes = some removed → ¬world.Live removed) :
    (world.after thread op answer).Sound := by
  cases op with
  | journalRootExists | nowUnixSecs | readRecord | artifactRootExists | listDevices | listTxDirs
  | isTxDir => exact sound
  | ended => exact ⟨sound.removals, sound.keyed, sound.named⟩
  | listJournal | writeArtifact =>
      cases answer with
      | ok => exact ⟨sound.removals, sound.keyed, sound.named⟩
      | error => exact sound
  | removeJournal path =>
      cases answer with
      | ok =>
          refine ⟨sound.remove (safe _ rfl) rfl, sound.keyed.erase, fun txId member => ?_⟩
          exact sound.named txId (Std.ExtTreeMap.mem_of_mem_erase member)
      | error => exact sound
  | removeTxDir deviceId removed =>
      cases answer with
      | ok => exact ⟨sound.remove (safe _ rfl) rfl, sound.keyed, sound.named⟩
      | error => exact sound
  | putRecord record =>
      cases answer with
      | ok =>
          refine ⟨sound.removals, sound.keyed.insert, fun txId member => ?_⟩
          rcases Std.ExtTreeMap.mem_insert.mp member with same | isOld
          · rw [← Std.LawfulEqCmp.eq_of_compare same]
            exact ne_empty_of_isCanonicalIdentifier allowed
          · exact sound.named txId isOld
      | error => exact sound

/-- A call disturbs no other run. -/
theorem GcWorld.Calm.of_after (differs : thread ≠ other) (quiet : QuietGc world op answer) :
    world.Calm other (world.after thread op answer) := by
  cases op with
  | journalRootExists | nowUnixSecs | readRecord | artifactRootExists | listDevices | listTxDirs
  | isTxDir => exact .refl world
  | ended =>
      cases answer
      exact ⟨by simp [GcWorld.after, differs.symm], fun _ _ live => live⟩
  | listJournal =>
      cases answer with
      | ok => exact ⟨by simp [GcWorld.after, differs.symm], fun _ _ live => live⟩
      | error => exact .refl world
  | writeArtifact | removeTxDir =>
      cases answer with
      | ok => exact ⟨Iff.rfl, fun _ _ live => live⟩
      | error => exact .refl world
  | removeJournal path =>
      cases answer with
      | ok => exact ⟨Iff.rfl, fun _ _ live => live_of_erase live⟩
      | error => exact .refl world
  | putRecord record =>
      cases answer with
      | error => exact .refl world
      | ok =>
          refine ⟨Iff.rfl, fun collects txId live => ?_⟩
          rcases live with ⟨found, isFound, requires⟩
          simp only [GcWorld.after, Std.ExtTreeMap.getElem?_insert] at isFound
          split at isFound
          · rename_i same
            cases isFound
            rw [← Std.LawfulEqCmp.eq_of_compare same]
            exact quiet ⟨other, collects⟩ requires
          · exact ⟨found, isFound, requires⟩

end Contract

/-! ## Calls of a run -/

variable {op : GcOp} {world : GcWorld}

section Run

variable {thread : GcThread} {gc : JournalGc} {policy : RetentionPolicy}

/-- The program keeps the contract. -/
abbrev SafeGc {α : Type} (thread : GcThread) (program : Gc α) (post : α → GcWorld → Prop)
    (world : GcWorld) : Prop :=
  Ensures quietGcEnvironment gcContract thread program post world

/-- The run has listed the journal, and the transactions it may remove are not live. -/
structure Collects (thread : GcThread) (removable : String → Prop) (world : GcWorld) : Prop where
  collecting : thread ∈ world.collecting
  removable : ∀ txId, removable txId → ¬world.Live txId
  sound : world.Sound

theorem Collects.mono {wide narrow : String → Prop} (collects : Collects thread wide world)
    (weaken : ∀ txId, narrow txId → wide txId) :
    Collects thread narrow world where
  collecting := collects.collecting
  removable := fun txId isNarrow => collects.removable txId (weaken txId isNarrow)
  sound := collects.sound

/-- Calls other than those that begin and end a run or belong to transactions. -/
def GcOp.IsInner : GcOp → Prop
  | .listJournal | .ended | .putRecord _ | .writeArtifact _ _ => False
  | _ => True

theorem GcWorld.Calm.of_inner {answer : op.Answer} (inner : op.IsInner) :
    world.Calm thread (world.after thread op answer) := by
  cases op with
  | journalRootExists | nowUnixSecs | readRecord | artifactRootExists | listDevices | listTxDirs
  | isTxDir => exact .refl world
  | removeTxDir =>
      cases answer with
      | ok => exact ⟨Iff.rfl, fun _ _ live => live⟩
      | error => exact .refl world
  | removeJournal path =>
      cases answer with
      | ok => exact ⟨Iff.rfl, fun _ _ live => live_of_erase live⟩
      | error => exact .refl world
  | listJournal | ended | putRecord | writeArtifact => exact inner.elim

/-- A call in the middle of a run: what was not live before it is not live after it. -/
theorem safe_gcCall (op : GcOp) {removable : String → Prop} (inner : op.IsInner)
    (collects : Collects thread removable world)
    (allowed : ∀ removed, op.removes = some removed → removable removed) :
    SafeGc thread (gcCall op)
      (fun answer later => world.Allows op answer ∧
        Collects thread (fun txId => ¬world.Live txId) later) world := by
  rintro answer after ⟨answered, quiet, rfl⟩
  refine ⟨⟨fun other differs => .of_after differs quiet, fun sound => sound.after answered
    fun removed isRemoved => collects.removable removed (allowed removed isRemoved)⟩, ?_⟩
  intro later calm sound
  have whole := (GcWorld.Calm.of_inner inner).trans calm
  exact ⟨answered, whole.collecting.mpr collects.collecting,
    fun txId notLive live => notLive (whole.live collects.collecting txId live), sound⟩

variable {removable : String → Prop} {report : JournalGcReport} {deviceId : DeviceId}
variable {txId : String}

/-- The same, where only the answer matters. -/
theorem safe_gcCall_keeps (op : GcOp) (inner : op.IsInner)
    (collects : Collects thread removable world)
    (allowed : ∀ removed, op.removes = some removed → removable removed) :
    SafeGc thread (gcCall op) (fun _ later => Collects thread removable later) world :=
  (safe_gcCall op inner collects allowed).mono fun _ _ reached => reached.2.mono collects.removable

theorem safe_removeArtifact (collects : Collects thread removable world)
    (isRemovable : removable txId) :
    SafeGc thread (removeArtifact deviceId txId report)
      (fun _ later => Collects thread removable later) world := by
  have allowed : ∀ removed, (GcOp.removeTxDir deviceId txId).removes = some removed →
      removable removed := by
    rintro removed ⟨⟩
    exact isRemovable
  apply (safe_gcCall_keeps (.removeTxDir deviceId txId) trivial collects allowed).bind
  intro answer later reached
  cases answer <;> exact reached

theorem safe_forEachDevice {root : String} {visit : JournalGcReport → DeviceId → Gc JournalGcReport}
    (visits : ∀ report deviceId world, Collects thread removable world →
      SafeGc thread (visit report deviceId) (fun _ later => Collects thread removable later) world)
    (collects : Collects thread removable world) :
    SafeGc thread (forEachDevice root visit report)
      (fun _ later => Collects thread removable later) world := by
  apply (safe_gcCall_keeps .listDevices trivial collects nofun).bind
  intro answer later reached
  cases answer with
  | error => exact reached
  | ok entries =>
      refine Ensures.foldlM (fun _ _ later => Collects thread removable later) ?_ reached
      intro entry rest report world collects
      cases entry with
      | unreadable | other => exact collects
      | named deviceId => exact visits report deviceId world collects

theorem safe_deleteArtifactsForTx (collects : Collects thread removable world)
    (isRemovable : removable txId) :
    SafeGc thread (gc.deleteArtifactsForTx txId report)
      (fun _ later => Collects thread removable later) world := by
  rw [JournalGc.deleteArtifactsForTx]
  cases gc.artifactRoot with
  | none => exact collects
  | some root =>
      apply (safe_gcCall_keeps .artifactRootExists trivial collects nofun).bind
      intro present later reached
      cases present with
      | false => exact reached
      | true =>
          apply safe_forEachDevice _ reached
          intro report deviceId world collects
          apply (safe_gcCall_keeps (.isTxDir deviceId txId) trivial collects nofun).bind
          intro isDir later reached
          cases isDir with
          | false => exact reached
          | true => exact safe_removeArtifact reached isRemovable

variable {entry : DirEntry} {scan : JournalScan}

section Prune

variable {terminal : BTreeMap String ℕ} {known : BTreeSet String} {maximum : ℕ}
variable
  (unknownRemovable : ∀ txId, txId ∉ known → removable txId)
  (terminalRemovable : ∀ txId, txId ∈ terminal → removable txId)

include unknownRemovable terminalRemovable

theorem safe_pruneEntry {progress : JournalGcReport × List (ℕ × String)}
    (collects : Collects thread removable world)
    (collected : ∀ artifact ∈ progress.2, removable artifact.2) :
    SafeGc thread (pruneEntry terminal known deviceId progress entry)
      (fun progress later => Collects thread removable later ∧
        ∀ artifact ∈ progress.2, removable artifact.2) world := by
  cases entry with
  | unreadable | other => exact ⟨collects, collected⟩
  | named txId =>
      simp only [pruneEntry]
      split
      · rename_i updatedAt isTerminal
        refine ⟨collects, fun artifact member => ?_⟩
        rcases List.mem_append.mp member with isOld | isNew
        · exact collected artifact isOld
        · rw [List.mem_singleton.mp isNew]
          apply terminalRemovable
          simp [Std.ExtTreeMap.mem_iff_isSome_getElem?, isTerminal]
      · split
        · exact ⟨collects, collected⟩
        · rename_i notKnown
          apply (safe_removeArtifact collects (unknownRemovable txId notKnown)).bind
          exact fun _ _ reached => ⟨reached, collected⟩

omit unknownRemovable terminalRemovable in
theorem safe_pruneTerminal {artifact : ℕ × String} {progress : JournalGcReport × BTreeSet String}
    (collects : Collects thread removable world) (isRemovable : removable artifact.2) :
    SafeGc thread (pruneTerminal maximum deviceId progress artifact)
      (fun _ later => Collects thread removable later) world := by
  simp only [pruneTerminal]
  split
  · exact collects
  · apply (safe_gcCall_keeps (.isTxDir deviceId artifact.2) trivial collects nofun).bind
    intro present later reached
    cases present with
    | false => exact reached
    | true => exact (safe_removeArtifact reached isRemovable).bind fun _ _ reached => reached

theorem safe_pruneDevice (collects : Collects thread removable world) :
    SafeGc thread (pruneDevice terminal known maximum report deviceId)
      (fun _ later => Collects thread removable later) world := by
  apply (safe_gcCall_keeps (.listTxDirs deviceId) trivial collects nofun).bind
  intro answer later reached
  cases answer with
  | error => exact reached
  | ok entries =>
      have entriesSafe : SafeGc thread
          (entries.foldlM (pruneEntry terminal known deviceId) (report, []))
          (fun progress later => Collects thread removable later ∧
            ∀ artifact ∈ progress.2, removable artifact.2) later := by
        refine Ensures.foldlM (fun _ (progress : JournalGcReport × List (ℕ × String)) later =>
          Collects thread removable later ∧ ∀ artifact ∈ progress.2, removable artifact.2) ?_
          ⟨reached, by simp⟩
        intro entry rest progress world reached
        exact safe_pruneEntry unknownRemovable terminalRemovable reached.1 reached.2
      apply entriesSafe.bind
      rintro ⟨report, artifacts⟩ later ⟨reached, collected⟩
      -- the items that are left are removable, whatever their order
      have terminalSafe : SafeGc thread
          ((artifacts.mergeSort newestFirst).foldlM (pruneTerminal maximum deviceId) (report, ∅))
          (fun _ later => Collects thread removable later) later := by
        refine (Ensures.foldlM (fun (rest : List (ℕ × String)) _ later =>
          Collects thread removable later ∧ ∀ artifact ∈ rest, removable artifact.2) ?_
          ⟨reached, ?_⟩).mono fun _ _ reached => reached.1
        · rintro artifact rest progress world ⟨reached, left⟩
          refine (safe_pruneTerminal reached (left artifact List.mem_cons_self)).mono ?_
          exact fun _ _ reached =>
            ⟨reached, fun other member => left other (List.mem_cons_of_mem _ member)⟩
        · exact fun artifact member => collected artifact (List.mem_mergeSort.mp member)
      exact terminalSafe.bind fun _ _ reached => reached

end Prune

theorem mem_terminalByTx {records : List TxJournalRecord} (member : txId ∈ terminalByTx records) :
    ∃ record ∈ records, record.txId = txId := by
  rw [Std.ExtTreeMap.mem_iff_isSome_getElem?, Option.isSome_iff_exists] at member
  rcases member with ⟨updatedAt, found⟩
  have entry := mem_of_getElem?_ofList found
  rcases List.mem_map.mp entry with ⟨record, isRecord, same⟩
  exact ⟨record, List.mem_of_mem_filter isRecord, (Prod.mk.inj same).1⟩

theorem safe_pruneArtifactsPerDevice {records : List TxJournalRecord} {known : BTreeSet String}
    {maximum : ℕ} (collects : Collects thread removable world)
    (unknownRemovable : ∀ txId, txId ∉ known → removable txId)
    (terminalRemovable : ∀ record ∈ records, removable record.txId) :
    SafeGc thread (gc.pruneArtifactsPerDevice records known maximum report)
      (fun _ later => Collects thread removable later) world := by
  rw [JournalGc.pruneArtifactsPerDevice]
  cases gc.artifactRoot with
  | none => exact collects
  | some root =>
      simp only []
      split
      · exact collects
      · apply (safe_gcCall_keeps .artifactRootExists trivial collects nofun).bind
        intro present later reached
        cases present with
        | false => exact reached
        | true =>
            apply safe_forEachDevice _ reached
            intro report deviceId world collects
            apply safe_pruneDevice unknownRemovable _ collects
            intro txId member
            rcases mem_terminalByTx member with ⟨record, isRecord, rfl⟩
            exact terminalRemovable record isRecord

/-! ## The scan of the journal -/

theorem safe_collectTerminal {now : ℕ} {path : String} {record : TxJournalRecord}
    (collects : Collects thread removable world) (isRemovable : removable record.txId)
    (ownPath : fileStem path = record.txId) :
    SafeGc thread (gc.collectTerminal policy now path record report)
      (fun _ later => Collects thread removable later) world := by
  have removesJournal : ∀ due, SafeGc thread (removeDueJournal path record due report)
      (fun _ later => Collects thread removable later) world := by
    intro due
    cases due with
    | false => exact collects
    | true =>
        have allowed : ∀ removed, (GcOp.removeJournal path).removes = some removed →
            removable removed := by
          rintro removed ⟨⟩
          rwa [ownPath]
        apply (safe_gcCall_keeps (.removeJournal path) trivial collects allowed).bind
        intro answer later reached
        cases answer <;> exact reached
  apply (removesJournal _).bind
  intro report later reached
  split
  · exact safe_deleteArtifactsForTx reached isRemovable
  · exact reached

/-- With these entries left to scan, the run may remove what it saw terminal, and what it neither
saw nor will see. -/
def JournalScan.Removable (scan : JournalScan) (rest : List DirEntry) (txId : String) : Prop :=
  txId = "" ∨ (txId ∉ scan.knownTxIds ∧ .named (jsonFileName txId) ∉ rest) ∨
    ∃ record ∈ scan.terminalRecords, record.txId = txId

/-- A name that was scanned is known. -/
theorem JournalScan.Removable.of_known {rest : List DirEntry} {path : String}
    {known : BTreeSet String}
    (grows : ∀ txId, txId ∈ scan.knownTxIds ∨ txId = fileStem path → txId ∈ known)
    (isRemovable : JournalScan.Removable { scan with knownTxIds := known } rest txId) :
    scan.Removable (.named path :: rest) txId := by
  rcases isRemovable with isEmpty | ⟨unknown, notLeft⟩ | isTerminal
  · exact .inl isEmpty
  · by_cases isEmpty : txId = ""
    · exact .inl isEmpty
    · refine .inr (.inl ⟨fun isKnown => unknown (grows txId (.inl isKnown)), ?_⟩)
      intro member
      rcases List.mem_cons.mp member with same | isLeft
      · apply unknown
        apply grows
        rw [← DirEntry.named.inj same, fileStem_jsonFileName isEmpty]
        exact .inr rfl
      · exact notLeft isLeft
  · exact .inr (.inr isTerminal)

/-- An entry that is no journal file hides nothing. -/
theorem JournalScan.Removable.of_skipped {rest : List DirEntry}
    (skipped : ∀ id, id ≠ "" → entry ≠ .named (jsonFileName id))
    (isRemovable : scan.Removable rest txId) :
    scan.Removable (entry :: rest) txId := by
  rcases isRemovable with isEmpty | ⟨unknown, notLeft⟩ | isTerminal
  · exact .inl isEmpty
  · by_cases isEmpty : txId = ""
    · exact .inl isEmpty
    · refine .inr (.inl ⟨unknown, fun member => ?_⟩)
      rcases List.mem_cons.mp member with same | isLeft
      · exact skipped txId isEmpty same.symm
      · exact notLeft isLeft
  · exact .inr (.inr isTerminal)

theorem safe_scanEntry {root : String} {now : ℕ} {rest : List DirEntry}
    (collects : Collects thread (scan.Removable (entry :: rest)) world) :
    SafeGc thread (gc.scanEntry policy root now scan entry)
      (fun scan later => Collects thread (scan.Removable rest) later) world := by
  cases entry with
  | unreadable | other => exact collects.mono fun txId => .of_skipped nofun
  | named path =>
      simp only [JournalGc.scanEntry]
      split
      · rename_i notJson
        refine collects.mono fun txId => .of_skipped ?_
        rintro id nonempty ⟨⟩
        exact notJson (extension_jsonFileName nonempty)
      · apply (safe_gcCall (.readRecord path) trivial collects nofun).bind
        rintro answer later ⟨answered, reached⟩
        cases answer with
        | error =>
            refine reached.mono fun txId isRemovable => collects.removable txId ?_
            exact isRemovable.of_known (by simp +contextual [or_comm])
        | ok record =>
            rcases answered with ⟨ownPath, found⟩
            have ownId : record.txId = fileStem path := collects.sound.keyed _ _ found
            have grows : ∀ id, id ∈ scan.knownTxIds ∨ id = fileStem path →
                id ∈ (scan.knownTxIds.insert (fileStem path)).insert record.txId := by
              simp +contextual [or_comm]
            by_cases terminal : isTerminalPhase record.phase
            · simp only [terminal, if_true]
              have removable : Collects thread
                  (JournalScan.Removable
                    { scan with
                      knownTxIds := (scan.knownTxIds.insert (fileStem path)).insert record.txId
                      terminalRecords := scan.terminalRecords ++ [record] } rest) later := by
                refine reached.mono fun txId isRemovable => ?_
                rcases isRemovable with isEmpty | unseen | ⟨seen, member, rfl⟩
                · exact collects.removable txId (.inl isEmpty)
                · exact collects.removable txId (.of_known grows (.inr (.inl unseen)))
                · rcases List.mem_append.mp member with isOld | isNew
                  · exact collects.removable _ (.inr (.inr ⟨seen, isOld, rfl⟩))
                  · rw [List.mem_singleton.mp isNew, ownId]
                    rintro ⟨current, isCurrent, requires⟩
                    rw [found, Option.some.injEq] at isCurrent
                    simp [isTerminalPhase_eq, isCurrent, requires] at terminal
              have isRemovable : JournalScan.Removable
                  { scan with
                    knownTxIds := (scan.knownTxIds.insert (fileStem path)).insert record.txId
                    terminalRecords := scan.terminalRecords ++ [record] } rest record.txId :=
                .inr (.inr ⟨record, by simp, rfl⟩)
              apply (safe_collectTerminal removable isRemovable ownId.symm).bind
              exact fun _ _ reached => reached
            · simp only [terminal]
              refine reached.mono fun txId isRemovable => collects.removable txId ?_
              exact isRemovable.of_known grows

/-! ## A whole run -/

theorem safe_listJournal :
    SafeGc thread (gcCall .listJournal)
      (fun answer later => ∀ entries, answer = .ok entries →
        Collects thread (JournalScan.Removable {} entries) later) world := by
  rintro answer after ⟨answered, quiet, rfl⟩
  refine ⟨⟨fun other differs => .of_after differs quiet, fun sound => sound.after answered nofun⟩,
    ?_⟩
  rintro later calm sound entries rfl
  have collects : thread ∈ later.collecting := by
    rw [calm.collecting]
    simp [GcWorld.after]
  refine ⟨collects, fun txId isRemovable live => ?_, sound⟩
  rcases isRemovable with rfl | ⟨-, notListed⟩ | ⟨record, member, -⟩
  · rcases live with ⟨record, found, -⟩
    exact sound.named "" (Std.ExtTreeMap.mem_iff_isSome_getElem?.mpr (by simp [found])) rfl
  · rcases calm.live (by simp [GcWorld.after]) txId live with ⟨record, found, -⟩
    have present : txId ∈ world.journal :=
      Std.ExtTreeMap.mem_iff_isSome_getElem?.mpr (Option.isSome_iff_exists.mpr ⟨record, found⟩)
    rcases answered.2 txId present with listed | unreadable
    · exact notListed listed
    · exact quiet unreadable
  · simp at member

/-- A call outside a collection. -/
theorem safe_gcCall_outside (op : GcOp) (harmless : op.removes = none) :
    SafeGc thread (gcCall op) (fun _ _ => True) world := by
  rintro answer after ⟨answered, quiet, rfl⟩
  refine ⟨⟨fun other differs => .of_after differs quiet,
    fun sound => sound.after answered fun removed isRemoved => ?_⟩, fun _ _ _ => trivial⟩
  simp [harmless] at isRemoved

theorem safe_runOnce :
    SafeGc thread (gc.runOnce policy) (fun _ _ => True) world := by
  rw [JournalGc.runOnce]
  cases gc.journalRoot with
  | none => exact trivial
  | some root =>
      apply (safe_gcCall_outside .journalRootExists rfl).bind
      intro present later _
      cases present with
      | false => exact trivial
      | true =>
          have reads : SafeGc thread gc.now (fun _ _ => True) later := by
            rw [JournalGc.now]
            cases gc.nowUnixSecs with
            | some => exact trivial
            | none => exact safe_gcCall_outside .nowUnixSecs rfl
          apply reads.bind
          intro now later _
          apply safe_listJournal.bind
          intro answer later listed
          cases answer with
          | error => exact trivial
          | ok entries =>
              have scans : SafeGc thread (entries.foldlM (gc.scanEntry policy root now) {})
                  (fun scan later => Collects thread (scan.Removable []) later) later := by
                refine Ensures.foldlM
                  (fun rest (scan : JournalScan) later =>
                    Collects thread (scan.Removable rest) later)
                  ?_ (listed entries rfl)
                exact fun entry rest scan world collects => safe_scanEntry collects
              apply scans.bind
              intro scan later collects
              have unknownRemovable : ∀ txId, txId ∉ scan.knownTxIds → scan.Removable [] txId :=
                fun txId unknown => .inr (.inl ⟨unknown, by simp⟩)
              have terminalRemovable : ∀ record ∈ scan.terminalRecords,
                  scan.Removable [] record.txId :=
                fun record member => .inr (.inr ⟨record, member, rfl⟩)
              apply (safe_pruneArtifactsPerDevice collects unknownRemovable terminalRemovable).bind
              exact fun _ _ _ => trivial

end Run

theorem gcContract_sound : gcContract.Sound quietGcEnvironment SharesRoots where
  rely_refl := fun _ world => .refl world
  rely_trans := fun _ _ _ _ first second => first.trans second
  guarantee_rely := fun _ other _ _ differs kept => kept.1 other differs
  guarantee_invariant := fun _ _ _ sound kept => kept.2 sound
  restart_invariant := fun _ sound => ⟨sound.removals, sound.keyed, sound.named⟩
  entry_ensures := by
    intro program enters thread world _
    cases enters with
    | collect gc policy =>
        apply safe_runOnce.bind
        exact fun _ _ _ => safe_gcCall_outside .ended rfl
    | putRecord record =>
        exact (safe_gcCall_outside (.putRecord record) rfl).bind fun _ _ _ => trivial
    | writeArtifact deviceId txId =>
        exact (safe_gcCall_outside (.writeArtifact deviceId txId) rfl).bind fun _ _ _ => trivial

/-! ## Runs on the shared directories -/

attribute [local instance] lawfulBEq_artifact

/-- The answers of a file system that does not fail to calls that keep a transaction's order. -/
def GcWorld.answer (world : GcWorld) : (op : GcOp) → op.Answer
  | .journalRootExists | .artifactRootExists => true
  | .nowUnixSecs => (0 : ℕ)
  | .listJournal => .ok (world.journal.toList.map fun entry => .named (jsonFileName entry.1))
  | .readRecord path =>
      match world.journal[fileStem path]? with
      | some record => .ok record
      | none => .error "No such file or directory"
  | .removeJournal path =>
      if fileStem path ∈ world.journal then .ok () else .error "No such file or directory"
  | .listDevices => .ok (world.devices.map .named)
  | .listTxDirs deviceId =>
      .ok ((world.artifacts.filter (·.1 = deviceId)).map fun artifact => .named artifact.2)
  | .isTxDir deviceId txId => decide ((deviceId, txId) ∈ world.artifacts)
  | .removeTxDir deviceId txId =>
      if (deviceId, txId) ∈ world.artifacts then .ok () else .error "No such file or directory"
  | .ended => ()
  | .putRecord _ | .writeArtifact _ _ => .ok ()

/-- The calls that keep that order: a transaction starts under a new identifier, follows the table
of transitions and writes its record before its first artifact. -/
def GcWorld.permits (world : GcWorld) : GcOp → Bool
  | .readRecord path => path = jsonFileName (fileStem path)
  | .putRecord record =>
      isCanonicalIdentifier record.txId &&
        match world.journal[record.txId]? with
        | none => record.phase = .started
        | some previous => previous.phase.isAllowed record.phase
  | .writeArtifact _ txId => txId ∈ world.journal
  | _ => true

theorem GcWorld.allows_answer (permitted : world.permits op = true) :
    world.Allows op (world.answer op) := by
  cases op with
  | journalRootExists | artifactRootExists | nowUnixSecs | ended => exact trivial
  | isTxDir => rfl
  | listJournal =>
      constructor
      · intro name listed _
        simp only [List.mem_map, DirEntry.named.injEq] at listed
        rcases listed with ⟨⟨txId, record⟩, member, rfl⟩
        rw [Std.ExtTreeMap.mem_toList_iff_getElem?_eq_some] at member
        exact ⟨txId, Std.ExtTreeMap.mem_iff_isSome_getElem?.mpr (by simp [member]), rfl⟩
      · intro txId present
        left
        rw [Std.ExtTreeMap.mem_iff_isSome_getElem?, Option.isSome_iff_exists] at present
        rcases present with ⟨record, found⟩
        exact List.mem_map.mpr
          ⟨(txId, record), Std.ExtTreeMap.mem_toList_iff_getElem?_eq_some.mpr found, rfl⟩
  | readRecord path =>
      cases found : world.journal[fileStem path]? with
      | none => simp [GcWorld.answer, GcWorld.Allows, found]
      | some record =>
          simp only [GcWorld.answer, GcWorld.Allows, found, and_true]
          exact of_decide_eq_true permitted
  | removeJournal path =>
      by_cases present : fileStem path ∈ world.journal
      · simp [GcWorld.answer, GcWorld.Allows, present]
      · simp [GcWorld.answer, GcWorld.Allows, present]
  | listDevices => simp [GcWorld.answer, GcWorld.Allows]
  | listTxDirs deviceId => simp [GcWorld.answer, GcWorld.Allows]
  | removeTxDir deviceId txId =>
      by_cases present : (deviceId, txId) ∈ world.artifacts
      · simp [GcWorld.answer, GcWorld.Allows, present]
      · simp [GcWorld.answer, GcWorld.Allows, present]
  | putRecord record =>
      simp only [GcWorld.permits, Bool.and_eq_true] at permitted
      exact permitted.1
  | writeArtifact deviceId txId =>
      change txId ∈ world.journal
      exact of_decide_eq_true permitted

def gcAnswers (thread : GcThread) (_ : Unit) (world : GcWorld) (op : GcOp) :
    Option (op.Answer × GcWorld) :=
  if world.permits op then some (world.answer op, world.after thread op (world.answer op)) else none

theorem gcAnswers_conform {thread : GcThread} {input : Unit} {response : op.Answer × GcWorld}
    (answered : gcAnswers thread input world op = some response) :
    gcEnvironment.respond thread world op response.1 response.2 := by
  simp only [gcAnswers] at answered
  split at answered
  · rename_i permitted
    cases answered
    exact ⟨GcWorld.allows_answer permitted, rfl⟩
  · cases answered

def collectedStartedRecord : TxJournalRecord :=
  .started ⟨"tx-1", "request-1", "trace-1"⟩ ["leaf-a"] 0

/-- A collector with a fixed date. -/
def sampleGc : JournalGc where
  journalRoot := some "journal"
  artifactRoot := some "artifacts"
  nowUnixSecs := some 4000000000

/-- A run, and the steps of one transaction that is rolled back by recovery. -/
inductive GcProgram where
  | collect
  | put (phase : TxPhase)
  | writeArtifact

/-- The programs of the sample. -/
def GcProgram.program : GcProgram → Gc Unit
  | .collect => AriaUnderlay.collect sampleGc {}
  | .put phase => do let _ ← gcCall (.putRecord (collectedStartedRecord.withPhase phase 0))
  | .writeArtifact => do let _ ← gcCall (.writeArtifact "leaf-a" "tx-1")

theorem GcProgram.sharesRoots (index : GcProgram) : SharesRoots index.program := by
  cases index with
  | collect => exact .collect sampleGc {}
  | put phase => exact .putRecord _
  | writeArtifact => exact .writeArtifact _ _

/-- The run lists an empty journal.  Then a transaction starts and writes an artifact, and the run
goes on to the artifact directories. -/
def lateStart : List (Move GcThread Unit GcProgram) :=
  [.spawn 0 .collect, .run 0 (), .run 0 (), .run 0 (),
    .spawn 1 (.put .started), .run 1 (), .spawn 2 .writeArtifact, .run 2 (),
    .run 0 (), .run 0 (), .run 0 ()]

/-- The artifact of the transaction is removed while its record is in phase `Started`. -/
theorem collection_removes_live_artifact :
    ∃ pool, Pool.Reachable gcEnvironment SharesRoots .initial pool ∧
      ¬pool.world.RemovalsSafe := by
  let ran := (Pool.idle GcWorld.initial).moves gcEnvironment gcAnswers GcProgram.program lateStart
  have ends : ran.map (fun pool => pool.world.removals) =
      some [.artifact "leaf-a" "tx-1" (some collectedStartedRecord)] := by
    decide +kernel
  rcases Option.map_eq_some_iff.mp ends with ⟨pool, isPool, removals⟩
  refine ⟨pool, Pool.reachable_of_moves gcAnswers_conform GcProgram.sharesRoots .refl isPool, ?_⟩
  intro safe
  have notRecoverable := safe (.artifact "leaf-a" "tx-1" (some collectedStartedRecord))
    (by simp [removals]) collectedStartedRecord rfl
  cases notRecoverable

/-- As long as no transaction starts and no terminal record is reopened between the journal listing
of a run and its end, and the listing is complete, collection removes nothing of a transaction that
requires recovery. -/
theorem collection_spares_live_transactions (pool : Pool gcSignature GcThread GcWorld)
    (reachable : Pool.Reachable quietGcEnvironment SharesRoots .initial pool) :
    pool.world.RemovalsSafe :=
  (gcContract_sound.invariant ⟨by simp [GcWorld.RemovalsSafe, GcWorld.initial], .empty, by
    simp [GcWorld.initial]⟩ reachable).removals

/-- Nothing is started or reopened while a run is collecting. -/
def GcWorld.isQuiet (world : GcWorld) : GcOp → Bool
  | .putRecord record => world.collecting = ∅ || !record.phase.requiresRecovery
  | _ => true

theorem GcWorld.quiet_answer (quiet : world.isQuiet op = true) :
    QuietGc world op (world.answer op) := by
  cases op with
  | journalRootExists | artifactRootExists | nowUnixSecs | ended | isTxDir | listDevices
  | listTxDirs | writeArtifact => exact trivial
  | listJournal => simp [QuietGc, GcWorld.answer]
  | readRecord path =>
      cases found : world.journal[fileStem path]? <;> simp [QuietGc]
  | removeJournal path => simp [QuietGc]
  | removeTxDir deviceId txId => simp [QuietGc]
  | putRecord record =>
      intro collecting requires
      simp [GcWorld.isQuiet, requires, collecting.ne_empty] at quiet

def quietGcAnswers (thread : GcThread) (input : Unit) (world : GcWorld) (op : GcOp) :
    Option (op.Answer × GcWorld) :=
  if world.isQuiet op then gcAnswers thread input world op else none

theorem quietGcAnswers_conform {thread : GcThread} {input : Unit} {response : op.Answer × GcWorld}
    (answered : quietGcAnswers thread input world op = some response) :
    quietGcEnvironment.respond thread world op response.1 response.2 := by
  simp only [quietGcAnswers] at answered
  split at answered
  · rename_i quiet
    simp only [gcAnswers] at answered
    split at answered
    · rename_i permitted
      cases answered
      exact ⟨GcWorld.allows_answer permitted, GcWorld.quiet_answer quiet, rfl⟩
    · cases answered
  · cases answered

/-- A transaction is rolled back; then a run removes its journal and its artifact. -/
def rolledBackFirst : List (Move GcThread Unit GcProgram) :=
  [.spawn 1 (.put .started), .run 1 (), .spawn 2 .writeArtifact, .run 2 (),
    .spawn 3 (.put .recovering), .run 3 (), .spawn 4 (.put .rolledBack), .run 4 (),
    .spawn 0 .collect] ++ List.replicate 8 (.run 0 ())

theorem collection_spares_live_rolledBackFirst :
    ∃ pool, Pool.Reachable quietGcEnvironment SharesRoots .initial pool ∧
      pool.world.removals.length = 2 ∧ pool.world.RemovalsSafe := by
  let ran := (Pool.idle GcWorld.initial).moves quietGcEnvironment quietGcAnswers
    GcProgram.program rolledBackFirst
  have ends : ran.map (fun pool => pool.world.removals.length) = some 2 := by
    decide +kernel
  rcases Option.map_eq_some_iff.mp ends with ⟨pool, isPool, removals⟩
  have reachable : Pool.Reachable quietGcEnvironment SharesRoots .initial pool :=
    Pool.reachable_of_moves quietGcAnswers_conform GcProgram.sharesRoots .refl isPool
  exact ⟨pool, reachable, removals, collection_spares_live_transactions pool reachable⟩

end AriaUnderlay
