import AriaUnderlay.Ha.Lease

/-!
# When a fresh lease is displaced

Acquire, refresh and release look at the lease file and act on it in separate steps.  A process that
found the file stale removes whatever is there by then, and a refresh replaces whatever is there by
then; so two processes that take over the same stale lease can both hold it.

`SteadyLease` names what rules this out: every remove and replace finds the record that its process
read, a lease that is removed for its date is too old by the time of its write as well, and an
acquire returns before its own lease has run out.  Under these conditions a fresh lease stays in the
file until its guard is dropped.
-/

namespace AriaUnderlay

open Effect

/-- The token's guard is in use and its lease was never older than the ttl. -/
def LeaseWorld.Fresh (world : LeaseWorld) (token : LeaseToken) : Prop :=
  world.phase token = .held ∧ world.lapsed token = false

/-- The lease file is there and its record has the token. -/
def LeaseWorld.Contains (world : LeaseWorld) (token : LeaseToken) : Prop :=
  ∃ file record, world.file = some file ∧ file.content = some record ∧ record.token = token

/-- The file still has the record that the process read last. -/
def LeaseWorld.Unchanged (world : LeaseWorld) (process : LeaseProcess) : Prop :=
  ∃ token record, world.file = some ⟨token, some record⟩ ∧ world.seen process = some record

instance (world : LeaseWorld) (process : LeaseProcess) : Decidable (world.Unchanged process) :=
  decidable_of_iff (∃ record ∈ world.file.bind LeaseFile.content, world.seen process = some record)
    (by
      rcases found : world.file with _ | ⟨token, _ | record⟩ <;>
        simp [LeaseWorld.Unchanged, found])

/-- A lease in use that is too old by the date it carries is too old by the time of its write. -/
def LeaseWorld.DateTells (world : LeaseWorld) (ttlSecs now : ℕ) : Prop :=
  ∀ file ∈ world.file, ∀ record ∈ file.content, (world.phase file.token).isLive = true →
    record.updatedAtUnixSecs + ttlSecs < now → world.writtenAt file.token + ttlSecs < now

instance (world : LeaseWorld) (ttlSecs now : ℕ) : Decidable (world.DateTells ttlSecs now) :=
  inferInstanceAs (Decidable (∀ file ∈ world.file, ∀ record ∈ file.content, _ → _ → _))

/-- The calls in which no process acts on a lease that has changed since it looked at it. -/
def SteadyLease (ttlSecs : ℕ) (process : LeaseProcess) (world : LeaseWorld) (now : ℕ) :
    (op : LeaseOp) → op.Answer → Prop
  | .remove, .removed => world.Unchanged process ∧ world.DateTells ttlSecs now
  | .replace _, .ok () => world.Unchanged process
  | .acquired token, () => (world.tick ttlSecs now).lapsed token = false
  | _, _ => True

instance (ttlSecs : ℕ) (process : LeaseProcess) (world : LeaseWorld) (now : ℕ) (op : LeaseOp)
    (answer : op.Answer) : Decidable (SteadyLease ttlSecs process world now op answer) :=
  match op, answer with
  | .remove, .removed =>
      inferInstanceAs (Decidable (world.Unchanged process ∧ world.DateTells ttlSecs now))
  | .replace _, .ok () => inferInstanceAs (Decidable (world.Unchanged process))
  | .acquired token, () =>
      inferInstanceAs (Decidable ((world.tick ttlSecs now).lapsed token = false))
  | .remove, .notFound | .remove, .failed _ | .replace _, .error _ | .write _, _
  | .createParentDir, _ | .newToken, _ | .nowUnixSecs, _ | .createNew _, _ | .read, _
  | .spawnHeartbeat, _ | .dropped _, _ => inferInstanceAs (Decidable True)

/-- The surroundings as far as they make steady calls. -/
def steadyLeaseEnvironment (ttlSecs : ℕ) :
    Environment leaseSignature LeaseProcess LeaseWorld where
  respond := fun process world op answer after =>
    ∃ now, world.clock ≤ now ∧ world.Allows now op answer ∧
      SteadyLease ttlSecs process world now op answer ∧
        after = (world.tick ttlSecs now).after process op answer
  restart := id

/-! ## The invariant -/

/-- A token whose lease counts and was never too old. -/
def LeaseWorld.Covered (world : LeaseWorld) (token : LeaseToken) : Prop :=
  (world.phase token).isLive = true ∧ world.lapsed token = false

/-- A lease in use is in the file and in time. -/
structure LeaseInvariant (ttlSecs : ℕ) (world : LeaseWorld) : Prop where
  creating : ∀ token, world.phase token = .creating → world.file = some ⟨token, none⟩
  covered : ∀ token, world.Covered token → ∃ record, world.file = some ⟨token, some record⟩
  ownToken : ∀ token record, world.file = some ⟨token, some record⟩ → record.token = token
  timely : ∀ token, world.Covered token → world.clock ≤ world.writtenAt token + ttlSecs
  undrawn : ∀ token, world.drawn token = none → world.phase token = .idle

variable {record current : ActiveLeaseRecord} {op : LeaseOp} {ttlSecs : ℕ} {world : LeaseWorld}
  {token : LeaseToken} {process : LeaseProcess}

section Invariant

variable {now : ℕ}

theorem LeaseWorld.Covered.of_tick (covered : (world.tick ttlSecs now).Covered token) :
    world.Covered token ∧ now ≤ world.writtenAt token + ttlSecs := by
  rcases covered with ⟨live, notLapsed⟩
  simp only [LeaseWorld.tick, Bool.or_eq_false_iff, Bool.and_eq_false_iff,
    decide_eq_false_iff_not, not_lt] at live notLapsed
  refine ⟨⟨live, notLapsed.1⟩, ?_⟩
  rcases notLapsed.2 with notLive | inTime
  · simp [live] at notLive
  · exact inTime

variable (holds : LeaseInvariant ttlSecs world)

include holds

theorem LeaseInvariant.tick :
    LeaseInvariant ttlSecs (world.tick ttlSecs now) where
  creating := holds.creating
  covered := fun token covered => holds.covered token covered.of_tick.1
  ownToken := holds.ownToken
  timely := fun _ covered => covered.of_tick.2
  undrawn := holds.undrawn

theorem LeaseInvariant.newToken :
    LeaseInvariant ttlSecs (world.after process .newToken token) where
  creating := holds.creating
  covered := holds.covered
  ownToken := holds.ownToken
  timely := holds.timely
  undrawn := by
    intro other notDrawn
    apply holds.undrawn
    by_cases same : other = token
    · simp [LeaseWorld.after, same] at notDrawn
    · simpa [LeaseWorld.after, same] using notDrawn

/-- The phase of a drawn token says nothing about the tokens that are not drawn. -/
theorem LeaseInvariant.undrawn_update {phase : LeasePhase}
    (drawn : world.drawn token = some process) (other : LeaseToken)
    (notDrawn : world.drawn other = none) :
    Function.update world.phase token phase other = .idle := by
  by_cases same : other = token
  · simp [same, drawn] at notDrawn
  · simpa [same] using holds.undrawn other notDrawn

theorem LeaseInvariant.createNew (absent : world.file = none)
    (drawn : world.drawn token = some process) :
    LeaseInvariant ttlSecs (world.after process (.createNew token) .created) := by
  have notCreating : ∀ other, world.phase other ≠ .creating := by
    intro other isCreating
    simpa [absent] using holds.creating other isCreating
  have notCovered : ∀ other, ¬world.Covered other := by
    intro other covered
    rcases holds.covered other covered with ⟨record, found⟩
    simp [absent] at found
  have uncovered : ∀ other, ¬(world.after process (.createNew token) .created).Covered other := by
    intro other covered
    by_cases same : other = token
    · simp [LeaseWorld.Covered, LeaseWorld.after, same, LeasePhase.isLive] at covered
    · exact notCovered other (by simpa [LeaseWorld.Covered, LeaseWorld.after, same] using covered)
  constructor
  case creating =>
    intro other isCreating
    by_cases same : other = token
    · rw [same]
      rfl
    · exact absurd (by simpa [LeaseWorld.after, same] using isCreating) (notCreating other)
  case covered => exact fun other covered => absurd covered (uncovered other)
  case ownToken =>
    intro other record found
    simp [LeaseWorld.after] at found
  case timely => exact fun other covered => absurd covered (uncovered other)
  case undrawn => exact holds.undrawn_update drawn

theorem LeaseInvariant.write (creating : world.phase record.token = .creating)
    (drawn : world.drawn record.token = some process) :
    LeaseInvariant ttlSecs (world.after process (.write record) (.ok ())) := by
  have empty := holds.creating record.token creating
  have file : (world.after process (.write record) (.ok ())).file =
      some ⟨record.token, some record⟩ := by simp [LeaseWorld.after, empty]
  have covered_eq : ∀ other, (world.after process (.write record) (.ok ())).Covered other →
      other = record.token := by
    intro other covered
    by_contra differs
    have wasCovered : world.Covered other := by
      simpa [LeaseWorld.Covered, LeaseWorld.after, differs] using covered
    rcases holds.covered other wasCovered with ⟨previous, found⟩
    simp [empty] at found
  constructor
  case creating =>
    intro other isCreating
    by_cases same : other = record.token
    · simp [LeaseWorld.after, same] at isCreating
    · have wasCreating : world.phase other = .creating := by
        simpa [LeaseWorld.after, same] using isCreating
      simp [holds.creating other wasCreating, same] at empty
  case covered =>
    intro other covered
    rw [covered_eq other covered]
    exact ⟨record, file⟩
  case ownToken =>
    intro other found isFile
    rw [file, Option.some.injEq, LeaseFile.mk.injEq, Option.some.injEq] at isFile
    rw [← isFile.2, isFile.1]
  case timely =>
    intro other covered
    rw [covered_eq other covered]
    simp [LeaseWorld.after]
  case undrawn => exact holds.undrawn_update drawn

/-- A file with content belongs to the only token that can be covered. -/
theorem LeaseInvariant.eq_of_found {other : LeaseToken}
    (found : world.file = some ⟨token, some record⟩) (covered : world.Covered other) :
    other = record.token := by
  rcases holds.covered other covered with ⟨current, isFile⟩
  rw [found, Option.some.injEq, LeaseFile.mk.injEq] at isFile
  rw [holds.ownToken token record found, ← isFile.1]

theorem LeaseInvariant.not_creating_of_found (found : world.file = some ⟨token, some record⟩)
    (other : LeaseToken) :
    world.phase other ≠ .creating := by
  intro isCreating
  simp [holds.creating other isCreating] at found

theorem LeaseInvariant.replace (found : world.file = some ⟨token, some current⟩)
    (own : current.token = record.token) :
    LeaseInvariant ttlSecs (world.after process (.replace record) (.ok ())) := by
  have covered_eq : ∀ other, (world.after process (.replace record) (.ok ())).Covered other →
      other = record.token := by
    intro other covered
    rw [← own]
    exact holds.eq_of_found found covered
  constructor
  case creating =>
    exact fun other isCreating => absurd isCreating (holds.not_creating_of_found found other)
  case covered =>
    intro other covered
    rw [covered_eq other covered]
    exact ⟨record, rfl⟩
  case ownToken =>
    intro other replaced isFile
    simp only [LeaseWorld.after, Option.some.injEq, LeaseFile.mk.injEq] at isFile
    rw [← isFile.2, isFile.1]
  case timely =>
    intro other covered
    rw [covered_eq other covered]
    simp [LeaseWorld.after]
  case undrawn => exact holds.undrawn

theorem LeaseInvariant.remove (found : world.file = some ⟨token, some record⟩)
    (free : ¬world.Covered record.token) :
    LeaseInvariant ttlSecs (world.after process .remove .removed) := by
  have uncovered : ∀ other, ¬world.Covered other :=
    fun other covered => free (holds.eq_of_found found covered ▸ covered)
  constructor
  case creating =>
    exact fun other isCreating => absurd isCreating (holds.not_creating_of_found found other)
  case covered => exact fun other covered => absurd covered (uncovered other)
  case ownToken => simp [LeaseWorld.after]
  case timely => exact fun other covered => absurd covered (uncovered other)
  case undrawn => exact holds.undrawn

/-- A stale record does not belong to a covered token. -/
theorem LeaseInvariant.not_covered_of_stale (found : world.file = some ⟨token, some record⟩)
    (tells : world.DateTells ttlSecs world.clock)
    (stale : record.updatedAtUnixSecs + ttlSecs < world.clock) :
    ¬world.Covered record.token := by
  rw [holds.ownToken token record found]
  intro covered
  have tooOld : world.writtenAt token + ttlSecs < world.clock :=
    tells _ found record rfl covered.1 stale
  have inTime := holds.timely token covered
  omega

/-- A drawn token may go on to any phase but the first, if it does not come to life by that. -/
theorem LeaseInvariant.setPhase {phase : LeasePhase} (drawn : world.drawn token = some process)
    (notCreating : phase ≠ .creating)
    (live : phase.isLive = true → (world.phase token).isLive = true) :
    LeaseInvariant ttlSecs { world with phase := Function.update world.phase token phase } := by
  have covered_of : ∀ other,
      { world with phase := Function.update world.phase token phase }.Covered other →
        world.Covered other := by
    rintro other ⟨isLive, inTime⟩
    by_cases same : other = token
    · subst same
      exact ⟨live (by simpa using isLive), inTime⟩
    · exact ⟨by simpa [same] using isLive, inTime⟩
  constructor
  case creating =>
    intro other isCreating
    by_cases same : other = token
    · exact absurd (by simpa [same] using isCreating) notCreating
    · exact holds.creating other (by simpa [same] using isCreating)
  case covered => exact fun other covered => holds.covered other (covered_of other covered)
  case ownToken => exact holds.ownToken
  case timely => exact fun other covered => holds.timely other (covered_of other covered)
  case undrawn => exact holds.undrawn_update drawn

theorem LeaseInvariant.acquired (written : world.phase token = .written)
    (drawn : world.drawn token = some process) :
    LeaseInvariant ttlSecs (world.after process (.acquired token) ()) :=
  holds.setPhase drawn (by simp) fun _ => by rw [written]; rfl

theorem LeaseInvariant.dropped (drawn : world.drawn token = some process) :
    LeaseInvariant ttlSecs (world.after process (.dropped token) ()) :=
  holds.setPhase drawn (by simp) (by simp [LeasePhase.isLive])

end Invariant

/-! ## One call -/

/-- What a process knows of itself before a call. -/
def LeaseWorld.Ready (world : LeaseWorld) (ttlSecs : ℕ) (process : LeaseProcess) : LeaseOp → Prop
  | .createNew token | .dropped token => world.drawn token = some process
  | .write record =>
      world.drawn record.token = some process ∧ world.phase record.token = .creating
  | .acquired token => world.drawn token = some process ∧ world.phase token = .written
  | .replace record => ∃ current, world.seen process = some current ∧ current.token = record.token
  | .remove => ∃ current, world.seen process = some current ∧
      (current.updatedAtUnixSecs + ttlSecs < world.clock ∨ world.phase current.token = .dropped)
  | _ => True

/-- What belongs to a process stays as it is. -/
structure LeaseWorld.Keeps (process : LeaseProcess) (before after : LeaseWorld) : Prop where
  clock : before.clock ≤ after.clock
  drawn : ∀ token, before.drawn token = some process → after.drawn token = some process
  phase : ∀ token, before.drawn token = some process → after.phase token = before.phase token
  seen : after.seen process = before.seen process

def leaseContract (ttlSecs : ℕ) : Contract LeaseProcess LeaseWorld where
  guarantee := fun process before after =>
    (∀ other, process ≠ other → before.Keeps other after) ∧
      (LeaseInvariant ttlSecs before → LeaseInvariant ttlSecs after)
  rely := fun process before after => before.Keeps process after
  invariant := LeaseInvariant ttlSecs

section Call

variable {now : ℕ} {other : LeaseProcess}
variable {before middle last : LeaseWorld} {answer : op.Answer}

theorem LeaseWorld.Keeps.refl (world : LeaseWorld) : world.Keeps process world where
  clock := le_refl _
  drawn := fun _ drawn => drawn
  phase := fun _ _ => rfl
  seen := rfl

theorem LeaseWorld.Keeps.trans (first : before.Keeps process middle)
    (second : middle.Keeps process last) :
    before.Keeps process last where
  clock := first.clock.trans second.clock
  drawn := fun token drawn => second.drawn token (first.drawn token drawn)
  phase := fun token drawn =>
    (second.phase token (first.drawn token drawn)).trans (first.phase token drawn)
  seen := second.seen.trans first.seen

theorem LeaseWorld.Unchanged.found (unchanged : world.Unchanged process)
    (seen : world.seen process = some record) :
    ∃ token, world.file = some ⟨token, some record⟩ := by
  rcases unchanged with ⟨token, current, found, isCurrent⟩
  rw [seen, Option.some.injEq] at isCurrent
  exact ⟨token, isCurrent ▸ found⟩

theorem LeaseInvariant.after (holds : LeaseInvariant ttlSecs world) (later : world.clock ≤ now)
    (allowed : world.Allows now op answer)
    (steady : SteadyLease ttlSecs process world now op answer)
    (ready : world.Ready ttlSecs process op) :
    LeaseInvariant ttlSecs ((world.tick ttlSecs now).after process op answer) := by
  have ticked : LeaseInvariant ttlSecs (world.tick ttlSecs now) := holds.tick
  cases op with
  | createParentDir | nowUnixSecs | spawnHeartbeat => exact ticked
  | newToken => exact ticked.newToken
  | createNew token =>
      cases answer with
      | created => exact ticked.createNew allowed ready
      | alreadyExists | failed => exact ticked
  | write record =>
      cases answer with
      | ok => exact ticked.write ready.2 ready.1
      | error => exact ticked
  | read =>
      cases answer with
      | record =>
          exact ⟨ticked.creating, ticked.covered, ticked.ownToken, ticked.timely, ticked.undrawn⟩
      | unparsable | failed => exact ticked
  | replace record =>
      cases answer with
      | ok =>
          rcases ready with ⟨current, seen, own⟩
          rcases LeaseWorld.Unchanged.found steady seen with ⟨token, found⟩
          exact ticked.replace found own
      | error => exact ticked
  | remove =>
      cases answer with
      | removed =>
          rcases ready with ⟨current, seen, free⟩
          rcases steady.1.found seen with ⟨token, found⟩
          apply ticked.remove found
          rcases free with stale | dropped
          · exact ticked.not_covered_of_stale found steady.2 (Nat.lt_of_lt_of_le stale later)
          · intro covered
            simpa [dropped, LeasePhase.isLive] using covered.of_tick.1.1
      | notFound | failed => exact ticked
  | acquired token => exact ticked.acquired ready.2 ready.1
  | dropped token => exact ticked.dropped ready

theorem LeaseWorld.tick_keeps (later : world.clock ≤ now) :
    world.Keeps process (world.tick ttlSecs now) where
  clock := later
  drawn := fun _ drawn => drawn
  phase := fun _ _ => rfl
  seen := rfl

theorem LeaseWorld.Ready.tick (ready : world.Ready ttlSecs process op) (later : world.clock ≤ now) :
    (world.tick ttlSecs now).Ready ttlSecs process op := by
  cases op
  case remove =>
    rcases ready with ⟨current, seen, free⟩
    exact ⟨current, seen, free.imp_left fun stale => Nat.lt_of_lt_of_le stale later⟩
  all_goals exact ready

/-- A phase that changes belongs to a token of somebody else. -/
theorem LeaseWorld.Keeps.of_update {phase : LeasePhase} {file : Option LeaseFile} {lastWrite : ℕ}
    {writtenAt : LeaseToken → ℕ} (differs : process ≠ other)
    (drawn : world.drawn token = some process) :
    world.Keeps other
      { world with
        file := file
        lastWrite := lastWrite
        phase := Function.update world.phase token phase
        writtenAt := writtenAt } where
  clock := le_refl _
  drawn := fun _ drawn => drawn
  phase := by
    intro own isOwn
    have apart : own ≠ token := by
      rintro rfl
      rw [drawn, Option.some.injEq] at isOwn
      exact differs isOwn
    simp [apart]
  seen := rfl

/-- A call leaves alone what belongs to other processes. -/
theorem LeaseWorld.Keeps.of_after (differs : process ≠ other) (allowed : world.Allows now op answer)
    (ready : world.Ready ttlSecs process op) :
    world.Keeps other (world.after process op answer) := by
  cases op with
  | createParentDir | nowUnixSecs | spawnHeartbeat => exact .refl world
  | newToken =>
      constructor
      case clock => exact le_refl _
      case drawn =>
        intro own isOwn
        have apart : own ≠ answer := by
          rintro rfl
          simp [show world.drawn own = none from allowed] at isOwn
        exact (Function.update_of_ne apart (some process) world.drawn).trans isOwn
      case phase => exact fun _ _ => rfl
      case seen => rfl
  | createNew token =>
      cases answer with
      | created => exact .of_update differs ready
      | alreadyExists | failed => exact .refl world
  | write record =>
      cases answer with
      | ok => exact .of_update differs ready.1
      | error => exact .refl world
  | read =>
      cases answer with
      | record =>
          exact ⟨le_refl _, fun _ drawn => drawn, fun _ _ => rfl, by
            simp [LeaseWorld.after, differs.symm]⟩
      | unparsable | failed => exact .refl world
  | replace | remove =>
      cases answer <;> exact ⟨le_refl _, fun _ drawn => drawn, fun _ _ => rfl, rfl⟩
  | acquired token => exact .of_update differs ready.1
  | dropped token => exact .of_update differs ready

end Call

/-! ## The programs of a process -/

/-- The process drew the token, and the token has come this far. -/
def LeaseWorld.Owns (world : LeaseWorld) (process : LeaseProcess) (token : LeaseToken)
    (phase : LeasePhase) : Prop :=
  world.drawn token = some process ∧ world.phase token = phase

section Programs

variable {now : ℕ} {later : LeaseWorld}
variable {phase : LeasePhase} {config : ActiveLeaseConfig}

/-- The process keeps its contract and ends as the postcondition states. -/
abbrev SafeLease {α : Type} (ttlSecs : ℕ) (process : LeaseProcess) (program : Lease α)
    (post : α → LeaseWorld → Prop) (world : LeaseWorld) : Prop :=
  Ensures (steadyLeaseEnvironment ttlSecs) (leaseContract ttlSecs) process program post world

theorem LeaseWorld.Keeps.owns (kept : world.Keeps process later)
    (owns : world.Owns process token phase) :
    later.Owns process token phase :=
  ⟨kept.drawn token owns.1, (kept.phase token owns.1).trans owns.2⟩

theorem safe_leaseCall (op : LeaseOp) {post : op.Answer → LeaseWorld → Prop}
    (ready : world.Ready ttlSecs process op)
    (continues : ∀ now answer later, world.clock ≤ now → world.Allows now op answer →
      ((world.tick ttlSecs now).after process op answer).Keeps process later →
        LeaseInvariant ttlSecs later → post answer later) :
    SafeLease ttlSecs process (leaseCall op) post world := by
  intro answer after responds
  rcases responds with ⟨now, inOrder, allowed, steady, rfl⟩
  refine ⟨⟨?_, fun holds => holds.after inOrder allowed steady ready⟩, ?_⟩
  · intro other differs
    have ticked : world.Keeps other (world.tick ttlSecs now) := LeaseWorld.tick_keeps inOrder
    have allowedTicked : (world.tick ttlSecs now).Allows now op answer := by
      cases op <;> exact allowed
    exact ticked.trans (.of_after differs allowedTicked (ready.tick inOrder))
  · intro later kept holds
    exact continues now answer later inOrder allowed kept holds

/-- Calls that change neither tokens nor phases. -/
def LeaseOp.IsQuiet : LeaseOp → Prop
  | .newToken | .createNew _ | .write _ | .acquired _ | .dropped _ => False
  | _ => True

theorem LeaseWorld.Owns.after {answer : op.Answer} (owns : world.Owns process token phase)
    (kept : ((world.tick ttlSecs now).after process op answer).Keeps process later)
    (quiet : op.IsQuiet) :
    later.Owns process token phase := by
  refine kept.owns ?_
  cases op with
  | createParentDir | nowUnixSecs | spawnHeartbeat => exact owns
  | read | replace | remove => cases answer <;> exact owns
  | newToken | createNew | write | acquired | dropped => exact quiet.elim

section Rules

variable {α : Type} (op : LeaseOp)

theorem safe_leaseCall_bind {next : op.Answer → Lease α} {post : α → LeaseWorld → Prop}
    (ready : world.Ready ttlSecs process op)
    (continues : ∀ now answer later, world.clock ≤ now → world.Allows now op answer →
      ((world.tick ttlSecs now).after process op answer).Keeps process later →
        LeaseInvariant ttlSecs later → SafeLease ttlSecs process (next answer) post later) :
    SafeLease ttlSecs process (leaseCall op >>= next) post world :=
  ensures_bind.mpr (safe_leaseCall op ready continues)

theorem safe_leaseCall_bindLift {next : op.Answer → LeaseResult α}
    {post : Except UnderlayError α → LeaseWorld → Prop} (ready : world.Ready ttlSecs process op)
    (continues : ∀ now answer later, world.clock ≤ now → world.Allows now op answer →
      ((world.tick ttlSecs now).after process op answer).Keeps process later →
        LeaseInvariant ttlSecs later → SafeLease ttlSecs process (next answer).run post later) :
    SafeLease ttlSecs process
      ((ExceptT.lift (leaseCall op) : LeaseResult op.Answer) >>= next).run post world :=
  (safe_leaseCall op ready continues).bindLift fun _ _ safe => safe

end Rules

theorem safe_readLeaseRecord {path : String} (owns : world.Owns process token phase) :
    SafeLease ttlSecs process (readLeaseRecord path).run
      (fun result later => later.Owns process token phase ∧
        ∀ record, result = .ok record → later.seen process = some record) world := by
  apply safe_leaseCall_bind .read trivial
  intro now answer later inOrder allowed kept holds
  have owned : later.Owns process token phase := owns.after kept trivial
  cases answer with
  | record found =>
      refine ⟨owned, ?_⟩
      rintro record ⟨⟩
      rw [kept.seen]
      simp [LeaseWorld.after]
  | unparsable | failed => exact ⟨owned, nofun⟩

theorem safe_leaseIsStale (owns : world.Owns process token phase)
    (seen : world.seen process = some current) :
    SafeLease ttlSecs process (leaseIsStale record ttlSecs)
      (fun stale later => later.Owns process token phase ∧ later.seen process = some current ∧
        (stale = true → record.updatedAtUnixSecs + ttlSecs < later.clock)) world := by
  apply safe_leaseCall_bind .nowUnixSecs trivial
  intro now answer later inOrder allowed kept holds
  refine ⟨owns.after kept trivial, kept.seen.trans seen, ?_⟩
  intro stale
  have isNow : answer = now := allowed
  have elapsed : now - record.updatedAtUnixSecs > ttlSecs := isNow ▸ of_decide_eq_true stale
  have reached : now ≤ later.clock := kept.clock
  omega

theorem safe_createLeaseFile (owns : world.Owns process record.token .idle) :
    SafeLease ttlSecs process (createLeaseFile record)
      (fun answer later => match answer with
        | .created => later.Owns process record.token .written
        | .alreadyExists _ => later.Owns process record.token .idle
        | .failed _ => True) world := by
  apply safe_leaseCall_bind (.createNew record.token) owns.1
  intro now answer later inOrder allowed kept holds
  cases answer with
  | created =>
      have creating : later.Owns process record.token .creating :=
        kept.owns ⟨owns.1, by simp [LeaseWorld.after]⟩
      apply safe_leaseCall_bind (.write record) creating
      intro now answer last inOrder allowed kept holds
      cases answer with
      | ok => exact kept.owns ⟨creating.1, by simp [LeaseWorld.after]⟩
      | error => exact trivial
  | alreadyExists => exact kept.owns owns
  | failed => exact trivial

/-- Removing the lease that the process read, for one of the two reasons it may have. -/
theorem safe_remove (owns : world.Owns process token phase)
    (seen : world.seen process = some current)
    (free : current.updatedAtUnixSecs + ttlSecs < world.clock ∨
      world.phase current.token = .dropped) :
    SafeLease ttlSecs process (leaseCall .remove)
      (fun _ later => later.Owns process token phase) world := by
  apply safe_leaseCall .remove ⟨current, seen, free⟩
  intro now answer later inOrder allowed kept holds
  exact owns.after kept trivial

theorem safe_removeStaleLease (owns : world.Owns process token phase)
    (seen : world.seen process = some current)
    (stale : current.updatedAtUnixSecs + ttlSecs < world.clock) :
    SafeLease ttlSecs process removeStaleLease.run
      (fun _ later => later.Owns process token phase) world := by
  apply (safe_remove owns seen (.inl stale)).bind
  intro answer later owned
  cases answer <;> exact owned

theorem safe_releaseLeaseIfCurrent {path : String} (owns : world.Owns process token .dropped) :
    SafeLease ttlSecs process (releaseLeaseIfCurrent path token) (fun _ _ => True) world := by
  apply (safe_readLeaseRecord owns).bind
  intro result later reached
  rcases reached with ⟨owned, seen⟩
  cases result with
  | error => exact trivial
  | ok record =>
      by_cases current : record.token = token
      · simp only [current, if_true]
        have free : later.phase record.token = .dropped := current ▸ owned.2
        exact (safe_remove owned (seen record rfl) (.inr free)).bind fun _ _ _ => trivial
      · simp only [current, if_false]
        exact trivial

theorem safe_fromAcquired {acquiredAtUnixSecs : ℕ} (owns : world.Owns process token .written) :
    SafeLease ttlSecs process (ActiveLeaseGuard.fromAcquired config token acquiredAtUnixSecs).run
      (fun result later => ∀ guard, result = .ok guard →
        later.Owns process guard.token .written) world := by
  apply safe_leaseCall_bind .spawnHeartbeat trivial
  intro now answer later inOrder allowed kept holds
  have owned : later.Owns process token .written := owns.after kept trivial
  cases answer with
  | ok =>
      rintro guard ⟨⟩
      exact owned
  | error =>
      apply safe_leaseCall_bind (.dropped token) owned.1
      intro now answer last inOrder allowed kept holds
      cases answer
      have dropped : last.Owns process token .dropped :=
        kept.owns ⟨owned.1, by simp [LeaseWorld.after]⟩
      exact (safe_releaseLeaseIfCurrent dropped).bind fun _ _ _ => nofun

theorem safe_takeOver (common : config.ttlSecs = ttlSecs)
    (owns : world.Owns process record.token .idle) :
    SafeLease ttlSecs process (ActiveLeaseGuard.takeOver config record).run
      (fun result later => ∀ guard, result = .ok guard →
        later.Owns process guard.token .written) world := by
  subst common
  apply (safe_readLeaseRecord owns).bindResult
  · intro current later reached
    apply (safe_leaseIsStale reached.1 (reached.2 current rfl)).bindLift
    intro stale later reached
    rcases reached with ⟨owned, seen, aged⟩
    cases stale with
    | false => exact nofun
    | true =>
        apply (safe_removeStaleLease owned seen (aged rfl)).bindResult
        · intro _ later owned
          apply (safe_createLeaseFile owned).bindLift
          intro answer later created
          cases answer with
          | created => exact safe_fromAcquired created
          | alreadyExists | failed => exact nofun
        · exact fun _ _ _ => nofun
  · exact fun _ _ _ => nofun

theorem safe_acquireLease (common : config.ttlSecs = ttlSecs) :
    SafeLease ttlSecs process (ActiveLeaseGuard.acquire config).run
      (fun result later => ∀ guard, result = .ok guard →
        later.Owns process guard.token .written) world := by
  rw [ActiveLeaseGuard.acquire, ExceptT.run_bind, ExceptT.run_mk, pure_bind]
  cases config.validate with
  | error => exact nofun
  | ok =>
      apply safe_leaseCall_bindLift .createParentDir trivial
      intro now answer later inOrder allowed kept holds
      cases answer with
      | error => exact nofun
      | ok =>
          apply safe_leaseCall_bindLift .newToken trivial
          intro now (token : LeaseToken) later' inOrder fresh kept holdsLater
          have owned : later'.Owns process token .idle := by
            refine kept.owns ⟨?_, holds.undrawn token fresh⟩
            exact Function.update_self token (some process) later.drawn
          apply safe_leaseCall_bindLift .nowUnixSecs trivial
          intro now time later'' inOrder allowed kept holds
          have owned : later''.Owns process token .idle := owned.after kept trivial
          apply (safe_createLeaseFile owned).bindLift
          intro answer last created
          cases answer with
          | created => exact safe_fromAcquired created
          | alreadyExists => exact safe_takeOver common created
          | failed => exact nofun

theorem safe_refreshLeaseRecord {path ownerId : String} {acquiredAtUnixSecs : ℕ}
    (owns : world.Owns process token phase) :
    SafeLease ttlSecs process
      (refreshLeaseRecord path ownerId token acquiredAtUnixSecs).run
      (fun _ later => later.Owns process token phase) world := by
  apply (safe_readLeaseRecord owns).bindResult
  · intro current later reached
    by_cases own : current.token = token
    · simp only [own, if_true]
      apply safe_leaseCall_bindLift .nowUnixSecs trivial
      intro now time middle inOrder allowed kept holds
      have seen : middle.seen process = some current :=
        kept.seen.trans (reached.2 current rfl)
      have owned : middle.Owns process token phase := reached.1.after kept trivial
      apply safe_leaseCall_bind (.replace _) ⟨current, seen, own⟩
      intro now answer last inOrder allowed kept holds
      have owned : last.Owns process token phase := owned.after kept trivial
      cases answer <;> exact owned
    · simp only [own, if_false]
      exact reached.1
  · exact fun _ _ reached => reached.1

variable {guard : ActiveLeaseGuard}

theorem safe_ensureCurrent (owns : world.Owns process token phase) :
    SafeLease ttlSecs process guard.ensureCurrent.run
      (fun _ later => later.Owns process token phase) world := by
  apply (safe_readLeaseRecord owns).bindResult
  · intro record later reached
    by_cases own : record.token = guard.token
    · simp only [own, if_true]
      have checks : SafeLease ttlSecs process (leaseIsStale record guard.ttlSecs)
          (fun _ last => last.Owns process token phase) later := by
        apply safe_leaseCall_bind .nowUnixSecs trivial
        intro now answer last inOrder allowed kept holds
        exact reached.1.after kept trivial
      apply checks.bindLift
      intro stale last owned
      cases stale <;> exact owned
    · simp only [own, if_false]
      exact reached.1
  · exact fun _ _ reached => reached.1

theorem safe_act {action : GuardAction} (owns : world.Owns process guard.token phase) :
    SafeLease ttlSecs process (guard.act action)
      (fun _ later => later.Owns process guard.token phase) world := by
  cases action with
  | heartbeat => exact (safe_refreshLeaseRecord owns).bind fun _ _ owned => owned
  | ensureCurrent => exact (safe_ensureCurrent owns).bind fun _ _ owned => owned

theorem safe_actions {actions : List GuardAction} (owns : world.Owns process guard.token phase) :
    SafeLease ttlSecs process (actions.forM guard.act)
      (fun _ later => later.Owns process guard.token phase) world := by
  induction actions generalizing world with
  | nil => exact owns
  | cons action actions ih => exact (safe_act owns).bind fun _ _ owned => ih owned

theorem safe_drop (owns : world.Owns process guard.token phase) :
    SafeLease ttlSecs process guard.drop (fun _ _ => True) world := by
  apply safe_leaseCall_bind (.dropped guard.token) owns.1
  intro now answer later inOrder allowed kept holds
  cases answer
  have dropped : later.Owns process guard.token .dropped :=
    kept.owns ⟨owns.1, by simp [LeaseWorld.after]⟩
  exact safe_releaseLeaseIfCurrent dropped

theorem safe_holdLease {actions : List GuardAction} (common : config.ttlSecs = ttlSecs) :
    SafeLease ttlSecs process (holdLease config actions) (fun _ _ => True) world := by
  apply (safe_acquireLease common).bind
  intro result later acquired
  cases result with
  | error => exact trivial
  | ok guard =>
      have written := acquired guard rfl
      apply safe_leaseCall_bind (.acquired guard.token) written
      intro now answer last inOrder allowed kept holds
      cases answer
      have held : last.Owns process guard.token .held :=
        kept.owns ⟨written.1, by simp [LeaseWorld.after]⟩
      exact (safe_actions held).bind fun _ _ owned => safe_drop owned

end Programs

/-! ## All processes -/

theorem leaseContract_sound (ttlSecs : ℕ) :
    (leaseContract ttlSecs).Sound (steadyLeaseEnvironment ttlSecs) (HoldsLease ttlSecs) where
  rely_refl := fun _ world => .refl world
  rely_trans := fun _ _ _ _ first second => first.trans second
  guarantee_rely := fun _ other _ _ differs kept => kept.1 other differs
  guarantee_invariant := fun _ _ _ holds kept => kept.2 holds
  restart_invariant := fun _ holds => holds
  entry_ensures := by
    rintro program ⟨config, actions, common, rfl⟩ process world -
    exact safe_holdLease common

theorem leaseInvariant_initial (ttlSecs : ℕ) : LeaseInvariant ttlSecs .initial where
  creating := nofun
  covered := by
    rintro token ⟨live, -⟩
    cases live
  ownToken := nofun
  timely := by
    rintro token ⟨live, -⟩
    cases live
  undrawn := fun _ _ => rfl

theorem LeaseInvariant.of_reachable {pool : Pool leaseSignature LeaseProcess LeaseWorld}
    (reachable : Pool.Reachable (steadyLeaseEnvironment ttlSecs) (HoldsLease ttlSecs) .initial
      pool) :
    LeaseInvariant ttlSecs pool.world :=
  (leaseContract_sound ttlSecs).invariant (leaseInvariant_initial ttlSecs) reachable

/-- The file can have the record of one covered token only. -/
theorem LeaseInvariant.covered_unique {other : LeaseToken} (holds : LeaseInvariant ttlSecs world)
    (covered : world.Covered token) (otherCovered : world.Covered other) :
    other = token := by
  rcases holds.covered token covered with ⟨record, found⟩
  rw [holds.eq_of_found found otherCovered, holds.ownToken token record found]

theorem LeaseWorld.Fresh.covered (fresh : world.Fresh token) :
    world.Covered token :=
  ⟨by rw [fresh.1]; rfl, fresh.2⟩

/-- A guard comes into use by the return of its acquire only. -/
theorem LeaseWorld.held_of_after {answer : op.Answer}
    (held : (world.after process op answer).phase token = .held) :
    world.phase token = .held ∨ op = .acquired token := by
  cases op with
  | createParentDir | nowUnixSecs | spawnHeartbeat | newToken => exact .inl held
  | read | replace | remove => cases answer <;> exact .inl held
  | createNew other | write other =>
      left
      cases answer <;> simp only [LeaseWorld.after, Function.update_apply] at held <;>
        first | exact held | (split at held; cases held; exact held)
  | dropped other =>
      left
      cases answer
      simp only [LeaseWorld.after, Function.update_apply] at held
      split at held
      · cases held
      · exact held
  | acquired other =>
      cases answer
      simp only [LeaseWorld.after, Function.update_apply] at held
      split at held
      · rename_i same
        exact .inr (same ▸ rfl)
      · exact .inl held

theorem covered_of_acquired {pool next : Pool leaseSignature LeaseProcess LeaseWorld}
    (step : Pool.Step (steadyLeaseEnvironment ttlSecs) (HoldsLease ttlSecs) pool next)
    (notHeld : pool.world.phase token ≠ .held) (held : next.world.phase token = .held) :
    next.world.Covered token := by
  cases step with
  | spawn | finish | crash => exact absurd held notHeld
  | @run process op continuation answer after waiting responds =>
      rcases responds with ⟨now, inOrder, allowed, steady, rfl⟩
      rcases LeaseWorld.held_of_after held with wasHeld | rfl
      · exact absurd wasHeld notHeld
      · exact ⟨by rw [held]; rfl, steady⟩

/-! ## Two processes that take over one stale lease -/

/-- The configuration of a standby. -/
def standbyConfig : ActiveLeaseConfig where
  path := "/var/lib/aria-underlay/active.lease"
  ownerId := "standby"
  ttlSecs := 30
  heartbeatIntervalSecs := 10

/-- File operations succeed, at the given time and with the given token for a process that draws
one. -/
def leaseAnswers (process : LeaseProcess) (input : ℕ × LeaseToken) (world : LeaseWorld)
    (op : LeaseOp) : Option (op.Answer × LeaseWorld) :=
  if world.clock ≤ input.1 ∧ world.drawn input.2 = none then
    let answer := world.answer input.1 input.2 op
    some (answer, (world.tick standbyConfig.ttlSecs input.1).after process op answer)
  else
    none

theorem leaseAnswers_conform {input : ℕ × LeaseToken} {response : op.Answer × LeaseWorld}
    (answered : leaseAnswers process input world op = some response) :
    (leaseEnvironment standbyConfig.ttlSecs).respond process world op response.1 response.2 := by
  simp only [leaseAnswers] at answered
  split at answered
  · rename_i possible
    cases answered
    exact ⟨input.1, possible.1, LeaseWorld.allows_answer possible.2 op, rfl⟩
  · cases answered

/-- The answers to steady calls. -/
def steadyLeaseAnswers (process : LeaseProcess) (input : ℕ × LeaseToken) (world : LeaseWorld)
    (op : LeaseOp) : Option (op.Answer × LeaseWorld) :=
  (leaseAnswers process input world op).filter fun response =>
    decide (SteadyLease standbyConfig.ttlSecs process world input.1 op response.1)

theorem steadyLeaseAnswers_conform {input : ℕ × LeaseToken} {response : op.Answer × LeaseWorld}
    (answered : steadyLeaseAnswers process input world op = some response) :
    (steadyLeaseEnvironment standbyConfig.ttlSecs).respond process world op response.1
      response.2 := by
  simp only [steadyLeaseAnswers, Option.filter_eq_some_iff, decide_eq_true_eq] at answered
  rcases answered with ⟨answered, steady⟩
  simp only [leaseAnswers] at answered
  split at answered
  · rename_i possible
    cases answered
    exact ⟨input.1, possible.1, LeaseWorld.allows_answer possible.2 op, steady, rfl⟩
  · cases answered

def drawLeaseToken (process : LeaseProcess) (now : ℕ) (token : LeaseToken) :
    List (Move LeaseProcess (ℕ × LeaseToken) Unit) :=
  [.spawn process (), .run process (now, ""), .run process (now, token)]

/-- A number of calls at one time. -/
def leaseCalls (process : LeaseProcess) (now count : ℕ) :
    List (Move LeaseProcess (ℕ × LeaseToken) Unit) :=
  List.replicate count (.run process (now, ""))

/-- A process acquires the lease and stops.  A hundred seconds later two others read its record;
then the first of them takes the lease over, and the second one after it. -/
def doubleTakeover : List (Move LeaseProcess (ℕ × LeaseToken) Unit) :=
  drawLeaseToken 0 0 "stopped" ++ leaseCalls 0 0 5 ++
    drawLeaseToken 1 100 "first" ++ leaseCalls 1 100 4 ++
    drawLeaseToken 2 100 "second" ++ leaseCalls 2 100 4 ++
    leaseCalls 1 100 5 ++ leaseCalls 2 100 5

/-- Both hold a fresh lease, and the file has the record of the second one. -/
theorem fresh_lease_displaced :
    ∃ pool, Pool.Reachable (leaseEnvironment standbyConfig.ttlSecs)
        (HoldsLease standbyConfig.ttlSecs) .initial pool ∧
      pool.world.Fresh "first" ∧ ¬pool.world.Contains "first" ∧ pool.world.Fresh "second" := by
  let ran := (Pool.idle LeaseWorld.initial).moves (leaseEnvironment standbyConfig.ttlSecs)
    leaseAnswers (fun _ : Unit => holdLease standbyConfig []) doubleTakeover
  have ends : (ran.map fun pool =>
      (pool.world.phase "first", pool.world.lapsed "first", pool.world.phase "second",
        pool.world.lapsed "second", pool.world.file.bind LeaseFile.content |>.map (·.token))) =
      some (.held, false, .held, false, some "second") := by
    decide +kernel
  rcases Option.map_eq_some_iff.mp ends with ⟨pool, isPool, facts⟩
  simp only [Prod.mk.injEq] at facts
  rcases facts with ⟨firstHeld, firstFresh, secondHeld, secondFresh, content⟩
  refine ⟨pool, ?_, ⟨firstHeld, firstFresh⟩, ?_, ⟨secondHeld, secondFresh⟩⟩
  · exact Pool.reachable_of_moves leaseAnswers_conform (fun _ => ⟨_, _, rfl, rfl⟩) .refl isPool
  · rintro ⟨file, record, found, written, isFirst⟩
    simp [found, written, isFirst] at content

/-- As long as every remove and replace finds the record that its process read, no lease in use is
removed for its date before its time, and acquires return in time: a guard in use whose lease was
never older than the ttl is the one in the file, and no other acquire returns a guard. -/
theorem fresh_lease_not_displaced (ttlSecs : ℕ) (pool : Pool leaseSignature LeaseProcess LeaseWorld)
    (reachable : Pool.Reachable (steadyLeaseEnvironment ttlSecs) (HoldsLease ttlSecs) .initial pool)
    (token : LeaseToken) (fresh : pool.world.Fresh token) :
    pool.world.Contains token ∧
      ∀ next, Pool.Step (steadyLeaseEnvironment ttlSecs) (HoldsLease ttlSecs) pool next →
        next.world.Fresh token → ∀ other, other ≠ token →
          pool.world.phase other ≠ .held → next.world.phase other ≠ .held := by
  constructor
  · have holds := LeaseInvariant.of_reachable reachable
    rcases holds.covered token fresh.covered with ⟨record, found⟩
    exact ⟨_, record, found, rfl, holds.ownToken token record found⟩
  · intro next step stillFresh other differs notHeld held
    have holds := LeaseInvariant.of_reachable (reachable.tail step)
    exact differs (holds.covered_unique stillFresh.covered (covered_of_acquired step notHeld held))

/-- A process acquires the lease and stops, and another takes it over while the clock moves on. -/
def singleTakeover : List (Move LeaseProcess (ℕ × LeaseToken) Unit) :=
  drawLeaseToken 0 0 "stopped" ++ leaseCalls 0 0 5 ++
    drawLeaseToken 1 100 "first" ++ leaseCalls 1 100 5 ++ leaseCalls 1 101 4

theorem fresh_lease_not_displaced_singleTakeover :
    ∃ pool, Pool.Reachable (steadyLeaseEnvironment standbyConfig.ttlSecs)
        (HoldsLease standbyConfig.ttlSecs) .initial pool ∧
      pool.world.Fresh "first" ∧ pool.world.Contains "first" := by
  let ran := (Pool.idle LeaseWorld.initial).moves (steadyLeaseEnvironment standbyConfig.ttlSecs)
    steadyLeaseAnswers (fun _ : Unit => holdLease standbyConfig []) singleTakeover
  have ends : (ran.map fun pool => (pool.world.phase "first", pool.world.lapsed "first")) =
      some (.held, false) := by
    decide +kernel
  rcases Option.map_eq_some_iff.mp ends with ⟨pool, isPool, facts⟩
  have fresh : pool.world.Fresh "first" := Prod.mk.inj facts
  have reachable : Pool.Reachable (steadyLeaseEnvironment standbyConfig.ttlSecs)
      (HoldsLease standbyConfig.ttlSecs) .initial pool :=
    Pool.reachable_of_moves steadyLeaseAnswers_conform (fun _ => ⟨_, _, rfl, rfl⟩) .refl isPool
  exact ⟨pool, reachable, fresh, (fresh_lease_not_displaced _ pool reachable _ fresh).1⟩

end AriaUnderlay
