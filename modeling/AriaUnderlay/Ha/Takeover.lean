import AriaUnderlay.Effect.Execution
import AriaUnderlay.Ha.LeaseSafety

/-!
# Taking over the lease of a process that is gone

A process may stop between any two of its file operations.  If it stops after it created the lease
file and before it wrote the content, the file stays empty: `read_lease_record` cannot parse it, and
every later acquire fails, however long ago that was.  Every other file that processes can leave
behind has a record that is no younger than the last write, and is taken over once the ttl has
passed.
-/

namespace AriaUnderlay

open Effect

/-! ## Records are no younger than the last write -/

/-- The record in the file was dated before it was written. -/
structure LeaseWorld.Dated (world : LeaseWorld) : Prop where
  lastWrite : world.lastWrite ≤ world.clock
  content : ∀ token record, world.file = some ⟨token, some record⟩ →
    record.updatedAtUnixSecs ≤ world.lastWrite

/-- A record is dated before it is handed to a file operation. -/
def LeaseWorld.Dates (world : LeaseWorld) : LeaseOp → Prop
  | .write record | .replace record => record.updatedAtUnixSecs ≤ world.clock
  | _ => True

def datedContract : Contract LeaseProcess LeaseWorld where
  guarantee := fun _ before after =>
    before.clock ≤ after.clock ∧ (before.Dated → after.Dated)
  rely := fun _ before after => before.clock ≤ after.clock
  invariant := LeaseWorld.Dated

/-- Processes that acquire, hold and drop the lease, each with its own configuration. -/
def UsesLease (program : Lease Unit) : Prop :=
  ∃ config actions, program = holdLease config actions

section Dated

variable {ttlSecs now : ℕ} {process : LeaseProcess} {world : LeaseWorld} {op : LeaseOp}
variable {answer : op.Answer}

theorem LeaseWorld.clock_after :
    (world.after process op answer).clock = world.clock := by
  cases op with
  | createParentDir | nowUnixSecs | spawnHeartbeat | newToken | acquired | dropped => rfl
  | createNew | write | read | replace | remove => cases answer <;> rfl

theorem LeaseWorld.Dated.tick (dated : world.Dated) (later : world.clock ≤ now) :
    (world.tick ttlSecs now).Dated where
  lastWrite := dated.lastWrite.trans later
  content := dated.content

theorem LeaseWorld.Dated.after (dated : world.Dated) (dates : world.Dates op) :
    (world.after process op answer).Dated := by
  cases op with
  | createParentDir | nowUnixSecs | spawnHeartbeat => exact dated
  | newToken | acquired | dropped => exact ⟨dated.lastWrite, dated.content⟩
  | createNew =>
      cases answer with
      | created => exact ⟨le_refl _, by simp [LeaseWorld.after]⟩
      | alreadyExists | failed => exact dated
  | write record =>
      cases answer with
      | ok =>
          refine ⟨le_refl _, fun token found isFile => ?_⟩
          simp only [LeaseWorld.after] at isFile
          split at isFile
          · cases isFile
            exact dates
          · exact (dated.content token found isFile).trans dated.lastWrite
      | error => exact dated
  | read =>
      cases answer with
      | record => exact ⟨dated.lastWrite, dated.content⟩
      | unparsable | failed => exact dated
  | replace record =>
      cases answer with
      | ok =>
          refine ⟨le_refl _, fun token found isFile => ?_⟩
          cases isFile
          exact dates
      | error => exact dated
  | remove =>
      cases answer with
      | removed => exact ⟨dated.lastWrite, by simp [LeaseWorld.after]⟩
      | notFound | failed => exact dated

theorem LeaseWorld.Dates.tick (dates : world.Dates op) (later : world.clock ≤ now) :
    (world.tick ttlSecs now).Dates op := by
  cases op with
  | write | replace => exact Nat.le_trans dates later
  | createParentDir | nowUnixSecs | spawnHeartbeat | newToken | acquired | dropped | createNew
  | read | remove => exact trivial

end Dated

variable {record : ActiveLeaseRecord} {token : LeaseToken} {acquiredAtUnixSecs : ℕ}

section Programs

variable {ttlSecs : ℕ} {process : LeaseProcess} {world : LeaseWorld}
variable {config : ActiveLeaseConfig}

/-- The process dates its records before it writes them, and ends as the postcondition states. -/
abbrev DatesRecords {α : Type} (ttlSecs : ℕ) (process : LeaseProcess) (program : Lease α)
    (post : α → LeaseWorld → Prop) (world : LeaseWorld) : Prop :=
  Ensures (leaseEnvironment ttlSecs) datedContract process program post world

theorem dates_leaseCall (op : LeaseOp) (dates : world.Dates op) :
    DatesRecords ttlSecs process (leaseCall op)
      (fun answer later => world.clock ≤ later.clock ∧
        ∃ now, world.Allows now op answer ∧ now ≤ later.clock) world := by
  intro answer after responds
  rcases responds with ⟨now, inOrder, allowed, rfl⟩
  have reached : ((world.tick ttlSecs now).after process op answer).clock = now :=
    LeaseWorld.clock_after
  refine ⟨⟨?_, fun dated => (dated.tick inOrder).after (dates.tick inOrder)⟩, ?_⟩
  · rw [reached]
    exact inOrder
  · intro later relied _
    have notBefore : now ≤ later.clock := reached ▸ relied
    exact ⟨inOrder.trans notBefore, now, allowed, notBefore⟩

theorem dates_readLeaseRecord {path : String} :
    DatesRecords ttlSecs process (readLeaseRecord path).run
      (fun _ later => world.clock ≤ later.clock) world := by
  apply (dates_leaseCall .read trivial).bind
  intro answer later reached
  cases answer <;> exact reached.1

theorem dates_leaseIsStale {ttl : ℕ} :
    DatesRecords ttlSecs process (leaseIsStale record ttl)
      (fun _ later => world.clock ≤ later.clock) world := by
  apply (dates_leaseCall .nowUnixSecs trivial).bind
  exact fun _ _ reached => reached.1

theorem dates_createLeaseFile (dated : record.updatedAtUnixSecs ≤ world.clock) :
    DatesRecords ttlSecs process (createLeaseFile record)
      (fun _ later => world.clock ≤ later.clock) world := by
  apply (dates_leaseCall (.createNew record.token) trivial).bind
  intro answer later reached
  cases answer with
  | created =>
      apply (dates_leaseCall (.write record) (dated.trans reached.1)).bind
      intro answer last reachedLast
      cases answer <;> exact reached.1.trans reachedLast.1
  | alreadyExists | failed => exact reached.1

theorem dates_releaseLeaseIfCurrent {path : String} :
    DatesRecords ttlSecs process (releaseLeaseIfCurrent path token) (fun _ _ => True) world := by
  apply dates_readLeaseRecord.bind
  intro result later _
  cases result with
  | error => exact trivial
  | ok record =>
      by_cases current : record.token = token
      · simp only [current, if_true]
        exact (dates_leaseCall .remove trivial).bind fun _ _ _ => trivial
      · simp only [current, if_false]
        exact trivial

theorem dates_fromAcquired :
    DatesRecords ttlSecs process
      (ActiveLeaseGuard.fromAcquired config token acquiredAtUnixSecs).run (fun _ _ => True)
      world := by
  apply (dates_leaseCall .spawnHeartbeat trivial).bind
  intro answer later _
  cases answer with
  | ok => exact trivial
  | error =>
      apply (dates_leaseCall (.dropped token) trivial).bind
      exact fun _ _ _ => dates_releaseLeaseIfCurrent.bind fun _ _ _ => trivial

theorem dates_takeOver (dated : record.updatedAtUnixSecs ≤ world.clock) :
    DatesRecords ttlSecs process (ActiveLeaseGuard.takeOver config record).run
      (fun _ _ => True) world := by
  apply dates_readLeaseRecord.bindResult
  · intro current later reached
    apply dates_leaseIsStale.bindLift
    intro stale middle reachedMiddle
    cases stale with
    | false => exact trivial
    | true =>
        have removes : DatesRecords ttlSecs process removeStaleLease.run
            (fun _ last => middle.clock ≤ last.clock) middle := by
          apply (dates_leaseCall .remove trivial).bind
          intro answer last reachedLast
          cases answer <;> exact reachedLast.1
        apply removes.bindResult
        · intro _ last reachedLast
          have datedLast : record.updatedAtUnixSecs ≤ last.clock :=
            dated.trans (reached.trans (reachedMiddle.trans reachedLast))
          apply (dates_createLeaseFile datedLast).bindLift
          intro answer _ _
          cases answer with
          | created => exact dates_fromAcquired
          | alreadyExists | failed => exact trivial
        · exact fun _ _ _ => trivial
  · exact fun _ _ _ => trivial

theorem dates_acquire :
    DatesRecords ttlSecs process (ActiveLeaseGuard.acquire config).run (fun _ _ => True)
      world := by
  rw [ActiveLeaseGuard.acquire, ExceptT.run_bind, ExceptT.run_mk, pure_bind]
  cases config.validate with
  | error => exact trivial
  | ok =>
      apply (dates_leaseCall .createParentDir trivial).bindLift
      intro answer later _
      cases answer with
      | error => exact trivial
      | ok =>
          apply (dates_leaseCall .newToken trivial).bindLift
          intro token later _
          apply (dates_leaseCall .nowUnixSecs trivial).bindLift
          intro (time : ℕ) later reached
          rcases reached with ⟨-, now, isNow, notBefore⟩
          have dated : time ≤ later.clock := Nat.le_trans (Nat.le_of_eq isNow) notBefore
          apply (dates_createLeaseFile dated).bindLift
          intro answer last reachedLast
          cases answer with
          | created => exact dates_fromAcquired
          | alreadyExists => exact dates_takeOver (dated.trans reachedLast)
          | failed => exact trivial

theorem dates_refreshLeaseRecord {path ownerId : String} :
    DatesRecords ttlSecs process (refreshLeaseRecord path ownerId token acquiredAtUnixSecs).run
      (fun _ _ => True) world := by
  refine dates_readLeaseRecord.bindResult ?_ fun _ _ _ => trivial
  intro current later _
  by_cases own : current.token = token
  · simp only [own, if_true]
    apply (dates_leaseCall .nowUnixSecs trivial).bindLift
    intro (time : ℕ) middle reached
    rcases reached with ⟨-, now, isNow, notBefore⟩
    have dated : middle.Dates (.replace ⟨ownerId, token, acquiredAtUnixSecs, time⟩) :=
      Nat.le_trans (Nat.le_of_eq isNow) notBefore
    apply (dates_leaseCall _ dated).bind
    intro answer last _
    cases answer <;> exact trivial
  · simp only [own, if_false]
    exact trivial

theorem dates_ensureCurrent {guard : ActiveLeaseGuard} :
    DatesRecords ttlSecs process guard.ensureCurrent.run (fun _ _ => True) world := by
  refine dates_readLeaseRecord.bindResult ?_ fun _ _ _ => trivial
  intro record later _
  by_cases own : record.token = guard.token
  · simp only [own, if_true]
    apply dates_leaseIsStale.bindLift
    intro stale last _
    cases stale <;> exact trivial
  · simp only [own, if_false]
    exact trivial

theorem dates_actions {guard : ActiveLeaseGuard} {actions : List GuardAction} :
    DatesRecords ttlSecs process (actions.forM guard.act) (fun _ _ => True) world := by
  induction actions generalizing world with
  | nil => exact trivial
  | cons action actions ih =>
      have acts : DatesRecords ttlSecs process (guard.act action) (fun _ _ => True) world := by
        cases action with
        | heartbeat => exact dates_refreshLeaseRecord.bind fun _ _ _ => trivial
        | ensureCurrent => exact dates_ensureCurrent.bind fun _ _ _ => trivial
      exact acts.bind fun _ _ _ => ih

theorem dates_holdLease {actions : List GuardAction} :
    DatesRecords ttlSecs process (holdLease config actions) (fun _ _ => True) world := by
  apply dates_acquire.bind
  intro result later _
  cases result with
  | error => exact trivial
  | ok guard =>
      apply (dates_leaseCall (.acquired guard.token) trivial).bind
      intro _ _ _
      apply dates_actions.bind
      intro _ _ _
      apply (dates_leaseCall (.dropped guard.token) trivial).bind
      exact fun _ _ _ => dates_releaseLeaseIfCurrent

end Programs

theorem datedContract_sound (ttlSecs : ℕ) :
    datedContract.Sound (leaseEnvironment ttlSecs) UsesLease where
  rely_refl := fun _ _ => le_refl _
  rely_trans := fun _ _ _ _ => Nat.le_trans
  guarantee_rely := fun _ _ _ _ _ kept => kept.1
  guarantee_invariant := fun _ _ _ dated kept => kept.2 dated
  restart_invariant := fun _ dated => dated
  entry_ensures := by
    rintro program ⟨config, actions, rfl⟩ process world -
    exact dates_holdLease

theorem LeaseWorld.Dated.of_reachable {ttlSecs : ℕ}
    {pool : Pool leaseSignature LeaseProcess LeaseWorld}
    (reachable : Pool.Reachable (leaseEnvironment ttlSecs) UsesLease .initial pool) :
    pool.world.Dated :=
  (datedContract_sound ttlSecs).invariant
    ⟨le_refl _, by simp [LeaseWorld.initial]⟩ reachable

/-! ## One process alone -/

/-- File operations do not fail, and nobody else is running. -/
def reliableLeaseEnvironment (ttlSecs : ℕ) :
    Environment leaseSignature LeaseProcess LeaseWorld where
  respond := fun process world op answer after =>
    ∃ now token, world.clock ≤ now ∧ answer = world.answer now token op ∧
      after = (world.tick ttlSecs now).after process op answer
  restart := id

/-- The file was created and its content was never written. -/
def LeaseWorld.Torn (world : LeaseWorld) : Prop :=
  ∃ token, world.file = some ⟨token, none⟩

section Alone

variable {ttlSecs : ℕ} {process : LeaseProcess} {world : LeaseWorld} {config : ActiveLeaseConfig}

/-- Every run of the program alone ends as the postcondition states. -/
abbrev Alone {α : Type} (ttlSecs : ℕ) (process : LeaseProcess) (program : Lease α)
    (post : α → LeaseWorld → Prop) (world : LeaseWorld) : Prop :=
  Ensures (reliableLeaseEnvironment ttlSecs) (Contract.lone LeaseProcess fun _ _ => True) process
    program post world

theorem alone_leaseCall (op : LeaseOp) {post : op.Answer → LeaseWorld → Prop}
    (continues : ∀ now token, world.clock ≤ now →
      post (world.answer now token op)
        ((world.tick ttlSecs now).after process op (world.answer now token op))) :
    Alone ttlSecs process (leaseCall op) post world := by
  rintro answer after ⟨now, token, inOrder, rfl, rfl⟩
  refine ⟨trivial, ?_⟩
  rintro later rfl -
  exact continues now token inOrder

theorem alone_leaseCall_bind {α : Type} (op : LeaseOp) {next : op.Answer → Lease α}
    {post : α → LeaseWorld → Prop}
    (continues : ∀ now token, world.clock ≤ now →
      Alone ttlSecs process (next (world.answer now token op)) post
        ((world.tick ttlSecs now).after process op (world.answer now token op))) :
    Alone ttlSecs process (leaseCall op >>= next) post world :=
  ensures_bind.mpr (alone_leaseCall op continues)

theorem alone_leaseCall_bindLift {α : Type} (op : LeaseOp) {next : op.Answer → LeaseResult α}
    {post : Except UnderlayError α → LeaseWorld → Prop}
    (continues : ∀ now token, world.clock ≤ now →
      Alone ttlSecs process (next (world.answer now token op)).run post
        ((world.tick ttlSecs now).after process op (world.answer now token op))) :
    Alone ttlSecs process
      ((ExceptT.lift (leaseCall op) : LeaseResult op.Answer) >>= next).run post world :=
  (alone_leaseCall op continues).bindLift fun _ _ safe => safe

theorem alone_createLeaseFile_absent (absent : world.file = none) :
    Alone ttlSecs process (createLeaseFile record) (fun answer _ => answer = .created) world := by
  apply alone_leaseCall_bind (.createNew record.token)
  intro now token inOrder
  simp only [LeaseWorld.answer, absent]
  apply alone_leaseCall_bind (.write record)
  exact fun _ _ _ => rfl

theorem alone_createLeaseFile_present (present : world.file ≠ none) :
    Alone ttlSecs process (createLeaseFile record)
      (fun answer later => (∃ text, answer = .alreadyExists text) ∧ later.file = world.file ∧
        world.clock ≤ later.clock) world := by
  apply alone_leaseCall_bind (.createNew record.token)
  intro now token inOrder
  simp only [LeaseWorld.answer, present]
  exact ⟨⟨_, rfl⟩, rfl, inOrder⟩

theorem alone_fromAcquired :
    Alone ttlSecs process (ActiveLeaseGuard.fromAcquired config token acquiredAtUnixSecs).run
      (fun result _ => ∃ guard, result = .ok guard) world := by
  apply alone_leaseCall_bind .spawnHeartbeat
  exact fun _ _ _ => ⟨_, rfl⟩

theorem alone_readLeaseRecord {path : String} (found : world.file = some ⟨token, some record⟩) :
    Alone ttlSecs process (readLeaseRecord path).run
      (fun result later => result = .ok record ∧ later.file = world.file ∧
        world.clock ≤ later.clock) world := by
  apply alone_leaseCall_bind .read
  intro now _ inOrder
  simp only [LeaseWorld.answer, found]
  exact ⟨rfl, found, inOrder⟩

theorem alone_readLeaseRecord_torn {path : String} (torn : world.Torn) :
    Alone ttlSecs process (readLeaseRecord path).run
      (fun result _ => ∃ error, result = .error error) world := by
  rcases torn with ⟨token, empty⟩
  apply alone_leaseCall_bind .read
  intro now _ inOrder
  simp only [LeaseWorld.answer, empty]
  exact ⟨_, rfl⟩

theorem alone_takeOver {current : ActiveLeaseRecord}
    (found : world.file = some ⟨token, some current⟩)
    (aged : current.updatedAtUnixSecs + config.ttlSecs < world.clock) :
    Alone ttlSecs process (ActiveLeaseGuard.takeOver config record).run
      (fun result _ => ∃ guard, result = .ok guard) world := by
  apply (alone_readLeaseRecord found).bindResult
  · rintro _ later ⟨⟨⟩, sameFile, notBefore⟩
    have checks : Alone ttlSecs process (leaseIsStale current config.ttlSecs)
        (fun stale last => stale = true ∧ last.file = world.file) later := by
      apply alone_leaseCall_bind .nowUnixSecs
      intro now _ inOrder
      refine ⟨?_, sameFile⟩
      have elapsed : now - current.updatedAtUnixSecs > config.ttlSecs := by omega
      exact decide_eq_true elapsed
    apply checks.bindLift
    rintro _ middle ⟨rfl, sameFile⟩
    have removes : Alone ttlSecs process removeStaleLease.run
        (fun result last => result = .ok () ∧ last.file = none) middle := by
      apply alone_leaseCall_bind .remove
      intro now _ inOrder
      simp only [LeaseWorld.answer, sameFile, found]
      exact ⟨rfl, rfl⟩
    apply removes.bindResult
    · rintro _ last ⟨-, absent⟩
      apply (alone_createLeaseFile_absent absent).bindLift
      rintro _ _ rfl
      exact alone_fromAcquired
    · rintro _ _ ⟨⟨⟩, -⟩
  · rintro _ _ ⟨⟨⟩, -⟩

theorem alone_takeOver_torn (torn : world.Torn) :
    Alone ttlSecs process (ActiveLeaseGuard.takeOver config record).run
      (fun result _ => ∃ error, result = .error error) world := by
  apply (alone_readLeaseRecord_torn torn).bindResult
  · rintro _ _ ⟨_, ⟨⟩⟩
  · exact fun error _ _ => ⟨error, rfl⟩

/-- Up to the look at the file, an acquire leaves it alone. -/
theorem alone_acquire {post : Except UnderlayError ActiveLeaseGuard → LeaseWorld → Prop}
    (valid : config.validate = .ok ())
    (created : ∀ record later, later.file = world.file → world.clock ≤ later.clock →
      Alone ttlSecs process
        (do
          match ← ExceptT.lift (createLeaseFile record) with
          | .created =>
              ActiveLeaseGuard.fromAcquired config record.token record.acquiredAtUnixSecs
          | .alreadyExists _ => ActiveLeaseGuard.takeOver config record
          | .failed text => throw (activeLeaseIoError text) : LeaseResult ActiveLeaseGuard).run
        post later) :
    Alone ttlSecs process (ActiveLeaseGuard.acquire config).run post world := by
  rw [ActiveLeaseGuard.acquire, ExceptT.run_bind, ExceptT.run_mk, pure_bind, valid]
  apply alone_leaseCall_bindLift .createParentDir
  intro _ _ first
  apply alone_leaseCall_bindLift .newToken
  intro _ token second
  apply alone_leaseCall_bindLift .nowUnixSecs
  intro now _ third
  exact created ⟨config.ownerId, token, now, now⟩ _ rfl (first.trans (second.trans third))

theorem alone_acquire_ok (valid : config.validate = .ok ()) (dated : world.Dated)
    (aged : world.lastWrite + config.ttlSecs < world.clock) (whole : ¬world.Torn) :
    Alone ttlSecs process (ActiveLeaseGuard.acquire config).run
      (fun result _ => ∃ guard, result = .ok guard) world := by
  apply alone_acquire valid
  intro record later sameFile notBefore
  rcases found : world.file with _ | ⟨token, _ | current⟩
  · apply (alone_createLeaseFile_absent (sameFile.trans found)).bindLift
    rintro _ _ rfl
    exact alone_fromAcquired
  · exact absurd ⟨token, found⟩ whole
  · have present : later.file ≠ none := by simp [sameFile, found]
    apply (alone_createLeaseFile_present present).bindLift
    rintro _ last ⟨⟨text, rfl⟩, sameLater, notBeforeLater⟩
    have foundLast : last.file = some ⟨token, some current⟩ :=
      sameLater.trans (sameFile.trans found)
    have old := dated.content token current found
    exact alone_takeOver foundLast (by omega)

theorem alone_acquire_torn (valid : config.validate = .ok ()) (torn : world.Torn) :
    Alone ttlSecs process (ActiveLeaseGuard.acquire config).run
      (fun result _ => ∃ error, result = .error error) world := by
  apply alone_acquire valid
  intro record later sameFile notBefore
  rcases torn with ⟨token, empty⟩
  have present : later.file ≠ none := by simp [sameFile, empty]
  apply (alone_createLeaseFile_present present).bindLift
  rintro _ last ⟨⟨text, rfl⟩, sameLater, notBeforeLater⟩
  exact alone_takeOver_torn ⟨token, sameLater.trans (sameFile.trans empty)⟩

/-- The program run at one moment. -/
def leaseHandler (ttlSecs : ℕ) (process : LeaseProcess) :
    Program.Handler leaseSignature LeaseWorld :=
  fun op world =>
    let answer := world.answer world.clock "" op
    (answer, (world.tick ttlSecs world.clock).after process op answer)

theorem exists_executes_lease {α : Type} (program : Lease α) :
    ∃ value last, Executes (reliableLeaseEnvironment ttlSecs) process program world value last :=
  ⟨_, _, Executes.of_eval id
    (fun _ state => ⟨state.clock, "", le_refl _, rfl, rfl⟩ :
      ∀ op state, (reliableLeaseEnvironment ttlSecs).respond process state op
        (leaseHandler ttlSecs process op state).1 (leaseHandler ttlSecs process op state).2)
    program world⟩

end Alone

/-! ## Takeover -/

/-- Once all processes are gone and the ttl has passed since the last write, an acquire returns a
guard exactly if no process stopped between creating the lease file and writing its content. -/
theorem acquire_takes_over_iff (config : ActiveLeaseConfig) (valid : config.validate = .ok ())
    (pool : Pool leaseSignature LeaseProcess LeaseWorld)
    (reachable : Pool.Reachable (leaseEnvironment config.ttlSecs) UsesLease .initial pool)
    (process : LeaseProcess) (now : ℕ) (inOrder : pool.world.clock ≤ now)
    (aged : pool.world.lastWrite + config.ttlSecs < now) :
    ((∃ result last, Executes (reliableLeaseEnvironment config.ttlSecs) process
        (ActiveLeaseGuard.acquire config).run (pool.world.tick config.ttlSecs now) result last) ∧
      ∀ result last, Executes (reliableLeaseEnvironment config.ttlSecs) process
        (ActiveLeaseGuard.acquire config).run (pool.world.tick config.ttlSecs now) result last →
          ∃ guard, result = .ok guard) ↔
      ¬pool.world.Torn := by
  constructor
  · rintro ⟨⟨result, last, executes⟩, succeeds⟩ torn
    rcases succeeds result last executes with ⟨guard, rfl⟩
    have fails : Alone config.ttlSecs process (ActiveLeaseGuard.acquire config).run
        (fun result _ => ∃ error, result = .error error) (pool.world.tick config.ttlSecs now) :=
      alone_acquire_torn valid torn
    rcases fails.executes executes with ⟨error, ⟨⟩⟩
  · intro whole
    have dated : (pool.world.tick config.ttlSecs now).Dated :=
      (LeaseWorld.Dated.of_reachable reachable).tick inOrder
    exact ⟨exists_executes_lease _, fun result last executes =>
      (alone_acquire_ok valid dated aged whole).executes executes⟩

/-- A process acquires the lease and is gone. -/
def abandonedLease : List (Move LeaseProcess (ℕ × LeaseToken) Unit) :=
  drawLeaseToken 0 0 "stopped" ++ leaseCalls 0 0 5 ++ [.crash]

theorem acquire_takes_over_abandonedLease :
    ∃ pool, Pool.Reachable (leaseEnvironment standbyConfig.ttlSecs) UsesLease .initial pool ∧
      ∀ result last, Executes (reliableLeaseEnvironment standbyConfig.ttlSecs) 1
        (ActiveLeaseGuard.acquire standbyConfig).run
        (pool.world.tick standbyConfig.ttlSecs 100) result last → ∃ guard, result = .ok guard := by
  let ran := (Pool.idle LeaseWorld.initial).moves (leaseEnvironment standbyConfig.ttlSecs)
    leaseAnswers (fun _ : Unit => holdLease standbyConfig []) abandonedLease
  have ends : (ran.map fun pool => (pool.world.clock, pool.world.lastWrite,
      pool.world.file.map fun file => file.content.isSome)) = some (0, 0, some true) := by
    decide +kernel
  rcases Option.map_eq_some_iff.mp ends with ⟨pool, isPool, facts⟩
  simp only [Prod.mk.injEq] at facts
  rcases facts with ⟨clock, lastWrite, content⟩
  have reachable : Pool.Reachable (leaseEnvironment standbyConfig.ttlSecs) UsesLease .initial
      pool :=
    Pool.reachable_of_moves leaseAnswers_conform (fun _ => ⟨_, _, rfl⟩) .refl isPool
  have whole : ¬pool.world.Torn := by
    rintro ⟨token, empty⟩
    simp [empty] at content
  have takesOver := acquire_takes_over_iff standbyConfig (by decide +kernel) pool reachable 1 100
    (by omega) (by rw [lastWrite]; decide)
  exact ⟨pool, reachable, (takesOver.mpr whole).2⟩

/-- A process creates the lease file and gets no further. -/
def tornLease : List (Move LeaseProcess (ℕ × LeaseToken) Unit) :=
  drawLeaseToken 0 0 "stopped" ++ leaseCalls 0 0 2

theorem acquire_blocked_by_tornLease :
    ∃ pool, Pool.Reachable (leaseEnvironment standbyConfig.ttlSecs) UsesLease .initial pool ∧
      pool.world.lastWrite + standbyConfig.ttlSecs < 100 ∧
      (∀ thread, pool.threads thread = none) ∧
      ∀ result last, Executes (reliableLeaseEnvironment standbyConfig.ttlSecs) 1
        (ActiveLeaseGuard.acquire standbyConfig).run
        (pool.world.tick standbyConfig.ttlSecs 100) result last →
          ∃ error, result = .error error := by
  let ran := (Pool.idle LeaseWorld.initial).moves (leaseEnvironment standbyConfig.ttlSecs)
    leaseAnswers (fun _ : Unit => holdLease standbyConfig []) tornLease
  have ends : (ran.map fun pool => (pool.world.lastWrite, pool.world.file)) =
      some (0, some ⟨"stopped", none⟩) := by
    decide +kernel
  rcases Option.map_eq_some_iff.mp ends with ⟨pool, isPool, facts⟩
  rcases Prod.mk.inj facts with ⟨lastWrite, file⟩
  have reachable : Pool.Reachable (leaseEnvironment standbyConfig.ttlSecs) UsesLease .initial
      pool :=
    Pool.reachable_of_moves leaseAnswers_conform (fun _ => ⟨_, _, rfl⟩) .refl isPool
  refine ⟨Pool.idle pool.world, reachable.tail .crash, ?_, fun _ => rfl, ?_⟩
  · change pool.world.lastWrite + 30 < 100
    omega
  · intro result last executes
    have fails : Alone standbyConfig.ttlSecs 1 (ActiveLeaseGuard.acquire standbyConfig).run
        (fun result _ => ∃ error, result = .error error)
        (pool.world.tick standbyConfig.ttlSecs 100) :=
      alone_acquire_torn (by decide +kernel) ⟨"stopped", file⟩
    exact fails.executes executes

end AriaUnderlay
