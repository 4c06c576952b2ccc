import AriaUnderlay.Effect.Program

/-!
# Rely-guarantee reasoning for pools of programs

Threads share one world.  A step of the pool starts a thread, lets one thread make one call, lets a
finished thread go, or restarts the process, which loses every thread.  A contract says what a
thread may do to the world in one call (its guarantee), what it tolerates from the others between
its own calls (its rely), and which invariant of the world all of them keep.

`Ensures` is the resulting proof rule for one thread, and `Contract.Sound.invariant` turns the
proofs about single threads into an invariant of every reachable pool.
-/

namespace Effect

variable {sig : Signature} {Thread World : Type}

/-- How the shared world answers calls, and what a restart keeps of it. -/
structure Environment (sig : Signature) (Thread World : Type) where
  /-- The environment may answer this call of a thread so and move to the second world. -/
  respond : Thread → World → (op : sig.Op) → sig.Answer op → World → Prop
  restart : World → World

/-- What the threads promise each other. -/
structure Contract (Thread World : Type) where
  guarantee : Thread → World → World → Prop
  rely : Thread → World → World → Prop
  invariant : World → Prop

/-! ## One thread -/

section Ensures

variable {α β ε σ : Type}
variable (env : Environment sig Thread World) (contract : Contract Thread World) (thread : Thread)

/-- Every call of the program keeps the guarantee, and if the program finishes then `post` holds.
Between two calls the world may change as far as the rely and the invariant allow. -/
def Ensures : Program sig α → (α → World → Prop) → World → Prop
  | .done value, post, world => post value world
  | .call op next, post, world =>
      ∀ answer after, env.respond thread world op answer after →
        contract.guarantee thread world after ∧
          ∀ later, contract.rely thread after later → contract.invariant later →
            Ensures (next answer) post later

@[simp]
theorem ensures_done {value : α} {post : α → World → Prop} {world : World} :
    Ensures env contract thread (.done value : Program sig α) post world ↔ post value world :=
  Iff.rfl

variable {env contract thread}
variable {post : β → World → Prop} {world : World}

theorem Ensures.mono {program : Program sig α} {strong weak : α → World → Prop}
    (ensured : Ensures env contract thread program strong world)
    (weaken : ∀ value after, strong value after → weak value after) :
    Ensures env contract thread program weak world := by
  induction program generalizing world with
  | done value => exact weaken value world ensured
  | call op next ih =>
      intro answer after responds
      rcases ensured answer after responds with ⟨kept, continues⟩
      exact ⟨kept, fun later relied holds => ih answer (continues later relied holds)⟩

theorem Ensures.and {program : Program sig α} {left right : α → World → Prop}
    (first : Ensures env contract thread program left world)
    (second : Ensures env contract thread program right world) :
    Ensures env contract thread program (fun value after => left value after ∧ right value after)
      world := by
  induction program generalizing world with
  | done value => exact ⟨first, second⟩
  | call op next ih =>
      intro answer after responds
      rcases first answer after responds with ⟨kept, continuesFirst⟩
      rcases second answer after responds with ⟨-, continuesSecond⟩
      exact ⟨kept, fun later relied holds =>
        ih answer (continuesFirst later relied holds) (continuesSecond later relied holds)⟩

/-- A relation that contains the guarantee and the rely leads from the first world to the last. -/
theorem Ensures.reaching {program : Program sig α} {post : α → World → Prop}
    {relation : World → World → Prop} (refl : ∀ world, relation world world)
    (trans : ∀ {first second third},
      relation first second → relation second third → relation first third)
    (guaranteed : ∀ {before after}, contract.guarantee thread before after → relation before after)
    (relied : ∀ {before after}, contract.rely thread before after → relation before after)
    (ensured : Ensures env contract thread program post world) :
    Ensures env contract thread program
      (fun value later => post value later ∧ relation world later) world := by
  induction program generalizing world with
  | done value => exact ⟨ensured, refl world⟩
  | call op next ih =>
      intro answer after responds
      rcases ensured answer after responds with ⟨kept, continues⟩
      refine ⟨kept, fun later reached holds => ?_⟩
      have first : relation world later := trans (guaranteed kept) (relied reached)
      exact (ih answer (continues later reached holds)).mono
        fun value last ⟨holdsLast, rest⟩ => ⟨holdsLast, trans first rest⟩

/-- The sequencing rule. -/
@[simp]
theorem ensures_bind {program : Program sig α} {next : α → Program sig β} :
    Ensures env contract thread (program >>= next) post world ↔
      Ensures env contract thread program
        (fun value => Ensures env contract thread (next value) post) world := by
  induction program generalizing world with
  | done value => rfl
  | call op continuation ih => simp [Ensures, ih]

theorem Ensures.bind {program : Program sig α} {next : α → Program sig β}
    {middle : α → World → Prop} (first : Ensures env contract thread program middle world)
    (second : ∀ value after, middle value after →
      Ensures env contract thread (next value) post after) :
    Ensures env contract thread (program >>= next) post world :=
  ensures_bind.mpr (first.mono second)

/-- The sequencing rule for a program that stops at its first error. -/
theorem Ensures.bindResult {program : Result sig ε α} {next : α → Result sig ε β}
    {middle : Except ε α → World → Prop} {post : Except ε β → World → Prop}
    (first : Ensures env contract thread program.run middle world)
    (success : ∀ value after, middle (.ok value) after →
      Ensures env contract thread (next value).run post after)
    (failure : ∀ error after, middle (.error error) after → post (.error error) after) :
    Ensures env contract thread (program >>= next).run post world := by
  rw [ExceptT.run_bind]
  apply Ensures.bind first
  rintro (error | value) after reached
  · exact failure error after reached
  · exact success value after reached

/-- The sequencing rule for a first program that cannot fail. -/
theorem Ensures.bindLift {program : Program sig α} {next : α → Result sig ε β}
    {middle : α → World → Prop} {post : Except ε β → World → Prop}
    (first : Ensures env contract thread program middle world)
    (second : ∀ value after, middle value after →
      Ensures env contract thread (next value).run post after) :
    Ensures env contract thread ((ExceptT.lift program : Result sig ε α) >>= next).run post
      world := by
  rw [ExceptT.run_bind, ExceptT.run_lift, map_eq_pure_bind, bind_assoc]
  exact first.bind second

/-- The sequencing rule for a program that stops at its first error and keeps its state. -/
theorem Ensures.bindFallible {program : Fallible sig ε σ α} {next : α → Fallible sig ε σ β}
    {middle : Except ε α × σ → World → Prop} {post : Except ε β × σ → World → Prop} {state : σ}
    (first : Ensures env contract thread (program.start state) middle world)
    (success : ∀ value state after, middle (.ok value, state) after →
      Ensures env contract thread ((next value).start state) post after)
    (failure : ∀ error state after, middle (.error error, state) after →
      post (.error error, state) after) :
    Ensures env contract thread ((program >>= next).start state) post world := by
  rw [Fallible.start_bind]
  apply Ensures.bind first
  rintro ⟨error | value, state⟩ after reached
  · exact failure error state after reached
  · exact success value state after reached

/-- The rule for a loop: the invariant speaks of the items that are left. -/
theorem Ensures.foldlM {Item : Type} {step : σ → Item → Program sig σ}
    (invariant : List Item → σ → World → Prop)
    (preserved : ∀ item rest state world, invariant (item :: rest) state world →
      Ensures env contract thread (step state item) (invariant rest) world)
    {items : List Item}
    {state : σ}
    {world : World}
    (start : invariant items state world) :
    Ensures env contract thread (items.foldlM step state) (invariant []) world := by
  induction items generalizing state world with
  | nil => exact start
  | cons item rest ih =>
      rw [List.foldlM_cons]
      exact (preserved item rest state world start).bind fun _ _ reached => ih reached

end Ensures

/-! ## A thread that runs alone -/

/-- The contract of a thread that shares the world with nobody. -/
def Contract.alone (Thread World : Type) : Contract Thread World where
  guarantee := fun _ _ _ => True
  rely := fun _ before after => before = after
  invariant := fun _ => True

/-- What is ensured of a lone thread holds of its run against every handler that answers as the
environment may.  The handler may keep more state than the world that its answers depend on. -/
theorem Ensures.eval {α σ : Type} {env : Environment sig Thread World} {thread : Thread}
    {handler : Program.Handler sig σ} (view : σ → World) (state : σ)
    (conforms : ∀ op state,
      env.respond thread (view state) op (handler op state).1 (view (handler op state).2))
    {program : Program sig α}
    {post : α → World → Prop}
    (ensured : Ensures env (Contract.alone Thread World) thread program post (view state)) :
    post (program.eval handler state).1 (view (program.eval handler state).2) := by
  induction program generalizing state with
  | done value => exact ensured
  | call op next ih =>
      rcases ensured _ _ (conforms op state) with ⟨-, continues⟩
      exact ih _ _ (continues _ rfl trivial)

/-! ## Pools of threads -/

/-- The threads of one process and the world they share. -/
structure Pool (sig : Signature) (Thread World : Type) where
  world : World
  threads : Thread → Option (Program sig Unit)

namespace Pool

variable [DecidableEq Thread]

/-- A process that has just started. -/
def idle (world : World) : Pool sig Thread World where
  world := world
  threads := fun _ => none

/-- One step of a process whose threads run programs that satisfy `entry`. -/
inductive Step (env : Environment sig Thread World) (entry : Program sig Unit → Prop) :
    Pool sig Thread World → Pool sig Thread World → Prop where
  | spawn {pool : Pool sig Thread World} {thread : Thread} {program : Program sig Unit}
      (free : pool.threads thread = none)
      (enters : entry program) :
      Step env entry pool
        { pool with threads := Function.update pool.threads thread (some program) }
  | run {pool : Pool sig Thread World} {thread : Thread} {op : sig.Op}
      {next : sig.Answer op → Program sig Unit} {answer : sig.Answer op} {after : World}
      (waiting : pool.threads thread = some (.call op next))
      (responds : env.respond thread pool.world op answer after) :
      Step env entry pool
        { world := after
          threads := Function.update pool.threads thread (some (next answer)) }
  | finish {pool : Pool sig Thread World} {thread : Thread}
      (finished : pool.threads thread = some (.done ())) :
      Step env entry pool
        { pool with threads := Function.update pool.threads thread none }
  | crash {pool : Pool sig Thread World} :
      Step env entry pool (idle (env.restart pool.world))

/-- The pools a process can reach from a given world. -/
def Reachable (env : Environment sig Thread World) (entry : Program sig Unit → Prop)
    (initial : World) (pool : Pool sig Thread World) : Prop :=
  Relation.ReflTransGen (Step env entry) (idle initial) pool

end Pool

/-! ## From threads to pools -/

section Sound

variable [DecidableEq Thread]

/-- The obligations that make a contract an invariant of every pool. -/
structure Contract.Sound (contract : Contract Thread World) (env : Environment sig Thread World)
    (entry : Program sig Unit → Prop) : Prop where
  rely_refl : ∀ thread world, contract.rely thread world world
  rely_trans : ∀ thread first second third,
    contract.rely thread first second → contract.rely thread second third →
      contract.rely thread first third
  guarantee_rely : ∀ thread other before after,
    thread ≠ other → contract.guarantee thread before after → contract.rely other before after
  guarantee_invariant : ∀ thread before after,
    contract.invariant before → contract.guarantee thread before after → contract.invariant after
  restart_invariant : ∀ world, contract.invariant world → contract.invariant (env.restart world)
  entry_ensures : ∀ program, entry program → ∀ thread world, contract.invariant world →
    Ensures env contract thread program (fun _ _ => True) world

variable {env : Environment sig Thread World} {contract : Contract Thread World}
variable {entry : Program sig Unit → Prop}

/-- The invariant holds and every thread can still go on from any world its rely allows. -/
def Pool.Settled (env : Environment sig Thread World) (contract : Contract Thread World)
    (pool : Pool sig Thread World) : Prop :=
  contract.invariant pool.world ∧
    ∀ thread program, pool.threads thread = some program →
      ∀ later, contract.rely thread pool.world later → contract.invariant later →
        Ensures env contract thread program (fun _ _ => True) later

theorem Contract.Sound.settled_step (sound : contract.Sound env entry)
    {pool next : Pool sig Thread World} (settled : pool.Settled env contract)
    (step : Pool.Step env entry pool next) :
    next.Settled env contract := by
  rcases settled with ⟨holds, ensured⟩
  cases step with
  | @spawn thread program free enters =>
      refine ⟨holds, fun other found isFound later relied holdsLater => ?_⟩
      by_cases same : other = thread
      · subst same
        have isProgram : program = found := by simpa using isFound
        exact isProgram ▸ sound.entry_ensures program enters other later holdsLater
      · exact ensured other found (by simpa [same] using isFound) later relied holdsLater
  | @run thread op next answer after waiting responds =>
      rcases ensured thread _ waiting pool.world (sound.rely_refl _ _) holds answer after responds
        with ⟨kept, continues⟩
      refine ⟨sound.guarantee_invariant _ _ _ holds kept,
        fun other found isFound later relied holdsLater => ?_⟩
      by_cases same : other = thread
      · subst same
        have isNext : next answer = found := by simpa using isFound
        exact isNext ▸ continues later relied holdsLater
      · have reliedStep := sound.guarantee_rely thread other _ _ (Ne.symm same) kept
        exact ensured other found (by simpa [same] using isFound) later
          (sound.rely_trans _ _ _ _ reliedStep relied) holdsLater
  | @finish thread finished =>
      refine ⟨holds, fun other found isFound later relied holdsLater => ?_⟩
      by_cases same : other = thread
      · subst same
        simp at isFound
      · exact ensured other found (by simpa [same] using isFound) later relied holdsLater
  | crash =>
      refine ⟨sound.restart_invariant _ holds, fun other found isFound => ?_⟩
      simp [Pool.idle] at isFound

/-- The invariant of a sound contract holds in every world a process can reach. -/
theorem Contract.Sound.invariant (sound : contract.Sound env entry) {initial : World}
    (start : contract.invariant initial) {pool : Pool sig Thread World}
    (reachable : Pool.Reachable env entry initial pool) :
    contract.invariant pool.world := by
  have settled : pool.Settled env contract := by
    induction reachable with
    | refl => exact ⟨start, fun other found isFound => by simp [Pool.idle] at isFound⟩
    | tail _ step ih => exact sound.settled_step ih step
  exact settled.1

end Sound

end Effect
