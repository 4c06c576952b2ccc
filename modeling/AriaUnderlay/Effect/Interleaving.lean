import AriaUnderlay.Effect.Trace

/-!
# Interleaved runs

A run of several threads is one list of calls, each with the thread that made it.  The calls of one
thread are a part of that list.  `AnsweredBy` says that an environment which all threads share gave
the answers, and `follow` lets a thread run for a number of calls.
-/

namespace Effect

open Collections

variable {sig : Signature} {Thread World α : Type}

/-! ## The calls of one thread -/

section Threads

variable [DecidableEq Thread]

/-- The calls of one thread in a run of several. -/
def ownEvents (thread : Thread) (run : List (Thread × Event sig)) : List (Event sig) :=
  run.filterMap fun step => if step.1 = thread then some step.2 else none

/-- Every thread of the run makes the calls of its program and ends with its result. -/
def Interleaves (programs : Thread → Program sig α) (run : List (Thread × Event sig))
    (results : Thread → α) : Prop :=
  ∀ thread, Traces (programs thread) (ownEvents thread run) (results thread)

variable {thread : Thread} {run : List (Thread × Event sig)} {event : Event sig}

@[simp]
theorem ownEvents_append {later : List (Thread × Event sig)} :
    ownEvents thread (run ++ later) = ownEvents thread run ++ ownEvents thread later :=
  List.filterMap_append

@[simp]
theorem ownEvents_map {other : Thread} {events : List (Event sig)} :
    ownEvents thread (events.map (other, ·)) = if other = thread then events else [] := by
  by_cases same : other = thread
  · simp [ownEvents, same, List.filterMap_map]
  · simp [ownEvents, same, List.filterMap_map]

theorem mem_ownEvents : event ∈ ownEvents thread run ↔ (thread, event) ∈ run := by
  simp only [ownEvents, List.mem_filterMap, Option.ite_none_right_eq_some, Option.some.injEq,
    Prod.exists]
  constructor
  · rintro ⟨other, found, member, rfl, rfl⟩
    exact member
  · intro member
    exact ⟨thread, event, member, rfl, rfl⟩

/-- A step of a thread is the next one of its own. -/
theorem ownEvents_prefix_of_step {earlier : List (Thread × Event sig)}
    (part : earlier ++ [(thread, event)] <+: run) :
    ownEvents thread earlier ++ [event] <+: ownEvents thread run := by
  have filtered := part.filterMap fun step : Thread × Event sig =>
    if step.1 = thread then some step.2 else none
  simpa [ownEvents] using filtered

/-- What every call of a thread comes after holds in the whole run. -/
theorem eachStep_interleaved {holds : Thread → List (Event sig) → Event sig → Prop}
    (own : ∀ thread, EachStep (holds thread) (ownEvents thread run)) :
    EachStep (fun earlier step => holds step.1 (ownEvents step.1 earlier) step.2) run :=
  fun _ step part => own step.1 _ _ (ownEvents_prefix_of_step part)

end Threads

/-! ## A shared environment -/

/-- The environment gave the answers of the run and moved from one world to another. -/
def AnsweredBy (env : Environment sig Thread World) :
    World → List (Thread × Event sig) → World → Prop
  | world, [], last => last = world
  | world, step :: rest, last =>
      ∃ next, env.respond step.1 world step.2.1 step.2.2 next ∧ AnsweredBy env next rest last

variable {env : Environment sig Thread World} {run rest : List (Thread × Event sig)}
variable {world last : World}

theorem answeredBy_append :
    AnsweredBy env world (run ++ rest) last ↔
      ∃ middle, AnsweredBy env world run middle ∧ AnsweredBy env middle rest last := by
  induction run generalizing world with
  | nil => simp [AnsweredBy]
  | cons step run ih =>
      simp only [List.cons_append, AnsweredBy, ih]
      constructor
      · rintro ⟨next, stepped, middle, first, second⟩
        exact ⟨middle, ⟨next, stepped, first⟩, second⟩
      · rintro ⟨middle, ⟨next, stepped, first⟩, second⟩
        exact ⟨next, stepped, middle, first, second⟩

/-! ## Running a thread for a while -/

/-- Make at most so many calls of a program: the calls, what is left of it and the last world.
There is no such run when a call has no answer. -/
def Program.follow (answers : World → (op : sig.Op) → Option (sig.Answer op × World)) :
    ℕ → Program sig α → World → Option (List (Event sig) × Program sig α × World)
  | limit + 1, .call op next, world => do
      let response ← answers world op
      let rest ← Program.follow answers limit (next response.1) response.2
      return (⟨op, response.1⟩ :: rest.1, rest.2)
  | _, program, world => some ([], program, world)

variable {answers : World → (op : sig.Op) → Option (sig.Answer op × World)} {limit : ℕ}
variable {program left : Program sig α} {events : List (Event sig)}

/-- What is left may be continued. -/
theorem calls_of_follow {later : List (Event sig)}
    (followed : program.follow answers limit world = some (events, left, last))
    (continues : Calls left later) :
    Calls program (events ++ later) := by
  induction limit generalizing program world events with
  | zero =>
      cases program <;> cases followed <;> exact continues
  | succ limit ih =>
      cases program with
      | done value =>
          cases followed
          exact continues
      | call op next =>
          simp only [Program.follow, Option.bind_eq_bind, Option.bind_eq_some_iff] at followed
          rcases followed with ⟨response, -, ⟨rest, unfinished, final⟩, followedRest, ⟨⟩⟩
          exact .call _ (ih followedRest)

theorem answeredBy_of_follow {thread : Thread}
    (conforms : ∀ {world op response}, answers world op = some response →
      env.respond thread world op response.1 response.2)
    (followed : program.follow answers limit world = some (events, left, last)) :
    AnsweredBy env world (events.map (thread, ·)) last := by
  induction limit generalizing program world events with
  | zero =>
      cases program <;> cases followed <;> rfl
  | succ limit ih =>
      cases program with
      | done value =>
          cases followed
          rfl
      | call op next =>
          simp only [Program.follow, Option.bind_eq_bind, Option.bind_eq_some_iff] at followed
          rcases followed with ⟨response, answered, ⟨rest, unfinished, final⟩, followedRest, ⟨⟩⟩
          exact ⟨_, conforms answered, ih followedRest⟩

end Effect
