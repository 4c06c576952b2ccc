import AriaUnderlay.Effect.RelyGuarantee

/-!
# Schedules

A schedule lists the steps of a pool one by one: which thread moves, and what decides the answer to
its call.  Running a schedule is computable, and a pool that a schedule produces is reachable, so
that a run of several threads can be exhibited by evaluating it.
-/

namespace Effect

variable {sig : Signature} {Thread World Input Index : Type} [DecidableEq Thread]

/-- One step of a schedule.  Programs are named by an index, and `input` decides an answer. -/
inductive Move (Thread Input Index : Type) where
  | spawn (thread : Thread) (index : Index)
  | run (thread : Thread) (input : Input)
  | finish (thread : Thread)
  | crash

namespace Pool

variable
  (env : Environment sig Thread World)
  (answers : Thread → Input → World → (op : sig.Op) → Option (sig.Answer op × World))
  (programs : Index → Program sig Unit)

/-- One move of a schedule. -/
def move (pool : Pool sig Thread World) :
    Move Thread Input Index → Option (Pool sig Thread World)
  | .spawn thread index =>
      match pool.threads thread with
      | none =>
          some { pool with threads := Function.update pool.threads thread (some (programs index)) }
      | some _ => none
  | .run thread input =>
      match pool.threads thread with
      | some (.call op next) =>
          (answers thread input pool.world op).map fun response =>
            { world := response.2
              threads := Function.update pool.threads thread (some (next response.1)) }
      | _ => none
  | .finish thread =>
      match pool.threads thread with
      | some (.done ()) => some { pool with threads := Function.update pool.threads thread none }
      | _ => none
  | .crash => some (idle (env.restart pool.world))

/-- The moves of a schedule. -/
def moves (pool : Pool sig Thread World) (schedule : List (Move Thread Input Index)) :
    Option (Pool sig Thread World) :=
  schedule.foldlM (fun pool => pool.move env answers programs) pool

variable {env answers programs} {entry : Program sig Unit → Prop}

theorem step_of_move
    (conforms : ∀ {thread input world op response},
      answers thread input world op = some response →
        env.respond thread world op response.1 response.2)
    (enters : ∀ index, entry (programs index))
    {pool next : Pool sig Thread World}
    {step : Move Thread Input Index}
    (moved : pool.move env answers programs step = some next) :
    Step env entry pool next := by
  cases step with
  | spawn thread index =>
      simp only [move] at moved
      split at moved
      · rename_i free
        cases moved
        exact .spawn free (enters index)
      · cases moved
  | run thread input =>
      simp only [move] at moved
      split at moved
      · rename_i op next' waiting
        rcases Option.map_eq_some_iff.mp moved with ⟨response, answered, rfl⟩
        exact .run waiting (conforms answered)
      · cases moved
  | finish thread =>
      simp only [move] at moved
      split at moved
      · rename_i finished
        cases moved
        exact .finish finished
      · cases moved
  | crash =>
      cases moved
      exact .crash

theorem reachable_of_moves
    (conforms : ∀ {thread input world op response},
      answers thread input world op = some response →
        env.respond thread world op response.1 response.2)
    (enters : ∀ index, entry (programs index))
    {initial : World}
    {pool next : Pool sig Thread World}
    {schedule : List (Move Thread Input Index)}
    (reachable : Reachable env entry initial pool)
    (ran : pool.moves env answers programs schedule = some next) :
    Reachable env entry initial next := by
  induction schedule generalizing pool with
  | nil =>
      cases ran
      exact reachable
  | cons step schedule ih =>
      rw [moves, List.foldlM_cons, Option.bind_eq_bind, Option.bind_eq_some_iff] at ran
      rcases ran with ⟨middle, moved, rest⟩
      exact ih (reachable.tail (step_of_move conforms enters moved)) rest

end Pool

end Effect
