import AriaUnderlay.Effect.RelyGuarantee

/-!
# Executions

`Executes` relates a program and a world to the values and worlds in which the program may end when
nobody else is running.  What `Ensures` shows of a lone thread holds of all executions, and a run
against a handler that answers as the environment may is an execution.
-/

namespace Effect

variable {sig : Signature} {Thread World : Type} {α ε σ : Type}
variable {env : Environment sig Thread World} {thread : Thread}

/-- The program may end with the value and the last world. -/
inductive Executes (env : Environment sig Thread World) (thread : Thread) :
    Program sig α → World → α → World → Prop where
  | done {value : α} {world : World} : Executes env thread (.done value) world value world
  | call {op : sig.Op} {next : sig.Answer op → Program sig α} {answer : sig.Answer op} {value : α}
      {world middle last : World}
      (responds : env.respond thread world op answer middle)
      (continues : Executes env thread (next answer) middle value last) :
      Executes env thread (.call op next) world value last

/-- The contract of a thread that shares the world with nobody and whose calls keep a relation. -/
def Contract.lone (Thread : Type) (guarantee : World → World → Prop) : Contract Thread World where
  guarantee := fun _ => guarantee
  rely := fun _ before after => before = after
  invariant := fun _ => True

/-- What is ensured of a lone thread holds of every execution. -/
theorem Ensures.executes {guarantee : World → World → Prop} {program : Program sig α}
    {post : α → World → Prop} {world last : World} {value : α}
    (ensured : Ensures env (Contract.lone Thread guarantee) thread program post world)
    (executes : Executes env thread program world value last) :
    post value last := by
  induction executes with
  | done => exact ensured
  | call responds _ ih => exact ih ((ensured _ _ responds).2 _ rfl trivial)

/-- An environment that may give more answers allows more executions. -/
theorem Executes.mono {wide : Environment sig Thread World} {program : Program sig α}
    {world last : World} {value : α}
    (includes : ∀ {world op answer after},
      env.respond thread world op answer after → wide.respond thread world op answer after)
    (executes : Executes env thread program world value last) :
    Executes wide thread program world value last := by
  induction executes with
  | done => exact .done
  | call responds _ ih => exact .call (includes responds) ih

/-- A run against a handler that answers as the environment may is an execution. -/
theorem Executes.of_eval {handler : Program.Handler sig σ} (view : σ → World)
    (conforms : ∀ op state,
      env.respond thread (view state) op (handler op state).1 (view (handler op state).2))
    (program : Program sig α)
    (state : σ) :
    Executes env thread program (view state) (program.eval handler state).1
      (view (program.eval handler state).2) := by
  induction program generalizing state with
  | done value => exact .done
  | call op next ih => exact .call (conforms op state) (ih _ _)

end Effect
