import Mathlib

/-!
# Effectful programs

A program is a tree of calls to its environment.  Each call names an operation of a fixed signature
and continues with the answer.  The same program can then be read in two ways: `eval` runs it
against a deterministic handler, and `Ensures` in `Effect.RelyGuarantee` reasons about it while
other threads and the environment change the shared world between its calls.
-/

namespace Effect

/-- The operations a program may ask its environment for, each with the type of its answers. -/
structure Signature where
  Op : Type
  Answer : Op → Type

/-- A program over a signature: finished with a value, or waiting for the answer to one call. -/
inductive Program (sig : Signature) (α : Type) : Type where
  | done (value : α)
  | call (op : sig.Op) (next : sig.Answer op → Program sig α)

namespace Program

variable {sig : Signature} {α β γ σ : Type}

/-- Run `program` and continue with its value. -/
def bind (program : Program sig α) (next : α → Program sig β) : Program sig β :=
  match program with
  | .done value => next value
  | .call op continuation => .call op fun answer => (continuation answer).bind next

instance : Monad (Program sig) where
  pure := .done
  bind := .bind

/-- The program that makes one call and returns its answer. -/
def perform (op : sig.Op) : Program sig (sig.Answer op) :=
  .call op .done

@[simp]
theorem pure_eq_done (value : α) : (pure value : Program sig α) = .done value := rfl

@[simp]
theorem done_bind (value : α) (next : α → Program sig β) :
    (Program.done value >>= next) = next value := rfl

@[simp]
theorem call_bind (op : sig.Op) (continuation : sig.Answer op → Program sig α)
    (next : α → Program sig β) :
    (Program.call op continuation >>= next) =
      .call op fun answer => continuation answer >>= next := rfl

@[simp]
theorem perform_bind (op : sig.Op) (next : sig.Answer op → Program sig β) :
    (perform op >>= next) = .call op next := rfl

theorem bind_done (program : Program sig α) : (program >>= .done) = program := by
  induction program with
  | done value => rfl
  | call op continuation ih => simp [ih]

theorem bind_assoc (program : Program sig α) (next : α → Program sig β) (last : β → Program sig γ) :
    (program >>= next >>= last) = program >>= fun value => next value >>= last := by
  induction program with
  | done value => rfl
  | call op continuation ih => simp [ih]

instance : LawfulMonad (Program sig) :=
  LawfulMonad.mk' _ bind_done (fun _ _ => rfl) bind_assoc

/-! ## Deterministic runs -/

/-- A deterministic environment: the answer to each call and the state it leaves. -/
abbrev Handler (sig : Signature) (σ : Type) : Type :=
  (op : sig.Op) → σ → sig.Answer op × σ

/-- Run a program to its end against a deterministic environment. -/
def eval (handler : Handler sig σ) : Program sig α → σ → α × σ
  | .done value, state => (value, state)
  | .call op next, state =>
      let response := handler op state
      eval handler (next response.1) response.2

variable (handler : Handler sig σ) (state : σ)

@[simp]
theorem eval_done (value : α) :
    eval handler (.done value : Program sig α) state = (value, state) := rfl

@[simp]
theorem eval_call (op : sig.Op) (next : sig.Answer op → Program sig α) :
    eval handler (.call op next) state =
      eval handler (next (handler op state).1) (handler op state).2 := rfl

@[simp]
theorem eval_perform (op : sig.Op) :
    eval handler (perform op) state = handler op state := rfl

@[simp]
theorem eval_bind (program : Program sig α) (next : α → Program sig β) :
    eval handler (program >>= next) state =
      eval handler (next (eval handler program state).1) (eval handler program state).2 := by
  induction program generalizing state with
  | done value => rfl
  | call op continuation ih => simp [ih]

end Program

/-! ## Fallible programs -/

theorem bind_eq_ok {ε α β : Type} {first : Except ε α} {next : α → Except ε β} {value : β} :
    (first >>= next) = .ok value ↔ ∃ middle, first = .ok middle ∧ next middle = .ok value := by
  cases first with
  | error _ => simp [bind, Except.bind]
  | ok _ => simp [bind, Except.bind]

/-- A program that may stop with an error. -/
abbrev Result (sig : Signature) (ε : Type) : Type → Type :=
  ExceptT ε (Program sig)

/-- A program that may stop with an error and also updates a state.  The state survives the
error, as a variable borrowed mutably by a function that returns early does. -/
abbrev Fallible (sig : Signature) (ε σ : Type) : Type → Type :=
  ExceptT ε (StateT σ (Program sig))

namespace Fallible

variable {sig : Signature} {ε σ α β : Type}

/-- Run a fallible program from a state: its result together with the state it leaves. -/
def start (program : Fallible sig ε σ α) (state : σ) : Program sig (Except ε α × σ) :=
  (ExceptT.run program).run state

/-- Run a program whose answer may be an error, and stop on an error. -/
def attempt (call : Program sig (Except ε α)) : Fallible sig ε σ α :=
  ExceptT.mk (StateT.lift call)

/-- Run a program that cannot fail. -/
def always (call : Program sig α) : Fallible sig ε σ α :=
  attempt (call >>= fun answer => .done (.ok answer))

/-- Run a program and hand over its result, an error included. -/
def outcome (program : Fallible sig ε σ α) : Fallible sig ε σ (Except ε α) :=
  ExceptT.lift (ExceptT.run program)

/-- What follows a step that ended with `outcome`. -/
def resume (next : α → Fallible sig ε σ β) (outcome : Except ε α × σ) :
    Program sig (Except ε β × σ) :=
  match outcome with
  | (.ok value, state) => (next value).start state
  | (.error error, state) => .done (.error error, state)

variable (state : σ)

@[simp]
theorem start_pure (value : α) :
    (pure value : Fallible sig ε σ α).start state = .done (.ok value, state) := rfl

@[simp]
theorem start_throw (error : ε) :
    (throw error : Fallible sig ε σ α).start state = .done (.error error, state) := rfl

@[simp]
theorem start_get :
    (get : Fallible sig ε σ σ).start state = .done (.ok state, state) := rfl

@[simp]
theorem start_set (next : σ) :
    (set next : Fallible sig ε σ PUnit).start state = .done (.ok ⟨⟩, next) := rfl

@[simp]
theorem start_bind (program : Fallible sig ε σ α) (next : α → Fallible sig ε σ β) :
    (program >>= next).start state = program.start state >>= resume next := by
  simp only [start, ExceptT.run_bind, StateT.run_bind]
  congr 1
  funext outcome
  rcases outcome with ⟨_ | _, _⟩ <;> rfl

@[simp]
theorem start_attempt (call : Program sig (Except ε α)) :
    (attempt call : Fallible sig ε σ α).start state =
      call >>= fun answer => .done (answer, state) := rfl

@[simp]
theorem resume_ok (next : α → Fallible sig ε σ β) (value : α) :
    resume next (.ok value, state) = (next value).start state := rfl

@[simp]
theorem resume_error (next : α → Fallible sig ε σ β) (error : ε) :
    resume next (.error error, state) = .done (.error error, state) := rfl

@[simp]
theorem start_always (call : Program sig α) :
    (always call : Fallible sig ε σ α).start state =
      call >>= fun answer => .done (.ok answer, state) := by
  simp only [always, start_attempt, bind_assoc, Program.done_bind]

@[simp]
theorem start_outcome (program : Fallible sig ε σ α) :
    (outcome program).start state =
      program.start state >>= fun result => .done (.ok result.1, result.2) := by
  simp only [outcome, start, ExceptT.run_lift, StateT.run_map]
  exact map_eq_pure_bind _ _

end Fallible

end Effect
