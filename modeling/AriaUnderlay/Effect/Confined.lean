import AriaUnderlay.Effect.RelyGuarantee

/-!
# The calls a program makes

`Confined` bounds the calls of a program without speaking of a world: each of them satisfies `may`
as long as the answers so far were honest, and so does the result satisfy its condition.  What such
a program does to a world then follows from what the permitted calls do to it.
-/

namespace Effect

variable {sig : Signature} {Thread World α β ε σ : Type}

/-- As long as the answers are honest, every call is permitted and the result satisfies `post`. -/
def Confined (may : sig.Op → Prop) (honest : (op : sig.Op) → sig.Answer op → Prop) :
    Program sig α → (α → Prop) → Prop
  | .done value, post => post value
  | .call op next, post =>
      may op ∧ ∀ answer, honest op answer → Confined may honest (next answer) post

section Rules

variable {may : sig.Op → Prop} {honest : (op : sig.Op) → sig.Answer op → Prop}
variable {post : β → Prop}

@[simp]
theorem confined_done {value : β} :
    Confined may honest (.done value : Program sig β) post ↔ post value :=
  Iff.rfl

theorem confined_perform {op : sig.Op} {post : sig.Answer op → Prop} :
    Confined may honest (.perform op) post ↔
      may op ∧ ∀ answer, honest op answer → post answer :=
  Iff.rfl

theorem Confined.mono {program : Program sig α} {strong weak : α → Prop}
    (confined : Confined may honest program strong) (weaken : ∀ value, strong value → weak value) :
    Confined may honest program weak := by
  induction program with
  | done value => exact weaken value confined
  | call op next ih =>
      exact ⟨confined.1, fun answer isHonest => ih answer (confined.2 answer isHonest)⟩

@[simp]
theorem confined_bind {program : Program sig α} {next : α → Program sig β} :
    Confined may honest (program >>= next) post ↔
      Confined may honest program fun value => Confined may honest (next value) post := by
  induction program with
  | done value => rfl
  | call op continuation ih => simp [Confined, ih]

theorem Confined.bind {program : Program sig α} {next : α → Program sig β} {middle : α → Prop}
    (first : Confined may honest program middle)
    (second : ∀ value, middle value → Confined may honest (next value) post) :
    Confined may honest (program >>= next) post :=
  confined_bind.mpr (first.mono second)

/-- The sequencing rule for a program that stops at its first error. -/
theorem Confined.bindResult {program : Result sig ε α} {next : α → Result sig ε β}
    {middle : Except ε α → Prop} {post : Except ε β → Prop}
    (first : Confined may honest program.run middle)
    (success : ∀ value, middle (.ok value) → Confined may honest (next value).run post)
    (failure : ∀ error, middle (.error error) → post (.error error)) :
    Confined may honest (program >>= next).run post := by
  rw [ExceptT.run_bind]
  apply first.bind
  rintro (error | value) reached
  · exact failure error reached
  · exact success value reached

/-- The sequencing rule for a first program that cannot fail. -/
theorem Confined.bindLift {program : Program sig α} {next : α → Result sig ε β} {middle : α → Prop}
    {post : Except ε β → Prop} (first : Confined may honest program middle)
    (second : ∀ value, middle value → Confined may honest (next value).run post) :
    Confined may honest ((ExceptT.lift program : Result sig ε α) >>= next).run post := by
  rw [ExceptT.run_bind, ExceptT.run_lift, map_eq_pure_bind, bind_assoc]
  exact first.bind second

/-- The sequencing rule for a program that stops at its first error and keeps its state. -/
theorem Confined.bindFallible {program : Fallible sig ε σ α} {next : α → Fallible sig ε σ β}
    {middle : Except ε α × σ → Prop} {post : Except ε β × σ → Prop} {state : σ}
    (first : Confined may honest (program.start state) middle)
    (success : ∀ value state, middle (.ok value, state) →
      Confined may honest ((next value).start state) post)
    (failure : ∀ error state, middle (.error error, state) → post (.error error, state)) :
    Confined may honest ((program >>= next).start state) post := by
  rw [Fallible.start_bind]
  apply first.bind
  rintro ⟨error | value, state⟩ reached
  · exact failure error state reached
  · exact success value state reached

/-- In an environment that answers honestly, a confined program does what its calls may do. -/
theorem Confined.ensures {env : Environment sig Thread World} {contract : Contract Thread World}
    {thread : Thread} {relation : World → World → Prop} (refl : ∀ world, relation world world)
    (trans : ∀ {first second third},
      relation first second → relation second third → relation first third)
    (answers : ∀ {world op answer after}, contract.invariant world →
      env.respond thread world op answer after → honest op answer)
    (keeps : ∀ {world op answer after}, may op → contract.invariant world →
      env.respond thread world op answer after →
        contract.guarantee thread world after ∧ relation world after)
    (relied : ∀ {before after}, contract.rely thread before after → relation before after)
    {program : Program sig β}
    {world : World}
    (confined : Confined may honest program post)
    (holds : contract.invariant world) :
    Ensures env contract thread program
      (fun value later => post value ∧ relation world later) world := by
  induction program generalizing world with
  | done value => exact ⟨confined, refl world⟩
  | call op next ih =>
      intro answer after responds
      rcases keeps confined.1 holds responds with ⟨kept, step⟩
      refine ⟨kept, fun later reached holdsLater => ?_⟩
      have first : relation world later := trans step (relied reached)
      exact (ih answer (confined.2 answer (answers holds responds)) holdsLater).mono
        fun value last ⟨holdsLast, rest⟩ => ⟨holdsLast, trans first rest⟩

/-- Any program is confined when nothing is asked of it. -/
theorem confined_unrestricted (program : Program sig β) :
    Confined (fun _ => True) (fun _ _ => True) program fun _ => True := by
  induction program with
  | done value => trivial
  | call op next ih => exact ⟨trivial, fun answer _ => ih answer⟩

end Rules

/-! ## The values a program can return -/

/-- Some answers to its calls make the program return this value. -/
inductive Returns : Program sig α → α → Prop where
  | done (value : α) : Returns (.done value) value
  | call {op : sig.Op} {next : sig.Answer op → Program sig α} {value : α}
      (answer : sig.Answer op)
      (rest : Returns (next answer) value) : Returns (.call op next) value

theorem Returns.of_confined {program : Program sig α} {value : α} {post : α → Prop}
    (returns : Returns program value)
    (confined : Confined (fun _ => True) (fun _ _ => True) program post) :
    post value := by
  induction returns with
  | done value => exact confined
  | call answer rest ih => exact ih (confined.2 answer trivial)

theorem returns_eval (handler : Program.Handler sig σ) (program : Program sig α) (state : σ) :
    Returns program (program.eval handler state).1 := by
  induction program generalizing state with
  | done value => exact .done value
  | call op next ih => exact .call (handler op state).1 (ih _ _)

end Effect
