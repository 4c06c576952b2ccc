import AriaUnderlay.Collections.Runs
import AriaUnderlay.Effect.Confined
import AriaUnderlay.Effect.Sum

/-!
# Traces of a program

The trace of a run lists the calls that the program made, each with its answer.  Whether a program
makes some calls only after others is a property of its traces.  It is proved with the rules of
`Ensures` in the environment that answers anything and records it.
-/

namespace Effect

open Collections

variable {sig first second : Signature} {α β : Type}

/-- A call together with its answer. -/
abbrev Event (sig : Signature) : Type :=
  (op : sig.Op) × sig.Answer op

/-- The calls of a complete run of the program and its result. -/
inductive Traces : Program sig α → List (Event sig) → α → Prop where
  | done (value : α) : Traces (.done value) [] value
  | call {op : sig.Op} {next : sig.Answer op → Program sig α} {events : List (Event sig)}
      {value : α}
      (answer : sig.Answer op)
      (rest : Traces (next answer) events value) :
      Traces (.call op next) (⟨op, answer⟩ :: events) value

/-- The calls that a run of the program has made so far. -/
inductive Calls : Program sig α → List (Event sig) → Prop where
  | start (program : Program sig α) : Calls program []
  | call {op : sig.Op} {next : sig.Answer op → Program sig α} {events : List (Event sig)}
      (answer : sig.Answer op)
      (rest : Calls (next answer) events) :
      Calls (.call op next) (⟨op, answer⟩ :: events)

theorem Traces.calls {program : Program sig α} {events : List (Event sig)} {value : α}
    (traced : Traces program events value) :
    Calls program events := by
  induction traced with
  | done value => exact .start _
  | call answer rest ih => exact .call answer ih

/-- A program runs to its end if every call has an answer. -/
theorem exists_traces {answerable : Event sig → Prop}
    (answered : ∀ op, ∃ answer, answerable ⟨op, answer⟩) (program : Program sig α) :
    ∃ events value, Traces program events value ∧ ∀ event ∈ events, answerable event := by
  induction program with
  | done value => exact ⟨[], value, .done value, by simp⟩
  | call op next ih =>
      rcases answered op with ⟨answer, given⟩
      rcases ih answer with ⟨events, value, traced, allGiven⟩
      exact ⟨_, value, .call answer traced, List.forall_mem_cons.mpr ⟨given, allGiven⟩⟩

section Rules

variable {events : List (Event sig)} {ε : Type}

theorem traces_done {expected value : α} :
    Traces (.done expected : Program sig α) events value ↔ events = [] ∧ value = expected := by
  constructor
  · rintro ⟨⟩
    exact ⟨rfl, rfl⟩
  · rintro ⟨rfl, rfl⟩
    exact .done value

theorem traces_perform {op : sig.Op} {answer : sig.Answer op} :
    Traces (.perform op) events answer ↔ events = [⟨op, answer⟩] := by
  constructor
  · intro traced
    rcases traced with _ | ⟨answer, ⟨⟩⟩
    rfl
  · rintro rfl
    exact .call answer (.done answer)

theorem traces_bind {program : Program sig α} {next : α → Program sig β} {value : β} :
    Traces (program >>= next) events value ↔
      ∃ first middle rest, Traces program first middle ∧ Traces (next middle) rest value ∧
        events = first ++ rest := by
  induction program generalizing events with
  | done result =>
      constructor
      · intro traced
        exact ⟨[], result, events, .done result, traced, rfl⟩
      · rintro ⟨first, middle, rest, ⟨⟩, traced, rfl⟩
        exact traced
  | call op continuation ih =>
      constructor
      · intro traced
        rcases traced with _ | ⟨answer, traced⟩
        rcases (ih answer).mp traced with ⟨first, middle, rest, starts, continues, rfl⟩
        exact ⟨_, middle, rest, .call answer starts, continues, rfl⟩
      · rintro ⟨first, middle, rest, starts, continues, rfl⟩
        rcases starts with _ | ⟨answer, starts⟩
        exact .call answer ((ih answer).mpr ⟨_, middle, rest, starts, continues, rfl⟩)

/-- A fallible program succeeds when both of its parts do. -/
theorem traces_bindResult {program : Result sig ε α} {next : α → Result sig ε β} {value : β} :
    Traces (program >>= next).run events (.ok value) ↔
      ∃ first middle rest, Traces program.run first (.ok middle) ∧
        Traces (next middle).run rest (.ok value) ∧ events = first ++ rest := by
  rw [ExceptT.run_bind, traces_bind]
  constructor
  · rintro ⟨first, error | middle, rest, starts, continues, rfl⟩
    · rcases traces_done.mp continues with ⟨-, failed⟩
      cases failed
    · exact ⟨first, middle, rest, starts, continues, rfl⟩
  · rintro ⟨first, middle, rest, starts, continues, rfl⟩
    exact ⟨first, .ok middle, rest, starts, continues, rfl⟩

theorem traces_lift {program : Program sig α} {value : α} :
    Traces (ExceptT.lift program : Result sig ε α).run events (.ok value) ↔
      Traces program events value := by
  rw [ExceptT.run_lift, map_eq_pure_bind, traces_bind]
  constructor
  · rintro ⟨first, middle, rest, starts, continues, rfl⟩
    rcases traces_done.mp continues with ⟨rfl, same⟩
    cases same
    simpa using starts
  · intro traced
    exact ⟨events, value, [], traced, .done _, by simp⟩

theorem traces_inLeft {program : Program first α} {events : List (Event (first.sum second))}
    {value : α} :
    Traces (program.inLeft second) events value ↔
      ∃ inner, Traces program inner value ∧
        events = inner.map fun event => ⟨.inl event.1, event.2⟩ := by
  induction program generalizing events with
  | done result =>
      constructor
      · rintro ⟨⟩
        exact ⟨[], .done value, rfl⟩
      · rintro ⟨inner, ⟨⟩, rfl⟩
        exact .done value
  | call op next ih =>
      constructor
      · intro traced
        rcases traced with _ | ⟨answer, traced⟩
        rcases (ih answer).mp traced with ⟨inner, within, rfl⟩
        exact ⟨⟨op, answer⟩ :: inner, @Traces.call first _ op next inner value answer within, rfl⟩
      · rintro ⟨inner, traced, rfl⟩
        rcases traced with _ | ⟨answer, traced⟩
        have continues := (ih answer).mpr ⟨_, traced, rfl⟩
        exact @Traces.call (first.sum second) _ (.inl op) _ _ _ answer continues

end Rules

/-- The environment that gives any answer and records it. -/
def recording (sig : Signature) : Environment sig Unit (List (Event sig)) where
  respond := fun _ log op answer after => after = log ++ [⟨op, answer⟩]
  restart := id

/-- The contract of a lone thread that makes every call only where the calls before allow it. -/
def Contract.stepwise (allowed : List (Event sig) → sig.Op → Prop) :
    Contract Unit (List (Event sig)) where
  guarantee := fun _ before after =>
    EachStep (fun earlier event => allowed earlier event.1) before →
      EachStep (fun earlier event => allowed earlier event.1) after
  rely := fun _ before after => before = after
  invariant := fun _ => True

variable {allowed : List (Event sig) → sig.Op → Prop}

theorem eachStep_of_calls {program : Program sig α} {post : α → List (Event sig) → Prop}
    {log events : List (Event sig)}
    (ensured : Ensures (recording sig) (.stepwise allowed) () program post log)
    (before : EachStep (fun earlier event => allowed earlier event.1) log)
    (called : Calls program events) :
    EachStep (fun earlier event => allowed earlier event.1) (log ++ events) := by
  induction called generalizing log with
  | start program => simpa using before
  | @call op next events answer rest ih =>
      rcases ensured answer _ rfl with ⟨kept, continues⟩
      have after := ih (continues _ rfl trivial) (kept before)
      simpa using after

/-- What a program returns does not matter for its calls. -/
theorem ensures_ended {program : Program sig α} {log : List (Event sig)} :
    Ensures (recording sig) (.stepwise allowed) () (program >>= fun _ => pure ())
        (fun _ _ => True) log ↔
      Ensures (recording sig) (.stepwise allowed) () program (fun _ _ => True) log :=
  ensures_bind

/-! ## Rules for a part of the environment -/

/-- The environment records its calls as events of a larger signature. -/
def Records (env : Environment first Unit (List (Event sig)))
    (embed : (op : first.Op) → first.Answer op → Event sig) : Prop :=
  ∀ log op answer after, env.respond () log op answer after → after = log ++ [embed op answer]

theorem records_left :
    Records (recording (first.sum second)).left fun op answer => ⟨.inl op, answer⟩ :=
  fun _ _ _ _ responds => responds

theorem records_self : Records (recording sig) Sigma.mk :=
  fun _ _ _ _ responds => responds

variable
  {env : Environment first Unit (List (Event sig))}
  {embed : (op : first.Op) → first.Answer op → Event sig}
  {log : List (Event sig)}

theorem stepwise_guarantee {event : Event sig} (permitted : allowed log event.1) :
    (Contract.stepwise allowed).guarantee () log (log ++ [event]) :=
  fun before => eachStep_append_singleton.mpr ⟨before, permitted⟩

/-- A call that the calls before allow. -/
theorem ensures_allowed (records : Records env embed) {op : first.Op}
    {post : first.Answer op → List (Event sig) → Prop}
    (permitted : ∀ answer, allowed log (embed op answer).1)
    (reached : ∀ answer, post answer (log ++ [embed op answer])) :
    Ensures env (.stepwise allowed) () (.perform op) post log := by
  intro answer after responds
  rw [records log op answer after responds]
  refine ⟨stepwise_guarantee (permitted answer), ?_⟩
  rintro later rfl -
  exact reached answer

/-- A program whose calls are always allowed extends the log. -/
theorem Confined.ensuresAllowed (records : Records env embed) {program : Program first β}
    {post : β → Prop}
    (confined : Confined (fun op => ∀ log answer, allowed log (embed op answer).1)
      (fun _ _ => True) program post) :
    Ensures env (.stepwise allowed) () program
      (fun value later => post value ∧ log <+: later) log := by
  apply Confined.ensures List.prefix_refl List.IsPrefix.trans _ _ _ confined trivial
  · intro _ _ _ _ _ _
    trivial
  · intro world op answer after permitted _ responds
    rw [records world op answer after responds]
    exact ⟨stepwise_guarantee (permitted world answer), List.prefix_append _ _⟩
  · rintro before after rfl
    exact List.prefix_refl _

end Effect
