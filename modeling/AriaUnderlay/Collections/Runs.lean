import Mathlib

/-!
# Steps of a run

A run is a list of steps.  `EachStep` says something of every step together with the steps before
it: of a tick together with what was observed earlier, or of an event in a log together with what
the log held by then.
-/

namespace Collections

variable {Step : Type}

/-- Every step of the run, together with the steps before it, satisfies the predicate. -/
def EachStep (holds : List Step → Step → Prop) (run : List Step) : Prop :=
  ∀ earlier step, earlier ++ [step] <+: run → holds earlier step

variable {holds : List Step → Step → Prop} {run : List Step} {last : Step}

@[simp]
theorem eachStep_nil : EachStep holds [] := by
  intro earlier step part
  simp at part

/-- A run one step longer. -/
theorem eachStep_append_singleton :
    EachStep holds (run ++ [last]) ↔ EachStep holds run ∧ holds run last := by
  constructor
  · intro each
    constructor
    · intro earlier step part
      exact each earlier step (part.trans (List.prefix_append _ _))
    · exact each run last (List.prefix_refl _)
  · rintro ⟨each, atLast⟩ earlier step part
    rcases List.prefix_concat_iff.mp part with whole | within
    · rcases List.append_inj' whole rfl with ⟨rfl, sameStep⟩
      rw [List.singleton_inj.mp sameStep]
      exact atLast
    · exact each earlier step within

theorem eachStep_cons {first : Step} :
    EachStep holds (first :: run) ↔
      holds [] first ∧ EachStep (fun earlier => holds (first :: earlier)) run := by
  induction run using List.reverseRecOn with
  | nil =>
      have single : EachStep holds ([] ++ [first]) ↔ EachStep holds [] ∧ holds [] first :=
        eachStep_append_singleton
      simpa using single
  | append_singleton run last ih =>
      rw [← List.cons_append, eachStep_append_singleton, ih, eachStep_append_singleton, and_assoc]

theorem EachStep.mono {weaker : List Step → Step → Prop} (each : EachStep holds run)
    (weaken : ∀ earlier step, holds earlier step → weaker earlier step) :
    EachStep weaker run :=
  fun earlier step part => weaken earlier step (each earlier step part)

/-- A run in which every step is satisfied can be recognized step by step. -/
instance decidableEachStep : (holds : List Step → Step → Prop) →
    [∀ earlier step, Decidable (holds earlier step)] → (run : List Step) →
      Decidable (EachStep holds run)
  | _, _, [] => .isTrue eachStep_nil
  | holds, _, first :: run =>
      have := decidableEachStep (fun earlier => holds (first :: earlier)) run
      decidable_of_iff _ eachStep_cons.symm

end Collections
