import AriaUnderlay.Effect.Interleaving

/-!
# Reads and replacements that do not overlap

Threads that read a shared value and later replace it lose no change if nobody else replaces it in
between.  `serializedBy` recognizes the runs in which this is so.  A thread that reads and never
replaces stands in nobody's way.
-/

namespace Effect

variable {sig : Signature} {Thread World : Type} [DecidableEq Thread]
  {reads replaces : sig.Op → Bool}

theorem ownEvents_eq_cons {thread : Thread} {run : List (Thread × Event sig)} {event : Event sig}
    {rest : List (Event sig)} (own : ownEvents thread run = event :: rest) :
    ∃ before after, run = before ++ (thread, event) :: after ∧ ownEvents thread after = rest := by
  rcases List.filterMap_eq_cons_iff.mp own with ⟨before, ⟨other, found⟩, after, rfl, -, here, later⟩
  rw [Option.ite_none_right_eq_some, Option.some.injEq] at here
  rcases here with ⟨rfl, rfl⟩
  exact ⟨before, after, rfl, later⟩

/-- If the thread replaces the value, nobody else does so first. -/
def replacesFirst (replaces : sig.Op → Bool) (thread : Thread) :
    List (Thread × Event sig) → Bool
  | [] => true
  | step :: rest =>
      if replaces step.2.1 then
        step.1 = thread || rest.all fun later => later.1 ≠ thread || !replaces later.2.1
      else replacesFirst replaces thread rest

/-- Between a read of a thread and its replacement, no other thread replaces the value. -/
def serializedBy (reads replaces : sig.Op → Bool) : List (Thread × Event sig) → Bool
  | [] => true
  | step :: rest =>
      (!reads step.2.1 || replacesFirst replaces step.1 rest) && serializedBy reads replaces rest

theorem not_replaces_of_replacesFirst {thread : Thread} {between later : List (Thread × Event sig)}
    {event : Event sig}
    (first : replacesFirst replaces thread (between ++ (thread, event) :: later) = true)
    (isReplacement : replaces event.1 = true)
    (ownKept : ∀ step ∈ between, step.1 = thread → replaces step.2.1 = false) :
    ∀ step ∈ between, replaces step.2.1 = false := by
  induction between with
  | nil => simp
  | cons step between ih =>
      rw [List.cons_append, replacesFirst] at first
      split at first
      case isTrue isOther =>
        -- a replacement by somebody else would forbid the one of the thread
        exfalso
        rw [Bool.or_eq_true, decide_eq_true_eq] at first
        rcases first with same | none
        · simp [ownKept step List.mem_cons_self same] at isOther
        · have refused := List.all_eq_true.mp none (thread, event) (by simp)
          simp [isReplacement] at refused
      case isFalse kept =>
        have keptLater := ih first fun other member => ownKept other (List.mem_cons_of_mem _ member)
        exact List.forall_mem_cons.mpr ⟨Bool.eq_false_of_not_eq_true kept, keptLater⟩

theorem replacesFirst_of_serializedBy {before later : List (Thread × Event sig)}
    {step : Thread × Event sig}
    (serialized : serializedBy reads replaces (before ++ step :: later) = true)
    (isRead : reads step.2.1 = true) :
    replacesFirst replaces step.1 later = true := by
  induction before with
  | nil =>
      rw [List.nil_append, serializedBy, Bool.and_eq_true, isRead] at serialized
      simpa using serialized.1
  | cons other before ih =>
      rw [List.cons_append, serializedBy, Bool.and_eq_true] at serialized
      exact ih serialized.2

/-- Nobody replaces the value between a read and the replacement of the same thread. -/
theorem not_replaces_of_serializedBy {thread : Thread}
    {before between later : List (Thread × Event sig)} {read replacement : Event sig}
    (serialized : serializedBy reads replaces
      (before ++ (thread, read) :: (between ++ (thread, replacement) :: later)) = true)
    (isRead : reads read.1 = true)
    (isReplacement : replaces replacement.1 = true)
    (ownKept : ∀ event ∈ ownEvents thread between, replaces event.1 = false) :
    ∀ step ∈ between, replaces step.2.1 = false := by
  have first := replacesFirst_of_serializedBy serialized isRead
  apply not_replaces_of_replacesFirst first isReplacement
  rintro ⟨_, event⟩ member rfl
  exact ownKept event (mem_ownEvents.mpr member)

omit [DecidableEq Thread] in
/-- A value that nobody replaces stays as it is. -/
theorem unchanged_of_not_replaces {env : Environment sig Thread World} {world after : World}
    {run : List (Thread × Event sig)}
    (keeps : ∀ thread world op answer after, env.respond thread world op answer after →
      replaces op = false → after = world)
    (ran : AnsweredBy env world run after)
    (kept : ∀ step ∈ run, replaces step.2.1 = false) :
    after = world := by
  induction run generalizing world with
  | nil => exact ran
  | cons step run ih =>
      rcases ran with ⟨next, responds, ran⟩
      rw [ih ran fun other member => kept other (List.mem_cons_of_mem _ member)]
      exact keeps _ _ _ _ _ responds (kept step List.mem_cons_self)

end Effect
