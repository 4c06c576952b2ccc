import AriaUnderlay.Core.Effects

/-!
# Runs of a single task

A task that runs alone is determined by what its environment answers.  An oracle supplies those
answers, one for each interaction and each position in the run; the stores correct them where they
have to report what they hold.  `runAlone` executes a program against an oracle and `Served` is the
proof rule for such runs.  `restartAfter` executes a part of a program and restarts the process.
-/

namespace AriaUnderlay

open Effect

abbrev Oracle : Type :=
  (op : CoreOp) → ℕ → op.Answer

/-- A device under the name by which the inventory keeps it. -/
def ManagedDevice.named (managed : ManagedDevice) (deviceId : DeviceId) : ManagedDevice :=
  { managed with info := { managed.info with id := deviceId } }

/-- Replace what an oracle says about the content of a store by that content. -/
def World.settle (world : World) : (op : CoreOp) → op.Answer → op.Answer
  | .inventoryGet _ deviceId, .ok managed => .ok (managed.named deviceId)
  | .journalGet txId, .ok _ => .ok world.journal[txId]?
  | .journalListRecoverable, .ok _ => .ok (recoverableRecords world.journal)
  | .shadowGet deviceId, .ok _ => .ok world.shadows[deviceId]?
  | _, answer => answer

theorem faithful_settle (world : World) (op : CoreOp) (answer : op.Answer) :
    Faithful world op (world.settle op answer) := by
  cases op <;> first | trivial | (cases answer <;> trivial)

def serve (oracle : Oracle) : Program.Handler coreSignature (World × ℕ) :=
  fun op state =>
    let answer := state.1.settle op (oracle op state.2)
    (answer, state.1.after 0 op answer, state.2 + 1)

/-- The result and the final world of a program that runs alone. -/
def runAlone {α : Type} (oracle : Oracle) (program : Core α) (world : World) : α × World :=
  let final := program.eval (serve oracle) (world, 0)
  (final.1, final.2.1)

/-- The environment of a task that runs alone against an oracle. -/
def servedBy (oracle : Oracle) : Environment coreSignature Thread World where
  respond := fun _ world op answer after =>
    ∃ position, answer = world.settle op (oracle op position) ∧ after = world.after 0 op answer
  restart := World.restart

section Served

variable {α : Type} (oracle : Oracle)

abbrev Served (program : Core α) (post : α → World → Prop) (world : World) : Prop :=
  Ensures (servedBy oracle) (Contract.alone Thread World) 0 program post world

theorem Served.runAlone {oracle : Oracle} {program : Core α} {post : α → World → Prop}
    {world : World} (served : Served oracle program post world) :
    post (runAlone oracle program world).1 (runAlone oracle program world).2 := by
  have conforms : ∀ (op : CoreOp) (state : World × ℕ),
      (servedBy oracle).respond 0 state.1 op (serve oracle op state).1
        (serve oracle op state).2.1 :=
    fun op state => ⟨state.2, rfl, rfl⟩
  exact Ensures.eval Prod.fst (world, 0) conforms served

theorem served_call {op : CoreOp} {next : op.Answer → Core α} {post : α → World → Prop}
    {world : World} :
    Served oracle (.call op next) post world ↔
      ∀ position, Served oracle (next (world.settle op (oracle op position))) post
        (world.after 0 op (world.settle op (oracle op position))) := by
  constructor
  · intro served position
    exact (served _ _ ⟨position, rfl, rfl⟩).2 _ rfl trivial
  · rintro served answer after ⟨position, rfl, rfl⟩
    refine ⟨trivial, ?_⟩
    rintro later rfl -
    exact served position

end Served

/-! ## Runs of a process that is restarted -/

/-- The identifier is new. -/
def World.unused (world : World) (txId : String) : Bool :=
  (world.drawn txId).isNone && world.journal[txId]?.isNone && (world.history txId).isEmpty

/-- Decide whether the locks and the transaction names allow an answer. -/
def available (world : World) : (op : CoreOp) → op.Answer → Bool
  | .acquire deviceId, _ => (world.locks deviceId).isNone
  | .acquireWithPolicy deviceIds, .ok _ =>
      deviceIds.all fun deviceId => (world.locks deviceId).isNone
  | .acquireWithPolicy _, .error error => match error with
      | .adapterOperation code _ retryable errors =>
          code = "ENDPOINT_LOCK_TIMEOUT" && retryable && errors.isEmpty
      | _ => false
  | .newTxId, txId => world.unused txId
  | _, _ => true

theorem available_sound {world : World} {op : CoreOp} {answer : op.Answer}
    (checked : available world op answer = true) :
    Available world op answer := by
  cases op with
  | acquire deviceId => exact Option.isNone_iff_eq_none.mp checked
  | newTxId =>
      simp only [available, World.unused, Bool.and_eq_true, Option.isNone_iff_eq_none,
        List.isEmpty_iff] at checked
      exact ⟨checked.1.1, checked.1.2, checked.2⟩
  | acquireWithPolicy deviceIds =>
      cases answer with
      | ok _ =>
          intro deviceId isDevice
          exact Option.isNone_iff_eq_none.mp (List.all_eq_true.mp checked deviceId isDevice)
      | error error =>
          cases error with
          | adapterOperation code message retryable errors =>
              simp only [available, Bool.and_eq_true, decide_eq_true_eq, List.isEmpty_iff]
                at checked
              obtain ⟨⟨rfl, rfl⟩, rfl⟩ := checked
              exact ⟨message, rfl⟩
          | _ => cases checked
  | _ => trivial

/-- The world after some calls of a program, if the locks and the names allow them. -/
def advance (oracle : Oracle) : ℕ → Core Unit → World → ℕ → Option World
  | 0, _, world, _ => some world
  | limit + 1, program, world, position =>
      match program with
      | .done _ => some world
      | .call op next =>
          let answer := world.settle op (oracle op position)
          if available world op answer then
            advance oracle limit (next answer) (world.after 0 op answer) (position + 1)
          else none

/-- The world in which the process starts anew after some calls of a program. -/
def restartAfter (oracle : Oracle) (limit : ℕ) (program : Core Unit)
    (world : World) : Option World :=
  (advance oracle limit program world 0).map World.restart

section Restart

variable {entry : Core Unit → Prop} {initial world later : World} {oracle : Oracle}

theorem reachable_restart_of_advance {pool : Pool coreSignature Thread World} {limit position : ℕ}
    {program : Core Unit} (reachable : Pool.Reachable coreEnvironment entry initial pool)
    (running : pool.threads 0 = some program)
    (advances : advance oracle limit program pool.world position = some later) :
    Pool.Reachable coreEnvironment entry initial (Pool.idle later.restart) := by
  induction limit generalizing pool program position with
  | zero =>
      obtain rfl := Option.some_inj.mp advances
      exact reachable.tail .crash
  | succ limit ih =>
      cases program with
      | done _ =>
          obtain rfl := Option.some_inj.mp advances
          exact reachable.tail .crash
      | call op next =>
          simp only [advance] at advances
          split at advances
          · rename_i checked
            refine ih (reachable.tail (.run running
              ⟨faithful_settle _ _ _, available_sound checked, rfl⟩)) ?_ advances
            simp
          · cases advances

/-- Running a task for a while and restarting the process is a run of the process. -/
theorem reachable_restartAfter {limit : ℕ} {program : Core Unit}
    (reachable : Pool.Reachable coreEnvironment entry initial (Pool.idle world))
    (enters : entry program) (restarts : restartAfter oracle limit program world = some later) :
    Pool.Reachable coreEnvironment entry initial (Pool.idle later) := by
  obtain ⟨last, advances, rfl⟩ := Option.map_eq_some_iff.mp restarts
  have spawns : Pool.Step coreEnvironment entry (Pool.idle world)
      ⟨world, Function.update (fun _ => none) 0 (some program)⟩ := .spawn rfl enters
  exact reachable_restart_of_advance (reachable.tail spawns) (by simp) advances

end Restart

end AriaUnderlay
