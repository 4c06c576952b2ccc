import AriaUnderlay.Effect.RelyGuarantee

/-!
# Programs over two signatures

The sum of two signatures has the operations of both.  A program over one of them is a program over
the sum that makes no calls of the other kind, and it does in an environment of the sum what it does
in the part of the environment that answers its calls.
-/

namespace Effect

variable {first second : Signature} {Thread World α β ε : Type}

def Signature.sum (first second : Signature) : Signature where
  Op := first.Op ⊕ second.Op
  Answer := fun
    | .inl op => first.Answer op
    | .inr op => second.Answer op

namespace Program

/-- A program of the first signature, over the sum. -/
def inLeft (second : Signature) : Program first α → Program (first.sum second) α
  | .done value => .done value
  | .call op next => .call (.inl op) fun answer => (next answer).inLeft second

/-- A program of the second signature, over the sum. -/
def inRight (first : Signature) : Program second α → Program (first.sum second) α
  | .done value => .done value
  | .call op next => .call (.inr op) fun answer => (next answer).inRight first

end Program

namespace Environment

/-- The part of the environment that answers the calls of the first signature. -/
def left (env : Environment (first.sum second) Thread World) :
    Environment first Thread World where
  respond := fun thread world op answer after => env.respond thread world (.inl op) answer after
  restart := env.restart

/-- The part of the environment that answers the calls of the second signature. -/
def right (env : Environment (first.sum second) Thread World) :
    Environment second Thread World where
  respond := fun thread world op answer after => env.respond thread world (.inr op) answer after
  restart := env.restart

end Environment

variable
  {env : Environment (first.sum second) Thread World}
  {contract : Contract Thread World}
  {thread : Thread}
  {post : α → World → Prop}
  {world : World}

theorem ensures_inLeft {program : Program first α} :
    Ensures env contract thread (program.inLeft second) post world ↔
      Ensures env.left contract thread program post world := by
  induction program generalizing world with
  | done value => rfl
  | call op next ih =>
      exact forall₃_congr fun answer after responds => and_congr_right fun _ =>
        forall₃_congr fun later relied holds => ih answer

theorem ensures_inRight {program : Program second α} :
    Ensures env contract thread (program.inRight first) post world ↔
      Ensures env.right contract thread program post world := by
  induction program generalizing world with
  | done value => rfl
  | call op next ih =>
      exact forall₃_congr fun answer after responds => and_congr_right fun _ =>
        forall₃_congr fun later relied holds => ih answer

end Effect
