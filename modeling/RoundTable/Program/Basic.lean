import RoundTable.Interaction
import RoundTable.Reply

/-!
# Programs

A program describes what happens in a turn without doing it. It is either done, or it has one step
pending and a queue of continuations: the first takes the answer to the step, and each takes the
result of the program before it. To go on after a program is to put a continuation at the end of its
queue; so to resume a program with an answer takes work in the length of the chain only once, no
matter how the chain was nested when it was put together.

## Main definitions

* `Program`, `Queue`: programs and their continuations
* `Queue.settle`: feeds a value through a queue
* `Program.andThen`, `Program.map`, `Program.followedBy`: putting programs together
* `Program.tree`: the steps of a program as an interaction
-/

namespace RoundTable

mutual

/-- What happens in a turn, ending in a value of type `α`. Whatever the answers to its steps are, a
program is done after finitely many of them: programs that ask again without end are left out. -/
inductive Program : Type → Type 1 where
  /-- Nothing left to do. -/
  | done {α : Type} (result : α) : Program α
  /-- A step is pending. -/
  | step {α : Type} (request : Request) (rest : Queue request.Answer α) : Program α

/-- Continuations that lead from a value of type `α` to one of type `β`. -/
inductive Queue : Type → Type → Type 1 where
  /-- No continuations. -/
  | nil {α : Type} : Queue α α
  /-- A continuation and those after it. -/
  | cons {α β γ : Type} (first : α → Program β) (rest : Queue β γ) : Queue α γ

end

namespace Queue

/-- One queue after another. -/
def append {α β γ : Type} : Queue α β → Queue β γ → Queue α γ
  | nil, after => after
  | cons first rest, after => cons first (rest.append after)

/-- Feeds a value through a queue until a step is pending or the queue is empty. -/
def settle {α β : Type} (value : α) : Queue α β → Program β
  | nil => .done value
  | cons first rest =>
    match first value with
    | .done result => rest.settle result
    | .step request inner => .step request (inner.append rest)

end Queue

namespace Program

variable {α β : Type}

/-! ### Putting programs together -/

/-- Goes on with the program that a program's result leads to. -/
def andThen : Program α → (α → Program β) → Program β
  | done result, next => next result
  | step request rest, next => step request (rest.append (.cons next .nil))

/-- Changes the result. -/
def map (f : α → β) (program : Program α) : Program β := program.andThen fun a => done (f a)

/-- Runs one program for its steps only and then another one. -/
def followedBy (program : Program α) (other : Program β) : Program β :=
  program.andThen fun _ => other

instance : Monad Program where
  pure := done
  bind := andThen

/-! ### Looking at programs -/

/-- Whether nothing is left to do. -/
def isDone : Program α → Bool
  | done _ => true
  | step _ _ => false

/-- The pending step. -/
def request? : Program α → Option Request
  | done _ => none
  | step request _ => some request

/-- Who has to resolve the pending step. -/
def side? (program : Program α) : Option Side := program.request?.map Request.side

instance [Text.HasForm α] : Text.HasForm (Program α) where
  form
    | done result => .tuple "Done" [Text.form result]
    | step request _ => .tuple "Step" [Text.form request]

end Program

/-! ### Steps as interactions -/

/-- A tree of steps. -/
abbrev StepTree (α : Type) : Type := Interaction Request Request.Answer α

mutual

/-- The steps of a program. -/
def Program.tree {α : Type} : Program α → StepTree α
  | .done result => .done result
  | .step request rest => .ask request rest.tree

/-- The steps of what a queue makes of a value. -/
def Queue.tree {α β : Type} : Queue α β → α → StepTree β
  | .nil => .done
  | .cons first rest => fun value => (first value).tree.bind rest.tree

end

/-! ### Requests as programs -/

namespace Request

/-- The program of one step. -/
def resolved (request : Request) : Program request.Answer := .step request .nil

/-- The program of one step that ends in the reply to it. -/
def program (request : Request) : Program Reply := request.resolved.map request.expectation.wrap

end Request

end RoundTable
