/-!
# Interactions

An interaction is a computation that asks questions of somebody else, one after another, each
chosen with the answers so far in hand, until it is done. What the answers are is up to whoever
runs it.

## Main definitions

* `Interaction`: trees of questions
* `Interaction.run`: the answers come from a monad
-/

namespace RoundTable

/-- A computation that asks questions `op`, whose answers are of type `answer op`. -/
inductive Interaction (Op : Type) (answer : Op → Type) (α : Type) where
  /-- Nothing more to ask. -/
  | done (result : α)
  /-- A question, and how to go on with its answer. -/
  | ask (op : Op) (next : answer op → Interaction Op answer α)

namespace Interaction

variable {Op : Type} {answer : Op → Type} {α β : Type}

/-- One interaction and then another one that depends on its result. -/
def bind : Interaction Op answer α → (α → Interaction Op answer β) → Interaction Op answer β
  | done result, k => k result
  | ask op next, k => ask op fun a => (next a).bind k

instance : Monad (Interaction Op answer) where
  pure := done
  bind := bind

/-- The interaction that asks one question. -/
def question (op : Op) : Interaction Op answer (answer op) := ask op done

/-- Runs an interaction with answers from a monad. -/
def run {m : Type → Type} [Monad m] (resolve : (op : Op) → m (answer op)) :
    Interaction Op answer α → m α
  | done result => pure result
  | ask op next => do
    let a ← resolve op
    (next a).run resolve

end Interaction

end RoundTable
