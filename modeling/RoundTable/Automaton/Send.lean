import RoundTable.Automaton.Machine

/-!
# Sends step by step

`Machine.send` does its work in one go. Here the same work is cut into the steps between which
others may come: the sender's own, from looking the edge up to recording the passage or going back,
and those of the store, which folds the event meanwhile. Any sequence of labels is a possible course
of a send.

## Main definitions

* `SendStage`: what a sender is about to do
* `Machine.sendStep?`: one step of the sender
* `StoreMove`, `Machine.storeStep?`: one step of the store
* `SendLabel`, `Machine.course?`: a course of steps
-/

namespace RoundTable

/-- What a sender is about to do. -/
inductive SendStage (φ κ ε : Type) where
  /-- Find the edge that decides about the event, and evaluate its guard. -/
  | validating (event : ε)
  /-- Publish the phase that the edge enters. -/
  | publishing (event : ε) (source target : φ)
  /-- Offer the event to the store. -/
  | offering (event : ε) (source target : φ)
  /-- Wait until the store is done with the event. -/
  | waiting (sending : Sending φ κ)
  /-- Record the passage. -/
  | recording (sending : Sending φ κ)
  /-- Go back to the phase before, unless another one was published since. -/
  | retreating (sending : Sending φ κ)
  /-- Nothing any more. -/
  | finished (result : Except (TransitionError φ ε) Unit)

/-- Who takes a step of a store. -/
inductive StoreMove where
  /-- The loop. -/
  | loop
  /-- The first one in line. -/
  | line

/-- Who takes a step in the course of a send. -/
inductive SendLabel where
  /-- The sender. -/
  | sender
  /-- The store. -/
  | store (move : StoreMove)

/-- One step of a store; `none` if whose turn it is has nothing to do. -/
def Store.move? {ε σ : Type} (store : Store ε σ) : StoreMove → Option (Store ε σ)
  | .loop => store.advance?
  | .line => store.promote?

namespace Machine

variable {φ κ ε σ : Type} [DecidableEq φ] [DecidableEq κ] [Tagged ε κ]

/-- Notes the tests that validation evaluates. -/
def note (machine : Machine φ κ ε σ) (event : ε) : Machine φ κ ε σ :=
  { machine with checked := machine.checked ++ machine.checkedFor event }

/-- One step of a sender; `none` if it has to wait, or has nothing to do any more. -/
def sendStep? (machine : Machine φ κ ε σ) :
    SendStage φ κ ε → Option (Machine φ κ ε σ × SendStage φ κ ε)
  | .validating event =>
    match machine.validate event with
    | .error error => some (machine.note event, .finished (.error error))
    | .ok target => some (machine.note event, .publishing event machine.phase.value target)
  | .publishing event source target => some (machine.enter target, .offering event source target)
  | .offering event source target =>
    let (store, ticket) := machine.store.offer event
    some ({ machine with store }, .waiting { source, target, tag := tag event, ticket })
  | .waiting sending =>
    match machine.store.commitResult? sending.ticket with
    | none => none
    | some (.ok ()) => some (machine, .recording sending)
    | some (.error _) => some (machine, .retreating sending)
  | .recording sending => some (machine.record sending, .finished (.ok ()))
  | .retreating sending => some (machine.retreat sending, .finished (.error (.store .closed)))
  | .finished _ => none

/-- One step of the store of a machine. -/
def storeStep? (machine : Machine φ κ ε σ) (move : StoreMove) : Option (Machine φ κ ε σ) :=
  (machine.store.move? move).map fun store => { machine with store }

/-- Takes steps in the order of their labels; `none` if one of them cannot be taken. -/
def course? (machine : Machine φ κ ε σ) (stage : SendStage φ κ ε) :
    List SendLabel → Option (Machine φ κ ε σ × SendStage φ κ ε)
  | [] => some (machine, stage)
  | .sender :: labels =>
    (machine.sendStep? stage).bind fun next => next.1.course? next.2 labels
  | .store move :: labels =>
    (machine.storeStep? move).bind fun next => next.course? stage labels

/-- Sends events one after another, each when the one before is through. -/
def sendEach (machine : Machine φ κ ε σ) :
    List ε → Machine φ κ ε σ × List (Except (TransitionError φ ε) Unit)
  | [] => (machine, [])
  | event :: events =>
    let (machine, result) := machine.send event
    let (machine, results) := machine.sendEach events
    (machine, result :: results)

end Machine

end RoundTable
