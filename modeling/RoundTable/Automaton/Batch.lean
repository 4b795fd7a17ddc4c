import RoundTable.Automaton.Send

/-!
# Batches step by step

The sends of a batch start in order, before the store folds anything. From then on the store goes
through its queue, and each sender goes on by itself once the store is done with its event: it
records the passage of its event, or goes back to the phase before. Which sender goes on first is
open, also among those with whose events the store is done, and so is how far the store has got
meanwhile. Any sequence of labels that brings all senders to their end is a possible course of a
batch; `Machine.sendAll` is the one in which the store settles and the senders then go on in the
order in which they were started.

What a batch is meant to come to can be said without the store: each event is judged in the phase to
which the valid ones before it lead, with the payload from before the batch.

## Main definitions

* `BatchLabel`, `goingOn`: who takes a step, and the order in which the senders go on
* `BatchStage`, `Machine.goOn?`: where a sender is, and what it does when it goes on
* `Machine.batch?`: a course of a batch
* `Valid`, `Machine.judged`: the events of a batch, judged one after another
* `Machine.Endures`, `outcomes`: how many of them pass, and the results of the sends
* `passedAt?`, `lostAt?`: the valid events whose sends have succeeded or failed, by their places
* `unwind`: where the sends that are lost leave the phase
* `Round`, `Machine.rounds`: sends and batches one after another
-/

namespace RoundTable

/-- Who takes a step while the sends of a batch are under way. -/
inductive BatchLabel where
  /-- The store. -/
  | store (move : StoreMove)
  /-- The sender with the given place in the batch. -/
  | sender (place : Nat)

/-- The places of the senders that take a step, in the order in which they do. -/
def goingOn (labels : List BatchLabel) : List Nat :=
  labels.filterMap fun
    | .store _ => none
    | .sender place => some place

/-- Where the sender of an event of a batch is. -/
inductive BatchStage (φ κ ε : Type) where
  /-- It waits until the store is done with its event. -/
  | waiting (sending : Sending φ κ)
  /-- It is through. -/
  | through (result : Except (TransitionError φ ε) Unit)

namespace BatchStage

variable {φ κ ε : Type}

/-- Where a sender is when it has started: if its send has failed, it is through. -/
def ofStart : Except (TransitionError φ ε) (Sending φ κ) → BatchStage φ κ ε
  | .error error => through (.error error)
  | .ok sending => waiting sending

/-- The result of a sender that is through. -/
def result? : BatchStage φ κ ε → Option (Except (TransitionError φ ε) Unit)
  | waiting _ => none
  | through result => some result

end BatchStage

/-- An event that has passed validation. -/
structure Valid (φ ε : Type) where
  /-- The phase in which it was validated. -/
  source : φ
  /-- The phase that it leads to. -/
  target : φ
  /-- The event. -/
  event : ε

/-- The valid events among those that were judged. -/
def validOf {φ ε : Type} (judged : List (Except (TransitionError φ ε) (Valid φ ε))) :
    List (Valid φ ε) :=
  judged.filterMap Except.toOption

/-- The phase after the given events have been lost: one after another their senders go back, each
if the phase is the one that it has published. -/
def unwind {φ ε : Type} [DecidableEq φ] (phase : φ) (lost : List (Valid φ ε)) : φ :=
  lost.foldl (fun phase valid => if phase = valid.target then valid.source else phase) phase

/-- The phase to which valid events lead. -/
def lastPhase {φ ε : Type} (phase : φ) (valid : List (Valid φ ε)) : φ :=
  (valid.getLast?.map Valid.target).getD phase

/-- The valid event with a place in a batch, if its send has succeeded. -/
def passedAt? {φ ε : Type} (judged : List (Except (TransitionError φ ε) (Valid φ ε)))
    (results : List (Except (TransitionError φ ε) Unit)) (place : Nat) : Option (Valid φ ε) :=
  match judged[place]?, results[place]? with
  | some (.ok valid), some (.ok ()) => some valid
  | _, _ => none

/-- The valid event with a place in a batch, if its send has failed. -/
def lostAt? {φ ε : Type} (judged : List (Except (TransitionError φ ε) (Valid φ ε)))
    (results : List (Except (TransitionError φ ε) Unit)) (place : Nat) : Option (Valid φ ε) :=
  match judged[place]?, results[place]? with
  | some (.ok valid), some (.error _) => some valid
  | _, _ => none

/-- What somebody sends who waits for all results before sending more. -/
inductive Round (ε : Type) where
  /-- One event. -/
  | one (event : ε)
  /-- Several events at once. -/
  | batch (events : List ε)

/-- The results of a batch whose events were judged as given, if as many of the valid ones pass as
given: the first valid ones pass, and the store loses the others. -/
def outcomes {φ ε : Type} :
    Nat → List (Except (TransitionError φ ε) (Valid φ ε)) → List (Except (TransitionError φ ε) Unit)
  | _, [] => []
  | n, .error error :: rest => .error error :: outcomes n rest
  | 0, .ok _ :: rest => .error (.store .closed) :: outcomes 0 rest
  | n + 1, .ok _ :: rest => .ok () :: outcomes n rest

namespace Machine

variable {φ κ ε σ : Type} [DecidableEq φ] [DecidableEq κ] [Tagged ε κ]

/-! ### Courses of a batch -/

/-- A sender goes on once the store is done with its event; `none` if it has to wait. -/
def finish? (machine : Machine φ κ ε σ) (sending : Sending φ κ) :
    Option (Machine φ κ ε σ × Except (TransitionError φ ε) Unit) :=
  (machine.store.commitResult? sending.ticket).map fun
    | .ok () => (machine.record sending, .ok ())
    | .error _ => (machine.retreat sending, .error (.store .closed))

/-- The sender with the given place goes on; `none` if there is none, if it has to wait, or if it is
through. -/
def goOn? (machine : Machine φ κ ε σ) (senders : List (BatchStage φ κ ε)) (place : Nat) :
    Option (Machine φ κ ε σ × List (BatchStage φ κ ε)) :=
  match senders[place]? with
  | some (.waiting sending) =>
    (machine.finish? sending).map fun (machine, result) =>
      (machine, senders.set place (.through result))
  | _ => none

/-- Takes steps in the order of their labels until all senders are through; `none` if a step cannot
be taken, or if the senders do not come to an end. -/
def bringThrough? (machine : Machine φ κ ε σ) (senders : List (BatchStage φ κ ε)) :
    List BatchLabel → Option (Machine φ κ ε σ × List (Except (TransitionError φ ε) Unit))
  | [] => (senders.mapM BatchStage.result?).map fun results => (machine, results)
  | .store move :: labels =>
    (machine.storeStep? move).bind fun next => next.bringThrough? senders labels
  | .sender place :: labels =>
    (machine.goOn? senders place).bind fun next => next.1.bringThrough? next.2 labels

/-- Sends a batch of events: all sends start in order, and then steps are taken in the order of
their labels. -/
def batch? (machine : Machine φ κ ε σ) (events : List ε) (labels : List BatchLabel) :
    Option (Machine φ κ ε σ × List (Except (TransitionError φ ε) Unit)) :=
  let (machine, started) := machine.startAll events
  machine.bringThrough? (started.map .ofStart) labels

/-! ### What a batch is meant to come to -/

/-- The events of a batch, judged one after another from a phase on: an event is validated in the
phase to which the valid ones before it lead, and with the payload that the machine has now. -/
def judged (machine : Machine φ κ ε σ) :
    φ → List ε → List (Except (TransitionError φ ε) (Valid φ ε))
  | _, [] => []
  | phase, event :: events =>
    match (machine.enter phase).validate event with
    | .error error => .error error :: machine.judged phase events
    | .ok target => .ok ⟨phase, target, event⟩ :: machine.judged target events

/-- The payload after events. -/
def payloadAfter (machine : Machine φ κ ε σ) (valid : List (Valid φ ε)) : σ :=
  (valid.map Valid.event).foldl machine.store.reduce machine.payload

/-- The given number of events is the greatest one such that the inspector does not break down on
any payload after as many of them or fewer. -/
structure Endures (machine : Machine φ κ ε σ) (valid : List (Valid φ ε)) (n : Nat) : Prop where
  /-- There are as many events. -/
  le : n ≤ valid.length
  /-- It does not break down. -/
  endures : ∀ k < n, machine.store.breaks (machine.payloadAfter (valid.take (k + 1))) = false
  /-- It breaks down on the next payload, if there is one. -/
  breaks : n < valid.length →
    machine.store.breaks (machine.payloadAfter (valid.take (n + 1))) = true

/-- What the history says about an event that has passed. -/
def passage (machine : Machine φ κ ε σ) (valid : Valid φ ε) : Passage φ κ :=
  ⟨valid.source, valid.target, tag valid.event, machine.clock⟩

/-! ### Rounds -/

/-- One round and its results, in the course in which the store settles before anybody goes on. -/
def round (machine : Machine φ κ ε σ) :
    Round ε → Machine φ κ ε σ × List (Except (TransitionError φ ε) Unit)
  | .one event => ((machine.send event).1, [(machine.send event).2])
  | .batch events => machine.sendAll events

/-- The machine after rounds, one after another. -/
def rounds (machine : Machine φ κ ε σ) (past : List (Round ε)) : Machine φ κ ε σ :=
  past.foldl (fun machine round => (machine.round round).1) machine

end Machine

end RoundTable
