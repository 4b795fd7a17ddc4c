import RoundTable.Automaton.Batch

/-!
# Deeds

Somebody who waits for all results before doing more can send one event or several at once, and can
also hand an event to the store alone, past the edges. Whatever is done is done by some course of
steps of the senders and of the store; the senders of a batch go on in any order, which is noted.

## Main definitions

* `Deed`, `Deed.sends`: what is done to a machine, and the events that it sends
* `Machine.Does`, `Machine.DoesAll`: a deed by some course, and deeds one after another
* `Machine.perform`, `Machine.performAll`: the courses in which the store settles at once, and the
  senders of a batch then go on in the order in which they were started
* `passedEvents`: the events whose sends have succeeded
* `Stretch`: what a deed adds to the history, as it is recorded and in the order of the sends
* `EdgeTable.Trail`: passages that lead on from phase to phase along the edges of a table
-/

namespace RoundTable

variable {φ κ ε σ : Type}

/-- What somebody does to a machine who waits for all results before doing more. -/
inductive Deed (ε : Type) where
  /-- Sends one event, or several at once. -/
  | round (round : Round ε)
  /-- Hands an event to the store alone. -/
  | commit (event : ε)

/-- The events that a deed sends. -/
def Deed.sends : Deed ε → List ε
  | round (.one event) => [event]
  | round (.batch events) => events
  | commit _ => []

/-- The events whose sends have succeeded. -/
def passedEvents (sent : List (ε × Except (TransitionError φ ε) Unit)) : List ε :=
  (sent.filter fun send => send.2.isOk).map Prod.fst

/-- What a deed adds to the history. -/
structure Stretch (φ κ ε : Type) where
  /-- The events that the deed sends, and the results. -/
  sent : List (ε × Except (TransitionError φ ε) Unit)
  /-- The passages as they are recorded. -/
  recorded : List (Passage φ κ)
  /-- The passages in the order of the sends. -/
  made : List (Passage φ κ)

/-- A stretch is what a deed adds whose senders go on in the given order. -/
structure Stretch.Follows [Tagged ε κ] (stretch : Stretch φ κ ε) (done : Deed ε × List Nat) :
    Prop where
  /-- Every event that the deed sends has a result. -/
  sends : stretch.sent.map Prod.fst = done.1.sends
  /-- There is a passage for each send that has succeeded. -/
  tags : stretch.made.map Passage.tag = (passedEvents stretch.sent).map tag
  /-- The passages are recorded as a rearrangement. -/
  perm : stretch.recorded.Perm stretch.made
  /-- This changes nothing if the senders go on in the order of the sends. -/
  eq : done.2.Pairwise (· < ·) → stretch.recorded = stretch.made

variable [DecidableEq φ] [DecidableEq κ] [Tagged ε κ]

namespace Machine

/-- A deed by some course of steps, with the places of the senders of a batch in the order in which
they go on, and with the events that the deed sends and the results. -/
inductive Does (before : Machine φ κ ε σ) : Deed ε → List Nat → Machine φ κ ε σ →
    List (ε × Except (TransitionError φ ε) Unit) → Prop where
  | one {event : ε} {labels : List SendLabel} {after : Machine φ κ ε σ}
    {result : Except (TransitionError φ ε) Unit}
    (course : before.course? (.validating event) labels = some (after, .finished result)) :
    Does before (.round (.one event)) [] after [(event, result)]
  | batch {events : List ε} {labels : List BatchLabel} {after : Machine φ κ ε σ}
    {results : List (Except (TransitionError φ ε) Unit)}
    (course : before.batch? events labels = some (after, results)) :
    Does before (.round (.batch events)) (goingOn labels) after (events.zip results)
  | commit {event : ε} {moves : List StoreMove} {store : Store ε σ}
    {result : Except StoreError Unit}
    (course : moves.foldlM Store.move? (before.store.offer event).1 = some store)
    (answer : store.commitResult? (before.store.offer event).2 = some result) :
    Does before (.commit event) [] { before with store } []

/-- Deeds one after another, with the order in which the senders go on in each, and with all the
events that they send and the results. -/
inductive DoesAll (before : Machine φ κ ε σ) : List (Deed ε) → List (List Nat) →
    Machine φ κ ε σ → List (ε × Except (TransitionError φ ε) Unit) → Prop where
  | nil : DoesAll before [] [] before []
  | concat {deeds : List (Deed ε)} {deed : Deed ε} {orders : List (List Nat)} {order : List Nat}
    {between after : Machine φ κ ε σ} {earlier sent : List (ε × Except (TransitionError φ ε) Unit)}
    (deeds_done : DoesAll before deeds orders between earlier)
    (deed_done : between.Does deed order after sent) :
    DoesAll before (deeds ++ [deed]) (orders ++ [order]) after (earlier ++ sent)

/-- A deed in the course in which the store settles before anybody goes on, and the senders of a
batch go on in the order in which they were started. -/
def perform (machine : Machine φ κ ε σ) :
    Deed ε → Machine φ κ ε σ × List (ε × Except (TransitionError φ ε) Unit)
  | .round round =>
    let (after, results) := machine.round round
    (after, (Deed.round round).sends.zip results)
  | .commit event => ((machine.commit event).1, [])

/-- Deeds one after another, each in that course. -/
def performAll (machine : Machine φ κ ε σ) (deeds : List (Deed ε)) :
    Machine φ κ ε σ × List (ε × Except (TransitionError φ ε) Unit) :=
  deeds.foldl (fun (machine, sent) deed =>
    let (after, more) := machine.perform deed
    (after, sent ++ more)) (machine, [])

end Machine

namespace EdgeTable

/-- A passage along the edge that decides about an event with its tag in the phase that it
leaves. -/
def Admits (table : EdgeTable φ κ ε σ) (passage : Passage φ κ) : Prop :=
  ∃ event edge, tag event = passage.tag ∧ table.select? passage.source event = some edge ∧
    edge.target = passage.target

/-- Passages from a phase to a phase along the edges of a table, each of which starts where the one
before it ended. -/
inductive Trail (table : EdgeTable φ κ ε σ) : φ → List (Passage φ κ) → φ → Prop where
  | nil {phase : φ} : Trail table phase [] phase
  | cons {first last : φ} {passage : Passage φ κ} {passages : List (Passage φ κ)}
    (source : passage.source = first) (admits : table.Admits passage)
    (rest : Trail table passage.target passages last) : Trail table first (passage :: passages) last

end EdgeTable

end RoundTable
