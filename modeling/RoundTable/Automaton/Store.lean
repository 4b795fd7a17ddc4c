import RoundTable.Automaton.Published
import RoundTable.Catalogue

/-!
# The store

A store holds a payload and folds events into it, one at a time and in the order in which they
entered its queue. The queue has one slot; whoever offers an event while the slot is taken waits in
line, and to move up from there into the free slot is a step of its own. The events are folded by
one loop, which takes an event out of the slot, computes the next payload, shows it to an inspector,
publishes it and confirms the event, in that order and each as a step of its own, so that the offers
of others may fall between any two of them.

The inspector may break down. Then the loop is over: nothing more is published, and all events that
have not been published are lost.

## Main definitions

* `Store`: a store with its queue and the stage of its loop
* `Store.offer`, `Store.tryOffer`, `Store.withdraw`: what those do who have events
* `Store.advance?`, `Store.promote?`: one step of the loop, and of the line
* `Store.settle`: as many steps as there are
* `Store.sendResult?`, `Store.commitResult?`: what became of an event
-/

namespace RoundTable

/-! ### Errors -/

/-- Why a store does not take an event. -/
inductive StoreError where
  /-- The slot is taken and the event cannot wait. -/
  | rejected
  /-- The loop is over. -/
  | closed
  deriving DecidableEq

namespace StoreError

instance : Catalogue StoreError where
  all := [rejected, closed]
  name
    | rejected => "Rejected"
    | closed => "Closed"

/-- What a store says. -/
def message : StoreError → String
  | rejected => "Event rejected: the store queue slot is occupied"
  | closed => "State store is closed"

end StoreError

/-! ### State -/

/-- An event that was offered, with the number of the offer. -/
structure Offer (ε : Type) where
  /-- The number of the offer. -/
  ticket : Nat
  /-- The event. -/
  event : ε

/-- What the loop is about to do. -/
inductive Stage (ε σ : Type) where
  /-- Take an event out of the slot. -/
  | idle
  /-- Compute the next payload. -/
  | folding (offer : Offer ε)
  /-- Show the next payload to the inspector. -/
  | inspecting (offer : Offer ε) (next : σ)
  /-- Publish the next payload. -/
  | publishing (offer : Offer ε) (next : σ)
  /-- Confirm the event. -/
  | confirming (offer : Offer ε)
  /-- Nothing any more. -/
  | ended

namespace Stage

variable {ε σ : Type}

/-- The offer that the loop works on. -/
def offer? : Stage ε σ → Option (Offer ε)
  | folding offer | inspecting offer _ | publishing offer _ | confirming offer => some offer
  | idle | ended => none

/-- The number of steps until the loop is done with the offer it works on. -/
def remaining : Stage ε σ → Nat
  | folding _ => 4
  | inspecting _ _ => 3
  | publishing _ _ => 2
  | confirming _ => 1
  | idle | ended => 0

end Stage

/-- A store of payloads `σ` that folds events `ε`. -/
structure Store (ε σ : Type) where
  /-- The payload after an event. -/
  reduce : σ → ε → σ
  /-- Whether the inspector breaks down on a payload. -/
  breaks : σ → Bool
  /-- The payload that everybody sees. -/
  payload : Published σ
  /-- What the loop is about to do. -/
  stage : Stage ε σ
  /-- The offer in the queue. -/
  slot : Option (Offer ε)
  /-- The offers in line for the queue, oldest first. -/
  waiting : List (Offer ε)
  /-- The offers that entered the queue, oldest first. -/
  entered : List (Offer ε)
  /-- The tickets that were confirmed, oldest first. -/
  confirmed : List Nat
  /-- How many tickets were issued. -/
  issued : Nat
  /-- The payloads that the inspector was shown, oldest first. -/
  shown : List σ

namespace Store

variable {ε σ : Type}

/-- A store with its first payload and an empty queue. -/
def opened (reduce : σ → ε → σ) (breaks : σ → Bool) (initial : σ) : Store ε σ where
  reduce
  breaks
  payload := .first initial
  stage := .idle
  slot := none
  waiting := []
  entered := []
  confirmed := []
  issued := 0
  shown := []

/-- Whether the loop is over. -/
def isClosed (store : Store ε σ) : Bool :=
  match store.stage with
  | .ended => true
  | _ => false

/-- Whether an event could enter the queue at once. -/
def hasRoom (store : Store ε σ) : Bool := store.slot.isNone && store.waiting.isEmpty

/-! ### Offers -/

/-- Puts an offer into the slot. -/
def enter (store : Store ε σ) (offer : Offer ε) : Store ε σ :=
  { store with slot := some offer, entered := store.entered ++ [offer] }

/-- Lets the first one in line enter the queue; `none` if the slot is taken or nobody waits. -/
def promote? (store : Store ε σ) : Option (Store ε σ) :=
  match store.slot, store.waiting with
  | none, offer :: rest => some (enter { store with waiting := rest } offer)
  | _, _ => none

/-- Offers an event: it enters the queue if there is room, and else gets in line. The result is the
ticket by which to ask what became of it. An offer to a closed store is lost at once. -/
def offer (store : Store ε σ) (event : ε) : Store ε σ × Nat :=
  let ticket := store.issued
  let store := { store with issued := ticket + 1 }
  if store.isClosed then (store, ticket)
  else
    let queued : Store ε σ := { store with waiting := store.waiting ++ [⟨ticket, event⟩] }
    (queued.promote?.getD queued, ticket)

/-- Offers events in order. -/
def offerAll (store : Store ε σ) : List ε → Store ε σ × List Nat
  | [] => (store, [])
  | event :: events =>
    let (store, ticket) := store.offer event
    let (store, tickets) := store.offerAll events
    (store, ticket :: tickets)

/-- Offers an event that cannot wait. -/
def tryOffer (store : Store ε σ) (event : ε) : Except StoreError (Store ε σ) :=
  if store.isClosed then .error .closed
  else if store.hasRoom then .ok (store.offer event).1
  else .error .rejected

/-- Takes an offer out of the line. One that has entered the queue stays there. -/
def withdraw (store : Store ε σ) (ticket : Nat) : Store ε σ :=
  { store with waiting := store.waiting.filter fun offer => offer.ticket ≠ ticket }

/-! ### The loop -/

/-- The loop is over, and all that was offered is lost. -/
def close (store : Store ε σ) : Store ε σ :=
  { store with stage := .ended, slot := none, waiting := [] }

/-- One step of the loop; `none` if it has nothing to do. -/
def advance? (store : Store ε σ) : Option (Store ε σ) :=
  match store.stage with
  | .idle => store.slot.map fun offer => { store with stage := .folding offer, slot := none }
  | .folding offer =>
    some { store with stage := .inspecting offer (store.reduce store.payload.value offer.event) }
  | .inspecting offer next =>
    let store := { store with shown := store.shown ++ [next] }
    if store.breaks next then some store.close
    else some { store with stage := .publishing offer next }
  | .publishing offer next =>
    some { store with payload := store.payload.publish next, stage := .confirming offer }
  | .confirming offer =>
    some { store with confirmed := store.confirmed ++ [offer.ticket], stage := .idle }
  | .ended => none

/-- One step of the loop, or, if it has nothing to do, of the line. -/
def next? (store : Store ε σ) : Option (Store ε σ) := store.advance?.or store.promote?

/-- The number of steps without further offers, if nothing breaks: five for an offer in the slot,
and one more for an offer in line. -/
def workload (store : Store ε σ) : Nat :=
  store.stage.remaining + 5 * store.slot.toList.length + 6 * store.waiting.length

/-- At most `n` steps. -/
def run : Nat → Store ε σ → Store ε σ
  | 0, store => store
  | n + 1, store =>
    match store.next? with
    | some store => run n store
    | none => store

/-- The store after all steps that there are. -/
def settle (store : Store ε σ) : Store ε σ := store.run store.workload

/-! ### What became of an offer -/

/-- Whether the store still has to deal with an offer. -/
def holds (store : Store ε σ) (ticket : Nat) : Bool :=
  (store.stage.offer?.toList ++ store.slot.toList ++ store.waiting).any fun offer =>
    offer.ticket == ticket

/-- What a sender learns who is content once the event is in the queue; `none` while it waits. -/
def sendResult? (store : Store ε σ) (ticket : Nat) : Option (Except StoreError Unit) :=
  if store.entered.any fun offer => offer.ticket == ticket then some (.ok ())
  else if store.waiting.any fun offer => offer.ticket == ticket then none
  else some (.error .closed)

/-- What a sender learns who waits until the event has been published; `none` before that. -/
def commitResult? (store : Store ε σ) (ticket : Nat) : Option (Except StoreError Unit) :=
  if ticket ∈ store.confirmed then some (.ok ())
  else if store.holds ticket then none
  else some (.error .closed)

end Store

/-! ### Stores that are held back -/

/-- A store whose loop needs a permit for each payload that it computes. -/
structure GatedStore (ε σ : Type) where
  /-- The store. -/
  store : Store ε σ
  /-- The permits left; `none` if the loop needs none. -/
  permits : Option Nat

namespace GatedStore

variable {ε σ : Type}

/-- One step of the loop, if it has something to do and any permit that takes. -/
def advance? (gated : GatedStore ε σ) : Option (GatedStore ε σ) :=
  match gated.store.stage, gated.permits with
  | .folding _, some 0 => none
  | .folding _, some (n + 1) => gated.store.advance?.map fun store => ⟨store, some n⟩
  | _, permits => gated.store.advance?.map fun store => ⟨store, permits⟩

/-- One step of the loop, or, if it has nothing to do or no permit, of the line. -/
def next? (gated : GatedStore ε σ) : Option (GatedStore ε σ) :=
  gated.advance?.or (gated.store.promote?.map fun store => { gated with store })

/-- At most `n` steps. -/
def run : Nat → GatedStore ε σ → GatedStore ε σ
  | 0, gated => gated
  | n + 1, gated =>
    match gated.next? with
    | some gated => run n gated
    | none => gated

/-- The store after all steps that there are permits for. -/
def settle (gated : GatedStore ε σ) : GatedStore ε σ := gated.run gated.store.workload

/-- Hands out more permits. -/
def release (gated : GatedStore ε σ) (n : Nat) : GatedStore ε σ :=
  { gated with permits := gated.permits.map (· + n) }

end GatedStore

end RoundTable
