import RoundTable.Automaton.Send

/-!
# Stores in use

Many may have a handle to one store and use it at once. There are three ways to hand it an event:
to wait until there is room in the queue, not to wait, and to wait until the event has been
published. A call is made at one time and returns at another, or its caller gives it up in between.
Meanwhile others make calls, look at the payload, and the store takes steps of its own; to get in
line and to move up into the queue are steps apart. Any sequence of labels is a possible course of
events.

## Main definitions

* `Delivery`, `StoreCall`: ways to hand over an event, and calls
* `StoreInUse`: a store, all calls so far, and what has been taken, folded and read
* `StoreInUse.step?`, `StoreInUse.run?`: courses of events
-/

namespace RoundTable

variable {ε σ : Type}

/-! ### Calls -/

/-- How an event is handed to a store. -/
inductive Delivery where
  /-- The caller waits until the event is in the queue. -/
  | queued
  /-- The caller does not wait. -/
  | atOnce
  /-- The caller waits until the event has been published. -/
  | published
  deriving DecidableEq

/-- Where a call stands. -/
inductive StoreCall.Status where
  /-- It has not returned. -/
  | underWay
  /-- It has returned. -/
  | returned (result : Except StoreError Unit)
  /-- The caller has given it up. -/
  | givenUp

/-- Whether a call has not returned and has not been given up. -/
def StoreCall.Status.isUnderWay : StoreCall.Status → Bool
  | underWay => true
  | returned _ | givenUp => false

/-- A call by which somebody hands an event to a store. -/
structure StoreCall (ε : Type) where
  /-- How the event is handed over. -/
  delivery : Delivery
  /-- The event. -/
  event : ε
  /-- The ticket of the offer that the call has made; none if it was refused before that. -/
  ticket : Option Nat
  /-- Where the call stands. -/
  status : StoreCall.Status

namespace Store

/-- Gets in line with an event, without moving up. At a closed store the event is lost. -/
def enlist (store : Store ε σ) (event : ε) : Store ε σ :=
  if store.isClosed then { store with issued := store.issued + 1 }
  else
    { store with
      waiting := store.waiting ++ [⟨store.issued, event⟩]
      issued := store.issued + 1 }

/-- To offer an event is to get in line and to let the first one in line move up. -/
theorem offer_eq_enlist (store : Store ε σ) (event : ε) :
    store.offer event =
      (if store.isClosed then store.enlist event
        else (store.enlist event).promote?.getD (store.enlist event), store.issued) := by
  have hissued : isClosed { store with issued := store.issued + 1 } = store.isClosed := rfl
  rw [offer, enlist]
  dsimp only
  rw [hissued]
  split
  · rfl
  · rfl

/-- What a caller learns of an offer, depending on how long it waits; none if it waits on. -/
def callResult? (store : Store ε σ) (ticket : Nat) :
    Delivery → Option (Except StoreError Unit)
  | .queued => store.sendResult? ticket
  | .atOnce => none
  | .published => store.commitResult? ticket

/-- The offer that the loop takes out of the queue if it takes a step. -/
def taking? (store : Store ε σ) : Option (Offer ε) :=
  match store.stage with
  | .idle => store.slot
  | _ => none

/-- The offer that the loop folds if it takes a step. -/
def folding? (store : Store ε σ) : Option (Offer ε) :=
  match store.stage with
  | .folding offer => some offer
  | _ => none

end Store

/-! ### Stores in use -/

/-- A store with everything that its handles were used for. -/
structure StoreInUse (ε σ : Type) where
  /-- The store. -/
  store : Store ε σ
  /-- The calls so far, oldest first. -/
  calls : List (StoreCall ε)
  /-- The offers that the loop has taken out of the queue, oldest first. -/
  taken : List (Offer ε)
  /-- The offers that the reducer was applied to, oldest first. -/
  folded : List (Offer ε)
  /-- The payloads that somebody has read, oldest first. -/
  reads : List σ

/-- What may happen next. -/
inductive StoreUse (ε : Type) where
  /-- Somebody makes a call. -/
  | call (delivery : Delivery) (event : ε)
  /-- A call returns; calls are counted from zero. -/
  | conclude (call : Nat)
  /-- A caller gives up. -/
  | giveUp (call : Nat)
  /-- Somebody reads the payload. -/
  | read
  /-- The store takes a step. -/
  | store (move : StoreMove)

namespace StoreInUse

/-- A store that nobody has used. -/
def opened (reduce : σ → ε → σ) (breaks : σ → Bool) (initial : σ) : StoreInUse ε σ where
  store := .opened reduce breaks initial
  calls := []
  taken := []
  folded := []
  reads := []

/-- Notes a call. -/
def note (use : StoreInUse ε σ) (call : StoreCall ε) : StoreInUse ε σ :=
  { use with calls := use.calls ++ [call] }

/-- A call is made. Who does not wait learns the result at once. -/
def call (use : StoreInUse ε σ) (delivery : Delivery) (event : ε) : StoreInUse ε σ :=
  match delivery with
  | .atOnce =>
    match use.store.tryOffer event with
    | .ok store =>
      { use with store }.note ⟨.atOnce, event, some use.store.issued, .returned (.ok ())⟩
    | .error error => use.note ⟨.atOnce, event, none, .returned (.error error)⟩
  | _ =>
    { use with store := use.store.enlist event }.note
      ⟨delivery, event, some use.store.issued, .underWay⟩

/-- The call of a number, with its ticket, if it is under way. -/
def pending? (use : StoreInUse ε σ) (number : Nat) : Option (StoreCall ε × Nat) := do
  let call ← use.calls[number]?
  let ticket ← call.ticket
  if call.status.isUnderWay then some (call, ticket) else none

/-- Changes the status of a call. -/
def setStatus (use : StoreInUse ε σ) (number : Nat) (status : StoreCall.Status) :
    StoreInUse ε σ :=
  { use with calls := use.calls.modify number fun call => { call with status } }

/-- The store takes a step; none if whose turn it is has nothing to do. -/
def move? (use : StoreInUse ε σ) (move : StoreMove) : Option (StoreInUse ε σ) :=
  (use.store.move? move).map fun store =>
    match move with
    | .loop =>
      { use with
        store
        taken := use.taken ++ use.store.taking?.toList
        folded := use.folded ++ use.store.folding?.toList }
    | .line => { use with store }

/-- One step; none if it is not possible. -/
def step? (use : StoreInUse ε σ) : StoreUse ε → Option (StoreInUse ε σ)
  | .call delivery event => some (use.call delivery event)
  | .conclude number => do
    let (call, ticket) ← use.pending? number
    let result ← use.store.callResult? ticket call.delivery
    return use.setStatus number (.returned result)
  | .giveUp number => do
    let (_, ticket) ← use.pending? number
    return { use with store := use.store.withdraw ticket }.setStatus number .givenUp
  | .read => some { use with reads := use.reads ++ [use.store.payload.value] }
  | .store move => use.move? move

/-- Steps in the order of their labels; none if one of them is not possible. -/
def run? (use : StoreInUse ε σ) : List (StoreUse ε) → Option (StoreInUse ε σ)
  | [] => some use
  | label :: labels => (use.step? label).bind fun next => next.run? labels

end StoreInUse

end RoundTable
