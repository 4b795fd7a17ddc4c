import RoundTable.Automaton.Draft
import RoundTable.Automaton.Store

/-!
# Machines

A machine is a phase that moves along the edges of a table, and a store whose payload the guards of
the edges look at. To send an event is to find the edge that decides about it, evaluate the guard,
publish the phase that the edge enters, offer the event to the store, and, once the store is done
with it, to record the passage; or, if the store has lost the event, to go back to the phase before
unless another send has moved on from it meanwhile.

Since the phase is published before the store has taken the event, several sends may be under way
together. A batch starts all its sends in order before the store folds anything. Nothing makes its
senders go on in that order afterwards; here they do, once the store has settled, which is one of
the possible courses of a batch.

## Main definitions

* `TransitionError`, `TransitionError.message`: why a send is refused
* `Machine.validate`: what the table says about an event
* `Machine.start`, `Machine.finish`: the two halves of a send
* `Machine.send`, `Machine.sendAll`: one send, and a batch of them
* `MachineDraft.build`: machines from their parts
-/

namespace RoundTable

/-! ### Errors -/

/-- Why a machine refuses an event. -/
inductive TransitionError (φ ε : Type) where
  /-- No edge of the phase is for the tag of the event. -/
  | noEdge (phase : φ) (event : ε)
  /-- The guard of the edge does not accept. -/
  | refused (phase : φ) (event : ε)
  /-- The store has not taken the event. -/
  | store (error : StoreError)
  deriving DecidableEq

namespace TransitionError

variable {φ ε : Type}

/-- What a machine says. -/
def message [Text.HasForm φ] [Text.HasForm ε] : TransitionError φ ε → String
  | noEdge phase event =>
    "No transition from phase " ++ Text.describe phase ++ " accepts event " ++ Text.describe event
  | refused phase event =>
    "Guard rejected event " ++ Text.describe event ++ " in phase " ++ Text.describe phase
  | store error => "State store unavailable: " ++ error.message

/-- Whether the machine goes on working after the error. -/
def isRecoverable : TransitionError φ ε → Bool
  | store _ => false
  | _ => true

end TransitionError

/-! ### Machines -/

/-- A machine with phases `φ`, events `ε` with tags `κ`, and payloads `σ`. -/
structure Machine (φ κ ε σ : Type) where
  /-- The edges. -/
  table : EdgeTable φ κ ε σ
  /-- The phase that everybody sees. -/
  phase : Published φ
  /-- The store of the payload. -/
  store : Store ε σ
  /-- The passages of the sends that succeeded. -/
  history : History φ κ
  /-- What the clock shows. -/
  clock : Instant
  /-- The names of the tests that sends have evaluated, oldest first. -/
  checked : List String

/-- A send under way. -/
structure Sending (φ κ : Type) where
  /-- The phase in which it started. -/
  source : φ
  /-- The phase that it has published. -/
  target : φ
  /-- The tag of its event. -/
  tag : κ
  /-- The ticket of its offer to the store. -/
  ticket : Nat

namespace Machine

variable {φ κ ε σ : Type} [DecidableEq φ] [DecidableEq κ] [Tagged ε κ]

/-- A machine before its first event. -/
def opened (table : EdgeTable φ κ ε σ) (initial : φ) (payload : σ) (reduce : σ → ε → σ)
    (breaks : σ → Bool) : Machine φ κ ε σ where
  table
  phase := .first initial
  store := .opened reduce breaks payload
  history := .empty
  clock := .epoch
  checked := []

/-- The payload that everybody sees. -/
def payload (machine : Machine φ κ ε σ) : σ := machine.store.payload.value

/-- The edge that decides about an event, with the verdict of its guard. -/
def judge? (machine : Machine φ κ ε σ) (event : ε) : Option (Edge φ κ ε σ × Verdict) :=
  (machine.table.select? machine.phase.value event).map fun edge =>
    (edge, edge.guard.verdict machine.payload event)

/-- The phase that an event leads to. -/
def validate (machine : Machine φ κ ε σ) (event : ε) : Except (TransitionError φ ε) φ :=
  match machine.judge? event with
  | none => .error (.noEdge machine.phase.value event)
  | some (edge, verdict) =>
    if verdict.accepted then .ok edge.target else .error (.refused machine.phase.value event)

/-- The names of the tests that validation evaluates. -/
def checkedFor (machine : Machine φ κ ε σ) (event : ε) : List String :=
  match machine.judge? event with
  | none => []
  | some (_, verdict) => verdict.checked

/-- Publishes a phase. -/
def enter (machine : Machine φ κ ε σ) (phase : φ) : Machine φ κ ε σ :=
  { machine with phase := machine.phase.publish phase }

/-- Goes back to the phase before a send, unless another one was published since. -/
def retreat (machine : Machine φ κ ε σ) (sending : Sending φ κ) : Machine φ κ ε σ :=
  if machine.phase.value = sending.target then machine.enter sending.source else machine

/-- Starts a send: validates the event, publishes the phase it leads to and offers it to the store.
If the store is closed, the send fails at once and goes back to the phase before. -/
def start (machine : Machine φ κ ε σ) (event : ε) :
    Machine φ κ ε σ × Except (TransitionError φ ε) (Sending φ κ) :=
  let source := machine.phase.value
  let validated := machine.validate event
  let machine := { machine with checked := machine.checked ++ machine.checkedFor event }
  match validated with
  | .error error => (machine, .error error)
  | .ok target =>
    let machine := machine.enter target
    let (store, ticket) := machine.store.offer event
    let sending := { source, target, tag := tag event, ticket }
    let machine := { machine with store }
    if store.isClosed then (machine.retreat sending, .error (.store .closed))
    else (machine, .ok sending)

/-- Records the passage of a send. -/
def record (machine : Machine φ κ ε σ) (sending : Sending φ κ) : Machine φ κ ε σ :=
  let passage : Passage φ κ :=
    { source := sending.source, target := sending.target, tag := sending.tag,
      time := machine.clock }
  { machine with history := machine.history.push passage }

/-- Finishes a send with which the store is done. -/
def finish (machine : Machine φ κ ε σ) (sending : Sending φ κ) :
    Machine φ κ ε σ × Except (TransitionError φ ε) Unit :=
  if sending.ticket ∈ machine.store.confirmed then (machine.record sending, .ok ())
  else (machine.retreat sending, .error (.store .closed))

/-- Lets the store take all the steps it can. -/
def settle (machine : Machine φ κ ε σ) : Machine φ κ ε σ :=
  { machine with store := machine.store.settle }

/-- Sends an event and waits until the store is done with it. -/
def send (machine : Machine φ κ ε σ) (event : ε) :
    Machine φ κ ε σ × Except (TransitionError φ ε) Unit :=
  match machine.start event with
  | (machine, .error error) => (machine, .error error)
  | (machine, .ok sending) => machine.settle.finish sending

/-- Starts sends in order. -/
def startAll (machine : Machine φ κ ε σ) :
    List ε → Machine φ κ ε σ × List (Except (TransitionError φ ε) (Sending φ κ))
  | [] => (machine, [])
  | event :: events =>
    let (machine, first) := machine.start event
    let (machine, rest) := machine.startAll events
    (machine, first :: rest)

/-- Finishes those sends that were started, in the order in which they were started. -/
def finishAll (machine : Machine φ κ ε σ) :
    List (Except (TransitionError φ ε) (Sending φ κ)) →
      Machine φ κ ε σ × List (Except (TransitionError φ ε) Unit)
  | [] => (machine, [])
  | .error error :: rest =>
    let (machine, results) := machine.finishAll rest
    (machine, .error error :: results)
  | .ok sending :: rest =>
    let (machine, result) := machine.finish sending
    let (machine, results) := machine.finishAll rest
    (machine, result :: results)

/-- Sends a batch of events in the course in which the store settles before anybody goes on: all
sends start before it folds anything, and afterwards the senders go on in the same order. -/
def sendAll (machine : Machine φ κ ε σ) (events : List ε) :
    Machine φ κ ε σ × List (Except (TransitionError φ ε) Unit) :=
  let (machine, started) := machine.startAll events
  machine.settle.finishAll started

/-- Hands an event to the store alone, past the edges, and waits until the store is done with it. -/
def commit (machine : Machine φ κ ε σ) (event : ε) :
    Machine φ κ ε σ × Except StoreError Unit :=
  let (store, ticket) := machine.store.offer event
  let machine := settle { machine with store }
  (machine, if ticket ∈ machine.store.confirmed then .ok () else .error .closed)

end Machine

/-! ### Drafts -/

/-- A machine some of whose parts may not have been given yet. -/
structure MachineDraft (φ κ ε σ : Type) where
  /-- The edges. -/
  table : Option (EdgeTable φ κ ε σ)
  /-- The phase to start in. -/
  initial : Option φ
  /-- The payload to start with. -/
  payload : Option σ
  /-- The payload after an event. -/
  reduce : Option (σ → ε → σ)
  /-- Whether the inspector breaks down on a payload. -/
  breaks : σ → Bool

namespace MachineDraft

variable {φ κ ε σ : Type}

/-- The draft of a machine of which nothing is given; its inspector never breaks down. -/
def empty : MachineDraft φ κ ε σ := ⟨none, none, none, none, fun _ => false⟩

/-- Gives the edges; the last ones count. -/
def along (draft : MachineDraft φ κ ε σ) (table : EdgeTable φ κ ε σ) : MachineDraft φ κ ε σ :=
  { draft with table := some table }

/-- Gives the first phase; the last one given counts. -/
def startingIn (draft : MachineDraft φ κ ε σ) (phase : φ) : MachineDraft φ κ ε σ :=
  { draft with initial := some phase }

/-- Gives the first payload; the last one given counts. -/
def startingWith (draft : MachineDraft φ κ ε σ) (payload : σ) : MachineDraft φ κ ε σ :=
  { draft with payload := some payload }

/-- Gives the reducer; the last one given counts. -/
def folding (draft : MachineDraft φ κ ε σ) (reduce : σ → ε → σ) : MachineDraft φ κ ε σ :=
  { draft with reduce := some reduce }

/-- Gives the inspector; the last one given counts. -/
def inspected (draft : MachineDraft φ κ ε σ) (breaks : σ → Bool) : MachineDraft φ κ ε σ :=
  { draft with breaks }

/-- The machine, or everything that it lacks. Appending the errors stands for a validation that
accumulates the failures of its checks in order. -/
def build (draft : MachineDraft φ κ ε σ) : Except (List BuildError) (Machine φ κ ε σ) :=
  match draft.table, draft.initial, draft.payload, draft.reduce with
  | some table, some initial, some payload, some reduce =>
    .ok (.opened table initial payload reduce draft.breaks)
  | table, initial, payload, reduce =>
    .error (BuildError.missingTable.ifMissing table ++
      BuildError.missingInitialPhase.ifMissing initial ++
      BuildError.missingPayload.ifMissing payload ++ BuildError.missingReducer.ifMissing reduce)

end MachineDraft

end RoundTable
