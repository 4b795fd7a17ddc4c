import RoundTable.Automaton.Send
import RoundTable.Table

/-!
# Visits to a table

Many may want something of a table at once, and the machine of the table does not put them in order:
it validates, publishes and folds in separate steps. Only the gate does. A visitor passes the gate
when nobody else is inside, looks at the table, sends its event, looks again and leaves. Here a
visit is cut into the steps between which other visitors, and the store, may take theirs. Any
sequence of labels is a possible course of events.

## Main definitions

* `Errand`, `Finding`: what visitors want of a table, and what they bring back
* `Table.serve`, `Table.serveAll`: errands done one after another
* `VisitStage`, `Table.visitStep?`: what a visitor is about to do inside the gate
* `Gate`, `Gate.step?`, `Gate.run?`: visitors who come and go as they please
-/

namespace RoundTable

/-! ### Errands -/

/-- What a visitor wants of a table. -/
inductive Errand where
  /-- To send an event. -/
  | apply (event : GameEvent)
  /-- To send the first event if it is allowed, and the second one if not. -/
  | applyOr (preferred fallback : GameEvent)
  /-- To pass the turn on. -/
  | endTurn (origin : PlayerId)
  deriving DecidableEq

/-- What a visitor brings back. -/
inductive Finding where
  /-- The state before the event and after it. -/
  | states (before after : GameState)
  /-- Whether the preferred event was sent. -/
  | choice (fits : Bool)
  /-- The state in which the next turn starts. -/
  | turn (state : GameState)
  deriving DecidableEq

namespace Table

/-- Does an errand, undisturbed. -/
def serve (table : Table) : Errand → Table × Except Refusal Finding
  | .apply event =>
    let (table, result) := table.apply event
    (table, result.map fun states => .states states.1 states.2)
  | .applyOr preferred fallback =>
    let (table, result) := table.applyOr preferred fallback
    (table, result.map .choice)
  | .endTurn origin =>
    let (table, result) := table.endTurn origin
    (table, result.map .turn)

/-- Does errands one after another. -/
def serveAll (table : Table) : List Errand → Table × List (Except Refusal Finding)
  | [] => (table, [])
  | errand :: errands =>
    let (table, result) := table.serve errand
    let (table, results) := table.serveAll errands
    (table, result :: results)

end Table

/-! ### Inside the gate -/

/-- What a visitor remembers of its first look at the table. -/
inductive Glimpse where
  /-- The state before the event. -/
  | state (before : GameState)
  /-- Whether the preferred event is allowed. -/
  | choice (fits : Bool)
  /-- Nothing. -/
  | nothing

/-- The first look at the table: what the visitor remembers of it, and which event it will send. -/
def Errand.look (table : Table) : Errand → Glimpse × GameEvent
  | apply event => (.state table.state, event)
  | applyOr preferred fallback =>
    let fits := (table.validate preferred).isOk
    (.choice fits, if fits then preferred else fallback)
  | endTurn origin => (.nothing, .nextTurn origin)

/-- What a visitor brings back after its last look at the table. -/
def Glimpse.finding (table : Table) : Glimpse → Finding
  | state before => .states before table.state
  | choice fits => .choice fits
  | nothing => .turn table.state

/-- What a visitor is about to do. -/
inductive VisitStage where
  /-- Pass the gate. -/
  | outside
  /-- Look at the table. -/
  | looking
  /-- Go on with its send; when that is through, look again. -/
  | sending (glimpse : Glimpse) (stage : SendStage Turn EventKind GameEvent)
  /-- Leave. -/
  | leaving (result : Except Refusal Finding)
  /-- Nothing any more. -/
  | gone (result : Except Refusal Finding)

/-- One step of a visitor inside the gate; `none` if it has to wait, or is not inside. -/
def Table.visitStep? (table : Table) (errand : Errand) :
    VisitStage → Option (Table × VisitStage)
  | .looking =>
    let (glimpse, event) := errand.look table
    some (table, .sending glimpse (.validating event))
  | .sending glimpse (.finished result) =>
    some (table, .leaving (result.map fun _ => glimpse.finding table))
  | .sending glimpse stage =>
    (table.machine.sendStep? stage).map fun next =>
      ({ table with machine := next.1 }, .sending glimpse next.2)
  | .outside | .leaving _ | .gone _ => none

/-! ### The gate -/

/-- A table with its gate, and visitors. -/
structure Gate (ι : Type) where
  /-- The table. -/
  table : Table
  /-- What each visitor is about to do. -/
  stage : ι → VisitStage
  /-- The visitor who has passed the gate and not left. -/
  holder : Option ι
  /-- Those who have passed the gate, in this order. -/
  admitted : List ι

/-- What may happen next. -/
inductive GateLabel (ι : Type) where
  /-- A visitor passes the gate. -/
  | enter (visitor : ι)
  /-- A visitor takes a step inside. -/
  | act (visitor : ι)
  /-- A visitor leaves and releases the gate. -/
  | leave (visitor : ι)
  /-- The store of the table takes a step. -/
  | store (move : StoreMove)

namespace Gate

variable {ι : Type}

/-- A table before anybody has come. -/
def opened (table : Table) : Gate ι where
  table
  stage _ := .outside
  holder := none
  admitted := []

variable [DecidableEq ι]

/-- Notes what a visitor is about to do. -/
def setStage (gate : Gate ι) (visitor : ι) (stage : VisitStage) : Gate ι :=
  { gate with stage := fun other => if other = visitor then stage else gate.stage other }

/-- One step; `none` if it is not possible. -/
def step? (errand : ι → Errand) (gate : Gate ι) : GateLabel ι → Option (Gate ι)
  | .enter visitor =>
    match gate.holder, gate.stage visitor with
    | none, .outside =>
      some { gate.setStage visitor .looking with
        holder := some visitor
        admitted := gate.admitted ++ [visitor] }
    | _, _ => none
  | .act visitor =>
    (gate.table.visitStep? (errand visitor) (gate.stage visitor)).map fun next =>
      { gate.setStage visitor next.2 with table := next.1 }
  | .leave visitor =>
    match gate.stage visitor with
    | .leaving result => some { gate.setStage visitor (.gone result) with holder := none }
    | _ => none
  | .store move =>
    (gate.table.machine.storeStep? move).map fun machine =>
      { gate with table := { gate.table with machine } }

/-- Steps in the order of their labels; `none` if one of them is not possible. -/
def run? (errand : ι → Errand) (gate : Gate ι) : List (GateLabel ι) → Option (Gate ι)
  | [] => some gate
  | label :: labels => (gate.step? errand label).bind fun next => next.run? errand labels

end Gate

end RoundTable
