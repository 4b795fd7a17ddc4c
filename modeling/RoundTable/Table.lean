import RoundTable.Automaton.Machine
import RoundTable.Config
import RoundTable.Rules

/-!
# The table

The machine of a game with the rules of a turn, behind a gate: one call at a time passes it, looks
at the state, sends its event and looks again. So an event is judged in the state that it changes,
and what a call sees before and after is the effect of its own event.

## Main definitions

* `Table.opened`: a table from a configuration and a state
* `Table.apply`: sends an event and shows the state before and after
* `Table.applyOr`: sends one event if it is allowed and another one if not
* `Table.endTurn`: passes the turn on
-/

namespace RoundTable

/-- The machine of a game. -/
abbrev TableMachine := Machine Turn EventKind GameEvent GameState

/-- Why a table refuses an event. -/
abbrev Refusal := TransitionError Turn GameEvent

/-- A table. -/
structure Table where
  /-- The machine. -/
  machine : TableMachine
  /-- The configuration. -/
  config : TableConfig

namespace Table

/-- A table over given edges, in the phase that the state is in. -/
def withEdges (edges : TurnTable) (config : TableConfig) (state : GameState) :
    Except ConfigError Table :=
  config.validate.map fun config =>
    { machine := .opened edges state.turn state
        (fun state event => state.after event config.drawCount) (fun _ => false)
      config }

/-- A table with the rules of a turn. -/
def opened (config : TableConfig) (state : GameState) : Except ConfigError Table :=
  withEdges Rules.turnTable config state

/-- The state that everybody sees. -/
def state (table : Table) : GameState := table.machine.payload

/-- The phase that everybody sees. -/
def phase (table : Table) : Turn := table.machine.phase.value

/-- The phase that an event would lead to. -/
def validate (table : Table) (event : GameEvent) : Except Refusal Turn :=
  table.machine.validate event

/-- Sends an event. The answer is the state before it and after it. -/
def apply (table : Table) (event : GameEvent) : Table × Except Refusal (GameState × GameState) :=
  let before := table.state
  let (machine, result) := table.machine.send event
  let table := { table with machine }
  (table, result.map fun _ => (before, table.state))

/-- Sends the preferred event if it is allowed, and the other one if not. The answer says whether it
was the preferred one. -/
def applyOr (table : Table) (preferred fallback : GameEvent) : Table × Except Refusal Bool :=
  let fits := (table.validate preferred).isOk
  let (machine, result) := table.machine.send (if fits then preferred else fallback)
  ({ table with machine }, result.map fun _ => fits)

/-- Passes the turn on. The answer is the state in which the next turn starts. -/
def endTurn (table : Table) (origin : PlayerId) : Table × Except Refusal GameState :=
  let (table, result) := table.apply (.nextTurn origin)
  (table, result.map Prod.snd)

/-- Sends events one after another. -/
def applyAll (table : Table) :
    List GameEvent → Table × List (Except Refusal (GameState × GameState))
  | [] => (table, [])
  | event :: events =>
    let (table, result) := table.apply event
    let (table, results) := table.applyAll events
    (table, result :: results)

end Table

end RoundTable
