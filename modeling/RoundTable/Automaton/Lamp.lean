import RoundTable.Automaton.Machine
import RoundTable.Json.Shape

/-!
# Lamps

A small family of machines to try things on: a traffic lamp counts, in a signed integer of 64 bits,
the weights of the pulses that it gets. Its guards compare the count or the weight with a bound, and
there are several ways to fold a weight into the count. Numbers wrap around.

## Main definitions

* `Lamp`, `Signal`, `Pulse`: the phases, tags and events of lamps
* `LampMachine`: machines of lamps
* `Comparison`, `Comparison.guard`: guards that compare
* `Folding`, `Folding.apply`: ways to fold a weight into the count
-/

namespace RoundTable

/-- The phases of a lamp. -/
inductive Lamp where
  | red | amber | green | off
  deriving DecidableEq

instance : Phase Lamp where
  all := [.red, .amber, .green, .off]
  name
    | .red => "Red"
    | .amber => "Amber"
    | .green => "Green"
    | .off => "Off"
  isFinal lamp := lamp = .off

/-- The tags of what may happen to a lamp. -/
inductive Signal where
  | advance | back | tick | shutdown
  deriving DecidableEq

instance : Catalogue Signal where
  all := [.advance, .back, .tick, .shutdown]
  name
    | .advance => "Advance"
    | .back => "Back"
    | .tick => "Tick"
    | .shutdown => "Shutdown"

/-- Something that happens to a lamp. -/
structure Pulse where
  /-- What happens. -/
  signal : Signal
  /-- With which weight. -/
  weight : Int64
  deriving DecidableEq

instance : Tagged Pulse Signal := ⟨Pulse.signal⟩

instance : Text.HasForm Pulse where
  form pulse := .record "Step"
    [("signal", Text.form pulse.signal), ("weight", Text.form pulse.weight)] true

/-- A machine of lamps. -/
abbrev LampMachine := Machine Lamp Signal Pulse Int64

/-- The table of a machine of lamps. -/
abbrev LampTable := EdgeTable Lamp Signal Pulse Int64

/-- A condition on a count and a pulse. -/
abbrev LampGuard := Guard Int64 Pulse

/-! ### Guards -/

/-- How two numbers compare. -/
inductive Comparison where
  | less | atMost | equal | different | atLeast | greater
  deriving DecidableEq

namespace Comparison

instance : Catalogue Comparison where
  all := [.less, .atMost, .equal, .different, .atLeast, .greater]
  name
    | .less => "lt"
    | .atMost => "le"
    | .equal => "eq"
    | .different => "ne"
    | .atLeast => "ge"
    | .greater => "gt"

/-- Whether two numbers compare like this. -/
def holds (a b : Int64) : Comparison → Bool
  | less => a < b
  | atMost => a ≤ b
  | equal => a = b
  | different => a ≠ b
  | atLeast => b ≤ a
  | greater => b < a

/-- The named test that compares the count, or the weight, with a bound. -/
def guard (comparison : Comparison) (name : String) (ofWeight : Bool) (bound : Int64) :
    LampGuard :=
  .test name fun count pulse => comparison.holds (if ofWeight then pulse.weight else count) bound

end Comparison

/-! ### Ways to count -/

/-- A way to fold a weight into the count. -/
inductive Folding where
  /-- Adds the weight. -/
  | add
  /-- Puts the weight in place of the count. -/
  | set
  /-- Counts the pulses. -/
  | count
  /-- Mixes the weight into the count, so that the order of pulses shows. -/
  | mix
  deriving DecidableEq

namespace Folding

instance : Catalogue Folding where
  all := [.add, .set, .count, .mix]
  name
    | .add => "add"
    | .set => "set"
    | .count => "count"
    | .mix => "mix"

/-- The count after a weight. -/
def apply (count weight : Int64) : Folding → Int64
  | add => count + weight
  | set => weight
  | Folding.count => count + 1
  | mix => 31 * count + weight

end Folding

/-! ### Lamps on the wire -/

instance : Wire Int64 where
  encode n := .int n.toInt
  decode? value := (value.signed? 64).map Int64.ofInt

instance : Wire Pulse where
  encode pulse := .record [("signal", encode pulse.signal), ("weight", encode pulse.weight)]
  decode? value := do
    let [signal, weight] ← value.fields? ["signal", "weight"] | none
    some { signal := ← Wire.required? signal, weight := ← Wire.required? weight }

end RoundTable
