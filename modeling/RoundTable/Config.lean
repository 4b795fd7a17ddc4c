import RoundTable.Text.Blank
import RoundTable.Text.Form
import RoundTable.Text.Numeral

/-!
# The configuration of a table

How many cards a draw takes, how many are dealt at first, and the prestige to start with. A
configuration is read from JSON or from environment variables; what is left out has a default. A
draw has to take at least one card.

An environment variable is a decimal numeral, with or without a plus sign, between white space. One
that is set but cannot be read is an error, never a default.

## Main definitions

* `TableConfig`, `TableConfig.validate`: configurations
* `TableConfig.ofEnvironment`: reading the environment
* `ConfigError`, `ConfigError.message`: what is wrong with a configuration
-/

namespace RoundTable

/-- The configuration of a table. -/
structure TableConfig where
  /-- The number of cards that a draw takes. -/
  drawCount : Nat := 2
  /-- The number of cards in a hand at first. -/
  handSize : Nat := 0
  /-- The prestige that players start with. -/
  startingPrestige : UInt32 := 3
  deriving DecidableEq

/-- What is wrong with a configuration. -/
inductive ConfigError where
  /-- A setting has no use. -/
  | invalid (setting reason : String)
  /-- A text is not the JSON of a configuration. -/
  | malformed
  deriving DecidableEq

/-- The message about a setting; there is none about a text that cannot be read. -/
def ConfigError.message? : ConfigError → Option String
  | invalid setting reason =>
    some ("Invalid configuration for " ++ setting ++ ": " ++ reason)
  | malformed => none

namespace TableConfig

/-! ### The settings -/

/-- The name of the setting for the number of cards drawn. -/
def drawCountName : String := "TURNSTATE_DRAW_COUNT"

/-- The name of the setting for the size of a hand. -/
def handSizeName : String := "TURNSTATE_HAND_SIZE"

/-- The name of the setting for the prestige. -/
def startingPrestigeName : String := "TURNSTATE_STARTING_PRESTIGE"

/-- A configuration that tables accept. -/
def validate (config : TableConfig) : Except ConfigError TableConfig :=
  if config.drawCount = 0 then .error (.invalid drawCountName "Must be greater than 0")
  else .ok config

/-! ### The environment -/

/-- The value of a setting below `limit`, or the default if it is not set. -/
def setting (lookup : String → Option String) (name : String) (limit default : Nat) :
    Except ConfigError Nat :=
  match lookup name with
  | none => .ok default
  | some raw =>
    match Text.plusBelow? limit (Text.trim raw.toList) with
    | some value => .ok value
    | none => .error (.invalid name ("Cannot parse " ++ Text.quote raw))

/-- Reads a configuration from environment variables. -/
def ofEnvironment (lookup : String → Option String) : Except ConfigError TableConfig := do
  let defaults : TableConfig := {}
  let drawCount ← setting lookup drawCountName UInt64.size defaults.drawCount
  let handSize ← setting lookup handSizeName UInt64.size defaults.handSize
  let prestige ←
    setting lookup startingPrestigeName UInt32.size defaults.startingPrestige.toNat
  validate { drawCount, handSize, startingPrestige := .ofNat prestige }

instance : Text.HasForm TableConfig where
  form c := .record "TableConfig"
    [("draw_count", Text.form c.drawCount), ("hand_size", Text.form c.handSize),
      ("starting_prestige", Text.form c.startingPrestige)] true

end TableConfig

end RoundTable
