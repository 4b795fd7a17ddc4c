import RoundTable.Player

/-!
# Requests

The closed list of steps that a turn is made of. Each step is resolved by one of two sides: the
server, which has the table, or a participant, who has the choices to make. A request is a step as
plain data, so that one side can ask the other to resolve it.

## Main definitions

* `Request`, `Request.side`: the steps and who resolves them
* `Outcome`: how a step went that can go either way
-/

namespace RoundTable

/-- Who resolves a step. -/
inductive Side where
  /-- The server, at the table. -/
  | server
  /-- A participant. -/
  | client
  deriving DecidableEq

instance : Catalogue Side where
  all := [.server, .client]
  name
    | .server => "Server"
    | .client => "Client"

/-- How a step went that can go either way. -/
inductive Outcome where
  | success | failure
  deriving DecidableEq

namespace Outcome

instance : Catalogue Outcome where
  all := [.success, .failure]
  name
    | .success => "Success"
    | .failure => "Failure"

/-- What the other side of the same event calls it. -/
def opposite : Outcome → Outcome
  | success => failure
  | failure => success

end Outcome

/-- A step of a turn. -/
inductive Request where
  /-- Which stumbling card lies in front of the player? -/
  | checkStumbling
  /-- With which card does the player answer, if with any? -/
  | selectResponse
  /-- Which card does the player play? -/
  | playCard
  /-- Whom does the player pick? -/
  | selectPlayer
  /-- With which bug does the player attack? -/
  | selectAttack
  /-- Which cards does the player give away? -/
  | selectDiscardCards (amount : Nat)
  /-- What does the player see? -/
  | getGameState
  /-- Draw cards. -/
  | drawCards
  /-- Attack another player. -/
  | attackPlayer (target : PlayerId) (bug : BugReport)
  /-- Answer an attack. -/
  | defendAttack (defence : Option Card)
  /-- Deal with a stumbling card. -/
  | handleStumbling (via : Option Card)
  /-- Give cards away. -/
  | discard (cards : List Card)
  deriving DecidableEq

namespace Request

/-- Who resolves a step. -/
def side : Request → Side
  | checkStumbling | selectResponse | playCard | selectPlayer | selectAttack
  | selectDiscardCards _ | getGameState => .client
  | drawCards | attackPlayer _ _ | defendAttack _ | handleStumbling _ | discard _ => .server

/-- The name of a step. -/
def name : Request → String
  | checkStumbling => "CheckStumbling"
  | selectResponse => "SelectResponse"
  | playCard => "PlayCard"
  | selectPlayer => "SelectPlayer"
  | selectAttack => "SelectAttack"
  | selectDiscardCards _ => "SelectDiscardCards"
  | getGameState => "GetGameState"
  | drawCards => "DrawCards"
  | attackPlayer _ _ => "AttackPlayer"
  | defendAttack _ => "DefendAttack"
  | handleStumbling _ => "HandleStumbling"
  | discard _ => "Discard"

/-- The named parts of a step, in order. -/
def fields : Request → List (String × Text.Form)
  | selectDiscardCards amount => [("amount", Text.form amount)]
  | attackPlayer target bug => [("target", Text.form target), ("bug", Text.form bug)]
  | defendAttack defence => [("defence", Text.form defence)]
  | handleStumbling via => [("via", Text.form via)]
  | discard cards => [("cards", Text.form cards)]
  | _ => []

instance : Text.HasForm Request where
  form request := .record request.name request.fields true

end Request

end RoundTable
