import RoundTable.Failure
import RoundTable.Request

/-!
# Replies

The answers to requests as plain data. Whoever waits for an answer expects one kind of it, and takes
a value out of a reply of that kind only: nothing is ever converted or made up.

## Main definitions

* `Reply`: answers as data
* `Expectation`, `Expectation.Value`: the kinds of answers and their types
* `Expectation.wrap`, `Reply.read`: between values and replies
* `Request.Answer`: the type of the answers to a request
-/

namespace RoundTable

/-- An answer to a request. -/
inductive Reply where
  | cards (cards : List Card)
  | card (card : Card)
  | optionalCard (card : Option Card)
  | player (id : PlayerId)
  | bug (report : BugReport)
  | outcome (outcome : Outcome)
  | state (state : GameState)
  | unit
  /-- The request could not be resolved. -/
  | failed (reason : String)
  deriving DecidableEq

/-- What is called the kind of a reply. -/
def Reply.kind : Reply → String
  | cards _ => "cards"
  | card _ => "card"
  | optionalCard _ => "optional card"
  | player _ => "player"
  | bug _ => "bug report"
  | outcome _ => "outcome"
  | state _ => "game state"
  | unit => "unit"
  | failed _ => "failure"

/-- What somebody waits for. -/
inductive Expectation where
  | cards | card | optionalCard | player | bug | outcome | state | unit
  /-- A reply of whatever kind. -/
  | anyReply
  deriving DecidableEq

namespace Expectation

instance : Catalogue Expectation where
  all := [.cards, .card, .optionalCard, .player, .bug, .outcome, .state, .unit, .anyReply]
  name
    | .cards => "cards"
    | .card => "card"
    | .optionalCard => "optional card"
    | .player => "player"
    | .bug => "bug report"
    | .outcome => "outcome"
    | .state => "game state"
    | .unit => "unit"
    | .anyReply => "any reply"

/-- The type of the values that are waited for. -/
@[reducible] def Value : Expectation → Type
  | cards => List Card
  | card => Card
  | optionalCard => Option Card
  | player => PlayerId
  | bug => BugReport
  | outcome => Outcome
  | state => GameState
  | unit => Unit
  | anyReply => Reply

/-- The reply that carries a value. -/
def wrap : (expectation : Expectation) → expectation.Value → Reply
  | cards, value => .cards value
  | card, value => .card value
  | optionalCard, value => .optionalCard value
  | player, value => .player value
  | bug, value => .bug value
  | outcome, value => .outcome value
  | state, value => .state value
  | unit, () => .unit
  | anyReply, reply => reply

/-- The value that a reply carries, if it is of the kind that is waited for. -/
def value? : (expectation : Expectation) → Reply → Option expectation.Value
  | cards, .cards value => some value
  | card, .card value => some value
  | optionalCard, .optionalCard value => some value
  | player, .player value => some value
  | bug, .bug value => some value
  | outcome, .outcome value => some value
  | state, .state value => some value
  | unit, .unit => some ()
  | anyReply, reply => some reply
  | _, _ => none

end Expectation

/-- What a reply means to somebody who waits. -/
def Reply.read (reply : Reply) (expectation : Expectation) : Except Failure expectation.Value :=
  match expectation.value? reply with
  | some value => .ok value
  | none =>
    match reply with
    | failed reason => .error (.remote reason)
    | other => .error (.mismatch (Catalogue.name expectation) other.kind)

namespace Request

/-- What the answer to a request has to be. -/
@[reducible] def expectation : Request → Expectation
  | checkStumbling | selectResponse => .optionalCard
  | playCard => .card
  | selectPlayer => .player
  | selectAttack => .bug
  | selectDiscardCards _ | drawCards => .cards
  | getGameState => .state
  | attackPlayer _ _ | defendAttack _ | handleStumbling _ => .outcome
  | discard _ => .unit

/-- The type of the answers to a request. -/
abbrev Answer (request : Request) : Type := request.expectation.Value

end Request

end RoundTable
