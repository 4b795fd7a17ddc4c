import RoundTable.Party
import RoundTable.Program.Basic

/-!
# Walking programs

A program is walked step by step. A step of the server goes to an authority, a step of a participant
to the participant, each with the content of the step. The first step that fails ends the walk.

## Main definitions

* `Authority`, `Participant`: those who resolve steps
* `Resolver`, `Authority.beside`: who resolves which step
* `Program.run`: walks
-/

namespace RoundTable

/-- Something that answers requests, or fails to. -/
abbrev Resolver (m : Type → Type) := (request : Request) → ExceptT Failure m request.Answer

/-- Resolves the steps of the server. -/
structure Authority (m : Type → Type) where
  /-- Draws cards into the hand of the acting player. -/
  drawCards : ExceptT Failure m (List Card)
  /-- Attacks a player; a success is a hit. -/
  attackPlayer : PlayerId → BugReport → ExceptT Failure m Outcome
  /-- Answers an attack; a success is that the answer holds. -/
  defendAttack : Option Card → ExceptT Failure m Outcome
  /-- Deals with a stumbling card; a success is that a card was spent on it. -/
  handleStumbling : Option Card → ExceptT Failure m Outcome
  /-- Gives cards away. -/
  discard : List Card → ExceptT Failure m Unit

/-- Resolves the steps of a participant. -/
structure Participant (m : Type → Type) where
  /-- The stumbling card in front of the player. -/
  checkStumbling : ExceptT Failure m (Option Card)
  /-- A card to answer with. -/
  selectResponse : ExceptT Failure m (Option Card)
  /-- A card to play. -/
  playCard : ExceptT Failure m Card
  /-- A player to attack. -/
  selectPlayer : ExceptT Failure m PlayerId
  /-- A bug to attack with. -/
  selectAttack : ExceptT Failure m BugReport
  /-- As many cards to give away. -/
  selectDiscardCards : Nat → ExceptT Failure m (List Card)
  /-- What the player sees. -/
  gameState : ExceptT Failure m GameState

variable {m : Type → Type}

/-- The authority that puts its steps to a resolver. -/
def Authority.ofResolver (resolve : Resolver m) : Authority m where
  drawCards := resolve .drawCards
  attackPlayer target bug := resolve (.attackPlayer target bug)
  defendAttack defence := resolve (.defendAttack defence)
  handleStumbling via := resolve (.handleStumbling via)
  discard cards := resolve (.discard cards)

/-- The participant who puts all steps to a resolver. -/
def Participant.ofResolver (resolve : Resolver m) : Participant m where
  checkStumbling := resolve .checkStumbling
  selectResponse := resolve .selectResponse
  playCard := resolve .playCard
  selectPlayer := resolve .selectPlayer
  selectAttack := resolve .selectAttack
  selectDiscardCards amount := resolve (.selectDiscardCards amount)
  gameState := resolve .getGameState

/-- An authority and a participant, each with the steps of their side. -/
def Authority.beside (authority : Authority m) (participant : Participant m) : Resolver m
  | .checkStumbling => participant.checkStumbling
  | .selectResponse => participant.selectResponse
  | .playCard => participant.playCard
  | .selectPlayer => participant.selectPlayer
  | .selectAttack => participant.selectAttack
  | .selectDiscardCards amount => participant.selectDiscardCards amount
  | .getGameState => participant.gameState
  | .drawCards => authority.drawCards
  | .attackPlayer target bug => authority.attackPlayer target bug
  | .defendAttack defence => authority.defendAttack defence
  | .handleStumbling via => authority.handleStumbling via
  | .discard cards => authority.discard cards

/-- Walks a program. -/
def Program.run [Monad m] {α : Type} (resolve : Resolver m) (program : Program α) :
    ExceptT Failure m α :=
  program.tree.run resolve

/-- Carries out requests that come from some party. -/
abbrev Executor (m : Type → Type) := Party → Request → ExceptT Failure m Reply

end RoundTable
