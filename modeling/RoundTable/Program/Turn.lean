import RoundTable.Program.Basic

/-!
# The course of a turn

What a player does in a turn, as programs: deal with a stumbling card, draw, attack somebody, and
give away what is too much for one's mental health.

## Main definitions

* `Program.playTurn`, `TurnReport`: a whole turn and what happened in it
* `Program.handleStumblingCard`, `Program.attackSomebody`, `Program.discardExcess`: its parts
-/

namespace RoundTable

/-- What happened in a turn. -/
structure TurnReport where
  /-- Whether a card was spent on what lay in the way, or nothing did. -/
  stumbling : Outcome
  /-- The cards drawn. -/
  drawn : List Card
  /-- Whether the attack hit. -/
  attack : Outcome
  /-- The cards given away. -/
  discarded : List Card
  deriving DecidableEq

instance : Text.HasForm TurnReport where
  form report := .record "TurnReport"
    [("stumbling", Text.form report.stumbling), ("drawn", Text.form report.drawn),
      ("attack", Text.form report.attack), ("discarded", Text.form report.discarded)] true

/-- By how many cards the hand of the current player exceeds the player's mental health. -/
def GameState.excess (state : GameState) : Nat :=
  match state.currentPlayer? with
  | some player => player.cards.length - player.mentalHealth.toNat
  | none => 0

namespace Program

/-- Deals with the stumbling card in front of the player, if there is one. -/
def handleStumblingCard : Program Outcome := do
  match ← Request.checkStumbling.resolved with
  | some _ =>
    let via ← Request.selectResponse.resolved
    (Request.handleStumbling via).resolved
  | none => done .success

/-- Attacks the player of one's choice with the bug of one's choice. -/
def attackSomebody : Program Outcome := do
  let target ← Request.selectPlayer.resolved
  let bug ← Request.selectAttack.resolved
  (Request.attackPlayer target bug).resolved

/-- Gives away cards until the hand fits. The result is what was given away. -/
def discardExcess : Program (List Card) := do
  let state ← Request.getGameState.resolved
  if state.excess = 0 then done []
  else
    let cards ← (Request.selectDiscardCards state.excess).resolved
    (Request.discard cards).resolved
    done cards

/-- A whole turn. -/
def playTurn : Program TurnReport := do
  let stumbling ← handleStumblingCard
  let drawn ← Request.drawCards.resolved
  let attack ← attackSomebody
  let discarded ← discardExcess
  done { stumbling, drawn, attack, discarded }

end Program

end RoundTable
