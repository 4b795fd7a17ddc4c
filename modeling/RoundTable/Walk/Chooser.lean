import RoundTable.Walk.Resolver

/-!
# Participants and their choices

A participant sees the table and makes choices. How the choices are made is up to a chooser, which
may also find that there is nothing to choose from.

## Main definitions

* `Chooser`, `Chooser.first`, `Chooser.fixed`: ways to choose
* `Participant.choosing`: the participant with a view of the table and a chooser
* `Executor.choosing`: carries out what the server asks of a participant
-/

namespace RoundTable

/-- A way to choose, given what the table looks like and who chooses. -/
structure Chooser where
  /-- A card to answer an attack or a stumbling card with; `none` takes the hit. -/
  response : GameState → PlayerId → Option Card
  /-- A card to play. -/
  card : GameState → PlayerId → Option Card
  /-- A player to attack. -/
  player : GameState → PlayerId → Option PlayerId
  /-- A bug to attack with. -/
  attack : GameState → PlayerId → Option BugReport
  /-- As many cards to give away. -/
  discards : GameState → PlayerId → Nat → Option (List Card)

namespace Chooser

/-- Takes the first that there is: the first excuse, the first card, the player at the next seat,
the first bug. The cards to give away are the newest ones. -/
def first : Chooser where
  response state me := (state.player? me).bind fun player =>
    player.cards.find? fun card => card.kind = .excuse
  card state me := (state.player? me).bind fun player => player.cards.head?
  player state me := state.nextSeat? me
  attack state me := (state.player? me).bind fun player => player.bugs.head?
  discards state me amount := (state.player? me).bind fun player =>
    if amount ≤ player.cards.length then some (player.cards.drop (player.cards.length - amount))
    else none

/-- Chooses the same whatever the table looks like. -/
def fixed (response card : Option Card) (player : Option PlayerId) (attack : Option BugReport)
    (discards : Option (List Card)) : Chooser where
  response _ _ := response
  card _ _ := card
  player _ _ := player
  attack _ _ := attack
  discards _ _ _ := discards

end Chooser

variable {m : Type → Type} [Monad m]

/-- The choice that was made; it is a failure to have nothing to choose from. -/
def Chooser.chosen {α : Type} (what : String) (choice : Option α) : ExceptT Failure m α :=
  match choice with
  | some a => pure a
  | none => throw (.noChoice what)

/-- The participant who plays for `me` and looks at the table anew for each step. -/
def Participant.choosing (observe : m GameState) (me : PlayerId) (chooser : Chooser) :
    Participant m where
  checkStumbling := do
    let state ← observe
    return state.pendingStumbling? me
  selectResponse := do
    let state ← observe
    return chooser.response state me
  playCard := do
    let state ← observe
    Chooser.chosen "card" (chooser.card state me)
  selectPlayer := do
    let state ← observe
    Chooser.chosen "player" (chooser.player state me)
  selectAttack := do
    let state ← observe
    Chooser.chosen "bug report" (chooser.attack state me)
  selectDiscardCards amount := do
    let state ← observe
    Chooser.chosen "cards to discard" (chooser.discards state me amount)
  gameState := do
    let state ← observe
    return state

/-- Resolves nothing: where there is no authority, no step of the server can be taken. -/
def Authority.nobody : Authority m :=
  .ofResolver fun request => throw (.routing (request.name ++ " must be resolved by the server"))

/-- Carries out the requests of the server with a participant, and refuses all others. -/
def Executor.choosing (participant : Participant m) : Executor m := fun origin request =>
  if origin = .server then request.program.run (Authority.nobody.beside participant)
  else throw (.routing ("participant received an action from " ++ toString origin))

end RoundTable
