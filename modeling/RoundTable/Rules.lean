import RoundTable.Automaton.Edge
import RoundTable.Event

/-!
# The rules of a turn

A turn starts with a stumbling card, if one lies in front of the player; then cards are drawn; then
bugs may be reported, answered and cards discarded, until the turn passes on. The edges say when an
event is allowed, and `GameState.after` says what it does. Every event has to come from a seated
player, and all but the answers to an attack from the player whose turn it is.

## Main definitions

* `Rules.turnTable`: the edges of a turn
* `GameState.after`: the state after an event
-/

namespace RoundTable

/-- The edges between the phases of a turn. -/
abbrev TurnTable := EdgeTable Turn EventKind GameEvent GameState

namespace Rules

/-! ### Conditions -/

/-- A condition on a state and an event. -/
abbrev Condition := Guard GameState GameEvent

/-- The event comes from a player at the table. -/
def fromSeated : Condition :=
  .test "from a seated player" fun state event => state.isSeated event.origin

/-- The event comes from the player whose turn it is. -/
def fromCurrent : Condition :=
  .test "from the current player" fun state event => state.isCurrent event.origin

/-- No attack waits for an answer. -/
def noAttack : Condition :=
  .test "no pending attack" fun state _ => state.pendingAttack.isNone

/-- Nothing lies in the way of the player. -/
def nothingInTheWay : Condition :=
  .test "nothing to stumble over" fun state event =>
    (state.pendingStumbling? event.origin).isNone

/-- A stumbling card lies in the way, and a card to answer it with is held. -/
def resolvesStumbling : Condition :=
  .test "resolves a stumbling card" fun state event =>
    match event with
    | .resolveStumbling origin via =>
      (state.pendingStumbling? origin).isSome &&
        match via with
        | some card => (state.player? origin).any fun player => player.holds card
        | none => true
    | _ => false

/-- The reported bug is held, and the victim is another player at the table. -/
def reportsBug : Condition :=
  .test "reports a held bug" fun state event =>
    match event with
    | .reportBug origin victim bug =>
      ((state.player? origin).any fun player => player.holds (.bug bug)) &&
        origin ≠ victim && state.isSeated victim
    | _ => false

/-- The attack is answered on behalf of its victim by one of the two players involved; a card to
answer with is an excuse that the victim holds. -/
def answersAttack : Condition :=
  .test "answers the pending attack" fun state event =>
    match state.pendingAttack with
    | none => false
    | some attack =>
      match event with
      | .reactWithCard origin victim card =>
        (origin = attack.attacker || origin = attack.victim) && victim = attack.victim &&
          card.kind = .excuse && (state.player? victim).any fun player => player.holds card
      | .reactWithoutCard origin victim =>
        (origin = attack.attacker || origin = attack.victim) && victim = attack.victim
      | _ => false

/-- All the discarded cards are held. -/
def holdsDiscards : Condition :=
  .test "holds the discarded cards" fun state event =>
    match event with
    | .discard origin cards => (state.player? origin).any fun player => player.holdsAll cards
    | _ => false

/-! ### Edges -/

/-- The edges of a turn, in order of registration. -/
def turnEdges : List (Edge Turn EventKind GameEvent GameState) :=
  [{ source := .stumbling, target := .draw, selector := .tag .resolveStumbling,
      guard := fromCurrent + resolvesStumbling },
    { source := .stumbling, target := .play, selector := .tag .drawCards,
      guard := fromCurrent + nothingInTheWay },
    { source := .draw, target := .play, selector := .tag .drawCards, guard := fromCurrent },
    { source := .play, target := .play, selector := .tag .reportBug,
      guard := fromCurrent + noAttack + reportsBug },
    { source := .play, target := .play, selector := .anyOf [.reactWithCard, .reactWithoutCard],
      guard := answersAttack },
    { source := .play, target := .play, selector := .tag .discard,
      guard := fromCurrent + holdsDiscards },
    { source := .play, target := .stumbling, selector := .tag .nextTurn,
      guard := fromCurrent + noAttack }]

/-- The edges of a turn, each for events of seated players only. -/
def turnTable : TurnTable := .ofEdges (turnEdges.map fun edge => edge.require fromSeated)

end Rules

/-! ### Effects -/

namespace GameState

/-- A player's card goes to the heap, if the player holds it. -/
def discardFromHand (state : GameState) (owner : PlayerId) (card : Card) : GameState :=
  if (state.player? owner).any fun player => player.holds card then
    { state.updatePlayer owner fun player => player.give card with
      discardHeap := state.discardHeap ++ [card] }
  else state

/-- A player loses a point of mental health. -/
def loseHealth (state : GameState) (victim : PlayerId) : GameState :=
  state.updatePlayer victim Player.loseHealth

/-- The first stumbling card in front of a player goes to the heap. -/
def clearStumbling (state : GameState) (id : PlayerId) : GameState :=
  match state.pendingStumbling? id with
  | none => state
  | some card =>
    { state with
      frontCards := state.frontCards.modify id fun front => front.erase card
      discardHeap := state.discardHeap ++ [card] }

/-- The state after an event, allowed or not. Drawing takes at most `drawCount` cards. -/
def after (state : GameState) (event : GameEvent) (drawCount : Nat) : GameState :=
  match event with
  | .drawCards origin =>
    { state.updatePlayer origin fun player => player.receive (state.drawPile.take drawCount) with
      drawPile := state.drawPile.drop drawCount
      turn := .play }
  | .nextTurn _ =>
    { state with
      current :=
        if state.players.isEmpty then state.current
        else (state.current + 1) % state.players.length
      turn := .stumbling
      pendingAttack := none }
  | .reportBug origin victim bug =>
    { state.discardFromHand origin (.bug bug) with
      pendingAttack := some { attacker := origin, victim, bug } }
  | .reactWithCard _ victim card =>
    { state.discardFromHand victim card with pendingAttack := none }
  | .reactWithoutCard _ victim =>
    { state.loseHealth victim with pendingAttack := none, turn := .play }
  | .resolveStumbling origin via =>
    let cleared := state.clearStumbling origin
    let answered := match via with
      | some card => cleared.discardFromHand origin card
      | none => cleared.loseHealth origin
    { answered with turn := .draw }
  | .discard origin cards =>
    cards.foldl (fun state card => state.discardFromHand origin card) state

end GameState

end RoundTable
