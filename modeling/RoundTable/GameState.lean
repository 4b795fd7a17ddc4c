import RoundTable.Automaton.History
import RoundTable.FrontCards
import RoundTable.Uuid

/-!
# The state of a game

Everything that lies on the table: the players in the order of their seats, the two piles, the cards
in front of players, and whose turn it is. Seats are counted from zero; the player to the left of
the last seat sits at the first.

## Main definitions

* `Turn`: the phases of a turn
* `PendingAttack`: an attack that has not been answered
* `GameState`: the state
* `GameState.deal`: dealing hands
* `GameState.player?`, `GameState.currentId?`, `GameState.nextSeat?`: looking around
-/

namespace RoundTable

/-! ### Turns and attacks -/

/-- The phases of a turn. -/
inductive Turn where
  /-- A stumbling card may have to be dealt with. -/
  | stumbling
  /-- Cards have to be drawn. -/
  | draw
  /-- Cards may be played. -/
  | play
  deriving DecidableEq

instance : Phase Turn where
  all := [.stumbling, .draw, .play]
  name
    | .stumbling => "Stumbling"
    | .draw => "Draw"
    | .play => "Play"

/-- An attack that has been reported and not yet answered. -/
structure PendingAttack where
  /-- Who attacks. -/
  attacker : PlayerId
  /-- Who has to answer. -/
  victim : PlayerId
  /-- The bug that was reported. -/
  bug : BugReport
  deriving DecidableEq

instance : Text.HasForm PendingAttack where
  form a := .record "PendingAttack"
    [("attacker", Text.form a.attacker), ("victim", Text.form a.victim),
      ("bug", Text.form a.bug)] true

/-! ### The state -/

/-- The state of a game. -/
structure GameState where
  /-- The identifier of the table. -/
  id : Uuid
  /-- The players in the order of their seats. -/
  players : List Player
  /-- The cards to draw, the next one first. -/
  drawPile : List Card
  /-- The cards that were played, the latest one last. -/
  discardHeap : List Card
  /-- The cards in front of players. -/
  frontCards : FrontCards
  /-- The phase of the turn. -/
  turn : Turn
  /-- The seat whose turn it is. -/
  current : Nat
  /-- The attack that has to be answered. -/
  pendingAttack : Option PendingAttack
  deriving DecidableEq

namespace GameState

/-- A table before the first turn. -/
def opening (id : Uuid) (players : List Player) (drawPile : List Card) : GameState where
  id
  players
  drawPile
  discardHeap := []
  frontCards := .empty
  turn := .stumbling
  current := 0
  pendingAttack := none

/-! ### Dealing -/

/-- Deals one card to each player in turn while there are cards. -/
def dealRound : List Player → List Card → List Player × List Card
  | player :: players, card :: pile =>
    let rest := dealRound players pile
    (player.receive [card] :: rest.1, rest.2)
  | players, pile => (players, pile)

/-- Deals the given number of rounds, stopping early when nothing is left to do. -/
def dealRounds : Nat → List Player → List Card → List Player × List Card
  | 0, players, pile => (players, pile)
  | n + 1, players, pile =>
    if players.isEmpty || pile.isEmpty then (players, pile)
    else
      let round := dealRound players pile
      dealRounds n round.1 round.2

/-- Deals hands of the given size, one card at a time, until the pile runs out. -/
def deal (state : GameState) (handSize : Nat) : GameState :=
  let dealt := dealRounds handSize state.players state.drawPile
  { state with players := dealt.1, drawPile := dealt.2 }

/-- Lays a card in front of a player. -/
def withFrontCard (state : GameState) (id : PlayerId) (card : Card) : GameState :=
  { state with frontCards := state.frontCards.push id card }

/-! ### Looking around -/

/-- The player whose turn it is; none if the seat does not exist. -/
def currentPlayer? (state : GameState) : Option Player := state.players[state.current]?

/-- The identifier of the player whose turn it is. -/
def currentId? (state : GameState) : Option PlayerId := state.currentPlayer?.map Player.id

/-- The first player with the given identifier. -/
def player? (state : GameState) (id : PlayerId) : Option Player :=
  state.players.find? fun player => player.id = id

/-- Whether somebody with the identifier sits at the table. -/
def isSeated (state : GameState) (id : PlayerId) : Bool := (state.player? id).isSome

/-- Whether it is the player's turn. -/
def isCurrent (state : GameState) (id : PlayerId) : Bool := state.currentId? = some id

/-- The stumbling card that a player has to deal with first. -/
def pendingStumbling? (state : GameState) (id : PlayerId) : Option Card :=
  state.frontCards.stumbling? id

/-- The player at the next seat; none if that is the player asked about, or nobody. -/
def nextSeat? (state : GameState) (id : PlayerId) : Option PlayerId := do
  let seat ← state.players.findIdx? fun player => player.id = id
  let next ← state.players[(seat + 1) % state.players.length]?
  if next.id = id then none else some next.id

/-! ### Changing players -/

/-- Changes the first player with the given identifier. -/
def updateFirst (id : PlayerId) (change : Player → Player) : List Player → List Player
  | [] => []
  | player :: rest =>
    if player.id = id then change player :: rest else player :: updateFirst id change rest

/-- Changes the player with the given identifier, if there is one. -/
def updatePlayer (state : GameState) (id : PlayerId) (change : Player → Player) : GameState :=
  { state with players := updateFirst id change state.players }

end GameState

end RoundTable
