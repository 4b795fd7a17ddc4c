import RoundTable.Deck

/-!
# Players

A player has a seat identifier, a name, what is printed on the seat, two counters and a hand of
cards. The hand is ordered and may hold a card several times; to give a card away is to give away
its first copy.

## Main definitions

* `PlayerId`, `Player`: players
* `Player.holds`, `Player.holdsAll`: what is in a hand, copies counted
* `Player.give`: the player without the first copy of a card
* `Player.loseHealth`: the player with one point of mental health less, if there is one to lose
-/

namespace RoundTable

/-- The identifier of a player. -/
structure PlayerId where
  /-- The number of the identifier. -/
  number : UInt32
  deriving DecidableEq

namespace PlayerId

instance : LT PlayerId := ⟨fun a b => a.number < b.number⟩

instance (a b : PlayerId) : Decidable (a < b) :=
  inferInstanceAs (Decidable (a.number < b.number))

instance : Text.HasForm PlayerId := ⟨fun id => .tuple "PlayerId" [Text.form id.number]⟩

/-- How messages call a player. -/
instance : ToString PlayerId := ⟨fun id => toString id.number.toNat⟩

end PlayerId

/-- A player at the table. -/
structure Player where
  /-- The identifier. -/
  id : PlayerId
  /-- The name. -/
  name : String
  /-- What the player is trying to do. -/
  role : Role
  /-- Who the player is. -/
  character : Character
  /-- The points of mental health left. -/
  mentalHealth : UInt32
  /-- The points of prestige. -/
  prestige : UInt32
  /-- The hand, oldest card first. -/
  cards : List Card
  deriving DecidableEq

namespace Player

/-- A player with an empty hand and the mental health of the character. -/
def seated (id : PlayerId) (name : String) (role : Role) (character : Character)
    (prestige : UInt32) : Player :=
  { id, name, role, character, mentalHealth := character.mentalHealth, prestige, cards := [] }

/-- Whether a card is in the hand. -/
def holds (player : Player) (card : Card) : Bool := card ∈ player.cards

/-- Whether the cards can be taken out of a hand one after another. -/
def handHolds (hand : List Card) : List Card → Bool
  | [] => true
  | card :: cards => card ∈ hand && handHolds (hand.erase card) cards

/-- Whether all the cards are in the hand together, a card listed twice being there twice. -/
def holdsAll (player : Player) (cards : List Card) : Bool := handHolds player.cards cards

/-- The bug reports in the hand, in order. -/
def bugs (player : Player) : List BugReport := player.cards.filterMap Card.bug?

/-- The player without the first copy of a card. -/
def give (player : Player) (card : Card) : Player :=
  { player with cards := player.cards.erase card }

/-- The player with more cards at the end of the hand. -/
def receive (player : Player) (cards : List Card) : Player :=
  { player with cards := player.cards ++ cards }

/-- The player with one point of mental health less; none is lost below zero. -/
def loseHealth (player : Player) : Player :=
  { player with
    mentalHealth := if player.mentalHealth = 0 then 0 else player.mentalHealth - 1 }

instance : Text.HasForm Player where
  form p := .record "Player"
    [("id", Text.form p.id), ("name", Text.form p.name), ("role", Text.form p.role),
      ("character", Text.form p.character), ("mental_health", Text.form p.mentalHealth),
      ("prestige", Text.form p.prestige), ("cards", Text.form p.cards)] true

end Player

end RoundTable
