import Mathlib.Data.Int.CardIntervalMod
import RoundTable.GameState

/-!
# Hands are dealt fairly

Cards are dealt from the top of the pile, one to each seat in turn and round after round, until
everybody has a hand or the pile runs out, which it may do in the middle of a round. So the cards go
to the seats by their places in the pile, counted modulo the number of seats; and nobody gets more
than one card more than anybody else, or fewer cards than whoever sits behind.

## Main definitions

* `GameState.share`: the cards of a pile that go to one of so many seats

## Main results

* `GameState.dealRound_eq`, `GameState.dealRounds_eq`: one round, and any number of rounds
* `GameState.length_share`: how many cards go to a seat
* `GameState.deals_fairly`: what becomes of a table when hands are dealt
-/

namespace RoundTable

namespace Player

theorem receive_nil (player : Player) : player.receive [] = player := by
  simp [receive]

theorem receive_receive (player : Player) (cards more : List Card) :
    (player.receive cards).receive more = player.receive (cards ++ more) := by
  simp [receive]

end Player

namespace GameState

/-- The cards that go to a seat when `dealt` cards are dealt to `seats` seats in turn: those at the
places that leave the number of the seat as remainder, in order. -/
def share (seats dealt seat : Nat) (pile : List Card) : List Card :=
  ((List.range dealt).filter fun place => place % seats = seat).filterMap fun place => pile[place]?

variable {seats seat : Nat} {pile : List Card}

/-! ### Shares -/

/-- Of nothing, everybody gets nothing. -/
theorem share_nil (seats dealt seat : Nat) : share seats dealt seat [] = [] := by
  simp [share]

/-- What is not there is not dealt. -/
theorem share_min (seats dealt seat : Nat) (pile : List Card) :
    share seats (min dealt pile.length) seat pile = share seats dealt seat pile := by
  rcases Nat.le_total dealt pile.length with hle | hge
  · rw [Nat.min_eq_left hle]
  · obtain ⟨more, rfl⟩ := Nat.exists_eq_add_of_le hge
    rw [Nat.min_eq_right hge, share, share, List.range_add, List.filter_append,
      List.filterMap_append, List.self_eq_append_right, List.filterMap_eq_nil_iff]
    intro place hplace
    obtain ⟨later, -, rfl⟩ := List.mem_map.mp (List.mem_of_mem_filter hplace)
    exact List.getElem?_eq_none (Nat.le_add_right _ _)

/-- Every round starts with one card for everybody, as far as there are cards. -/
theorem share_add (hseat : seat < seats) (dealt : Nat) (pile : List Card) :
    share seats (seats + dealt) seat pile =
      pile[seat]?.toList ++ share seats dealt seat (pile.drop seats) := by
  have hfirst : ((List.range seats).filter fun place => place % seats = seat) = [seat] := by
    have hsame : ∀ place ∈ List.range seats,
        decide (place % seats = seat) = decide (place = seat) := by
      intro place hplace
      rw [Nat.mod_eq_of_lt (List.mem_range.mp hplace)]
    rw [List.filter_congr hsame, List.filter_eq, List.count_range, if_pos hseat]
    rfl
  have hrest : (((List.range dealt).map fun place => seats + place).filter
      fun place => place % seats = seat) =
        ((List.range dealt).filter fun place => place % seats = seat).map
          fun place => seats + place := by
    rw [List.filter_map]
    simp only [Function.comp_def, Nat.add_mod_left]
  have htop : [seat].filterMap (fun place => pile[place]?) = pile[seat]?.toList := by
    cases hcard : pile[seat]? <;> simp [hcard]
  rw [share, List.range_add, List.filter_append, hfirst, hrest, List.filterMap_append, htop,
    List.filterMap_map, share]
  simp only [Function.comp_def, List.getElem?_drop]

/-- **How many cards go to a seat**: as many as there are full rounds, and one more if the last
cards reach that far. -/
theorem length_share {dealt : Nat} (hseat : seat < seats) (hdealt : dealt ≤ pile.length) :
    (share seats dealt seat pile).length =
      dealt / seats + if seat < dealt % seats then 1 else 0 := by
  have hthere : ∀ place ∈ List.range dealt,
      (pile[place]?.isSome && decide (place % seats = seat)) = true ↔
        decide (place ≡ seat [MOD seats]) = true := by
    intro place hplace
    have hlt : place < pile.length := Nat.lt_of_lt_of_le (List.mem_range.mp hplace) hdealt
    simp [List.getElem?_eq_getElem hlt, Nat.ModEq, Nat.mod_eq_of_lt hseat]
  have hcount := Nat.count_modEq_card dealt (Nat.zero_lt_of_lt hseat) seat
  rw [Nat.mod_eq_of_lt hseat] at hcount
  rw [← hcount, share, List.length_filterMap_eq_countP, List.countP_filter]
  exact List.countP_congr hthere

/-! ### Rounds -/

/-- Where everybody gets nothing, everybody stays the same. -/
theorem mapIdx_receive_nil (cards : Nat → List Card) (h : ∀ seat, cards seat = [])
    (players : List Player) :
    (players.mapIdx fun seat player => player.receive (cards seat)) = players := by
  refine List.ext_getElem? fun seat => ?_
  simp [h, Player.receive_nil]

/-- In one round, everybody gets the card at the place of the own seat, if there is one. -/
theorem dealRound_eq (players : List Player) (pile : List Card) :
    dealRound players pile =
      (players.mapIdx fun seat player => player.receive pile[seat]?.toList,
        pile.drop players.length) := by
  induction players generalizing pile with
  | nil => simp [dealRound]
  | cons player players ih =>
    cases pile with
    | nil =>
      rw [mapIdx_receive_nil (fun seat => ([] : List Card)[seat]?.toList) fun _ => rfl,
        List.drop_nil]
      rfl
    | cons card pile =>
      simp only [dealRound, ih, List.mapIdx_cons, List.length_cons, List.drop_succ_cons]
      rfl

/-- **Any number of rounds**: everybody gets a share of the pile. -/
theorem dealRounds_eq (rounds : Nat) (players : List Player) (pile : List Card) :
    dealRounds rounds players pile =
      (players.mapIdx fun seat player =>
          player.receive (share players.length (players.length * rounds) seat pile),
        pile.drop (players.length * rounds)) := by
  induction rounds generalizing players pile with
  | zero =>
    rw [Nat.mul_zero,
      mapIdx_receive_nil (fun seat => share players.length 0 seat pile) fun _ => rfl]
    rfl
  | succ rounds ih =>
    rw [dealRounds]
    split
    case isTrue hover =>
      -- there is nobody to get a card, or no card to get
      cases players with
      | nil => rw [List.mapIdx_nil, List.length_nil, Nat.zero_mul, List.drop_zero]
      | cons player players =>
        obtain rfl : pile = [] := by simpa using hover
        rw [mapIdx_receive_nil (fun seat => share _ _ seat []) fun _ => share_nil _ _ _,
          List.drop_nil]
    case isFalse =>
      have hrounds : players.length * (rounds + 1) =
          players.length + players.length * rounds := by
        rw [Nat.mul_succ, Nat.add_comm]
      rw [dealRound_eq, ih, List.mapIdx_mapIdx, List.length_mapIdx, List.drop_drop, hrounds]
      refine Prod.ext (List.mapIdx_eq_mapIdx_iff.mpr fun seat hseat => ?_) rfl
      rw [share_add hseat, ← Player.receive_receive]
      rfl

/-! ### Hands -/

theorem drop_min (cards : Nat) (pile : List Card) :
    pile.drop (min cards pile.length) = pile.drop cards := by
  rcases Nat.le_total cards pile.length with hle | hge
  · rw [Nat.min_eq_left hle]
  · rw [Nat.min_eq_right hge, List.drop_length, List.drop_eq_nil_of_le hge]

/-- **Hands are dealt fairly.** Of the cards that are dealt, which are as many as there are in all
hands together unless the pile is shorter, everybody gets those at the places that leave the number
of the own seat as remainder when divided by the number of seats, at the end of the hand and in the
order of the pile; the pile is left without the cards that are dealt, and nothing else changes. If
there are no seats nothing changes at all. So every seat gets a card from every full round, and one
more if the last round reaches it: whoever sits in front of somebody else gets as many cards, or one
card more. -/
theorem deals_fairly (state : GameState) (handSize : Nat) :
    let seats := state.players.length
    let dealt := min (seats * handSize) state.drawPile.length
    let share := fun seat => share seats dealt seat state.drawPile
    state.deal handSize =
        { state with
          players := state.players.mapIdx fun seat player =>
            { player with cards := player.cards ++ share seat }
          drawPile := state.drawPile.drop dealt } ∧
      (state.players = [] → state.deal handSize = state) ∧
      (∀ seat < seats, (share seat).length =
        dealt / seats + if seat < dealt % seats then 1 else 0) ∧
      ∀ first second, first ≤ second → second < seats →
        (share second).length ≤ (share first).length ∧
          (share first).length ≤ (share second).length + 1 := by
  intro seats dealt share
  have hlength : ∀ seat < seats, (share seat).length =
      dealt / seats + if seat < dealt % seats then 1 else 0 :=
    fun seat hseat => length_share hseat (Nat.min_le_right _ _)
  refine ⟨?_, ?_, hlength, ?_⟩
  · have hshare (seat : Nat) : share seat =
        GameState.share seats (seats * handSize) seat state.drawPile :=
      share_min _ _ _ _
    rw [deal, dealRounds_eq, drop_min]
    simp only [hshare]
    rfl
  · intro hnobody
    obtain ⟨_, players, pile, _, _, _, _, _⟩ := state
    obtain rfl : players = [] := hnobody
    rw [deal, dealRounds_eq, List.length_nil, Nat.zero_mul, List.drop_zero]
    rfl
  · intro first second hle hlt
    rw [hlength second hlt, hlength first (Nat.lt_of_le_of_lt hle hlt)]
    split <;> split <;> omega

/-- Three players, of whom the first one holds a card already, and five cards for them. -/
def supper : GameState :=
  .opening .zero
    [{ Player.seated ⟨0⟩ "Ada" .manager .kentBeck 3 with cards := [.solution .coffee] },
      .seated ⟨1⟩ "Bob" .consultant .konradZuse 3, .seated ⟨2⟩ "Cyd" .consultant .steveJobs 3]
    [.bug .coreDump, .excuse .worksForMe, .bug .offByOne, .bug .nullPointer, .bug .systemHangs]

/-- The second round ends before the last seat. -/
theorem deals_fairly_supper :
    (supper.deal 2).players.map Player.cards =
        [[.solution .coffee, .bug .coreDump, .bug .nullPointer],
          [.excuse .worksForMe, .bug .systemHangs], [.bug .offByOne]] ∧
      (supper.deal 2).drawPile = [] ∧
      (share 3 5 0 supper.drawPile).length = 2 ∧
      (share 3 5 2 supper.drawPile).length ≤ (share 3 5 0 supper.drawPile).length := by
  obtain ⟨hstate, -, hlength, hfair⟩ := deals_fairly supper 2
  refine ⟨?_, ?_, hlength 0 (by decide), (hfair 0 2 (by decide) (by decide)).1⟩
  · rw [hstate]
    rfl
  · rw [hstate]
    rfl

end GameState

end RoundTable
