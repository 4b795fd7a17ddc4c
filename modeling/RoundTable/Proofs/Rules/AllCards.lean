import Mathlib.Algebra.BigOperators.Group.List.Basic
import Mathlib.Algebra.Order.Group.Multiset
import Mathlib.Tactic.Abel
import RoundTable.Proofs.Rules.Allows

/-!
# Where the cards are

A card is in a hand, in the draw pile, on the heap or in front of a player. Events move cards from
one place to another by looking for a first copy, by taking from the top, and by looking a card up
twice; here it is shown that none of these ways drops or doubles one. The only cards that ever
vanish are those that somebody draws who does not sit at the table.

## Main definitions

* `GameState.allCards`: all the cards of a state, copies counted
* `GameState.vanishing`: the cards that an event would make vanish

## Main results

* `GameState.handCards_updateFirst`: a hand that changes is exchanged for another
* `GameState.allCards_discardFromHand`, `GameState.allCards_clearStumbling`: moves to the heap
* `GameState.allCards_after`: no event creates, doubles or loses a card, other than the vanishing
-/

namespace RoundTable

/-- The cards in front of all players. -/
def FrontCards.cards (front : FrontCards) : Multiset Card :=
  (front.entries.map fun entry => (entry.2 : Multiset Card)).sum

namespace GameState

/-- The cards in the hands of players. -/
def handCards (players : List Player) : Multiset Card :=
  (players.map fun player => (player.cards : Multiset Card)).sum

/-- All the cards. -/
def allCards (state : GameState) : Multiset Card :=
  handCards state.players + (state.drawPile : Multiset Card) +
    (state.discardHeap : Multiset Card) + state.frontCards.cards

/-! ### Hands -/

variable {players : List Player} {id : PlayerId}

/-- The hand of the player who is changed is exchanged for the new one. -/
theorem handCards_updateFirst (change : Player → Player) {player : Player}
    (hplayer : players.find? (fun player => player.id = id) = some player) :
    handCards (updateFirst id change players) + (player.cards : Multiset Card) =
      handCards players + ((change player).cards : Multiset Card) := by
  induction players with
  | nil => cases hplayer
  | cons first rest ih =>
    rw [updateFirst]
    by_cases hid : first.id = id
    · have hfirst : first = player := by simpa [hid] using hplayer
      subst hfirst
      simp only [hid, if_true, handCards, List.map_cons, List.sum_cons]
      abel
    · have hrest := ih (by simpa [hid] using hplayer)
      simp only [handCards] at hrest
      simp only [hid, if_false, handCards, List.map_cons, List.sum_cons]
      rw [add_assoc, hrest, add_assoc]

theorem updateFirst_of_find?_eq_none (change : Player → Player)
    (hnone : players.find? (fun player => player.id = id) = none) :
    updateFirst id change players = players := by
  induction players with
  | nil => rfl
  | cons first rest ih =>
    rw [List.find?_cons] at hnone
    split at hnone
    case h_1 => cases hnone
    case h_2 hid => rw [updateFirst, if_neg (of_decide_eq_false hid), ih hnone]

/-- A change that leaves every hand alone leaves the hands alone. -/
theorem handCards_updateFirst_of_cards_eq {change : Player → Player}
    (hchange : ∀ player, (change player).cards = player.cards) :
    handCards (updateFirst id change players) = handCards players := by
  cases hplayer : players.find? fun player => player.id = id with
  | none => rw [updateFirst_of_find?_eq_none change hplayer]
  | some player =>
    have hexchange := handCards_updateFirst change hplayer
    rwa [hchange, add_left_inj] at hexchange

theorem coe_erase_add_singleton {card : Card} {cards : List Card} (h : card ∈ cards) :
    ((cards.erase card : List Card) : Multiset Card) + {card} = (cards : Multiset Card) := by
  rw [← Multiset.coe_erase, add_comm, Multiset.singleton_add, Multiset.cons_erase]
  exact Multiset.mem_coe.mpr h

/-- A card that is given away leaves the hands. -/
theorem handCards_give {player : Player} {card : Card}
    (hplayer : players.find? (fun player => player.id = id) = some player)
    (hcard : card ∈ player.cards) :
    handCards (updateFirst id (fun player => player.give card) players) + {card} =
      handCards players := by
  have hexchange := handCards_updateFirst (fun player => player.give card) hplayer
  rw [← coe_erase_add_singleton hcard, ← add_assoc, add_right_comm] at hexchange
  exact add_right_cancel hexchange

/-- Cards that are received come to the hands. -/
theorem handCards_receive {player : Player} (cards : List Card)
    (hplayer : players.find? (fun player => player.id = id) = some player) :
    handCards (updateFirst id (fun player => player.receive cards) players) =
      handCards players + (cards : Multiset Card) := by
  have hexchange := handCards_updateFirst (fun player => player.receive cards) hplayer
  simp only [Player.receive, ← Multiset.coe_add] at hexchange
  rw [add_left_comm, add_comm] at hexchange
  exact add_left_cancel hexchange

/-! ### The front -/

/-- The cards in front of the player whose entry is changed are exchanged for the new ones; no
player has two entries. -/
theorem cards_modify (change : List Card → List Card) {front : FrontCards}
    {entry : PlayerId × List Card}
    (hentry : front.entries.find? (fun entry => entry.1 = id) = some entry) :
    (front.modify id change).cards + (entry.2 : Multiset Card) =
      front.cards + (change entry.2 : Multiset Card) := by
  obtain ⟨entries, hsorted⟩ := front
  simp only [FrontCards.cards, FrontCards.modify]
  simp only at hentry
  induction entries with
  | nil => cases hentry
  | cons first rest ih =>
    obtain ⟨hhead, hrest⟩ := List.pairwise_cons.mp hsorted
    by_cases hid : first.1 = id
    · have hfirst : first = entry := by simpa [hid] using hentry
      subst hfirst
      have hothers : rest.map (fun e => if e.1 = id then (e.1, change e.2) else e) = rest := by
        refine (List.map_congr_left fun e he => if_neg fun heq => ?_).trans (List.map_id rest)
        have hlt := hhead e he
        rw [hid, heq] at hlt
        exact UInt32.lt_irrefl _ hlt
      simp only [List.map_cons, hid, if_true, hothers, List.sum_cons]
      abel
    · have hothers := ih hrest (by simpa [hid] using hentry)
      simp only [List.map_cons, hid, if_false, List.sum_cons]
      rw [add_assoc, hothers, add_assoc]

/-- A card that is taken up leaves the front. -/
theorem cards_modify_erase {front : FrontCards} {card : Card} (hcard : card ∈ front.get id) :
    (front.modify id fun cards => cards.erase card).cards + {card} = front.cards := by
  rw [FrontCards.get] at hcard
  cases hentry : front.entries.find? fun entry => entry.1 = id with
  | none => simp [hentry] at hcard
  | some entry =>
    have hmem : card ∈ entry.2 := by simpa [hentry] using hcard
    have hexchange := cards_modify (fun cards => cards.erase card) hentry
    rw [← coe_erase_add_singleton hmem, ← add_assoc, add_right_comm] at hexchange
    exact add_right_cancel hexchange

/-! ### Moves -/

theorem coe_append_singleton (cards : List Card) (card : Card) :
    ((cards ++ [card] : List Card) : Multiset Card) = (cards : Multiset Card) + {card} := by
  rw [← Multiset.coe_add, Multiset.coe_singleton]

/-- A card that is discarded moves from a hand to the heap. -/
theorem allCards_discardFromHand (state : GameState) (owner : PlayerId) (card : Card) :
    (state.discardFromHand owner card).allCards = state.allCards := by
  rw [discardFromHand]
  split
  case isFalse => rfl
  case isTrue hheld =>
    obtain ⟨player, hplayer, hcard⟩ := any_holds_iff.mp hheld
    have hgive := handCards_give hplayer hcard
    simp only [allCards, updatePlayer, coe_append_singleton, ← hgive]
    abel

theorem allCards_foldl_discardFromHand (state : GameState) (owner : PlayerId) (cards : List Card) :
    (cards.foldl (fun state card => state.discardFromHand owner card) state).allCards =
      state.allCards := by
  induction cards generalizing state with
  | nil => rfl
  | cons card cards ih => rw [List.foldl_cons, ih, allCards_discardFromHand]

/-- A stumbling card that is cleared moves from the front to the heap. -/
theorem allCards_clearStumbling (state : GameState) (id : PlayerId) :
    (state.clearStumbling id).allCards = state.allCards := by
  rw [clearStumbling]
  split
  case h_1 => rfl
  case h_2 card hcard =>
    have herase := cards_modify_erase (List.mem_of_find?_eq_some hcard)
    simp only [allCards, coe_append_singleton, ← herase]
    abel

theorem allCards_loseHealth (state : GameState) (victim : PlayerId) :
    (state.loseHealth victim).allCards = state.allCards := by
  have hhands : handCards (updateFirst victim Player.loseHealth state.players) =
      handCards state.players :=
    handCards_updateFirst_of_cards_eq fun player => rfl
  simp only [loseHealth, updatePlayer, allCards, hhands]

/-! ### Events -/

/-- The cards that vanish: what is drawn by somebody who does not sit at the table. -/
def vanishing (state : GameState) (drawCount : Nat) : GameEvent → Multiset Card
  | .drawCards origin =>
    if state.isSeated origin then 0 else (state.drawPile.take drawCount : List Card)
  | _ => 0

/-- Drawn cards move from the pile to a hand, or vanish. -/
theorem allCards_after_drawCards (state : GameState) (origin : PlayerId) (drawCount : Nat) :
    (state.after (.drawCards origin) drawCount).allCards +
      state.vanishing drawCount (.drawCards origin) = state.allCards := by
  have hpile : (state.drawPile : Multiset Card) =
      (state.drawPile.take drawCount : List Card) + (state.drawPile.drop drawCount : List Card) := by
    rw [Multiset.coe_add, List.take_append_drop]
  by_cases hseated : state.isSeated origin = true
  · obtain ⟨player, hplayer⟩ := Option.isSome_iff_exists.mp hseated
    have hreceive := handCards_receive (state.drawPile.take drawCount) hplayer
    simp only [after, updatePlayer, allCards, vanishing, hseated, if_true, hreceive, hpile]
    abel
  · have hplayer : state.player? origin = none := by
      simpa [isSeated] using hseated
    have hplayers := updateFirst_of_find?_eq_none
      (fun player => player.receive (state.drawPile.take drawCount)) hplayer
    simp only [after, updatePlayer, allCards, vanishing, hseated, hplayers, hpile]
    abel

/-- **No card is created, doubled or lost**, but for the ones that vanish. -/
theorem allCards_after (state : GameState) (event : GameEvent) (drawCount : Nat) :
    (state.after event drawCount).allCards + state.vanishing drawCount event = state.allCards := by
  cases event with
  | drawCards origin => exact allCards_after_drawCards state origin drawCount
  | nextTurn origin => exact add_zero _
  | reportBug origin victim bug =>
    exact (add_zero _).trans (allCards_discardFromHand state origin (.bug bug))
  | reactWithCard origin victim card =>
    exact (add_zero _).trans (allCards_discardFromHand state victim card)
  | reactWithoutCard origin victim => exact (add_zero _).trans (allCards_loseHealth state victim)
  | resolveStumbling origin via =>
    refine (add_zero _).trans (Eq.trans ?_ (allCards_clearStumbling state origin))
    cases via with
    | some card => exact allCards_discardFromHand _ origin card
    | none => exact allCards_loseHealth _ origin
  | discard origin cards =>
    exact (add_zero _).trans (allCards_foldl_discardFromHand state origin cards)

end GameState

end RoundTable
