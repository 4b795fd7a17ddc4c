import Mathlib.Data.List.Nodup
import RoundTable.Proofs.Rules.Allows
import RoundTable.Proofs.Rules.Seats

/-!
# Hands

What the moves of an event do to the hand of one player: cards are received at the end, and given
away one after another. Nothing is done to the hands of others. Where no two players have the same
identifier, the player whose turn it is can be looked up by it.

## Main results

* `GameState.player?_updatePlayer`, `GameState.player?_discardFromHand`: who has changed and how
* `GameState.drawPile_after`: only draws change the pile
* `Player.handHolds_of_sublist`, `Player.length_diff`: cards that are held together can all be given
  away
* `GameState.player?_of_mem`, `GameState.currentPlayer?_of_isCurrent`: players and their identifiers
-/

namespace RoundTable

/-! ### One player at a time -/

namespace GameState

variable {state : GameState} {id other : PlayerId} {player : Player}

/-- Only the player with the identifier changes. -/
theorem player?_updatePlayer (state : GameState) (id other : PlayerId) {change : Player → Player}
    (hchange : ∀ player, (change player).id = player.id) :
    (state.updatePlayer id change).player? other =
      (state.player? other).map fun player => if other = id then change player else player := by
  obtain ⟨_, players, _, _, _, _, _, _⟩ := state
  change (updateFirst id change players).find? _ = (players.find? _).map _
  induction players with
  | nil => rfl
  | cons first rest ih =>
    rw [updateFirst]
    by_cases hfirst : first.id = id
    · rw [if_pos hfirst, List.find?_cons, List.find?_cons, hchange]
      by_cases hother : first.id = other
      · simp [hother, hfirst.symm.trans hother]
      · have hne : other ≠ id := fun h => hother (hfirst.trans h.symm)
        simp [hother, hne]
    · rw [if_neg hfirst, List.find?_cons, List.find?_cons]
      by_cases hother : first.id = other
      · have hne : other ≠ id := fun h => hfirst (hother.trans h)
        simp [hother, hne]
      · simpa [hother] using ih

theorem player?_loseHealth (state : GameState) (id other : PlayerId) :
    (state.loseHealth id).player? other =
      (state.player? other).map fun player => if other = id then player.loseHealth else player :=
  state.player?_updatePlayer id other fun _ => rfl

/-- A card that is not held cannot be given away. -/
theorem player?_discardFromHand (state : GameState) (owner : PlayerId) (card : Card)
    (other : PlayerId) : (state.discardFromHand owner card).player? other =
      (state.player? other).map fun player =>
        if other = owner then player.give card else player := by
  rw [discardFromHand]
  split
  case isTrue => exact state.player?_updatePlayer owner other fun _ => rfl
  case isFalse hnot =>
    rw [any_holds_iff] at hnot
    cases hplayer : state.player? other with
    | none => rfl
    | some player =>
      by_cases hother : other = owner
      · have hcard : card ∉ player.cards := fun hmem => hnot ⟨player, hother ▸ hplayer, hmem⟩
        simp [hother, Player.give, List.erase_of_not_mem hcard]
      · simp [hother]

/-- Cards are given away one after another. -/
theorem player?_foldl_discardFromHand (state : GameState) (owner : PlayerId) (cards : List Card)
    (other : PlayerId) :
    (cards.foldl (fun state card => state.discardFromHand owner card) state).player? other =
      (state.player? other).map fun player =>
        if other = owner then { player with cards := player.cards.diff cards } else player := by
  induction cards generalizing state with
  | nil => simp
  | cons card cards ih =>
    rw [List.foldl_cons, ih, player?_discardFromHand, Option.map_map]
    congr 1
    funext player
    by_cases hother : other = owner <;> simp [hother, Player.give, List.diff_cons]

@[simp]
theorem player?_clearStumbling (state : GameState) (id other : PlayerId) :
    (state.clearStumbling id).player? other = state.player? other := by
  rw [clearStumbling]
  split <;> rfl

/-- The draw pile is drawn from, and nothing else is done to it. -/
theorem drawPile_discardFromHand (state : GameState) (owner : PlayerId) (card : Card) :
    (state.discardFromHand owner card).drawPile = state.drawPile := by
  rw [discardFromHand]
  split <;> rfl

theorem drawPile_resolveStumbling (state : GameState) (origin : PlayerId) (via : Option Card)
    (drawCount : Nat) :
    (state.after (.resolveStumbling origin via) drawCount).drawPile = state.drawPile := by
  have hcleared : (state.clearStumbling origin).drawPile = state.drawPile := by
    rw [clearStumbling]
    split <;> rfl
  cases via with
  | none => exact hcleared
  | some card => exact (drawPile_discardFromHand _ _ _).trans hcleared

theorem drawPile_foldl_discardFromHand (state : GameState) (owner : PlayerId) (cards : List Card) :
    (cards.foldl (fun state card => state.discardFromHand owner card) state).drawPile =
      state.drawPile := by
  induction cards generalizing state with
  | nil => rfl
  | cons card cards ih => exact (ih _).trans (state.drawPile_discardFromHand owner card)

/-- Only draws change the pile. -/
theorem drawPile_after {event : GameEvent} (h : event.kind ≠ .drawCards) (state : GameState)
    (drawCount : Nat) : (state.after event drawCount).drawPile = state.drawPile := by
  cases event with
  | drawCards => exact absurd rfl h
  | nextTurn | reactWithoutCard => rfl
  | reportBug | reactWithCard => exact state.drawPile_discardFromHand _ _
  | resolveStumbling => exact state.drawPile_resolveStumbling _ _ _
  | discard => exact state.drawPile_foldl_discardFromHand _ _

end GameState

/-! ### Cards that are held together -/

namespace Player

theorem bugs_receive (player : Player) (cards : List Card) :
    (player.receive cards).bugs = player.bugs ++ cards.filterMap Card.bug? :=
  List.filterMap_append

/-- A card that is no bug report is given away without loss of one. -/
theorem bugs_give {player : Player} {card : Card} (h : card.bug? = none) :
    (player.give card).bugs = player.bugs := by
  obtain ⟨_, _, _, _, _, _, cards⟩ := player
  change (cards.erase card).filterMap Card.bug? = cards.filterMap Card.bug?
  induction cards with
  | nil => rfl
  | cons first rest ih =>
    by_cases heq : first = card
    · rw [heq, List.erase_cons_head, List.filterMap_cons, h]
    · rw [List.erase_cons_tail (by simpa using heq), List.filterMap_cons, List.filterMap_cons, ih]

/-- Cards that lie in the hand one after another are held together. -/
theorem handHolds_of_sublist {hand cards : List Card} (h : cards.Sublist hand) :
    handHolds hand cards = true := by
  induction cards generalizing hand with
  | nil => rfl
  | cons card cards ih =>
    have hrest := h.erase card
    rw [List.erase_cons_head] at hrest
    rw [handHolds, Bool.and_eq_true, decide_eq_true_iff]
    exact ⟨h.subset List.mem_cons_self, ih hrest⟩

/-- What is left when cards that are held together have been given away. -/
theorem length_diff {hand cards : List Card} (h : handHolds hand cards = true) :
    (hand.diff cards).length + cards.length = hand.length := by
  induction cards generalizing hand with
  | nil => simp
  | cons card cards ih =>
    rw [handHolds, Bool.and_eq_true, decide_eq_true_iff] at h
    obtain ⟨hmem, hrest⟩ := h
    have hlength := ih hrest
    have hpos := List.length_pos_of_mem hmem
    rw [List.length_erase_of_mem hmem] at hlength
    rw [List.diff_cons, List.length_cons]
    omega

end Player

namespace GameState

theorem player?_drawCards {state : GameState} {id : PlayerId} {player : Player}
    (hplayer : state.player? id = some player) (drawCount : Nat) :
    (state.after (.drawCards id) drawCount).player? id =
      some (player.receive (state.drawPile.take drawCount)) := by
  have hreceive (player : Player) :
      (player.receive (state.drawPile.take drawCount)).id = player.id := rfl
  refine (state.player?_updatePlayer id id hreceive).trans ?_
  rw [hplayer]
  simp

/-- To stumble costs no bug report, if what is spent on it is an excuse. -/
theorem bugs_resolveStumbling {state : GameState} {id : PlayerId} {player : Player}
    (hplayer : state.player? id = some player) {via : Option Card}
    (hkind : ∀ card ∈ via, card.kind = .excuse) (drawCount : Nat) :
    ∃ player', (state.after (.resolveStumbling id via) drawCount).player? id = some player' ∧
      player'.bugs = player.bugs := by
  cases via with
  | none =>
    refine ⟨player.loseHealth, ?_, rfl⟩
    refine (player?_loseHealth (state.clearStumbling id) id id).trans ?_
    rw [player?_clearStumbling, hplayer]
    simp
  | some card =>
    have hbug : card.bug? = none := by
      have hkind := hkind card rfl
      cases card <;> first | rfl | cases hkind
    refine ⟨player.give card, ?_, Player.bugs_give hbug⟩
    refine (player?_discardFromHand (state.clearStumbling id) id card id).trans ?_
    rw [player?_clearStumbling, hplayer]
    simp

end GameState

/-! ### Looking players up -/

namespace GameState

variable {state : GameState} {id : PlayerId} {player : Player}

/-- Where no two players have the same identifier, everybody can be looked up by it. -/
theorem player?_of_mem (hnodup : state.seats.Nodup) (hmem : player ∈ state.players) :
    state.player? player.id = some player := by
  obtain ⟨_, players, _, _, _, _, _, _⟩ := state
  change players.find? _ = _
  change (players.map Player.id).Nodup at hnodup
  change player ∈ players at hmem
  induction players with
  | nil => cases hmem
  | cons first rest ih =>
    rw [List.map_cons, List.nodup_cons] at hnodup
    obtain rfl | hrest := List.mem_cons.mp hmem
    · simp
    · have hne : first.id ≠ player.id := fun h =>
        hnodup.1 (h ▸ List.mem_map_of_mem hrest)
      rw [List.find?_cons_of_neg (by simpa using hne)]
      exact ih hnodup.2 hrest

theorem player?_of_currentPlayer? (hnodup : state.seats.Nodup)
    (hcurrent : state.currentPlayer? = some player) : state.player? player.id = some player :=
  player?_of_mem hnodup (List.mem_of_getElem? hcurrent)

theorem currentPlayer?_of_isCurrent (hnodup : state.seats.Nodup)
    (hcurrent : state.isCurrent id = true) (hplayer : state.player? id = some player) :
    state.currentPlayer? = some player := by
  obtain ⟨other, hother, rfl⟩ := Option.map_eq_some_iff.mp (of_decide_eq_true hcurrent)
  have hfound := player?_of_currentPlayer? hnodup hother
  rw [hplayer] at hfound
  exact hother.trans hfound.symm

end GameState

end RoundTable
