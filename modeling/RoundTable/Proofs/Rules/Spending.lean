import Mathlib.Data.List.Count
import RoundTable.Proofs.Rules.Seats

/-!
# Who spends which cards

An event may cost one player some cards, which it names; no other card leaves a hand with it, and no
other player's hand loses any. Seats are looked at one by one, so that this is so even where two
players have the same identifier.

## Main definitions

* `GameEvent.spender`, `GameEvent.spent`: whose cards an event may cost, and which
* `GameState.KeepsHands`: states in which hands have lost no other cards than some

## Main results

* `GameState.keepsHands_after`: an event costs no other cards than it names
-/

namespace RoundTable

/-- The player whose cards an event may cost. -/
def GameEvent.spender : GameEvent → PlayerId
  | reactWithCard _ victim _ => victim
  | event => event.origin

/-- The cards that an event may cost. -/
def GameEvent.spent : GameEvent → List Card
  | reportBug _ _ bug => [.bug bug]
  | reactWithCard _ _ card => [card]
  | resolveStumbling _ via => via.toList
  | discard _ cards => cards
  | drawCards _ | nextTurn _ | reactWithoutCard _ _ => []

namespace GameState

/-- Everybody sits where they sat, and no hand has lost other cards than those that the player may
have lost. -/
def KeepsHands (mayLose : PlayerId → Card → Prop) (before after : GameState) : Prop :=
  ∀ (seat : Nat) (player : Player), before.players[seat]? = some player →
    ∃ player' : Player, after.players[seat]? = some player' ∧ player'.id = player.id ∧
      ∀ card, ¬mayLose player.id card → player.cards.count card ≤ player'.cards.count card

variable {mayLose : PlayerId → Card → Prop} {before middle after state : GameState}

theorem KeepsHands.of_players (h : after.players = before.players) :
    KeepsHands mayLose before after :=
  fun _ player hplayer => ⟨player, h ▸ hplayer, rfl, fun _ _ => Nat.le_refl _⟩

theorem KeepsHands.trans (first : KeepsHands mayLose before middle)
    (second : KeepsHands mayLose middle after) : KeepsHands mayLose before after := by
  intro seat player hplayer
  obtain ⟨player', hplayer', hid', hcards'⟩ := first seat player hplayer
  obtain ⟨player'', hplayer'', hid'', hcards''⟩ := second seat player' hplayer'
  refine ⟨player'', hplayer'', hid''.trans hid', fun card hcard => ?_⟩
  exact Nat.le_trans (hcards' card hcard) (hcards'' card (hid' ▸ hcard))

/-- Where somebody sits after a change of one player, the same player sits, changed or not. -/
theorem getElem?_updateFirst (id : PlayerId) (change : Player → Player) (players : List Player)
    (seat : Nat) {player : Player} (h : players[seat]? = some player) :
    (updateFirst id change players)[seat]? = some player ∨
      player.id = id ∧ (updateFirst id change players)[seat]? = some (change player) := by
  induction players generalizing seat with
  | nil => cases h
  | cons first rest ih =>
    rw [updateFirst]
    split
    case isTrue hfirst =>
      cases seat with
      | zero =>
        cases h
        exact .inr ⟨hfirst, rfl⟩
      | succ seat => exact .inl h
    case isFalse =>
      cases seat with
      | zero => exact .inl h
      | succ seat => exact ih seat h

theorem keepsHands_updatePlayer (state : GameState) (id : PlayerId) {change : Player → Player}
    (hid : ∀ player, (change player).id = player.id)
    (hcards : ∀ (player : Player) card, ¬mayLose id card →
      player.cards.count card ≤ (change player).cards.count card) :
    KeepsHands mayLose state (state.updatePlayer id change) := by
  intro seat player hplayer
  obtain hsame | ⟨rfl, hchanged⟩ := getElem?_updateFirst id change state.players seat hplayer
  · exact ⟨player, hsame, rfl, fun _ _ => Nat.le_refl _⟩
  · exact ⟨change player, hchanged, hid player, hcards player⟩

theorem keepsHands_discardFromHand (state : GameState) {owner : PlayerId} {card : Card}
    (h : mayLose owner card) : KeepsHands mayLose state (state.discardFromHand owner card) := by
  rw [discardFromHand]
  split
  · have hgive : KeepsHands mayLose state
        (state.updatePlayer owner fun player => player.give card) := by
      refine state.keepsHands_updatePlayer owner (fun _ => rfl) fun player other hother => ?_
      have hne : other ≠ card := by
        rintro rfl
        exact hother h
      exact Nat.le_of_eq (List.count_erase_of_ne hne).symm
    exact hgive.trans (.of_players rfl)
  · exact .of_players rfl

theorem keepsHands_foldl_discardFromHand (state : GameState) {owner : PlayerId} {cards : List Card}
    (h : ∀ card ∈ cards, mayLose owner card) :
    KeepsHands mayLose state
      (cards.foldl (fun state card => state.discardFromHand owner card) state) := by
  induction cards generalizing state with
  | nil => exact .of_players rfl
  | cons card cards ih =>
    exact (state.keepsHands_discardFromHand (h card List.mem_cons_self)).trans
      (ih _ fun other hmem => h other (List.mem_cons_of_mem _ hmem))

theorem keepsHands_loseHealth (state : GameState) (victim : PlayerId) :
    KeepsHands mayLose state (state.loseHealth victim) :=
  state.keepsHands_updatePlayer victim (fun _ => rfl) fun _ _ _ => Nat.le_refl _

theorem keepsHands_clearStumbling (state : GameState) (id : PlayerId) :
    KeepsHands mayLose state (state.clearStumbling id) := by
  rw [clearStumbling]
  split <;> exact .of_players rfl

/-- **An event costs no other cards than it names**, and nobody else any. -/
theorem keepsHands_after (state : GameState) (event : GameEvent) (drawCount : Nat) :
    KeepsHands (fun id card => id = event.spender ∧ card ∈ event.spent) state
      (state.after event drawCount) := by
  cases event with
  | drawCards origin =>
    let draw (player : Player) : Player := player.receive (state.drawPile.take drawCount)
    have hdrawn : KeepsHands (fun id card => id = (GameEvent.drawCards origin).spender ∧
        card ∈ (GameEvent.drawCards origin).spent) state (state.updatePlayer origin draw) :=
      state.keepsHands_updatePlayer origin (fun _ => rfl) fun _ card _ =>
        (List.sublist_append_left _ _).count_le card
    exact hdrawn.trans (.of_players rfl)
  | nextTurn origin => exact .of_players rfl
  | reportBug origin victim bug =>
    have hnamed : Card.bug bug ∈ (GameEvent.reportBug origin victim bug).spent :=
      List.mem_singleton.mpr rfl
    exact (state.keepsHands_discardFromHand ⟨rfl, hnamed⟩).trans (.of_players rfl)
  | reactWithCard origin victim card =>
    have hnamed : card ∈ (GameEvent.reactWithCard origin victim card).spent :=
      List.mem_singleton.mpr rfl
    exact (state.keepsHands_discardFromHand ⟨rfl, hnamed⟩).trans (.of_players rfl)
  | reactWithoutCard origin victim =>
    exact (state.keepsHands_loseHealth victim).trans (.of_players rfl)
  | resolveStumbling origin via =>
    refine (state.keepsHands_clearStumbling origin).trans ?_
    cases via with
    | none =>
      exact ((state.clearStumbling origin).keepsHands_loseHealth origin).trans (.of_players rfl)
    | some card =>
      have hnamed : card ∈ (GameEvent.resolveStumbling origin (some card)).spent :=
        Option.mem_toList.mpr rfl
      exact ((state.clearStumbling origin).keepsHands_discardFromHand ⟨rfl, hnamed⟩).trans
        (.of_players rfl)
  | discard origin cards =>
    exact state.keepsHands_foldl_discardFromHand fun card hcard => ⟨rfl, hcard⟩

end GameState

end RoundTable
