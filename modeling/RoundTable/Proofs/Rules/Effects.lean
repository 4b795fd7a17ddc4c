import RoundTable.Proofs.Rules.FrontRow
import RoundTable.Proofs.Rules.Hands

/-!
# What is left of a state

The effect of an event is put together from moves that look for a player, or for a card, and do
nothing where they find none. Where the event is allowed they find what they look for; and where no
two players have the same identifier, it is told at once what everybody has after the event. Here the
states after reports, reactions and answers to stumbling cards are written out, and whatever is not
written is as before.

## Main results

* `GameState.after_reportBug`, `GameState.after_deflected`, `GameState.after_taken`: the states in the
  course of an attack
* `GameState.after_resolveStumbling_card`, `GameState.after_resolveStumbling_noCard`: the states after
  a stumbling card
-/

namespace RoundTable

namespace GameState

variable {state : GameState} {id owner other origin victim : PlayerId} {card : Card}
  {bug : BugReport}

/-! ### Moves -/

theorem updatePlayer_eq (hnodup : state.seats.Nodup) (id : PlayerId) (change : Player → Player) :
    state.updatePlayer id change =
      { state with players := state.players.map fun player =>
          if player.id = id then change player else player } := by
  rw [updatePlayer, updateFirst_eq_map hnodup]

theorem discardFromHand_eq (hnodup : state.seats.Nodup) (hheld : state.HasInHand owner card) :
    state.discardFromHand owner card =
      { state with
        players := state.players.map fun player =>
          if player.id = owner then player.give card else player
        discardHeap := state.discardHeap ++ [card] } := by
  rw [discardFromHand, if_pos (any_holds_iff.mpr hheld), updatePlayer_eq hnodup]

theorem loseHealth_eq (hnodup : state.seats.Nodup) (victim : PlayerId) :
    state.loseHealth victim =
      { state with players := state.players.map fun player =>
          if player.id = victim then player.loseHealth else player } :=
  updatePlayer_eq hnodup victim Player.loseHealth

/-! ### Events -/

theorem after_reportBug (hnodup : state.seats.Nodup) (hheld : state.HasInHand origin (.bug bug))
    (victim : PlayerId) (drawCount : Nat) :
    state.after (.reportBug origin victim bug) drawCount =
      { state with
        players := state.players.map fun player =>
          if player.id = origin then player.give (.bug bug) else player
        discardHeap := state.discardHeap ++ [.bug bug]
        pendingAttack := some ⟨origin, victim, bug⟩ } := by
  change { state.discardFromHand origin (.bug bug) with
    pendingAttack := some ⟨origin, victim, bug⟩ } = _
  rw [discardFromHand_eq hnodup hheld]

theorem after_reactWithCard (hnodup : state.seats.Nodup) (hheld : state.HasInHand victim card)
    (origin : PlayerId) (drawCount : Nat) :
    state.after (.reactWithCard origin victim card) drawCount =
      { state with
        players := state.players.map fun player =>
          if player.id = victim then player.give card else player
        discardHeap := state.discardHeap ++ [card]
        pendingAttack := none } := by
  change { state.discardFromHand victim card with pendingAttack := none } = _
  rw [discardFromHand_eq hnodup hheld]

theorem after_reactWithoutCard (hnodup : state.seats.Nodup) (origin victim : PlayerId)
    (drawCount : Nat) :
    state.after (.reactWithoutCard origin victim) drawCount =
      { state with
        players := state.players.map fun player =>
          if player.id = victim then player.loseHealth else player
        turn := .play
        pendingAttack := none } := by
  change { state.loseHealth victim with pendingAttack := none, turn := .play } = _
  rw [loseHealth_eq hnodup]

/-! ### Attacks and what comes of them -/

/-- Two players are changed apart from each other. -/
theorem map_change_of_ne {first second : PlayerId} (hne : first ≠ second)
    {change : Player → Player} (hkeeps : ∀ player, (change player).id = player.id)
    (change' : Player → Player) (players : List Player) :
    (players.map fun player => if player.id = first then change player else player).map
        (fun player => if player.id = second then change' player else player) =
      players.map fun player =>
        if player.id = first then change player
        else if player.id = second then change' player else player := by
  rw [List.map_map]
  refine List.map_congr_left fun player _ => ?_
  by_cases hfirst : player.id = first
  · have hsecond : (change player).id ≠ second := by
      rw [hkeeps, hfirst]
      exact hne
    simp [hfirst, hsecond]
  · simp [hfirst]

/-- To report a bug costs nobody else anything. -/
theorem player?_reportBug (state : GameState) (hother : other ≠ origin) (bug : BugReport)
    (drawCount : Nat) :
    (state.after (.reportBug origin victim bug) drawCount).player? other = state.player? other := by
  refine (state.player?_discardFromHand origin (.bug bug) other).trans ?_
  simp [hother]

/-- The attack costs the attacker the bug and the victim the card that deflects it. -/
theorem after_deflected (hnodup : state.seats.Nodup) (hcalm : state.pendingAttack = none)
    (hbug : state.HasInHand origin (.bug bug)) (hother : origin ≠ victim)
    (hcard : state.HasInHand victim card) (drawCount : Nat) :
    (state.after (.reportBug origin victim bug) drawCount).after
        (.reactWithCard origin victim card) drawCount =
      { state with
        players := state.players.map fun player =>
          if player.id = origin then player.give (.bug bug)
          else if player.id = victim then player.give card else player
        discardHeap := state.discardHeap ++ [.bug bug, card] } := by
  have hseats : (state.after (.reportBug origin victim bug) drawCount).seats.Nodup := by
    rwa [seats_after]
  have hcard' : (state.after (.reportBug origin victim bug) drawCount).HasInHand victim card := by
    rwa [HasInHand, player?_reportBug state hother.symm]
  have hgive (player : Player) : (player.give (.bug bug)).id = player.id := rfl
  rw [after_reactWithCard hseats hcard', after_reportBug hnodup hbug]
  dsimp only
  rw [map_change_of_ne hother hgive, List.append_assoc, List.singleton_append, ← hcalm]

/-- The attack costs the attacker the bug and the victim a point of mental health. -/
theorem after_taken (hnodup : state.seats.Nodup) (hturn : state.turn = .play)
    (hcalm : state.pendingAttack = none) (hbug : state.HasInHand origin (.bug bug))
    (hother : origin ≠ victim) (drawCount : Nat) :
    (state.after (.reportBug origin victim bug) drawCount).after
        (.reactWithoutCard origin victim) drawCount =
      { state with
        players := state.players.map fun player =>
          if player.id = origin then player.give (.bug bug)
          else if player.id = victim then player.loseHealth else player
        discardHeap := state.discardHeap ++ [.bug bug] } := by
  have hseats : (state.after (.reportBug origin victim bug) drawCount).seats.Nodup := by
    rwa [seats_after]
  have hgive (player : Player) : (player.give (.bug bug)).id = player.id := rfl
  rw [after_reactWithoutCard hseats, after_reportBug hnodup hbug]
  dsimp only
  rw [map_change_of_ne hother hgive, ← hcalm, ← hturn]

/-! ### Stumbling cards -/

variable {ahead behind : List Card} {block : Card}

theorem after_resolveStumbling_card (hnodup : state.seats.Nodup)
    (hblocked : state.frontCards.Blocked origin ahead block behind)
    (hheld : state.HasInHand origin card) (drawCount : Nat) :
    state.after (.resolveStumbling origin (some card)) drawCount =
      { state with
        players := state.players.map fun player =>
          if player.id = origin then player.give card else player
        discardHeap := state.discardHeap ++ [block, card]
        frontCards := state.frontCards.modify origin fun _ => ahead ++ behind
        turn := .draw } := by
  have hcleared : (state.clearStumbling origin).HasInHand origin card := by
    rwa [HasInHand, player?_clearStumbling]
  have hseats : (state.clearStumbling origin).seats.Nodup := by
    rwa [(state.alike_clearStumbling origin).seats]
  change { (state.clearStumbling origin).discardFromHand origin card with turn := .draw } = _
  rw [discardFromHand_eq hseats hcleared, clearStumbling_eq hblocked]
  simp

theorem after_resolveStumbling_noCard (hnodup : state.seats.Nodup)
    (hblocked : state.frontCards.Blocked origin ahead block behind) (drawCount : Nat) :
    state.after (.resolveStumbling origin none) drawCount =
      { state with
        players := state.players.map fun player =>
          if player.id = origin then player.loseHealth else player
        discardHeap := state.discardHeap ++ [block]
        frontCards := state.frontCards.modify origin fun _ => ahead ++ behind
        turn := .draw } := by
  have hseats : (state.clearStumbling origin).seats.Nodup := by
    rwa [(state.alike_clearStumbling origin).seats]
  change { (state.clearStumbling origin).loseHealth origin with turn := .draw } = _
  rw [loseHealth_eq hseats, clearStumbling_eq hblocked]

end GameState

end RoundTable
