import RoundTable.Rules

/-!
# Who sits where

Events move cards, points and the turn, but nobody gets up or sits down: the seats stay as they are.
What is said about a player at the table, or about whose turn it is, depends on the seats alone and
on where the turn is.

## Main definitions

* `GameState.seats`: who sits at the table, in order
* `GameState.Alike`: states with the same seats, turn and attack

## Main results

* `GameState.Alike.isSeated`, `GameState.Alike.isCurrent`: the same players sit, and are next
* `GameState.alike_foldl_discardFromHand`: cards that are given away change no more than cards
* `GameState.seats_after`, `GameState.current_after`, `GameState.current_nextTurn`: what events do to
  seats and to the turn
-/

namespace RoundTable

namespace GameState

variable {before after : GameState} {id : PlayerId}

/-- Who sits at the table, in the order of the seats. -/
def seats (state : GameState) : List PlayerId := state.players.map Player.id

theorem isSeated_iff {state : GameState} : state.isSeated id = true ↔ id ∈ state.seats := by
  simp [isSeated, player?, seats]

theorem isCurrent_iff {state : GameState} :
    state.isCurrent id = true ↔ state.seats[state.current]? = some id := by
  simp [isCurrent, currentId?, currentPlayer?, seats]

/-- Somebody sits where the turn is, if there is such a seat. -/
theorem exists_isCurrent {state : GameState} (h : state.current < state.players.length) :
    ∃ id, state.isCurrent id = true := by
  refine ⟨state.players[state.current].id, isCurrent_iff.mpr ?_⟩
  rw [seats, List.getElem?_map, List.getElem?_eq_getElem h, Option.map_some]

/-- It is one player's turn at a time. -/
theorem eq_of_isCurrent {state : GameState} {other : PlayerId} (h : state.isCurrent id = true)
    (hother : state.isCurrent other = true) : id = other :=
  Option.some.inj ((of_decide_eq_true h).symm.trans (of_decide_eq_true hother))

/-- The same players sit at the same seats, it is the same player's turn, and the same attack waits
for an answer. -/
structure Alike (before after : GameState) : Prop where
  seats : after.seats = before.seats
  current : after.current = before.current
  attack : after.pendingAttack = before.pendingAttack

theorem Alike.refl (state : GameState) : Alike state state := ⟨rfl, rfl, rfl⟩

theorem Alike.trans {middle : GameState} (first : Alike before middle)
    (second : Alike middle after) : Alike before after :=
  ⟨second.seats.trans first.seats, second.current.trans first.current,
    second.attack.trans first.attack⟩

theorem Alike.isSeated (h : Alike before after) : after.isSeated id = before.isSeated id := by
  rw [Bool.eq_iff_iff, isSeated_iff, isSeated_iff, h.seats]

theorem Alike.isCurrent (h : Alike before after) : after.isCurrent id = before.isCurrent id := by
  rw [Bool.eq_iff_iff, isCurrent_iff, isCurrent_iff, h.seats, h.current]

/-! ### Events -/

/-- What a change leaves alone of every player, it leaves alone at the table. -/
theorem map_updateFirst {α : Type} {change : Player → Player} {read : Player → α}
    (hchange : ∀ player, read (change player) = read player) (players : List Player) :
    (updateFirst id change players).map read = players.map read := by
  induction players with
  | nil => rfl
  | cons player players ih =>
    rw [updateFirst]
    split
    · simp only [List.map_cons, hchange]
    · simp only [List.map_cons, ih]

/-- Where no two players have the same identifier, the first one with it is the only one. -/
theorem updateFirst_eq_map {players : List Player} (hnodup : (players.map Player.id).Nodup)
    (id : PlayerId) (change : Player → Player) :
    updateFirst id change players =
      players.map fun player => if player.id = id then change player else player := by
  induction players with
  | nil => rfl
  | cons first rest ih =>
    rw [List.map_cons, List.nodup_cons] at hnodup
    rw [updateFirst, List.map_cons]
    split
    case isTrue hfirst =>
      have hother : ∀ player ∈ rest, (if player.id = id then change player else player) = player := by
        intro player hmem
        refine if_neg fun heq => hnodup.1 ?_
        rw [hfirst, ← heq]
        exact List.mem_map_of_mem hmem
      rw [List.map_congr_left hother, List.map_id']
    case isFalse => rw [ih hnodup.2]

theorem alike_updatePlayer (state : GameState) (id : PlayerId) {change : Player → Player}
    (hchange : ∀ player, (change player).id = player.id) :
    Alike state (state.updatePlayer id change) :=
  ⟨map_updateFirst hchange state.players, rfl, rfl⟩

theorem alike_discardFromHand (state : GameState) (owner : PlayerId) (card : Card) :
    Alike state (state.discardFromHand owner card) := by
  rw [discardFromHand]
  split
  · have hgive : ∀ player : Player, (player.give card).id = player.id := fun _ => rfl
    have halike := state.alike_updatePlayer owner hgive
    exact ⟨halike.seats, halike.current, halike.attack⟩
  · exact .refl state

theorem alike_foldl_discardFromHand (state : GameState) (owner : PlayerId) (cards : List Card) :
    Alike state (cards.foldl (fun state card => state.discardFromHand owner card) state) := by
  induction cards generalizing state with
  | nil => exact .refl state
  | cons card cards ih => exact (state.alike_discardFromHand owner card).trans (ih _)

theorem alike_loseHealth (state : GameState) (victim : PlayerId) :
    Alike state (state.loseHealth victim) :=
  state.alike_updatePlayer victim fun _ => rfl

theorem alike_clearStumbling (state : GameState) (id : PlayerId) :
    Alike state (state.clearStumbling id) := by
  rw [clearStumbling]
  split
  · exact .refl state
  · exact ⟨rfl, rfl, rfl⟩

/-- To draw is to receive cards, and nothing else for the seats. -/
theorem alike_drawCards (state : GameState) (id : PlayerId) (drawCount : Nat) :
    Alike state (state.after (.drawCards id) drawCount) := by
  have hreceive (player : Player) :
      (player.receive (state.drawPile.take drawCount)).id = player.id := rfl
  have halike := state.alike_updatePlayer id hreceive
  exact ⟨halike.seats, halike.current, halike.attack⟩

theorem alike_resolveStumbling (state : GameState) (origin : PlayerId) (via : Option Card)
    (drawCount : Nat) : Alike state (state.after (.resolveStumbling origin via) drawCount) := by
  have hcleared := state.alike_clearStumbling origin
  cases via with
  | none =>
    have halike := hcleared.trans ((state.clearStumbling origin).alike_loseHealth origin)
    exact ⟨halike.seats, halike.current, halike.attack⟩
  | some card =>
    have halike := hcleared.trans ((state.clearStumbling origin).alike_discardFromHand origin card)
    exact ⟨halike.seats, halike.current, halike.attack⟩

/-- Nobody gets up or sits down. -/
theorem seats_after (state : GameState) (event : GameEvent) (drawCount : Nat) :
    (state.after event drawCount).seats = state.seats := by
  cases event with
  | drawCards origin => exact (state.alike_drawCards origin drawCount).seats
  | nextTurn => rfl
  | reportBug origin victim bug => exact (state.alike_discardFromHand origin (.bug bug)).seats
  | reactWithCard origin victim card => exact (state.alike_discardFromHand victim card).seats
  | reactWithoutCard origin victim => exact (state.alike_loseHealth victim).seats
  | resolveStumbling origin via => exact (state.alike_resolveStumbling origin via drawCount).seats
  | discard origin cards => exact (state.alike_foldl_discardFromHand origin cards).seats

/-- It is the same player's turn until the turn passes on. -/
theorem current_after {state : GameState} {event : GameEvent} (h : event.kind ≠ .nextTurn)
    (drawCount : Nat) : (state.after event drawCount).current = state.current := by
  cases event with
  | drawCards | reactWithoutCard => rfl
  | nextTurn => exact absurd rfl h
  | reportBug origin victim bug => exact (state.alike_discardFromHand origin (.bug bug)).current
  | reactWithCard origin victim card => exact (state.alike_discardFromHand victim card).current
  | resolveStumbling origin via => exact (state.alike_resolveStumbling origin via drawCount).current
  | discard origin cards => exact (state.alike_foldl_discardFromHand origin cards).current

theorem isCurrent_after {state : GameState} {event : GameEvent} (h : event.kind ≠ .nextTurn)
    (drawCount : Nat) : (state.after event drawCount).isCurrent id = state.isCurrent id := by
  rw [Bool.eq_iff_iff, isCurrent_iff, isCurrent_iff, seats_after, current_after h]

/-- The turn passes on to the next seat, and from the last one to the first one. -/
theorem current_nextTurn {state : GameState} (h : state.isCurrent id = true) (drawCount : Nat) :
    (state.after (.nextTurn id) drawCount).current =
      (state.current + 1) % state.players.length := by
  have hseated : state.players ≠ [] := by
    rintro hnil
    have hnobody : state.seats = [] := by rw [seats, hnil, List.map_nil]
    have hseat := isCurrent_iff.mp h
    rw [hnobody] at hseat
    cases hseat
  show (if state.players.isEmpty then _ else _) = _
  rw [if_neg (by simpa using hseated)]

theorem length_seats (state : GameState) : state.seats.length = state.players.length :=
  List.length_map _

end GameState

end RoundTable
