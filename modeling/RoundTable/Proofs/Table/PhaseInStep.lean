import RoundTable.Proofs.Table.Ruled

/-!
# Phase and turn stay in step

The phase of a table is moved by its edges, and the turn that its state tells is set by the effects
of events. Several effects leave the turn alone and rely on the edge leading back to where it
started. That the two agree is checked line by line against what the rules allow.

## Main results

* `Rules.Allows.turn_after`: an allowed event sets the turn to the phase that its edge enters
* `Table.phase_eq_turn`: phase and turn agree whenever nobody is inside the gate
-/

namespace RoundTable

/-! ### Effects that leave the turn alone -/

namespace GameState

@[simp]
theorem turn_discardFromHand (state : GameState) (owner : PlayerId) (card : Card) :
    (state.discardFromHand owner card).turn = state.turn := by
  rw [discardFromHand]
  split <;> rfl

theorem turn_foldl_discardFromHand (state : GameState) (owner : PlayerId) (cards : List Card) :
    (cards.foldl (fun state card => state.discardFromHand owner card) state).turn = state.turn := by
  induction cards generalizing state with
  | nil => rfl
  | cons card cards ih => rw [List.foldl_cons, ih, turn_discardFromHand]

end GameState

/-- An allowed event sets the turn to the phase that its edge enters. -/
theorem Rules.Allows.turn_after {state : GameState} {phase target : Turn} {event : GameEvent}
    (h : Rules.Allows state phase event target) (hturn : state.turn = phase) (drawCount : Nat) :
    (state.after event drawCount).turn = target := by
  cases h with
  | resolve | drawAtOnce | draw | hit | pass => rfl
  | report => exact (state.turn_discardFromHand _ _).trans hturn
  | excuse => exact (state.turn_discardFromHand _ _).trans hturn
  | discard => exact (state.turn_foldl_discardFromHand _ _).trans hturn

theorem Rules.keeps_turn (drawCount : Nat) :
    Rules.Keeps drawCount fun phase state => phase = state.turn := by
  intro state phase target event hallows hturn
  exact (hallows.turn_after hturn.symm drawCount).symm

namespace Table

/-- **Phase and turn never drift apart.** A table that was opened with any state, whatever turn it
tells, is in the phase that its state tells after any errands; and if visitors come and go as they
please, it is whenever nobody is inside the gate. -/
theorem phase_eq_turn {config : TableConfig} {state : GameState} {table : Table}
    (hopened : opened config state = .ok table) :
    (∀ errands : List Errand,
      (table.serveAll errands).1.phase = (table.serveAll errands).1.state.turn) ∧
    ∀ (ι : Type) [DecidableEq ι] (errand : ι → Errand) (labels : List (GateLabel ι))
      (gate : Gate ι), (Gate.opened table).run? errand labels = some gate →
        gate.holder = none → gate.table.phase = gate.table.state.turn := by
  have hkeeps := Rules.keeps_turn config.drawCount
  constructor
  · intro errands
    exact holds_serveAll hopened hkeeps rfl errands
  · intro ι _ errand labels gate hrun hfree
    exact holds_of_run? hopened hkeeps rfl hrun hfree

theorem phase_eq_turn_duel :
    (Gate.duel.serveAll [.apply (.drawCards ⟨0⟩), .endTurn ⟨1⟩, .endTurn ⟨0⟩]).1.phase =
      .stumbling := by
  have hopened : opened {} Gate.duel.state = .ok Gate.duel := rfl
  rw [(phase_eq_turn hopened).1]
  rfl

end Table

end RoundTable
