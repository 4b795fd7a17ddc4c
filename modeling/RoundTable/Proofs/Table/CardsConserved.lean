import RoundTable.Proofs.Rules.AllCards
import RoundTable.Proofs.Table.Ruled

/-!
# Cards are conserved

Only who draws without sitting at the table makes cards vanish, and no edge of a turn accepts an
event that does not come from the table. So a table that keeps to the rules of a turn has the same
cards for ever.

## Main results

* `Rules.Allows.allCards_after`: an allowed event conserves the cards
* `Table.allCards_conserved`: so does every run
-/

namespace RoundTable

namespace GameState

variable {state : GameState} {event : GameEvent} {drawCount : Nat}

theorem vanishing_eq_zero
    (h : ∀ origin, event = .drawCards origin → state.isSeated origin = true) :
    state.vanishing drawCount event = 0 := by
  cases event with
  | drawCards origin => exact if_pos (h origin rfl)
  | _ => rfl

theorem vanishing_drawCards {origin : PlayerId} (h : state.isSeated origin = false) :
    state.vanishing drawCount (.drawCards origin) =
      (state.drawPile.take drawCount : List Card) := by
  rw [vanishing, h]
  rfl

/-- Events of players at the table conserve the cards. -/
theorem allCards_after_of_isSeated
    (h : ∀ origin, event = .drawCards origin → state.isSeated origin = true) :
    (state.after event drawCount).allCards = state.allCards := by
  have hafter := allCards_after state event drawCount
  rwa [vanishing_eq_zero h, add_zero] at hafter

end GameState

/-- An allowed event conserves the cards. -/
theorem Rules.Allows.allCards_after {state : GameState} {phase target : Turn} {event : GameEvent}
    (h : Rules.Allows state phase event target) (drawCount : Nat) :
    (state.after event drawCount).allCards = state.allCards := by
  refine GameState.allCards_after_of_isSeated ?_
  rintro origin rfl
  exact h.isSeated

theorem Rules.keeps_allCards (drawCount : Nat) (cards : Multiset Card) :
    Rules.Keeps drawCount fun _ state => state.allCards = cards := by
  intro state phase target event hallows hcards
  exact (hallows.allCards_after drawCount).trans hcards

namespace Table

/-- **Cards are conserved.** An event moves cards between hands, pile, heap and front, and their
multiset stays the same, unless somebody draws who does not sit at the table: then just the drawn
cards vanish. The rules of a turn never accept that. So a table has the same cards as the state with
which it was opened after any errands, with whatever results; and if visitors come and go as they
please, it has whenever nobody is inside the gate. -/
theorem allCards_conserved {config : TableConfig} {state : GameState} {table : Table}
    (hopened : opened config state = .ok table) :
    (∀ (state : GameState) (event : GameEvent) (drawCount : Nat),
      (∀ origin, event = .drawCards origin → state.isSeated origin = true) →
        (state.after event drawCount).allCards = state.allCards) ∧
    (∀ (state : GameState) (origin : PlayerId) (drawCount : Nat), state.isSeated origin = false →
      (state.after (.drawCards origin) drawCount).allCards +
        (state.drawPile.take drawCount : List Card) = state.allCards) ∧
    (∀ (machine : TableMachine) (origin : PlayerId), machine.table = Rules.turnTable →
      machine.payload.isSeated origin = false →
        ∀ target, machine.validate (.drawCards origin) ≠ .ok target) ∧
    (∀ errands : List Errand, (table.serveAll errands).1.state.allCards = state.allCards) ∧
    ∀ (ι : Type) [DecidableEq ι] (errand : ι → Errand) (labels : List (GateLabel ι))
      (gate : Gate ι), (Gate.opened table).run? errand labels = some gate →
        gate.holder = none → gate.table.state.allCards = state.allCards := by
  have hkeeps := Rules.keeps_allCards config.drawCount state.allCards
  refine ⟨fun _ _ _ => GameState.allCards_after_of_isSeated, ?_, ?_, ?_, ?_⟩
  · intro state origin drawCount hseated
    rw [← GameState.vanishing_drawCards hseated]
    exact GameState.allCards_after state _ drawCount
  · intro machine origin hedges hseated target hvalid
    have hallowed := ((Rules.validate_eq_ok_iff hedges).mp hvalid).isSeated
    exact absurd (hallowed.symm.trans hseated) nofun
  · intro errands
    exact holds_serveAll hopened hkeeps rfl errands
  · intro ι _ errand labels gate hrun hfree
    exact holds_of_run? hopened hkeeps rfl hrun hfree

theorem allCards_conserved_duel :
    (Gate.duel.serveAll [.apply (.drawCards ⟨7⟩), .apply (.drawCards ⟨0⟩),
        .apply (.discard ⟨0⟩ [.bug .systemHangs])]).1.state.allCards =
      {.bug .systemHangs} := by
  have hopened : opened {} Gate.duel.state = .ok Gate.duel := rfl
  rw [(allCards_conserved hopened).2.2.2.1]
  rfl

end Table

end RoundTable
