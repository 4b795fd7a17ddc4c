import RoundTable.Proofs.Rules.Allows
import RoundTable.Proofs.Table.Linearizable

/-!
# Invariants of the rules

What holds of the first turn and state of a table, and is kept by every event that the rules allow,
holds after any errands, and whenever nobody is inside the gate. So to prove something about all
runs of a table is to go through the lines of the rules once.

## Main definitions

* `Rules.Keeps`: what allowed events keep
* `Table.Ruled`: tables with the rules of a turn of which something holds

## Main results

* `Table.holds_serveAll`: what allowed events keep, errands keep
* `Table.holds_of_run?`: so do visitors who come and go as they please
-/

namespace RoundTable

/-- Allowed events keep what holds of the phase and the state. -/
def Rules.Keeps (drawCount : Nat) (P : Turn → GameState → Prop) : Prop :=
  ∀ ⦃state : GameState⦄ ⦃phase target : Turn⦄ ⦃event : GameEvent⦄,
    Rules.Allows state phase event target → P phase state → P target (state.after event drawCount)

namespace Table

/-- A table with the rules of a turn and the given number of cards to draw, of whose phase and state
something holds. -/
structure Ruled (drawCount : Nat) (P : Turn → GameState → Prop) (table : Table) : Prop where
  edges : table.machine.table = Rules.turnTable
  drawCount : table.config.drawCount = drawCount
  holds : P table.phase table.state

variable {before after : Table} {event : GameEvent} {drawCount : Nat}
  {P : Turn → GameState → Prop}

/-- What a table with the rules of a turn takes is allowed. -/
theorem Takes.allows (h : before.Takes event after)
    (hedges : before.machine.table = Rules.turnTable) :
    Rules.Allows before.state before.phase event after.phase :=
  (Rules.validate_eq_ok_iff hedges).mp h.valid

theorem Takes.ruled (h : before.Takes event after) (hkeeps : Rules.Keeps drawCount P)
    (hbefore : before.Ruled drawCount P) : after.Ruled drawCount P := by
  refine ⟨h.table.trans hbefore.edges, ?_, ?_⟩
  · rw [h.config]
    exact hbefore.drawCount
  · rw [h.state, hbefore.drawCount]
    exact hkeeps (h.allows hbefore.edges) hbefore.holds

theorem Refuses.ruled {refusal : Refusal} (h : before.Refuses event refusal after)
    (hbefore : before.Ruled drawCount P) : after.Ruled drawCount P := by
  refine ⟨h.table.trans hbefore.edges, ?_, ?_⟩
  · rw [h.config]
    exact hbefore.drawCount
  · rw [h.phase, h.state]
    exact hbefore.holds

variable {config : TableConfig} {state : GameState} {table : Table}

theorem ruled_of_opened (hopened : opened config state = .ok table) (hstart : P state.turn state) :
    table.Ruled config.drawCount P := by
  rw [eq_of_withEdges hopened]
  exact ⟨rfl, rfl, hstart⟩

/-- **Invariants after errands.** -/
theorem holds_serveAll (hopened : opened config state = .ok table)
    (hkeeps : Rules.Keeps config.drawCount P) (hstart : P state.turn state)
    (errands : List Errand) :
    P (table.serveAll errands).1.phase (table.serveAll errands).1.state := by
  have hcourse := course_serveAll (isOpen_of_withEdges hopened) errands
  have hruled := hcourse.keeps (fun htakes => htakes.ruled hkeeps) Refuses.ruled
    (ruled_of_opened hopened hstart)
  exact hruled.holds

/-- **Invariants at the gate.** -/
theorem holds_of_run? (hopened : opened config state = .ok table)
    (hkeeps : Rules.Keeps config.drawCount P) (hstart : P state.turn state)
    {ι : Type} [DecidableEq ι] {errand : ι → Errand} {labels : List (GateLabel ι)}
    {gate : Gate ι} (hrun : (Gate.opened table).run? errand labels = some gate)
    (hfree : gate.holder = none) : P gate.table.phase gate.table.state := by
  have hrest := (isOpen_of_withEdges hopened).atRest
  obtain ⟨-, htable⟩ := Gate.inOrder_of_run? hrest hrun hfree
  rw [htable]
  exact holds_serveAll hopened hkeeps hstart _

end Table

end RoundTable
