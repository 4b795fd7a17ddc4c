import RoundTable.Proofs.Table.Linearizable

/-!
# No visitor gets stuck

Wherever a run stands, it can go on until nobody is inside the gate. Whoever is inside has a send
that can always be brought to its end, and after that nothing to wait for.

## Main definitions

* `Gate.CanClear`: gates that can go on until nobody is inside

## Main results

* `Gate.canClear_of_run?`: every run can go on until nobody is inside
-/

namespace RoundTable

namespace Gate

variable {ι : Type} [DecidableEq ι] {errand : ι → Errand} {opening : Table} {gate next : Gate ι}

/-- There are steps after which nobody is inside the gate. -/
def CanClear (errand : ι → Errand) (gate : Gate ι) : Prop :=
  ∃ labels next, gate.run? errand labels = some next ∧ next.holder = none

theorem CanClear.of_step? {label : GateLabel ι} (hnext : next.CanClear errand)
    (hstep : gate.step? errand label = some next) : gate.CanClear errand := by
  obtain ⟨labels, last, hrun, hfree⟩ := hnext
  refine ⟨label :: labels, last, ?_, hfree⟩
  rw [run?, hstep]
  exact hrun

variable {visitor : ι} {glimpse : Glimpse} {stage : SendStage Turn EventKind GameEvent}

theorem canClear_of_leaving {result : Except Refusal Finding}
    (hstage : gate.stage visitor = .leaving result) : gate.CanClear errand := by
  refine ⟨[.leave visitor], { gate.setStage visitor (.gone result) with holder := none }, ?_, rfl⟩
  rw [run?, step?, hstage]
  rfl

theorem canClear_of_visitStep? {table : Table} {stage : VisitStage}
    (hvisit : gate.table.visitStep? (errand visitor) (gate.stage visitor) = some (table, stage))
    (hnext : CanClear errand { gate.setStage visitor stage with table }) :
    gate.CanClear errand := by
  have hstep : gate.step? errand (.act visitor) =
      some { gate.setStage visitor stage with table } := by
    rw [step?, hvisit]
    rfl
  exact hnext.of_step? hstep

/-- A send that can be brought to its end can be brought there at the gate. -/
theorem canClear_of_course? {labels : List SendLabel} {machine : TableMachine}
    {result : Except Refusal Unit} (hstage : gate.stage visitor = .sending glimpse stage)
    (hcourse : gate.table.machine.course? stage labels = some (machine, .finished result)) :
    gate.CanClear errand := by
  induction labels generalizing gate stage with
  | nil =>
    cases hcourse
    have hvisit : gate.table.visitStep? (errand visitor) (gate.stage visitor) =
        some (gate.table, .leaving (result.map fun _ => glimpse.finding gate.table)) := by
      rw [hstage]
      rfl
    exact canClear_of_visitStep? hvisit (canClear_of_leaving (setStage_self gate visitor _))
  | cons label labels ih =>
    cases label with
    | sender =>
      obtain ⟨⟨middle, stage'⟩, hsend, hlabels⟩ := Option.bind_eq_some_iff.mp hcourse
      have hunfinished : ∀ result, stage ≠ .finished result := by
        rintro result rfl
        cases hsend
      have hvisit : gate.table.visitStep? (errand visitor) (gate.stage visitor) =
          some ({ gate.table with machine := middle }, .sending glimpse stage') := by
        rw [hstage, Table.visitStep?_sending hunfinished, hsend]
        rfl
      exact canClear_of_visitStep? hvisit (ih (setStage_self gate visitor _) hlabels)
    | store move =>
      obtain ⟨middle, hmove, hlabels⟩ := Option.bind_eq_some_iff.mp hcourse
      have hstep : gate.step? errand (.store move) =
          some { gate with table := { gate.table with machine := middle } } := by
        rw [step?, hmove]
        rfl
      exact (ih (by exact hstage) hlabels).of_step? hstep

/-- The visitor inside can come to its end. -/
theorem canClear_of_inside {before : Table} (hrest : before.machine.store.AtRest)
    (h : Table.Inside before (errand visitor) gate.table (gate.stage visitor)) :
    gate.CanClear errand := by
  generalize htable : gate.table = table at h
  generalize hstage : gate.stage visitor = stage at h
  cases h with
  | looking =>
    subst htable
    have hstart : gate.table.machine.Underway ((errand visitor).look gate.table).2
        gate.table.machine (.validating ((errand visitor).look gate.table).2) := .validating
    obtain ⟨labels, hcourse⟩ := hstart.exists_course hrest
    have hvisit : gate.table.visitStep? (errand visitor) (gate.stage visitor) =
        some (gate.table, .sending ((errand visitor).look gate.table).1
          (.validating ((errand visitor).look gate.table).2)) := by
      rw [hstage]
      rfl
    exact canClear_of_visitStep? hvisit
      (canClear_of_course? (setStage_self gate visitor _) hcourse)
  | @sending machine stage underway =>
    obtain ⟨labels, hcourse⟩ := underway.exists_course hrest
    have hmachine : gate.table.machine = machine := congrArg Table.machine htable
    rw [← hmachine] at hcourse
    exact canClear_of_course? hstage hcourse
  | leaving => exact canClear_of_leaving hstage

/-- **No visitor gets stuck.** However visitors have come and gone, the one inside, if any, can
always come to its end and leave. -/
theorem canClear_of_run? (hrest : opening.machine.store.AtRest) {labels : List (GateLabel ι)}
    (hrun : (Gate.opened opening).run? errand labels = some gate) : gate.CanClear errand := by
  obtain ⟨past, hpast⟩ := (inOrder_opened opening errand).run? hrest hrun
  cases hpast.standing with
  | free holder admitted table => exact ⟨[], gate, rfl, holder⟩
  | taken holder admitted inside =>
    exact canClear_of_inside (Table.atRest_serveAll hrest _) inside

end Gate

end RoundTable
