import RoundTable.Proofs.Automaton.Courses
import RoundTable.Proofs.Table.Errands

/-!
# Visits are linearizable

The gate puts visitors in order. However the steps of any number of visitors and of the store follow
each other, whenever nobody is inside the gate the table is as if those who have been inside had
come one after another, each alone, in the order in which they passed the gate; and each of them has
learnt what it would have learnt alone.

The invariant names the visitors who have left, in order, and what the one inside, if any, has done
so far: it stands somewhere between its first look and the end of its errand, and that errand
started at the table that the others have left behind.

## Main definitions

* `Table.Inside`: how far an errand can have come inside the gate
* `Gate.InOrder`: the invariant

## Main results

* `Table.Inside.visitStep?`, `Table.Inside.storeStep?`: steps stay inside an errand
* `Gate.InOrder.step?`, `Gate.InOrder.run?`: steps, and runs, keep the order
* `Gate.linearizable`: runs are linearizable
-/

namespace RoundTable

/-! ### Inside the gate -/

namespace Table

/-- A table and what the visitor inside the gate is about to do, when the errand started at the
table `before`. -/
inductive Inside (before : Table) (errand : Errand) : Table → VisitStage → Prop where
  | looking : Inside before errand before .looking
  | sending {machine : TableMachine} {stage : SendStage Turn EventKind GameEvent}
    (underway : before.machine.Underway (errand.look before).2 machine stage) :
    Inside before errand { before with machine } (.sending (errand.look before).1 stage)
  | leaving : Inside before errand (before.serve errand).1 (.leaving (before.serve errand).2)

variable {before table next : Table} {errand : Errand} {stage stage' : VisitStage}

theorem visitStep?_sending {glimpse : Glimpse} {stage : SendStage Turn EventKind GameEvent}
    (hstage : ∀ result, stage ≠ .finished result) :
    table.visitStep? errand (.sending glimpse stage) =
      (table.machine.sendStep? stage).map fun next =>
        ({ table with machine := next.1 }, .sending glimpse next.2) := by
  cases stage with
  | finished result => exact absurd rfl (hstage result)
  | _ => rfl

/-- A step of the visitor stays inside its errand. -/
theorem Inside.visitStep? (hrest : before.machine.store.AtRest)
    (h : Inside before errand table stage)
    (hstep : table.visitStep? errand stage = some (next, stage')) :
    Inside before errand next stage' := by
  cases h with
  | looking =>
    cases hstep
    exact .sending .validating
  | @sending machine stage underway =>
    by_cases hstage : ∃ result, stage = .finished result
    · obtain ⟨result, rfl⟩ := hstage
      cases underway
      cases hstep
      have hleaving : Inside before errand _ _ := .leaving
      rwa [serve_eq before errand] at hleaving
    · rw [visitStep?_sending fun result h => hstage ⟨result, h⟩] at hstep
      obtain ⟨send, hsend, heq⟩ := Option.map_eq_some_iff.mp hstep
      cases heq
      exact .sending (underway.sendStep? hrest hsend)
  | leaving => cases hstep

theorem atRest_serve (hrest : before.machine.store.AtRest) (errand : Errand) :
    (before.serve errand).1.machine.store.AtRest := by
  rw [serve_eq]
  exact Machine.atRest_send hrest _

theorem atRest_serveAll (hrest : before.machine.store.AtRest) (errands : List Errand) :
    (before.serveAll errands).1.machine.store.AtRest := by
  induction errands generalizing before with
  | nil => exact hrest
  | cons errand errands ih => exact ih (atRest_serve hrest errand)

theorem storeStep?_of_atRest {machine : TableMachine} (hrest : machine.store.AtRest)
    (move : StoreMove) : machine.storeStep? move = none := by
  rw [Machine.storeStep?, Store.move?_of_held_eq_nil hrest.held]
  rfl

/-- A step of the store stays inside the errand. -/
theorem Inside.storeStep? (hrest : before.machine.store.AtRest)
    (h : Inside before errand table stage) {move : StoreMove} {machine : TableMachine}
    (hstep : table.machine.storeStep? move = some machine) :
    Inside before errand { table with machine } stage := by
  cases h with
  | looking => simp [storeStep?_of_atRest hrest] at hstep
  | sending underway => exact .sending (underway.storeStep? hrest hstep)
  | leaving => simp [storeStep?_of_atRest (atRest_serve hrest errand)] at hstep

end Table

/-! ### Through the gate -/

namespace Gate

variable {ι : Type} {errand : ι → Errand} {opening : Table} {gate next : Gate ι}

/-- The visitors in `past` have left, in this order, and at most one other is inside: the table is
the one that they have left behind, or somewhere inside the errand of that other. -/
inductive Standing (opening : Table) (errand : ι → Errand) (past : List ι) (gate : Gate ι) :
    Prop where
  | free (holder : gate.holder = none) (admitted : gate.admitted = past)
    (table : gate.table = (opening.serveAll (past.map errand)).1)
  | taken {visitor : ι} (holder : gate.holder = some visitor)
    (admitted : gate.admitted = past ++ [visitor])
    (inside : Table.Inside (opening.serveAll (past.map errand)).1 (errand visitor) gate.table
      (gate.stage visitor))

/-- Visitors are in order: nobody is admitted twice, those not admitted are outside, those who have
left have learnt what they would have learnt alone, and nobody disturbs the one inside. -/
structure InOrder (opening : Table) (errand : ι → Errand) (past : List ι) (gate : Gate ι) :
    Prop where
  nodup : gate.admitted.Nodup
  outside : ∀ visitor, visitor ∉ gate.admitted → gate.stage visitor = .outside
  gone : past.map gate.stage = (opening.serveAll (past.map errand)).2.map .gone
  standing : Standing opening errand past gate

theorem inOrder_opened (opening : Table) (errand : ι → Errand) :
    InOrder opening errand [] (Gate.opened opening) :=
  ⟨List.nodup_nil, fun _ _ => rfl, rfl, .free rfl rfl rfl⟩

variable {past : List ι}

theorem InOrder.exists_gone (h : InOrder opening errand past gate) {visitor : ι}
    (hmem : visitor ∈ past) : ∃ result, gate.stage visitor = .gone result := by
  have hstage : gate.stage visitor ∈ past.map gate.stage := List.mem_map_of_mem hmem
  rw [h.gone] at hstage
  obtain ⟨result, -, hresult⟩ := List.mem_map.mp hstage
  exact ⟨result, hresult.symm⟩

/-- The visitor inside has not been inside before. -/
theorem InOrder.not_mem_past (h : InOrder opening errand past gate) {visitor : ι}
    (hadmitted : gate.admitted = past ++ [visitor]) : visitor ∉ past := by
  have hnodup := h.nodup
  rw [hadmitted, List.nodup_append] at hnodup
  obtain ⟨-, -, hdisjoint⟩ := hnodup
  intro hmem
  exact hdisjoint visitor hmem visitor List.mem_cons_self rfl

/-- Whoever is neither outside nor gone holds the gate. -/
theorem InOrder.holder_eq (h : InOrder opening errand past gate) {visitor : ι}
    (houtside : gate.stage visitor ≠ .outside)
    (hgone : ∀ result, gate.stage visitor ≠ .gone result) :
    gate.holder = some visitor ∧ gate.admitted = past ++ [visitor] ∧
      Table.Inside (opening.serveAll (past.map errand)).1 (errand visitor) gate.table
        (gate.stage visitor) := by
  have hadmitted : visitor ∈ gate.admitted :=
    Classical.byContradiction fun hnot => houtside (h.outside visitor hnot)
  have hpast : visitor ∉ past := by
    intro hmem
    obtain ⟨result, hresult⟩ := h.exists_gone hmem
    exact hgone result hresult
  cases h.standing with
  | free holder admitted table => exact absurd (admitted ▸ hadmitted) hpast
  | @taken inside holder admitted hinside =>
    have : visitor = inside := by
      rw [admitted, List.mem_append] at hadmitted
      exact List.mem_singleton.mp (hadmitted.resolve_left hpast)
    subst this
    exact ⟨holder, admitted, hinside⟩

/-- When nobody is inside, all who were admitted have left. -/
theorem InOrder.admitted_eq (h : InOrder opening errand past gate) (hfree : gate.holder = none) :
    gate.admitted = past ∧ gate.table = (opening.serveAll (past.map errand)).1 := by
  cases h.standing with
  | free holder admitted table => exact ⟨admitted, table⟩
  | taken holder admitted inside => exact absurd (hfree.symm.trans holder) nofun

/-! ### Steps -/

variable [DecidableEq ι]

@[simp]
theorem setStage_self (gate : Gate ι) (visitor : ι) (stage : VisitStage) :
    (gate.setStage visitor stage).stage visitor = stage :=
  if_pos rfl

theorem setStage_of_ne (gate : Gate ι) {visitor other : ι} (hne : other ≠ visitor)
    (stage : VisitStage) : (gate.setStage visitor stage).stage other = gate.stage other :=
  if_neg hne

theorem map_setStage_of_not_mem (gate : Gate ι) {visitor : ι} {visitors : List ι}
    (hmem : visitor ∉ visitors) (stage : VisitStage) :
    visitors.map (gate.setStage visitor stage).stage = visitors.map gate.stage := by
  refine List.map_congr_left fun other hother => setStage_of_ne gate ?_ stage
  rintro rfl
  exact hmem hother

theorem InOrder.outside_setStage (h : InOrder opening errand past gate) {visitor : ι}
    (hmem : visitor ∈ gate.admitted) (stage : VisitStage) (other : ι)
    (hother : other ∉ gate.admitted) : (gate.setStage visitor stage).stage other = .outside := by
  have hne : other ≠ visitor := by
    rintro rfl
    exact hother hmem
  rw [setStage_of_ne gate hne]
  exact h.outside other hother

/-- A visitor passes the gate. -/
theorem InOrder.enter (h : InOrder opening errand past gate) {visitor : ι}
    (hstep : gate.step? errand (.enter visitor) = some next) : InOrder opening errand past next := by
  rw [step?] at hstep
  split at hstep
  case h_2 => cases hstep
  case h_1 hholder hstage =>
    cases hstep
    obtain ⟨hadmitted, htable⟩ := h.admitted_eq hholder
    have hpast : visitor ∉ past := by
      intro hmem
      obtain ⟨result, hresult⟩ := h.exists_gone hmem
      exact absurd (hstage.symm.trans hresult) nofun
    refine ⟨?_, ?_, ?_, .taken rfl (congrArg (· ++ [visitor]) hadmitted) ?_⟩
    · show (gate.admitted ++ [visitor]).Nodup
      rw [hadmitted, List.nodup_append]
      refine ⟨hadmitted ▸ h.nodup, List.nodup_cons.mpr ⟨nofun, List.nodup_nil⟩, ?_⟩
      intro a ha b hb heq
      rw [heq, List.mem_singleton.mp hb] at ha
      exact hpast ha
    · intro other hother
      have hnot : other ∉ gate.admitted := fun hmem =>
        hother (List.mem_append_left _ hmem)
      have hne : other ≠ visitor := fun heq =>
        hother (heq ▸ List.mem_append_right _ List.mem_cons_self)
      exact (setStage_of_ne gate hne _).trans (h.outside other hnot)
    · exact (map_setStage_of_not_mem gate hpast _).trans h.gone
    · show Table.Inside _ _ gate.table ((gate.setStage visitor .looking).stage visitor)
      rw [setStage_self, htable]
      exact .looking

/-- The visitor inside takes a step. -/
theorem InOrder.act (hrest : opening.machine.store.AtRest) (h : InOrder opening errand past gate)
    {visitor : ι} (hstep : gate.step? errand (.act visitor) = some next) :
    InOrder opening errand past next := by
  obtain ⟨⟨table, stage⟩, hvisit, heq⟩ := Option.map_eq_some_iff.mp hstep
  cases heq
  have houtside : gate.stage visitor ≠ .outside := by
    intro heq
    rw [heq] at hvisit
    cases hvisit
  have hgone : ∀ result, gate.stage visitor ≠ .gone result := by
    intro result heq
    rw [heq] at hvisit
    cases hvisit
  obtain ⟨hholder, hadmitted, hinside⟩ := h.holder_eq houtside hgone
  have hmem : visitor ∈ gate.admitted := hadmitted ▸ List.mem_append_right _ List.mem_cons_self
  refine ⟨h.nodup, h.outside_setStage hmem stage, ?_, .taken hholder hadmitted ?_⟩
  · show past.map (gate.setStage visitor stage).stage = _
    rw [map_setStage_of_not_mem gate (h.not_mem_past hadmitted)]
    exact h.gone
  · show Table.Inside _ _ table ((gate.setStage visitor stage).stage visitor)
    rw [setStage_self]
    exact hinside.visitStep? (Table.atRest_serveAll hrest _) hvisit

/-- The visitor inside leaves. -/
theorem InOrder.leave (h : InOrder opening errand past gate) {visitor : ι}
    (hstep : gate.step? errand (.leave visitor) = some next) :
    InOrder opening errand (past ++ [visitor]) next := by
  rw [step?] at hstep
  split at hstep
  case h_2 => cases hstep
  case h_1 result hstage =>
    cases hstep
    have houtside : gate.stage visitor ≠ .outside := by
      rw [hstage]
      nofun
    have hgone : ∀ result, gate.stage visitor ≠ .gone result := by
      rw [hstage]
      nofun
    obtain ⟨hholder, hadmitted, hinside⟩ := h.holder_eq houtside hgone
    have hmem : visitor ∈ gate.admitted := hadmitted ▸ List.mem_append_right _ List.mem_cons_self
    have hserve := Table.serveAll_concat opening (past.map errand) (errand visitor)
    obtain ⟨htable, hresult⟩ : gate.table =
          ((opening.serveAll (past.map errand)).1.serve (errand visitor)).1 ∧
        result = ((opening.serveAll (past.map errand)).1.serve (errand visitor)).2 := by
      rw [hstage] at hinside
      -- `cases` cannot solve for a projection of the gate
      generalize gate.table = table at hinside
      cases hinside
      exact ⟨rfl, rfl⟩
    refine ⟨h.nodup, h.outside_setStage hmem (.gone result), ?_, .free rfl hadmitted ?_⟩
    · show (past ++ [visitor]).map (gate.setStage visitor (.gone result)).stage = _
      rw [List.map_append, map_setStage_of_not_mem gate (h.not_mem_past hadmitted), h.gone,
        List.map_append, List.map_cons, List.map_nil, List.map_cons, List.map_nil, setStage_self,
        hserve, List.map_append, hresult]
      rfl
    · show gate.table = _
      rw [htable, List.map_append, List.map_cons, List.map_nil, hserve]

/-- The store takes a step. -/
theorem InOrder.store (hrest : opening.machine.store.AtRest) (h : InOrder opening errand past gate)
    {move : StoreMove} (hstep : gate.step? errand (.store move) = some next) :
    InOrder opening errand past next := by
  obtain ⟨machine, hmove, heq⟩ := Option.map_eq_some_iff.mp hstep
  cases heq
  have hpast := Table.atRest_serveAll hrest (past.map errand)
  refine ⟨h.nodup, h.outside, h.gone, ?_⟩
  cases h.standing with
  | free holder admitted table =>
    rw [table, Table.storeStep?_of_atRest hpast] at hmove
    cases hmove
  | taken holder admitted inside =>
    exact .taken holder admitted (inside.storeStep? hpast hmove)

/-- Steps keep the order. -/
theorem InOrder.step? (hrest : opening.machine.store.AtRest)
    (h : InOrder opening errand past gate) {label : GateLabel ι}
    (hstep : gate.step? errand label = some next) :
    ∃ past, InOrder opening errand past next := by
  cases label with
  | enter visitor => exact ⟨past, h.enter hstep⟩
  | act visitor => exact ⟨past, h.act hrest hstep⟩
  | leave visitor => exact ⟨past ++ [visitor], h.leave hstep⟩
  | store move => exact ⟨past, h.store hrest hstep⟩

/-- Runs keep the order. -/
theorem InOrder.run? (hrest : opening.machine.store.AtRest) {labels : List (GateLabel ι)}
    (h : InOrder opening errand past gate) (hrun : gate.run? errand labels = some next) :
    ∃ past, InOrder opening errand past next := by
  induction labels generalizing gate past with
  | nil =>
    cases hrun
    exact ⟨past, h⟩
  | cons label labels ih =>
    obtain ⟨middle, hstep, hrest'⟩ := Option.bind_eq_some_iff.mp hrun
    obtain ⟨past', hmiddle⟩ := h.step? hrest hstep
    exact ih hmiddle hrest'

/-! ### Runs -/

/-- When nobody is inside, the visits so far are in order. -/
theorem inOrder_of_run? (hrest : opening.machine.store.AtRest) {labels : List (GateLabel ι)}
    (hrun : (Gate.opened opening).run? errand labels = some gate) (hfree : gate.holder = none) :
    InOrder opening errand gate.admitted gate ∧
      gate.table = (opening.serveAll (gate.admitted.map errand)).1 := by
  obtain ⟨past, hpast⟩ := (inOrder_opened opening errand).run? hrest hrun
  obtain ⟨hadmitted, htable⟩ := hpast.admitted_eq hfree
  rw [hadmitted]
  exact ⟨hpast, htable⟩

/-- **Runs are linearizable.** Let visitors come and go as they please, and let nobody be inside.
Then the table is the one that the errands would have led to, done one after another in the order
in which the visitors passed the gate; every visitor has learnt what it would have learnt then; and
each errand, at its place in that order, has its outcome. -/
theorem linearizable {edges : TurnTable} {config : TableConfig} {state : GameState}
    {table : Table} (hopened : Table.withEdges edges config state = .ok table)
    {labels : List (GateLabel ι)} {gate : Gate ι}
    (hrun : (Gate.opened table).run? errand labels = some gate) (hfree : gate.holder = none) :
    let served := table.serveAll (gate.admitted.map errand)
    gate.table = served.1 ∧
      gate.admitted.map gate.stage = served.2.map .gone ∧
      gate.admitted.Nodup ∧ (∀ visitor, visitor ∉ gate.admitted → gate.stage visitor = .outside) ∧
      table.Course (gate.admitted.map errand) served.1 served.2 := by
  have hopen := Table.isOpen_of_withEdges hopened
  obtain ⟨horder, htable⟩ := inOrder_of_run? hopen.atRest hrun hfree
  exact ⟨htable, horder.gone, horder.nodup, horder.outside, Table.course_serveAll hopen _⟩

/-- Two players about to start, and one card to draw. -/
def duel : Table where
  machine := .opened Rules.turnTable .stumbling
    (.opening .zero
      [.seated ⟨0⟩ "Ada" .manager .kentBeck 3, .seated ⟨1⟩ "Bob" .consultant .konradZuse 3]
      [.bug .systemHangs])
    (fun state event => state.after event 2) (fun _ => false)
  config := {}

/-- The first visitor comes too early, the second one draws, the third one ends the turn after
having been refused what it preferred. -/
def duelErrand : Fin 3 → Errand
  | 0 => .endTurn ⟨0⟩
  | 1 => .apply (.drawCards ⟨0⟩)
  | 2 => .applyOr (.nextTurn ⟨1⟩) (.nextTurn ⟨0⟩)

/-- The steps of a visit. While the store works on the event, the visitor waits. -/
def visitLabels (visitor : ι) (accepted : Bool) : List (GateLabel ι) :=
  [.enter visitor, .act visitor, .act visitor] ++
    (if accepted then
      [.act visitor, .act visitor] ++ List.replicate 5 (.store .loop) ++
        [.act visitor, .act visitor]
    else []) ++
    [.act visitor, .leave visitor]

theorem linearizable_duel :
    ∃ gate : Gate (Fin 3),
      (Gate.opened duel).run? duelErrand
        (visitLabels 0 false ++ visitLabels 1 true ++ visitLabels 2 true) = some gate ∧
      gate.admitted = [0, 1, 2] ∧
      gate.table = (duel.serveAll [.endTurn ⟨0⟩, .apply (.drawCards ⟨0⟩),
        .applyOr (.nextTurn ⟨1⟩) (.nextTurn ⟨0⟩)]).1 := by
  have hrun : ((Gate.opened duel).run? duelErrand
      (visitLabels 0 false ++ visitLabels 1 true ++ visitLabels 2 true)).map
        (fun gate => (gate.holder, gate.admitted)) = some (none, [0, 1, 2]) := by
    rfl
  obtain ⟨gate, hgate, heq⟩ := Option.map_eq_some_iff.mp hrun
  obtain ⟨hfree, hadmitted⟩ := Prod.mk.inj heq
  have hopened : Table.withEdges Rules.turnTable {} duel.state = .ok duel := rfl
  have htable := (linearizable hopened hgate hfree).1
  rw [hadmitted] at htable
  exact ⟨gate, hgate, hadmitted, htable⟩

end Gate

end RoundTable
