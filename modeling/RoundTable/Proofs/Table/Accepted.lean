import RoundTable.Proofs.Table.Ruled

/-!
# Accepted events

Of the errands that are done at a table, some have an event accepted and leave it behind, and the
others leave nothing. What is true of a table may depend on all the events that it has accepted so
far; such properties are proved by going through the lines of the rules once, too.

## Main definitions

* `Errand.accepted?`: the event that an errand has had accepted
* `Table.accepted`, `Gate.accepted`: the events that errands, or visitors, have had accepted
* `Rules.Records`: what allowed events keep, when a record of them is kept

## Main results

* `Table.state_serveAll`: the state is the fold of the accepted events
* `Table.records_serveAll`: what allowed events keep, errands keep
* `Gate.accepted_of_run?`: at the gate, events are accepted as if errands came one after another
-/

namespace RoundTable

/-! ### Records -/

/-- The event that an errand has had accepted, if its result is the given one. -/
def Errand.accepted? : Errand → Except Refusal Finding → Option GameEvent
  | apply event, .ok _ => some event
  | applyOr preferred fallback, .ok (.choice fits) => some (if fits then preferred else fallback)
  | endTurn origin, .ok _ => some (.nextTurn origin)
  | _, _ => none

/-- The events that are accepted when errands are done one after another. -/
def Table.accepted (table : Table) : List Errand → List GameEvent
  | [] => []
  | errand :: errands =>
    let (after, result) := table.serve errand
    (errand.accepted? result).toList ++ after.accepted errands

/-- The events that have been accepted of the visitors who have left, in the order in which these
were admitted. -/
def Gate.accepted {ι : Type} (errand : ι → Errand) (gate : Gate ι) : List GameEvent :=
  gate.admitted.filterMap fun visitor =>
    match gate.stage visitor with
    | .gone result => (errand visitor).accepted? result
    | _ => none

/-- Allowed events keep what holds of the events before, the phase and the state. -/
def Rules.Records (drawCount : Nat) (P : List GameEvent → Turn → GameState → Prop) : Prop :=
  ∀ ⦃events : List GameEvent⦄ ⦃state : GameState⦄ ⦃phase target : Turn⦄ ⦃event : GameEvent⦄,
    Rules.Allows state phase event target → P events phase state →
      P (events ++ [event]) target (state.after event drawCount)

/-! ### Errands -/

namespace Table

theorem accepted_cons (table : Table) (errand : Errand) (errands : List Errand) :
    table.accepted (errand :: errands) =
      (errand.accepted? (table.serve errand).2).toList ++
        (table.serve errand).1.accepted errands :=
  rfl

/-- An errand has the event accepted that the table takes, or none. -/
theorem accepted?_serve {table : Table} (h : table.IsOpen) (errand : Errand) :
    (∃ event, errand.accepted? (table.serve errand).2 = some event ∧
        table.Takes event (table.serve errand).1) ∨
      errand.accepted? (table.serve errand).2 = none ∧
        ∃ event refusal, table.Refuses event refusal (table.serve errand).1 := by
  generalize hresult : (table.serve errand).2 = result
  have houtcome := outcome_serve h errand
  rw [hresult] at houtcome
  cases houtcome with
  | applied takes | preferred takes | fallback _ takes | turnEnded takes =>
    exact .inl ⟨_, rfl, takes⟩
  | notApplied refuses | neither _ refuses | turnKept refuses =>
    exact .inr ⟨rfl, _, _, refuses⟩

/-- The state is what the accepted events make of the first one. -/
theorem state_serveAll {table : Table} (h : table.IsOpen) (errands : List Errand) :
    (table.serveAll errands).1.state = (table.accepted errands).foldl
      (fun state event => state.after event table.config.drawCount) table.state := by
  induction errands generalizing table with
  | nil => rfl
  | cons errand errands ih =>
    refine (ih (isOpen_serve h errand)).trans ?_
    rw [accepted_cons, List.foldl_append]
    obtain ⟨event, haccepted, htakes⟩ | ⟨haccepted, event, refusal, hrefuses⟩ :=
      accepted?_serve h errand
    · rw [haccepted, htakes.state, htakes.config]
      rfl
    · rw [haccepted, hrefuses.state, hrefuses.config]
      rfl

variable {drawCount : Nat} {P : List GameEvent → Turn → GameState → Prop}

theorem Ruled.records {table : Table} {events : List GameEvent}
    (hrecords : Rules.Records drawCount P) (hopen : table.IsOpen)
    (h : table.Ruled drawCount (P events)) (errands : List Errand) :
    (table.serveAll errands).1.Ruled drawCount (P (events ++ table.accepted errands)) := by
  induction errands generalizing table events with
  | nil =>
    rw [accepted, List.append_nil]
    exact h
  | cons errand errands ih =>
    have hnext := isOpen_serve hopen errand
    rw [accepted, ← List.append_assoc]
    refine ih hnext ?_
    obtain ⟨event, haccepted, htakes⟩ | ⟨haccepted, event, refusal, hrefuses⟩ :=
      accepted?_serve hopen errand
    · rw [haccepted]
      refine ⟨htakes.table.trans h.edges, (congrArg _ htakes.config).trans h.drawCount, ?_⟩
      rw [htakes.state, h.drawCount]
      exact hrecords (htakes.allows h.edges) h.holds
    · rw [haccepted, Option.toList_none, List.append_nil]
      exact hrefuses.ruled h

variable {config : TableConfig} {state : GameState} {table : Table}

/-- **Invariants with a record.** -/
theorem records_serveAll (hopened : opened config state = .ok table)
    (hrecords : Rules.Records config.drawCount P) (hstart : P [] state.turn state)
    (errands : List Errand) :
    (table.serveAll errands).1.Ruled config.drawCount (P (table.accepted errands)) := by
  have h := (ruled_of_opened (P := P []) hopened hstart).records hrecords
    (isOpen_of_withEdges hopened) errands
  rwa [List.nil_append] at h

end Table

/-! ### Visitors -/

namespace Gate

variable {ι : Type} {errand : ι → Errand}

theorem filterMap_accepted? {stage : ι → VisitStage} {visitors : List ι} {opening : Table}
    (h : visitors.map stage = (opening.serveAll (visitors.map errand)).2.map .gone) :
    (visitors.filterMap fun visitor =>
      match stage visitor with
      | .gone result => (errand visitor).accepted? result
      | _ => none) = opening.accepted (visitors.map errand) := by
  induction visitors generalizing opening with
  | nil => rfl
  | cons visitor visitors ih =>
    simp only [List.map_cons, Table.serveAll, List.cons.injEq] at h
    obtain ⟨hfirst, hrest⟩ := h
    simp only [List.map_cons, Table.accepted, List.filterMap_cons, hfirst, ih hrest]
    cases (errand visitor).accepted? (opening.serve (errand visitor)).2 <;> rfl

variable [DecidableEq ι]

/-- Whenever nobody is inside, table and accepted events are those of the errands one after
another. -/
theorem accepted_of_run? {opening : Table} (hrest : opening.machine.store.AtRest)
    {labels : List (GateLabel ι)} {gate : Gate ι}
    (hrun : (Gate.opened opening).run? errand labels = some gate) (hfree : gate.holder = none) :
    gate.table = (opening.serveAll (gate.admitted.map errand)).1 ∧
      gate.accepted errand = opening.accepted (gate.admitted.map errand) := by
  obtain ⟨horder, htable⟩ := inOrder_of_run? hrest hrun hfree
  exact ⟨htable, filterMap_accepted? horder.gone⟩

end Gate

end RoundTable
