import RoundTable.Proofs.Table.Accepted

/-!
# Tables in a known phase and state

What comes of an event depends on the phase and the state of a table alone, as long as it keeps to
the rules of a turn and nobody is at it. So much is known of a table after any errands.

## Main definitions

* `Table.LiesAt`: a table of which phase and state are known

## Main results

* `Table.liesAt_serveAll`: after any errands it is known where a table lies
* `Table.LiesAt.apply`, `Table.LiesAt.applyOr`: what comes of events that are allowed
* `Table.LiesAt.accepts`, `Table.LiesAt.records`: what comes of errands
-/

namespace RoundTable

namespace Table

/-- A table with the rules of a turn, between two errands, in a phase and a state. -/
structure LiesAt (drawCount : Nat) (phase : Turn) (state : GameState) (table : Table) : Prop where
  isOpen : table.IsOpen
  edges : table.machine.table = Rules.turnTable
  drawCount : table.config.drawCount = drawCount
  phase : table.phase = phase
  state : table.state = state

variable {drawCount : Nat} {phase target : Turn} {state : GameState} {table : Table}
  {event : GameEvent}

/-- After any errands it is known where a table lies. -/
theorem liesAt_serveAll {config : TableConfig} (hopened : opened config state = .ok table)
    (errands : List Errand) :
    (table.serveAll errands).1.LiesAt config.drawCount (table.serveAll errands).1.phase
      (table.serveAll errands).1.state := by
  have hopen := isOpen_of_withEdges hopened
  have htable := eq_of_withEdges hopened
  refine ⟨isOpen_serveAll hopen errands, ?_, ?_, rfl, rfl⟩
  · rw [edges_serveAll hopen, htable]
    rfl
  · rw [config_serveAll hopen, htable]

theorem LiesAt.validate (h : table.LiesAt drawCount phase state)
    (hallows : Rules.Allows state phase event target) : table.validate event = .ok target := by
  obtain ⟨-, hedges, -, rfl, rfl⟩ := h
  exact (Rules.validate_eq_ok_iff hedges).mpr hallows

theorem LiesAt.send (h : table.LiesAt drawCount phase state)
    (hallows : Rules.Allows state phase event target) :
    (table.machine.send event).2 = .ok () ∧
      LiesAt drawCount target (state.after event drawCount)
        { table with machine := (table.machine.send event).1 } := by
  have hvalid := h.validate hallows
  obtain ⟨hresult, htakes⟩ := h.isOpen.takes hvalid
  refine ⟨hresult, h.isOpen.send event, htakes.table.trans h.edges, h.drawCount, ?_, ?_⟩
  · exact (Except.ok.inj (htakes.valid.symm.trans hvalid))
  · rw [htakes.state, h.state, h.drawCount]

theorem LiesAt.apply (h : table.LiesAt drawCount phase state)
    (hallows : Rules.Allows state phase event target) :
    (table.apply event).2 = .ok (state, state.after event drawCount) ∧
      (table.apply event).1.LiesAt drawCount target (state.after event drawCount) := by
  obtain ⟨hresult, hnext⟩ := h.send hallows
  refine ⟨?_, hnext⟩
  have happly : (table.apply event).2 = (table.machine.send event).2.map fun _ =>
      (table.state, Table.state { table with machine := (table.machine.send event).1 }) := rfl
  rw [happly, hresult, hnext.state, h.state]
  rfl

theorem LiesAt.applyOr (h : table.LiesAt drawCount phase state)
    (hallows : Rules.Allows state phase event target) (fallback : GameEvent) :
    (table.applyOr event fallback).2 = .ok true ∧
      (table.applyOr event fallback).1.LiesAt drawCount target
        (state.after event drawCount) := by
  obtain ⟨hresult, hnext⟩ := h.send hallows
  have hfits : (table.validate event).isOk = true := by rw [h.validate hallows]; rfl
  rw [Table.applyOr]
  simp only [hfits, if_true, hresult]
  exact ⟨rfl, hnext⟩

/-! ### Refusals -/

/-- What is not allowed is refused. -/
theorem LiesAt.exists_refusal (h : table.LiesAt drawCount phase state)
    (hbarred : ∀ target, ¬Rules.Allows state phase event target) :
    ∃ refusal, table.validate event = .error refusal := by
  obtain ⟨-, hedges, -, rfl, rfl⟩ := h
  cases hvalid : table.validate event with
  | ok target => exact absurd ((Rules.validate_eq_ok_iff hedges).mp hvalid) (hbarred target)
  | error refusal => exact ⟨refusal, rfl⟩

theorem LiesAt.apply_refused (h : table.LiesAt drawCount phase state)
    (hbarred : ∀ target, ¬Rules.Allows state phase event target) :
    ∃ refusal, (table.apply event).2 = .error refusal ∧
      table.Refuses event refusal (table.apply event).1 ∧
      (table.apply event).1.LiesAt drawCount phase state := by
  obtain ⟨refusal, hinvalid⟩ := h.exists_refusal hbarred
  obtain ⟨hresult, hrefuses⟩ := refuses hinvalid
  refine ⟨refusal, ?_, hrefuses, h.isOpen.send event, hrefuses.table.trans h.edges, h.drawCount,
    hrefuses.phase.trans h.phase, hrefuses.state.trans h.state⟩
  have happly : (table.apply event).2 = (table.machine.send event).2.map fun _ =>
      (table.state, Table.state { table with machine := (table.machine.send event).1 }) := rfl
  rw [happly, hresult]
  rfl

/-- Where the first one of two events is not allowed, it is as if the second one had been sent. -/
theorem LiesAt.applyOr_eq (h : table.LiesAt drawCount phase state) {preferred : GameEvent}
    (hpreferred : ∀ target, ¬Rules.Allows state phase preferred target) (fallback : GameEvent) :
    table.applyOr preferred fallback =
      ((table.apply fallback).1, (table.machine.send fallback).2.map fun _ => false) := by
  obtain ⟨first, hfirst⟩ := h.exists_refusal hpreferred
  rw [Table.applyOr, hfirst]
  rfl

theorem LiesAt.applyOr_fallback (h : table.LiesAt drawCount phase state) {preferred : GameEvent}
    (hpreferred : ∀ target, ¬Rules.Allows state phase preferred target)
    (hallows : Rules.Allows state phase event target) :
    (table.applyOr preferred event).2 = .ok false ∧
      (table.applyOr preferred event).1 = (table.apply event).1 := by
  rw [h.applyOr_eq hpreferred, (h.send hallows).1]
  exact ⟨rfl, rfl⟩

/-- Where neither of two events is allowed, it is the second one that is refused. -/
theorem LiesAt.applyOr_refused (h : table.LiesAt drawCount phase state) {preferred : GameEvent}
    (hpreferred : ∀ target, ¬Rules.Allows state phase preferred target)
    (hbarred : ∀ target, ¬Rules.Allows state phase event target) :
    ∃ refusal, (table.applyOr preferred event).2 = .error refusal ∧
      table.Refuses event refusal (table.applyOr preferred event).1 ∧
      (table.applyOr preferred event).1.LiesAt drawCount phase state := by
  obtain ⟨refusal, -, hrefuses, hafter⟩ := h.apply_refused hbarred
  rw [h.applyOr_eq hpreferred, (refuses hrefuses.invalid).1]
  exact ⟨refusal, rfl, hrefuses, hafter⟩

/-! ### Errands -/

/-- What an errand has had accepted was allowed, and it is done. -/
theorem LiesAt.accepts (h : table.LiesAt drawCount phase state) {errand : Errand}
    (haccepted : errand.accepted? (table.serve errand).2 = some event) :
    Rules.Allows state phase event (table.serve errand).1.phase ∧
      (table.serve errand).1.state = state.after event drawCount := by
  obtain ⟨hopen, hedges, rfl, rfl, rfl⟩ := h
  obtain ⟨taken, htaken, htakes⟩ | ⟨hnone, -⟩ := accepted?_serve hopen errand
  · cases htaken.symm.trans haccepted
    exact ⟨htakes.allows hedges, htakes.state⟩
  · cases hnone.symm.trans haccepted

/-- An event that is allowed is accepted. -/
theorem LiesAt.serve_apply (h : table.LiesAt drawCount phase state)
    (hallows : Rules.Allows state phase event target) :
    (Errand.apply event).accepted? (table.serve (.apply event)).2 = some event ∧
      (table.serve (.apply event)).1.LiesAt drawCount target (state.after event drawCount) := by
  obtain ⟨hresult, hnext⟩ := h.apply hallows
  have hserve : table.serve (.apply event) = ((table.apply event).1,
      (table.apply event).2.map fun states => .states states.1 states.2) := rfl
  rw [hserve, hresult]
  exact ⟨rfl, hnext⟩

/-- An errand that has had nothing accepted has left everything as it was. -/
theorem LiesAt.refuses (h : table.LiesAt drawCount phase state) {errand : Errand}
    (hrefused : errand.accepted? (table.serve errand).2 = none) :
    (table.serve errand).1.phase = phase ∧ (table.serve errand).1.state = state := by
  obtain ⟨hopen, -, -, rfl, rfl⟩ := h
  obtain ⟨taken, htaken, -⟩ | ⟨-, _, _, hrefuses⟩ := accepted?_serve hopen errand
  · cases htaken.symm.trans hrefused
  · exact ⟨hrefuses.phase, hrefuses.state⟩

/-- Records may be kept from here on. -/
theorem LiesAt.records (h : table.LiesAt drawCount phase state)
    {P : List GameEvent → Turn → GameState → Prop} (hrecords : Rules.Records drawCount P)
    (hstart : P [] phase state) (errands : List Errand) :
    (table.serveAll errands).1.Ruled drawCount (P (table.accepted errands)) := by
  obtain ⟨hopen, hedges, hdrawCount, rfl, rfl⟩ := h
  have hruled : table.Ruled drawCount (P []) := ⟨hedges, hdrawCount, hstart⟩
  have hafter := hruled.records hrecords hopen errands
  rwa [List.nil_append] at hafter

theorem LiesAt.serveAll (h : table.LiesAt drawCount phase state) (errands : List Errand) :
    (table.serveAll errands).1.LiesAt drawCount (table.serveAll errands).1.phase
      (table.serveAll errands).1.state := by
  have hruled := h.records (P := fun _ _ _ => True) (fun _ _ _ _ _ _ _ => trivial) trivial errands
  exact ⟨isOpen_serveAll h.isOpen errands, hruled.edges, hruled.drawCount, rfl, rfl⟩

end Table

end RoundTable
