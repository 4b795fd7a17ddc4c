import RoundTable.Proofs.Automaton.Sends
import RoundTable.Visit

/-!
# Errands done one after another

A table that nobody disturbs takes an event exactly if its machine validates it, and then state,
phase and history show that one event and nothing else; an event that it refuses leaves no trace.
An errand comes down to one such event.

## Main definitions

* `Table.IsOpen`: tables between two errands
* `Table.Takes`, `Table.Refuses`: what an event does to a table
* `Errand.events`: the events of which an errand sends one
* `Errand.Outcome`: what an errand does, told by the machine's verdict on its events
* `Table.Course`: errands one after another, each with its outcome

## Main results

* `Table.isOpen_of_withEdges`: a table starts open
* `Table.isOpen_serve`, `Table.outcome_serve`: it stays open, and every errand has its outcome
* `Table.isOpen_serveAll`, `Table.course_serveAll`: so it is with errands one after another
* `Table.Course.keeps`: what every event keeps, errands keep
* `Table.IsOpen.unchanged`: what no event changes, errands leave as it is
-/

namespace RoundTable

namespace Table

/-! ### Open tables -/

/-- A table between two errands: its store is at rest, folds by the rules of the game, and will
never lose an event. -/
structure IsOpen (table : Table) : Prop where
  atRest : table.machine.store.AtRest
  isClosed : table.machine.store.isClosed = false
  reduce : table.machine.store.reduce = fun state event =>
    state.after event table.config.drawCount
  breaks : table.machine.store.breaks = fun _ => false

/-- What `withEdges` makes of a configuration and a state that it accepts. -/
theorem eq_of_withEdges {edges : TurnTable} {config : TableConfig} {state : GameState}
    {table : Table} (h : withEdges edges config state = .ok table) :
    table =
      { machine := .opened edges state.turn state
          (fun state event => state.after event config.drawCount) (fun _ => false)
        config } := by
  rw [withEdges, TableConfig.validate] at h
  split at h
  · cases h
  · cases h
    rfl

theorem state_of_withEdges {edges : TurnTable} {config : TableConfig} {state : GameState}
    {table : Table} (h : withEdges edges config state = .ok table) : table.state = state := by
  rw [eq_of_withEdges h]
  rfl

theorem isOpen_of_withEdges {edges : TurnTable} {config : TableConfig} {state : GameState}
    {table : Table} (h : withEdges edges config state = .ok table) : table.IsOpen := by
  rw [eq_of_withEdges h]
  exact ⟨Store.atRest_opened _ _ _, rfl, rfl, rfl⟩

/-! ### Events -/

/-- The table takes an event: its machine validates it, and state, phase and history show it. -/
structure Takes (before : Table) (event : GameEvent) (after : Table) : Prop where
  valid : before.validate event = .ok after.phase
  state : after.state = before.state.after event before.config.drawCount
  history : after.machine.history = before.machine.history.push
    ⟨before.phase, after.phase, event.kind, before.machine.clock⟩
  table : after.machine.table = before.machine.table
  config : after.config = before.config

/-- The table refuses an event: its machine says why, and nothing else happens. -/
structure Refuses (before : Table) (event : GameEvent) (refusal : Refusal) (after : Table) :
    Prop where
  invalid : before.validate event = .error refusal
  phase : after.phase = before.phase
  state : after.state = before.state
  history : after.machine.history = before.machine.history
  table : after.machine.table = before.machine.table
  config : after.config = before.config

variable {table : Table} {event : GameEvent}

theorem IsOpen.loses (h : table.IsOpen) (event : GameEvent) :
    table.machine.store.loses event = false := by
  rw [Store.loses, h.isClosed, h.breaks]
  rfl

/-- An open table takes what its machine validates. -/
theorem IsOpen.takes (h : table.IsOpen) {target : Turn} (hvalid : table.validate event = .ok target) :
    (table.machine.send event).2 = .ok () ∧
      table.Takes event { table with machine := (table.machine.send event).1 } := by
  obtain ⟨hresult, hpassed, hsame, -⟩ := Machine.send_of_keeps h.atRest hvalid (h.loses event)
  have hphase : (table.machine.send event).1.phase.value = target := hpassed.phase
  refine ⟨hresult, ?_, ?_, ?_, hsame.table, rfl⟩
  · exact hvalid.trans (congrArg _ hphase.symm)
  · exact hpassed.payload.trans (congrFun (congrFun h.reduce _) _)
  · refine hpassed.history.trans ?_
    rw [phase, phase, hphase]
    rfl

/-- It refuses everything else. -/
theorem refuses {refusal : Refusal} (hinvalid : table.validate event = .error refusal) :
    (table.machine.send event).2 = .error refusal ∧
      table.Refuses event refusal { table with machine := (table.machine.send event).1 } := by
  rw [Machine.send_of_validate_error hinvalid]
  exact ⟨rfl, hinvalid, rfl, rfl, rfl, rfl, rfl⟩

/-- It is open after every event. -/
theorem IsOpen.send (h : table.IsOpen) (event : GameEvent) :
    IsOpen { table with machine := (table.machine.send event).1 } := by
  have hsame := Machine.sameModel_send h.atRest event
  refine ⟨Machine.atRest_send h.atRest event, ?_, hsame.reduce.trans h.reduce,
    hsame.breaks.trans h.breaks⟩
  cases hvalid : table.machine.validate event with
  | error refusal =>
    rw [Machine.send_of_validate_error hvalid]
    exact h.isClosed
  | ok target => exact (Machine.send_of_keeps h.atRest hvalid (h.loses event)).2.2.2.2

/-! ### Errands -/

/-- An errand is a look, a send, and another look. -/
theorem serve_eq (table : Table) (errand : Errand) :
    table.serve errand =
      let (glimpse, event) := errand.look table
      let after := { table with machine := (table.machine.send event).1 }
      (after, (table.machine.send event).2.map fun _ => glimpse.finding after) := by
  cases errand with
  | apply event =>
    simp only [serve, apply, Errand.look]
    cases (table.machine.send event).2 <;> rfl
  | applyOr preferred fallback =>
    simp only [serve, applyOr, Errand.look]
    cases (table.machine.send _).2 <;> rfl
  | endTurn origin =>
    simp only [serve, endTurn, apply, Errand.look]
    cases (table.machine.send _).2 <;> rfl

end Table

/-- The events of which an errand sends one. -/
def Errand.events : Errand → List GameEvent
  | apply event => [event]
  | applyOr preferred fallback => [preferred, fallback]
  | endTurn origin => [.nextTurn origin]

/-- What an errand does: it sends one event and no other. A preferred event that the machine
validates is sent and taken; the other one has its turn only if the machine does not. -/
inductive Errand.Outcome (before after : Table) : Errand → Except Refusal Finding → Prop where
  | applied {event : GameEvent} (takes : before.Takes event after) :
    Outcome before after (.apply event) (.ok (.states before.state after.state))
  | notApplied {event : GameEvent} {refusal : Refusal}
    (refuses : before.Refuses event refusal after) :
    Outcome before after (.apply event) (.error refusal)
  | preferred {preferred fallback : GameEvent} (takes : before.Takes preferred after) :
    Outcome before after (.applyOr preferred fallback) (.ok (.choice true))
  | fallback {preferred fallback : GameEvent} {refusal : Refusal}
    (invalid : before.validate preferred = .error refusal)
    (takes : before.Takes fallback after) :
    Outcome before after (.applyOr preferred fallback) (.ok (.choice false))
  | neither {preferred fallback : GameEvent} {first refusal : Refusal}
    (invalid : before.validate preferred = .error first)
    (refuses : before.Refuses fallback refusal after) :
    Outcome before after (.applyOr preferred fallback) (.error refusal)
  | turnEnded {origin : PlayerId} (takes : before.Takes (.nextTurn origin) after) :
    Outcome before after (.endTurn origin) (.ok (.turn after.state))
  | turnKept {origin : PlayerId} {refusal : Refusal}
    (refuses : before.Refuses (.nextTurn origin) refusal after) :
    Outcome before after (.endTurn origin) (.error refusal)

/-- An errand has one of its events taken, or does nothing. -/
theorem Errand.Outcome.event {before after : Table} {errand : Errand}
    {result : Except Refusal Finding} (h : errand.Outcome before after result) :
    (∃ event ∈ errand.events, before.Takes event after) ∨
      ∃ event refusal, before.Refuses event refusal after := by
  cases h with
  | applied takes | turnEnded takes => exact .inl ⟨_, List.mem_singleton.mpr rfl, takes⟩
  | preferred takes => exact .inl ⟨_, List.mem_cons_self, takes⟩
  | fallback _ takes => exact .inl ⟨_, List.mem_cons_of_mem _ (List.mem_singleton.mpr rfl), takes⟩
  | notApplied refuses | neither _ refuses | turnKept refuses => exact .inr ⟨_, _, refuses⟩

namespace Table

/-- Errands one after another, each with its outcome. -/
inductive Course : Table → List Errand → Table → List (Except Refusal Finding) → Prop where
  | nil (table : Table) : Course table [] table []
  | cons {before middle after : Table} {errand : Errand} {errands : List Errand}
    {result : Except Refusal Finding} {results : List (Except Refusal Finding)}
    (outcome : errand.Outcome before middle result) (rest : Course middle errands after results) :
    Course before (errand :: errands) after (result :: results)

variable {table : Table}

theorem isOpen_serve (h : table.IsOpen) (errand : Errand) : (table.serve errand).1.IsOpen := by
  rw [serve_eq]
  exact h.send _

/-- **Every errand has its outcome.** -/
theorem outcome_serve (h : table.IsOpen) (errand : Errand) :
    errand.Outcome table (table.serve errand).1 (table.serve errand).2 := by
  rw [serve_eq]
  cases errand with
  | apply event =>
    simp only [Errand.look]
    cases hvalid : table.validate event with
    | ok target =>
      obtain ⟨hresult, htakes⟩ := h.takes hvalid
      rw [hresult]
      exact .applied htakes
    | error refusal =>
      obtain ⟨hresult, hrefuses⟩ := refuses hvalid
      rw [hresult]
      exact .notApplied hrefuses
  | applyOr preferred fallback =>
    simp only [Errand.look]
    cases hfits : table.validate preferred with
    | ok target =>
      obtain ⟨hresult, htakes⟩ := h.takes hfits
      simp only [Except.isOk, Except.toBool, if_true]
      rw [hresult]
      exact .preferred htakes
    | error first =>
      simp only [Except.isOk, Except.toBool, Bool.false_eq_true, if_false]
      cases hvalid : table.validate fallback with
      | ok target =>
        obtain ⟨hresult, htakes⟩ := h.takes hvalid
        rw [hresult]
        exact .fallback hfits htakes
      | error refusal =>
        obtain ⟨hresult, hrefuses⟩ := refuses hvalid
        rw [hresult]
        exact .neither hfits hrefuses
  | endTurn origin =>
    simp only [Errand.look]
    cases hvalid : table.validate (.nextTurn origin) with
    | ok target =>
      obtain ⟨hresult, htakes⟩ := h.takes hvalid
      rw [hresult]
      exact .turnEnded htakes
    | error refusal =>
      obtain ⟨hresult, hrefuses⟩ := refuses hvalid
      rw [hresult]
      exact .turnKept hrefuses

/-! ### Errands one after another -/

theorem isOpen_serveAll (h : table.IsOpen) (errands : List Errand) :
    (table.serveAll errands).1.IsOpen := by
  induction errands generalizing table with
  | nil => exact h
  | cons errand errands ih => exact ih (isOpen_serve h errand)

theorem course_serveAll (h : table.IsOpen) (errands : List Errand) :
    Course table errands (table.serveAll errands).1 (table.serveAll errands).2 := by
  induction errands generalizing table with
  | nil => exact .nil table
  | cons errand errands ih => exact .cons (outcome_serve h errand) (ih (isOpen_serve h errand))

/-- **Invariants of a table.** What every event keeps, taken or refused, any number of errands
keeps. -/
theorem Course.keeps {before after : Table} {errands : List Errand}
    {results : List (Except Refusal Finding)} {P : Table → Prop}
    (h : Course before errands after results)
    (takes : ∀ {before after : Table} {event : GameEvent},
      before.Takes event after → P before → P after)
    (refuses : ∀ {before after : Table} {event : GameEvent} {refusal : Refusal},
      before.Refuses event refusal after → P before → P after)
    (hbefore : P before) : P after := by
  induction h with
  | nil => exact hbefore
  | cons outcome _ ih =>
    obtain ⟨event, -, htakes⟩ | ⟨event, refusal, hrefuses⟩ := outcome.event
    · exact ih (takes htakes hbefore)
    · exact ih (refuses hrefuses hbefore)

/-- What no event changes, taken or refused, errands do not change. -/
theorem IsOpen.unchanged {α : Type} (h : table.IsOpen) (read : Table → α)
    (takes : ∀ {before after : Table} {event : GameEvent},
      before.Takes event after → read after = read before)
    (refuses : ∀ {before after : Table} {event : GameEvent} {refusal : Refusal},
      before.Refuses event refusal after → read after = read before)
    (errands : List Errand) : read (table.serveAll errands).1 = read table :=
  (course_serveAll h errands).keeps (P := fun after => read after = read table)
    (fun htakes hbefore => (takes htakes).trans hbefore)
    (fun hrefuses hbefore => (refuses hrefuses).trans hbefore) rfl

theorem config_serveAll (h : table.IsOpen) (errands : List Errand) :
    (table.serveAll errands).1.config = table.config :=
  h.unchanged Table.config Takes.config Refuses.config errands

theorem edges_serveAll (h : table.IsOpen) (errands : List Errand) :
    (table.serveAll errands).1.machine.table = table.machine.table :=
  h.unchanged (fun after => after.machine.table) Takes.table Refuses.table errands

/-- Errands, and then more of them. -/
theorem fst_serveAll_append (table : Table) (errands more : List Errand) :
    (table.serveAll (errands ++ more)).1 = ((table.serveAll errands).1.serveAll more).1 := by
  induction errands generalizing table with
  | nil => rfl
  | cons first errands ih => exact ih _

/-- One errand more, after others. -/
theorem serveAll_concat (table : Table) (errands : List Errand) (errand : Errand) :
    table.serveAll (errands ++ [errand]) =
      (((table.serveAll errands).1.serve errand).1,
        (table.serveAll errands).2 ++ [((table.serveAll errands).1.serve errand).2]) := by
  induction errands generalizing table with
  | nil => rfl
  | cons first errands ih => simp only [List.cons_append, serveAll, ih]

end Table

end RoundTable
