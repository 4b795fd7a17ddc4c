import RoundTable.Proofs.Table.Standoff
import RoundTable.Proofs.Table.LiesAt
import RoundTable.Proofs.Walk.StepTrees
import RoundTable.Walk.AtTable

/-!
# The office of the server

The server's side of a session, cut down to what its steps need: a table, and a list of those who
have been asked something. What becomes of a step can be computed here, event by event and question
by question. An event that the rules allow is taken, and one that they do not allow leaves no trace.

## Main definitions

* `Table.Intact`: tables at which nothing has happened
* `Office`, `Office.access`: a table, and a list of those who have been asked something
* `Office.replies`, `Office.undisturbed`: what can be done there while nobody else acts
* `Office.Business`: the events taken and the questions asked between two moments

## Main results

* `Office.run_observe`, `Office.run_ask`: what comes of looks and questions
* `Office.run_send`, `Office.run_sendOr`, `Office.run_sendOr_fallback`: what comes of allowed events
* `Office.run_send_refused`, `Office.run_sendOr_refused`: what comes of all others
-/

namespace RoundTable

/-- Nothing has happened at a table: its phase, its state and its history are what they were. -/
structure Table.Intact (before after : Table) : Prop where
  phase : after.phase = before.phase
  state : after.state = before.state
  history : after.machine.history = before.machine.history

theorem Table.Intact.refl (table : Table) : table.Intact table := ⟨rfl, rfl, rfl⟩

theorem Table.Intact.trans {before middle after : Table} (first : before.Intact middle)
    (second : middle.Intact after) : before.Intact after :=
  ⟨second.phase.trans first.phase, second.state.trans first.state,
    second.history.trans first.history⟩

theorem Table.Refuses.intact {before after : Table} {event : GameEvent} {refusal : Refusal}
    (h : before.Refuses event refusal after) : before.Intact after :=
  ⟨h.phase, h.state, h.history⟩

/-- The server's office: a table, and whoever has been asked something, in order. -/
structure Office where
  /-- The table. -/
  table : Table
  /-- Who has been asked what. -/
  asked : List (PlayerId × Request)

namespace Office

/-- What can be done in the office. Whoever is asked may do anything there before answering. -/
def access (others : PlayerId → Resolver (StateM Office)) : Access (StateM Office) where
  observe := return (← get).table.state
  apply event := modifyGet fun office =>
    ((office.table.apply event).2, { office with table := (office.table.apply event).1 })
  applyOr preferred fallback := modifyGet fun office =>
    ((office.table.applyOr preferred fallback).2,
      { office with table := (office.table.applyOr preferred fallback).1 })
  ask id request := do
    modify fun office => { office with asked := office.asked ++ [(id, request)] }
    others id request

variable {drawCount : Nat} {phase middle target : Turn} {state : GameState}
  {event preferred fallback : GameEvent} {before between after office : Office}
  {others : PlayerId → Resolver (StateM Office)}

/-- Whoever is asked something answers one way or another, and does nothing else. -/
def replies (answers : (id : PlayerId) → (request : Request) → Except Failure request.Answer) :
    PlayerId → Resolver (StateM Office) :=
  fun id request => ExceptT.mk (pure (answers id request))

/-- What can be done in the office while nobody else acts. -/
def undisturbed (answers : (id : PlayerId) → (request : Request) → Except Failure request.Answer) :
    Access (StateM Office) :=
  access (replies answers)

/-! ### Business -/

/-- What has been done between two moments: the table has taken the events, one after another, and
has come to a phase; and the questions have been asked. -/
structure Business (drawCount : Nat) (before : Office) (events : List GameEvent)
    (questions : List (PlayerId × Request)) (target : Turn) (after : Office) : Prop where
  asked : after.asked = before.asked ++ questions
  lies : after.table.LiesAt drawCount target
    (events.foldl (fun state event => state.after event drawCount) before.table.state)
  history : after.table.machine.history.length =
    before.table.machine.history.length + events.length

/-- It is known where the table lies then. -/
theorem Business.there {events : List GameEvent} {questions : List (PlayerId × Request)}
    (h : before.Business drawCount events questions target after)
    (hlies : before.table.LiesAt drawCount phase state) :
    after.table.LiesAt drawCount target
      (events.foldl (fun state event => state.after event drawCount) state) := by
  rw [← hlies.state]
  exact h.lies

/-- More is done after that. -/
theorem Business.trans {events later : List GameEvent}
    {questions further : List (PlayerId × Request)}
    (first : before.Business drawCount events questions middle between)
    (second : between.Business drawCount later further target after) :
    before.Business drawCount (events ++ later) (questions ++ further) target after where
  asked := by rw [second.asked, first.asked, List.append_assoc]
  lies := by
    rw [List.foldl_append, ← first.lies.state]
    exact second.lies
  history := by
    rw [second.history, first.history, List.length_append]
    omega

/-- What has been done is read off where an attempt has ended. -/
theorem Business.reads {α : Type} {events : List GameEvent} {questions : List (PlayerId × Request)}
    (h : before.Business drawCount events questions target after) {attempt : α × Office} {result : α}
    (hrun : attempt = (result, after)) :
    attempt.1 = result ∧ attempt.2.asked = before.asked ++ questions ∧
      attempt.2.table.phase = target ∧ attempt.2.table.state =
        events.foldl (fun state event => state.after event drawCount) before.table.state := by
  rw [hrun]
  exact ⟨rfl, h.asked, h.lies.phase, h.lies.state⟩

theorem business_of_apply (hlies : office.table.LiesAt drawCount phase state)
    (hallows : Rules.Allows state phase event target) :
    office.Business drawCount [event] [] target
      { office with table := (office.table.apply event).1 } where
  asked := (List.append_nil _).symm
  lies := by
    rw [hlies.state]
    exact (hlies.apply hallows).2
  history := by
    obtain ⟨-, htakes⟩ := hlies.isOpen.takes (hlies.validate hallows)
    refine (congrArg History.length htakes.history).trans ?_
    rw [History.push, History.length, List.length_append]
    rfl

/-! ### Looks and questions -/

theorem run_observe (others : PlayerId → Resolver (StateM Office)) (office : Office) :
    (ExceptT.lift (access others).observe : ExceptT Failure (StateM Office) _).run.run office =
      (.ok office.table.state, office) :=
  rfl

/-- The office after a question. -/
def asking (office : Office) (id : PlayerId) (request : Request) : Office :=
  { office with asked := office.asked ++ [(id, request)] }

theorem run_ask (answers : (id : PlayerId) → (request : Request) → Except Failure request.Answer)
    (office : Office) (id : PlayerId) (request : Request) :
    ((undisturbed answers).ask id request).run.run office =
      (answers id request, office.asking id request) :=
  rfl

theorem business_asking (hlies : office.table.LiesAt drawCount phase state) (id : PlayerId)
    (request : Request) :
    office.Business drawCount [] [(id, request)] phase (office.asking id request) where
  asked := rfl
  lies := by
    rw [hlies.state]
    exact hlies
  history := rfl

/-! ### Events -/

/-- What is said of an event is what the table says, and a refusal is a failure. -/
theorem run_send_eq (others : PlayerId → Resolver (StateM Office)) (office : Office)
    (event : GameEvent) :
    ((access others).send event).run.run office =
      ((office.table.apply event).2.mapError Failure.ofRefusal,
        { office with table := (office.table.apply event).1 }) := by
  have happly : (ExceptT.lift ((access others).apply event) :
      ExceptT Failure (StateM Office) _).run.run office =
      (.ok (office.table.apply event).2, { office with table := (office.table.apply event).1 }) :=
    rfl
  refine (run_bind_ok happly).trans ?_
  cases (office.table.apply event).2 <;> rfl

theorem run_sendOr_eq (others : PlayerId → Resolver (StateM Office)) (office : Office)
    (preferred fallback : GameEvent) :
    ((access others).sendOr preferred fallback).run.run office =
      ((office.table.applyOr preferred fallback).2.mapError Failure.ofRefusal,
        { office with table := (office.table.applyOr preferred fallback).1 }) := by
  have happly : (ExceptT.lift ((access others).applyOr preferred fallback) :
      ExceptT Failure (StateM Office) _).run.run office =
      (.ok (office.table.applyOr preferred fallback).2,
        { office with table := (office.table.applyOr preferred fallback).1 }) := rfl
  refine (run_bind_ok happly).trans ?_
  cases (office.table.applyOr preferred fallback).2 <;> rfl

/-- An event that is allowed is taken. -/
theorem run_send (others : PlayerId → Resolver (StateM Office))
    (hlies : office.table.LiesAt drawCount phase state)
    (hallows : Rules.Allows state phase event target) :
    ∃ after, ((access others).send event).run.run office =
        (.ok (state, state.after event drawCount), after) ∧
      office.Business drawCount [event] [] target after := by
  refine ⟨_, ?_, business_of_apply hlies hallows⟩
  rw [run_send_eq, (hlies.apply hallows).1]
  rfl

/-- The first one of two events is taken if it is allowed. -/
theorem run_sendOr (others : PlayerId → Resolver (StateM Office))
    (hlies : office.table.LiesAt drawCount phase state)
    (hallows : Rules.Allows state phase preferred target) (fallback : GameEvent) :
    ∃ after, ((access others).sendOr preferred fallback).run.run office = (.ok true, after) ∧
      office.Business drawCount [preferred] [] target after := by
  have hfits : (office.table.validate preferred).isOk = true := by
    rw [hlies.validate hallows]
    rfl
  have hsame : (office.table.applyOr preferred fallback).1 = (office.table.apply preferred).1 := by
    simp only [Table.applyOr, hfits, if_true]
    rfl
  refine ⟨_, ?_, business_of_apply hlies hallows⟩
  rw [run_sendOr_eq, (hlies.applyOr hallows fallback).1, hsame]
  rfl

/-- If it is not, the second one may be. -/
theorem run_sendOr_fallback (others : PlayerId → Resolver (StateM Office))
    (hlies : office.table.LiesAt drawCount phase state)
    (hbarred : ∀ target, ¬Rules.Allows state phase preferred target)
    (hallows : Rules.Allows state phase fallback target) :
    ∃ after, ((access others).sendOr preferred fallback).run.run office = (.ok false, after) ∧
      office.Business drawCount [fallback] [] target after := by
  obtain ⟨hresult, hsame⟩ := hlies.applyOr_fallback hbarred hallows
  refine ⟨_, ?_, business_of_apply hlies hallows⟩
  rw [run_sendOr_eq, hresult, hsame]
  rfl

/-! ### Refusals -/

/-- Nothing has come of an attempt: nobody has been asked, and the table is intact. -/
structure Unmoved (drawCount : Nat) (phase : Turn) (state : GameState) (before after : Office) :
    Prop where
  asked : after.asked = before.asked
  intact : before.table.Intact after.table
  lies : after.table.LiesAt drawCount phase state

/-- An event that is not allowed is refused, and leaves no trace. -/
theorem run_send_refused (others : PlayerId → Resolver (StateM Office))
    (hlies : office.table.LiesAt drawCount phase state)
    (hbarred : ∀ target, ¬Rules.Allows state phase event target) :
    ∃ refusal after, office.table.validate event = .error refusal ∧
      ((access others).send event).run.run office =
        (.error (.rejected refusal.message), after) ∧
      office.Unmoved drawCount phase state after := by
  obtain ⟨refusal, hresult, hrefuses, hafter⟩ := hlies.apply_refused hbarred
  refine ⟨refusal, { office with table := (office.table.apply event).1 }, hrefuses.invalid, ?_,
    ⟨rfl, hrefuses.intact, hafter⟩⟩
  rw [run_send_eq, hresult, ← Table.ofRefusal_of_validate hrefuses.invalid]
  rfl

/-- Neither do two of them. -/
theorem run_sendOr_refused (others : PlayerId → Resolver (StateM Office))
    (hlies : office.table.LiesAt drawCount phase state)
    (hbarred : ∀ target, ¬Rules.Allows state phase preferred target)
    (hbarred' : ∀ target, ¬Rules.Allows state phase fallback target) :
    ∃ refusal after, office.table.validate fallback = .error refusal ∧
      ((access others).sendOr preferred fallback).run.run office =
        (.error (.rejected refusal.message), after) ∧
      office.Unmoved drawCount phase state after := by
  obtain ⟨refusal, hresult, hrefuses, hafter⟩ := hlies.applyOr_refused hbarred hbarred'
  refine ⟨refusal, { office with table := (office.table.applyOr preferred fallback).1 },
    hrefuses.invalid, ?_, ⟨rfl, hrefuses.intact, hafter⟩⟩
  rw [run_sendOr_eq, hresult, ← Table.ofRefusal_of_validate hrefuses.invalid]
  rfl

end Office

end RoundTable
