import RoundTable.Automaton.Lamp
import RoundTable.Proofs.Automaton.Courses

/-!
# Machines refine an automaton

A machine is a table of edges, a store with a loop of its own, and a phase that is published before
the store has taken the event and taken back if the store loses it. Seen between two sends it is
much less: an automaton that looks at the edges of its phase which are for the tag of the event,
asks the first of them, and either moves phase, payload and history together or stays where it is.

## Main definitions

* `PureAutomaton`, `PureAutomaton.step`, `PureAutomaton.run`: the automaton
* `Machine.automaton`, `Machine.view`: how a machine is read as one

## Main results

* `Machine.view_send`: one send is one step of the automaton
* `Machine.sendEach_refines`: so is each of any number of sends, however their steps are scheduled
-/

namespace RoundTable

/-- Edges, a reducer, and an inspector that breaks down on some payloads. -/
structure PureAutomaton (φ κ ε σ : Type) where
  /-- The edges. -/
  table : EdgeTable φ κ ε σ
  /-- The payload after an event. -/
  reduce : σ → ε → σ
  /-- Whether the inspector breaks down on a payload. -/
  breaks : σ → Bool

/-- What an automaton knows. -/
structure PureState (φ κ σ : Type) where
  /-- The phase. -/
  phase : φ
  /-- The payload. -/
  payload : σ
  /-- Where each event that passed led from and to, and its tag; oldest first. -/
  passages : List (φ × φ × κ)
  /-- Whether the inspector has never broken down. -/
  isOpen : Bool

namespace PureAutomaton

variable {φ κ ε σ : Type} [DecidableEq φ] [DecidableEq κ] [Tagged ε κ]

/-- One event. The first edge that is for its tag decides; later ones are not asked, even if their
guards would accept. -/
def step (automaton : PureAutomaton φ κ ε σ) (state : PureState φ κ σ) (event : ε) :
    PureState φ κ σ × Except (TransitionError φ ε) Unit :=
  match (automaton.table.edgesFrom state.phase).filter fun edge => edge.selects event with
  | [] => (state, .error (.noEdge state.phase event))
  | edge :: _ =>
    if edge.accepts state.payload event then
      let next := automaton.reduce state.payload event
      if state.isOpen && !automaton.breaks next then
        ({ state with
            phase := edge.target
            payload := next
            passages := state.passages ++ [(state.phase, edge.target, tag event)] }, .ok ())
      else ({ state with isOpen := false }, .error (.store .closed))
    else (state, .error (.refused state.phase event))

/-- Events one after another. -/
def run (automaton : PureAutomaton φ κ ε σ) (state : PureState φ κ σ) :
    List ε → PureState φ κ σ × List (Except (TransitionError φ ε) Unit)
  | [] => (state, [])
  | event :: events =>
    let (state, result) := automaton.step state event
    let (state, results) := automaton.run state events
    (state, result :: results)

end PureAutomaton

namespace Machine

variable {φ κ ε σ : Type}

/-- The automaton that a machine works by. -/
def automaton (machine : Machine φ κ ε σ) : PureAutomaton φ κ ε σ :=
  ⟨machine.table, machine.store.reduce, machine.store.breaks⟩

/-- What can be seen of a machine between two sends; times are left out. -/
def view (machine : Machine φ κ ε σ) : PureState φ κ σ where
  phase := machine.phase.value
  payload := machine.payload
  passages := machine.history.passages.map fun p => (p.source, p.target, p.tag)
  isOpen := !machine.store.isClosed

theorem Unmoved.view {before after : Machine φ κ ε σ} (h : Unmoved before after) :
    after.view = { before.view with isOpen := !after.store.isClosed } := by
  simp [Machine.view, h.phase, h.payload, h.history]

variable [Tagged ε κ]

theorem Passed.view {before after : Machine φ κ ε σ} {event : ε} {target : φ}
    (h : Passed before event target after) :
    after.view =
      { phase := target
        payload := before.store.reduce before.payload event
        passages := before.view.passages ++ [(before.phase.value, target, tag event)]
        isOpen := !after.store.isClosed } := by
  simp [Machine.view, h.phase, h.payload, h.history, History.push]

variable [DecidableEq φ] [DecidableEq κ]

/-! ### Validation asks the first edge -/

theorem validate_of_filter_eq_nil {machine : Machine φ κ ε σ} {event : ε}
    (h : (machine.table.edgesFrom machine.phase.value).filter (fun edge => edge.selects event) =
      []) :
    machine.validate event = .error (.noEdge machine.phase.value event) := by
  have hselect : machine.table.select? machine.phase.value event = none := by
    rw [EdgeTable.select?, ← List.head?_filter, h, List.head?_nil]
  simp [validate, judge?, hselect]

theorem validate_of_filter_eq_cons {machine : Machine φ κ ε σ} {event : ε}
    {edge : Edge φ κ ε σ} {rest : List (Edge φ κ ε σ)}
    (h : (machine.table.edgesFrom machine.phase.value).filter (fun edge => edge.selects event) =
      edge :: rest) :
    machine.validate event =
      if edge.accepts machine.payload event then .ok edge.target
      else .error (.refused machine.phase.value event) := by
  have hselect : machine.table.select? machine.phase.value event = some edge := by
    rw [EdgeTable.select?, ← List.head?_filter, h, List.head?_cons]
  simp only [validate, judge?, hselect, Option.map_some]
  rfl

/-! ### One send is one step -/

theorem automaton_send {machine : Machine φ κ ε σ} (hrest : machine.store.AtRest) (event : ε) :
    (machine.send event).1.automaton = machine.automaton := by
  have h := sameModel_send hrest event
  simp [automaton, h.table, h.reduce, h.breaks]

/-- **One send is one step of the automaton.** -/
theorem view_send {machine : Machine φ κ ε σ} (hrest : machine.store.AtRest) (event : ε) :
    ((machine.send event).1.view, (machine.send event).2) =
      machine.automaton.step machine.view event := by
  rw [PureAutomaton.step]
  split
  case h_1 hnone =>
    rw [send_of_validate_error (validate_of_filter_eq_nil hnone)]
    rfl
  case h_2 edge rest hfirst =>
    have hvalid := validate_of_filter_eq_cons hfirst
    split
    case isFalse haccepts =>
      rw [send_of_validate_error (hvalid.trans (if_neg haccepts))]
      rfl
    case isTrue haccepts =>
      replace hvalid := hvalid.trans (if_pos haccepts)
      have hopen : (machine.view.isOpen &&
          !machine.automaton.breaks (machine.automaton.reduce machine.view.payload event)) =
          !machine.store.loses event := by
        rw [Store.loses, Bool.not_or]
        rfl
      dsimp only
      rw [hopen]
      cases hloses : machine.store.loses event with
      | true =>
        obtain ⟨hresult, hunmoved, -, -, hclosed⟩ := send_of_loses hrest hvalid hloses
        rw [hresult, hunmoved.view, hclosed]
        rfl
      | false =>
        obtain ⟨hresult, hpassed, -, -, hclosed⟩ := send_of_keeps hrest hvalid hloses
        have hbefore : machine.view.isOpen = true := by
          rw [hloses, Bool.not_false, Bool.and_eq_true] at hopen
          exact hopen.1
        rw [hresult, hpassed.view, hclosed]
        simp only [Bool.not_false, if_true, hbefore]
        rfl

/-! ### Any number of sends -/

theorem atRest_sendEach {machine : Machine φ κ ε σ} (hrest : machine.store.AtRest)
    (events : List ε) : (machine.sendEach events).1.store.AtRest := by
  induction events generalizing machine with
  | nil => exact hrest
  | cons event events ih => exact ih (atRest_send hrest event)

theorem view_sendEach {machine : Machine φ κ ε σ} (hrest : machine.store.AtRest)
    (events : List ε) :
    ((machine.sendEach events).1.view, (machine.sendEach events).2) =
      machine.automaton.run machine.view events := by
  induction events generalizing machine with
  | nil => rfl
  | cons event events ih =>
    have hfirst := view_send hrest event
    have hothers := ih (atRest_send hrest event)
    rw [automaton_send hrest] at hothers
    rw [PureAutomaton.run, ← hfirst]
    dsimp only
    rw [← hothers]
    rfl

/-- **Machines refine the automaton.** Whatever the edges, the reducer and the inspector, events
that are sent one after another get the results that the automaton gives, and leave phase, payload
and history as the automaton leaves them. The steps of a send may follow each other in any way: they
never get stuck, and when the send is through they have come to the same. A send that fails has left
nothing visible behind, and the reason is never a queue without room. -/
theorem sendEach_refines (table : EdgeTable φ κ ε σ) (initial : φ) (payload : σ)
    (reduce : σ → ε → σ) (breaks : σ → Bool) (events : List ε) :
    let automaton : PureAutomaton φ κ ε σ := ⟨table, reduce, breaks⟩
    let reached := (opened table initial payload reduce breaks).sendEach events
    (reached.1.view, reached.2) = automaton.run ⟨initial, payload, [], true⟩ events ∧
      ∀ event,
        (∀ labels machine stage,
          reached.1.course? (.validating event) labels = some (machine, stage) →
            (∃ more, machine.course? stage more =
              some ((reached.1.send event).1, .finished (reached.1.send event).2)) ∧
            ∀ result, stage = .finished result → (machine, result) = reached.1.send event) ∧
        ∀ error, (reached.1.send event).2 = .error error →
          Unmoved reached.1 (reached.1.send event).1 ∧ error ≠ .store .rejected := by
  intro automaton reached
  have hopened := Store.atRest_opened reduce breaks payload
  have hrest : reached.1.store.AtRest := atRest_sendEach hopened events
  refine ⟨view_sendEach hopened events, fun event => ⟨fun labels machine stage hcourse => ?_,
    fun error herror => unmoved_send_of_error hrest herror⟩⟩
  have hstart : Underway reached.1 event reached.1 (.validating event) := .validating
  have hunderway := hstart.course? hrest hcourse
  refine ⟨hunderway.exists_course hrest, fun result hstage => ?_⟩
  subst hstage
  cases hunderway with
  | finished => rfl

/-- A lamp with two edges out of red for the same tag, the first of them for small counts only. -/
def fussyLamp : LampTable := .ofEdges
  [{ source := .red, target := .green, selector := .tag .advance,
     guard := Comparison.guard .less "small" false 3 },
    { source := .red, target := .amber, selector := .tag .advance, guard := .always },
    { source := .red, target := .red, selector := .tag .tick, guard := .always },
    { source := .green, target := .red, selector := .tag .back, guard := .always }]

/-- Pulses for the lamp: two pass, one finds no edge, one is refused by the first edge where the
second would accept, and the inspector breaks down on a count above ten. -/
def fussyPulses : List Pulse :=
  [⟨.advance, 1⟩, ⟨.tick, 0⟩, ⟨.back, 5⟩, ⟨.advance, 1⟩, ⟨.tick, 2⟩, ⟨.advance, 11⟩, ⟨.tick, 1⟩,
    ⟨.back, 0⟩]

theorem sendEach_refines_fussyLamp :
    ((opened fussyLamp .red 0 (fun count pulse => Folding.apply count pulse.weight .set)
        (fun count => 10 < count)).sendEach fussyPulses).2 =
      [.ok (), .error (.noEdge .green ⟨.tick, 0⟩), .ok (), .error (.refused .red ⟨.advance, 1⟩),
        .ok (), .error (.store .closed), .error (.store .closed),
        .error (.noEdge .red ⟨.back, 0⟩)] := by
  have h := (sendEach_refines fussyLamp .red 0
    (fun count pulse => Folding.apply count pulse.weight .set) (fun count => 10 < count)
    fussyPulses).1
  rw [Prod.ext_iff] at h
  rw [h.2]
  rfl

end Machine

end RoundTable
