import RoundTable.Proofs.Table.AttackProtocol
import RoundTable.Proofs.Table.LiesAt

/-!
# The order of a turn

A turn takes its course: a stumbling card in the way of the player whose turn it is comes first, then
cards are drawn, then the player may report bugs, have them answered and discard, and in the end the
turn passes on to the next seat. No rule says so; it comes of the phases that the edges join.

## Main definitions

* `GameState.prelude`: what has to happen before anything is played
* `IsTurn`, `TurnSoFar`: the events of a turn, and of one that goes on
* `StartsTurn`: events after which a turn starts
* `TurnStage`: how far a turn is, and what is known of the state there

## Main results

* `TurnStage.after`, `TurnStage.ends`: an allowed event takes a turn further, or ends it
* `Rules.Allows.isCurrent`: all but the answers to an attack come from whoever's turn it is
* `Table.turns_follow_order`: every run keeps to the order, and the turn goes round the table
-/

namespace RoundTable

/-! ### The order -/

/-- What may happen any number of times, once cards have been drawn. -/
def EventKind.playing : List EventKind := [.reportBug, .reactWithCard, .reactWithoutCard, .discard]

namespace GameState

/-- Whether a stumbling card lies in the way of the player whose turn it is. -/
def isBlocked (state : GameState) : Bool := (state.currentId?.bind state.pendingStumbling?).isSome

/-- What has to happen before anything is played, if the turn is in the given phase. -/
def prelude (state : GameState) : Turn → List EventKind
  | .stumbling => if state.isBlocked then [.resolveStumbling, .drawCards] else [.drawCards]
  | .draw => [.drawCards]
  | .play => []

theorem isBlocked_of_isCurrent {state : GameState} {id : PlayerId}
    (h : state.isCurrent id = true) :
    state.isBlocked = (state.pendingStumbling? id).isSome := by
  have hid : state.currentId? = some id := of_decide_eq_true h
  rw [isBlocked, hid, Option.bind_some]

end GameState

/-- The kinds of the events between the start of a turn and its end. -/
def IsTurn (prelude kinds : List EventKind) : Prop :=
  ∃ played, kinds = prelude ++ played ∧ ∀ kind ∈ played, kind ∈ EventKind.playing

/-- The kinds of the events of a turn so far. -/
def TurnSoFar (prelude kinds : List EventKind) : Prop := kinds <+: prelude ∨ IsTurn prelude kinds

/-- A turn starts after the given events: there are none, or the last one has passed the turn on. -/
def StartsTurn (events : List GameEvent) : Prop :=
  ∀ event ∈ events.getLast?, event.kind = .nextTurn

theorem isTurn_self (prelude : List EventKind) : IsTurn prelude prelude :=
  ⟨[], (List.append_nil _).symm, nofun⟩

theorem IsTurn.concat {prelude kinds : List EventKind} {kind : EventKind}
    (h : IsTurn prelude kinds) (hkind : kind ∈ EventKind.playing) :
    IsTurn prelude (kinds ++ [kind]) := by
  obtain ⟨played, rfl, hplayed⟩ := h
  refine ⟨played ++ [kind], List.append_assoc _ _ _, fun other hother => ?_⟩
  obtain hother | hother := List.mem_append.mp hother
  · exact hplayed other hother
  · rwa [List.mem_singleton.mp hother]

/-! ### Stages of a turn -/

/-- How far a turn is that was in the phase `first` and the state `start`: the kinds of the events
since then, and the phase and the state now. Before cards are drawn, the state is known. -/
inductive TurnStage (drawCount : Nat) (first : Turn) (start : GameState) :
    List EventKind → Turn → GameState → Prop where
  | started : TurnStage drawCount first start [] first start
  | resolved {origin : PlayerId} {via : Option Card} (stumbling : first = .stumbling)
    (current : start.isCurrent origin = true)
    (blocked : (start.pendingStumbling? origin).isSome = true) :
    TurnStage drawCount first start [.resolveStumbling] .draw
      (start.after (.resolveStumbling origin via) drawCount)
  | playing {kinds : List EventKind} {state : GameState}
    (isTurn : IsTurn (start.prelude first) kinds) :
    TurnStage drawCount first start kinds .play state

variable {drawCount : Nat} {first phase target : Turn} {start state : GameState}
  {kinds : List EventKind} {event : GameEvent}

namespace TurnStage

theorem prelude_resolved {origin : PlayerId} (current : start.isCurrent origin = true)
    (blocked : (start.pendingStumbling? origin).isSome = true) :
    start.prelude .stumbling = [.resolveStumbling, .drawCards] := by
  rw [GameState.prelude, GameState.isBlocked_of_isCurrent current, if_pos blocked]

theorem prelude_free {origin : PlayerId} (current : start.isCurrent origin = true)
    (free : start.pendingStumbling? origin = none) : start.prelude .stumbling = [.drawCards] := by
  have hfree : ¬(start.pendingStumbling? origin).isSome = true := by simp [free]
  rw [GameState.prelude, GameState.isBlocked_of_isCurrent current, if_neg hfree]

/-- **An allowed event takes a turn further**, stage by stage, if it does not end it. -/
theorem after (h : TurnStage drawCount first start kinds phase state)
    (hallows : Rules.Allows state phase event target) (hkind : event.kind ≠ .nextTurn) :
    TurnStage drawCount first start (kinds ++ [event.kind]) target
      (state.after event drawCount) := by
  cases h with
  | started =>
    cases hallows with
    | resolve current blocked => exact .resolved rfl current blocked
    | drawAtOnce current free =>
      exact .playing (prelude_free current free ▸ isTurn_self [.drawCards])
    | draw => exact .playing (isTurn_self [.drawCards])
    | report | excuse | hit | discard =>
      exact .playing ((isTurn_self []).concat (by simp [EventKind.playing, GameEvent.kind]))
    | pass => exact absurd rfl hkind
  | resolved stumbling current blocked =>
    cases hallows with
    | draw =>
      refine .playing ?_
      rw [stumbling, prelude_resolved current blocked]
      exact isTurn_self [.resolveStumbling, .drawCards]
  | playing isTurn =>
    cases hallows with
    | report | excuse | hit | discard =>
      exact .playing (isTurn.concat (by simp [EventKind.playing, GameEvent.kind]))
    | pass => exact absurd rfl hkind

theorem soFar (h : TurnStage drawCount first start kinds phase state) :
    TurnSoFar (start.prelude first) kinds := by
  cases h with
  | started => exact .inl (List.nil_prefix)
  | resolved stumbling current blocked =>
    rw [stumbling, prelude_resolved current blocked]
    exact .inl ⟨[.drawCards], rfl⟩
  | playing isTurn => exact .inr isTurn

/-- A turn ends only when everything that has to happen has happened. -/
theorem ends (h : TurnStage drawCount first start kinds phase state)
    (hallows : Rules.Allows state phase event target) (hkind : event.kind = .nextTurn) :
    IsTurn (start.prelude first) kinds := by
  cases hallows with
  | pass =>
    cases h with
    | started => exact isTurn_self []
    | playing isTurn => exact isTurn
  | _ => cases hkind

end TurnStage

/-- All but the answers to an attack come from whoever's turn it is. -/
theorem Rules.Allows.isCurrent (h : Rules.Allows state phase event target)
    (hreaction : event.reaction? = none) : state.isCurrent event.origin = true := by
  cases h with
  | resolve current | drawAtOnce current | draw current | report current | discard current
  | pass current => exact current
  | excuse | hit => cases hreaction

/-! ### Runs -/

/-- Turns start in the phase in which players stumble, if the first one does. -/
theorem Rules.records_startsTurn (drawCount : Nat) (opening : Turn) :
    Rules.Records drawCount fun events phase _ =>
      StartsTurn events → phase = if events = [] then opening else .stumbling := by
  intro events state phase target event hallows _ hstarts
  have hkind : event.kind = .nextTurn := hstarts event (by simp)
  rw [if_neg (by simp)]
  cases hallows with
  | pass => rfl
  | _ => cases hkind

/-- Nobody gets up, and the turn goes round the table, a seat further whenever it passes on. -/
theorem Rules.records_current (drawCount : Nat) (opening : GameState) :
    Rules.Records drawCount fun events _ state =>
      state.seats = opening.seats ∧ state.current =
        (opening.current + (events.map GameEvent.kind).count .nextTurn) %
          opening.players.length := by
  rintro events state phase target event hallows ⟨hseats, hcurrent⟩
  have hlength : state.players.length = opening.players.length := by
    rw [← state.length_seats, hseats, opening.length_seats]
  refine ⟨(state.seats_after event drawCount).trans hseats, ?_⟩
  rw [List.map_append, List.count_append, List.map_singleton]
  by_cases hkind : event.kind = .nextTurn
  · cases hallows with
    | pass current =>
      rw [GameState.current_nextTurn current, hcurrent, hlength, Nat.mod_add_mod, Nat.add_assoc]
      rfl
    | _ => cases hkind
  · rw [GameState.current_after hkind, hcurrent, List.count_singleton]
    simp [hkind]

namespace Table

theorem LiesAt.turnStage {table : Table} (h : table.LiesAt drawCount first start)
    (errands : List Errand)
    (hsame : .nextTurn ∉ (table.accepted errands).map GameEvent.kind) :
    TurnStage drawCount first start ((table.accepted errands).map GameEvent.kind)
      (table.serveAll errands).1.phase (table.serveAll errands).1.state := by
  have hrecords : Rules.Records drawCount fun events phase state =>
      .nextTurn ∉ events.map GameEvent.kind →
        TurnStage drawCount first start (events.map GameEvent.kind) phase state := by
    intro events state phase target event hallows hstage hsame
    rw [List.map_append, List.mem_append, not_or] at hsame
    rw [List.map_append]
    exact (hstage hsame.1).after hallows fun hkind => hsame.2 (by simp [hkind])
  exact (h.records hrecords (fun _ => .started) errands).holds hsame

/-- Wherever the turn is, there is somebody. -/
theorem current_serveAll {config : TableConfig} {state : GameState} {table : Table}
    (hopened : opened config state = .ok table) (hseat : state.current < state.players.length)
    (errands : List Errand) :
    let now := (table.serveAll errands).1
    let turns := ((table.accepted errands).map GameEvent.kind).count .nextTurn
    now.state.seats = state.seats ∧
      now.state.current = (state.current + turns) % state.players.length ∧
      now.state.current < now.state.players.length := by
  intro now turns
  have hrecords := Rules.records_current config.drawCount state
  have hstart : state.current = (state.current + 0) % state.players.length :=
    (Nat.mod_eq_of_lt hseat).symm
  obtain ⟨hseats, hcurrent⟩ := (records_serveAll hopened hrecords ⟨rfl, hstart⟩ errands).holds
  refine ⟨hseats, hcurrent, ?_⟩
  rw [← now.state.length_seats, hseats, state.length_seats, hcurrent]
  exact Nat.mod_lt _ (Nat.zero_lt_of_lt hseat)

/-- **Turns follow their order.** Let a table be opened in the phase in which players stumble, with
the turn at a seat that exists. Whenever a turn starts, it is in that phase; until it ends, and
whatever is refused meanwhile, the events that are accepted are those of a turn so far: the stumbling
card is dealt with, exactly if one lies in the way when the turn starts, then cards are drawn once,
and then come reports, reactions and discards. The turn passes on only if all this has happened. At
any time, only whoever's turn it is has events other than reactions accepted; an errand that has
nothing accepted changes nothing; and the turn has gone round the table a seat at a time, so that its
seat exists, and to count one seat further never overflows. At the gate, whenever nobody is inside,
so it is with the visitors who have been inside, one after another. -/
theorem turns_follow_order {config : TableConfig} {state : GameState} {table : Table}
    (hopened : opened config state = .ok table) (hturn : state.turn = .stumbling)
    (hseat : state.current < state.players.length) :
    (∀ before during : List Errand,
      let start := (table.serveAll before).1
      let kinds := (start.accepted during).map GameEvent.kind
      let prelude := start.state.prelude .stumbling
      StartsTurn (table.accepted before) → .nextTurn ∉ kinds →
        start.phase = .stumbling ∧ TurnSoFar prelude kinds ∧
        ∀ (errand : Errand) (event : GameEvent),
          errand.accepted? ((start.serveAll during).1.serve errand).2 = some event →
            event.kind = .nextTurn → IsTurn prelude kinds) ∧
    (∀ errands : List Errand,
      let now := (table.serveAll errands).1
      let turns := ((table.accepted errands).map GameEvent.kind).count .nextTurn
      (∀ (errand : Errand) (event : GameEvent),
        errand.accepted? (now.serve errand).2 = some event → event.reaction? = none →
          now.state.isCurrent event.origin = true) ∧
      (∀ errand : Errand, errand.accepted? (now.serve errand).2 = none →
        (now.serve errand).1.phase = now.phase ∧ (now.serve errand).1.state = now.state) ∧
      now.state.seats = state.seats ∧
      now.state.current = (state.current + turns) % state.players.length ∧
      now.state.current < now.state.players.length ∧
      (state.players.length < USize.size → now.state.current + 1 < USize.size)) ∧
    ∀ (ι : Type) [DecidableEq ι] (errand : ι → Errand) (labels : List (GateLabel ι))
      (gate : Gate ι), (Gate.opened table).run? errand labels = some gate → gate.holder = none →
        gate.table = (table.serveAll (gate.admitted.map errand)).1 ∧
        gate.accepted errand = table.accepted (gate.admitted.map errand) := by
  refine ⟨?_, ?_, ?_⟩
  · intro before during start kinds prelude hstarts hsame
    have hphase : start.phase = .stumbling := by
      have hrecords := Rules.records_startsTurn config.drawCount state.turn
      have hstart := (records_serveAll hopened hrecords (fun _ => rfl) before).holds hstarts
      rwa [hturn, ite_self] at hstart
    have hlies : start.LiesAt config.drawCount .stumbling start.state :=
      hphase ▸ liesAt_serveAll hopened before
    have hstage := hlies.turnStage during hsame
    refine ⟨hphase, hstage.soFar, ?_⟩
    intro errand event haccepted hkind
    obtain ⟨hallows, -⟩ := (hlies.serveAll during).accepts haccepted
    exact hstage.ends hallows hkind
  · intro errands now turns
    have hlies := liesAt_serveAll hopened errands
    obtain ⟨hseats, hcurrent, hvalid⟩ := current_serveAll hopened hseat errands
    refine ⟨?_, ?_, hseats, hcurrent, hvalid, ?_⟩
    · intro errand event haccepted
      exact (hlies.accepts haccepted).1.isCurrent
    · intro errand hrefused
      exact hlies.refuses hrefused
    · intro hword
      have hlength : now.state.players.length = state.players.length := by
        rw [← now.state.length_seats, hseats, state.length_seats]
      exact Nat.lt_of_le_of_lt (hlength ▸ hvalid) hword
  · intro ι _ errand labels gate hrun hfree
    exact Gate.accepted_of_run? (isOpen_of_withEdges hopened).atRest hrun hfree

/-- The duel with stumbling cards in front of the first player. -/
def steeplechase (cards : List Stumbling) : Table where
  machine := .opened Rules.turnTable .stumbling
    (cards.foldl (fun state card => state.withFrontCard ⟨0⟩ (.stumbling card)) Gate.duel.state)
    (fun state event => state.after event 2) (fun _ => false)
  config := {}

/-- The first player would rather draw than stumble, and would rather pass on than draw. -/
def firstSteps : List Errand :=
  [.apply (.drawCards ⟨0⟩), .apply (.resolveStumbling ⟨0⟩ none), .endTurn ⟨0⟩,
    .apply (.drawCards ⟨0⟩)]

theorem turns_follow_order_steeplechase :
    ((steeplechase [.fortranMaintenance]).accepted firstSteps).map GameEvent.kind =
        [.resolveStumbling, .drawCards] ∧
      IsTurn ((steeplechase [.fortranMaintenance]).state.prelude .stumbling)
        [.resolveStumbling, .drawCards] ∧
      ((steeplechase [.fortranMaintenance]).serveAll
        (firstSteps ++ [.endTurn ⟨1⟩, .endTurn ⟨0⟩])).1.state.current = 1 := by
  have hopened : opened {} (steeplechase [.fortranMaintenance]).state =
      .ok (steeplechase [.fortranMaintenance]) := rfl
  have hkinds : ((steeplechase [.fortranMaintenance]).accepted firstSteps).map GameEvent.kind =
      [.resolveStumbling, .drawCards] := rfl
  have hsame : .nextTurn ∉
      ((steeplechase [.fortranMaintenance]).accepted firstSteps).map GameEvent.kind := by
    rw [hkinds]
    decide
  have hends : (Errand.endTurn ⟨0⟩).accepted?
      (((steeplechase [.fortranMaintenance]).serveAll firstSteps).1.serve (.endTurn ⟨0⟩)).2 =
        some (.nextTurn ⟨0⟩) := by rfl
  obtain ⟨hturns, hround, -⟩ := turns_follow_order hopened rfl (by decide)
  obtain ⟨-, -, hend⟩ := hturns [] firstSteps nofun hsame
  refine ⟨hkinds, hend _ _ hends rfl, ?_⟩
  rw [(hround _).2.2.2.1]
  rfl

end Table

end RoundTable
