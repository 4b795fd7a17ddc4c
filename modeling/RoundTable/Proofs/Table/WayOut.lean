import RoundTable.Proofs.Rules.Spending
import RoundTable.Proofs.Table.TurnOrder

/-!
# A way out of every turn

Whoever's turn it is can always bring it to an end, alone and with empty hands: take the hit for the
stumbling card that lies in the way, draw from whatever is left of the pile, have the victim of an
attack that waits take the hit, and pass the turn on. No state of the table stands against it.

## Main definitions

* `GameState.SameButHands`, `GameEvent.NeedsNoCard`: events that are allowed whatever players hold
* `Rules.AllowsAll`: events that are allowed one after another
* `GameState.PassedOn`, `Rules.EndsTurn`: events that bring the turn to an end
* `GameState.wayOut`: the way out

## Main results

* `GameEvent.needsNoCard_of_spent`: an event that costs no card needs none
* `Table.LiesAt.acceptsAll`: what is allowed one after another is accepted
* `AttackProtocol.endsTurn_wayOut`: the way out brings the turn to an end
* `Table.never_stuck`: there is a way out after any errands
-/

namespace RoundTable

variable {drawCount : Nat} {phase middle target : Turn} {state after last : GameState}
  {event : GameEvent} {events : List GameEvent} {me : PlayerId}

/-! ### Events that need no card -/

/-- What the rules look at is the same, but for the cards that players hold. -/
structure GameState.SameButHands (before after : GameState) : Prop where
  alike : before.Alike after
  frontCards : after.frontCards = before.frontCards

/-- Where the event is allowed, it is allowed whatever players hold. -/
def GameEvent.NeedsNoCard (event : GameEvent) : Prop :=
  ∀ ⦃state after : GameState⦄ ⦃phase target : Turn⦄, state.SameButHands after →
    Rules.Allows state phase event target → Rules.Allows after phase event target

theorem GameState.SameButHands.pendingStumbling? (h : state.SameButHands after) (id : PlayerId) :
    after.pendingStumbling? id = state.pendingStumbling? id := by
  rw [GameState.pendingStumbling?, h.frontCards, GameState.pendingStumbling?]

/-- An event that costs no card needs none. -/
theorem GameEvent.needsNoCard_of_spent (h : event.spent = []) : event.NeedsNoCard := by
  intro state after phase target hsame hallows
  have halike := hsame.alike
  cases hallows with
  | @resolve origin via current blocked =>
    have hvia : via = none := Option.toList_eq_nil_iff.mp h
    rw [← halike.isCurrent] at current
    rw [← hsame.pendingStumbling?] at blocked
    exact .resolve current blocked (by simp [hvia])
  | drawAtOnce current free =>
    rw [← halike.isCurrent] at current
    rw [← hsame.pendingStumbling?] at free
    exact .drawAtOnce current free
  | draw current => exact .draw (halike.isCurrent.trans current)
  | hit seated pending involved answers =>
    exact .hit (halike.isSeated.trans seated) (halike.attack.trans pending) involved answers
  | @discard origin cards current =>
    cases (show cards = [] from h)
    rw [← halike.isCurrent] at current
    obtain ⟨player, hplayer⟩ := Option.isSome_iff_exists.mp (GameState.isSeated_of_isCurrent current)
    exact .discard current ⟨player, hplayer, rfl⟩
  | pass current calm => exact .pass (halike.isCurrent.trans current) (halike.attack.trans calm)
  | report | excuse => cases h

/-! ### Events one after another -/

/-- Events that are allowed one after another, and what they lead to. -/
inductive Rules.AllowsAll (drawCount : Nat) :
    Turn → GameState → List GameEvent → Turn → GameState → Prop where
  | nil {phase : Turn} {state : GameState} : AllowsAll drawCount phase state [] phase state
  | cons {phase middle target : Turn} {state last : GameState} {event : GameEvent}
    {events : List GameEvent} (allows : Rules.Allows state phase event middle)
    (rest : AllowsAll drawCount middle (state.after event drawCount) events target last) :
    AllowsAll drawCount phase state (event :: events) target last

/-- What is allowed one after another is accepted. -/
theorem Table.LiesAt.acceptsAll {table : Table} (h : table.LiesAt drawCount phase state)
    (hall : Rules.AllowsAll drawCount phase state events target last) :
    table.accepted (events.map .apply) = events ∧
      (table.serveAll (events.map .apply)).1.LiesAt drawCount target last := by
  induction hall generalizing table with
  | nil => exact ⟨rfl, h⟩
  | cons allows _ ih =>
    obtain ⟨hfirst, hnext⟩ := h.serve_apply allows
    obtain ⟨hrest, hlast⟩ := ih hnext
    refine ⟨?_, hlast⟩
    rw [List.map_cons, accepted_cons, hfirst, hrest, Option.toList_some, List.singleton_append]

/-! ### The way out -/

namespace GameState

/-- The players are those who were there, and the turn is at the next seat. -/
structure PassedOn (before after : GameState) : Prop where
  seats : after.seats = before.seats
  current : after.current = (before.current + 1) % before.players.length

/-- What happens before the turn passes on makes no difference. -/
theorem PassedOn.of_after (h : (state.after event drawCount).PassedOn last)
    (hkind : event.kind ≠ .nextTurn) : state.PassedOn last := by
  have hseats := state.seats_after event drawCount
  have hlength : (state.after event drawCount).players.length = state.players.length := by
    rw [← length_seats, hseats, length_seats]
  refine ⟨h.seats.trans hseats, ?_⟩
  rw [h.current, current_after hkind, hlength]

/-- The way out for the player whose turn it is: what lies in the way is taken as a hit, what waits
for an answer is answered without a card, and then the turn passes on. -/
def wayOut (state : GameState) (me : PlayerId) : Turn → List GameEvent
  | .stumbling =>
    if (state.pendingStumbling? me).isSome then
      [.resolveStumbling me none, .drawCards me, .nextTurn me]
    else [.drawCards me, .nextTurn me]
  | .draw => [.drawCards me, .nextTurn me]
  | .play =>
    match state.pendingAttack with
    | some attack => [.reactWithoutCard me attack.victim, .nextTurn me]
    | none => [.nextTurn me]

theorem length_wayOut_le (state : GameState) (me : PlayerId) (phase : Turn) :
    (state.wayOut me phase).length ≤ 3 := by
  rw [wayOut.eq_def]
  repeat' split
  all_goals simp

theorem getLast?_wayOut (state : GameState) (me : PlayerId) (phase : Turn) :
    (state.wayOut me phase).getLast? = some (.nextTurn me) := by
  rw [wayOut.eq_def]
  repeat' split
  all_goals rfl

/-- The way out is gone alone and with empty hands. -/
theorem origin_spent_of_mem_wayOut (h : event ∈ state.wayOut me phase) :
    event.origin = me ∧ event.spent = [] := by
  rw [wayOut.eq_def] at h
  repeat' split at h
  all_goals
    simp only [List.mem_cons, List.not_mem_nil, or_false] at h
    rcases h with rfl | rfl | rfl
  all_goals exact ⟨rfl, rfl⟩

end GameState

/-- The events bring the turn to an end: they are allowed one after another, and then the turn of
the next seat starts. -/
def Rules.EndsTurn (drawCount : Nat) (phase : Turn) (state : GameState) (events : List GameEvent) :
    Prop :=
  ∃ last, Rules.AllowsAll drawCount phase state events .stumbling last ∧ state.PassedOn last

namespace Rules

theorem EndsTurn.cons (h : EndsTurn drawCount middle (state.after event drawCount) events)
    (hallows : Allows state phase event middle) (hkind : event.kind ≠ .nextTurn) :
    EndsTurn drawCount phase state (event :: events) := by
  obtain ⟨last, hrest, hpassed⟩ := h
  exact ⟨last, .cons hallows hrest, hpassed.of_after hkind⟩

theorem endsTurn_nextTurn (drawCount : Nat) (hcurrent : state.isCurrent me = true)
    (hcalm : state.pendingAttack = none) : EndsTurn drawCount .play state [.nextTurn me] :=
  ⟨_, .cons (.pass hcurrent hcalm) .nil, state.seats_after _ drawCount,
    GameState.current_nextTurn hcurrent drawCount⟩

theorem endsTurn_drawCards (drawCount : Nat) (hallows : Allows state phase (.drawCards me) .play)
    (hcurrent : state.isCurrent me = true) (hcalm : state.pendingAttack = none) :
    EndsTurn drawCount phase state [.drawCards me, .nextTurn me] := by
  have halike := state.alike_drawCards me drawCount
  have hnext : EndsTurn drawCount .play (state.after (.drawCards me) drawCount) [.nextTurn me] :=
    endsTurn_nextTurn drawCount (halike.isCurrent.trans hcurrent) (halike.attack.trans hcalm)
  exact hnext.cons hallows nofun

end Rules

/-- **The way out brings the turn to an end**, phase by phase. -/
theorem AttackProtocol.endsTurn_wayOut {past : List GameEvent}
    (h : AttackProtocol past phase state) (hcurrent : state.isCurrent me = true) (drawCount : Nat) :
    Rules.EndsTurn drawCount phase state (state.wayOut me phase) := by
  cases phase with
  | stumbling =>
    have hcalm := h.calm_of_ne_play nofun
    rw [GameState.wayOut]
    split
    case isTrue hblocked =>
      have halike := state.alike_resolveStumbling me none drawCount
      have hthere := halike.isCurrent.trans hcurrent
      have hdrawn := Rules.endsTurn_drawCards drawCount (.draw hthere) hthere (halike.attack.trans hcalm)
      exact hdrawn.cons (.resolve hcurrent hblocked nofun) nofun
    case isFalse hfree =>
      have hnone := Option.not_isSome_iff_eq_none.mp hfree
      exact Rules.endsTurn_drawCards drawCount (.drawAtOnce hcurrent hnone) hcurrent hcalm
  | draw => exact Rules.endsTurn_drawCards drawCount (.draw hcurrent) hcurrent (h.calm_of_ne_play nofun)
  | play =>
    rw [GameState.wayOut]
    split
    case h_1 attack hpending =>
      have hattacker : me = attack.attacker :=
        GameState.eq_of_isCurrent hcurrent (h.attacker attack hpending)
      have hhit : (GameEvent.reactWithoutCard me attack.victim).kind ≠ .nextTurn := nofun
      have hthere := (GameState.isCurrent_after hhit drawCount).trans hcurrent
      have hseated := GameState.isSeated_of_isCurrent hcurrent
      have hanswered := Rules.endsTurn_nextTurn drawCount hthere rfl
      exact hanswered.cons (.hit hseated hpending (.inl hattacker) rfl) hhit
    case h_2 hcalm => exact Rules.endsTurn_nextTurn drawCount hcurrent hcalm

namespace Table

/-- **There is always a way out.** Let a table be opened while nobody is attacked, with the turn at a
seat that exists. After any errands, whoever's turn it is can bring it to an end: there are three
events at most, all of that player and none of them in need of a card in anybody's hand, that are
accepted one after another if nothing else happens; the last one passes the turn on, and then the
table is in the phase in which players stumble, with everybody at their seats and the turn at the
next one. -/
theorem never_stuck {config : TableConfig} {state : GameState} {table : Table}
    (hopened : opened config state = .ok table) (hcalm : state.pendingAttack = none)
    (hseat : state.current < state.players.length) (errands : List Errand) :
    let now := (table.serveAll errands).1
    ∃ (me : PlayerId) (events : List GameEvent), now.state.isCurrent me = true ∧
      events.length ≤ 3 ∧ events.getLast? = some (.nextTurn me) ∧
      (∀ event ∈ events, event.origin = me ∧ event.NeedsNoCard) ∧
      now.accepted (events.map .apply) = events ∧
      let later := (now.serveAll (events.map .apply)).1
      later.phase = .stumbling ∧ later.state.seats = now.state.seats ∧
      later.state.current = (now.state.current + 1) % now.state.players.length := by
  intro now
  obtain ⟨me, hcurrent⟩ :=
    GameState.exists_isCurrent (current_serveAll hopened hseat errands).2.2
  have hprotocol := attackProtocol_serveAll hopened hcalm errands
  obtain ⟨last, hall, hpassed⟩ := hprotocol.endsTurn_wayOut hcurrent config.drawCount
  obtain ⟨haccepted, hlast⟩ := (liesAt_serveAll hopened errands).acceptsAll hall
  refine ⟨me, now.state.wayOut me now.phase, hcurrent, GameState.length_wayOut_le _ _ _,
    GameState.getLast?_wayOut _ _ _, ?_, haccepted, hlast.phase, ?_, ?_⟩
  · intro event hevent
    obtain ⟨horigin, hspent⟩ := GameState.origin_spent_of_mem_wayOut hevent
    exact ⟨horigin, GameEvent.needsNoCard_of_spent hspent⟩
  · rw [hlast.state]
    exact hpassed.seats
  · rw [hlast.state]
    exact hpassed.current

/-- In the middle of an attack, the attacker's hand is empty. -/
theorem never_stuck_duel :
    let now := (Gate.duel.serveAll assault).1
    now.state.pendingAttack.isSome = true ∧
      ∃ (me : PlayerId) (events : List GameEvent), now.state.isCurrent me = true ∧
        events.getLast? = some (.nextTurn me) ∧ now.accepted (events.map .apply) = events := by
  have hopened : opened {} Gate.duel.state = .ok Gate.duel := rfl
  obtain ⟨me, events, hcurrent, -, hend, -, haccepted, -⟩ :=
    never_stuck hopened rfl (by decide) assault
  exact ⟨rfl, me, events, hcurrent, hend, haccepted⟩

end Table

end RoundTable
