import RoundTable.Proofs.Rules.Seats
import RoundTable.Proofs.Table.Accepted

/-!
# One report, one reaction

An attack is reported by the current player and waits for one reaction. Until then the turn cannot
pass on, no card is drawn and nothing else is reported; so the attacker stays the current player,
and reports and reactions take turns.

## Main definitions

* `GameEvent.report?`, `GameEvent.reaction?`: the attack that is reported, the victim for whom it is
  answered
* `AttackProtocol`: what the accepted events say about the attack that waits

## Main results

* `AttackProtocol.after`: an allowed event keeps to the protocol
* `Rules.Allows.reaction`, `Rules.Allows.waits`: what is allowed while an attack waits
* `Table.one_reaction_per_report`: every run keeps to the protocol
-/

namespace RoundTable

/-- The attack that an event reports. -/
def GameEvent.report? : GameEvent → Option PendingAttack
  | reportBug origin victim bug => some ⟨origin, victim, bug⟩
  | _ => none

/-- The victim for whom an event answers an attack. -/
def GameEvent.reaction? : GameEvent → Option PlayerId
  | reactWithCard _ victim _ | reactWithoutCard _ victim => some victim
  | _ => none

/-- What the events so far say about the attack that waits for a reaction. -/
structure AttackProtocol (events : List GameEvent) (phase : Turn) (state : GameState) : Prop where
  /-- A report without a reaction is one that waits. -/
  balance : (events.filterMap GameEvent.report?).length =
    (events.filterMap GameEvent.reaction?).length + state.pendingAttack.toList.length
  /-- The turn does not pass on. -/
  phase : ∀ attack ∈ state.pendingAttack, phase = .play
  /-- It is the attacker's turn. -/
  attacker : ∀ attack ∈ state.pendingAttack, state.isCurrent attack.attacker = true
  /-- The victim is another player at the table. -/
  victim : ∀ attack ∈ state.pendingAttack,
    state.isSeated attack.victim = true ∧ attack.victim ≠ attack.attacker
  /-- The attack is the latest one reported. -/
  latest : ∀ attack ∈ state.pendingAttack,
    (events.filterMap GameEvent.report?).getLast? = some attack

variable {events : List GameEvent} {state next : GameState} {phase target : Turn}
  {event : GameEvent}

namespace AttackProtocol

theorem calm_of_ne_play (h : AttackProtocol events phase state) (hphase : phase ≠ .play) :
    state.pendingAttack = none := by
  cases hpending : state.pendingAttack with
  | none => rfl
  | some attack => exact absurd (h.phase attack hpending) hphase

/-- Where nobody is attacked, an event that is neither a report nor a reaction may do anything. -/
theorem calm (h : AttackProtocol events phase state) (hcalm : state.pendingAttack = none)
    (hreport : event.report? = none) (hreaction : event.reaction? = none)
    (hnext : next.pendingAttack = none) : AttackProtocol (events ++ [event]) target next := by
  have hbalance := h.balance
  rw [hcalm] at hbalance
  refine ⟨?_, ?_, ?_, ?_, ?_⟩
  · simpa [List.filterMap_append, hreport, hreaction, hnext] using hbalance
  all_goals simp [hnext]

/-- An event that is neither a report nor a reaction may change anything but seats, turn and
attack. -/
theorem alike (h : AttackProtocol events phase state) (halike : state.Alike next)
    (hreport : event.report? = none) (hreaction : event.reaction? = none) :
    AttackProtocol (events ++ [event]) phase next := by
  have hreports : (events ++ [event]).filterMap GameEvent.report? =
      events.filterMap GameEvent.report? := by
    simp [List.filterMap_append, hreport]
  have hreactions : (events ++ [event]).filterMap GameEvent.reaction? =
      events.filterMap GameEvent.reaction? := by
    simp [List.filterMap_append, hreaction]
  refine ⟨?_, ?_, ?_, ?_, ?_⟩
  · rw [hreports, hreactions, halike.attack]
    exact h.balance
  all_goals rw [halike.attack]
  · exact h.phase
  · simpa only [halike.isCurrent] using h.attacker
  · simpa only [halike.isSeated] using h.victim
  · rw [hreports]
    exact h.latest

/-- A report where nobody is attacked. -/
theorem report (h : AttackProtocol events .play state) (hcalm : state.pendingAttack = none)
    {attack : PendingAttack} (hreport : event.report? = some attack)
    (hreaction : event.reaction? = none) (hnext : next.pendingAttack = some attack)
    (hattacker : next.isCurrent attack.attacker = true)
    (hvictim : next.isSeated attack.victim = true ∧ attack.victim ≠ attack.attacker) :
    AttackProtocol (events ++ [event]) .play next := by
  have hbalance := h.balance
  rw [hcalm] at hbalance
  refine ⟨?_, ?_, ?_, ?_, ?_⟩
  · simpa [List.filterMap_append, hreport, hreaction, hnext] using hbalance
  all_goals
    intro attack' hattack'
    cases hnext.symm.trans hattack'
  · rfl
  · exact hattacker
  · exact hvictim
  · simp [List.filterMap_append, hreport]

/-- A reaction to the attack that waits. -/
theorem reaction (h : AttackProtocol events phase state) {attack : PendingAttack}
    (hpending : state.pendingAttack = some attack) (hreport : event.report? = none)
    {victim : PlayerId} (hreaction : event.reaction? = some victim)
    (hnext : next.pendingAttack = none) : AttackProtocol (events ++ [event]) target next := by
  have hbalance := h.balance
  rw [hpending] at hbalance
  refine ⟨?_, ?_, ?_, ?_, ?_⟩
  · simpa [List.filterMap_append, hreport, hreaction, hnext] using hbalance
  all_goals simp [hnext]

/-- **An allowed event keeps to the protocol**, line by line of the rules. -/
theorem after (h : AttackProtocol events phase state)
    (hallows : Rules.Allows state phase event target) (drawCount : Nat) :
    AttackProtocol (events ++ [event]) target (state.after event drawCount) := by
  cases hallows with
  | @resolve origin via =>
    have hcalm := h.calm_of_ne_play nofun
    have halike := state.alike_resolveStumbling origin via drawCount
    exact h.calm hcalm rfl rfl (halike.attack.trans hcalm)
  | drawAtOnce | draw =>
    have hcalm := h.calm_of_ne_play nofun
    exact h.calm hcalm rfl rfl hcalm
  | @report origin victim bug current calm held other seated =>
    have halike := state.alike_discardFromHand origin (.bug bug)
    exact h.report calm rfl rfl rfl (halike.isCurrent.trans current)
      ⟨halike.isSeated.trans seated, other.symm⟩
  | excuse _ pending | hit _ pending => exact h.reaction pending rfl rfl rfl
  | @discard origin cards =>
    exact h.alike (state.alike_foldl_discardFromHand origin cards) rfl rfl
  | pass _ calm => exact h.calm calm rfl rfl rfl

end AttackProtocol

/-- A reaction is allowed only to the attack that waits, for its victim, and of the two players
involved. -/
theorem Rules.Allows.reaction (h : Rules.Allows state phase event target) {victim : PlayerId}
    (hreaction : event.reaction? = some victim) :
    ∃ attack, state.pendingAttack = some attack ∧ victim = attack.victim ∧
      (event.origin = attack.attacker ∨ event.origin = attack.victim) := by
  cases h with
  | excuse _ pending involved answers | hit _ pending involved answers =>
    cases hreaction
    exact ⟨_, pending, answers, involved⟩
  | _ => cases hreaction

/-- While an attack waits, the turn does not pass on, nobody draws and nothing else is reported. -/
theorem Rules.Allows.waits (h : Rules.Allows state phase event target)
    (hprotocol : AttackProtocol events phase state) (hpending : state.pendingAttack.isSome = true) :
    event.kind ≠ .nextTurn ∧ event.kind ≠ .drawCards ∧ event.kind ≠ .reportBug := by
  have hplay : phase = .play := by
    obtain ⟨attack, hattack⟩ := Option.isSome_iff_exists.mp hpending
    exact hprotocol.phase attack hattack
  subst hplay
  cases h with
  | report _ calm | pass _ calm => exact absurd hpending (by rw [calm]; nofun)
  | _ => exact ⟨nofun, nofun, nofun⟩

namespace Table

theorem attackProtocol_serveAll {config : TableConfig} {state : GameState} {table : Table}
    (hopened : opened config state = .ok table) (hcalm : state.pendingAttack = none)
    (errands : List Errand) :
    AttackProtocol (table.accepted errands) (table.serveAll errands).1.phase
      (table.serveAll errands).1.state := by
  have hrecords : Rules.Records config.drawCount AttackProtocol := by
    intro events state phase target event hallows hprotocol
    exact hprotocol.after hallows config.drawCount
  have hstart : AttackProtocol [] state.turn state := by
    constructor <;> simp [hcalm]
  exact (records_serveAll hopened hrecords hstart errands).holds

/-- **One report, one reaction.** Let a table be opened while nobody is attacked. After any errands,
so many more attacks have been reported than answered as one waits for an answer; and the one that
waits was reported last, it is the phase and the turn of its attacker, and its victim is somebody
else at the table. Whatever event is accepted then: a reaction names the victim of the attack that
waits and comes from the attacker or the victim, and while an attack waits the event does not pass
the turn on, draw cards or report a bug. At the gate, whenever nobody is inside, so it is with the
visitors who have been inside, one after another. -/
theorem one_reaction_per_report {config : TableConfig} {state : GameState} {table : Table}
    (hopened : opened config state = .ok table) (hcalm : state.pendingAttack = none) :
    (∀ errands : List Errand,
      let reports := (table.accepted errands).filterMap GameEvent.report?
      let reactions := (table.accepted errands).filterMap GameEvent.reaction?
      let after := (table.serveAll errands).1
      (reports.length : Int) - reactions.length =
        (if after.state.pendingAttack.isSome then 1 else 0) ∧
      (∀ attack, after.state.pendingAttack = some attack →
        after.phase = .play ∧ after.state.isCurrent attack.attacker = true ∧
        after.state.isSeated attack.attacker = true ∧ after.state.isSeated attack.victim = true ∧
        attack.victim ≠ attack.attacker ∧ reports.getLast? = some attack) ∧
      ∀ (errand : Errand) (event : GameEvent),
        errand.accepted? (after.serve errand).2 = some event →
        (∀ victim, event.reaction? = some victim →
          ∃ attack, after.state.pendingAttack = some attack ∧ victim = attack.victim ∧
            (event.origin = attack.attacker ∨ event.origin = attack.victim)) ∧
        (after.state.pendingAttack.isSome = true →
          event.kind ≠ .nextTurn ∧ event.kind ≠ .drawCards ∧ event.kind ≠ .reportBug)) ∧
    ∀ (ι : Type) [DecidableEq ι] (errand : ι → Errand) (labels : List (GateLabel ι))
      (gate : Gate ι), (Gate.opened table).run? errand labels = some gate → gate.holder = none →
        gate.table = (table.serveAll (gate.admitted.map errand)).1 ∧
        gate.accepted errand = table.accepted (gate.admitted.map errand) := by
  have hopen := isOpen_of_withEdges hopened
  have hrecords : Rules.Records config.drawCount AttackProtocol := by
    intro events state phase target event hallows hprotocol
    exact hprotocol.after hallows config.drawCount
  have hstart : AttackProtocol [] state.turn state := by
    constructor <;> simp [hcalm]
  constructor
  · intro errands reports reactions after
    have hruled := records_serveAll hopened hrecords hstart errands
    have hprotocol := hruled.holds
    refine ⟨?_, ?_, ?_⟩
    · have hbalance : reports.length = reactions.length + after.state.pendingAttack.toList.length :=
        hprotocol.balance
      have hwaiting : (after.state.pendingAttack.toList.length : Int) =
          if after.state.pendingAttack.isSome then 1 else 0 := by
        cases after.state.pendingAttack <;> rfl
      rw [← hwaiting]
      omega
    · intro attack hattack
      have hcurrent := hprotocol.attacker attack hattack
      obtain ⟨hvictim, hother⟩ := hprotocol.victim attack hattack
      exact ⟨hprotocol.phase attack hattack, hcurrent, GameState.isSeated_of_isCurrent hcurrent,
        hvictim, hother, hprotocol.latest attack hattack⟩
    · intro errand event haccepted
      obtain ⟨taken, htaken, htakes⟩ | ⟨hnone, -⟩ :=
        accepted?_serve (isOpen_serveAll hopen errands) errand
      · cases htaken.symm.trans haccepted
        have hallows := htakes.allows hruled.edges
        exact ⟨fun victim => hallows.reaction, hallows.waits hprotocol⟩
      · cases hnone.symm.trans haccepted
  · intro ι _ errand labels gate hrun hfree
    exact Gate.accepted_of_run? hopen.atRest hrun hfree

/-- The first player draws a bug and attacks the second one. -/
def assault : List Errand :=
  [.apply (.drawCards ⟨0⟩), .apply (.reportBug ⟨0⟩ ⟨1⟩ .systemHangs), .endTurn ⟨0⟩]

theorem one_reaction_per_report_duel :
    let after := (Gate.duel.serveAll assault).1
    after.state.pendingAttack = some ⟨⟨0⟩, ⟨1⟩, .systemHangs⟩ ∧
      ((Gate.duel.accepted assault).filterMap GameEvent.report?).getLast? =
        after.state.pendingAttack ∧
      (Errand.apply (.reactWithoutCard ⟨1⟩ ⟨1⟩)).accepted?
          (after.serve (.apply (.reactWithoutCard ⟨1⟩ ⟨1⟩))).2 =
        some (.reactWithoutCard ⟨1⟩ ⟨1⟩) := by
  have hopened : opened {} Gate.duel.state = .ok Gate.duel := rfl
  have hpending : (Gate.duel.serveAll assault).1.state.pendingAttack =
      some ⟨⟨0⟩, ⟨1⟩, .systemHangs⟩ := by rfl
  obtain ⟨-, hattack, -⟩ := (one_reaction_per_report hopened rfl).1 assault
  exact ⟨hpending, (hattack _ hpending).2.2.2.2.2.trans hpending.symm, rfl⟩

end Table

end RoundTable
