import RoundTable.Failure
import RoundTable.Proofs.Rules.Hands
import RoundTable.Proofs.Table.AttackProtocol

/-!
# Attacks and answers

In the phase of play, somebody whose turn it is attacks somebody else. Both may answer the attack,
the attacker on behalf of the victim; everybody else is in no position to do anything at the table.
While the attack waits, an answer is always accepted, and before and after that it never is.

## Main definitions

* `Errand.IsAnswer`: errands with which an attack is answered
* `Errand.Lapses`: errands of which nothing comes
* `GameEvent.Costs`: what an answer costs the victim
* `Table.Standoff`: the attacker's phase of play, with or without an attack that waits

## Main results

* `Table.Standoff.bystander`, `Table.Standoff.late`: what is refused
* `Table.Standoff.reported`, `Table.Standoff.answered`: what is accepted, and what it leads to
-/

namespace RoundTable

/-! ### Errands -/

/-- An errand with which the attack on a victim is answered, on behalf of `origin`. -/
inductive Errand.IsAnswer (origin victim : PlayerId) : Errand → Prop where
  | hit : IsAnswer origin victim (.apply (.reactWithoutCard origin victim))
  | card (card : Card) :
    IsAnswer origin victim
      (.applyOr (.reactWithCard origin victim card) (.reactWithoutCard origin victim))

theorem Errand.IsAnswer.reaction {origin victim : PlayerId} {errand : Errand}
    (h : errand.IsAnswer origin victim) :
    ∀ event ∈ errand.events, event.reaction? = some victim := by
  cases h <;> simp [Errand.events, GameEvent.reaction?]

/-- Nothing comes of an errand: the rules are against it, and so a player is told. -/
def Errand.Lapses (result : Except Refusal Finding) : Prop :=
  ∃ refusal, result = .error refusal ∧ Failure.ofRefusal refusal = .rejected refusal.message

/-- A refusal by the rules is no failure of the store. -/
theorem Table.ofRefusal_of_validate {table : Table} {event : GameEvent} {refusal : Refusal}
    (h : table.validate event = .error refusal) :
    Failure.ofRefusal refusal = .rejected refusal.message := by
  rw [Table.validate, Machine.validate] at h
  split at h
  · cases h
    rfl
  · split at h
    · cases h
    · cases h
      rfl

/-- Nothing comes of an errand of whose events none is allowed. -/
theorem Errand.Outcome.lapses {before after : Table} {errand : Errand}
    {result : Except Refusal Finding} (h : errand.Outcome before after result)
    (hnone : ∀ event ∈ errand.events, ∀ target, before.validate event ≠ .ok target) :
    Errand.Lapses result ∧ ∃ event refusal, before.Refuses event refusal after := by
  cases h with
  | applied takes | turnEnded takes =>
    exact absurd takes.valid (hnone _ (List.mem_singleton.mpr rfl) _)
  | preferred takes => exact absurd takes.valid (hnone _ List.mem_cons_self _)
  | fallback _ takes =>
    exact absurd takes.valid (hnone _ (List.mem_cons_of_mem _ (List.mem_singleton.mpr rfl)) _)
  | notApplied refuses | neither _ refuses | turnKept refuses =>
    exact ⟨⟨_, rfl, Table.ofRefusal_of_validate refuses.invalid⟩, _, _, refuses⟩

/-! ### What an answer costs -/

/-- An answer to an attack costs the victim an excuse, or a point of mental health if there is one
to lose, and nothing else. -/
inductive GameEvent.Costs (victim : PlayerId) : GameEvent → Player → Player → Prop where
  | excuse {origin : PlayerId} {card : Card} {player : Player} (kind : card.kind = .excuse)
    (held : card ∈ player.cards) :
    Costs victim (.reactWithCard origin victim card) player (player.give card)
  | health {origin : PlayerId} {player : Player} :
    Costs victim (.reactWithoutCard origin victim) player player.loseHealth

/-- An answer that is allowed has its price. -/
theorem Rules.Allows.costs {state : GameState} {phase target : Turn} {event : GameEvent}
    (h : Rules.Allows state phase event target) {victim : PlayerId}
    (hreaction : event.reaction? = some victim) {player : Player}
    (hplayer : state.player? victim = some player) (drawCount : Nat) :
    ∃ player', (state.after event drawCount).player? victim = some player' ∧
      event.Costs victim player player' := by
  cases h with
  | @excuse origin _ card _ _ _ _ _ kind held =>
    cases hreaction
    obtain ⟨holder, hholder, hheld⟩ := held
    cases hholder.symm.trans hplayer
    refine ⟨player.give card, ?_, .excuse kind hheld⟩
    refine (state.player?_discardFromHand victim card victim).trans ?_
    rw [hplayer]
    simp
  | hit =>
    cases hreaction
    refine ⟨player.loseHealth, ?_, .health⟩
    refine (state.player?_loseHealth victim victim).trans ?_
    rw [hplayer]
    simp
  | _ => cases hreaction

namespace Table

/-! ### Standoffs -/

/-- It is the attacker's phase of play, the victim sits at the table too, and no attack waits for an
answer but the one with the given bug, if there is one. -/
structure Standoff (attacker victim : PlayerId) (bug? : Option BugReport) (table : Table) :
    Prop where
  isOpen : table.IsOpen
  edges : table.machine.table = Rules.turnTable
  phase : table.phase = .play
  current : table.state.isCurrent attacker = true
  seated : table.state.isSeated victim = true
  pending : table.state.pendingAttack = bug?.map fun bug => ⟨attacker, victim, bug⟩

namespace Standoff

variable {attacker victim origin : PlayerId} {bug? : Option BugReport} {bug : BugReport}
  {table after : Table} {event : GameEvent} {target : Turn} {errand : Errand}
  {result : Except Refusal Finding}

theorem validate_eq_ok_iff (h : table.Standoff attacker victim bug?) :
    table.validate event = .ok target ↔ Rules.Allows table.state .play event target :=
  h.phase ▸ Rules.validate_eq_ok_iff h.edges

theorem eq_attacker (h : table.Standoff attacker victim bug?) {id : PlayerId}
    (hcurrent : table.state.isCurrent id = true) : id = attacker :=
  GameState.eq_of_isCurrent hcurrent h.current

theorem outcome (h : table.Standoff attacker victim bug?)
    (hserve : table.serve errand = (after, result)) : errand.Outcome table after result := by
  have houtcome := outcome_serve h.isOpen errand
  rwa [hserve] at houtcome

theorem isOpen_serve (h : table.Standoff attacker victim bug?)
    (hserve : table.serve errand = (after, result)) : after.IsOpen := by
  have hopen := Table.isOpen_serve h.isOpen errand
  rwa [hserve] at hopen

/-! ### What is refused -/

/-- Nothing comes of an errand of whose events none is allowed, and the standoff goes on. -/
theorem lapses (h : table.Standoff attacker victim bug?)
    (hserve : table.serve errand = (after, result))
    (hnone : ∀ event ∈ errand.events, ∀ target, ¬Rules.Allows table.state .play event target) :
    Errand.Lapses result ∧ after.Standoff attacker victim bug? ∧ after.state = table.state := by
  obtain ⟨hlapses, event, refusal, hrefuses⟩ := (h.outcome hserve).lapses
    fun event hevent target hvalid => hnone event hevent target (h.validate_eq_ok_iff.mp hvalid)
  have hstate := hrefuses.state
  exact ⟨hlapses, ⟨h.isOpen_serve hserve, hrefuses.table.trans h.edges,
    hrefuses.phase.trans h.phase, hstate ▸ h.current, hstate ▸ h.seated, hstate ▸ h.pending⟩,
    hstate⟩

/-- Bystanders can do nothing. -/
theorem bystander (h : table.Standoff attacker victim bug?)
    (hserve : table.serve errand = (after, result))
    (hothers : ∀ event ∈ errand.events, event.origin ≠ attacker ∧ event.origin ≠ victim) :
    Errand.Lapses result ∧ after.Standoff attacker victim bug? ∧ after.state = table.state := by
  refine h.lapses hserve fun event hevent target hallows => ?_
  obtain ⟨hattacker, hvictim⟩ := hothers event hevent
  cases hallows with
  | report current | discard current | pass current => exact hattacker (h.eq_attacker current)
  | excuse _ pending involved | hit _ pending involved =>
    rw [h.pending] at pending
    obtain ⟨bug, -, rfl⟩ := Option.map_eq_some_iff.mp pending
    exact involved.elim hattacker hvictim

/-- Where no attack waits, there is nothing to answer. -/
theorem late (h : table.Standoff attacker victim none)
    (hserve : table.serve errand = (after, result)) (hanswer : errand.IsAnswer origin victim) :
    Errand.Lapses result ∧ after.Standoff attacker victim none ∧ after.state = table.state := by
  refine h.lapses hserve fun event hevent target hallows => ?_
  obtain ⟨attack, hpending, -⟩ := hallows.reaction (hanswer.reaction event hevent)
  cases h.pending.symm.trans hpending

/-! ### What is accepted -/

/-- A bug is reported, and waits for an answer. -/
theorem reported (h : table.Standoff attacker victim none) {found : Finding}
    (hserve : table.serve (.apply (.reportBug attacker victim bug)) = (after, .ok found)) :
    after.Standoff attacker victim (some bug) ∧ attacker ≠ victim ∧
      after.state.player? victim = table.state.player? victim := by
  cases h.outcome hserve with
  | applied takes =>
    have hvalid := takes.valid
    rw [h.validate_eq_ok_iff] at hvalid
    have halike := table.state.alike_discardFromHand attacker (.bug bug)
    generalize hphase : after.phase = phase at hvalid
    cases hvalid with
    | report _ _ _ other =>
      refine ⟨⟨h.isOpen_serve hserve, takes.table.trans h.edges, hphase, ?_, ?_, ?_⟩, other, ?_⟩
      · rw [takes.state]
        exact halike.isCurrent.trans h.current
      · rw [takes.state]
        exact halike.isSeated.trans h.seated
      · rw [takes.state]
        rfl
      · rw [takes.state]
        refine (table.state.player?_discardFromHand attacker (.bug bug) victim).trans ?_
        simp [other.symm]

/-- A reaction ends the attack. -/
theorem reacted (h : table.Standoff attacker victim (some bug))
    (hserve : table.serve errand = (after, result)) (htakes : table.Takes event after)
    (hreaction : event.reaction? = some victim) :
    after.Standoff attacker victim none ∧ ∀ player, table.state.player? victim = some player →
      ∃ player', after.state.player? victim = some player' ∧ event.Costs victim player player' := by
  have hallows := h.validate_eq_ok_iff.mp htakes.valid
  generalize hphase : after.phase = phase at hallows
  have hafter : phase = .play ∧ after.state.isCurrent attacker = true ∧
      after.state.isSeated victim = true ∧ after.state.pendingAttack = none := by
    rw [htakes.state]
    cases hallows with
    | @excuse _ victim' card =>
      have halike := table.state.alike_discardFromHand victim' card
      exact ⟨rfl, halike.isCurrent.trans h.current, halike.isSeated.trans h.seated, rfl⟩
    | @hit _ victim' =>
      have halike := table.state.alike_loseHealth victim'
      exact ⟨rfl, halike.isCurrent.trans h.current, halike.isSeated.trans h.seated, rfl⟩
    | _ => cases hreaction
  obtain ⟨hplay, hcurrent, hseated, hcalm⟩ := hafter
  refine ⟨⟨h.isOpen_serve hserve, htakes.table.trans h.edges, hphase.trans hplay, hcurrent, hseated,
    hcalm⟩, fun player hplayer => ?_⟩
  rw [htakes.state]
  exact hallows.costs hreaction hplayer _

/-- **An answer to the attack that waits is accepted**, and ends the attack. -/
theorem answered (h : table.Standoff attacker victim (some bug))
    (hserve : table.serve errand = (after, result)) (hanswer : errand.IsAnswer origin victim)
    (hinvolved : origin = attacker ∨ origin = victim) :
    ∃ found event, result = .ok found ∧ errand.accepted? result = some event ∧
      event.reaction? = some victim ∧ after.Standoff attacker victim none ∧
      ∀ player, table.state.player? victim = some player →
        ∃ player', after.state.player? victim = some player' ∧
          event.Costs victim player player' := by
  have hseated : table.state.isSeated origin = true := by
    obtain rfl | rfl := hinvolved
    · exact GameState.isSeated_of_isCurrent h.current
    · exact h.seated
  have hvalid : table.validate (.reactWithoutCard origin victim) = .ok .play :=
    h.validate_eq_ok_iff.mpr (.hit hseated h.pending hinvolved rfl)
  have houtcome := h.outcome hserve
  cases hanswer with
  | hit =>
    cases houtcome with
    | applied takes => exact ⟨_, _, rfl, rfl, rfl, h.reacted hserve takes rfl⟩
    | notApplied refuses => cases hvalid.symm.trans refuses.invalid
  | card card =>
    cases houtcome with
    | preferred takes => exact ⟨_, _, rfl, rfl, rfl, h.reacted hserve takes rfl⟩
    | fallback _ takes => exact ⟨_, _, rfl, rfl, rfl, h.reacted hserve takes rfl⟩
    | neither _ refuses => cases hvalid.symm.trans refuses.invalid

end Standoff

end Table

end RoundTable
