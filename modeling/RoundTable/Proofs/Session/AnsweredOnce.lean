import RoundTable.Proofs.Session.Arrivals
import RoundTable.Proofs.Table.Standoff

/-!
# Attacks that are answered once

While the walk of an attack waits for what the victim answers, the victim may have the server defend
against the attack, any number of times, and other players may want things too. In whatever order
all this gets to the table, one answer is the first after the report of the attack. It is accepted
and ends the attack, and all the others come too early or too late.

## Main definitions

* `Errand.Contends`: what gets to the table while an attack is reported and answered
* `Table.Deals`: errands of tasks, one after another, with their results
* `Routine.AttackEnds`, `Routine.DefenceEnds`: what the walks of attacks and defences do at the
  table, and what comes of them
* `Chronicle.IsRace`, `Session.Races`: races to answer an attack, and the walks that take part

## Main results

* `Table.Standoff.dealt`: one answer is accepted, and no other
* `Session.attack_answered_once`: one walk has succeeded, and the others have been refused
-/

namespace RoundTable

/-! ### At the table -/

/-- An errand with which one of the two players involved answers the attack. -/
def Errand.Settles (attacker victim : PlayerId) (errand : Errand) : Prop :=
  ∃ origin, (origin = attacker ∨ origin = victim) ∧ errand.IsAnswer origin victim

/-- An errand of bystanders, or an answer to the attack. -/
def Errand.Contends (attacker victim : PlayerId) (errand : Errand) : Prop :=
  (∀ event ∈ errand.events, event.origin ≠ attacker ∧ event.origin ≠ victim) ∨
    errand.Settles attacker victim

theorem Errand.accepted?_of_lapses {errand : Errand} {result : Except Refusal Finding}
    (h : Errand.Lapses result) : errand.accepted? result = none := by
  obtain ⟨refusal, rfl, -⟩ := h
  cases errand <;> rfl

theorem Errand.mem_events_of_accepted? {errand : Errand} {result : Except Refusal Finding}
    {event : GameEvent} (h : errand.accepted? result = some event) : event ∈ errand.events := by
  unfold Errand.accepted? at h
  split at h
  case h_1 | h_3 =>
    cases h
    exact List.mem_singleton.mpr rfl
  case h_2 fits =>
    cases h
    cases fits <;> simp [Errand.events]
  case h_4 => cases h

namespace Table

/-- Errands of tasks are done one after another, and have the results that are told of them. -/
def Deals (table : Table) (dealings : List Dealing) (after : Table) : Prop :=
  table.serveAll (dealings.map Dealing.errand) = (after, dealings.map Dealing.result)

variable {table after : Table} {dealing : Dealing} {dealings later : List Dealing}

theorem Deals.of_cons (h : table.Deals (dealing :: dealings) after) :
    ∃ middle, table.serve dealing.errand = (middle, dealing.result) ∧
      middle.Deals dealings after := by
  simp only [Deals, List.map_cons, serveAll, Prod.mk.injEq, List.cons.injEq] at h ⊢
  obtain ⟨hafter, hresult, hresults⟩ := h
  exact ⟨_, Prod.ext rfl hresult, Prod.ext hafter hresults⟩

theorem Deals.of_append (h : table.Deals (dealings ++ later) after) :
    ∃ middle, table.Deals dealings middle ∧ middle.Deals later after := by
  induction dealings generalizing table with
  | nil => exact ⟨table, rfl, h⟩
  | cons dealing dealings ih =>
    obtain ⟨next, hserve, hrest⟩ := h.of_cons
    obtain ⟨middle, hdealings, hlater⟩ := ih hrest
    refine ⟨middle, ?_, hlater⟩
    simp only [Deals] at hdealings
    simp only [Deals, List.map_cons, serveAll, hserve, hdealings]

namespace Standoff

variable {attacker victim : PlayerId} {bug : BugReport}

/-- **No attack waits, and nothing is accepted.** -/
theorem dealt_calm (h : table.Standoff attacker victim none) (hdeals : table.Deals dealings after)
    (hall : ∀ dealing ∈ dealings, dealing.errand.Contends attacker victim) :
    after.Standoff attacker victim none ∧ after.state = table.state ∧
      ∀ dealing ∈ dealings, Errand.Lapses dealing.result := by
  induction dealings generalizing table with
  | nil =>
    cases hdeals
    exact ⟨h, rfl, fun _ hmem => absurd hmem List.not_mem_nil⟩
  | cons dealing dealings ih =>
    obtain ⟨middle, hserve, hrest⟩ := hdeals.of_cons
    have hlapses : Errand.Lapses dealing.result ∧ middle.Standoff attacker victim none ∧
        middle.state = table.state := by
      obtain hothers | ⟨origin, -, hanswer⟩ := hall dealing List.mem_cons_self
      · exact h.bystander hserve hothers
      · exact h.late hserve hanswer
    obtain ⟨hfirst, hmiddle, hstate⟩ := hlapses
    obtain ⟨hafter, hsame, hothers⟩ :=
      ih hmiddle hrest fun other hother => hall other (List.mem_cons_of_mem _ hother)
    exact ⟨hafter, hsame.trans hstate, List.forall_mem_cons.mpr ⟨hfirst, hothers⟩⟩

/-- **An attack waits, and one answer is accepted**, the first one. -/
theorem dealt_attacked (h : table.Standoff attacker victim (some bug))
    (hdeals : table.Deals dealings after)
    (hall : ∀ dealing ∈ dealings, dealing.errand.Contends attacker victim)
    (hsome : ∃ dealing ∈ dealings, dealing.errand.Settles attacker victim) :
    ∃ early winner late event, dealings = early ++ winner :: late ∧
      winner.errand.Settles attacker victim ∧ (∃ found, winner.result = .ok found) ∧
      winner.errand.accepted? winner.result = some event ∧ event.reaction? = some victim ∧
      (∀ dealing ∈ early ++ late, Errand.Lapses dealing.result) ∧
      after.Standoff attacker victim none ∧
      ∀ player, table.state.player? victim = some player →
        ∃ player', after.state.player? victim = some player' ∧
          event.Costs victim player player' := by
  induction dealings generalizing table with
  | nil =>
    obtain ⟨_, hmem, -⟩ := hsome
    cases hmem
  | cons dealing dealings ih =>
    obtain ⟨middle, hserve, hrest⟩ := hdeals.of_cons
    have hallRest (other : Dealing) (hother : other ∈ dealings) :
        other.errand.Contends attacker victim := hall other (List.mem_cons_of_mem _ hother)
    by_cases hsettles : dealing.errand.Settles attacker victim
    · obtain ⟨origin, hinvolved, hanswer⟩ := hsettles
      obtain ⟨found, event, hresult, haccepted, hreaction, hmiddle, hcosts⟩ :=
        h.answered hserve hanswer hinvolved
      obtain ⟨hafter, hstate, hlate⟩ := hmiddle.dealt_calm hrest hallRest
      refine ⟨[], dealing, dealings, event, rfl, ⟨origin, hinvolved, hanswer⟩, ⟨found, hresult⟩,
        haccepted, hreaction, hlate, hafter, ?_⟩
      rw [hstate]
      exact hcosts
    · have hothers := (hall dealing List.mem_cons_self).resolve_right hsettles
      obtain ⟨hfirst, hmiddle, hstate⟩ := h.bystander hserve hothers
      have hlater : ∃ other ∈ dealings, other.errand.Settles attacker victim := by
        obtain ⟨other, hother, hsettles'⟩ := hsome
        obtain rfl | hother := List.mem_cons.mp hother
        · exact absurd hsettles' hsettles
        · exact ⟨other, hother, hsettles'⟩
      obtain ⟨early, winner, late, event, rfl, hwins, hfound, haccepted, hreaction, hlapses, hafter,
        hcosts⟩ := ih hmiddle hrest hallRest hlater
      rw [hstate] at hcosts
      exact ⟨dealing :: early, winner, late, event, rfl, hwins, hfound, haccepted, hreaction,
        List.forall_mem_cons.mpr ⟨hfirst, hlapses⟩, hafter, hcosts⟩

/-- **An attack is reported and answered once**, and nothing else is accepted. -/
theorem dealt (h : table.Standoff attacker victim none) {before later : List Dealing}
    {report : Dealing} (hdeals : table.Deals (before ++ report :: later) after)
    (hreport : report.errand = .apply (.reportBug attacker victim bug)) {found : Finding}
    (hfound : report.result = .ok found)
    (hall : ∀ dealing ∈ before ++ later, dealing.errand.Contends attacker victim)
    (hsome : ∃ dealing ∈ later, dealing.errand.Settles attacker victim) :
    ∃ winner ∈ later, ∃ event, winner.errand.Settles attacker victim ∧
      (∃ found, winner.result = .ok found) ∧
      ((before ++ report :: later).filterMap fun dealing =>
        dealing.errand.accepted? dealing.result) = [.reportBug attacker victim bug, event] ∧
      event.reaction? = some victim ∧
      (∀ dealing ∈ before ++ later, dealing ≠ winner → Errand.Lapses dealing.result) ∧
      after.Standoff attacker victim none ∧
      ∀ player, table.state.player? victim = some player →
        ∃ player', after.state.player? victim = some player' ∧
          event.Costs victim player player' := by
  obtain ⟨calm, hcalm, hrest⟩ := hdeals.of_append
  obtain ⟨attacked, hserve, hlater⟩ := hrest.of_cons
  obtain ⟨hstandoff, hsame, hbefore⟩ := h.dealt_calm hcalm fun dealing hmem =>
    hall dealing (List.mem_append_left _ hmem)
  rw [hreport, hfound] at hserve
  obtain ⟨hreported, -, hplayer⟩ := hstandoff.reported hserve
  obtain ⟨early, winner, late, event, rfl, hwins, hok, haccepted, hreaction, hlapses, hafter,
    hcosts⟩ := hreported.dealt_attacked hlater
      (fun dealing hmem => hall dealing (List.mem_append_right _ hmem)) hsome
  have hnone {dealings : List Dealing}
      (hlapse : ∀ dealing ∈ dealings, Errand.Lapses dealing.result) :
      (dealings.filterMap fun dealing => dealing.errand.accepted? dealing.result) = [] :=
    List.filterMap_eq_nil_iff.mpr fun dealing hmem =>
      Errand.accepted?_of_lapses (hlapse dealing hmem)
  rw [List.forall_mem_append] at hlapses
  refine ⟨winner, List.mem_append_right _ List.mem_cons_self, event, hwins, hok, ?_, hreaction,
    fun dealing hmem hne => ?_, hafter, fun player hplayer' => ?_⟩
  · rw [List.filterMap_append, hnone hbefore, List.filterMap_cons, hreport, hfound,
      List.filterMap_append, hnone hlapses.1, List.filterMap_cons, haccepted, hnone hlapses.2]
    rfl
  · obtain hmem | hmem := List.mem_append.mp hmem
    · exact hbefore dealing hmem
    · obtain hmem | hmem := List.mem_append.mp hmem
      · exact hlapses.1 dealing hmem
      · obtain rfl | hmem := List.mem_cons.mp hmem
        · exact absurd rfl hne
        · exact hlapses.2 dealing hmem
  · refine hcosts player ?_
    rw [hplayer, hsame]
    exact hplayer'

end Standoff

end Table

namespace Routine

/-! ### Walks of attacks and defences -/

/-- What an attack or a defence comes to, if its answer has had a result at the table. -/
def ComesOf (found : Except Refusal Finding) (result : Except Failure Outcome) : Prop :=
  match found with
  | .ok _ => ∃ outcome, result = .ok outcome
  | .error refusal => result = .error (.ofRefusal refusal)

theorem ComesOf.map {found : Except Refusal Finding} {result : Except Failure Outcome}
    (h : ComesOf found result) (change : Outcome → Outcome) :
    ComesOf found (result.map change) := by
  cases found with
  | ok =>
    obtain ⟨outcome, rfl⟩ := h
    exact ⟨change outcome, rfl⟩
  | error refusal =>
    cases h
    rfl

/-- What the walk of an attack has done at the table, and what the attack has come to: the report is
refused, the victim cannot be asked, or the attack is answered. -/
inductive AttackEnds (attacker victim : PlayerId) (bug : BugReport) :
    List (Errand × Except Refusal Finding) → Except Failure Outcome → Prop where
  | refused {refusal : Refusal} :
    AttackEnds attacker victim bug [(.apply (.reportBug attacker victim bug), .error refusal)]
      (.error (.ofRefusal refusal))
  | broken {found : Finding} {failure : Failure} (fatal : failure.isFatal = true) :
    AttackEnds attacker victim bug [(.apply (.reportBug attacker victim bug), .ok found)]
      (.error failure)
  | answered {found : Finding} {errand : Errand} {found' : Except Refusal Finding}
    {result : Except Failure Outcome} (answer : errand.IsAnswer attacker victim)
    (comes : ComesOf found' result) :
    AttackEnds attacker victim bug
      [(.apply (.reportBug attacker victim bug), .ok found), (errand, found')] result

/-- What the walk of a defence has done at the table, and what the defence has come to: there was
nothing to answer, or the attack is answered. -/
inductive DefenceEnds (victim : PlayerId) :
    List (Errand × Except Refusal Finding) → Except Failure Outcome → Prop where
  | calm {reason : String} : DefenceEnds victim [] (.error (.rejected reason))
  | answered {errand : Errand} {found : Except Refusal Finding} {result : Except Failure Outcome}
    (answer : errand.IsAnswer victim victim) (comes : ComesOf found result) :
    DefenceEnds victim [(errand, found)] result

variable {origin victim : PlayerId} {told : List Exchange}

/-- The end of an attack is one answer at the table. -/
theorem Settled.dealt {defence : Option Card} {result : Except Failure Outcome}
    (h : Settled origin victim defence told result) :
    ∃ errand found, errand.IsAnswer origin victim ∧
      told.filterMap Exchange.dealing? = [(errand, found)] ∧ ComesOf found result := by
  cases h with
  | hit h =>
    cases h with
    | taken => exact ⟨_, _, .hit, rfl, _, rfl⟩
    | refused => exact ⟨_, _, .hit, rfl, rfl⟩
  | answered h =>
    cases h with
    | taken => exact ⟨_, _, .card _, rfl, _, rfl⟩
    | refused => exact ⟨_, _, .card _, rfl, rfl⟩

/-- To ask a participant is to do nothing at the table. -/
theorem Asked.dealt {id : PlayerId} {request : Request} {answer : Except Failure request.Answer}
    (h : Asked id request told answer) : told.filterMap Exchange.dealing? = [] := by
  cases h with
  | unlinked => rfl
  | called hcalled => cases hcalled <;> rfl

theorem attempts_attack {participant : Participant Routine} {bug : BugReport} :
    Attempts (fun _ _ => True)
      (fun past result => AttackEnds origin victim bug (past.filterMap Exchange.dealing?) result) []
      ((Authority.atTable access origin).beside participant (.attackPlayer victim bug)) := by
  have hlenient : Lenient fun _ _ => True := fun _ _ _ => trivial
  refine Attempts.bind (attempts_send hlenient trivial fun told answer hsent => ?_)
  cases hsent with
  | refused => exact .refused
  | taken =>
    refine Attempts.bind (attempts_askVictim hlenient fun told answer hasked => ?_)
    have hnothing := hasked.dealt
    cases hheard : heard answer with
    | error failure =>
      have hfatal : failure.isFatal = true := by
        cases answer with
        | ok card => cases hheard
        | error failure' =>
          rw [heard] at hheard
          split at hheard <;> cases hheard
          assumption
      rw [List.filterMap_append, hnothing]
      exact .broken hfatal
    | ok defence =>
      refine attempts_settleAttack hlenient (fun _ => trivial) (fun _ _ => trivial)
        fun told' answer hsettled => ?_
      obtain ⟨errand, found, hanswer, hdealt, hcomes⟩ := hsettled.dealt
      rw [List.filterMap_append, List.filterMap_append, hnothing, hdealt]
      exact .answered hanswer hcomes

theorem attempts_defence {participant : Participant Routine} {defence : Option Card} :
    Attempts (fun _ _ => True)
      (fun past result => DefenceEnds origin (past.filterMap Exchange.dealing?) result) []
      ((Authority.atTable access origin).beside participant (.defendAttack defence)) := by
  have hlenient : Lenient fun _ _ => True := fun _ _ _ => trivial
  refine attempts_observe trivial fun state => ?_
  split
  · refine Attempts.bind (attempts_settleAttack hlenient (fun _ => trivial) (fun _ _ => trivial)
      fun told answer hsettled => ?_)
    obtain ⟨errand, found, hanswer, hdealt, hcomes⟩ := hsettled.dealt
    have hends : DefenceEnds origin
        (([] ++ [⟨.observe, state⟩] ++ told : List Exchange).filterMap Exchange.dealing?)
        (answer.map Outcome.opposite) := by
      rw [List.filterMap_append, hdealt]
      exact .answered hanswer (hcomes.map .opposite)
    cases answer with
    | ok outcome => exact attempts_pure hends
    | error failure => exact hends
  · exact attempts_throw .calm

end Routine

/-! ### Walks that race -/

/-- What a walk that races to answer an attack has come to, with all that it has done at the table:
it has come to what its answer has come to, or it had nothing to answer and has been refused. -/
inductive Raced (attacker victim : PlayerId) (dealings : List Dealing) :
    Except Failure Outcome → Prop where
  | answered {dealing : Dealing} {result : Except Failure Outcome} (mem : dealing ∈ dealings)
    (settles : dealing.errand.Settles attacker victim)
    (comes : Routine.ComesOf dealing.result result)
    (only : ∀ other ∈ dealings, other.errand.Settles attacker victim → other = dealing) :
    Raced attacker victim dealings result
  | calm {reason : String}
    (none : ∀ other ∈ dealings, ¬other.errand.Settles attacker victim) :
    Raced attacker victim dealings (.error (.rejected reason))

theorem Errand.Settles.ne_report {attacker victim : PlayerId} {errand : Errand}
    (h : errand.Settles attacker victim) (bug : BugReport) :
    errand ≠ .apply (.reportBug attacker victim bug) := by
  obtain ⟨origin, -, hanswer⟩ := h
  cases hanswer <;> nofun

namespace Routine

variable {attacker victim : PlayerId} {bug : BugReport} {dealings : List Dealing}
  {result : Except Failure Outcome}

/-- A defence answers the attack once at most. -/
theorem DefenceEnds.raced (h : DefenceEnds victim (dealings.map Dealing.pair) result) :
    (∀ dealing ∈ dealings, dealing.errand.Settles attacker victim) ∧
      Raced attacker victim dealings result := by
  generalize hpairs : dealings.map Dealing.pair = pairs at h
  cases h with
  | calm =>
    rw [List.map_eq_nil_iff.mp hpairs]
    exact ⟨fun _ h => absurd h List.not_mem_nil, .calm fun _ h => absurd h List.not_mem_nil⟩
  | answered answer comes =>
    obtain ⟨dealing, rfl, hpair⟩ := List.map_eq_singleton_iff.mp hpairs
    cases hpair
    have hsettles : dealing.errand.Settles attacker victim := ⟨victim, .inr rfl, answer⟩
    refine ⟨fun other hother => ?_, .answered (List.mem_singleton.mpr rfl) hsettles comes
      fun other hother _ => List.mem_singleton.mp hother⟩
    rw [List.mem_singleton.mp hother]
    exact hsettles

/-- An attack whose report has been accepted, and that has not failed badly, is answered once. -/
theorem AttackEnds.raced (h : AttackEnds attacker victim bug (dealings.map Dealing.pair) result)
    (hfatal : ∀ failure, result = .error failure → failure.isFatal = false) {report : Dealing}
    (hmem : report ∈ dealings)
    (haccepted : report.errand.accepted? report.result = some (.reportBug attacker victim bug)) :
    ∃ found answer, dealings = [report, answer] ∧
      report.errand = .apply (.reportBug attacker victim bug) ∧ report.result = .ok found ∧
      answer.errand.Settles attacker victim ∧ Raced attacker victim dealings result := by
  generalize hpairs : dealings.map Dealing.pair = pairs at h
  cases h with
  | refused =>
    obtain ⟨dealing, rfl, hpair⟩ := List.map_eq_singleton_iff.mp hpairs
    cases List.mem_singleton.mp hmem
    obtain ⟨herrand, hresult⟩ := Prod.mk.inj hpair
    rw [herrand, hresult] at haccepted
    cases haccepted
  | broken fatal => cases fatal.symm.trans (hfatal _ rfl)
  | @answered found errand found' _ answer comes =>
    obtain ⟨first, rest, rfl, hfirst, hrest⟩ := List.map_eq_cons_iff.mp hpairs
    obtain ⟨second, rfl, hsecond⟩ := List.map_eq_singleton_iff.mp hrest
    obtain ⟨herrand, hresult⟩ := Prod.mk.inj hfirst
    cases hsecond
    have hsettles : second.errand.Settles attacker victim := ⟨attacker, .inl rfl, answer⟩
    have hreport : report = first := by
      obtain rfl | hmem := List.mem_cons.mp hmem
      · rfl
      · rw [List.mem_singleton.mp hmem] at haccepted
        have hevent := answer.reaction _ (Errand.mem_events_of_accepted? haccepted)
        cases hevent
    subst hreport
    have hmem' : second ∈ [report, second] :=
      List.mem_cons_of_mem _ (List.mem_singleton.mpr rfl)
    refine ⟨found, second, rfl, herrand, hresult, hsettles, .answered hmem' hsettles comes
      fun other hother hanswers => ?_⟩
    obtain rfl | hother := List.mem_cons.mp hother
    · exact absurd herrand (hanswers.ne_report bug)
    · exact List.mem_singleton.mp hother

end Routine

/-! ### Sessions -/

/-- The events that tasks have had accepted, in order. -/
def Chronicle.accepted {ρ : Type} (chronicle : Chronicle ρ) : List GameEvent :=
  chronicle.dealings.filterMap fun dealing => dealing.errand.accepted? dealing.result

/-- An answer comes from the one on whose behalf it is given. -/
theorem Errand.IsAnswer.eq_of_origin {origin victim id : PlayerId} {errand : Errand}
    (h : errand.IsAnswer origin victim) (hall : ∀ event ∈ errand.events, event.origin = id) :
    id = origin := by
  cases h <;> exact (hall _ List.mem_cons_self).symm

/-- The walk that has had the accepted answer has succeeded. -/
theorem Raced.won {attacker victim : PlayerId} {dealings : List Dealing}
    {result : Except Failure Outcome} (h : Raced attacker victim dealings result) {winner : Dealing}
    (hmem : winner ∈ dealings) (hsettles : winner.errand.Settles attacker victim)
    {found : Finding} (hfound : winner.result = .ok found) : ∃ outcome, result = .ok outcome := by
  cases h with
  | answered _ _ comes only =>
    rw [← only winner hmem hsettles, hfound] at comes
    exact comes
  | calm none => exact absurd hsettles (none winner hmem)

/-- A walk of whose answers nothing has come has been refused. -/
theorem Raced.lost {attacker victim : PlayerId} {dealings : List Dealing}
    {result : Except Failure Outcome} (h : Raced attacker victim dealings result)
    (hlapses : ∀ dealing ∈ dealings, dealing.errand.Settles attacker victim →
      Errand.Lapses dealing.result) : ∃ reason, result = .error (.rejected reason) := by
  cases h with
  | answered mem settles comes =>
    obtain ⟨refusal, hrefusal, hrejected⟩ := hlapses _ mem settles
    rw [hrefusal] at comes
    exact ⟨refusal.message, hrejected ▸ comes⟩
  | calm => exact ⟨_, rfl⟩

/-- The attacker has asked for one attack, whose report has been accepted, and the victim for
defences, whatever others have asked for. -/
structure Chronicle.IsRace {ρ : Type} (chronicle : Chronicle ρ) (attacker victim : PlayerId)
    (bug : BugReport) (walk : Nat) : Prop where
  attack : (chronicle.arrivals.filter fun arrival => arrival.player = attacker) =
    [⟨attacker, .attackPlayer victim bug, walk⟩]
  defences : ∀ arrival ∈ chronicle.arrivals, arrival.player = victim →
    ∃ defence, arrival.action = .defendAttack defence
  reported : .reportBug attacker victim bug ∈ chronicle.accepted

namespace Chronicle.IsRace

variable {ρ : Type} {chronicle : Chronicle ρ} {attacker victim : PlayerId} {bug : BugReport}
  {walk : Nat}

theorem mem (h : chronicle.IsRace attacker victim bug walk) :
    ⟨attacker, .attackPlayer victim bug, walk⟩ ∈ chronicle.arrivals :=
  List.mem_of_mem_filter (h.attack ▸ List.mem_singleton.mpr rfl)

theorem only (h : chronicle.IsRace attacker victim bug walk) {arrival : Arrival}
    (hmem : arrival ∈ chronicle.arrivals) (hplayer : arrival.player = attacker) :
    arrival = ⟨attacker, .attackPlayer victim bug, walk⟩ :=
  List.mem_singleton.mp (h.attack ▸ List.mem_filter.mpr ⟨hmem, decide_eq_true hplayer⟩)

end Chronicle.IsRace

namespace Session

variable {ρ : Type} {after : Session ρ} {chronicle : Chronicle ρ} {table : Table}
  {execute? : Party → Option (Executor Routine)} {attacker victim : PlayerId} {bug : BugReport}
  {walk : Nat}

/-- What a walk that races has done at the table, and what it has sent back. -/
def Races (chronicle : Chronicle ρ) (attacker victim : PlayerId) (walk : Nat) : Prop :=
  ∃ result,
    Raced attacker victim (chronicle.dealings.filter fun dealing => dealing.task = walk) result ∧
      chronicle.reply? walk = some (delivered (result.map Reply.outcome))

/-- The walk of a defence races. -/
theorem Chronicled.defended (h : after.Chronicled table execute? chronicle)
    (hhosted : Hosted Routine.SparesTable execute? chronicle)
    (hrace : chronicle.IsRace attacker victim bug walk) (hwilling : after.IsWilling .server)
    {arrival : Arrival} (hmem : arrival ∈ chronicle.arrivals) (hplayer : arrival.player = victim)
    (hdone : ∀ task ∈ after.tasks, task.id ≠ arrival.walk) :
    Races chronicle attacker victim arrival.walk ∧ ∀ dealing ∈ chronicle.dealings,
      dealing.task = arrival.walk → dealing.errand.Settles attacker victim := by
  obtain ⟨defence, haction⟩ := hrace.defences arrival hmem hplayer
  obtain ⟨player, action, number⟩ := arrival
  subst hplayer haction
  obtain ⟨past, result, hends, -, hdealings, hreply⟩ :=
    h.walked hhosted hmem hdone hwilling Routine.attempts_defence
  rw [← hdealings] at hends
  obtain ⟨hsettle, hraced⟩ := hends.raced
  exact ⟨⟨result, hraced, hreply⟩, fun dealing hdealing hwalk =>
    hsettle dealing (List.mem_filter.mpr ⟨hdealing, decide_eq_true hwalk⟩)⟩

/-- The walk of the attack races, from the report of the attack on. -/
theorem Chronicled.attacked (h : after.Chronicled table execute? chronicle)
    (hhosted : Hosted Routine.SparesTable execute? chronicle)
    (hrace : chronicle.IsRace attacker victim bug walk) (hwilling : after.IsWilling .server)
    (hdone : ∀ task ∈ after.tasks, task.id ≠ walk) :
    Races chronicle attacker victim walk ∧ ∃ before report later found answer,
      chronicle.dealings = before ++ report :: later ∧
      report.errand = .apply (.reportBug attacker victim bug) ∧ report.result = .ok found ∧
      answer ∈ later ∧ answer.errand.Settles attacker victim ∧
      ∀ dealing ∈ before ++ later, dealing.task = walk → dealing = answer := by
  obtain ⟨report, hreport, haccepted⟩ := List.mem_filterMap.mp hrace.reported
  have hwalk : report.task = walk := by
    obtain ⟨arrival, harrival, hwalk, horigin⟩ :=
      h.dealer hhosted (fun _ hspares => hspares) hreport
    have hplayer := horigin _ (Errand.mem_events_of_accepted? haccepted)
    rw [← hwalk, hrace.only harrival hplayer.symm]
  obtain ⟨past, result, hends, hfatal, hdealings, hreply⟩ :=
    h.walked hhosted hrace.mem hdone hwilling Routine.attempts_attack
  rw [← hdealings] at hends
  obtain ⟨found, answer, hpair, herrand, hfound, hsettles, hraced⟩ :=
    hends.raced hfatal (List.mem_filter.mpr ⟨hreport, decide_eq_true hwalk⟩) haccepted
  obtain ⟨before, later, hsplit, hbefore, -, hlater⟩ := List.filter_eq_cons_iff.mp hpair
  have hanswer : answer ∈ later := List.mem_of_mem_filter (hlater ▸ List.mem_singleton.mpr rfl)
  refine ⟨⟨result, hraced, hreply⟩, before, report, later, found, answer, hsplit, herrand, hfound,
    hanswer, hsettles, fun dealing hdealing htask => ?_⟩
  obtain hdealing | hdealing := List.mem_append.mp hdealing
  · exact absurd (decide_eq_true htask) (hbefore dealing hdealing)
  · exact List.mem_singleton.mp
      (hlater ▸ List.mem_filter.mpr ⟨hdealing, decide_eq_true htask⟩)

/-- **In a race one answer is accepted**, and the walk that has given it has succeeded, and no
other. -/
theorem Chronicled.raced (h : after.Chronicled table execute? chronicle)
    (hhosted : Hosted Routine.SparesTable execute? chronicle)
    (hstandoff : table.Standoff attacker victim none)
    (hrace : chronicle.IsRace attacker victim bug walk) (hwilling : after.IsWilling .server)
    (hdone : ∀ arrival ∈ chronicle.arrivals,
      arrival.player = attacker ∨ arrival.player = victim →
        ∀ task ∈ after.tasks, task.id ≠ arrival.walk) :
    ∃ event winner, chronicle.accepted = [.reportBug attacker victim bug, event] ∧
      event.reaction? = some victim ∧ after.table.Standoff attacker victim none ∧
      (∀ player, table.state.player? victim = some player →
        ∃ player', after.table.state.player? victim = some player' ∧
          event.Costs victim player player') ∧
      winner ∈ chronicle.arrivals ∧ (winner.player = attacker ∨ winner.player = victim) ∧
      (∃ outcome, chronicle.reply? winner.walk = some (.outcome outcome)) ∧
      ∀ other ∈ chronicle.arrivals, other.player = attacker ∨ other.player = victim →
        other ≠ winner → ∃ reason,
          chronicle.reply? other.walk = some (.failed (Failure.rejected reason).message) := by
  have hdealer (dealing : Dealing) (hmem : dealing ∈ chronicle.dealings) :=
    h.dealer hhosted (fun _ hspares => hspares) hmem
  have hdefended (arrival : Arrival) (hmem : arrival ∈ chronicle.arrivals)
      (hplayer : arrival.player = victim) :=
    h.defended hhosted hrace hwilling hmem hplayer (hdone arrival hmem (.inr hplayer))
  obtain ⟨hattacks, before, report, later, found, answer, hsplit, herrand, hfound, hanswer,
    hsettles, hown⟩ := h.attacked hhosted hrace hwilling (hdone _ hrace.mem (.inl rfl))
  have hmem (dealing : Dealing) :
      dealing ∈ chronicle.dealings ↔ dealing = report ∨ dealing ∈ before ++ later := by
    rw [hsplit, List.mem_append, List.mem_append, List.mem_cons]
    exact or_left_comm
  -- apart from the report, there are only answers and what bystanders want
  have hcontends (dealing : Dealing) (hdealing : dealing ∈ before ++ later) :
      dealing.errand.Contends attacker victim := by
    have hmem := (hmem dealing).mpr (.inr hdealing)
    obtain ⟨arrival, harrival, hwalk, horigin⟩ := hdealer dealing hmem
    by_cases hattacker : arrival.player = attacker
    · rw [hrace.only harrival hattacker] at hwalk
      rw [hown dealing hdealing hwalk.symm]
      exact .inr hsettles
    by_cases hvictim : arrival.player = victim
    · exact .inr ((hdefended arrival harrival hvictim).2 dealing hmem hwalk.symm)
    · refine .inl fun event hevent => ?_
      rw [horigin event hevent]
      exact ⟨hattacker, hvictim⟩
  have hdeals : table.Deals (before ++ report :: later) after.table := hsplit ▸ h.dealt
  obtain ⟨winner, hwinner, event, hwins, ⟨found', hok⟩, hevents, hreaction, hlapses, hafter,
    hcosts⟩ := hstandoff.dealt hdeals herrand hfound hcontends ⟨answer, hanswer, hsettles⟩
  have hwon : winner ∈ chronicle.dealings :=
    (hmem winner).mpr (.inr (List.mem_append_right _ hwinner))
  obtain ⟨first, hfirst, hwalk, horigin⟩ := hdealer winner hwon
  have hinvolved : first.player = attacker ∨ first.player = victim := by
    obtain ⟨origin, hinvolved, hanswers⟩ := hwins
    rw [hanswers.eq_of_origin horigin]
    exact hinvolved
  have hraces (arrival : Arrival) (harrival : arrival ∈ chronicle.arrivals)
      (hplayer : arrival.player = attacker ∨ arrival.player = victim) :
      Races chronicle attacker victim arrival.walk := by
    obtain hattacker | hvictim := hplayer
    · rw [hrace.only harrival hattacker]
      exact hattacks
    · exact (hdefended arrival harrival hvictim).1
  refine ⟨event, first, ?_, hreaction, hafter, hcosts, hfirst, hinvolved, ?_,
    fun other hother hplayer hne => ?_⟩
  · rw [Chronicle.accepted, hsplit]
    exact hevents
  · obtain ⟨result, hraced, hreply⟩ := hraces first hfirst hinvolved
    obtain ⟨outcome, rfl⟩ :=
      hraced.won (List.mem_filter.mpr ⟨hwon, decide_eq_true hwalk.symm⟩) hwins hok
    exact ⟨outcome, hreply⟩
  · obtain ⟨result, hraced, hreply⟩ := hraces other hother hplayer
    have hwalks : other.walk ≠ first.walk := fun heq => hne
      (List.inj_on_of_nodup_map (Chronicle.nodup_walks h.recorded.begun_distinct) hother hfirst heq)
    obtain ⟨reason, rfl⟩ := hraced.lost fun dealing hdealing hanswers => by
      obtain ⟨hdealing, htask⟩ := List.mem_filter.mp hdealing
      refine hlapses dealing (((hmem dealing).mp hdealing).resolve_left ?_) ?_
      · rintro rfl
        exact hanswers.ne_report bug herrand
      · rintro rfl
        exact hwalks ((of_decide_eq_true htask).symm.trans hwalk.symm)
    exact ⟨reason, hreply⟩

/-- **Attacks are answered once.** -/
theorem attack_answered_once {config : TableConfig} {state : GameState} {fresh : Table}
    (hopened : Table.opened config state = .ok fresh) (errands : List Errand)
    {participants : List (PlayerId × Option (Executor Routine))}
    (hparticipants : ∀ participant ∈ participants, ∀ execute ∈ participant.2, execute.SparesTable)
    {moves : List (Move ρ)} (hmoves : ∀ move ∈ moves, move.IsHosted Routine.SparesTable) :
    let table := (fresh.serveAll errands).1
    let opening : Session ρ := opened table (some (.atTable Routine.access)) participants
    let chronicle := opening.chronicle moves
    table.phase = .play → table.state.isCurrent attacker = true →
    table.state.isSeated victim = true → table.state.pendingAttack = none →
    opening.run? moves = some after → chronicle.IsRace attacker victim bug walk →
    (∀ arrival ∈ chronicle.arrivals, arrival.player = attacker ∨ arrival.player = victim →
      ∀ task ∈ after.tasks, task.id ≠ arrival.walk) → after.IsWilling .server →
    (∃ event, chronicle.accepted = [.reportBug attacker victim bug, event] ∧
      event.reaction? = some victim ∧
      ∃ player player', table.state.player? victim = some player ∧
        after.table.state.player? victim = some player' ∧ event.Costs victim player player') ∧
    after.table.state.pendingAttack = none ∧ (chronicle.arrivals.map Arrival.walk).Nodup ∧
    ∃ winner ∈ chronicle.arrivals, (winner.player = attacker ∨ winner.player = victim) ∧
      (∃ outcome, chronicle.reply? winner.walk = some (.outcome outcome)) ∧
      ∀ other ∈ chronicle.arrivals, other.player = attacker ∨ other.player = victim →
        other ≠ winner → ∃ reason,
          chronicle.reply? other.walk = some (.failed (Failure.rejected reason).message) := by
  intro table opening chronicle hphase hcurrent hseated hcalm hrun hrace hdone hwilling
  obtain ⟨hchronicled, hhosted⟩ := hosted_of_run? hparticipants hmoves hrun
  have hedges : table.machine.table = Rules.turnTable :=
    (Table.records_serveAll (P := fun _ _ _ => True) hopened (fun _ _ _ _ _ _ _ => trivial) trivial
      errands).edges
  have hstandoff : table.Standoff attacker victim none :=
    ⟨Table.isOpen_serveAll (Table.isOpen_of_withEdges hopened) errands, hedges, hphase, hcurrent,
      hseated, hcalm⟩
  obtain ⟨event, winner, haccepted, hreaction, hafter, hcosts, hwinner⟩ :=
    hchronicled.raced hhosted hstandoff hrace hwilling hdone
  obtain ⟨player, hplayer⟩ := Option.isSome_iff_exists.mp hseated
  obtain ⟨player', hplayer', hcost⟩ := hcosts player hplayer
  exact ⟨⟨event, haccepted, hreaction, player, player', hplayer, hplayer', hcost⟩, hafter.pending,
    Chronicle.nodup_walks hchronicled.recorded.begun_distinct, winner, hwinner⟩

/-- The first player attacks the second one, who is asked for an answer. Before answering, the
second player has the server defend, without a card; so the answer comes too late, and the attack is
refused. -/
def scuffle : List (Move (Except Failure Reply)) :=
  [.send (.ofParticipant ⟨0⟩) (.delegate (.participant ⟨0⟩) ⟨1⟩ (.attackPlayer ⟨1⟩ .systemHangs)),
    .step (.receive (.ofServer ⟨0⟩))] ++ List.replicate 6 (.step (.advance 0)) ++
    [.take (.ofParticipant ⟨1⟩),
      .send (.ofParticipant ⟨1⟩) (.delegate (.participant ⟨1⟩) ⟨1⟩ (.defendAttack none)),
      .step (.receive (.ofServer ⟨1⟩))] ++ List.replicate 4 (.step (.advance 1)) ++
    [.step (.join 1), .send (.ofParticipant ⟨1⟩) (.result .server ⟨1⟩ (.optionalCard none)),
      .step (.receive (.ofServer ⟨1⟩))] ++ List.replicate 3 (.step (.advance 0)) ++
    [.step (.join 0)]

theorem attack_answered_once_scuffle :
    let opening : Session (Except Failure Reply) :=
      opened (Gate.duel.serveAll [.apply (.drawCards ⟨0⟩)]).1 (some (.atTable Routine.access))
        [(⟨0⟩, none), (⟨1⟩, none)]
    ∃ after event, opening.run? scuffle = some after ∧
      (opening.chronicle scuffle).accepted = [.reportBug ⟨0⟩ ⟨1⟩ .systemHangs, event] ∧
      after.table.state.pendingAttack = none ∧
      ∃ winner ∈ (opening.chronicle scuffle).arrivals, ∃ outcome,
        (opening.chronicle scuffle).reply? winner.walk = some (.outcome outcome) := by
  intro opening
  have hopened : Table.opened {} Gate.duel.state = .ok Gate.duel := rfl
  have hparticipants : ∀ participant ∈
      [((⟨0⟩ : PlayerId), (none : Option (Executor Routine))), (⟨1⟩, none)],
      ∀ execute ∈ participant.2, execute.SparesTable := by
    simp
  have hmoves : ∀ move ∈ scuffle, move.IsHosted Routine.SparesTable := by
    simp [scuffle, Move.IsHosted]
  have hcheck : ((opening.run? scuffle).any fun after =>
      after.tasks.isEmpty && after.isRouting .server) = true := by
    decide +kernel
  obtain ⟨after, hrun, hcheck⟩ := (Option.any_eq_true _ _).mp hcheck
  obtain ⟨htasks, hrunning⟩ := (Bool.and_eq_true _ _).mp hcheck
  have harrivals : (opening.chronicle scuffle).arrivals =
      [⟨⟨0⟩, .attackPlayer ⟨1⟩ .systemHangs, 0⟩, ⟨⟨1⟩, .defendAttack none, 1⟩] := by
    decide +kernel
  have hrace : (opening.chronicle scuffle).IsRace ⟨0⟩ ⟨1⟩ .systemHangs 0 := by
    refine ⟨?_, ?_, by decide +kernel⟩
    · rw [harrivals]
      decide
    · rw [harrivals]
      simp
  have hdone (task : Task (Except Failure Reply)) (hmem : task ∈ after.tasks) : False := by
    rw [List.isEmpty_iff.mp htasks] at hmem
    cases hmem
  obtain ⟨⟨event, haccepted, -⟩, hcalm, -, winner, hwinner, -, hwins, -⟩ :=
    attack_answered_once hopened [.apply (.drawCards ⟨0⟩)] hparticipants hmoves rfl rfl rfl rfl hrun
      hrace (fun _ _ _ task hmem => (hdone task hmem).elim)
      (.inl (router?_of_isRouting hrunning))
  exact ⟨after, event, hrun, haccepted, hcalm, winner, hwinner, hwins⟩

end Session

end RoundTable
