import RoundTable.Proofs.Session.Anywhere
import RoundTable.Proofs.Table.Proposals

/-!
# Turns of those who take whatever comes first

The server plays the turn of the current player at a table where everybody takes the first thing on
offer. No rule ever refuses what they choose; so the turn comes to an end, unless there is nobody to
attack or nothing to attack with. In that case the turn stays with the player, who may pass it on.

What comes of a turn is told by phases and states alone, one lemma for each part of the turn, each
where the part before has left the table.

## Main definitions

* `Chooser.answer`: what a chooser says to a request
* `Company.Leads`: what a computation on tables comes to, by phases and states

## Main results

* `Company.leads_handleStumblingCard`, `Company.leads_drawCards`, `Company.leads_attackSomebody`,
  `Company.leads_discardExcess`: the parts of a turn
* `Company.drive_turn_first`: what comes of a turn
-/

namespace RoundTable

/-! ### Computations at such tables -/

/-- What the participant of a player says to a request with a chooser, if the table is in a
state. -/
def Chooser.answer (chooser : Chooser) (state : GameState) (id : PlayerId) :
    (request : Request) → Except Failure request.Answer
  | .checkStumbling => .ok (state.pendingStumbling? id)
  | .selectResponse => .ok (chooser.response state id)
  | .playCard => (chooser.card state id).elim (.error (.noChoice "card")) .ok
  | .selectPlayer => (chooser.player state id).elim (.error (.noChoice "player")) .ok
  | .selectAttack => (chooser.attack state id).elim (.error (.noChoice "bug report")) .ok
  | .selectDiscardCards amount =>
    (chooser.discards state id amount).elim (.error (.noChoice "cards to discard")) .ok
  | .getGameState => .ok state
  | request => .error (.routing (request.name ++ " must be resolved by the server"))

namespace Company

variable {α β : Type} {company : Company} {drawCount : Nat} {id : PlayerId}
  {phase middle target : Turn} {before between state after : GameState}

/-- A computation comes to a result, and takes a table from one phase and state to another. -/
def Leads (drawCount : Nat) (computation : ExceptT Failure (StateM Table) α) (phase : Turn)
    (before : GameState) (result : Except Failure α) (target : Turn) (after : GameState) : Prop :=
  ∀ table : Table, table.LiesAt drawCount phase before → ∃ next,
    computation.run.run table = (result, next) ∧ next.LiesAt drawCount target after

section

variable {computation : ExceptT Failure (StateM Table) α}
  {next : α → ExceptT Failure (StateM Table) β} {result : Except Failure β} {a : α}

theorem leads_pure (a : α) : Leads drawCount (pure a) phase before (.ok a) phase before :=
  fun table h => ⟨table, rfl, h⟩

/-- One computation after another. -/
theorem Leads.bind (h : Leads drawCount computation phase before (.ok a) middle between)
    (hnext : Leads drawCount (next a) middle between result target after) :
    Leads drawCount (computation >>= next) phase before result target after := by
  intro table hlies
  obtain ⟨later, hrun, hlater⟩ := h table hlies
  obtain ⟨last, hrun', hlast⟩ := hnext later hlater
  exact ⟨last, (run_bind_ok hrun).trans hrun', hlast⟩

/-- Nothing comes after a failure. -/
theorem Leads.bind_error {failure : Failure}
    (h : Leads drawCount computation phase before (.error failure) target after) :
    Leads drawCount (computation >>= next) phase before (.error failure) target after := by
  intro table hlies
  obtain ⟨later, hrun, hlater⟩ := h table hlies
  exact ⟨later, run_bind_error hrun, hlater⟩

theorem Leads.tryCatch {handle : Failure → ExceptT Failure (StateM Table) α}
    (h : Leads drawCount computation phase before (.ok a) target after) :
    Leads drawCount (MonadExcept.tryCatch computation handle) phase before (.ok a) target
      after := by
  intro table hlies
  obtain ⟨later, hrun, hlater⟩ := h table hlies
  exact ⟨later, run_tryCatch_ok hrun, hlater⟩

end

/-! ### Looks, events and questions -/

theorem leads_observe {next : GameState → ExceptT Failure (StateM Table) α}
    {result : Except Failure α}
    (h : Leads drawCount (next before) phase before result target after) :
    Leads drawCount (ExceptT.lift company.access.observe >>= next) phase before result target
      after := by
  intro table hlies
  obtain ⟨later, hrun, hlater⟩ := h table hlies
  rw [← hlies.state] at hrun
  exact ⟨later, hrun, hlater⟩

theorem leads_send (company : Company) (drawCount : Nat) {event : GameEvent}
    (hallows : Rules.Allows before phase event target) :
    Leads drawCount (company.access.send event) phase before
      (.ok (before, before.after event drawCount)) target (before.after event drawCount) := by
  intro table hlies
  obtain ⟨hresult, hnext⟩ := hlies.apply hallows
  refine ⟨_, ?_, hnext⟩
  have happly : (ExceptT.lift (company.access.apply event) :
      ExceptT Failure (StateM Table) _).run.run table =
      (.ok (table.apply event).2, (table.apply event).1) := rfl
  refine (run_bind_ok happly).trans ?_
  rw [hresult]
  rfl

/-- The first one of two events is sent if it is allowed. -/
theorem leads_sendOr {event : GameEvent} (hallows : Rules.Allows before phase event target)
    (fallback : GameEvent) :
    Leads drawCount (company.access.sendOr event fallback) phase before (.ok true) target
      (before.after event drawCount) := by
  intro table hlies
  obtain ⟨hresult, hnext⟩ := hlies.applyOr hallows fallback
  refine ⟨_, ?_, hnext⟩
  have happly : (ExceptT.lift (company.access.applyOr event fallback) :
      ExceptT Failure (StateM Table) _).run.run table =
      (.ok (table.applyOr event fallback).2, (table.applyOr event fallback).1) := rfl
  refine (run_bind_ok happly).trans ?_
  rw [hresult]
  rfl

/-- Whoever is asked chooses, and does nothing to the table. -/
theorem leads_ask {chooser : Chooser} (hchooser : company.chooser? id = some chooser)
    (request : Request) :
    Leads drawCount (company.access.ask id request) phase before
      ((chooser.answer before id request).mapError fun failure => .remote failure.message) phase
      before := by
  intro table hlies
  refine ⟨table, ?_, hlies⟩
  have hstate := hlies.state
  have hchoice {α : Type} (what : String) (choice : Option α) :
      (remotely (Chooser.chosen what choice)).run.run table =
        ((choice.elim (.error (.noChoice what)) .ok : Except Failure α).mapError
          fun failure => .remote failure.message, table) := by
    cases choice <;> rfl
  rw [access_ask hchooser, ← hstate]
  cases request with
  | playCard => exact hchoice "card" _
  | selectPlayer => exact hchoice "player" _
  | selectAttack => exact hchoice "bug report" _
  | selectDiscardCards amount => exact hchoice "cards to discard" _
  | _ => rfl

/-! ### Programs -/

/-- One program after another. -/
theorem Leads.andThen {resolve : Resolver (StateM Table)} {program : Program α}
    {next : α → Program β} {a : α} {result : Except Failure β}
    (h : Leads drawCount (program.run resolve) phase before (.ok a) middle between)
    (hnext : Leads drawCount ((next a).run resolve) middle between result target after) :
    Leads drawCount ((program >>= next).run resolve) phase before result target after := by
  have hrun : (program >>= next).run resolve =
      program.run resolve >>= fun a => (next a).run resolve := by
    change (program.andThen next).run resolve = _
    rw [Program.run, Program.tree_andThen, Interaction.run_bind]
    rfl
  rw [hrun]
  exact h.bind hnext

/-- Nothing comes after a program that has failed. -/
theorem Leads.andThen_error {resolve : Resolver (StateM Table)} {program : Program α}
    {next : α → Program β} {failure : Failure}
    (h : Leads drawCount (program.run resolve) phase before (.error failure) target after) :
    Leads drawCount ((program >>= next).run resolve) phase before (.error failure) target
      after := by
  have hrun : (program >>= next).run resolve =
      program.run resolve >>= fun a => (next a).run resolve := by
    change (program.andThen next).run resolve = _
    rw [Program.run, Program.tree_andThen, Interaction.run_bind]
    rfl
  rw [hrun]
  exact h.bind_error

theorem Leads.resolved {resolve : Resolver (StateM Table)} {request : Request}
    {result : Except Failure request.Answer}
    (h : Leads drawCount (resolve request) phase before result target after) :
    Leads drawCount (request.resolved.run resolve) phase before result target after := by
  have hrun : request.resolved.run resolve = resolve request := bind_pure (resolve request)
  rwa [hrun]

/-! ### What lies in the way -/

/-- Whatever is spent on a stumbling card is held. -/
theorem leads_handleStumbling (company : Company) (drawCount : Nat)
    (hcurrent : before.isCurrent id = true)
    (hblocked : (before.pendingStumbling? id).isSome = true) {via : Option Card}
    (hheld : ∀ card ∈ via, before.HasInHand id card) :
    ∃ outcome, Leads drawCount (company.onServer id (.handleStumbling via)) .stumbling before
      (.ok outcome) .draw (before.after (.resolveStumbling id via) drawCount) := by
  have hallows := Rules.Allows.resolve hcurrent hblocked hheld
  cases via with
  | none => exact ⟨_, (leads_send company drawCount hallows).bind (leads_pure _)⟩
  | some card => exact ⟨_, (leads_sendOr hallows _).bind (leads_pure _)⟩

/-- **The player deals with what lies in the way**, and may draw then. -/
theorem leads_handleStumblingCard (drawCount : Nat)
    (hchooser : company.chooser? id = some .first)
    (hcurrent : before.isCurrent id = true) {player : Player}
    (hplayer : before.player? id = some player) :
    ∃ outcome target after,
      Leads drawCount (Program.handleStumblingCard.run (company.onServer id)) .stumbling before
        (.ok outcome) target after ∧
      before.Alike after ∧ after.drawPile = before.drawPile ∧
      (∃ player', after.player? id = some player' ∧ player'.bugs = player.bugs) ∧
      Rules.Allows after target (.drawCards id) .play := by
  have hlook : Leads drawCount (Request.checkStumbling.resolved.run (company.onServer id))
      .stumbling before (.ok (before.pendingStumbling? id)) .stumbling before :=
    .resolved (leads_ask hchooser .checkStumbling)
  cases hblocked : before.pendingStumbling? id with
  | none =>
    rw [hblocked] at hlook
    exact ⟨_, _, _, hlook.andThen (leads_pure _), .refl before, rfl, ⟨player, hplayer, rfl⟩,
      .drawAtOnce hcurrent hblocked⟩
  | some card =>
    have hsome : (before.pendingStumbling? id).isSome = true := by rw [hblocked]; rfl
    rw [hblocked] at hlook
    have hchoice : Leads drawCount (Request.selectResponse.resolved.run (company.onServer id))
        .stumbling before (.ok (Chooser.first.response before id)) .stumbling before :=
      .resolved (leads_ask hchooser .selectResponse)
    obtain ⟨outcome, hresolve⟩ := leads_handleStumbling company drawCount
      hcurrent hsome fun card hmem => (Chooser.mem_response_first hmem).2
    have halike := before.alike_resolveStumbling id (Chooser.first.response before id) drawCount
    refine ⟨outcome, _, _, hlook.andThen (hchoice.andThen (.resolved hresolve)), halike,
      before.drawPile_resolveStumbling _ _ _, ?_, .draw (halike.isCurrent.trans hcurrent)⟩
    refine GameState.bugs_resolveStumbling hplayer (fun card hmem => ?_) _
    exact (Chooser.mem_response_first hmem).1

/-! ### Drawing -/

/-- The player draws what there is to draw. -/
theorem leads_drawCards (company : Company) (drawCount : Nat)
    (hallows : Rules.Allows before phase (.drawCards id) target) :
    Leads drawCount (Request.drawCards.resolved.run (company.onServer id)) phase before
      (.ok (before.drawPile.take drawCount)) target
      (before.after (.drawCards id) drawCount) := by
  refine .resolved ((leads_send company drawCount hallows).bind ?_)
  have htaken : before.drawPile.take (before.drawPile.length -
      (before.after (.drawCards id) drawCount).drawPile.length) =
        before.drawPile.take drawCount := by
    change before.drawPile.take (before.drawPile.length -
      (before.drawPile.drop drawCount).length) = _
    rw [List.length_drop, List.take_eq_take_iff]
    omega
  rw [← htaken]
  exact leads_pure _

/-! ### Attacks -/

/-- The one who is attacked answers, and the attack is over. -/
theorem leads_attackPlayer (drawCount : Nat) (hcurrent : before.isCurrent id = true)
    (hcalm : before.pendingAttack = none) {victim : PlayerId} {bug : BugReport}
    (hheld : before.HasInHand id (.bug bug)) (hother : id ≠ victim)
    (hseated : before.isSeated victim = true) (hchooser : company.chooser? victim = some .first) :
    ∃ outcome after, Leads drawCount (company.onServer id (.attackPlayer victim bug)) .play before
        (.ok outcome) .play after ∧
      after.seats = before.seats ∧ after.current = before.current ∧
        after.pendingAttack = none := by
  have hreport := Rules.Allows.report hcurrent hcalm hheld hother hseated
  let reported := before.after (.reportBug id victim bug) drawCount
  have halike := before.alike_discardFromHand id (.bug bug)
  have hseats : reported.seats = before.seats := halike.seats
  have hpending : reported.pendingAttack = some ⟨id, victim, bug⟩ := rfl
  have horigin : reported.isSeated id = true := by
    rw [GameState.isSeated_iff, hseats, ← GameState.isSeated_iff]
    exact GameState.isSeated_of_isCurrent hcurrent
  have hask : Leads drawCount (company.access.askVictim victim) .play reported
      (.ok (Chooser.first.response reported victim)) .play reported :=
    (leads_ask hchooser .selectResponse).tryCatch
  have hsent := leads_send company drawCount hreport
  cases hresponse : Chooser.first.response reported victim with
  | none =>
    rw [hresponse] at hask
    have hhit := Rules.Allows.hit horigin hpending (.inl rfl) rfl
    have hsettled : Leads drawCount (company.access.settleAttack id victim none) .play reported
        (.ok .success) .play (reported.after (.reactWithoutCard id victim) drawCount) :=
      (leads_send company drawCount hhit).bind (leads_pure _)
    refine ⟨_, _, hsent.bind (hask.bind hsettled), ?_, halike.current, rfl⟩
    exact (reported.alike_loseHealth victim).seats.trans hseats
  | some card =>
    rw [hresponse] at hask
    obtain ⟨hkind, hcard⟩ := Chooser.mem_response_first hresponse
    have hexcuse := Rules.Allows.excuse horigin hpending (.inl rfl) rfl hkind hcard
    have hsettled : Leads drawCount (company.access.settleAttack id victim (some card)) .play
        reported (.ok .failure) .play
        (reported.after (.reactWithCard id victim card) drawCount) :=
      (leads_sendOr hexcuse _).bind (leads_pure _)
    have hdiscarded := reported.alike_discardFromHand victim card
    exact ⟨_, _, hsent.bind (hask.bind hsettled), hdiscarded.seats.trans hseats,
      hdiscarded.current.trans halike.current, rfl⟩

/-- What a participant says to whom there is nothing to choose from, as the server hears it. -/
def nothing (what : String) : Failure := .remote (Failure.noChoice what).message

/-- **The player attacks the neighbour**, if there is one and if there is a bug to attack with. -/
theorem leads_attackSomebody (drawCount : Nat) {player : Player}
    (hnodup : before.seats.Nodup)
    (hplayer : before.currentPlayer? = some player) (hcalm : before.pendingAttack = none)
    (hchoosers : ∀ id, before.isSeated id = true → company.chooser? id = some .first) :
    let resolve := company.onServer player.id
    (before.players.length < 2 →
      Leads drawCount (Program.attackSomebody.run resolve) .play before
        (.error (nothing "player")) .play before) ∧
    (2 ≤ before.players.length → player.bugs = [] →
      Leads drawCount (Program.attackSomebody.run resolve) .play before
        (.error (nothing "bug report")) .play before) ∧
    (2 ≤ before.players.length → player.bugs ≠ [] →
      ∃ outcome after, Leads drawCount (Program.attackSomebody.run resolve) .play before
          (.ok outcome) .play after ∧
        after.seats = before.seats ∧ after.current = before.current ∧
          after.pendingAttack = none) := by
  intro resolve
  have hfound := before.player?_of_currentPlayer? hnodup hplayer
  have hcurrent : before.isCurrent player.id = true := by
    simp [GameState.isCurrent, GameState.currentId?, hplayer]
  have hplays : before.isSeated player.id = true := GameState.isSeated_of_isCurrent hcurrent
  have hchooser := hchoosers player.id hplays
  have htarget : Leads drawCount (Request.selectPlayer.resolved.run resolve) .play before _ .play
      before := .resolved (leads_ask hchooser .selectPlayer)
  have hbug : Leads drawCount (Request.selectAttack.resolved.run resolve) .play before _ .play
      before := .resolved (leads_ask hchooser .selectAttack)
  have hbugs : Chooser.first.attack before player.id = player.bugs.head? := by
    change (before.player? player.id).bind _ = _
    rw [hfound, Option.bind_some]
  simp only [Chooser.answer, hbugs] at htarget hbug
  refine ⟨fun halone => ?_, fun htwo hnone => ?_, fun htwo hsome => ?_⟩
  · have hnobody : Chooser.first.player before player.id = none :=
      GameState.nextSeat?_eq_none halone player.id
    rw [hnobody] at htarget
    exact htarget.andThen_error
  · obtain ⟨target, hnext, -, -⟩ := GameState.exists_nextSeat? hnodup htwo hplays
    have hsomebody : Chooser.first.player before player.id = some target := hnext
    rw [hsomebody] at htarget
    rw [hnone] at hbug
    exact htarget.andThen hbug.andThen_error
  · obtain ⟨target, hnext, hother, hseated⟩ := GameState.exists_nextSeat? hnodup htwo hplays
    have hsomebody : Chooser.first.player before player.id = some target := hnext
    obtain ⟨bug, bugs, hcons⟩ := List.exists_cons_of_ne_nil hsome
    rw [hsomebody] at htarget
    rw [hcons] at hbug
    have hheld : before.HasInHand player.id (.bug bug) :=
      Chooser.hasInHand_of_attack_first (hbugs.trans (by rw [hcons, List.head?_cons]))
    obtain ⟨outcome, after, hattack, hafter⟩ := leads_attackPlayer drawCount
      hcurrent hcalm hheld hother hseated (hchoosers target hseated)
    exact ⟨outcome, after, htarget.andThen (hbug.andThen (.resolved hattack)), hafter⟩

/-! ### What is too much -/

/-- **The player gives away what is too much**, the newest cards. -/
theorem leads_discardExcess (company : Company) (drawCount : Nat) {player : Player}
    (hnodup : before.seats.Nodup)
    (hplayer : before.currentPlayer? = some player)
    (hchooser : company.chooser? player.id = some .first) :
    ∃ cards after player', Leads drawCount (Program.discardExcess.run (company.onServer player.id))
        .play before (.ok cards) .play after ∧
      before.Alike after ∧ after.player? player.id = some player' ∧
        player'.cards.length ≤ player'.mentalHealth.toNat := by
  have hfound := before.player?_of_currentPlayer? hnodup hplayer
  have hcurrent : before.isCurrent player.id = true := by
    simp [GameState.isCurrent, GameState.currentId?, hplayer]
  have hexcess : before.excess = player.cards.length - player.mentalHealth.toNat := by
    rw [GameState.excess, hplayer]
  have hlook : Leads drawCount (Request.getGameState.resolved.run (company.onServer player.id))
      .play before (.ok before) .play before := .resolved (leads_ask hchooser .getGameState)
  by_cases hfits : before.excess = 0
  · refine ⟨[], before, player, hlook.andThen ?_, .refl before, hfound, by omega⟩
    rw [if_pos hfits]
    exact leads_pure _
  · let cards := player.cards.drop (player.cards.length - before.excess)
    have hlength : cards.length = before.excess := by
      rw [List.length_drop]
      omega
    have hheld : Player.handHolds player.cards cards = true :=
      Player.handHolds_of_sublist (List.drop_sublist _ _)
    have hchosen : Chooser.first.discards before player.id before.excess = some cards := by
      rw [Chooser.discards_first hfound, if_pos (by omega)]
    have hchoice : Leads drawCount ((Request.selectDiscardCards before.excess).resolved.run
        (company.onServer player.id)) .play before _ .play before :=
      .resolved (leads_ask hchooser (.selectDiscardCards before.excess))
    simp only [Chooser.answer, hchosen] at hchoice
    have hallows := Rules.Allows.discard hcurrent ⟨player, hfound, hheld⟩
    have hdiscard : Leads drawCount ((Request.discard cards).resolved.run
        (company.onServer player.id)) .play before (.ok ()) .play
        (before.after (.discard player.id cards) drawCount) :=
      .resolved ((leads_send company drawCount hallows).bind (leads_pure _))
    refine ⟨cards, _, { player with cards := player.cards.diff cards }, hlook.andThen ?_,
      before.alike_foldl_discardFromHand player.id cards, ?_, ?_⟩
    · rw [if_neg hfits]
      exact hchoice.andThen (hdiscard.andThen (leads_pure _))
    · refine (before.player?_foldl_discardFromHand player.id cards player.id).trans ?_
      rw [hfound]
      simp
    · have hleft := Player.length_diff hheld
      change (player.cards.diff cards).length ≤ player.mentalHealth.toNat
      omega

/-! ### Turns -/

/-- The player deals with what lies in the way, and draws. -/
theorem leads_toPlay (drawCount : Nat) {player : Player} (hnodup : before.seats.Nodup)
    (hplayer : before.currentPlayer? = some player)
    (hchooser : company.chooser? player.id = some .first) :
    ∃ outcome middle between after player', player'.id = player.id ∧
      Leads drawCount (Program.handleStumblingCard.run (company.onServer player.id)) .stumbling
        before (.ok outcome) middle between ∧
      Leads drawCount (Request.drawCards.resolved.run (company.onServer player.id)) middle between
        (.ok (before.drawPile.take drawCount)) .play after ∧
      before.Alike after ∧ after.currentPlayer? = some player' ∧
        player'.bugs = (player.receive (before.drawPile.take drawCount)).bugs := by
  have hfound := before.player?_of_currentPlayer? hnodup hplayer
  have hcurrent : before.isCurrent player.id = true := by
    simp [GameState.isCurrent, GameState.currentId?, hplayer]
  obtain ⟨outcome, middle, between, hstumbling, halike, hpile, ⟨player', hplayer', hbugs⟩,
    hallows⟩ := leads_handleStumblingCard drawCount hchooser hcurrent hfound
  have hdraw := leads_drawCards company drawCount hallows
  have hdrawn := halike.trans (between.alike_drawCards player.id drawCount)
  have hreceived := between.player?_drawCards hplayer' drawCount
  rw [hpile] at hdraw hreceived
  refine ⟨outcome, middle, between, _, player'.receive (before.drawPile.take drawCount), ?_,
    hstumbling, hdraw, hdrawn, ?_, ?_⟩
  · have hfound' := List.find?_some hplayer'
    exact of_decide_eq_true hfound'
  · refine GameState.currentPlayer?_of_isCurrent ?_ (hdrawn.isCurrent.trans hcurrent) hreceived
    exact hdrawn.seats ▸ hnodup
  · rw [Player.bugs_receive, Player.bugs_receive, hbugs]

/-- What there is to attack with after drawing, and whom to attack. -/
def CanAttack (state : GameState) (player : Player) (drawCount : Nat) : Prop :=
  2 ≤ state.players.length ∧ (player.receive (state.drawPile.take drawCount)).bugs ≠ []

/-- **A turn comes to an end if there is somebody to attack and something to attack with**, and
otherwise gets stuck between drawing and attacking. -/
theorem leads_driveTurn (drawCount : Nat) {player : Player} (hnodup : before.seats.Nodup)
    (hplayer : before.currentPlayer? = some player) (hcalm : before.pendingAttack = none)
    (hchoosers : ∀ id, before.isSeated id = true → company.chooser? id = some .first) :
    (CanAttack before player drawCount → ∃ report after player',
      Leads drawCount company.access.driveTurn .stumbling before (.ok report) .stumbling after ∧
      report.drawn = before.drawPile.take drawCount ∧ after.seats = before.seats ∧
      after.current = (before.current + 1) % before.players.length ∧
      after.pendingAttack = none ∧ after.player? player.id = some player' ∧
      player'.cards.length ≤ player'.mentalHealth.toNat) ∧
    (¬CanAttack before player drawCount → ∃ after,
      Leads drawCount company.access.driveTurn .stumbling before
        (.error (nothing (if before.players.length < 2 then "player" else "bug report"))) .play
        after ∧ before.Alike after) := by
  have hcurrent : before.isCurrent player.id = true := by
    simp [GameState.isCurrent, GameState.currentId?, hplayer]
  have hid : before.currentId? = some player.id := of_decide_eq_true hcurrent
  have hchooser := hchoosers player.id (GameState.isSeated_of_isCurrent hcurrent)
  obtain ⟨outcome, middle, between, drawn, player', hsame, hstumbling, hdraw, halike, hplayer',
    hbugs⟩ := leads_toPlay drawCount hnodup hplayer hchooser
  have hdrawnNodup : drawn.seats.Nodup := halike.seats ▸ hnodup
  have hlength : drawn.players.length = before.players.length := by
    simpa [GameState.seats] using congrArg List.length halike.seats
  have hattack := leads_attackSomebody drawCount hdrawnNodup hplayer'
    (halike.attack.trans hcalm) fun id hseated => hchoosers id (halike.isSeated ▸ hseated)
  rw [hlength, hbugs, hsame] at hattack
  obtain ⟨halone, hunarmed, harmed⟩ := hattack
  -- up to the attack it is the same turn in all cases
  have hturn {result : Except Failure TurnReport} {target : Turn} {after : GameState}
      (h : Leads drawCount ((do
        let attack ← Program.attackSomebody
        let discarded ← Program.discardExcess
        Program.done ⟨outcome, before.drawPile.take drawCount, attack, discarded⟩ :
          Program TurnReport).run (company.onServer player.id)) .play drawn result target after) :
      Leads drawCount (Program.playTurn.run (company.onServer player.id)) .stumbling before result
        target after := hstumbling.andThen (hdraw.andThen h)
  have hdrive {result : Except Failure TurnReport} {target : Turn} {after : GameState}
      (h : Leads drawCount (do
        let report ← Program.playTurn.run (company.onServer player.id)
        let _ ← company.access.send (.nextTurn player.id)
        return report) .stumbling before result target after) :
      Leads drawCount company.access.driveTurn .stumbling before result target after := by
    refine leads_observe ?_
    simp only [hid]
    exact h
  refine ⟨?_, fun hnot => ⟨drawn, hdrive (hturn ?_).bind_error, halike⟩⟩
  · rintro ⟨htwo, hsome⟩
    obtain ⟨attack, attacked, hattack, hseats, hturn', hcalm'⟩ := harmed htwo hsome
    have hcurrent' : attacked.isCurrent player.id = true := by
      rw [GameState.isCurrent_iff, hseats, hturn', halike.seats, halike.current]
      exact GameState.isCurrent_iff.mp hcurrent
    obtain ⟨player'', hplayer'', hsame'⟩ :=
      Option.map_eq_some_iff.mp (of_decide_eq_true hcurrent')
    have hdiscard := leads_discardExcess company drawCount
      (hseats ▸ hdrawnNodup) hplayer'' (hsame' ▸ hchooser)
    rw [hsame'] at hdiscard
    obtain ⟨cards, rested, last, hdiscard, hrested, hlast, hfits⟩ := hdiscard
    have hpass := leads_send company drawCount
      (.pass (hrested.isCurrent.trans hcurrent') (hrested.attack.trans hcalm'))
    refine ⟨_, _, last, hdrive (.bind (hturn (hattack.andThen (hdiscard.andThen (leads_pure _))))
      (hpass.bind (leads_pure _))), rfl, ?_, ?_, rfl, hlast, hfits⟩
    · exact hrested.seats.trans (hseats.trans halike.seats)
    · have hlength' : rested.players.length = before.players.length := by
        have hseats' := hrested.seats.trans (hseats.trans halike.seats)
        simpa [GameState.seats] using congrArg List.length hseats'
      have hsome' : rested.players.isEmpty = false := by
        rw [List.isEmpty_eq_false_iff_exists_mem, ← List.length_pos_iff_exists_mem]
        omega
      change (if rested.players.isEmpty = true then rested.current
        else (rested.current + 1) % rested.players.length) = _
      rw [hsome', hlength', hrested.current, hturn', halike.current]
      rfl
  · by_cases hfew : before.players.length < 2
    · rw [if_pos hfew]
      exact (halone hfew).andThen_error
    · rw [if_neg hfew]
      refine (hunarmed (Nat.le_of_not_lt hfew) ?_).andThen_error
      exact Classical.byContradiction fun hsome => hnot ⟨Nat.le_of_not_lt hfew, hsome⟩

/-! ### Turns in a session -/

/-- The server plays a turn as it would if everybody answered at once. -/
theorem follows_driveTurn (company : Company) :
    company.Follows 2 Routine.access.driveTurn company.access.driveTurn := by
  refine .lift (mirrors_observe company 2) fun state => ?_
  cases state.currentId? with
  | none => exact .throw company 2 _
  | some id =>
    exact (Follows.run (company.follows_onServer id) _).bind fun report =>
      (follows_send company 2 _).bind fun _ => .pure company 2 report

/-- What is said of the end of a turn, if it has come to one. -/
structure TurnEnded (drawCount : Nat) (before : GameState) (id : PlayerId) (report : TurnReport)
    (after : Table) : Prop where
  /-- The report shows what was drawn. -/
  drawn : report.drawn = before.drawPile.take (min drawCount before.drawPile.length)
  phase : after.phase = .stumbling
  seats : after.state.seats = before.seats
  /-- The turn is at the next seat. -/
  current : after.state.current = (before.current + 1) % before.players.length
  calm : after.state.pendingAttack = none
  /-- Whose turn it was holds no more than fits. -/
  fits : ∃ player, after.state.player? id = some player ∧
    player.cards.length ≤ player.mentalHealth.toNat

/-- What is said of a turn that got stuck. -/
structure TurnStuck (before : GameState) (id : PlayerId) (failure : Failure) (after : Table) :
    Prop where
  /-- There was nobody to attack, or nothing to attack with. -/
  missing : failure =
    nothing (if before.players.length < 2 then "player" else "bug report")
  phase : after.phase = .play
  seats : after.state.seats = before.seats
  current : after.state.current = before.current
  calm : after.state.pendingAttack = none
  /-- The player may pass the turn on. -/
  passes : (after.endTurn id).2.isOk = true

/-- **No rule refuses what comes first.** At a table where everybody takes the first thing on offer
and nobody else acts, the turn of the current player comes to an end if and only if there are two
players and the one whose turn it is holds a bug report after drawing; a stumbling card costs none.
Otherwise it gets stuck where the player may pass the turn on. -/
theorem drive_turn_first {company : Company} {config : TableConfig} {start : GameState}
    {opened : Table} (hopened : Table.opened config start = .ok opened) (errands : List Errand)
    {session : Session (Except Failure TurnReport)} (hidle : session.IsIdle company)
    (htable : session.table = (opened.serveAll errands).1)
    (hphase : session.table.phase = .stumbling)
    (hcalm : session.table.state.pendingAttack = none)
    (hnodup : session.table.state.seats.Nodup) {player : Player}
    (hplayer : session.table.state.currentPlayer? = some player)
    (hchoosers : ∀ id, session.table.state.isSeated id = true →
      company.chooser? id = some .first) :
    ∃ result after, session.ComesTo .server Routine.access.driveTurn.run result after ∧
      ((∃ report, result = .ok report) ↔
        CanAttack session.table.state player config.drawCount) ∧
      (∀ report, result = .ok report →
        TurnEnded config.drawCount session.table.state player.id report after) ∧
      ∀ failure, result = .error failure →
        TurnStuck session.table.state player.id failure after := by
  have hlies : session.table.LiesAt config.drawCount .stumbling session.table.state := by
    have hlies := Table.liesAt_serveAll hopened errands
    rwa [← htable, hphase] at hlies
  have hcurrent : session.table.state.isCurrent player.id = true := by
    simp [GameState.isCurrent, GameState.currentId?, hplayer]
  have hchooser := hchoosers player.id (GameState.isSeated_of_isCurrent hcurrent)
  have hcomes := (follows_driveTurn company).comesTo ⟨player.id, isSome_of_chooser? hchooser⟩
    hidle .server
  obtain ⟨hends, hstuck⟩ := leads_driveTurn config.drawCount hnodup hplayer hcalm
    hchoosers
  refine ⟨_, _, hcomes, ?_⟩
  by_cases hcan : CanAttack session.table.state player config.drawCount
  · obtain ⟨report, state, last, hleads, hdrawn, hseats, hturn, hover, hlast, hfits⟩ := hends hcan
    obtain ⟨after, hrun, hafter⟩ := hleads session.table hlies
    rw [hrun]
    refine ⟨⟨fun _ => hcan, fun _ => ⟨report, rfl⟩⟩, ?_, fun _ heq => by cases heq⟩
    rintro _ ⟨⟩
    obtain ⟨-, -, -, hphase', rfl⟩ := hafter
    refine ⟨hdrawn.trans ?_, hphase', hseats, hturn, hover, last, hlast, hfits⟩
    rw [List.take_eq_take_iff]
    omega
  · obtain ⟨state, hleads, halike⟩ := hstuck hcan
    obtain ⟨after, hrun, hafter⟩ := hleads session.table hlies
    rw [hrun]
    refine ⟨⟨?_, fun h => absurd h hcan⟩, (fun _ heq => by cases heq), ?_⟩
    · rintro ⟨report, hreport⟩
      cases hreport
    rintro _ ⟨⟩
    have hpass := hafter.apply (.pass (halike.isCurrent.trans hcurrent)
      (halike.attack.trans hcalm))
    obtain ⟨-, -, -, hphase', rfl⟩ := hafter
    refine ⟨rfl, hphase', halike.seats, halike.current, halike.attack.trans hcalm, ?_⟩
    have hend : (after.endTurn player.id).2 = (after.apply (.nextTurn player.id)).2.map Prod.snd :=
      rfl
    rw [hend, hpass.1]
    rfl

theorem drive_turn_first_duel :
    ∃ report after, (hasty.session Gate.duel).ComesTo .server Routine.access.driveTurn.run
        (.ok report) after ∧
      TurnEnded 2 Gate.duel.state ⟨0⟩ report after := by
  have hidle := hasty.isIdle_session (ρ := Except Failure TurnReport) Gate.duel
  have hopened : Table.opened {} Gate.duel.state = .ok Gate.duel := rfl
  have hchoosers (id : PlayerId) (hseated : Gate.duel.state.isSeated id = true) :
      hasty.chooser? id = some .first := by
    have hmem : id ∈ [(⟨0⟩ : PlayerId), ⟨1⟩] := GameState.isSeated_iff.mp hseated
    simp only [List.mem_cons, List.not_mem_nil, or_false] at hmem
    obtain rfl | rfl := hmem <;> rfl
  obtain ⟨result, after, hcomes, hiff, hok, -⟩ := drive_turn_first hopened [] hidle rfl rfl rfl
    (by decide) rfl hchoosers
  obtain ⟨report, rfl⟩ := hiff.mpr ⟨by decide, by decide⟩
  exact ⟨report, after, hcomes, hok report rfl⟩

end Company

end RoundTable
