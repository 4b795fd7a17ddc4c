import RoundTable.Proofs.Rules.Effects
import RoundTable.Proofs.Table.Health
import RoundTable.Proofs.Table.PhaseInStep
import RoundTable.Proofs.Walk.Office

/-!
# Attacks are settled

Whoever reports a bug waits for the victim's word, and then the attack is settled. What the victim
says decides how: an excuse from the victim's hand deflects the attack, and whatever else comes of the
question, the attack lands. The victim may be quicker, and settle the attack without being asked; it
comes to the same.

## Main definitions

* `GameState.deflector?`: the card that deflects an attack
* `GameState.OpenToAttack`: what it takes to attack
* `GameEvent.reactionWith`: the event by which an attack is settled
* `Access.awaitVictim`: what is left to do of an attack that has been reported

## Main results

* `Office.run_settleAttack`: the card decides
* `Office.run_attackPlayer`, `Office.run_defendAttack`: what the attacker and the victim do
* `Office.attack_settles`: what comes of an attack, from its report on
* `Office.settlements_agree`: it does not matter which of the two settles it
-/

namespace RoundTable

/-! ### What decides -/

namespace GameState

/-- The card that deflects an attack on a victim, of what the victim says: an excuse that the victim
holds. -/
def deflector? (state : GameState) (victim : PlayerId) (defence : Option Card) : Option Card :=
  defence.filter fun card =>
    card.kind = .excuse && (state.player? victim).any fun player => player.holds card

variable {state : GameState} {victim : PlayerId} {defence : Option Card} {card : Card}

theorem deflector?_eq_some_iff :
    state.deflector? victim defence = some card ↔
      defence = some card ∧ card.kind = .excuse ∧ state.HasInHand victim card := by
  simp [deflector?, Option.filter_eq_some_iff, any_holds_iff]

theorem deflector?_eq_none_iff :
    state.deflector? victim defence = none ↔
      ∀ card, defence = some card → ¬(card.kind = .excuse ∧ state.HasInHand victim card) := by
  simp [deflector?, Option.filter_eq_none_iff, any_holds_iff]

/-- A player may attack another one with a bug, if it is time to play. -/
structure OpenToAttack (state : GameState) (origin target : PlayerId) (bug : BugReport) :
    Prop where
  calm : state.pendingAttack = none
  current : state.isCurrent origin = true
  held : state.HasInHand origin (.bug bug)
  other : origin ≠ target
  seated : state.isSeated target = true

theorem OpenToAttack.allows {origin target : PlayerId} {bug : BugReport}
    (h : state.OpenToAttack origin target bug) :
    Rules.Allows state .play (.reportBug origin target bug) .play :=
  .report h.current h.calm h.held h.other h.seated

theorem openToAttack_of_allows {origin target : PlayerId} {bug : BugReport} {phase next : Turn}
    (hallows : Rules.Allows state phase (.reportBug origin target bug) next) :
    phase = .play ∧ state.OpenToAttack origin target bug := by
  cases hallows with
  | report current calm held other seated => exact ⟨rfl, calm, current, held, other, seated⟩

end GameState

/-- What becomes of an attack, for the attacker: it has failed if there is a card that deflects it. -/
def Outcome.ofAttack (deflector : Option Card) : Outcome :=
  if deflector.isSome then .failure else .success

theorem Outcome.ofAttack_eq_failure_iff {state : GameState} {victim : PlayerId}
    {defence : Option Card} :
    Outcome.ofAttack (state.deflector? victim defence) = .failure ↔
      ∃ card, defence = some card ∧ card.kind = .excuse ∧ state.HasInHand victim card := by
  simp only [← GameState.deflector?_eq_some_iff, ← Option.isSome_iff_exists, ofAttack]
  split <;> simp_all

/-- The event by which an attack is settled, on behalf of `origin`. -/
def GameEvent.reactionWith (origin victim : PlayerId) : Option Card → GameEvent
  | some card => .reactWithCard origin victim card
  | none => .reactWithoutCard origin victim

/-- It does not matter on whose behalf an attack is settled. -/
theorem GameState.after_reactionWith (state : GameState) (origin other victim : PlayerId)
    (defence : Option Card) (drawCount : Nat) :
    state.after (.reactionWith origin victim defence) drawCount =
      state.after (.reactionWith other victim defence) drawCount := by
  cases defence <;> rfl

section

variable {m : Type → Type} [Monad m]

/-- What is left to do of an attack that has been reported: the victim is asked, and the attack is
settled. -/
def Access.awaitVictim (access : Access m) (origin victim : PlayerId) :
    ExceptT Failure m Outcome := do
  let defence ← access.askVictim victim
  access.settleAttack origin victim defence

theorem Authority.attackPlayer_eq (access : Access m) (origin target : PlayerId)
    (bug : BugReport) :
    (Authority.atTable access origin).attackPlayer target bug =
      access.send (.reportBug origin target bug) >>= fun _ => access.awaitVictim origin target :=
  rfl

end

namespace Office

variable {drawCount : Nat} {state : GameState} {office : Office} {origin victim : PlayerId}
  {defence : Option Card} {attack : PendingAttack} {failure : Failure}
  {answers : (id : PlayerId) → (request : Request) → Except Failure request.Answer}

/-! ### Settling an attack -/

/-- **The card decides.** An attack that waits can be settled by the attacker and by the victim; it
has failed if there is a card that deflects it. -/
theorem run_settleAttack (others : PlayerId → Resolver (StateM Office))
    (hlies : office.table.LiesAt drawCount .play state)
    (hpending : state.pendingAttack = some attack)
    (hinvolved : origin = attack.attacker ∨ origin = attack.victim)
    (hseated : state.isSeated origin = true) (defence : Option Card) :
    let deflector := state.deflector? attack.victim defence
    ∃ after, ((access others).settleAttack origin attack.victim defence).run.run office =
        (.ok (.ofAttack deflector), after) ∧
      office.Business drawCount [.reactionWith origin attack.victim deflector] [] .play after := by
  intro deflector
  have hhit := Rules.Allows.hit hseated hpending hinvolved rfl
  cases hdeflector : deflector with
  | some card =>
    obtain ⟨rfl, hkind, hheld⟩ := GameState.deflector?_eq_some_iff.mp hdeflector
    have hexcuse := Rules.Allows.excuse hseated hpending hinvolved rfl hkind hheld
    obtain ⟨after, hrun, hafter⟩ := run_sendOr others hlies hexcuse
      (.reactWithoutCard origin attack.victim)
    exact ⟨after, run_bind_ok hrun, hafter⟩
  | none =>
    have hnone := GameState.deflector?_eq_none_iff.mp hdeflector
    cases defence with
    | none =>
      obtain ⟨after, hrun, hafter⟩ := run_send others hlies hhit
      exact ⟨after, run_bind_ok hrun, hafter⟩
    | some card =>
      have hbarred (target : Turn) :
          ¬Rules.Allows state .play (.reactWithCard origin attack.victim card) target := by
        intro hallows
        cases hallows with
        | excuse _ _ _ _ hkind hheld => exact hnone card rfl ⟨hkind, hheld⟩
      obtain ⟨after, hrun, hafter⟩ := run_sendOr_fallback others hlies hbarred hhit
      exact ⟨after, run_bind_ok hrun, hafter⟩

/-! ### Asking the victim -/

/-- What the victim's answer is taken for. Whoever cannot answer has no card; but a fatal failure
remains one. -/
def heard (answer : Except Failure (Option Card)) : Except Failure (Option Card) :=
  answer.tryCatch fun failure => if failure.isFatal then .error failure else .ok none

theorem heard_fatal {answer : Except Failure (Option Card)} (hanswer : answer = .error failure)
    (hfatal : failure.isFatal = true) : heard answer = .error failure := by
  rw [hanswer, heard, Except.tryCatch, if_pos hfatal]

/-- Unless a card is named that deflects an attack, none is taken to be. -/
theorem exists_heard {answer : Except Failure (Option Card)}
    (hcards : ∀ card, answer = .ok (some card) →
      ¬(card.kind = .excuse ∧ state.HasInHand victim card))
    (hfailures : ∀ failure, answer = .error failure → failure.isFatal = false) :
    ∃ defence, heard answer = .ok defence ∧ state.deflector? victim defence = none := by
  cases answer with
  | ok defence =>
    refine ⟨defence, rfl, GameState.deflector?_eq_none_iff.mpr fun card hcard => ?_⟩
    exact hcards card (congrArg Except.ok hcard)
  | error failure =>
    refine ⟨none, ?_, rfl⟩
    rw [heard, Except.tryCatch, hfailures failure rfl]
    rfl

theorem run_askVictim
    (answers : (id : PlayerId) → (request : Request) → Except Failure request.Answer)
    (office : Office) (victim : PlayerId) :
    ((undisturbed answers).askVictim victim).run.run office =
      (heard (answers victim .selectResponse), office.asking victim .selectResponse) := by
  have hask := run_ask answers office victim .selectResponse
  cases hanswer : answers victim .selectResponse with
  | ok defence =>
    rw [hanswer] at hask
    exact run_tryCatch_ok hask
  | error failure =>
    rw [hanswer] at hask
    refine (run_tryCatch_error hask).trans ?_
    rw [heard, Except.tryCatch]
    split <;> rfl

/-- What the attacker waits for is what the victim's word comes to. -/
theorem run_awaitVictim (hlies : office.table.LiesAt drawCount .play state)
    (hpending : state.pendingAttack = some attack)
    (hseated : state.isSeated attack.attacker = true)
    (hheard : heard (answers attack.victim .selectResponse) = .ok defence) :
    let deflector := state.deflector? attack.victim defence
    ∃ after,
      ((undisturbed answers).awaitVictim attack.attacker attack.victim).run.run office =
        (.ok (.ofAttack deflector), after) ∧
      office.Business drawCount [.reactionWith attack.attacker attack.victim deflector]
        [(attack.victim, .selectResponse)] .play after := by
  intro deflector
  have hasking := business_asking hlies attack.victim .selectResponse
  obtain ⟨after, hrun, hafter⟩ := run_settleAttack (replies answers) (hasking.there hlies) hpending
    (.inl rfl) hseated defence
  have hask := run_askVictim answers office attack.victim
  rw [hheard] at hask
  exact ⟨after, (run_bind_ok hask).trans hrun, hasking.trans hafter⟩

/-! ### Settling one's own attack -/

/-- The victim settles the attack. -/
theorem run_defendAttack (others : PlayerId → Resolver (StateM Office))
    (hlies : office.table.LiesAt drawCount .play state)
    (hpending : state.pendingAttack = some attack)
    (hseated : state.isSeated attack.victim = true) (defence : Option Card) :
    let deflector := state.deflector? attack.victim defence
    ∃ after,
      ((Authority.atTable (access others) attack.victim).defendAttack defence).run.run office =
        (.ok (Outcome.ofAttack deflector).opposite, after) ∧
      office.Business drawCount [.reactionWith attack.victim attack.victim deflector] [] .play
        after := by
  intro deflector
  obtain ⟨after, hrun, hafter⟩ := run_settleAttack others hlies hpending (.inr rfl) hseated defence
  refine ⟨after, ?_, hafter⟩
  refine (run_bind_ok (run_observe others office)).trans ?_
  simp only [hlies.state, hpending, Option.any_some, decide_true, if_true]
  exact run_bind_ok hrun

/-- Whom no attack waits for has none to settle. -/
theorem run_defendAttack_spared (others : PlayerId → Resolver (StateM Office)) {id : PlayerId}
    (hspared : ∀ attack, office.table.state.pendingAttack = some attack → attack.victim ≠ id)
    (defence : Option Card) :
    ((Authority.atTable (access others) id).defendAttack defence).run.run office =
      (.error (.rejected ("no pending attack against player " ++ toString id)), office) := by
  have hnone :
      (office.table.state.pendingAttack.any fun attack => attack.victim = id) = false := by
    simpa [Option.any_eq_false] using hspared
  refine (run_bind_ok (run_observe others office)).trans ?_
  rw [hnone]
  rfl

/-! ### Attacking -/

variable {target : PlayerId} {bug : BugReport}

/-- Whatever the victim's answer is taken for settles the attack. -/
theorem run_attackPlayer (hlies : office.table.LiesAt drawCount .play state)
    (hopen : state.OpenToAttack origin target bug)
    (hheard : heard (answers target .selectResponse) = .ok defence) :
    let deflector := state.deflector? target defence
    ∃ after,
      ((Authority.atTable (undisturbed answers) origin).attackPlayer target bug).run.run office =
        (.ok (.ofAttack deflector), after) ∧
      office.Business drawCount
        [.reportBug origin target bug, .reactionWith origin target deflector]
        [(target, .selectResponse)] .play after := by
  intro deflector
  obtain ⟨reported, hreport, hreported⟩ := run_send (replies answers) hlies hopen.allows
  have hthere : reported.table.LiesAt drawCount .play
      (state.after (.reportBug origin target bug) drawCount) := hreported.there hlies
  have hpending : (state.after (.reportBug origin target bug) drawCount).pendingAttack =
      some ⟨origin, target, bug⟩ := rfl
  have hseated : (state.after (.reportBug origin target bug) drawCount).isSeated origin = true := by
    rw [GameState.isSeated_iff, GameState.seats_after, ← GameState.isSeated_iff]
    exact GameState.isSeated_of_isCurrent hopen.current
  obtain ⟨after, hrun, hafter⟩ := run_awaitVictim hthere hpending hseated hheard
  have hdeflector :
      (state.after (.reportBug origin target bug) drawCount).deflector? target defence =
        deflector := by
    rw [GameState.deflector?, GameState.player?_reportBug state hopen.other.symm]
    rfl
  rw [hdeflector] at hrun hafter
  refine ⟨after, ?_, hreported.trans hafter⟩
  rw [Authority.attackPlayer_eq]
  exact (run_bind_ok hreport).trans hrun

/-- If it is taken for a failure, the attack goes on waiting. -/
theorem run_attackPlayer_fatal (hlies : office.table.LiesAt drawCount .play state)
    (hopen : state.OpenToAttack origin target bug)
    (hheard : heard (answers target .selectResponse) = .error failure) :
    ∃ after,
      ((Authority.atTable (undisturbed answers) origin).attackPlayer target bug).run.run office =
        (.error failure, after) ∧
      office.Business drawCount [.reportBug origin target bug] [(target, .selectResponse)] .play
        after := by
  obtain ⟨reported, hreport, hreported⟩ := run_send (replies answers) hlies hopen.allows
  have hask := run_askVictim answers reported target
  rw [hheard] at hask
  exact ⟨_, (run_bind_ok hreport).trans (run_bind_error hask),
    hreported.trans (business_asking (hreported.there hlies) target .selectResponse)⟩

/-- **An attack is settled completely or not at all.** Let a table be opened with players no two of
whom have the same identifier, let any errands be done there, and let nobody else be at it while one
player attacks another. The question to the victim may end in any way.

* If it is the attacker's turn to play, no attack waits, the attacker holds the bug and the target is
  somebody else at the table, then the target is asked for a card, and it is time to play afterwards,
  too. If the answer is an excuse that the target holds, the attack has failed; it has cost the
  attacker the bug and the target the card, and both lie on the heap.
* With any other answer, and with a failure that is not fatal, the attack has succeeded. It has cost
  the attacker the bug, which lies on the heap, and the target a point of mental health.
* A fatal failure is passed on. The bug has been reported then, and the attack waits.
* If anything of what it takes to attack is not so, the report is refused; nobody is asked, and
  nothing has happened at the table. -/
theorem attack_settles {config : TableConfig} {start : GameState} {fresh : Table}
    (hopened : Table.opened config start = .ok fresh)
    (hdistinct : (start.players.map Player.id).Nodup) (errands : List Errand)
    (asked : List (PlayerId × Request))
    (answers : (id : PlayerId) → (request : Request) → Except Failure request.Answer)
    (origin target : PlayerId) (bug : BugReport) :
    let office : Office := ⟨(fresh.serveAll errands).1, asked⟩
    let before := office.table.state
    let answer : Except Failure (Option Card) := answers target .selectResponse
    let attempt : Except Failure Outcome × Office :=
      ((Authority.atTable (undisturbed answers) origin).attackPlayer target bug).run.run office
    let after := attempt.2.table.state
    let questioned := asked ++ [(target, .selectResponse)]
    (office.table.phase = .play → before.OpenToAttack origin target bug →
      (∀ card, answer = .ok (some card) → card.kind = .excuse → before.HasInHand target card →
        attempt.1 = .ok .failure ∧ attempt.2.asked = questioned ∧ attempt.2.table.phase = .play ∧
        after =
          { before with
            players := before.players.map fun player =>
              if player.id = origin then player.give (.bug bug)
              else if player.id = target then player.give card else player
            discardHeap := before.discardHeap ++ [.bug bug, card] }) ∧
      ((∀ card, answer = .ok (some card) →
          ¬(card.kind = .excuse ∧ before.HasInHand target card)) →
        (∀ failure, answer = .error failure → failure.isFatal = false) →
        attempt.1 = .ok .success ∧ attempt.2.asked = questioned ∧ attempt.2.table.phase = .play ∧
        after =
          { before with
            players := before.players.map fun player =>
              if player.id = origin then player.give (.bug bug)
              else if player.id = target then player.loseHealth else player
            discardHeap := before.discardHeap ++ [.bug bug] }) ∧
      ∀ failure, answer = .error failure → failure.isFatal = true →
        attempt.1 = .error failure ∧ attempt.2.asked = questioned ∧
        attempt.2.table.phase = .play ∧
        after =
          { before with
            players := before.players.map fun player =>
              if player.id = origin then player.give (.bug bug) else player
            discardHeap := before.discardHeap ++ [.bug bug]
            pendingAttack := some ⟨origin, target, bug⟩ }) ∧
    (¬(office.table.phase = .play ∧ before.OpenToAttack origin target bug) →
      ∃ refusal, office.table.validate (.reportBug origin target bug) = .error refusal ∧
        attempt.1 = .error (.rejected refusal.message) ∧ attempt.2.asked = asked ∧
        office.table.Intact attempt.2.table) := by
  intro office before answer attempt after questioned
  have hlies : office.table.LiesAt config.drawCount office.table.phase before :=
    Table.liesAt_serveAll hopened errands
  have hnodup : before.seats.Nodup := Table.nodup_seats_serveAll hopened hdistinct errands
  constructor
  · intro hphase hopen
    have hturn : before.turn = .play :=
      (Table.holds_serveAll hopened (Rules.keeps_turn _) rfl errands).symm.trans hphase
    have hcalm := hopen.calm
    rw [hphase] at hlies
    refine ⟨fun card hanswer hkind hheld => ?_, fun hcards hfailures => ?_,
      fun failure hanswer hfatal => ?_⟩
    · have hheard : heard answer = .ok (some card) := by
        rw [hanswer]
        rfl
      have hdeflector : before.deflector? target (some card) = some card :=
        GameState.deflector?_eq_some_iff.mpr ⟨rfl, hkind, hheld⟩
      obtain ⟨last, hrun, hlast⟩ := run_attackPlayer hlies hopen hheard
      rw [hdeflector] at hrun hlast
      rw [← GameState.after_deflected hnodup hcalm hopen.held hopen.other hheld config.drawCount]
      exact hlast.reads hrun
    · obtain ⟨defence, hheard, hnone⟩ := exists_heard hcards hfailures
      obtain ⟨last, hrun, hlast⟩ := run_attackPlayer hlies hopen hheard
      rw [hnone] at hrun hlast
      rw [← GameState.after_taken hnodup hturn hcalm hopen.held hopen.other config.drawCount]
      exact hlast.reads hrun
    · obtain ⟨last, hrun, hlast⟩ := run_attackPlayer_fatal hlies hopen (heard_fatal hanswer hfatal)
      rw [← GameState.after_reportBug hnodup hopen.held target config.drawCount]
      exact hlast.reads hrun
  · intro hclosed
    have hbarred (next : Turn) :
        ¬Rules.Allows before office.table.phase (.reportBug origin target bug) next :=
      fun hallows => hclosed (GameState.openToAttack_of_allows hallows)
    obtain ⟨refusal, last, hinvalid, hrun, hlast⟩ :=
      run_send_refused (replies answers) hlies hbarred
    have hattempt : attempt = (.error (.rejected refusal.message), last) := run_bind_error hrun
    rw [hattempt]
    exact ⟨refusal, hinvalid, rfl, hlast.asked, hlast.intact⟩

/-- It is time to play. The first of two players holds a bug twice, the second one an excuse twice. -/
def fencing : Table where
  machine := .opened Rules.turnTable .play
    { GameState.opening .zero
        [{ Player.seated ⟨0⟩ "Ada" .manager .kentBeck 3 with
            cards := [.bug .systemHangs, .bug .systemHangs] },
          { Player.seated ⟨1⟩ "Bob" .consultant .konradZuse 3 with
            cards := [.excuse .worksForMe, .excuse .worksForMe] }] [] with
      turn := .play }
    (fun state event => state.after event 2) (fun _ => false)
  config := {}

/-- Whoever is asked for a card says the given word, and answers nothing else. -/
def parries (word : Except Failure (Option Card)) :
    (id : PlayerId) → (request : Request) → Except Failure request.Answer
  | _, .selectResponse => word
  | _, _ => .error .disconnected

/-- A first attack is deflected, and a second one lands because the target is gone. -/
theorem attack_settles_fencing :
    let attack (answer : Except Failure (Option Card)) : Except Failure Outcome × Office :=
      ((Authority.atTable (undisturbed (parries answer)) ⟨0⟩).attackPlayer ⟨1⟩
        .systemHangs).run.run ⟨fencing, []⟩
    let holdings (after : GameState) : List (List Card × UInt32) :=
      after.players.map fun player => (player.cards, player.mentalHealth)
    let first := attack (.ok (some (.excuse .worksForMe)))
    let second := attack (.error .disconnected)
    first.1 = .ok .failure ∧
      holdings first.2.table.state =
        [([.bug .systemHangs], 4), ([.excuse .worksForMe], 3)] ∧
      second.1 = .ok .success ∧
      holdings second.2.table.state =
        [([.bug .systemHangs], 4), ([.excuse .worksForMe, .excuse .worksForMe], 2)] := by
  intro attack holdings first second
  have hopened : Table.opened {} fencing.state = .ok fencing := rfl
  have hdistinct : (fencing.state.players.map Player.id).Nodup := by decide
  have hopen : fencing.state.OpenToAttack ⟨0⟩ ⟨1⟩ .systemHangs :=
    ⟨rfl, rfl, ⟨_, rfl, by decide⟩, by decide, rfl⟩
  have hexcuse : fencing.state.HasInHand ⟨1⟩ (.excuse .worksForMe) := ⟨_, rfl, by decide⟩
  have hsettles (answer : Except Failure (Option Card)) :=
    (attack_settles hopened hdistinct [] [] (parries answer) ⟨0⟩ ⟨1⟩ .systemHangs).1 rfl hopen
  obtain ⟨hdeflected, -⟩ := hsettles (.ok (some (.excuse .worksForMe)))
  obtain ⟨-, hlanded, -⟩ := hsettles (.error .disconnected)
  obtain ⟨hfirst, -, -, hstate⟩ := hdeflected _ rfl rfl hexcuse
  obtain ⟨hsecond, -, -, hstate'⟩ := hlanded nofun fun failure hfailure => by
    cases hfailure
    rfl
  refine ⟨hfirst, ?_, hsecond, ?_⟩
  · exact (congrArg holdings hstate).trans (by rfl)
  · exact (congrArg holdings hstate').trans (by rfl)

/-! ### Settling by either of the two -/

/-- **It does not matter who settles an attack.** Let a table be opened, with any players, let any
errands be done there, and let nobody else be at it.

* If it is time to play and an attack waits, and both players are at the table, let the victim say
  anything. Whether the attacker asks for it and settles the attack, or the victim does without being
  asked, it is settled. The attack has failed for the one if the defence has succeeded for the other,
  and only then, which is when the victim names an excuse from the own hand. State and phase are the
  same afterwards, and one step has been added to the history.
* Whoever is not the victim of an attack that waits has nothing to settle, and is told so. Nothing has
  happened then. -/
theorem settlements_agree {config : TableConfig} {start : GameState} {fresh : Table}
    (hopened : Table.opened config start = .ok fresh) (errands : List Errand)
    (asked : List (PlayerId × Request))
    (answers : (id : PlayerId) → (request : Request) → Except Failure request.Answer) :
    let office : Office := ⟨(fresh.serveAll errands).1, asked⟩
    let defend (id : PlayerId) (defence : Option Card) : Except Failure Outcome × Office :=
      ((Authority.atTable (undisturbed answers) id).defendAttack defence).run.run office
    (∀ (attack : PendingAttack) (defence : Option Card),
      office.table.phase = .play → office.table.state.pendingAttack = some attack →
      office.table.state.isSeated attack.attacker = true →
      office.table.state.isSeated attack.victim = true →
      answers attack.victim .selectResponse = .ok defence →
      let awaited : Except Failure Outcome × Office :=
        ((undisturbed answers).awaitVictim attack.attacker attack.victim).run.run office
      let defended := defend attack.victim defence
      ∃ outcome : Outcome, awaited.1 = .ok outcome ∧ defended.1 = .ok outcome.opposite ∧
        (outcome = .failure ↔ ∃ card, defence = some card ∧ card.kind = .excuse ∧
          office.table.state.HasInHand attack.victim card) ∧
        awaited.2.table.state = defended.2.table.state ∧
        awaited.2.table.phase = defended.2.table.phase ∧
        awaited.2.table.machine.history.length = defended.2.table.machine.history.length ∧
        defended.2.table.machine.history.length = office.table.machine.history.length + 1) ∧
    ∀ (id : PlayerId) (defence : Option Card),
      (∀ attack, office.table.state.pendingAttack = some attack → attack.victim ≠ id) →
      defend id defence =
        (.error (.rejected ("no pending attack against player " ++ toString id)), office) := by
  intro office defend
  have hlies : office.table.LiesAt config.drawCount office.table.phase office.table.state :=
    Table.liesAt_serveAll hopened errands
  constructor
  · intro attack defence hphase hpending hattacker hvictim hanswer awaited defended
    rw [hphase] at hlies
    have hheard : heard (answers attack.victim .selectResponse) = .ok defence := by
      rw [hanswer]
      rfl
    obtain ⟨first, hrun, hfirst⟩ := run_awaitVictim hlies hpending hattacker hheard
    obtain ⟨second, hrun', hsecond⟩ :=
      run_defendAttack (replies answers) hlies hpending hvictim defence
    have hawaited : awaited = (_, first) := hrun
    have hdefended : defended = (_, second) := hrun'
    rw [hawaited, hdefended]
    refine ⟨_, rfl, rfl, Outcome.ofAttack_eq_failure_iff, ?_, ?_, ?_, hsecond.history⟩
    · rw [hfirst.lies.state, hsecond.lies.state]
      exact GameState.after_reactionWith _ _ _ _ _ _
    · rw [hfirst.lies.phase, hsecond.lies.phase]
    · exact hfirst.history.trans hsecond.history.symm
  · intro id defence hspared
    exact run_defendAttack_spared (replies answers) hspared defence

/-- The second player answers an attack with an excuse. The first one cannot answer its own. -/
theorem settlements_agree_fencing :
    let office : Office := ⟨(fencing.serveAll [.apply (.reportBug ⟨0⟩ ⟨1⟩ .systemHangs)]).1, []⟩
    let word : Option Card := some (.excuse .worksForMe)
    let here := undisturbed (parries (.ok word))
    let awaited := (here.awaitVictim ⟨0⟩ ⟨1⟩).run.run office
    let defended := ((Authority.atTable here ⟨1⟩).defendAttack word).run.run office
    awaited.1 = .ok .failure ∧ defended.1 = .ok .success ∧
      awaited.2.table.state = defended.2.table.state ∧
      ((Authority.atTable here ⟨0⟩).defendAttack word).run.run office =
        (.error (.rejected "no pending attack against player 0"), office) := by
  intro office word here awaited defended
  have hopened : Table.opened {} fencing.state = .ok fencing := rfl
  have hpending : office.table.state.pendingAttack = some ⟨⟨0⟩, ⟨1⟩, .systemHangs⟩ := by rfl
  obtain ⟨hagree, hspared⟩ := settlements_agree hopened
    [.apply (.reportBug ⟨0⟩ ⟨1⟩ .systemHangs)] [] (parries (.ok word))
  obtain ⟨outcome, hawaited, hdefended, hfailure, hstate, -⟩ :=
    hagree _ word (by rfl) hpending (by rfl) (by rfl) rfl
  obtain rfl := hfailure.mpr ⟨_, rfl, rfl, _, rfl, by decide⟩
  refine ⟨hawaited, hdefended, hstate, hspared ⟨0⟩ word fun attack hattack => ?_⟩
  cases hpending.symm.trans hattack
  decide

end Office

end RoundTable
