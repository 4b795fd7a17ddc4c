import RoundTable.Proofs.Rules.Effects
import RoundTable.Proofs.Table.Health
import RoundTable.Proofs.Table.Ownership
import RoundTable.Proofs.Walk.Office

/-!
# Stumbling cards are dealt with

A player who stumbles over a card offers a card of the own hand for it, or none. An offer that the
table does not accept is as good as none, and costs a point of mental health; and where there is
nothing to stumble over, both the offer and the fallback are refused.

## Main definitions

* `GameState.Stumbles`: a player has to deal with a stumbling card

## Main results

* `Office.run_stumble_card`, `Office.run_stumble_noCard`: what comes of an offer
* `Office.stumbling_settles`: one stumbling card is dealt with, or nothing happens
-/

namespace RoundTable

/-! ### Who stumbles -/

namespace GameState

/-- A player has to deal with a stumbling card, if the time for it has come. The cards `ahead`, then
`block`, then the cards `behind` lie in front of the player, and `block` is the first stumbling card
among them. -/
structure Stumbles (state : GameState) (origin : PlayerId) (ahead : List Card) (block : Card)
    (behind : List Card) : Prop where
  current : state.isCurrent origin = true
  blocked : state.frontCards.Blocked origin ahead block behind

variable {state : GameState} {origin : PlayerId} {ahead behind : List Card} {block : Card}
  {via : Option Card}

theorem Stumbles.allows (h : state.Stumbles origin ahead block behind)
    (hheld : ∀ card ∈ via, state.HasInHand origin card) :
    Rules.Allows state .stumbling (.resolveStumbling origin via) .draw :=
  .resolve h.current (isSome_pendingStumbling?_iff.mpr ⟨ahead, block, behind, h.blocked⟩) hheld

/-- Nobody else is allowed to deal with one. -/
theorem exists_stumbles {phase target : Turn}
    (hallows : Rules.Allows state phase (.resolveStumbling origin via) target) :
    phase = .stumbling ∧ ∃ ahead block behind, state.Stumbles origin ahead block behind := by
  cases hallows with
  | resolve current hblock =>
    obtain ⟨ahead, block, behind, hblocked⟩ := isSome_pendingStumbling?_iff.mp hblock
    exact ⟨rfl, ahead, block, behind, current, hblocked⟩

end GameState

namespace Office

variable {drawCount : Nat} {state : GameState} {office : Office} {origin : PlayerId}
  {ahead behind : List Card} {block card : Card} {via : Option Card}

/-! ### Offers -/

/-- A card from the hand is spent on the stumbling card. -/
theorem run_stumble_card (others : PlayerId → Resolver (StateM Office))
    (hlies : office.table.LiesAt drawCount .stumbling state)
    (hstumbles : state.Stumbles origin ahead block behind) (hheld : state.HasInHand origin card) :
    ∃ after,
      ((Authority.atTable (access others) origin).handleStumbling (some card)).run.run office =
        (.ok .success, after) ∧
      office.Business drawCount [.resolveStumbling origin (some card)] [] .draw after := by
  have hallows := hstumbles.allows fun _ hmem => Option.some.inj hmem ▸ hheld
  obtain ⟨after, hrun, hafter⟩ := run_sendOr others hlies hallows (.resolveStumbling origin none)
  exact ⟨after, run_bind_ok hrun, hafter⟩

/-- Without such a card, the player takes the hit. -/
theorem run_stumble_noCard (others : PlayerId → Resolver (StateM Office))
    (hlies : office.table.LiesAt drawCount .stumbling state)
    (hstumbles : state.Stumbles origin ahead block behind)
    (hnone : ∀ card, via = some card → ¬state.HasInHand origin card) :
    ∃ after,
      ((Authority.atTable (access others) origin).handleStumbling via).run.run office =
        (.ok .failure, after) ∧
      office.Business drawCount [.resolveStumbling origin none] [] .draw after := by
  have hallows : Rules.Allows state .stumbling (.resolveStumbling origin none) .draw :=
    hstumbles.allows nofun
  cases via with
  | none =>
    obtain ⟨after, hrun, hafter⟩ := run_send others hlies hallows
    exact ⟨after, run_bind_ok hrun, hafter⟩
  | some card =>
    have hbarred (target : Turn) :
        ¬Rules.Allows state .stumbling (.resolveStumbling origin (some card)) target := by
      intro hoffer
      cases hoffer with
      | resolve _ _ hheld => exact hnone card rfl (hheld card rfl)
    obtain ⟨after, hrun, hafter⟩ := run_sendOr_fallback others hlies hbarred hallows
    exact ⟨after, run_bind_ok hrun, hafter⟩

/-- Where nobody stumbles, neither the offer nor the lack of one is accepted. -/
theorem run_stumble_refused (others : PlayerId → Resolver (StateM Office)) {phase : Turn}
    (hlies : office.table.LiesAt drawCount phase state)
    (hfree : ¬(phase = .stumbling ∧ ∃ ahead block behind, state.Stumbles origin ahead block behind))
    (via : Option Card) :
    ∃ refusal after, office.table.validate (.resolveStumbling origin none) = .error refusal ∧
      ((Authority.atTable (access others) origin).handleStumbling via).run.run office =
        (.error (.rejected refusal.message), after) ∧
      office.Unmoved drawCount phase state after := by
  have hbarred (via : Option Card) (target : Turn) :
      ¬Rules.Allows state phase (.resolveStumbling origin via) target :=
    fun hallows => hfree (GameState.exists_stumbles hallows)
  cases via with
  | none =>
    obtain ⟨refusal, after, hinvalid, hrun, hafter⟩ := run_send_refused others hlies (hbarred none)
    exact ⟨refusal, after, hinvalid, run_bind_error hrun, hafter⟩
  | some card =>
    obtain ⟨refusal, after, hinvalid, hrun, hafter⟩ :=
      run_sendOr_refused others hlies (hbarred (some card)) (hbarred none)
    exact ⟨refusal, after, hinvalid, run_bind_error hrun, hafter⟩

/-! ### What comes of it -/

/-- **One stumbling card is dealt with, or nothing happens.** Let a table be opened with players no
two of whom have the same identifier, let any errands be done there, and let nobody else be at it
while a player offers a card, or none, for a stumbling card. Nobody is asked anything.

* If the time for it has come, and it is the player's turn, and a stumbling card lies in front of the
  player, then the first one goes to the heap, and it is time to draw. A card from the player's hand
  goes there after it, and that is a success; without one the player loses a point of mental health,
  and that is a failure. All else is as it was.
* If not, the player is told that stumbling without a card is refused, and nothing has happened at the
  table. -/
theorem stumbling_settles {config : TableConfig} {start : GameState} {fresh : Table}
    (hopened : Table.opened config start = .ok fresh)
    (hdistinct : (start.players.map Player.id).Nodup) (errands : List Errand)
    (asked : List (PlayerId × Request))
    (answers : (id : PlayerId) → (request : Request) → Except Failure request.Answer)
    (origin : PlayerId) (via : Option Card) :
    let office : Office := ⟨(fresh.serveAll errands).1, asked⟩
    let before := office.table.state
    let attempt : Except Failure Outcome × Office :=
      ((Authority.atTable (undisturbed answers) origin).handleStumbling via).run.run office
    let after := attempt.2.table.state
    (∀ ahead block behind,
      office.table.phase = .stumbling → before.Stumbles origin ahead block behind →
      (∀ card, via = some card → before.HasInHand origin card →
        attempt.1 = .ok .success ∧ attempt.2.asked = asked ∧ attempt.2.table.phase = .draw ∧
        after =
          { before with
            players := before.players.map fun player =>
              if player.id = origin then player.give card else player
            discardHeap := before.discardHeap ++ [block, card]
            frontCards := before.frontCards.modify origin fun _ => ahead ++ behind
            turn := .draw }) ∧
      ((∀ card, via = some card → ¬before.HasInHand origin card) →
        attempt.1 = .ok .failure ∧ attempt.2.asked = asked ∧ attempt.2.table.phase = .draw ∧
        after =
          { before with
            players := before.players.map fun player =>
              if player.id = origin then player.loseHealth else player
            discardHeap := before.discardHeap ++ [block]
            frontCards := before.frontCards.modify origin fun _ => ahead ++ behind
            turn := .draw })) ∧
    (¬(office.table.phase = .stumbling ∧
        ∃ ahead block behind, before.Stumbles origin ahead block behind) →
      ∃ refusal, office.table.validate (.resolveStumbling origin none) = .error refusal ∧
        attempt.1 = .error (.rejected refusal.message) ∧ attempt.2.asked = asked ∧
        office.table.Intact attempt.2.table) := by
  intro office before attempt after
  have hlies : office.table.LiesAt config.drawCount office.table.phase before :=
    Table.liesAt_serveAll hopened errands
  have hnodup : before.seats.Nodup := Table.nodup_seats_serveAll hopened hdistinct errands
  constructor
  · intro ahead block behind hphase hstumbles
    rw [hphase] at hlies
    constructor
    · rintro card rfl hheld
      obtain ⟨last, hrun, hlast⟩ := run_stumble_card (replies answers) hlies hstumbles hheld
      rw [← GameState.after_resolveStumbling_card hnodup hstumbles.blocked hheld config.drawCount]
      have hreads := hlast.reads hrun
      rwa [List.append_nil] at hreads
    · intro hnone
      obtain ⟨last, hrun, hlast⟩ := run_stumble_noCard (replies answers) hlies hstumbles hnone
      rw [← GameState.after_resolveStumbling_noCard hnodup hstumbles.blocked config.drawCount]
      have hreads := hlast.reads hrun
      rwa [List.append_nil] at hreads
  · intro hfree
    obtain ⟨refusal, last, hinvalid, hrun, hlast⟩ :=
      run_stumble_refused (replies answers) hlies hfree via
    have hattempt : attempt = (.error (.rejected refusal.message), last) := hrun
    rw [hattempt]
    exact ⟨refusal, hinvalid, rfl, hlast.asked, hlast.intact⟩

/-- Three offers at a table where the first player stumbles over the second one of three cards: an
excuse that the player holds, one that nobody holds, and the same by a player whose turn it is not. -/
theorem stumbling_settles_clutter :
    let attempt (id : PlayerId) (excuse : Excuse) : Except Failure Outcome × Office :=
      ((Authority.atTable (undisturbed fun _ _ => .error .disconnected) id).handleStumbling
        (some (.excuse excuse))).run.run ⟨Table.clutter, []⟩
    let first := attempt ⟨0⟩ .worksForMe
    let second := attempt ⟨0⟩ .itsAFeature
    let third := attempt ⟨1⟩ .worksForMe
    first.1 = .ok .success ∧
      first.2.table.state.discardHeap = [.stumbling .offTheJobTraining, .excuse .worksForMe] ∧
      second.1 = .ok .failure ∧
      second.2.table.state.discardHeap = [.stumbling .offTheJobTraining] ∧
      ∃ refusal, third.1 = .error (.rejected refusal) ∧ Table.clutter.Intact third.2.table := by
  intro attempt first second third
  have hopened : Table.opened {} Table.clutter.state = .ok Table.clutter := rfl
  have hdistinct : (Table.clutter.state.players.map Player.id).Nodup := by decide
  have hstumbles : Table.clutter.state.Stumbles ⟨0⟩ [.solution .coffee]
      (.stumbling .offTheJobTraining) [.stumbling .offTheJobTraining] :=
    ⟨rfl, rfl, rfl, by decide⟩
  have hsettles (id : PlayerId) (excuse : Excuse) :=
    stumbling_settles hopened hdistinct [] [] (fun _ _ => .error .disconnected) id
      (some (.excuse excuse))
  obtain ⟨hfirst, -, -, hstate⟩ :=
    ((hsettles ⟨0⟩ .worksForMe).1 _ _ _ rfl hstumbles).1 _ rfl ⟨_, rfl, by decide⟩
  obtain ⟨hsecond, -, -, hstate'⟩ := ((hsettles ⟨0⟩ .itsAFeature).1 _ _ _ rfl hstumbles).2 (by
    rintro card hcard ⟨player, hplayer, hheld⟩
    cases hcard
    cases hplayer
    revert hheld
    decide)
  obtain ⟨refusal, -, hthird, -, hintact⟩ := (hsettles ⟨1⟩ .worksForMe).2 (by
    rintro ⟨-, _, _, _, hcurrent, -⟩
    cases hcurrent)
  exact ⟨hfirst, congrArg GameState.discardHeap hstate, hsecond,
    congrArg GameState.discardHeap hstate', refusal.message, hthird, hintact⟩

end Office

end RoundTable
