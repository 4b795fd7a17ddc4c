import RoundTable.Proofs.Rules.FrontRow
import RoundTable.Proofs.Table.TurnOrder

/-!
# Drawing past stumbling cards

Stumbling cards in front of a player have to be dealt with before the player draws, so they say. But
only one of them is dealt with in a turn: it lets the player into the phase in which cards are drawn,
and there nobody asks what else lies in the way. So a player who is stopped by one card at most draws
with nothing in the way, and any other player draws past the rest.

## Main results

* `TurnStage.stumblingCards_of_draw`: what lies in front of a player who draws
* `Rules.keeps_cleared`: players with one card in front of them at most deal with it first
* `Table.draws_past_all_but_one`: how many cards are left when cards are drawn, in every run
* `Table.draws_past_steeplechase`: with two cards in the way, one is left
-/

namespace RoundTable

variable {drawCount : Nat} {first phase target : Turn} {start state : GameState}
  {kinds : List EventKind}

/-- When cards are drawn, one card has been dealt with if the turn started with that, and nothing
else has changed in front of the player. -/
theorem TurnStage.stumblingCards_of_draw (h : TurnStage drawCount first start kinds phase state)
    {origin : PlayerId} (hallows : Rules.Allows state phase (.drawCards origin) target) :
    start.isCurrent origin = true ∧
      state.stumblingCards origin =
        if first = .stumbling then (start.stumblingCards origin).tail
        else start.stumblingCards origin := by
  cases h with
  | started =>
    cases hallows with
    | drawAtOnce current free =>
      have hnil := List.length_eq_zero_iff.mp (GameState.pendingStumbling?_eq_none_iff.mp free)
      refine ⟨current, ?_⟩
      rw [if_pos rfl, hnil, List.tail_nil]
    | draw current => exact ⟨current, (if_neg nofun).symm⟩
  | @resolved resolver via stumbling hcurrent =>
    cases hallows with
    | draw current =>
      rw [(start.alike_resolveStumbling resolver via drawCount).isCurrent] at current
      have hsame : origin = resolver := GameState.eq_of_isCurrent current hcurrent
      refine ⟨current, ?_⟩
      rw [GameState.stumblingCards_after, if_pos hsame, if_pos stumbling]
  | playing => cases hallows

/-- No player has to deal with more than one card, and nobody about to draw with any. -/
structure Cleared (phase : Turn) (state : GameState) : Prop where
  atMostOne : ∀ id, (state.stumblingCards id).length ≤ 1
  draw : phase = .draw → ∀ id, state.isCurrent id = true → state.pendingStumbling? id = none

theorem Cleared.free_of_draw (h : Cleared phase state) {origin : PlayerId}
    (hallows : Rules.Allows state phase (.drawCards origin) target) :
    state.pendingStumbling? origin = none := by
  cases hallows with
  | drawAtOnce _ free => exact free
  | draw current => exact h.draw rfl origin current

/-- Where players have one card in front of them at most, they deal with it before they draw. -/
theorem Rules.keeps_cleared (drawCount : Nat) : Rules.Keeps drawCount Cleared := by
  intro state phase target event hallows hcleared
  by_cases hkind : event.kind = .resolveStumbling
  · cases hallows with
    | @resolve origin via hcurrent =>
      have hcards (id : PlayerId) := state.stumblingCards_after origin via drawCount id
      refine ⟨fun id => ?_, fun _ id hid => ?_⟩
      · have hone := hcleared.atMostOne id
        rw [hcards]
        split
        · rw [List.length_tail]
          omega
        · exact hone
      · rw [(state.alike_resolveStumbling origin via drawCount).isCurrent] at hid
        have hsame : id = origin := GameState.eq_of_isCurrent hid hcurrent
        have hone := hcleared.atMostOne id
        rw [GameState.pendingStumbling?_eq_none_iff, hcards, if_pos hsame, List.length_tail]
        omega
    | _ => cases hkind
  · have hfront : (state.after event drawCount).frontCards = state.frontCards :=
      GameState.frontCards_after hkind drawCount
    have hcards := GameState.stumblingCards_congr hfront
    refine ⟨fun id => (hcards id).symm ▸ hcleared.atMostOne id, ?_⟩
    rintro rfl
    cases hallows
    exact absurd rfl hkind

namespace Table

/-- **All but one are drawn past.** In every run of every table: if cards are drawn in a turn, then
by whoever's turn it is; of the stumbling cards that lay in front of that player when the turn
started, the first one has been dealt with and all others are still there, or all of them if the
table was opened only after that. So nothing is left in the way exactly if there was one at most,
or none. If no player had more than one when the table was opened, and whoever was about to draw had
none, then nobody ever draws with anything in the way. -/
theorem draws_past_all_but_one {config : TableConfig} {state : GameState} {table : Table}
    (hopened : opened config state = .ok table) :
    (∀ (before during : List Errand) (errand : Errand) (origin : PlayerId),
      let start := (table.serveAll before).1
      let now := (start.serveAll during).1
      StartsTurn (table.accepted before) →
      .nextTurn ∉ (start.accepted during).map GameEvent.kind →
      errand.accepted? (now.serve errand).2 = some (.drawCards origin) →
        start.state.isCurrent origin = true ∧
        (now.state.stumblingCards origin =
          if start.phase = .stumbling then (start.state.stumblingCards origin).tail
          else start.state.stumblingCards origin) ∧
        (now.state.pendingStumbling? origin = none ↔
          (start.state.stumblingCards origin).length ≤ if start.phase = .stumbling then 1 else 0)) ∧
    ((∀ id, (state.stumblingCards id).length ≤ 1) →
      (state.turn = .draw → ∀ id, state.isCurrent id = true →
        state.pendingStumbling? id = none) →
      ∀ (errands : List Errand) (errand : Errand) (origin : PlayerId),
        let now := (table.serveAll errands).1
        errand.accepted? (now.serve errand).2 = some (.drawCards origin) →
          now.state.pendingStumbling? origin = none) := by
  constructor
  · intro before during errand origin start now _ hsame haccepted
    have hlies : start.LiesAt config.drawCount start.phase start.state :=
      liesAt_serveAll hopened before
    obtain ⟨hallows, -⟩ := (hlies.serveAll during).accepts haccepted
    obtain ⟨hcurrent, hcards⟩ := (hlies.turnStage during hsame).stumblingCards_of_draw hallows
    refine ⟨hcurrent, hcards, ?_⟩
    rw [GameState.pendingStumbling?_eq_none_iff, hcards]
    split
    · rw [List.length_tail]
      omega
    · omega
  · intro hone hdraw errands errand origin now haccepted
    have hcleared := holds_serveAll hopened (Rules.keeps_cleared config.drawCount)
      ⟨hone, hdraw⟩ errands
    obtain ⟨hallows, -⟩ := (liesAt_serveAll hopened errands).accepts haccepted
    exact hcleared.free_of_draw hallows

theorem draws_past_all_but_one_steeplechase :
    ((steeplechase [.fortranMaintenance]).serveAll
        [.apply (.resolveStumbling ⟨0⟩ none)]).1.state.pendingStumbling? ⟨0⟩ = none ∧
      ((steeplechase [.fortranMaintenance, .offTheJobTraining]).serveAll
        [.apply (.resolveStumbling ⟨0⟩ none)]).1.state.stumblingCards ⟨0⟩ =
          [.stumbling .offTheJobTraining] := by
  have hshort : opened {} (steeplechase [.fortranMaintenance]).state =
      .ok (steeplechase [.fortranMaintenance]) := rfl
  have hlong : opened {} (steeplechase [.fortranMaintenance, .offTheJobTraining]).state =
      .ok (steeplechase [.fortranMaintenance, .offTheJobTraining]) := rfl
  have hone (id : PlayerId) :
      ((steeplechase [.fortranMaintenance]).state.stumblingCards id).length ≤ 1 := by
    refine Nat.le_trans (List.length_filter_le _ _) ?_
    show ((([(⟨0⟩, [_])].find? fun entry => entry.1 = id).map Prod.snd).getD []).length ≤ 1
    rw [List.find?_singleton]
    split <;> decide
  constructor
  · exact (draws_past_all_but_one hshort).2 hone nofun
      [.apply (.resolveStumbling ⟨0⟩ none)] (.apply (.drawCards ⟨0⟩)) ⟨0⟩ rfl
  · exact ((draws_past_all_but_one hlong).1 [] [.apply (.resolveStumbling ⟨0⟩ none)]
      (.apply (.drawCards ⟨0⟩)) ⟨0⟩ nofun (by decide) rfl).2.1

/-- So cards are drawn with a stumbling card in the way. -/
theorem draws_past_steeplechase :
    let table := steeplechase [.fortranMaintenance, .offTheJobTraining]
    let now := (table.serveAll [.apply (.resolveStumbling ⟨0⟩ none)]).1
    opened {} table.state = .ok table ∧
      (Errand.apply (.drawCards ⟨0⟩)).accepted? (now.serve (.apply (.drawCards ⟨0⟩))).2 =
        some (.drawCards ⟨0⟩) ∧
      now.state.pendingStumbling? ⟨0⟩ = some (.stumbling .offTheJobTraining) :=
  ⟨rfl, rfl, rfl⟩

end Table

end RoundTable
