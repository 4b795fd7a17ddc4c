import RoundTable.Proofs.Rules.Hands
import RoundTable.Proofs.Table.Circle
import RoundTable.Walk.Chooser

/-!
# What is chosen is accepted

Those who choose look at hands and seats in other ways than the rules do: they take the first excuse
and the first bug, the end of the hand, and the neighbour; the rules ask whether a card is held,
whether cards are held together, and whether somebody else sits there. Whoever takes the first thing
on offer still never proposes what is refused.

## Main definitions

* `Chooser.Proposes`: the events that are made of choices

## Main results

* `Chooser.Proposes.allows`: what the rules say to the first thing on offer
* `Table.accepts_first_choice`: tables accept it
-/

namespace RoundTable

namespace Chooser

/-! ### Events made of choices -/

/-- In the given phase a player may be about to send an event that is made of what a chooser
says. -/
inductive Proposes (chooser : Chooser) (state : GameState) (me : PlayerId) :
    Turn → GameEvent → Prop where
  | report {victim : PlayerId} {bug : BugReport} (current : state.isCurrent me = true)
    (calm : state.pendingAttack = none) (target : chooser.player state me = some victim)
    (weapon : chooser.attack state me = some bug) :
    Proposes chooser state me .play (.reportBug me victim bug)
  | discard {amount : Nat} {cards : List Card} (current : state.isCurrent me = true)
    (chosen : chooser.discards state me amount = some cards) :
    Proposes chooser state me .play (.discard me cards)
  | excuse {attack : PendingAttack} {card : Card} (pending : state.pendingAttack = some attack)
    (attacked : attack.victim = me) (answer : chooser.response state me = some card) :
    Proposes chooser state me .play (.reactWithCard me me card)
  | resolve {card : Card} (current : state.isCurrent me = true)
    (blocked : (state.pendingStumbling? me).isSome = true)
    (answer : chooser.response state me = some card) :
    Proposes chooser state me .stumbling (.resolveStumbling me (some card))

/-! ### The first thing on offer -/

variable {state : GameState} {me : PlayerId} {phase : Turn} {event : GameEvent}

/-- The first excuse in a hand is one, and in the hand. -/
theorem mem_response_first {card : Card} (h : card ∈ first.response state me) :
    card.kind = .excuse ∧ state.HasInHand me card := by
  obtain ⟨player, hplayer, hfind⟩ := Option.bind_eq_some_iff.mp h
  exact ⟨by simpa using List.find?_some hfind, player, hplayer, List.mem_of_find?_eq_some hfind⟩

/-- The first bug in a hand is a card there. -/
theorem hasInHand_of_attack_first {bug : BugReport} (h : first.attack state me = some bug) :
    state.HasInHand me (.bug bug) := by
  obtain ⟨player, hplayer, hhead⟩ := Option.bind_eq_some_iff.mp h
  obtain ⟨card, hcard, hbug⟩ := List.mem_filterMap.mp (List.mem_of_head? hhead)
  cases card <;> cases hbug
  exact ⟨player, hplayer, hcard⟩

/-- The neighbour is somebody else, who sits at the table. -/
theorem isSeated_of_player_first {victim : PlayerId} (h : first.player state me = some victim) :
    me ≠ victim ∧ state.isSeated victim = true := by
  obtain ⟨seat, -, hseat⟩ := Option.bind_eq_some_iff.mp h
  obtain ⟨next, hnext, hvictim⟩ := Option.bind_eq_some_iff.mp hseat
  split at hvictim
  case isTrue => cases hvictim
  case isFalse hother =>
    obtain rfl := Option.some.inj hvictim
    exact ⟨Ne.symm hother, GameState.isSeated_iff.mpr
      (List.mem_map_of_mem (List.mem_of_getElem? hnext))⟩

/-- The newest cards are as many as asked for, and they are held together. -/
theorem discards_first {player : Player} (hplayer : state.player? me = some player) (amount : Nat) :
    first.discards state me amount =
      if amount ≤ player.cards.length then
        some (player.cards.drop (player.cards.length - amount))
      else none := by
  change (state.player? me).bind _ = _
  rw [hplayer, Option.bind_some]

theorem hasAllInHand_of_discards_first {amount : Nat} {cards : List Card}
    (h : first.discards state me amount = some cards) : state.HasAllInHand me cards := by
  obtain ⟨player, hplayer, hcards⟩ := Option.bind_eq_some_iff.mp h
  obtain ⟨-, hcards⟩ := Option.ite_none_right_eq_some.mp hcards
  obtain rfl := Option.some.inj hcards
  exact ⟨player, hplayer, Player.handHolds_of_sublist (List.drop_sublist _ _)⟩

/-- **The rules allow whatever is made of the first thing on offer.** -/
theorem Proposes.allows (h : first.Proposes state me phase event)
    (hseated : state.isSeated me = true) :
    ∃ target, Rules.Allows state phase event target := by
  cases h with
  | report current calm target weapon =>
    obtain ⟨hother, hvictim⟩ := isSeated_of_player_first target
    exact ⟨_, .report current calm (hasInHand_of_attack_first weapon) hother hvictim⟩
  | discard current chosen => exact ⟨_, .discard current (hasAllInHand_of_discards_first chosen)⟩
  | excuse pending attacked answer =>
    obtain ⟨hkind, hheld⟩ := mem_response_first answer
    exact ⟨_, .excuse hseated pending (.inr attacked.symm) attacked.symm hkind hheld⟩
  | resolve current blocked answer =>
    refine ⟨_, .resolve current blocked fun card hcard => ?_⟩
    obtain rfl := Option.some.inj hcard
    exact (mem_response_first answer).2

end Chooser

namespace Table

variable {drawCount : Nat} {phase : Turn} {state : GameState} {table : Table} {me : PlayerId}
  {player : Player}

/-- **Whoever takes the first thing on offer is never refused**, however many copies of a card are
in a hand and whoever sits where, also two players with one identifier. At a table in any state,
every event made of such choices is accepted and does what it says. The cards to give away are as
many as asked for, and there are some whenever the hand has so many. -/
theorem accepts_first_choice (hlies : table.LiesAt drawCount phase state)
    (hplayer : state.player? me = some player) :
    (∀ event, Chooser.first.Proposes state me phase event →
      (table.apply event).2 = .ok (state, state.after event drawCount)) ∧
    ∀ amount,
      (∀ cards, Chooser.first.discards state me amount = some cards → cards.length = amount) ∧
      ((Chooser.first.discards state me amount).isSome = true ↔
        amount ≤ player.cards.length) := by
  have hseated : state.isSeated me = true := Option.isSome_iff_exists.mpr ⟨player, hplayer⟩
  refine ⟨fun event hproposes => ?_, fun amount => ?_⟩
  · obtain ⟨target, hallows⟩ := hproposes.allows hseated
    exact (hlies.apply hallows).1
  · rw [Chooser.discards_first hplayer]
    by_cases hfits : amount ≤ player.cards.length
    · rw [if_pos hfits]
      refine ⟨fun cards hcards => ?_, iff_of_true rfl hfits⟩
      obtain rfl := Option.some.inj hcards
      rw [List.length_drop]
      omega
    · rw [if_neg hfits]
      exact ⟨nofun, iff_of_false nofun hfits⟩

/-- A table of two, in a phase and with an attack or none. The first player has the turn, a hand
with a card that is there twice, and something in the way. -/
def burdened (turn : Turn) (pendingAttack : Option PendingAttack) : Table where
  machine := .opened Rules.turnTable turn
    { GameState.opening .zero
        [{ Player.seated ⟨1⟩ "Ada" .manager .kentBeck 3 with
            cards := [.bug .offByOne, .excuse .worksForMe, .bug .offByOne] },
          .seated ⟨2⟩ "Eve" .consultant .konradZuse 3] [] with
      turn, pendingAttack
      frontCards := FrontCards.empty.push ⟨1⟩ (.stumbling .offTheJobTraining) }
    (fun state event => state.after event 2) (fun _ => false)
  config := {}

theorem accepts_first_choice_burdened :
    (∃ state, ((burdened .play none).apply (.reportBug ⟨1⟩ ⟨2⟩ .offByOne)).2 = .ok state) ∧
    (∃ state, ((burdened .play none).apply
      (.discard ⟨1⟩ [.excuse .worksForMe, .bug .offByOne])).2 = .ok state) ∧
    (∃ state, ((burdened .play (some ⟨⟨2⟩, ⟨1⟩, .coreDump⟩)).apply
      (.reactWithCard ⟨1⟩ ⟨1⟩ (.excuse .worksForMe))).2 = .ok state) ∧
    (∃ state, ((burdened .stumbling none).apply
      (.resolveStumbling ⟨1⟩ (some (.excuse .worksForMe)))).2 = .ok state) ∧
    (Chooser.first.discards (burdened .play none).state ⟨1⟩ 4).isSome = false := by
  have hlies (turn : Turn) (attack : Option PendingAttack) :
      (burdened turn attack).LiesAt 2 turn (burdened turn attack).state := by
    have hopened : opened {} (burdened turn attack).state = .ok (burdened turn attack) := rfl
    exact liesAt_serveAll hopened []
  have hada (turn : Turn) (attack : Option PendingAttack) :
      (burdened turn attack).state.player? ⟨1⟩ = some _ := rfl
  have htwo : Chooser.first.discards (burdened .play none).state ⟨1⟩ 2 =
      some [.excuse .worksForMe, .bug .offByOne] := rfl
  obtain ⟨hcalm, hdiscards⟩ := accepts_first_choice (hlies .play none) (hada _ _)
  obtain ⟨hattacked, -⟩ :=
    accepts_first_choice (hlies .play (some ⟨⟨2⟩, ⟨1⟩, .coreDump⟩)) (hada _ _)
  obtain ⟨hblocked, -⟩ := accepts_first_choice (hlies .stumbling none) (hada _ _)
  refine ⟨⟨_, hcalm _ (.report rfl rfl rfl rfl)⟩, ⟨_, hcalm _ (.discard rfl htwo)⟩,
    ⟨_, hattacked _ (.excuse rfl rfl rfl)⟩, ⟨_, hblocked _ (.resolve rfl rfl rfl)⟩, ?_⟩
  rw [Bool.eq_false_iff, Ne, (hdiscards 4).2]
  decide

end Table

end RoundTable
