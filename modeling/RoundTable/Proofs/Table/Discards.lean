import RoundTable.Proofs.Rules.Hands
import RoundTable.Proofs.Table.LiesAt

/-!
# Discards are exact

Whether cards can be given away is found out on a copy of the hand, from which they are taken one
after another. When they are given away, they are taken from the hand itself one after another, and
a card that is not there would be passed over. The two agree: what has been found on the copy is
found in the hand, so nothing is passed over, and all the cards come to the heap in the order in
which they were named.

## Main results

* `Player.handHolds_iff_count`: what it takes to give cards away together, copies counted
* `GameState.after_discard`: the state after cards have been given away
* `Table.discards_exact`: which discards a table accepts, and what becomes of them
-/

namespace RoundTable

/-! ### Copies -/

/-- **Cards can be taken out of a hand one after another** exactly if none of them is named more
often than there are copies of it. -/
theorem Player.handHolds_iff_count {hand cards : List Card} :
    handHolds hand cards = true ↔ ∀ card, cards.count card ≤ hand.count card := by
  induction cards generalizing hand with
  | nil => simp [handHolds]
  | cons first rest ih =>
    rw [handHolds, Bool.and_eq_true, decide_eq_true_iff, ih]
    constructor
    · rintro ⟨hmem, hrest⟩ card
      have hpos : 0 < hand.count first := List.count_pos_iff.mpr hmem
      have hcard := hrest card
      rw [List.count_erase] at hcard
      rw [List.count_cons]
      by_cases hsame : first = card
      · subst hsame
        simp only [BEq.rfl, if_true] at hcard ⊢
        omega
      · simpa [hsame] using hcard
    · intro hall
      have hfirst := hall first
      rw [List.count_cons_self] at hfirst
      refine ⟨List.count_pos_iff.mp (by omega), fun card => ?_⟩
      have hcard := hall card
      rw [List.count_cons] at hcard
      rw [List.count_erase]
      omega

/-! ### Cards on their way to the heap -/

namespace GameState

variable {state : GameState} {id origin : PlayerId} {card : Card} {cards : List Card}

/-- The first player with an identifier sits somewhere, and is the one who is changed. -/
theorem exists_updateFirst {players : List Player} {player : Player}
    (hplayer : players.find? (fun other => other.id = id) = some player)
    (change : Player → Player) :
    ∃ front back, players = front ++ player :: back ∧ (∀ other ∈ front, other.id ≠ id) ∧
      updateFirst id change players = front ++ change player :: back := by
  induction players with
  | nil => cases hplayer
  | cons first rest ih =>
    rw [updateFirst]
    by_cases hfirst : first.id = id
    · rw [List.find?_cons_of_pos (by simpa using hfirst)] at hplayer
      cases hplayer
      exact ⟨[], rest, rfl, List.forall_mem_nil _, if_pos hfirst⟩
    · rw [List.find?_cons_of_neg (by simpa using hfirst)] at hplayer
      obtain ⟨front, back, rfl, hfront, hchanged⟩ := ih hplayer
      refine ⟨first :: front, back, rfl, List.forall_mem_cons.mpr ⟨hfirst, hfront⟩, ?_⟩
      rw [if_neg hfirst, hchanged, List.cons_append]

/-- To change a player twice is to make both changes at once. -/
theorem updateFirst_updateFirst {change : Player → Player}
    (hkeeps : ∀ player, (change player).id = player.id) (change' : Player → Player)
    (players : List Player) :
    updateFirst id change' (updateFirst id change players) =
      updateFirst id (fun player => change' (change player)) players := by
  induction players with
  | nil => rfl
  | cons first rest ih =>
    rw [updateFirst, updateFirst]
    by_cases hfirst : first.id = id
    · rw [if_pos hfirst, if_pos hfirst, updateFirst, if_pos ((hkeeps first).trans hfirst)]
    · rw [if_neg hfirst, if_neg hfirst, updateFirst, if_neg hfirst, ih]

/-- Whoever holds cards together still holds the others when the first one is gone. -/
theorem HasAllInHand.discardFromHand (h : state.HasAllInHand origin (card :: cards)) :
    state.HasInHand origin card ∧
      (state.discardFromHand origin card).HasAllInHand origin cards := by
  obtain ⟨player, hplayer, hholds⟩ := h
  rw [Player.holdsAll, Player.handHolds, Bool.and_eq_true, decide_eq_true_iff] at hholds
  refine ⟨⟨player, hplayer, hholds.1⟩, player.give card, ?_, hholds.2⟩
  rw [player?_discardFromHand, hplayer, Option.map_some, if_pos rfl]

/-- **The state after cards have been given away** that were held together: the player's hand is
without them, and they lie on the heap. -/
theorem after_discard (h : state.HasAllInHand origin cards) (drawCount : Nat) :
    state.after (.discard origin cards) drawCount =
      { state.updatePlayer origin fun player =>
          { player with cards := cards.foldl List.erase player.cards } with
        discardHeap := state.discardHeap ++ cards } := by
  change cards.foldl (fun state card => state.discardFromHand origin card) state = _
  induction cards generalizing state with
  | nil =>
    have hsame : (updateFirst origin (fun player => { player with cards := player.cards })
        state.players).map (fun player => player) = state.players.map fun player => player :=
      map_updateFirst (fun _ => rfl) state.players
    rw [List.map_id', List.map_id'] at hsame
    simp only [List.foldl_nil, List.append_nil, updatePlayer, hsame]
  | cons card cards ih =>
    obtain ⟨hcard, hcards⟩ := h.discardFromHand
    have hgive (player : Player) : (player.give card).id = player.id := rfl
    rw [List.foldl_cons, ih hcards, GameState.discardFromHand, if_pos (any_holds_iff.mpr hcard)]
    simp only [updatePlayer, updateFirst_updateFirst hgive, List.append_assoc,
      List.singleton_append, List.foldl_cons]
    rfl

/-- The same, seat by seat. -/
theorem exists_after_discard (h : state.HasAllInHand origin cards) (drawCount : Nat) :
    ∃ front player back, state.players = front ++ player :: back ∧
      (∀ other ∈ front, other.id ≠ origin) ∧ state.player? origin = some player ∧
      state.after (.discard origin cards) drawCount =
        { state with
          players :=
            front ++ { player with cards := cards.foldl List.erase player.cards } :: back
          discardHeap := state.discardHeap ++ cards } := by
  obtain ⟨player, hplayer, hholds⟩ := h
  obtain ⟨front, back, hplayers, hfront, hchanged⟩ := exists_updateFirst hplayer
    fun player => { player with cards := cards.foldl List.erase player.cards }
  refine ⟨front, player, back, hplayers, hfront, hplayer, ?_⟩
  rw [after_discard ⟨player, hplayer, hholds⟩, updatePlayer, hchanged]

end GameState

/-! ### Tables -/

/-- A discard is allowed in one phase, to whoever's turn it is and who holds all the cards. -/
theorem Rules.allows_discard_iff {state : GameState} {origin : PlayerId} {cards : List Card}
    {target : Turn} :
    Rules.Allows state .play (.discard origin cards) target ↔
      target = .play ∧ state.isCurrent origin = true ∧ state.HasAllInHand origin cards := by
  constructor
  · intro hallows
    cases hallows with
    | discard current held => exact ⟨rfl, current, held⟩
  · rintro ⟨rfl, hcurrent, hheld⟩
    exact .discard hcurrent hheld

namespace Table

/-- **Discards are exact.** Cards are held together exactly if none of them is named more often than
there are copies of it in the hand. Let a table be opened with any players, and let any errands have
been done there; if it is time to play, a discard is accepted exactly if it comes from whoever's
turn it is, and all the cards are held together. Then the first copy that is left of each card named
has been taken out of the hand of that player, one card after another, the heap has the cards at its
end in the order in which they were named, and nothing else has changed. The player is the first one
with the identifier, and so whoever's turn it is if no two players have the same. If the discard is
refused, nothing has changed at all. -/
theorem discards_exact {config : TableConfig} {state : GameState} {table : Table}
    (hopened : opened config state = .ok table) :
    (∀ (player : Player) (cards : List Card),
      player.holdsAll cards = true ↔ ∀ card, cards.count card ≤ player.cards.count card) ∧
    ∀ errands : List Errand,
      let now := (table.serveAll errands).1
      now.phase = .play → ∀ (origin : PlayerId) (cards : List Card),
        let sent := now.apply (.discard origin cards)
        let after := sent.1
        ((∃ states, sent.2 = .ok states) ↔ now.state.isCurrent origin = true ∧
          ∃ player, now.state.player? origin = some player ∧ player.holdsAll cards = true) ∧
        (∀ states, sent.2 = .ok states → states = (now.state, after.state) ∧
          after.phase = .play ∧
          ∃ front player back, now.state.players = front ++ player :: back ∧
            (∀ other ∈ front, other.id ≠ origin) ∧ now.state.player? origin = some player ∧
            (now.state.seats.Nodup → now.state.currentPlayer? = some player) ∧
            after.state =
              { now.state with
                players :=
                  front ++ { player with cards := cards.foldl List.erase player.cards } :: back
                discardHeap := now.state.discardHeap ++ cards }) ∧
        ∀ refusal, sent.2 = .error refusal → after.phase = now.phase ∧ after.state = now.state ∧
          after.machine.history = now.machine.history := by
  refine ⟨fun player cards => Player.handHolds_iff_count, ?_⟩
  intro errands now hplay origin cards sent after
  have hlies : now.LiesAt config.drawCount .play now.state :=
    hplay ▸ liesAt_serveAll hopened errands
  by_cases hheld : now.state.isCurrent origin = true ∧ now.state.HasAllInHand origin cards
  · have hallows := Rules.allows_discard_iff.mpr ⟨rfl, hheld⟩
    obtain ⟨hresult, hafter⟩ := hlies.apply hallows
    refine ⟨iff_of_true ⟨_, hresult⟩ hheld, ?_, ?_⟩
    · intro states hstates
      obtain ⟨front, player, back, hplayers, hfront, hplayer, hstate⟩ :=
        GameState.exists_after_discard hheld.2 config.drawCount
      refine ⟨?_, hafter.phase, front, player, back, hplayers, hfront, hplayer, ?_, ?_⟩
      · rw [hafter.state]
        exact (Except.ok.inj (hresult.symm.trans hstates)).symm
      · exact fun hnodup => GameState.currentPlayer?_of_isCurrent hnodup hheld.1 hplayer
      · exact hafter.state.trans hstate
    · intro refusal hrefused
      cases hresult.symm.trans hrefused
  · have hbarred (target : Turn) : ¬Rules.Allows now.state .play (.discard origin cards) target :=
      fun hallows => hheld (Rules.allows_discard_iff.mp hallows).2
    obtain ⟨refusal, hresult, hrefuses, -⟩ := hlies.apply_refused hbarred
    refine ⟨iff_of_false ?_ hheld, ?_, fun _ _ =>
      ⟨hrefuses.phase, hrefuses.state, hrefuses.history⟩⟩
    · rintro ⟨states, hstates⟩
      cases hresult.symm.trans hstates
    · intro states hstates
      cases hresult.symm.trans hstates

/-- The first of two players is playing, and holds two copies of the same bug report. -/
def handful : Table where
  machine := .opened Rules.turnTable .play
    { GameState.opening .zero
        [{ Player.seated ⟨0⟩ "Ada" .manager .kentBeck 3 with
            cards := [.bug .coreDump, .excuse .worksForMe, .bug .coreDump, .bug .offByOne] },
          .seated ⟨1⟩ "Bob" .consultant .konradZuse 3] [.bug .systemHangs] with
      turn := .play }
    (fun state event => state.after event 2) (fun _ => false)
  config := {}

theorem discards_exact_handful :
    let sent := handful.apply (.discard ⟨0⟩ [.excuse .worksForMe, .bug .coreDump])
    (∃ states, sent.2 = .ok states) ∧
      sent.1.state.players.map Player.cards = [[.bug .coreDump, .bug .offByOne], []] ∧
      sent.1.state.discardHeap = [.excuse .worksForMe, .bug .coreDump] ∧
      ¬∃ states, (handful.apply (.discard ⟨0⟩ (.replicate 3 (.bug .coreDump)))).2 = .ok states := by
  intro sent
  have hopened : opened {} handful.state = .ok handful := rfl
  obtain ⟨hcopies, hdiscards⟩ := discards_exact hopened
  obtain ⟨haccepts, hdone, -⟩ :=
    hdiscards [] rfl ⟨0⟩ [.excuse .worksForMe, .bug .coreDump]
  have haccepted : ∃ states, sent.2 = .ok states := haccepts.mpr ⟨by decide, _, rfl, by decide⟩
  obtain ⟨states, hstates⟩ := haccepted
  obtain ⟨-, -, front, player, back, hplayers, hfront, -, -, hafter⟩ := hdone states hstates
  refine ⟨⟨states, hstates⟩, ?_, congrArg GameState.discardHeap hafter, ?_⟩
  · -- nobody sits in front of the first player
    cases front with
    | nil =>
      obtain ⟨rfl, rfl⟩ := List.cons.inj hplayers
      exact congrArg (fun state : GameState => state.players.map Player.cards) hafter
    | cons first front =>
      obtain ⟨rfl, -⟩ := List.cons.inj hplayers
      exact absurd rfl (hfront _ List.mem_cons_self)
  · rintro hthree
    obtain ⟨-, player, hplayer, hheld⟩ :=
      (hdiscards [] rfl ⟨0⟩ (.replicate 3 (.bug .coreDump))).1.mp hthree
    cases hplayer
    exact absurd ((hcopies _ _).mp hheld (.bug .coreDump)) (by decide)

end Table

end RoundTable
