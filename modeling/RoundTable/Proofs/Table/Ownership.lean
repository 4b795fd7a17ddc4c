import RoundTable.Proofs.Rules.FrontRow
import RoundTable.Proofs.Rules.Spending
import RoundTable.Proofs.Table.AttackProtocol
import RoundTable.Proofs.Table.LiesAt

/-!
# Events change only what they own

An event falls on one player: a reaction on the victim of the attack, every other event on the player
it comes from. It may change the hand and the mental health of that player, and nobody else's; who
sits where, and who everybody is, it does not change at all. Played cards are laid on the heap, and
none is ever taken from it. What lies in front of players changes only when somebody deals with the
first stumbling card there, and then by that card alone.

## Main definitions

* `Player.profile`: what no event changes of a player
* `GameEvent.subject`: the player on whom an event falls
* `GameState.Spares`: states between which nothing has changed but what one player owns

## Main results

* `GameState.spares_after`: an event spares everybody but its subject
* `GameState.blocked_of_resolves`: one stumbling card goes to the heap
* `Table.changes_only_own`: so it is along every run
-/

namespace RoundTable

/-- Who a player is, and the points of prestige: all but the hand and the mental health. -/
def Player.profile (player : Player) : PlayerId × String × Role × Character × UInt32 :=
  (player.id, player.name, player.role, player.character, player.prestige)

/-- The player on whom an event falls. -/
def GameEvent.subject (event : GameEvent) : PlayerId := event.reaction?.getD event.origin

namespace GameState

/-! ### Moves -/

/-- Between two states nothing has happened to anybody but one player, and to that one only as far as
hand and mental health go; and the heap has grown at its end, if at all. -/
structure Spares (owner : PlayerId) (before after : GameState) : Prop where
  id : after.id = before.id
  profiles : after.players.map Player.profile = before.players.map Player.profile
  others : ∀ (seat : Nat) (player : Player), before.players[seat]? = some player →
    player.id ≠ owner → after.players[seat]? = some player
  heap : before.discardHeap <+: after.discardHeap

variable {owner : PlayerId} {before middle after state : GameState}

/-- Where the players are as they were, everybody is spared. -/
theorem Spares.of_players (hid : after.id = before.id) (hplayers : after.players = before.players)
    (hheap : before.discardHeap <+: after.discardHeap) : Spares owner before after :=
  ⟨hid, congrArg _ hplayers, fun _ _ hplayer _ => hplayers ▸ hplayer, hheap⟩

theorem Spares.refl (owner : PlayerId) (state : GameState) : Spares owner state state :=
  .of_players rfl rfl (List.prefix_refl _)

theorem Spares.trans (first : Spares owner before middle) (second : Spares owner middle after) :
    Spares owner before after where
  id := second.id.trans first.id
  profiles := second.profiles.trans first.profiles
  others seat player hplayer hother :=
    second.others seat player (first.others seat player hplayer hother) hother
  heap := first.heap.trans second.heap

theorem spares_updatePlayer (state : GameState) (id : PlayerId) {change : Player → Player}
    (hchange : ∀ player, (change player).profile = player.profile) :
    Spares id state (state.updatePlayer id change) where
  id := rfl
  profiles := map_updateFirst hchange state.players
  others seat player hplayer hother := by
    obtain hsame | ⟨hid, -⟩ := getElem?_updateFirst id change state.players seat hplayer
    · exact hsame
    · exact absurd hid hother
  heap := List.prefix_refl _

theorem spares_discardFromHand (state : GameState) (owner : PlayerId) (card : Card) :
    Spares owner state (state.discardFromHand owner card) := by
  rw [discardFromHand]
  split
  · have hgive (player : Player) : (player.give card).profile = player.profile := rfl
    exact (state.spares_updatePlayer owner hgive).trans
      (.of_players rfl rfl (List.prefix_append _ _))
  · exact .refl owner state

theorem spares_foldl_discardFromHand (state : GameState) (owner : PlayerId) (cards : List Card) :
    Spares owner state
      (cards.foldl (fun state card => state.discardFromHand owner card) state) := by
  induction cards generalizing state with
  | nil => exact .refl owner state
  | cons card cards ih => exact (state.spares_discardFromHand owner card).trans (ih _)

theorem spares_loseHealth (state : GameState) (victim : PlayerId) :
    Spares victim state (state.loseHealth victim) :=
  state.spares_updatePlayer victim fun _ => rfl

theorem spares_clearStumbling (owner : PlayerId) (state : GameState) (id : PlayerId) :
    Spares owner state (state.clearStumbling id) := by
  rw [clearStumbling]
  split
  · exact .refl owner state
  · exact .of_players rfl rfl (List.prefix_append _ _)

/-! ### Events -/

/-- **An event spares everybody but its subject.** -/
theorem spares_after (state : GameState) (event : GameEvent) (drawCount : Nat) :
    Spares event.subject state (state.after event drawCount) := by
  cases event with
  | drawCards origin =>
    have hreceive (player : Player) :
        (player.receive (state.drawPile.take drawCount)).profile = player.profile := rfl
    exact (state.spares_updatePlayer origin hreceive).trans
      (.of_players rfl rfl (List.prefix_refl _))
  | nextTurn origin => exact .of_players rfl rfl (List.prefix_refl _)
  | reportBug origin victim bug =>
    exact (state.spares_discardFromHand origin (.bug bug)).trans
      (.of_players rfl rfl (List.prefix_refl _))
  | reactWithCard origin victim card =>
    exact (state.spares_discardFromHand victim card).trans
      (.of_players rfl rfl (List.prefix_refl _))
  | reactWithoutCard origin victim =>
    exact (state.spares_loseHealth victim).trans (.of_players rfl rfl (List.prefix_refl _))
  | resolveStumbling origin via =>
    refine (spares_clearStumbling origin state origin).trans ?_
    cases via with
    | none =>
      exact ((state.clearStumbling origin).spares_loseHealth origin).trans
        (.of_players rfl rfl (List.prefix_refl _))
    | some card =>
      exact ((state.clearStumbling origin).spares_discardFromHand origin card).trans
        (.of_players rfl rfl (List.prefix_refl _))
  | discard origin cards => exact state.spares_foldl_discardFromHand origin cards

theorem discardHeap_discardFromHand {card : Card} (hheld : state.HasInHand owner card) :
    (state.discardFromHand owner card).discardHeap = state.discardHeap ++ [card] := by
  rw [discardFromHand, if_pos (any_holds_iff.mpr hheld)]

/-- **One stumbling card goes to the heap**, the first one in front of whoever deals with it, and the
card that is spent on it goes there after it. -/
theorem blocked_of_resolves {origin : PlayerId} {via : Option Card} {phase target : Turn}
    (hallows : Rules.Allows state phase (.resolveStumbling origin via) target) (drawCount : Nat) :
    let after := state.after (.resolveStumbling origin via) drawCount
    ∃ ahead block behind, state.frontCards.Blocked origin ahead block behind ∧
      after.frontCards.get origin = ahead ++ behind ∧
      (∀ other, other ≠ origin → after.frontCards.get other = state.frontCards.get other) ∧
      after.discardHeap = state.discardHeap ++ block :: via.toList := by
  intro after
  cases hallows with
  | resolve _ hblock hheld =>
    obtain ⟨ahead, block, behind, hblocked⟩ := isSome_pendingStumbling?_iff.mp hblock
    have hcleared := clearStumbling_eq hblocked
    have hfront : after.frontCards = state.frontCards.modify origin fun _ => ahead ++ behind := by
      rw [state.frontCards_resolveStumbling, hcleared]
    refine ⟨ahead, block, behind, hblocked, ?_, fun other hother => ?_, ?_⟩
    · rw [hfront, hblocked.get_modify, if_pos rfl]
    · rw [hfront, hblocked.get_modify, if_neg hother]
    · cases via with
      | none =>
        change (state.clearStumbling origin).discardHeap = _
        rw [hcleared, Option.toList_none]
      | some card =>
        have hheld' : (state.clearStumbling origin).HasInHand origin card := by
          rw [hcleared]
          exact hheld card rfl
        change ((state.clearStumbling origin).discardFromHand origin card).discardHeap = _
        rw [discardHeap_discardFromHand hheld', hcleared, Option.toList_some, List.append_assoc,
          List.singleton_append]

end GameState

namespace Table

variable {table : Table}

/-! ### Errands -/

theorem Takes.spares {before after : Table} {event : GameEvent} (h : before.Takes event after) :
    before.state.Spares event.subject after.state := by
  rw [h.state]
  exact before.state.spares_after event _

/-- The table stays the same, and so does who sits there. -/
theorem profiles_serveAll (hopen : table.IsOpen) (errands : List Errand) :
    ((table.serveAll errands).1.state.id,
      (table.serveAll errands).1.state.players.map Player.profile) =
      (table.state.id, table.state.players.map Player.profile) := by
  refine hopen.unchanged (fun after => (after.state.id, after.state.players.map Player.profile))
    (fun htakes => ?_) (fun hrefuses => ?_) errands
  · rw [htakes.spares.id, htakes.spares.profiles]
  · rw [hrefuses.state]

/-- The heap grows at its end. -/
theorem discardHeap_serveAll (hopen : table.IsOpen) (errands : List Errand) :
    table.state.discardHeap <+: (table.serveAll errands).1.state.discardHeap := by
  refine (course_serveAll hopen errands).keeps
    (P := fun after => table.state.discardHeap <+: after.state.discardHeap)
    (fun htakes hbefore => ?_) (fun hrefuses hbefore => ?_) (List.prefix_refl _)
  · exact hbefore.trans htakes.spares.heap
  · rw [hrefuses.state]
    exact hbefore

/-- **Events change only what they own.** Let a table be opened, with any players.

* After any errands, the table is the same, and the same players sit at the same seats, each with the
  same name, role, character and prestige; and the heap of any earlier moment is where the heap of a
  later one starts.
* An errand that has had nothing accepted has left the state as it was. If a reaction is accepted, an
  attack waits for it, and everybody but its victim has the hand and the mental health that they had;
  if another event is accepted, so has everybody but the player it comes from.
* What lies in front of players stays there unless somebody's answer to a stumbling card is accepted.
  Then the first stumbling card in front of that player goes to the heap, before the card that was
  spent on it; all other cards lie where they lay, in front of the player and of everybody else.
* At the gate, whenever nobody is inside, so it is with the visitors who have been inside, one after
  another. -/
theorem changes_only_own {config : TableConfig} {state : GameState}
    (hopened : opened config state = .ok table) :
    (∀ earlier later : List Errand,
      let before := (table.serveAll earlier).1.state
      let after := (table.serveAll (earlier ++ later)).1.state
      after.id = state.id ∧ after.players.map Player.profile = state.players.map Player.profile ∧
        state.discardHeap <+: before.discardHeap ∧ before.discardHeap <+: after.discardHeap) ∧
    (∀ (errands : List Errand) (errand : Errand),
      let before := (table.serveAll errands).1
      let after := (before.serve errand).1
      (errand.accepted? (before.serve errand).2 = none → after.state = before.state) ∧
      ∀ event, errand.accepted? (before.serve errand).2 = some event →
        (∀ victim, event.reaction? = some victim →
          ∃ attack, before.state.pendingAttack = some attack ∧
            ∀ (seat : Nat) (player : Player), before.state.players[seat]? = some player →
              player.id ≠ attack.victim → after.state.players[seat]? = some player) ∧
        (event.reaction? = none →
          ∀ (seat : Nat) (player : Player), before.state.players[seat]? = some player →
            player.id ≠ event.origin → after.state.players[seat]? = some player) ∧
        (event.kind ≠ .resolveStumbling → after.state.frontCards = before.state.frontCards) ∧
        ∀ origin via, event = .resolveStumbling origin via →
          ∃ ahead block behind, before.state.frontCards.Blocked origin ahead block behind ∧
            after.state.frontCards.get origin = ahead ++ behind ∧
            (∀ other, other ≠ origin →
              after.state.frontCards.get other = before.state.frontCards.get other) ∧
            after.state.discardHeap = before.state.discardHeap ++ block :: via.toList) ∧
    ∀ (ι : Type) [DecidableEq ι] (errand : ι → Errand) (labels : List (GateLabel ι))
      (gate : Gate ι), (Gate.opened table).run? errand labels = some gate → gate.holder = none →
        gate.table = (table.serveAll (gate.admitted.map errand)).1 ∧
        gate.accepted errand = table.accepted (gate.admitted.map errand) := by
  have hopen := isOpen_of_withEdges hopened
  have hstate := state_of_withEdges hopened
  refine ⟨fun earlier later => ?_, fun errands errand => ?_, ?_⟩
  · rw [← hstate]
    obtain ⟨hid, hprofiles⟩ := Prod.mk.inj (profiles_serveAll hopen (earlier ++ later))
    refine ⟨hid, hprofiles, discardHeap_serveAll hopen earlier, ?_⟩
    rw [fst_serveAll_append]
    exact discardHeap_serveAll (isOpen_serveAll hopen earlier) later
  · have hlies := liesAt_serveAll hopened errands
    refine ⟨fun hrefused => (hlies.refuses hrefused).2, fun event haccepted => ?_⟩
    obtain ⟨hallows, hafter⟩ := hlies.accepts haccepted
    have hspares := (table.serveAll errands).1.state.spares_after event config.drawCount
    rw [hafter]
    refine ⟨fun victim hreaction => ?_, fun hreaction => ?_, fun hkind => ?_, ?_⟩
    · obtain ⟨attack, hpending, hvictim, -⟩ := hallows.reaction hreaction
      rw [GameEvent.subject, hreaction, Option.getD_some, hvictim] at hspares
      exact ⟨attack, hpending, hspares.others⟩
    · rw [GameEvent.subject, hreaction, Option.getD_none] at hspares
      exact hspares.others
    · exact GameState.frontCards_after hkind _
    · rintro origin via rfl
      exact GameState.blocked_of_resolves hallows _
  · intro ι _ errand labels gate hrun hfree
    exact Gate.accepted_of_run? hopen.atRest hrun hfree

/-- The first of two players about to start holds an excuse and has three cards in front: one that
does not matter and twice the same stumbling card. -/
def clutter : Table where
  machine := .opened Rules.turnTable .stumbling
    { GameState.opening .zero
        [{ Player.seated ⟨0⟩ "Ada" .manager .kentBeck 3 with cards := [.excuse .worksForMe] },
          .seated ⟨1⟩ "Bob" .consultant .konradZuse 3] [.bug .systemHangs] with
      frontCards := ((FrontCards.empty.push ⟨0⟩ (.solution .coffee)).push ⟨0⟩
        (.stumbling .offTheJobTraining)).push ⟨0⟩ (.stumbling .offTheJobTraining) }
    (fun state event => state.after event 2) (fun _ => false)
  config := {}

theorem changes_only_own_clutter :
    let answer := Errand.apply (.resolveStumbling ⟨0⟩ (some (.excuse .worksForMe)))
    let after := (clutter.serve answer).1
    answer.accepted? (clutter.serve answer).2 =
        some (.resolveStumbling ⟨0⟩ (some (.excuse .worksForMe))) ∧
      after.state.discardHeap = [.stumbling .offTheJobTraining, .excuse .worksForMe] ∧
      after.state.players[1]? = clutter.state.players[1]? := by
  intro answer after
  have hopened : opened {} clutter.state = .ok clutter := rfl
  have haccepted : answer.accepted? (clutter.serve answer).2 =
      some (.resolveStumbling ⟨0⟩ (some (.excuse .worksForMe))) := by rfl
  obtain ⟨-, hothers, -, hblocked⟩ := ((changes_only_own hopened).2.1 [] answer).2 _ haccepted
  obtain ⟨ahead, block, behind, hblocked, -, -, hheap⟩ := hblocked _ _ rfl
  have hblock : clutter.state.pendingStumbling? ⟨0⟩ = some block :=
    FrontCards.stumbling?_eq_some_iff.mpr ⟨ahead, behind, hblocked⟩
  cases hblock
  exact ⟨haccepted, hheap, hothers rfl 1 _ rfl (by decide)⟩

end Table

end RoundTable
