import RoundTable.Proofs.Rules.Hands
import RoundTable.Proofs.Table.Accepted

/-!
# Mental health is accounted for

A player loses a point of mental health for an attack that is taken without a card, and for a card
that is stumbled over without one. Nothing else costs health, and nothing gives any back. So the
health that is left is told by the health of the beginning and the number of those events, however
many others were accepted in between, and whatever was refused.

## Main definitions

* `GameState.healths`: the health of everybody at the table
* `GameEvent.isHitOn`, `GameEvent.isStumbleOf`: the events that cost a player health
* `toll`: how many of some events do

## Main results

* `GameState.healths_after`, `GameState.healths_foldl_after`: what one event costs, and what many do
* `Table.health_accounted`: the health of everybody after any errands
-/

namespace RoundTable

/-! ### Events that cost health -/

namespace GameEvent

/-- Whether an event is an attack on a player that is taken without a card. -/
def isHitOn (id : PlayerId) : GameEvent → Bool
  | reactWithoutCard _ victim => victim = id
  | _ => false

/-- Whether an event is that a player stumbles over a card and spends none on it. -/
def isStumbleOf (id : PlayerId) : GameEvent → Bool
  | resolveStumbling origin none => origin = id
  | _ => false

end GameEvent

/-- How many points of health events cost a player, if there are enough. -/
def toll (id : PlayerId) (events : List GameEvent) : Nat :=
  events.countP (GameEvent.isHitOn id) + events.countP (GameEvent.isStumbleOf id)

/-- What is left to a player of some points of health after events. -/
def leftAfter (events : List GameEvent) (seat : PlayerId × Nat) : PlayerId × Nat :=
  (seat.1, seat.2 - toll seat.1 events)

theorem toll_append (id : PlayerId) (events more : List GameEvent) :
    toll id (events ++ more) = toll id events + toll id more := by
  rw [toll, toll, toll, List.countP_append, List.countP_append]
  omega

theorem leftAfter_append (events more : List GameEvent) (seat : PlayerId × Nat) :
    leftAfter (events ++ more) seat = leftAfter more (leftAfter events seat) := by
  rw [leftAfter, leftAfter, leftAfter, toll_append, Nat.sub_add_eq]

theorem leftAfter_of_toll {events : List GameEvent} {seat : PlayerId × Nat}
    (h : toll seat.1 events = 0) : leftAfter events seat = seat := by
  rw [leftAfter, h, Nat.sub_zero]

/-- One event costs one point at most. -/
theorem leftAfter_singleton (event : GameEvent) (seat : PlayerId × Nat) :
    leftAfter [event] seat =
      if event.isHitOn seat.1 || event.isStumbleOf seat.1 then (seat.1, seat.2 - 1) else seat := by
  -- no event is both a hit and a stumble
  have hcount : toll seat.1 [event] =
      if event.isHitOn seat.1 || event.isStumbleOf seat.1 then 1 else 0 := by
    rw [toll, List.countP_singleton, List.countP_singleton]
    cases event with
    | reactWithoutCard => simp [GameEvent.isStumbleOf]
    | resolveStumbling => simp [GameEvent.isHitOn]
    | _ => rfl
  rw [leftAfter, hcount]
  split <;> rfl

/-! ### Effects -/

namespace Player

/-- Who a player is, and the points of mental health left. -/
def standing (player : Player) : PlayerId × Nat := (player.id, player.mentalHealth.toNat)

/-- Health is lost down to zero. -/
theorem standing_loseHealth (player : Player) :
    player.loseHealth.standing = (player.standing.1, player.standing.2 - 1) := by
  rw [standing, standing, loseHealth, Prod.mk.injEq, and_iff_right rfl]
  dsimp only
  split
  case isTrue hzero => rw [hzero]; rfl
  case isFalse hpos =>
    have hnonzero : player.mentalHealth.toNat ≠ 0 := fun hzero => hpos (UInt32.toNat_inj.mp hzero)
    have hle : (1 : UInt32) ≤ player.mentalHealth := by
      rw [UInt32.le_iff_toNat_le, UInt32.toNat_one]
      omega
    rw [UInt32.toNat_sub_of_le _ _ hle, UInt32.toNat_one]

end Player

namespace GameState

/-- Who sits at the table, and with how much mental health, in the order of the seats. -/
def healths (state : GameState) : List (PlayerId × Nat) := state.players.map Player.standing

theorem healths_loseHealth {state : GameState} (hnodup : state.seats.Nodup) (victim : PlayerId) :
    (state.loseHealth victim).healths = state.healths.map fun seat =>
      if victim = seat.1 then (seat.1, seat.2 - 1) else seat := by
  change (updateFirst victim Player.loseHealth state.players).map _ = _
  rw [updateFirst_eq_map hnodup, healths, List.map_map, List.map_map]
  refine List.map_congr_left fun player _ => ?_
  have hid : player.standing.1 = player.id := rfl
  by_cases hvictim : victim = player.id
  · simp [hvictim, hid, player.standing_loseHealth]
  · simp [hvictim, hid, Ne.symm hvictim]

theorem healths_discardFromHand (state : GameState) (owner : PlayerId) (card : Card) :
    (state.discardFromHand owner card).healths = state.healths := by
  rw [discardFromHand]
  split
  · have hgive (player : Player) : (player.give card).standing = player.standing := rfl
    exact map_updateFirst hgive state.players
  · rfl

theorem healths_foldl_discardFromHand (state : GameState) (owner : PlayerId) (cards : List Card) :
    (cards.foldl (fun state card => state.discardFromHand owner card) state).healths =
      state.healths := by
  induction cards generalizing state with
  | nil => rfl
  | cons card cards ih => exact (ih _).trans (state.healths_discardFromHand owner card)

theorem healths_clearStumbling (state : GameState) (id : PlayerId) :
    (state.clearStumbling id).healths = state.healths := by
  rw [clearStumbling]
  split <;> rfl

/-- What an event costs everybody. -/
theorem healths_after {state : GameState} (hnodup : state.seats.Nodup) (event : GameEvent)
    (drawCount : Nat) :
    (state.after event drawCount).healths = state.healths.map (leftAfter [event]) := by
  have hfree (hnone : ∀ id, toll id [event] = 0)
      (hsame : (state.after event drawCount).healths = state.healths) :
      (state.after event drawCount).healths = state.healths.map (leftAfter [event]) := by
    rw [hsame, List.map_congr_left fun seat _ => leftAfter_of_toll (hnone seat.1), List.map_id']
  cases event with
  | drawCards origin =>
    have hreceive (player : Player) :
        (player.receive (state.drawPile.take drawCount)).standing = player.standing := rfl
    exact hfree (fun _ => rfl) (map_updateFirst hreceive state.players)
  | nextTurn => exact hfree (fun _ => rfl) rfl
  | reportBug => exact hfree (fun _ => rfl) (state.healths_discardFromHand _ _)
  | reactWithCard => exact hfree (fun _ => rfl) (state.healths_discardFromHand _ _)
  | discard => exact hfree (fun _ => rfl) (state.healths_foldl_discardFromHand _ _)
  | reactWithoutCard origin victim =>
    refine (healths_loseHealth hnodup victim).trans (List.map_congr_left fun seat _ => ?_)
    simp [leftAfter_singleton, GameEvent.isHitOn, GameEvent.isStumbleOf]
  | resolveStumbling origin via =>
    have hcleared := state.healths_clearStumbling origin
    cases via with
    | some card =>
      exact hfree (fun _ => rfl) ((healths_discardFromHand _ origin card).trans hcleared)
    | none =>
      have hseats : (state.clearStumbling origin).seats.Nodup := by
        rwa [(state.alike_clearStumbling origin).seats]
      refine (healths_loseHealth hseats origin).trans ?_
      rw [hcleared]
      refine List.map_congr_left fun seat _ => ?_
      simp [leftAfter_singleton, GameEvent.isHitOn, GameEvent.isStumbleOf]

/-- What events cost everybody, one after another. -/
theorem healths_foldl_after {state : GameState} (hnodup : state.seats.Nodup)
    (events : List GameEvent) (drawCount : Nat) :
    (events.foldl (fun state event => state.after event drawCount) state).healths =
      state.healths.map (leftAfter events) := by
  induction events generalizing state with
  | nil =>
    have hnone : ∀ seat ∈ state.healths, leftAfter [] seat = seat := fun _ _ =>
      leftAfter_of_toll rfl
    rw [List.foldl_nil, List.map_congr_left hnone, List.map_id']
  | cons event events ih =>
    have hnext : (state.after event drawCount).seats.Nodup := by rwa [seats_after]
    rw [List.foldl_cons, ih hnext, healths_after hnodup, List.map_map]
    exact List.map_congr_left fun seat _ => (leftAfter_append [event] events seat).symm

end GameState

/-! ### Errands -/

namespace Table

variable {table : Table}

theorem seats_serveAll (hopen : table.IsOpen) (errands : List Errand) :
    (table.serveAll errands).1.state.seats = table.state.seats := by
  refine hopen.unchanged (fun after => after.state.seats) (fun htakes => ?_) (fun hrefuses => ?_)
    errands
  · rw [htakes.state, GameState.seats_after]
  · rw [hrefuses.state]

/-- Players who are told apart remain so. -/
theorem nodup_seats_serveAll {config : TableConfig} {state : GameState}
    (hopened : opened config state = .ok table) (hdistinct : (state.players.map Player.id).Nodup)
    (errands : List Errand) : (table.serveAll errands).1.state.seats.Nodup := by
  rwa [seats_serveAll (isOpen_of_withEdges hopened), state_of_withEdges hopened]

/-- The events that are accepted of errands are what everybody's health is spent on. -/
theorem healths_serveAll (hopen : table.IsOpen) (hnodup : table.state.seats.Nodup)
    (errands : List Errand) :
    (table.serveAll errands).1.state.healths =
      table.state.healths.map (leftAfter (table.accepted errands)) := by
  rw [state_serveAll hopen]
  exact GameState.healths_foldl_after hnodup _ _

/-- **Mental health is accounted for.** Let a table be opened, over any edges, with players no two
of whom have the same identifier.

* After any errands, whatever has become of them, everybody has the health of the beginning, less one
  point for each accepted attack on them that was taken without a card, and one for each time they
  stumbled over a card without spending one; and none if these are more than there was health.
* One errand more costs those one point whom the event accepted of it hits or makes stumble. No other
  event costs anybody anything, and neither does an errand that is refused.
* So nobody's health ever rises.
* If visitors come and go as they please, the same holds of the events accepted of them, whenever
  nobody is inside the gate. -/
theorem health_accounted {edges : TurnTable} {config : TableConfig} {state : GameState}
    (hopened : withEdges edges config state = .ok table)
    (hdistinct : (state.players.map Player.id).Nodup) :
    (∀ errands : List Errand, (table.serveAll errands).1.state.healths =
      state.healths.map fun seat =>
        (seat.1, seat.2 - ((table.accepted errands).countP (GameEvent.isHitOn seat.1) +
          (table.accepted errands).countP (GameEvent.isStumbleOf seat.1)))) ∧
    (∀ (errands : List Errand) (errand : Errand),
      let accepted := errand.accepted? ((table.serveAll errands).1.serve errand).2
      (table.serveAll (errands ++ [errand])).1.state.healths =
        (table.serveAll errands).1.state.healths.map fun seat =>
          if accepted.any fun event => event.isHitOn seat.1 || event.isStumbleOf seat.1 then
            (seat.1, seat.2 - 1)
          else seat) ∧
    (∀ earlier later : List Errand,
      List.Forall₂ (fun before after => after.1 = before.1 ∧ after.2 ≤ before.2)
        (table.serveAll earlier).1.state.healths
        (table.serveAll (earlier ++ later)).1.state.healths) ∧
    ∀ (ι : Type) [DecidableEq ι] (errand : ι → Errand) (labels : List (GateLabel ι))
      (gate : Gate ι), (Gate.opened table).run? errand labels = some gate →
        gate.holder = none → gate.table.state.healths = state.healths.map fun seat =>
          (seat.1, seat.2 - ((gate.accepted errand).countP (GameEvent.isHitOn seat.1) +
            (gate.accepted errand).countP (GameEvent.isStumbleOf seat.1))) := by
  have hopen := isOpen_of_withEdges hopened
  have hstate : table.state = state := by
    rw [eq_of_withEdges hopened]
    rfl
  rw [← hstate] at hdistinct ⊢
  have hall := healths_serveAll hopen hdistinct
  -- from any point of a run on, what is accepted later costs what it costs
  have hlater (errands more : List Errand) :
      (table.serveAll (errands ++ more)).1.state.healths =
        (table.serveAll errands).1.state.healths.map
          (leftAfter ((table.serveAll errands).1.accepted more)) := by
    have hseats : (table.serveAll errands).1.state.seats.Nodup := by
      rw [seats_serveAll hopen]
      exact hdistinct
    rw [fst_serveAll_append]
    exact healths_serveAll (isOpen_serveAll hopen errands) hseats more
  refine ⟨hall, fun errands errand => ?_, fun earlier later => ?_, ?_⟩
  · intro accepted
    have haccepted : (table.serveAll errands).1.accepted [errand] = accepted.toList :=
      List.append_nil _
    rw [hlater, haccepted]
    refine List.map_congr_left fun seat _ => ?_
    cases accepted with
    | none => exact leftAfter_of_toll rfl
    | some event => exact leftAfter_singleton event seat
  · rw [hlater]
    exact List.forall₂_map_right_iff.mpr
      (List.forall₂_same.mpr fun seat _ => ⟨rfl, Nat.sub_le _ _⟩)
  · intro ι _ errand labels gate hrun hfree
    obtain ⟨htable, haccepted⟩ := Gate.accepted_of_run? hopen.atRest hrun hfree
    rw [htable, haccepted]
    exact hall _

/-- Two players about to start, the first one with a card to stumble over and a bug to draw. -/
def roughStart : Table where
  machine := .opened Rules.turnTable .stumbling
    (GameState.withFrontCard
      (.opening .zero
        [.seated ⟨0⟩ "Ada" .manager .kentBeck 3, .seated ⟨1⟩ "Bob" .consultant .konradZuse 3]
        [.bug .systemHangs])
      ⟨0⟩ (.stumbling .fortranMaintenance))
    (fun state event => state.after event 2) (fun _ => false)
  config := {}

/-- The first player stumbles, draws and attacks; the second one is asked for a card that it does not
have. Passing the turn on is refused in between. -/
def roughErrands : List Errand :=
  [.apply (.resolveStumbling ⟨0⟩ none), .apply (.drawCards ⟨0⟩),
    .apply (.reportBug ⟨0⟩ ⟨1⟩ .systemHangs), .endTurn ⟨0⟩,
    .applyOr (.reactWithCard ⟨1⟩ ⟨1⟩ (.excuse .itsAFeature)) (.reactWithoutCard ⟨1⟩ ⟨1⟩)]

theorem health_accounted_roughStart :
    roughStart.state.healths = [(⟨0⟩, 4), (⟨1⟩, 3)] ∧
      (roughStart.serveAll roughErrands).1.state.healths = [(⟨0⟩, 3), (⟨1⟩, 2)] := by
  have hopened : withEdges Rules.turnTable {} roughStart.state = .ok roughStart := rfl
  have hdistinct : (roughStart.state.players.map Player.id).Nodup := by decide
  refine ⟨by decide +kernel, ?_⟩
  rw [(health_accounted hopened hdistinct).1]
  decide +kernel

end Table

end RoundTable
