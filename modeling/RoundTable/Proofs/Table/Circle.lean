import Mathlib.Data.Nat.ModEq
import Mathlib.Data.Set.Operations
import RoundTable.Proofs.Rules.Seats
import RoundTable.Proofs.Table.TurnOrder

/-!
# Round the table

Who sits at the next seat is found out by looking for a player and counting one seat further; the
turn is passed on by counting one seat further from where it is, whoever sits there. Where no two
players have the same identifier, and at least two are there, both go round the same circle. A
player who sits alone has no neighbour, and neither has anybody who does not sit at the table.

## Main definitions

* `GameState.seatFurther?`: who sits some seats further

## Main results

* `GameState.nextSeat?_of_seat`, `GameState.seatFurther?_of_seat`: the next seats by their numbers
* `GameState.bijOn_nextSeat?`: everybody is the neighbour of exactly one player
* `GameState.existsUnique_steps`, `GameState.seatFurther?_eq_self_iff`: who is met on the way round
* `GameState.currentId?_nextTurn`: the turn passes on to the neighbour
* `Table.turn_goes_round`: the circle, and the turn that goes round
-/

namespace RoundTable

namespace GameState

variable {state : GameState} {id other : PlayerId} {seat steps : Nat}

/-- Who sits the given number of seats further: the neighbour, the neighbour of the neighbour, and
so on. -/
def seatFurther? (state : GameState) (id : PlayerId) : Nat → Option PlayerId
  | 0 => some id
  | steps + 1 => (state.seatFurther? id steps).bind state.nextSeat?

/-! ### Seats by their numbers -/

theorem getElem?_seats (state : GameState) (seat : Nat) :
    state.seats[seat]? = state.players[seat]?.map Player.id :=
  List.getElem?_map

theorem lt_of_seat (hseat : state.seats[seat]? = some id) : seat < state.players.length := by
  obtain ⟨hlt, -⟩ := List.getElem?_eq_some_iff.mp hseat
  rwa [length_seats] at hlt

theorem exists_seat (h : state.isSeated id = true) : ∃ seat : Nat, state.seats[seat]? = some id :=
  List.mem_iff_getElem?.mp (isSeated_iff.mp h)

/-- However far one counts, there is somebody. -/
theorem exists_seat_mod (hpos : 0 < state.players.length) (seat : Nat) :
    ∃ id, state.seats[seat % state.players.length]? = some id := by
  have hlt : seat % state.players.length < state.seats.length := by
    rw [length_seats]
    exact Nat.mod_lt _ hpos
  exact ⟨_, List.getElem?_eq_getElem hlt⟩

/-- Where no two players have the same identifier, everybody sits at one seat only. -/
theorem seat_inj {seat' : Nat} (hnodup : state.seats.Nodup) (hseat : state.seats[seat]? = some id)
    (hseat' : state.seats[seat']? = some id) : seat = seat' := by
  obtain ⟨hlt, -⟩ := List.getElem?_eq_some_iff.mp hseat
  exact (List.getElem?_inj hlt hnodup).mp (hseat.trans hseat'.symm)

/-- So it is there that a player is found. -/
theorem findIdx?_of_seat (hnodup : state.seats.Nodup) (hseat : state.seats[seat]? = some id) :
    state.players.findIdx? (fun player => player.id = id) = some seat := by
  cases hfound : state.players.findIdx? (fun player => player.id = id) with
  | none =>
    obtain ⟨player, hplayer, hid⟩ := List.mem_map.mp (List.mem_of_getElem? hseat)
    have hmissing := List.findIdx?_eq_none_iff.mp hfound player hplayer
    simp [hid] at hmissing
  | some found =>
    obtain ⟨hlt, hid, -⟩ := List.findIdx?_eq_some_iff_getElem.mp hfound
    have hsits : state.seats[found]? = some id := by
      rw [getElem?_seats, List.getElem?_eq_getElem hlt, Option.map_some, of_decide_eq_true hid]
    rw [seat_inj hnodup hsits hseat]

/-! ### Counting further -/

/-- Counting further from a seat leads back to it after full rounds, and only then. -/
theorem add_mod_eq_self_iff {seats : Nat} (hseat : seat < seats) :
    (seat + steps) % seats = seat ↔ seats ∣ steps := by
  have hround : seat + steps ≡ seat [MOD seats] ↔ seats ∣ steps := Nat.add_modEq_left_iff
  rwa [Nat.ModEq, Nat.mod_eq_of_lt hseat] at hround

/-- The next seat is one seat further, and from the last one the first one. -/
theorem nextSeat?_of_seat (hnodup : state.seats.Nodup) (htwo : 2 ≤ state.players.length)
    (hseat : state.seats[seat]? = some id) :
    state.nextSeat? id = state.seats[(seat + 1) % state.players.length]? := by
  obtain ⟨next, hnext⟩ := exists_seat_mod (Nat.zero_lt_of_lt htwo) (seat + 1)
  have hother : next ≠ id := by
    rintro rfl
    have hround := (add_mod_eq_self_iff (lt_of_seat hseat)).mp (seat_inj hnodup hnext hseat)
    have hone := Nat.le_of_dvd Nat.one_pos hround
    omega
  obtain ⟨player, hplayer, rfl⟩ := Option.map_eq_some_iff.mp ((getElem?_seats _ _).symm.trans hnext)
  rw [hnext, nextSeat?, findIdx?_of_seat hnodup hseat]
  simp [hplayer, hother]

theorem seatFurther?_of_seat (hnodup : state.seats.Nodup) (htwo : 2 ≤ state.players.length)
    (hseat : state.seats[seat]? = some id) (steps : Nat) :
    state.seatFurther? id steps = state.seats[(seat + steps) % state.players.length]? := by
  induction steps with
  | zero => rw [Nat.add_zero, Nat.mod_eq_of_lt (lt_of_seat hseat), hseat, seatFurther?]
  | succ steps ih =>
    obtain ⟨reached, hreached⟩ := exists_seat_mod (Nat.zero_lt_of_lt htwo) (seat + steps)
    rw [seatFurther?, ih, hreached, Option.bind_some, nextSeat?_of_seat hnodup htwo hreached,
      Nat.mod_add_mod, Nat.add_assoc]

/-! ### The circle -/

/-- Nobody is their own neighbour. -/
theorem nextSeat?_ne_self (state : GameState) (id : PlayerId) : state.nextSeat? id ≠ some id := by
  intro h
  obtain ⟨seat, -, h⟩ := Option.bind_eq_some_iff.mp h
  obtain ⟨next, -, h⟩ := Option.bind_eq_some_iff.mp h
  split at h
  case isTrue => cases h
  case isFalse hother => exact hother (Option.some.inj h)

/-- Where two players sit, everybody has a neighbour. -/
theorem exists_nextSeat? (hnodup : state.seats.Nodup) (htwo : 2 ≤ state.players.length)
    (hseated : state.isSeated id = true) :
    ∃ next, state.nextSeat? id = some next ∧ id ≠ next ∧ state.isSeated next = true := by
  obtain ⟨seat, hseat⟩ := exists_seat hseated
  obtain ⟨next, hnext⟩ := exists_seat_mod (Nat.zero_lt_of_lt htwo) (seat + 1)
  have hfound := (nextSeat?_of_seat hnodup htwo hseat).trans hnext
  refine ⟨next, hfound, ?_, isSeated_iff.mpr (List.mem_of_getElem? hnext)⟩
  rintro rfl
  exact state.nextSeat?_ne_self id hfound

/-- A player who sits alone has no neighbour. -/
theorem nextSeat?_eq_none (halone : state.players.length < 2) (id : PlayerId) :
    state.nextSeat? id = none := by
  obtain ⟨_, players, _, _, _, _, _, _⟩ := state
  match players, halone with
  | [], _ => rfl
  | [only], _ => by_cases hid : only.id = id <;> simp [nextSeat?, hid]

theorem nextSeat?_of_not_isSeated (h : state.isSeated id = false) : state.nextSeat? id = none := by
  have hmissing : state.players.findIdx? (fun player => player.id = id) = none := by
    rw [List.findIdx?_eq_none_iff]
    intro player hplayer
    refine decide_eq_false fun hid => ?_
    have hseated : state.isSeated id = true :=
      isSeated_iff.mpr (List.mem_map.mpr ⟨player, hplayer, hid⟩)
    cases hseated.symm.trans h
  rw [nextSeat?, hmissing]
  rfl

/-- **Everybody is the neighbour of exactly one player.** -/
theorem bijOn_nextSeat? (hnodup : state.seats.Nodup) (htwo : 2 ≤ state.players.length) :
    Set.BijOn state.nextSeat? {id | state.isSeated id = true}
      (some '' {id | state.isSeated id = true}) := by
  have hpos : 0 < state.players.length := Nat.zero_lt_of_lt htwo
  refine ⟨?_, ?_, ?_⟩
  · intro id hid
    obtain ⟨next, hnext, -, hseated⟩ := exists_nextSeat? hnodup htwo hid
    exact ⟨next, hseated, hnext.symm⟩
  · intro id hid other hother hsame
    obtain ⟨seat, hseat⟩ := exists_seat hid
    obtain ⟨seat', hseat'⟩ := exists_seat hother
    obtain ⟨next, hnext⟩ := exists_seat_mod hpos (seat + 1)
    have hnext' : state.seats[(seat' + 1) % state.players.length]? = some next := by
      rw [← hnext, ← nextSeat?_of_seat hnodup htwo hseat, hsame,
        nextSeat?_of_seat hnodup htwo hseat']
    have hmod : seat + 1 ≡ seat' + 1 [MOD state.players.length] := seat_inj hnodup hnext hnext'
    have hsame : seat = seat' :=
      hmod.add_right_cancel'.eq_of_lt_of_lt (lt_of_seat hseat) (lt_of_seat hseat')
    rw [hsame, hseat'] at hseat
    exact (Option.some.inj hseat).symm
  · rintro _ ⟨other, hother, rfl⟩
    obtain ⟨seat, hseat⟩ := exists_seat hother
    -- whoever sits one seat before, counted once round the table
    obtain ⟨id, hid⟩ := exists_seat_mod hpos (seat + (state.players.length - 1))
    refine ⟨id, isSeated_iff.mpr (List.mem_of_getElem? hid), ?_⟩
    have hround : (seat + (state.players.length - 1) + 1) % state.players.length = seat := by
      rw [Nat.add_assoc, Nat.sub_add_cancel hpos, add_mod_eq_self_iff (lt_of_seat hseat)]
    rw [nextSeat?_of_seat hnodup htwo hid, Nat.mod_add_mod, hround, hseat]

/-- **On the way round the table everybody is met once.** -/
theorem existsUnique_steps (hnodup : state.seats.Nodup) (htwo : 2 ≤ state.players.length)
    (hid : state.isSeated id = true) (hother : state.isSeated other = true) :
    ∃! steps, steps < state.players.length ∧ state.seatFurther? id steps = some other := by
  obtain ⟨seat, hseat⟩ := exists_seat hid
  obtain ⟨seat', hseat'⟩ := exists_seat hother
  have hlt := lt_of_seat hseat
  have hlt' := lt_of_seat hseat'
  have hreaches (steps : Nat) : state.seatFurther? id steps = some other ↔
      (seat + steps) % state.players.length = seat' := by
    rw [seatFurther?_of_seat hnodup htwo hseat]
    exact ⟨fun h => seat_inj hnodup h hseat', fun h => h.symm ▸ hseat'⟩
  refine existsUnique_of_exists_of_unique ?_ ?_
  · refine ⟨(state.players.length - seat + seat') % state.players.length,
      Nat.mod_lt _ (Nat.zero_lt_of_lt hlt), (hreaches _).mpr ?_⟩
    rw [Nat.add_mod_mod, ← Nat.add_assoc, Nat.add_sub_cancel' hlt.le, Nat.add_mod_left,
      Nat.mod_eq_of_lt hlt']
  · rintro steps steps' ⟨hsteps, hreached⟩ ⟨hsteps', hreached'⟩
    have hmod : seat + steps ≡ seat + steps' [MOD state.players.length] :=
      ((hreaches steps).mp hreached).trans ((hreaches steps').mp hreached').symm
    exact hmod.add_left_cancel'.eq_of_lt_of_lt hsteps hsteps'

/-- One is back where one started after full rounds, and only then. -/
theorem seatFurther?_eq_self_iff (hnodup : state.seats.Nodup) (htwo : 2 ≤ state.players.length)
    (hid : state.isSeated id = true) (steps : Nat) :
    state.seatFurther? id steps = some id ↔ state.players.length ∣ steps := by
  obtain ⟨seat, hseat⟩ := exists_seat hid
  rw [seatFurther?_of_seat hnodup htwo hseat, ← add_mod_eq_self_iff (lt_of_seat hseat)]
  exact ⟨fun h => seat_inj hnodup h hseat, fun h => h.symm ▸ hseat⟩

/-- **The turn passes on to the neighbour** of the player whose turn it is. -/
theorem currentId?_nextTurn (hnodup : state.seats.Nodup) (htwo : 2 ≤ state.players.length)
    (hcurrent : state.isCurrent id = true) (drawCount : Nat) :
    (state.after (.nextTurn id) drawCount).currentId? = state.nextSeat? id := by
  rw [nextSeat?_of_seat hnodup htwo (isCurrent_iff.mp hcurrent),
    ← current_nextTurn hcurrent drawCount, ← state.seats_after (.nextTurn id) drawCount,
    getElem?_seats]
  rfl

end GameState

/-! ### Tables -/

namespace Table

/-- **The turn goes round the circle of neighbours.** Where no two players have the same identifier
and at least two of them sit at a table, everybody there has a neighbour other than themselves, and
is the neighbour of exactly one player. Whoever goes from neighbour to neighbour meets everybody
once before being back, and is back after as many steps as there are players, or a multiple of that.
At a table that was opened with any players, and after any errands there, a turn that is passed on
goes from whoever's turn it was to the neighbour. A player who sits alone has no neighbour, nor has
anybody who does not sit at the table. -/
theorem turn_goes_round :
    (∀ state : GameState, state.seats.Nodup → 2 ≤ state.players.length →
      Set.BijOn state.nextSeat? {id | state.isSeated id = true}
        (some '' {id | state.isSeated id = true}) ∧
      (∀ id, state.nextSeat? id ≠ some id) ∧
      ∀ id, state.isSeated id = true →
        (∀ other, state.isSeated other = true →
          ∃! steps, steps < state.players.length ∧ state.seatFurther? id steps = some other) ∧
        ∀ steps, state.seatFurther? id steps = some id ↔ state.players.length ∣ steps) ∧
    (∀ (config : TableConfig) (state : GameState) (table : Table),
      opened config state = .ok table → ∀ errands : List Errand,
        let now := (table.serveAll errands).1
        now.state.seats.Nodup → 2 ≤ now.state.players.length →
          ∀ (errand : Errand) (origin : PlayerId),
            errand.accepted? (now.serve errand).2 = some (.nextTurn origin) →
              ∃ next, now.state.currentId? = some origin ∧
                now.state.nextSeat? origin = some next ∧
                (now.serve errand).1.state.currentId? = some next) ∧
    ∀ (state : GameState) (id : PlayerId),
      state.players.length = 1 ∨ state.isSeated id = false → state.nextSeat? id = none := by
  refine ⟨?_, ?_, ?_⟩
  · intro state hnodup htwo
    refine ⟨GameState.bijOn_nextSeat? hnodup htwo, state.nextSeat?_ne_self, fun id hid => ⟨?_, ?_⟩⟩
    · exact fun other hother => GameState.existsUnique_steps hnodup htwo hid hother
    · exact GameState.seatFurther?_eq_self_iff hnodup htwo hid
  · intro config state table hopened errands now hnodup htwo errand origin haccepted
    obtain ⟨hallows, hafter⟩ := (liesAt_serveAll hopened errands).accepts haccepted
    have hcurrent : now.state.isCurrent origin = true := hallows.isCurrent rfl
    obtain ⟨next, hnext, -, -⟩ :=
      GameState.exists_nextSeat? hnodup htwo (GameState.isSeated_of_isCurrent hcurrent)
    refine ⟨next, of_decide_eq_true hcurrent, hnext, ?_⟩
    rw [hafter, GameState.currentId?_nextTurn hnodup htwo hcurrent, hnext]
  · rintro state id (halone | habsent)
    · exact GameState.nextSeat?_eq_none (by omega) id
    · exact GameState.nextSeat?_of_not_isSeated habsent

/-- Three players, the last of whom has the turn and may pass it on. -/
def threesome : Table where
  machine := .opened Rules.turnTable .play
    { GameState.opening .zero
        [.seated ⟨4⟩ "Ada" .manager .kentBeck 3, .seated ⟨9⟩ "Bob" .consultant .konradZuse 3,
          .seated ⟨2⟩ "Eve" .manager .kentBeck 3] [.bug .systemHangs] with
      turn := .play
      current := 2 }
    (fun state event => state.after event 2) (fun _ => false)
  config := {}

theorem turn_goes_round_threesome :
    threesome.state.nextSeat? ⟨2⟩ = some ⟨4⟩ ∧
      (threesome.serve (.endTurn ⟨2⟩)).1.state.currentId? = some ⟨4⟩ ∧
      threesome.state.seatFurther? ⟨9⟩ 3 = some ⟨9⟩ ∧
      threesome.state.seatFurther? ⟨9⟩ 4 ≠ some ⟨9⟩ ∧ threesome.state.nextSeat? ⟨7⟩ = none := by
  have hopened : opened {} threesome.state = .ok threesome := rfl
  have hends : (Errand.endTurn ⟨2⟩).accepted? (threesome.serve (.endTurn ⟨2⟩)).2 =
      some (.nextTurn ⟨2⟩) := by rfl
  obtain ⟨hcircle, hturns, hnobody⟩ := turn_goes_round
  obtain ⟨-, -, hround⟩ := hcircle threesome.state (by decide) (by decide)
  obtain ⟨next, -, hnext, hcurrent⟩ :=
    hturns {} threesome.state threesome hopened [] (by decide) (by decide) _ _ hends
  obtain ⟨-, hback⟩ := hround ⟨9⟩ (by decide)
  have hfirst : next = ⟨4⟩ := (Option.some.inj (hnext.symm.trans rfl))
  refine ⟨hfirst ▸ hnext, hfirst ▸ hcurrent, (hback 3).mpr (by decide), ?_,
    hnobody _ _ (.inr (by decide))⟩
  exact fun h => absurd ((hback 4).mp h) (by decide)

end Table

end RoundTable
