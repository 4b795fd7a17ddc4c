import RoundTable.Proofs.Rules.Hands
import RoundTable.Proofs.Table.Ruled
import RoundTable.Walk.AtTable

/-!
# Draws partition the pile

Whoever draws is not told which cards were drawn. They are found out from two looks at the table: the
pile has lost cards between them, and these were on top of it. That is right as long as nothing else
happens to the pile between the two looks. Since nothing but a draw ever changes the pile, the cards
that are found to have been drawn, one draw after another, and the pile that is left make up the pile
of the beginning.

## Main definitions

* `GameState.drawnUntil`, `drawResult`: the cards that are found to have been drawn
* `Errand.drawn?`, `Gate.drawn?`: what those bring back who draw
* `Errand.DrawsOpenly`: errands that draw only to bring back the cards

## Main results

* `Authority.run_drawCards`: what an authority makes of its draw
* `Table.drawPile_serve`: what an errand has drawn, and what is left, was the pile
* `Gate.draws_partition_pile`: draws partition the pile
-/

namespace RoundTable

/-! ### Drawing -/

namespace GameState

/-- The cards by which the pile is shorter in a later state: those on top of it. -/
def drawnUntil (before after : GameState) : List Card :=
  before.drawPile.take (before.drawPile.length - after.drawPile.length)

/-- What a draw is found to have drawn is what it has drawn. -/
theorem drawnUntil_drawCards (state : GameState) (origin : PlayerId) (drawCount : Nat) :
    state.drawnUntil (state.after (.drawCards origin) drawCount) =
      state.drawPile.take drawCount := by
  change state.drawPile.take (state.drawPile.length - (state.drawPile.drop drawCount).length) = _
  rw [List.length_drop, List.take_eq_take_iff]
  omega

end GameState

/-- What somebody brings back who has sent a draw, by the answer of the table. -/
def drawResult : Except Refusal (GameState × GameState) → Except Failure (List Card)
  | .ok (before, after) => .ok (before.drawnUntil after)
  | .error refusal => .error (.ofRefusal refusal)

/-- An authority sends its draw and takes the answer of the table for what it is. -/
theorem Authority.run_drawCards {m : Type → Type} [Monad m] [LawfulMonad m] (access : Access m)
    (origin : PlayerId) :
    (Authority.atTable access origin).drawCards.run =
      drawResult <$> access.apply (.drawCards origin) := by
  have hlift : (liftM (access.apply (.drawCards origin)) : ExceptT Failure m _).run =
      Except.ok <$> access.apply (.drawCards origin) := rfl
  rw [atTable, Access.send, bind_assoc, ExceptT.run_bind, hlift, bind_map_left, map_eq_pure_bind]
  refine bind_congr fun answer => ?_
  cases answer with
  | ok states => simp [drawResult, GameState.drawnUntil]
  | error refusal => simp [drawResult]

/-! ### One errand -/

namespace Errand

/-- What an errand brings back that draws, if its result is the given one. -/
def drawn? : Errand → Except Refusal Finding → Option (List Card)
  | apply (.drawCards _), .ok (.states before after) => (drawResult (.ok (before, after))).toOption
  | _, _ => none

/-- The errand draws only to bring back the cards. -/
def DrawsOpenly (errand : Errand) : Prop :=
  ∀ event ∈ errand.events, event.kind = .drawCards → errand = .apply event

instance (errand : Errand) : Decidable errand.DrawsOpenly :=
  inferInstanceAs (Decidable (∀ event ∈ errand.events, event.kind = .drawCards →
    errand = .apply event))

theorem drawn?_apply_of_ne {event : GameEvent} (h : event.kind ≠ .drawCards)
    (result : Except Refusal Finding) : (apply event).drawn? result = none := by
  cases event with
  | drawCards => exact absurd rfl h
  | _ => rfl

theorem drawn?_error (errand : Errand) (refusal : Refusal) :
    errand.drawn? (.error refusal) = none := by
  cases errand with
  | apply event => cases event <;> rfl
  | _ => rfl

end Errand

namespace Table

variable {before after table : Table}

/-- A draw takes cards off the pile, and the one who draws receives them. -/
theorem Takes.drawn {origin : PlayerId} (h : before.Takes (.drawCards origin) after) :
    before.state.drawnUntil after.state = before.state.drawPile.take before.config.drawCount ∧
      after.state.drawPile = before.state.drawPile.drop before.config.drawCount ∧
      after.state.player? origin = (before.state.player? origin).map fun player =>
        player.receive (before.state.drawPile.take before.config.drawCount) := by
  let drawn := before.state.drawPile.take before.config.drawCount
  have hreceive (player : Player) : (player.receive drawn).id = player.id := rfl
  rw [h.state]
  refine ⟨before.state.drawnUntil_drawCards origin _, rfl, ?_⟩
  exact (before.state.player?_updatePlayer origin origin hreceive).trans (by simp [drawn])

/-- What an errand has drawn was on top of the pile, and the rest is left. -/
theorem drawPile_serve (hopen : table.IsOpen) {errand : Errand} (hopenly : errand.DrawsOpenly) :
    table.state.drawPile =
      (errand.drawn? (table.serve errand).2).getD [] ++ (table.serve errand).1.state.drawPile := by
  -- an event that is sent otherwise leaves the pile alone
  have hother {event : GameEvent} {after : Table} (htakes : table.Takes event after)
      (hkind : event.kind ≠ .drawCards) : table.state.drawPile = after.state.drawPile := by
    rw [htakes.state, GameState.drawPile_after hkind]
  have houtcome := outcome_serve hopen errand
  generalize (table.serve errand).1 = after at houtcome ⊢
  generalize (table.serve errand).2 = result at houtcome ⊢
  cases houtcome with
  | @applied event takes =>
    by_cases hkind : event.kind = .drawCards
    · cases event with
      | drawCards origin =>
        obtain ⟨hdrawn, hleft, -⟩ := takes.drawn
        change _ = table.state.drawnUntil after.state ++ _
        rw [hdrawn, hleft, List.take_append_drop]
      | _ => cases hkind
    · rw [Errand.drawn?_apply_of_ne hkind]
      exact hother takes hkind
  | preferred takes => exact hother takes fun hkind => nomatch hopenly _ List.mem_cons_self hkind
  | fallback _ takes =>
    exact hother takes fun hkind =>
      nomatch hopenly _ (List.mem_cons_of_mem _ List.mem_cons_self) hkind
  | turnEnded takes => exact hother takes nofun
  | notApplied refuses | neither _ refuses | turnKept refuses =>
    rw [Errand.drawn?_error]
    exact congrArg GameState.drawPile refuses.state.symm

end Table

/-! ### Visitors -/

namespace Gate

variable {ι : Type} {errand : ι → Errand}

/-- What a visitor has brought back who draws; none if it has not left, or has been refused. -/
def drawn? (errand : ι → Errand) (gate : Gate ι) (visitor : ι) : Option (List Card) :=
  match gate.stage visitor with
  | .gone result => (errand visitor).drawn? result
  | _ => none

/-- Who has left has brought back what it would have brought back after those before it. -/
theorem stage_of_gone {stage : ι → VisitStage} {earlier later : List ι} {visitor : ι}
    {opening : Table}
    (h : (earlier ++ visitor :: later).map stage =
      (opening.serveAll ((earlier ++ visitor :: later).map errand)).2.map .gone) :
    stage visitor =
      .gone ((opening.serveAll (earlier.map errand)).1.serve (errand visitor)).2 := by
  induction earlier generalizing opening with
  | nil => exact (List.cons.inj h).1
  | cons first earlier ih => exact ih (List.cons.inj h).2

/-- What visitors have drawn, one after another, was on top of the pile, and the rest is left. -/
theorem drawPile_of_gone (hopenly : ∀ visitor, (errand visitor).DrawsOpenly) {gate : Gate ι}
    {visitors : List ι} {opening : Table} (hopen : opening.IsOpen)
    (h : visitors.map gate.stage = (opening.serveAll (visitors.map errand)).2.map .gone) :
    opening.state.drawPile = (visitors.filterMap (gate.drawn? errand)).flatten ++
      (opening.serveAll (visitors.map errand)).1.state.drawPile := by
  induction visitors generalizing opening with
  | nil => rfl
  | cons visitor visitors ih =>
    obtain ⟨hfirst, hrest⟩ : gate.stage visitor = .gone (opening.serve (errand visitor)).2 ∧
        visitors.map gate.stage =
          ((opening.serve (errand visitor)).1.serveAll (visitors.map errand)).2.map .gone :=
      List.cons.inj h
    have hdrawn : gate.drawn? errand visitor =
        (errand visitor).drawn? (opening.serve (errand visitor)).2 := by
      rw [drawn?, hfirst]
    have hserve := Table.drawPile_serve hopen (hopenly visitor)
    rw [← hdrawn, ih (Table.isOpen_serve hopen _) hrest, ← List.append_assoc] at hserve
    rw [hserve, List.filterMap_cons]
    cases gate.drawn? errand visitor with
    | none => rfl
    | some cards => rfl

variable [DecidableEq ι]

/-- **Draws partition the pile.** Let an authority make of its draw what `drawResult` makes of the
answer of the table, and let visitors come and go as they please, of whom some draw and the others
do anything else; and let nobody be inside. For every visitor who has brought back cards, take the
table as those have left it who were admitted before, and as this one has left it. Between the two,
the table has taken the draw and nothing else. The cards are those that were on top of the pile, in
order, as many as a draw takes or as there were; they are gone from the pile; and the player for whom
they were drawn has received them, in this order, at the end of the hand. Under the rules of a turn
there is such a player.

All the cards that were brought back, in the order in which the draws were admitted, and then the
pile that is left, make up the pile of the beginning. -/
theorem draws_partition_pile {edges : TurnTable} {config : TableConfig} {state : GameState}
    {table : Table} (hopened : Table.withEdges edges config state = .ok table)
    (hopenly : ∀ visitor, (errand visitor).DrawsOpenly) {labels : List (GateLabel ι)}
    {gate : Gate ι} (hrun : (Gate.opened table).run? errand labels = some gate)
    (hfree : gate.holder = none) :
    (∀ (m : Type → Type) [Monad m] [LawfulMonad m] (access : Access m) (origin : PlayerId),
      (Authority.atTable access origin).drawCards.run =
        drawResult <$> access.apply (.drawCards origin)) ∧
    (∀ earlier visitor later origin cards, gate.admitted = earlier ++ visitor :: later →
      errand visitor = .apply (.drawCards origin) → gate.drawn? errand visitor = some cards →
      let before := (table.serveAll (earlier.map errand)).1
      let after := (table.serveAll ((earlier ++ [visitor]).map errand)).1
      before.Takes (.drawCards origin) after ∧
        cards = before.state.drawPile.take config.drawCount ∧
        cards.length = min config.drawCount before.state.drawPile.length ∧
        after.state.drawPile = before.state.drawPile.drop config.drawCount ∧
        after.state.player? origin =
          (before.state.player? origin).map (fun player => player.receive cards) ∧
        (edges = Rules.turnTable → before.state.isSeated origin = true)) ∧
    state.drawPile =
      (gate.admitted.filterMap (gate.drawn? errand)).flatten ++ gate.table.state.drawPile := by
  have hopen := Table.isOpen_of_withEdges hopened
  obtain ⟨horder, htable⟩ := inOrder_of_run? hopen.atRest hrun hfree
  obtain ⟨hstate, hconfig, hedges⟩ :
      table.state = state ∧ table.config = config ∧ table.machine.table = edges := by
    rw [Table.eq_of_withEdges hopened]
    exact ⟨rfl, rfl, rfl⟩
  refine ⟨fun m _ _ access origin => Authority.run_drawCards access origin, ?_, ?_⟩
  · intro earlier visitor later origin cards hadmitted herrand hcards before after
    have hgone := horder.gone
    rw [hadmitted] at hgone
    rw [drawn?, stage_of_gone hgone, herrand] at hcards
    have hbefore : before.config = config := (Table.config_serveAll hopen _).trans hconfig
    have hafter : after = (before.serve (.apply (.drawCards origin))).1 := by
      change (table.serveAll ((earlier ++ [visitor]).map errand)).1 = _
      rw [List.map_append, List.map_singleton, Table.serveAll_concat, herrand]
    obtain ⟨htakes, rfl⟩ : before.Takes (.drawCards origin) after ∧
        cards = before.state.drawnUntil after.state := by
      have houtcome := Table.outcome_serve (Table.isOpen_serveAll hopen (earlier.map errand))
        (.apply (.drawCards origin))
      rw [hafter]
      change (Errand.apply (.drawCards origin)).drawn? (before.serve _).2 = some cards at hcards
      generalize (before.serve (.apply (.drawCards origin))).2 = result at houtcome hcards
      cases houtcome with
      | applied takes =>
        cases hcards
        exact ⟨takes, rfl⟩
      | notApplied => cases hcards
    obtain ⟨hdrawn, hleft, hreceives⟩ := htakes.drawn
    rw [hbefore] at hdrawn hleft hreceives
    rw [hdrawn]
    refine ⟨htakes, rfl, List.length_take, hleft, hreceives, fun hrules => ?_⟩
    have hbeforeEdges : before.machine.table = Rules.turnTable :=
      (Table.edges_serveAll hopen _).trans (hedges.trans hrules)
    exact (htakes.allows hbeforeEdges).isSeated
  · rw [← hstate, htable]
    exact drawPile_of_gone hopenly hopen horder.gone

/-- Two players about to start, and three cards to draw. -/
def thinPile : Table where
  machine := .opened Rules.turnTable .stumbling
    (.opening .zero
      [.seated ⟨0⟩ "Ada" .manager .kentBeck 3, .seated ⟨1⟩ "Bob" .consultant .konradZuse 3]
      [.bug .systemHangs, .excuse .itsAFeature, .bug .coreDump])
    (fun state event => state.after event 2) (fun _ => false)
  config := {}

/-- Two players draw, one after the other, and the turn passes on in between; the second one tries
too early first. -/
def thinPileErrand : Fin 4 → Errand
  | 0 => .apply (.drawCards ⟨0⟩)
  | 1 => .apply (.drawCards ⟨1⟩)
  | 2 => .endTurn ⟨0⟩
  | 3 => .apply (.drawCards ⟨1⟩)

theorem draws_partition_pile_thinPile :
    ∃ gate : Gate (Fin 4),
      (Gate.opened thinPile).run? thinPileErrand (visitLabels 0 true ++ visitLabels 1 false ++
        visitLabels 2 true ++ visitLabels 3 true) = some gate ∧
      gate.admitted.filterMap (gate.drawn? thinPileErrand) =
        [[.bug .systemHangs, .excuse .itsAFeature], [.bug .coreDump]] ∧
      gate.table.state.drawPile = [] := by
  have hrun : ((Gate.opened thinPile).run? thinPileErrand (visitLabels 0 true ++
      visitLabels 1 false ++ visitLabels 2 true ++ visitLabels 3 true)).map
        (fun gate => (gate.holder, gate.admitted.filterMap (gate.drawn? thinPileErrand))) =
      some (none, [[.bug .systemHangs, .excuse .itsAFeature], [.bug .coreDump]]) := by
    rfl
  obtain ⟨gate, hgate, heq⟩ := Option.map_eq_some_iff.mp hrun
  obtain ⟨hfree, hdrawn⟩ := Prod.mk.inj heq
  have hopened : Table.withEdges Rules.turnTable {} thinPile.state = .ok thinPile := rfl
  have hopenly : ∀ visitor, (thinPileErrand visitor).DrawsOpenly := by decide
  have hpile := (draws_partition_pile hopened hopenly hgate hfree).2.2
  rw [hdrawn] at hpile
  exact ⟨gate, hgate, hdrawn, (List.append_right_eq_self.mp hpile.symm)⟩

end Gate

end RoundTable
