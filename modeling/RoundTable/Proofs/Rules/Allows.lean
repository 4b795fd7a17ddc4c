import RoundTable.Table

/-!
# What the rules allow

The edges of a turn carry their conditions as guards, which are evaluated. Here the same rules are
told once more, one line for each way an event can be allowed, with the conditions as propositions:
whatever is proved about allowed events goes through these lines and not through the edges.

## Main definitions

* `GameState.HasInHand`, `GameState.HasAllInHand`: cards in the hand of a player at the table
* `Rules.Allows`: in which phase and state an event is allowed, and to which phase it leads

## Main results

* `Rules.validate_eq_ok_iff`: a machine with the rules of a turn validates what is allowed
* `Rules.Allows.isSeated`: allowed events come from the table
-/

namespace RoundTable

namespace GameState

variable {state : GameState} {id : PlayerId}

/-- The player sits at the table and holds the card. -/
def HasInHand (state : GameState) (id : PlayerId) (card : Card) : Prop :=
  ∃ player, state.player? id = some player ∧ card ∈ player.cards

/-- The player sits at the table and holds all the cards together. -/
def HasAllInHand (state : GameState) (id : PlayerId) (cards : List Card) : Prop :=
  ∃ player, state.player? id = some player ∧ player.holdsAll cards

theorem any_holds_iff {card : Card} :
    ((state.player? id).any fun player => player.holds card) = true ↔ state.HasInHand id card := by
  simp [HasInHand, Option.any_eq_true, Player.holds]

theorem any_holdsAll_iff {cards : List Card} :
    ((state.player? id).any fun player => player.holdsAll cards) = true ↔
      state.HasAllInHand id cards := by
  simp [HasAllInHand, Option.any_eq_true]

/-- The player whose turn it is sits at the table. -/
theorem isSeated_of_isCurrent (h : state.isCurrent id = true) : state.isSeated id = true := by
  obtain ⟨player, hplayer, hid⟩ := Option.map_eq_some_iff.mp (of_decide_eq_true h)
  rw [isSeated, player?, List.find?_isSome]
  exact ⟨player, List.mem_of_getElem? hplayer, decide_eq_true hid⟩

end GameState

namespace Rules

/-! ### The rules, line by line -/

/-- In the given phase an event is allowed, and it leads to the last phase given. -/
inductive Allows (state : GameState) : Turn → GameEvent → Turn → Prop where
  | resolve {origin : PlayerId} {via : Option Card} (current : state.isCurrent origin = true)
    (blocked : (state.pendingStumbling? origin).isSome = true)
    (held : ∀ card ∈ via, state.HasInHand origin card) :
    Allows state .stumbling (.resolveStumbling origin via) .draw
  | drawAtOnce {origin : PlayerId} (current : state.isCurrent origin = true)
    (free : state.pendingStumbling? origin = none) :
    Allows state .stumbling (.drawCards origin) .play
  | draw {origin : PlayerId} (current : state.isCurrent origin = true) :
    Allows state .draw (.drawCards origin) .play
  | report {origin victim : PlayerId} {bug : BugReport} (current : state.isCurrent origin = true)
    (calm : state.pendingAttack = none) (held : state.HasInHand origin (.bug bug))
    (other : origin ≠ victim) (seated : state.isSeated victim = true) :
    Allows state .play (.reportBug origin victim bug) .play
  | excuse {origin victim : PlayerId} {card : Card} {attack : PendingAttack}
    (seated : state.isSeated origin = true) (pending : state.pendingAttack = some attack)
    (involved : origin = attack.attacker ∨ origin = attack.victim)
    (answers : victim = attack.victim) (kind : card.kind = .excuse)
    (held : state.HasInHand victim card) :
    Allows state .play (.reactWithCard origin victim card) .play
  | hit {origin victim : PlayerId} {attack : PendingAttack}
    (seated : state.isSeated origin = true) (pending : state.pendingAttack = some attack)
    (involved : origin = attack.attacker ∨ origin = attack.victim)
    (answers : victim = attack.victim) :
    Allows state .play (.reactWithoutCard origin victim) .play
  | discard {origin : PlayerId} {cards : List Card} (current : state.isCurrent origin = true)
    (held : state.HasAllInHand origin cards) :
    Allows state .play (.discard origin cards) .play
  | pass {origin : PlayerId} (current : state.isCurrent origin = true)
    (calm : state.pendingAttack = none) :
    Allows state .play (.nextTurn origin) .stumbling

variable {state : GameState} {phase target : Turn} {event : GameEvent}

/-- Allowed events come from the table. -/
theorem Allows.isSeated (h : Allows state phase event target) :
    state.isSeated event.origin = true := by
  cases h with
  | resolve current | drawAtOnce current | draw current | report current | discard current
  | pass current => exact GameState.isSeated_of_isCurrent current
  | excuse seated | hit seated => exact seated

/-! ### Conditions -/

theorem check_resolvesStumbling {origin : PlayerId} {via : Option Card} :
    resolvesStumbling.check state (.resolveStumbling origin via) = true ↔
      (state.pendingStumbling? origin).isSome = true ∧
        ∀ card ∈ via, state.HasInHand origin card := by
  cases via with
  | none => simp [resolvesStumbling, Guard.check, Guard.verdict]
  | some card =>
    simp [resolvesStumbling, Guard.check, Guard.verdict, GameState.any_holds_iff]

theorem check_reportsBug {origin victim : PlayerId} {bug : BugReport} :
    reportsBug.check state (.reportBug origin victim bug) = true ↔
      state.HasInHand origin (.bug bug) ∧ origin ≠ victim ∧ state.isSeated victim = true := by
  simp [reportsBug, Guard.check, Guard.verdict, GameState.any_holds_iff, and_assoc]

theorem check_answersAttack_card {origin victim : PlayerId} {card : Card} :
    answersAttack.check state (.reactWithCard origin victim card) = true ↔
      ∃ attack, state.pendingAttack = some attack ∧
        (origin = attack.attacker ∨ origin = attack.victim) ∧ victim = attack.victim ∧
          card.kind = .excuse ∧ state.HasInHand victim card := by
  cases hattack : state.pendingAttack with
  | none => simp [answersAttack, Guard.check, Guard.verdict, hattack]
  | some attack =>
    simp [answersAttack, Guard.check, Guard.verdict, hattack, GameState.any_holds_iff, and_assoc]

theorem check_answersAttack_noCard {origin victim : PlayerId} :
    answersAttack.check state (.reactWithoutCard origin victim) = true ↔
      ∃ attack, state.pendingAttack = some attack ∧
        (origin = attack.attacker ∨ origin = attack.victim) ∧ victim = attack.victim := by
  cases hattack : state.pendingAttack with
  | none => simp [answersAttack, Guard.check, Guard.verdict, hattack]
  | some attack => simp [answersAttack, Guard.check, Guard.verdict, hattack]

theorem check_holdsDiscards {origin : PlayerId} {cards : List Card} :
    holdsDiscards.check state (.discard origin cards) = true ↔ state.HasAllInHand origin cards := by
  simp only [holdsDiscards, Guard.check, Guard.verdict]
  exact GameState.any_holdsAll_iff

/-! ### Edges -/

/-- The edge that decides about an event in a phase, told by the list of edges alone. -/
theorem select?_turnTable (phase : Turn) (event : GameEvent) :
    turnTable.select? phase event =
      (turnEdges.find? fun edge => edge.source = phase && edge.selects event).map
        fun edge => edge.require fromSeated := by
  cases phase <;> cases event <;> rfl

/-- A machine with the rules of a turn validates an event if it comes from the table and the edge
that decides about it accepts. -/
theorem validate_eq_ok_iff_find? {machine : TableMachine} (htable : machine.table = turnTable) :
    machine.validate event = .ok target ↔
      ∃ edge, turnEdges.find? (fun edge => edge.source = machine.phase.value && edge.selects event) =
          some edge ∧
        machine.payload.isSeated event.origin = true ∧
        edge.guard.check machine.payload event = true ∧ edge.target = target := by
  have hverdict (edge : Edge Turn EventKind GameEvent GameState) :
      ((edge.require fromSeated).guard.verdict machine.payload event).accepted =
        (machine.payload.isSeated event.origin && edge.guard.check machine.payload event) :=
    Guard.check_add fromSeated edge.guard
  simp only [Machine.validate, Machine.judge?, htable, select?_turnTable, Option.map_map]
  cases turnEdges.find? _ with
  | none => simp
  | some edge =>
    simp only [Option.map_some, Function.comp_apply, hverdict]
    split
    case isTrue h => simp_all [Edge.require]
    case isFalse h => simp_all

/-- What the deciding edge accepts is allowed. -/
theorem allows_of_find? {edge : Edge Turn EventKind GameEvent GameState}
    (hfind : turnEdges.find? (fun edge => edge.source = phase && edge.selects event) = some edge)
    (hseated : state.isSeated event.origin = true) (haccepts : edge.guard.check state event = true) :
    Allows state phase event edge.target := by
  cases phase with
  | stumbling =>
    cases event with
    | resolveStumbling origin via =>
      cases hfind
      rw [Guard.check_add, Bool.and_eq_true] at haccepts
      obtain ⟨hcurrent, hresolves⟩ := haccepts
      obtain ⟨hblocked, hheld⟩ := check_resolvesStumbling.mp hresolves
      exact .resolve hcurrent hblocked hheld
    | drawCards origin =>
      cases hfind
      rw [Guard.check_add, Bool.and_eq_true] at haccepts
      exact .drawAtOnce haccepts.1 (Option.isNone_iff_eq_none.mp haccepts.2)
    | _ => cases hfind
  | draw =>
    cases event with
    | drawCards origin =>
      cases hfind
      exact .draw haccepts
    | _ => cases hfind
  | play =>
    cases event with
    | reportBug origin victim bug =>
      cases hfind
      rw [Guard.check_add, Guard.check_add, Bool.and_eq_true, Bool.and_eq_true] at haccepts
      obtain ⟨⟨hcurrent, hcalm⟩, hreports⟩ := haccepts
      obtain ⟨hheld, hother, hvictim⟩ := check_reportsBug.mp hreports
      exact .report hcurrent (Option.isNone_iff_eq_none.mp hcalm) hheld hother hvictim
    | reactWithCard origin victim card =>
      cases hfind
      obtain ⟨attack, hpending, hinvolved, hanswers, hkind, hheld⟩ :=
        check_answersAttack_card.mp haccepts
      exact .excuse hseated hpending hinvolved hanswers hkind hheld
    | reactWithoutCard origin victim =>
      cases hfind
      obtain ⟨attack, hpending, hinvolved, hanswers⟩ := check_answersAttack_noCard.mp haccepts
      exact .hit hseated hpending hinvolved hanswers
    | discard origin cards =>
      cases hfind
      rw [Guard.check_add, Bool.and_eq_true] at haccepts
      exact .discard haccepts.1 (check_holdsDiscards.mp haccepts.2)
    | nextTurn origin =>
      cases hfind
      rw [Guard.check_add, Bool.and_eq_true] at haccepts
      exact .pass haccepts.1 (Option.isNone_iff_eq_none.mp haccepts.2)
    | _ => cases hfind

/-- What is allowed, an edge accepts. -/
theorem Allows.exists_edge (h : Allows state phase event target) :
    ∃ edge, turnEdges.find? (fun edge => edge.source = phase && edge.selects event) = some edge ∧
      edge.guard.check state event = true ∧ edge.target = target := by
  cases h with
  | resolve current blocked held =>
    refine ⟨_, rfl, ?_, rfl⟩
    rw [Guard.check_add, Bool.and_eq_true]
    exact ⟨current, check_resolvesStumbling.mpr ⟨blocked, held⟩⟩
  | drawAtOnce current free =>
    refine ⟨_, rfl, ?_, rfl⟩
    rw [Guard.check_add, Bool.and_eq_true]
    exact ⟨current, Option.isNone_iff_eq_none.mpr free⟩
  | draw current => exact ⟨_, rfl, current, rfl⟩
  | report current calm held other seated =>
    refine ⟨_, rfl, ?_, rfl⟩
    rw [Guard.check_add, Guard.check_add, Bool.and_eq_true, Bool.and_eq_true]
    exact ⟨⟨current, Option.isNone_iff_eq_none.mpr calm⟩,
      check_reportsBug.mpr ⟨held, other, seated⟩⟩
  | excuse seated pending involved answers kind held =>
    exact ⟨_, rfl, check_answersAttack_card.mpr ⟨_, pending, involved, answers, kind, held⟩, rfl⟩
  | hit seated pending involved answers =>
    exact ⟨_, rfl, check_answersAttack_noCard.mpr ⟨_, pending, involved, answers⟩, rfl⟩
  | discard current held =>
    refine ⟨_, rfl, ?_, rfl⟩
    rw [Guard.check_add, Bool.and_eq_true]
    exact ⟨current, check_holdsDiscards.mpr held⟩
  | pass current calm =>
    refine ⟨_, rfl, ?_, rfl⟩
    rw [Guard.check_add, Bool.and_eq_true]
    exact ⟨current, Option.isNone_iff_eq_none.mpr calm⟩

/-- **A machine with the rules of a turn validates what the rules allow**, line by line. -/
theorem validate_eq_ok_iff {machine : TableMachine} (htable : machine.table = turnTable) :
    machine.validate event = .ok target ↔
      Allows machine.payload machine.phase.value event target := by
  rw [validate_eq_ok_iff_find? htable]
  constructor
  · rintro ⟨edge, hfind, hseated, haccepts, rfl⟩
    exact allows_of_find? hfind hseated haccepts
  · intro h
    obtain ⟨edge, hfind, haccepts, htarget⟩ := h.exists_edge
    exact ⟨edge, hfind, h.isSeated, haccepts, htarget⟩

end Rules

end RoundTable
