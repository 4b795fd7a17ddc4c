import RoundTable.Proofs.Table.TurnOrder
import RoundTable.Proofs.Walk.Office

/-!
# Requests of players who have no say

While it is somebody else's turn, a player has no say at the table, unless the player is attacked and
answers. Whatever else is asked of the table on behalf of the player is refused at the first event
that it takes, or before that; so nobody is asked anything for the player's sake, and the table stays
as it is.

## Main definitions

* `GameState.HasNoSay`: requests of players who have no say
* `GameState.Bars`: events that no phase allows
* `Futile`: what is known of attempts that come to nothing at a table in some state
* `Executor.executeAll`: requests carried out one after another

## Main results

* `Futile.execute`: whatever a player who has no say requests comes to nothing
* `Office.declines_all`: so do any number of requests
-/

namespace RoundTable

/-! ### Players who have no say -/

namespace GameState

variable {state : GameState} {id : PlayerId}

/-- The player has no say in the matter: it is not the player's turn, and the request is no answer
to an attack on the player. -/
structure HasNoSay (state : GameState) (id : PlayerId) (request : Request) : Prop where
  current : state.isCurrent id = false
  answer : ∀ attack, state.pendingAttack = some attack → attack.victim = id →
    ∀ defence, request ≠ .defendAttack defence

/-- Whoever is neither next nor attacked has no say in anything. -/
theorem HasNoSay.of_bystander (hcurrent : state.isCurrent id = false)
    (hvictim : ∀ attack, state.pendingAttack = some attack → attack.victim ≠ id)
    (request : Request) : state.HasNoSay id request :=
  ⟨hcurrent, fun attack hpending hid => absurd hid (hvictim attack hpending)⟩

/-- No phase allows the event. -/
def Bars (state : GameState) (event : GameEvent) : Prop :=
  ∀ phase target, ¬Rules.Allows state phase event target

/-- Only whoever's turn it is may do anything but answer an attack. -/
theorem bars_of_isCurrent {event : GameEvent} (hcurrent : state.isCurrent event.origin = false)
    (hreaction : event.reaction? = none) : state.Bars event := by
  intro phase target hallows
  have htrue := hallows.isCurrent hreaction
  rw [hcurrent] at htrue
  cases htrue

end GameState

/-! ### Attempts that come to nothing -/

/-- Enough is known of attempts that come to nothing at a table in the given state: failures do, and
nothing comes after a failure; an event that is barred comes to nothing; and whoever looks at the
table sees that state. -/
structure Futile {m : Type → Type} [Monad m] (access : Access m) (state : GameState)
    (Fails : ∀ {α : Type}, ExceptT Failure m α → Prop) : Prop where
  throw : ∀ {α : Type} (failure : Failure), Fails (throw failure : ExceptT Failure m α)
  bind : ∀ {α β : Type} {attempt : ExceptT Failure m α} {next : α → ExceptT Failure m β},
    Fails attempt → Fails (attempt >>= next)
  observe : ∀ {α : Type} {next : GameState → ExceptT Failure m α},
    Fails (next state) → Fails (ExceptT.lift access.observe >>= next)
  send : ∀ {event : GameEvent}, state.Bars event → Fails (access.send event)
  sendOr : ∀ {preferred fallback : GameEvent}, state.Bars preferred → state.Bars fallback →
    Fails (access.sendOr preferred fallback)

/-- **Whatever a player who has no say requests comes to nothing.** -/
theorem Futile.execute {m : Type → Type} [Monad m] {access : Access m} {state : GameState}
    {Fails : ∀ {α : Type}, ExceptT Failure m α → Prop} (h : Futile access state Fails)
    {id : PlayerId} {request : Request} (hnosay : state.HasNoSay id request) :
    Fails (Executor.atTable access (.participant id) request) := by
  have hbars {event : GameEvent} (horigin : event.origin = id)
      (hreaction : event.reaction? = none) : state.Bars event :=
    GameState.bars_of_isCurrent (horigin ▸ hnosay.current) hreaction
  change Fails ((Authority.atTable access id).beside Participant.nobody request >>= fun answer =>
    pure (request.expectation.wrap answer))
  refine h.bind ?_
  cases request with
  | drawCards | attackPlayer | discard => exact h.bind (h.send (hbars rfl rfl))
  | handleStumbling via =>
    cases via with
    | none => exact h.bind (h.send (hbars rfl rfl))
    | some card => exact h.bind (h.sendOr (hbars rfl rfl) (hbars rfl rfl))
  | defendAttack defence =>
    have hvictim : ¬(state.pendingAttack.any fun attack => attack.victim = id) = true := by
      rw [Option.any_eq_true]
      rintro ⟨attack, hpending, hid⟩
      exact hnosay.answer attack hpending (of_decide_eq_true hid) defence rfl
    refine h.observe ?_
    rw [if_neg hvictim]
    exact h.throw _
  | _ => exact h.throw _

/-! ### One request after another -/

/-- Carries out requests one after another, each for the participant it comes from. -/
def Executor.executeAll {m : Type → Type} [Monad m] (execute : Executor m) :
    List (PlayerId × Request) → m (List (Except Failure Reply))
  | [] => pure []
  | (id, request) :: requests => do
    let result ← (execute (.participant id) request).run
    let results ← execute.executeAll requests
    return result :: results

theorem Executor.run_executeAll_cons {σ : Type} {execute : Executor (StateM σ)}
    {wish : PlayerId × Request} {requests : List (PlayerId × Request)} {before middle after : σ}
    {result : Except Failure Reply} {results : List (Except Failure Reply)}
    (h : (execute (.participant wish.1) wish.2).run.run before = (result, middle))
    (hrest : (execute.executeAll requests).run middle = (results, after)) :
    (execute.executeAll (wish :: requests)).run before = (result :: results, after) := by
  simp only [Executor.executeAll, StateT.run_bind, h]
  exact congrArg (fun outcome => (result :: outcome.1, outcome.2)) hrest

namespace Office

variable {α β : Type} {drawCount : Nat} {phase : Turn} {state : GameState}
  {others : PlayerId → Resolver (StateM Office)}

/-- At a table in the given phase and state, an attempt comes to nothing, and nobody is asked. -/
def Declines (drawCount : Nat) (phase : Turn) (state : GameState)
    (attempt : ExceptT Failure (StateM Office) α) : Prop :=
  ∀ office : Office, office.table.LiesAt drawCount phase state → ∃ failure after,
    attempt.run.run office = (.error failure, after) ∧ after.asked = office.asked ∧
      office.table.Intact after.table ∧ after.table.LiesAt drawCount phase state

theorem futile_declines (others : PlayerId → Resolver (StateM Office)) (drawCount : Nat)
    (phase : Turn) (state : GameState) :
    Futile (access others) state (Declines drawCount phase state) where
  throw failure office hlies := ⟨failure, office, rfl, rfl, .refl _, hlies⟩
  bind h office hlies := by
    obtain ⟨failure, after, hrun, hafter⟩ := h office hlies
    exact ⟨failure, after, run_bind_error hrun, hafter⟩
  observe h office hlies := by
    obtain ⟨failure, after, hrun, hafter⟩ := h office hlies
    rw [← hlies.state] at hrun
    exact ⟨failure, after, hrun, hafter⟩
  send hbars office hlies := by
    obtain ⟨refusal, after, -, hrun, hafter⟩ := run_send_refused others hlies (hbars phase)
    exact ⟨_, after, hrun, hafter.asked, hafter.intact, hafter.lies⟩
  sendOr hbars hbars' office hlies := by
    obtain ⟨refusal, after, -, hrun, hafter⟩ :=
      run_sendOr_refused others hlies (hbars phase) (hbars' phase)
    exact ⟨_, after, hrun, hafter.asked, hafter.intact, hafter.lies⟩

/-- **Any number of requests come to nothing** if they are all of players who have no say. -/
theorem declines_all (others : PlayerId → Resolver (StateM Office))
    {requests : List (PlayerId × Request)}
    (hnosay : ∀ wish ∈ requests, state.HasNoSay wish.1 wish.2) (office : Office)
    (hlies : office.table.LiesAt drawCount phase state) :
    ∃ (failures : List Failure) (after : Office), failures.length = requests.length ∧
      ((Executor.atTable (access others)).executeAll requests).run office =
        (failures.map .error, after) ∧
      after.asked = office.asked ∧ office.table.Intact after.table := by
  induction requests generalizing office with
  | nil => exact ⟨[], office, rfl, rfl, rfl, .refl _⟩
  | cons wish requests ih =>
    obtain ⟨failure, middle, hrun, hasked, hintact, hmiddle⟩ :=
      (futile_declines others drawCount phase state).execute
        (hnosay wish List.mem_cons_self) office hlies
    obtain ⟨failures, after, hlength, hrest, hasked', hintact'⟩ :=
      ih (fun other hmem => hnosay other (List.mem_cons_of_mem _ hmem)) middle hmiddle
    refine ⟨failure :: failures, after, congrArg Nat.succ hlength, ?_, hasked'.trans hasked,
      hintact.trans hintact'⟩
    exact Executor.run_executeAll_cons hrun hrest

end Office

end RoundTable
