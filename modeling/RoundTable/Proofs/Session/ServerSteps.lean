import RoundTable.Proofs.Session.Histories

/-!
# Events of the server's steps

When the server takes a step for a player, the request says which events it may send, but for one:
if somebody is attacked, the answer comes from the one who has been asked. So what is to be said of
the events of a step is said of a few events, and of answers to questions.

## Main definitions

* `Request.events`, `Request.chosen`: the events of a step, and the cards that a reply names
* `Routine.Told`: a card that somebody who has been asked names
* `Routine.Sends`, `Routine.Licence`: what is said of all events that are sent

## Main results

* `Routine.attempts_atTable`, `Routine.proceeds_execute`: steps and walks send nothing else
-/

namespace RoundTable

/-- What can be read from a reply was wrapped into it. -/
theorem Reply.eq_of_read {reply : Reply} {expectation : Expectation} {a : expectation.Value}
    (h : reply.read expectation = .ok a) : reply = expectation.wrap a := by
  cases expectation <;> cases reply <;> cases h <;> rfl

/-- The cards that a reply to a request names. -/
def Request.chosen : Request → Reply → List Card
  | selectResponse, .optionalCard card => card.toList
  | selectAttack, .bug bug => [.bug bug]
  | selectDiscardCards _, .cards cards => cards
  | _, _ => []

/-- The events that the server may send for a player to carry out a request, whatever others say. -/
def Request.events (origin : PlayerId) : Request → List GameEvent
  | drawCards => [.drawCards origin]
  | attackPlayer target bug => [.reportBug origin target bug, .reactWithoutCard origin target]
  | defendAttack defence =>
    .reactWithoutCard origin origin :: defence.toList.map (.reactWithCard origin origin)
  | handleStumbling via => [.resolveStumbling origin via, .resolveStumbling origin none]
  | discard cards => [.discard origin cards]
  | _ => []

namespace Routine

/-! ### Questions -/

/-- A reply of a player, that somebody has asked for and waited for, names a card. -/
def Told (past : List Exchange) (id : PlayerId) (card : Card) : Prop :=
  ∃ call question value,
    ⟨.send (.ofServer id) (.delegate .server call question), true⟩ ∈ past ∧
      ⟨.await (.ofServer id) call, .ok value⟩ ∈ past ∧ card ∈ question.chosen value

theorem Told.append {past : List Exchange} {id : PlayerId} {card : Card} (h : Told past id card)
    (more : List Exchange) : Told (past ++ more) id card := by
  obtain ⟨call, question, value, hsent, hawaited, hcard⟩ := h
  exact ⟨call, question, value, List.mem_append_left _ hsent, List.mem_append_left _ hawaited,
    hcard⟩

variable {past : List Exchange} {id origin : PlayerId} {request : Request} {α β : Type}

/-- Whoever has been asked names the cards of the answer. -/
theorem Asked.told {told : List Exchange} {answer : request.Answer}
    (h : Asked id request told (.ok answer)) (past : List Exchange) {card : Card}
    (hcard : card ∈ request.chosen (request.expectation.wrap answer)) :
    Told (past ++ told) id card := by
  generalize hresult : Except.ok answer = result at h
  cases h with
  | unlinked => cases hresult
  | @called told reply hcalled =>
    cases hcalled with
    | unregistered | unsent => cases hresult
    | @answered call reply =>
      cases reply with
      | error failure => cases hresult
      | ok value =>
        have hvalue : value = request.expectation.wrap answer := Reply.eq_of_read hresult.symm
        refine ⟨call, request, value, ?_, ?_, hvalue ▸ hcard⟩ <;> simp [LinkEnd.owner]

/-- A card that a victim answers with has been named by the victim. -/
theorem Asked.told_of_heard {told : List Exchange} {answer : Except Failure (Option Card)}
    (h : Asked id .selectResponse told answer) {card : Card}
    (hheard : heard answer = .ok (some card)) (past : List Exchange) :
    Told (past ++ told) id card := by
  cases answer with
  | error failure =>
    rw [heard] at hheard
    split at hheard <;> cases hheard
  | ok defence =>
    cases hheard
    exact h.told past (Option.mem_toList.mpr rfl)

/-! ### Events -/

/-- The events of a question are allowed. -/
def Sends (allowed : List Exchange → GameEvent → Prop) (past : List Exchange) (effect : Effect) :
    Prop :=
  ∀ event ∈ effect.events, allowed past event

/-- What is allowed to be sent for a player: what is allowed once stays so, and with a card that the
victim has named an attack may be answered. -/
structure Licence (origin : PlayerId) (allowed : List Exchange → GameEvent → Prop) : Prop where
  grows : ∀ past more event, allowed past event → allowed (past ++ more) event
  told : ∀ past victim card, Told past victim card →
    allowed past (.reactWithCard origin victim card)

variable {allowed : List Exchange → GameEvent → Prop} {event preferred fallback : GameEvent}

theorem lenient_sends (allowed : List Exchange → GameEvent → Prop) : Lenient (Sends allowed) := by
  intro past effect hnone event hevent
  rw [hnone] at hevent
  cases hevent

/-- One attempt after another, if nothing has to be remembered. -/
theorem Attempts.andThen_any {may : List Exchange → Effect → Prop}
    {attempt : ExceptT Failure Routine α} {next : α → ExceptT Failure Routine β}
    (h : Attempts may anyEnding past attempt)
    (hnext : ∀ past a, Attempts may anyEnding past (next a)) :
    Attempts may anyEnding past (attempt >>= next) := by
  refine Attempts.bind (Proceeds.mono h fun past result _ => ?_)
  cases result with
  | ok a => exact hnext past a
  | error failure => trivial

theorem attempts_send_any (h : allowed past event) :
    Attempts (Sends allowed) anyEnding past (access.send event) := by
  refine attempts_send (lenient_sends allowed) (fun other hother => ?_) fun _ _ _ => trivial
  rwa [List.mem_singleton.mp hother]

theorem attempts_sendOr_any (h : allowed past preferred) (h' : allowed past fallback) :
    Attempts (Sends allowed) anyEnding past (access.sendOr preferred fallback) := by
  refine attempts_sendOr (lenient_sends allowed) (fun other hother => ?_) fun _ _ _ => trivial
  obtain rfl | hother := List.mem_cons.mp hother
  · exact h
  · rwa [List.mem_singleton.mp hother]

theorem attempts_settleAttack_any {victim : PlayerId} {defence : Option Card}
    (hhit : allowed past (.reactWithoutCard origin victim))
    (hanswer : ∀ card, defence = some card → allowed past (.reactWithCard origin victim card)) :
    Attempts (Sends allowed) anyEnding past (access.settleAttack origin victim defence) := by
  refine attempts_settleAttack (lenient_sends allowed) (fun _ event hevent => ?_)
    (fun card hdefence event hevent => ?_) fun _ _ _ => trivial
  · rwa [List.mem_singleton.mp hevent]
  · obtain rfl | hevent := List.mem_cons.mp hevent
    · exact hanswer card hdefence
    · rwa [List.mem_singleton.mp hevent]

/-! ### Steps -/

/-- **The server's steps for a player send the events of the request**, and what a victim answers
with. -/
theorem attempts_atTable {participant : Participant Routine} (hlicence : Licence origin allowed)
    (hside : request.side = .server)
    (hevents : ∀ event ∈ request.events origin, allowed past event) :
    Attempts (Sends allowed) anyEnding past
      ((Authority.atTable access origin).beside participant request) := by
  have hlenient := lenient_sends allowed
  cases request with
  | drawCards =>
    exact .andThen_any (attempts_send_any (hevents _ List.mem_cons_self)) fun _ _ =>
      attempts_pure trivial
  | attackPlayer target bug =>
    have hhit : allowed past (.reactWithoutCard origin target) :=
      hevents _ (List.mem_cons_of_mem _ (List.mem_singleton.mpr rfl))
    refine Attempts.bind (attempts_send hlenient ?_ fun told answer _ => ?_)
    · intro event hevent
      rw [List.mem_singleton.mp hevent]
      exact hevents _ List.mem_cons_self
    cases answer with
    | error failure => trivial
    | ok states =>
      refine Attempts.bind (attempts_askVictim hlenient fun told' answer hasked => ?_)
      cases hheard : heard answer with
      | error failure => trivial
      | ok defence =>
        refine attempts_settleAttack_any ?_ fun card hdefence => ?_
        · exact hlicence.grows _ _ _ (hlicence.grows _ _ _ hhit)
        · subst hdefence
          exact hlicence.told _ _ _ (hasked.told_of_heard hheard _)
  | defendAttack defence =>
    refine attempts_observe (hlenient _ _ rfl) fun state => ?_
    have hlater {event : GameEvent}
        (hevent : event ∈ (Request.defendAttack defence).events origin) :
        allowed (past ++ [⟨.observe, state⟩]) event := hlicence.grows _ _ _ (hevents event hevent)
    split
    · refine .andThen_any (attempts_settleAttack_any (hlater List.mem_cons_self) ?_) fun _ _ =>
        attempts_pure trivial
      rintro card rfl
      exact hlater (List.mem_cons_of_mem _ (List.mem_singleton.mpr rfl))
    · exact attempts_throw trivial
  | handleStumbling via =>
    cases via with
    | none =>
      exact .andThen_any (attempts_send_any (hevents _ List.mem_cons_self)) fun _ _ =>
        attempts_pure trivial
    | some card =>
      exact .andThen_any (attempts_sendOr_any (hevents _ List.mem_cons_self)
        (hevents _ (List.mem_cons_of_mem _ (List.mem_singleton.mpr rfl)))) fun _ _ =>
          attempts_pure trivial
  | discard cards =>
    exact .andThen_any (attempts_send_any (hevents _ List.mem_cons_self)) fun _ _ =>
      attempts_pure trivial
  | _ => cases hside

/-- **The walk of an action of a player sends the events of the action**, and what a victim answers
with. -/
theorem proceeds_execute {call : CallId} {action : Request} (hlicence : Licence origin allowed)
    (hevents : ∀ event ∈ action.events origin, allowed [] event) :
    Proceeds (Sends allowed) anyEnding []
      (delegated (.atTable access) (.ofServer id) (.participant origin) call action).run := by
  refine proceeds_delegated (fun _ _ => lenient_sends allowed _ _ rfl) (Attempts.program ?_)
  cases hside : action.side with
  | server =>
    exact (attempts_atTable hlicence hside hevents).mono fun _ _ _ _ => trivial
  | client =>
    cases action with
    | drawCards | attackPlayer | defendAttack | handleStumbling | discard => cases hside
    | _ => exact attempts_throw fun _ => trivial

end Routine

end RoundTable
