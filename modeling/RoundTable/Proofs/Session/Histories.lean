import RoundTable.Proofs.Session.Occurrences
import RoundTable.Proofs.Session.Undisturbed

/-!
# Histories of routines

A routine is a tree of questions, and whatever it is answered leads one way down the tree. What has
been asked and answered so far is the history of a routine. Here it is said of a routine which
questions it may ask after which history, and with which history it may end with which result. What
the server does is told in full: for each of its steps there are few histories, and they show what
has come of the step.

## Main definitions

* `Routine.Goes`: what is left of a routine after a history
* `Routine.Proceeds`, `Routine.Attempts`: what may be asked, and what holds at the end
* `Routine.Called`, `Routine.Asked`, `Routine.Sent`, `Routine.Settled`: the histories of calls,
  questions, events and of the end of an attack

## Main results

* `Routine.Proceeds.goes`: what is said of a routine is so after every history
* `Routine.attempts_call`, `Routine.attempts_askParticipant`, `Routine.attempts_send`,
  `Routine.attempts_sendOr`, `Routine.attempts_settleAttack`: there are no other histories
* `Routine.proceeds_delegated_of`: a walk sends back what its action has come to
-/

namespace RoundTable

/-- The events that are sent to the table with a question. -/
def Effect.events : Effect → List GameEvent
  | apply event => [event]
  | applyOr preferred fallback => [preferred, fallback]
  | _ => []

namespace Routine

variable {α β : Type}

/-! ### Ways down the tree -/

/-- After the history, what comes last is left of a routine. -/
inductive Goes {α : Type} : Routine α → List Exchange → Routine α → Prop where
  | here (routine : Routine α) : Goes routine [] routine
  | ask {effect : Effect} {next : effect.Answer → Routine α} {answer : effect.Answer}
    {history : List Exchange} {later : Routine α} (rest : Goes (next answer) history later) :
    Goes (Interaction.ask effect next) (⟨effect, answer⟩ :: history) later

/-- One more question is answered. -/
theorem Goes.concat {routine : Routine α} {history : List Exchange} {effect : Effect}
    {next : effect.Answer → Routine α} (h : Goes routine history (Interaction.ask effect next))
    (answer : effect.Answer) : Goes routine (history ++ [⟨effect, answer⟩]) (next answer) := by
  generalize hlater : Interaction.ask effect next = later at h
  induction h with
  | here =>
    subst hlater
    exact .ask (.here _)
  | ask _ ih => exact .ask (ih hlater)

/-! ### What may be asked, and what holds at the end -/

/-- Whatever a routine is answered from a past on, it asks what may be asked after what has gone
before, and ends with a result of which, after all that has gone before, something holds. -/
inductive Proceeds (may : List Exchange → Effect → Prop) {α : Type}
    (post : List Exchange → α → Prop) : List Exchange → Routine α → Prop where
  | done {past : List Exchange} {a : α} (h : post past a) :
    Proceeds may post past (Interaction.done a)
  | ask {past : List Exchange} {effect : Effect} {next : effect.Answer → Routine α}
    (h : may past effect)
    (hnext : ∀ answer, Proceeds may post (past ++ [⟨effect, answer⟩]) (next answer)) :
    Proceeds may post past (Interaction.ask effect next)

/-- Nothing is known of how a routine ends. -/
abbrev anyEnding {α : Type} (_ : List Exchange) (_ : α) : Prop := True

variable {may : List Exchange → Effect → Prop} {past : List Exchange}

/-- What is said of a routine is so after every history. -/
theorem Proceeds.goes {post : List Exchange → α → Prop} {routine later : Routine α}
    {history : List Exchange} (h : Proceeds may post past routine)
    (hgoes : Goes routine history later) : Proceeds may post (past ++ history) later := by
  induction hgoes generalizing past with
  | here => rwa [List.append_nil]
  | @ask effect next answer history later _ ih =>
    cases h with
    | ask _ hnext => simpa using ih (hnext answer)

theorem Proceeds.may_ask {post : List Exchange → α → Prop} {effect : Effect}
    {next : effect.Answer → Routine α}
    (h : Proceeds may post past (Interaction.ask effect next)) : may past effect := by
  cases h with
  | ask h _ => exact h

theorem Proceeds.holds_done {post : List Exchange → α → Prop} {a : α}
    (h : Proceeds may post past (Interaction.done a : Routine α)) : post past a := by
  cases h with
  | done h => exact h

/-- Whatever has been asked, could be asked after what had gone before. -/
theorem Proceeds.exists_may {post : List Exchange → α → Prop} {routine later : Routine α}
    {history : List Exchange} (h : Proceeds may post past routine)
    (hgoes : Goes routine history later) {exchange : Exchange} (hmem : exchange ∈ history) :
    ∃ earlier, earlier <+: past ++ history ∧ may earlier exchange.effect := by
  induction hgoes generalizing past with
  | here => cases hmem
  | @ask effect next answer history later _ ih =>
    cases h with
    | ask hmay hnext =>
      obtain rfl | hmem := List.mem_cons.mp hmem
      · exact ⟨past, List.prefix_append _ _, hmay⟩
      · obtain ⟨earlier, hearlier, hmay⟩ := ih (hnext answer) hmem
        rw [List.append_assoc] at hearlier
        exact ⟨earlier, hearlier, hmay⟩

theorem Proceeds.may_of_mem {post : List Exchange → α → Prop} {routine later : Routine α}
    {history : List Exchange} (h : Proceeds may post past routine)
    (hgoes : Goes routine history later) {exchange : Exchange} (hmem : exchange ∈ history) :
    ∃ earlier, may earlier exchange.effect :=
  (h.exists_may hgoes hmem).imp fun _ hmay => hmay.2

/-- One routine after another. -/
theorem Proceeds.bind {post : List Exchange → β → Prop} {routine : Routine α}
    {next : α → Routine β}
    (h : Proceeds may (fun past a => Proceeds may post past (next a)) past routine) :
    Proceeds may post past (Interaction.bind routine next) := by
  induction h with
  | done h => exact h
  | ask h _ ih => exact .ask h ih

theorem Proceeds.mono {post post' : List Exchange → α → Prop} {routine : Routine α}
    (h : Proceeds may post past routine) (hpost : ∀ past a, post past a → post' past a) :
    Proceeds may post' past routine := by
  induction h with
  | done h => exact .done (hpost _ _ h)
  | ask h _ ih => exact .ask h ih

/-! ### Routines that may fail -/

/-- The same of a routine that may fail. -/
def Attempts (may : List Exchange → Effect → Prop)
    (post : List Exchange → Except Failure α → Prop) (past : List Exchange)
    (attempt : ExceptT Failure Routine α) : Prop :=
  Proceeds may post past attempt.run

section

variable {post : List Exchange → Except Failure α → Prop}

theorem attempts_pure {a : α} (h : post past (.ok a)) : Attempts may post past (pure a) :=
  .done h

theorem attempts_throw {failure : Failure} (h : post past (.error failure)) :
    Attempts may post past (throw failure) :=
  .done h

theorem Attempts.bind {post : List Exchange → Except Failure β → Prop}
    {attempt : ExceptT Failure Routine α} {next : α → ExceptT Failure Routine β}
    (h : Attempts may (fun past result => match result with
      | .ok a => Attempts may post past (next a)
      | .error failure => post past (.error failure)) past attempt) :
    Attempts may post past (attempt >>= next) := by
  rw [Attempts, run_bind]
  refine Proceeds.bind (h.mono fun past result hresult => ?_)
  cases result with
  | ok a => exact hresult
  | error failure => exact .done hresult

/-- A look at the table, and what follows. -/
theorem attempts_observe {next : GameState → ExceptT Failure Routine α}
    (hmay : may past .observe)
    (h : ∀ state : GameState, Attempts may post (past ++ [⟨.observe, state⟩]) (next state)) :
    Attempts may post past (ExceptT.lift access.observe >>= next) :=
  .ask hmay h

end

/-- Questions that send no events to the table may always be asked. -/
def Lenient (may : List Exchange → Effect → Prop) : Prop :=
  ∀ past effect, Effect.events effect = [] → may past effect

/-! ### Calls -/

/-- The histories of a call. -/
inductive Called (place : LinkEnd) (action : Request) :
    List Exchange → Except Failure Reply → Prop where
  | unregistered {call : CallId} {failure : Failure} :
    Called place action
      [⟨.number place.owner, call⟩, ⟨.register place call, .error failure⟩] (.error failure)
  | unsent {call : CallId} :
    Called place action
      [⟨.number place.owner, call⟩, ⟨.register place call, .ok ()⟩,
        ⟨.send place (.delegate place.owner call action), false⟩, ⟨.cancel place call, ()⟩]
      (.error .disconnected)
  | answered {call : CallId} {answer : Except Failure Reply} :
    Called place action
      [⟨.number place.owner, call⟩, ⟨.register place call, .ok ()⟩,
        ⟨.send place (.delegate place.owner call action), true⟩, ⟨.await place call, answer⟩]
      answer

/-- The histories of a question to a participant. -/
inductive Asked (id : PlayerId) (request : Request) :
    List Exchange → Except Failure request.Answer → Prop where
  | unlinked :
    Asked id request [⟨.isLinked id, false⟩]
      (.error (.routing ("no session link for participant " ++ toString id)))
  | called {told : List Exchange} {answer : Except Failure Reply}
    (h : Called (.ofServer id) request told answer) :
    Asked id request (⟨.isLinked id, true⟩ :: told)
      (answer >>= fun reply => reply.read request.expectation)

variable {place : LinkEnd} {action request : Request} {id : PlayerId}

/-- There are no other histories of a call. -/
theorem attempts_call {post : List Exchange → Except Failure Reply → Prop}
    (hlenient : Lenient may)
    (h : ∀ told answer, Called place action told answer → post (past ++ told) answer) :
    Attempts may post past (call place action) := by
  rw [Attempts, run_call]
  refine .ask (hlenient _ _ rfl) fun call => .ask (hlenient _ _ rfl) fun registered => ?_
  cases registered with
  | error failure => exact .done (by simpa using h _ _ .unregistered)
  | ok =>
    refine .ask (hlenient _ _ rfl) fun sent => ?_
    cases sent with
    | true => exact .ask (hlenient _ _ rfl) fun answer => .done (by simpa using h _ _ .answered)
    | false => exact .ask (hlenient _ _ rfl) fun _ => .done (by simpa using h _ _ .unsent)

/-- There are no other histories of a question to a participant. -/
theorem attempts_askParticipant (id : PlayerId) (request : Request)
    {post : List Exchange → Except Failure request.Answer → Prop} (hlenient : Lenient may)
    (h : ∀ told answer, Asked id request told answer → post (past ++ told) answer) :
    Attempts may post past (askParticipant id request) := by
  refine Attempts.bind (Proceeds.ask (hlenient _ (.isLinked id) rfl) fun linked => ?_)
  cases linked with
  | false => exact .done (h _ _ .unlinked)
  | true =>
    refine attempts_call hlenient fun told answer hcalled => ?_
    have hasked := h _ _ (.called hcalled)
    rw [← List.singleton_append, ← List.append_assoc] at hasked
    cases answer with
    | error failure => exact hasked
    | ok reply => exact .done hasked

/-- What is made of the answer of a victim: no answer is an answer without a card. -/
def heard : Except Failure (Option Card) → Except Failure (Option Card)
  | .ok card => .ok card
  | .error failure => if failure.isFatal then .error failure else .ok none

theorem attempts_askVictim {post : List Exchange → Except Failure (Option Card) → Prop}
    (hlenient : Lenient may)
    (h : ∀ told answer, Asked id .selectResponse told answer → post (past ++ told) (heard answer)) :
    Attempts may post past (access.askVictim id) := by
  have hasked : Attempts may (fun past answer => post past (heard answer)) past
      (askParticipant id .selectResponse) := attempts_askParticipant id .selectResponse hlenient h
  refine Proceeds.bind (Proceeds.mono hasked fun past answer hanswer => ?_)
  cases answer with
  | ok card => exact .done hanswer
  | error failure =>
    simp only [heard] at hanswer
    dsimp only
    split
    case isTrue hfatal =>
      rw [if_pos hfatal] at hanswer
      exact .done hanswer
    case isFalse hfatal =>
      rw [if_neg hfatal] at hanswer
      exact .done hanswer

/-! ### Events -/

/-- The histories of an event. -/
inductive Sent (event : GameEvent) :
    List Exchange → Except Failure (GameState × GameState) → Prop where
  | taken {states : GameState × GameState} :
    Sent event [⟨.apply event, .ok states⟩, ⟨.confirm, ()⟩] (.ok states)
  | refused {refusal : Refusal} :
    Sent event [⟨.apply event, .error refusal⟩] (.error (.ofRefusal refusal))

/-- The histories of two events of which one is sent. -/
inductive SentOne (preferred fallback : GameEvent) :
    List Exchange → Except Failure Bool → Prop where
  | taken {fits : Bool} :
    SentOne preferred fallback [⟨.applyOr preferred fallback, .ok fits⟩, ⟨.confirm, ()⟩] (.ok fits)
  | refused {refusal : Refusal} :
    SentOne preferred fallback [⟨.applyOr preferred fallback, .error refusal⟩]
      (.error (.ofRefusal refusal))

variable {event preferred fallback : GameEvent}

theorem attempts_send {post : List Exchange → Except Failure (GameState × GameState) → Prop}
    (hlenient : Lenient may) (hmay : may past (.apply event))
    (h : ∀ told answer, Sent event told answer → post (past ++ told) answer) :
    Attempts may post past (access.send event) := by
  refine Proceeds.ask hmay fun answer => ?_
  cases answer with
  | error refusal => exact .done (h _ _ .refused)
  | ok states =>
    exact .ask (hlenient _ _ rfl) fun _ => .done (by simpa using h _ _ .taken)

theorem attempts_sendOr {post : List Exchange → Except Failure Bool → Prop}
    (hlenient : Lenient may) (hmay : may past (.applyOr preferred fallback))
    (h : ∀ told answer, SentOne preferred fallback told answer → post (past ++ told) answer) :
    Attempts may post past (access.sendOr preferred fallback) := by
  refine Proceeds.ask hmay fun answer => ?_
  cases answer with
  | error refusal => exact .done (h _ _ .refused)
  | ok fits =>
    exact .ask (hlenient _ _ rfl) fun _ => .done (by simpa using h _ _ .taken)

/-- The histories of the end of an attack on a victim, on behalf of `origin`. -/
inductive Settled (origin victim : PlayerId) :
    Option Card → List Exchange → Except Failure Outcome → Prop where
  | hit {told : List Exchange} {answer : Except Failure (GameState × GameState)}
    (h : Sent (.reactWithoutCard origin victim) told answer) :
    Settled origin victim none told (answer.map fun _ => .success)
  | answered {card : Card} {told : List Exchange} {answer : Except Failure Bool}
    (h : SentOne (.reactWithCard origin victim card) (.reactWithoutCard origin victim) told
      answer) :
    Settled origin victim (some card) told
      (answer.map fun deflected => if deflected then .failure else .success)

theorem attempts_settleAttack {origin victim : PlayerId} {defence : Option Card}
    {post : List Exchange → Except Failure Outcome → Prop} (hlenient : Lenient may)
    (hhit : defence = none → may past (.apply (.reactWithoutCard origin victim)))
    (hanswer : ∀ card, defence = some card → may past
      (.applyOr (.reactWithCard origin victim card) (.reactWithoutCard origin victim)))
    (h : ∀ told answer, Settled origin victim defence told answer → post (past ++ told) answer) :
    Attempts may post past (access.settleAttack origin victim defence) := by
  cases defence with
  | none =>
    refine Attempts.bind (attempts_send hlenient (hhit rfl) fun told answer hsent => ?_)
    have hpost := h _ _ (.hit hsent)
    cases answer with
    | ok states => exact .done hpost
    | error failure => exact hpost
  | some card =>
    refine Attempts.bind (attempts_sendOr hlenient (hanswer card rfl) fun told answer hsent => ?_)
    have hpost := h _ _ (.answered hsent)
    cases answer with
    | ok deflected => exact .done hpost
    | error failure => exact hpost

/-! ### Walks -/

/-- One program after another. -/
theorem Attempts.andThen {post : List Exchange → Except Failure β → Prop}
    {resolve : Resolver Routine} {program : Program α} {next : α → Program β}
    (h : Attempts may (fun past result => match result with
      | .ok a => Attempts may post past ((next a).run resolve)
      | .error failure => post past (.error failure)) past (program.run resolve)) :
    Attempts may post past ((program >>= next).run resolve) := by
  have hrun : (program >>= next).run resolve =
      program.run resolve >>= fun a => (next a).run resolve := by
    change (program.andThen next).run resolve = _
    rw [Program.run, Program.tree_andThen, Interaction.run_bind]
    rfl
  rw [hrun]
  exact h.bind

theorem Attempts.resolved {post : List Exchange → Except Failure request.Answer → Prop}
    {resolve : Resolver Routine} (h : Attempts may post past (resolve request)) :
    Attempts may post past (request.resolved.run resolve) := by
  have hrun : request.resolved.run resolve = resolve request := bind_pure (resolve request)
  rwa [hrun]

/-- A request is carried out, and the answer becomes a reply. -/
theorem Attempts.program {post : List Exchange → Except Failure Reply → Prop}
    {resolve : Resolver Routine}
    (h : Attempts may (fun past result => post past (result.map request.expectation.wrap)) past
      (resolve request)) : Attempts may post past (request.program.run resolve) := by
  rw [Request.run_program]
  refine Attempts.bind (h.mono fun past result hresult => ?_)
  cases result with
  | ok answer => exact .done hresult
  | error failure => exact hresult

/-- How a walk ends, depending on whether its result could be sent. -/
def walkEnded (result : Except Failure Reply) (sent : Bool) : Except Failure Unit :=
  match result with
  | .ok _ => if sent then .ok () else .error .disconnected
  | .error failure =>
    if failure.isFatal then .error failure else if sent then .ok () else .error .disconnected

/-- **A walk sends back what its action has come to**, if it may. -/
theorem proceeds_delegated_of {execute : Executor Routine} {origin : Party} {call : CallId}
    {post : List Exchange → Except Failure Unit → Prop}
    (h : Attempts may (fun past result =>
      may past (.send place (.result place.owner call (delivered result))) ∧ ∀ sent : Bool,
        post (past ++ [⟨.send place (.result place.owner call (delivered result)), sent⟩])
          (walkEnded result sent)) past (execute origin action)) :
    Proceeds may post past (delegated execute place origin call action).run := by
  refine Proceeds.bind (h.mono fun past result hresult => ?_)
  obtain ⟨hmay, hpost⟩ := hresult
  cases result with
  | ok value =>
    refine .ask hmay fun sent => ?_
    have hended := hpost sent
    cases sent <;> exact .done hended
  | error failure =>
    refine .ask hmay fun sent => ?_
    have hended := hpost sent
    cases sent <;> exact .done hended

theorem proceeds_delegated {execute : Executor Routine} {origin : Party} {call : CallId}
    {post : List Exchange → Except Failure Unit → Prop}
    (hmay : ∀ past value, may past (.send place (.result place.owner call value)))
    (h : Attempts may (fun past result => ∀ sent : Bool,
      post (past ++ [⟨.send place (.result place.owner call (delivered result)), sent⟩])
        (walkEnded result sent)) past (execute origin action)) :
    Proceeds may post past (delegated execute place origin call action).run :=
  proceeds_delegated_of (h.mono fun _ _ hpost => ⟨hmay _ _, hpost⟩)

end Routine

end RoundTable
