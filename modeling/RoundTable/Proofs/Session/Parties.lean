import RoundTable.Proofs.Session.CallStages

/-!
# The parties are orderly

What server and participants do in a session is put together from looks at the table, events, and
calls, and a call is never cut short by something else. So all of it is orderly, whatever is
expected of routines, as long as looks, events and calls are.

## Main definitions

* `Reply.Fits`: a reply to an action
* `Manners.Lenient`: expectations that looks, events and calls meet
* `Manners.Sound`: results that are failures as expected

## Main results

* `Routine.orderly_onParticipant`, `Routine.orderly_onServer`: resolvers of steps
* `Routine.orderly_run`: walks are orderly if the steps are
* `Routine.orderly_execute_atTable`, `Routine.orderly_execute_choosing`: so is the execution of an
  action, and its reply fits
* `Routine.stands_delegated`: so is the walk of an action that has arrived
* `Routine.orderly_driveTurn`: so are turns
-/

namespace RoundTable

/-! ### Replies -/

/-- What is wrapped into a reply can be read from it. -/
theorem Reply.read_wrap (expectation : Expectation) (a : expectation.Value) :
    (expectation.wrap a).read expectation = .ok a := by
  cases expectation <;> rfl

/-- A reply that is a failure is a failure of the other side for whoever asks. -/
theorem Reply.read_failed (request : Request) (reason : String) :
    (Reply.failed reason).read request.expectation = .error (.remote reason) := by
  cases request <;> rfl

/-- An answer to an action, or word that there is none. -/
def Reply.Fits (action : Request) (reply : Reply) : Prop :=
  (∃ answer, reply = action.expectation.wrap answer) ∨ ∃ reason, reply = .failed reason

/-! ### Expectations -/

/-- A result that is no failure, or one as expected. -/
def Manners.Sound (fine : Failure → Prop) {α : Type} : Except Failure α → Prop
  | .ok _ => True
  | .error failure => fine failure

/-- Nothing is expected of ends. -/
abbrev anyEnd (_ : LinkEnd) : Prop := True

/-- Looks, events and calls from the given ends are as expected, and so are all failures that they
lead to. -/
structure Manners.Lenient (manners : Manners) (asks : LinkEnd → Prop) (fine : Failure → Prop) :
    Prop where
  observe : manners.spares .observe
  apply : ∀ event, manners.spares (.apply event)
  applyOr : ∀ preferred fallback, manners.spares (.applyOr preferred fallback)
  confirm : manners.spares .confirm
  isLinked : ∀ id, manners.spares (.isLinked id)
  call : ∀ place action, asks place →
    Routine.Orderly manners (manners.answers action) (Routine.call place action)
  answer : ∀ action (reply : Except Failure Reply), manners.answers action reply →
    Manners.Sound fine (reply >>= fun reply => reply.read action.expectation)
  other : ∀ failure : Failure, (∀ expected found, failure ≠ .mismatch expected found) → fine failure

namespace Routine

open Manners (Sound)

variable {manners : Manners} {asks : LinkEnd → Prop} {fine : Failure → Prop} {α β : Type}

/-- A resolver of which every step is orderly. -/
def OrderlyResolver (manners : Manners) (fine : Failure → Prop) (resolve : Resolver Routine) :
    Prop :=
  ∀ request, Orderly manners (Sound fine) (resolve request)

/-- An authority all of whose steps are orderly. -/
def OrderlyAuthority (manners : Manners) (fine : Failure → Prop) (authority : Authority Routine) :
    Prop :=
  ∀ participant request, request.side = .server →
    Orderly manners (Sound fine) (authority.beside participant request)

/-- A participant all of whose steps are orderly. -/
def OrderlyParticipant (manners : Manners) (fine : Failure → Prop)
    (participant : Participant Routine) : Prop :=
  ∀ authority request, request.side = .client →
    Orderly manners (Sound fine) (Authority.beside authority participant request)

theorem orderly_beside {authority : Authority Routine} {participant : Participant Routine}
    (hauthority : OrderlyAuthority manners fine authority)
    (hparticipant : OrderlyParticipant manners fine participant) :
    OrderlyResolver manners fine (authority.beside participant) := by
  intro request
  cases hside : request.side with
  | server => exact hauthority participant request hside
  | client => exact hparticipant authority request hside

theorem orderly_authority_ofResolver {resolve : Resolver Routine}
    (h : OrderlyResolver manners fine resolve) :
    OrderlyAuthority manners fine (.ofResolver resolve) := by
  intro participant request hside
  cases request with
  | drawCards | attackPlayer | defendAttack | handleStumbling | discard => exact h _
  | _ => cases hside

theorem orderly_participant_ofResolver {resolve : Resolver Routine}
    (h : OrderlyResolver manners fine resolve) :
    OrderlyParticipant manners fine (.ofResolver resolve) := by
  intro authority request hside
  cases request with
  | drawCards | attackPlayer | defendAttack | handleStumbling | discard => cases hside
  | _ => exact h _

theorem Orderly.andThen {routine : ExceptT Failure Routine α}
    {next : α → ExceptT Failure Routine β} (h : Orderly manners (Sound fine) routine)
    (hnext : ∀ a, Orderly manners (Sound fine) (next a)) :
    Orderly manners (Sound fine) (routine >>= next) :=
  h.bind (fun a _ => hnext a) fun _ hfailure => hfailure

theorem orderly_lift {P : Except Failure β → Prop} {routine : Routine α}
    {next : α → ExceptT Failure Routine β} (h : Stands manners (fun _ => True) routine .free)
    (hnext : ∀ a, Orderly manners P (next a)) :
    Orderly manners P (ExceptT.lift routine >>= next) := by
  have hrun : (ExceptT.lift routine >>= next).run =
      Interaction.bind routine fun a => (next a).run := by
    rw [run_bind]
    exact Interaction.bind_assoc routine _ _
  rw [Orderly, hrun]
  exact h.bind fun a _ => hnext a

/-! ### Asking others -/

theorem orderly_ask (h : manners.Lenient asks fine) {place : LinkEnd} (hplace : asks place) :
    OrderlyResolver manners fine (ask place) := by
  intro request
  refine (h.call place request hplace).bind (fun reply hreply => ?_) fun failure hfailure => ?_
  · exact .done (h.answer request (.ok reply) hreply)
  · exact h.answer request (.error failure) hfailure

theorem orderly_callParticipant (h : manners.Lenient asks fine) (id : PlayerId)
    (hid : asks (.ofServer id)) (request : Request) :
    Orderly manners
      (fun reply => Sound fine (reply >>= fun reply => reply.read request.expectation))
      (callParticipant id request) := by
  refine orderly_perform (h.isLinked id) fun linked => ?_
  cases linked with
  | false => exact orderly_throw (h.other _ nofun)
  | true => exact (h.call (.ofServer id) request hid).mono (h.answer request)

theorem orderly_askParticipant (h : manners.Lenient asks fine) {id : PlayerId}
    (hid : asks (.ofServer id)) :
    OrderlyResolver manners fine (askParticipant id) := by
  intro request
  refine (orderly_callParticipant h id hid request).bind (fun reply hreply => .done hreply) ?_
  exact fun failure hfailure => hfailure

/-! ### At the table -/

theorem stands_confirmed (h : manners.Lenient asks fine) {answer : Routine (Except Refusal α)}
    (hanswer : Stands manners (fun _ => True) answer .free) :
    Stands manners (fun _ => True) (confirmed answer) .free := by
  refine hanswer.bind fun result _ => ?_
  cases result with
  | error refusal => exact .done trivial
  | ok a => exact .spare h.confirm fun _ => .done trivial

theorem fine_ofRefusal (h : manners.Lenient asks fine) (refusal : Refusal) :
    fine (.ofRefusal refusal) := by
  refine h.other _ fun expected found => ?_
  cases refusal <;> nofun

theorem orderly_send (h : manners.Lenient asks fine) (event : GameEvent) :
    Orderly manners (Sound fine) (access.send event) := by
  have happly : Stands manners (fun _ => True) (perform (.apply event)) .free :=
    .spare (h.apply event) fun _ => .done trivial
  refine orderly_lift (stands_confirmed h happly) fun result => ?_
  cases result with
  | ok states => exact orderly_pure trivial
  | error refusal => exact orderly_throw (fine_ofRefusal h refusal)

theorem orderly_sendOr (h : manners.Lenient asks fine) (preferred fallback : GameEvent) :
    Orderly manners (Sound fine) (access.sendOr preferred fallback) := by
  have happly : Stands manners (fun _ => True) (perform (.applyOr preferred fallback)) .free :=
    .spare (h.applyOr preferred fallback) fun _ => .done trivial
  refine orderly_lift (stands_confirmed h happly) fun result => ?_
  cases result with
  | ok fits => exact orderly_pure trivial
  | error refusal => exact orderly_throw (fine_ofRefusal h refusal)

theorem orderly_observe (h : manners.Lenient asks fine)
    {next : GameState → ExceptT Failure Routine α}
    (hnext : ∀ state, Orderly manners (Sound fine) (next state)) :
    Orderly manners (Sound fine) (ExceptT.lift access.observe >>= next) :=
  orderly_perform h.observe hnext

theorem orderly_settleAttack (h : manners.Lenient asks fine) (origin victim : PlayerId)
    (defence : Option Card) :
    Orderly manners (Sound fine) (access.settleAttack origin victim defence) := by
  cases defence with
  | none => exact (orderly_send h _).andThen fun _ => orderly_pure trivial
  | some card => exact (orderly_sendOr h _ _).andThen fun _ => orderly_pure trivial

theorem orderly_askVictim (h : manners.Lenient asks fine) {victim : PlayerId}
    (hvictim : asks (.ofServer victim)) :
    Orderly manners (Sound fine) (access.askVictim victim) := by
  refine Stands.bind (orderly_askParticipant h hvictim .selectResponse) fun result hresult => ?_
  cases result with
  | ok card => exact .done trivial
  | error failure =>
    dsimp only
    split
    · exact .done hresult
    · exact .done trivial

theorem orderly_atTable (h : manners.Lenient asks fine) (hasks : ∀ id, asks (.ofServer id))
    (origin : PlayerId) :
    OrderlyAuthority manners fine (.atTable access origin) := by
  intro participant request hside
  cases request with
  | drawCards => exact (orderly_send h _).andThen fun _ => orderly_pure trivial
  | attackPlayer target bug =>
    refine (orderly_send h _).andThen fun _ =>
      (orderly_askVictim h (hasks target)).andThen fun defence => ?_
    exact orderly_settleAttack h origin target defence
  | defendAttack defence =>
    refine orderly_observe h fun state => ?_
    split
    · exact (orderly_settleAttack h _ _ _).andThen fun _ => orderly_pure trivial
    · exact orderly_throw (h.other _ nofun)
  | handleStumbling via =>
    cases via with
    | none => exact (orderly_send h _).andThen fun _ => orderly_pure trivial
    | some card => exact (orderly_sendOr h _ _).andThen fun _ => orderly_pure trivial
  | discard cards => exact (orderly_send h _).andThen fun _ => orderly_pure trivial
  | _ => cases hside

/-! ### Participants -/

theorem orderly_choice (h : manners.Lenient asks fine) (what : String)
    (choice : GameState → Option α) :
    Orderly manners (Sound fine) (ExceptT.lift access.observe >>= fun state =>
      Chooser.chosen what (choice state)) := by
  refine orderly_observe h fun state => ?_
  cases choice state with
  | none => exact orderly_throw (h.other _ nofun)
  | some a => exact orderly_pure trivial

theorem orderly_player (h : manners.Lenient asks fine) (me : PlayerId) (chooser : Chooser) :
    OrderlyParticipant manners fine (player me chooser) := by
  intro authority request hside
  cases request with
  | checkStumbling | selectResponse | getGameState =>
    exact orderly_observe h fun state => orderly_pure trivial
  | playCard => exact orderly_choice h "card" fun state => chooser.card state me
  | selectPlayer => exact orderly_choice h "player" fun state => chooser.player state me
  | selectAttack => exact orderly_choice h "bug report" fun state => chooser.attack state me
  | selectDiscardCards amount =>
    exact orderly_choice h "cards to discard" fun state => chooser.discards state me amount
  | _ => cases hside

theorem orderly_nobody (h : manners.Lenient asks fine) :
    OrderlyAuthority manners fine .nobody ∧ OrderlyParticipant manners fine .nobody :=
  ⟨orderly_authority_ofResolver fun _ => orderly_throw (h.other _ nofun),
    orderly_participant_ofResolver fun _ => orderly_throw (h.other _ nofun)⟩

theorem orderly_onParticipant (h : manners.Lenient asks fine) {me : PlayerId}
    (hme : asks (.ofParticipant me)) (chooser : Chooser) :
    OrderlyResolver manners fine (onParticipant me chooser) :=
  orderly_beside (orderly_authority_ofResolver (orderly_ask h hme))
    (orderly_player h me chooser)

theorem orderly_onServer (h : manners.Lenient asks fine) (hasks : ∀ id, asks (.ofServer id))
    (origin : PlayerId) (target : Option PlayerId) :
    OrderlyResolver manners fine (onServer origin target) := by
  refine orderly_beside (orderly_atTable h hasks origin) ?_
  cases target with
  | none => exact (orderly_nobody h).2
  | some id => exact orderly_participant_ofResolver (orderly_askParticipant h (hasks id))

/-! ### Walks -/

/-- Walks are orderly if the steps are. -/
theorem orderly_run {resolve : Resolver Routine} (h : OrderlyResolver manners fine resolve)
    (program : Program α) : Orderly manners (Sound fine) (program.run resolve) := by
  rw [Program.run]
  induction program.tree with
  | done result => exact orderly_pure trivial
  | ask request next ih => exact (h request).andThen ih

/-- An answer to an action as a reply, or a failure as expected. -/
def Fitting (fine : Failure → Prop) (action : Request) : Except Failure Reply → Prop
  | .ok reply => ∃ answer, reply = action.expectation.wrap answer
  | .error failure => fine failure

theorem orderly_program {resolve : Resolver Routine} (h : OrderlyResolver manners fine resolve)
    (action : Request) : Orderly manners (Fitting fine action) (action.program.run resolve) := by
  rw [Request.run_program]
  exact (h action).bind (fun answer _ => orderly_pure ⟨answer, rfl⟩) fun _ hfailure => hfailure

/-- An executor whose work is orderly and comes to a reply that fits. -/
def OrderlyExecutor (manners : Manners) (fine : Failure → Prop) (execute : Executor Routine) :
    Prop :=
  ∀ origin action, Orderly manners (Fitting fine action) (execute origin action)

theorem orderly_execute_atTable (h : manners.Lenient asks fine)
    (hasks : ∀ id, asks (.ofServer id)) :
    OrderlyExecutor manners fine (.atTable access) := by
  intro origin action
  cases origin with
  | server => exact orderly_throw (h.other _ nofun)
  | participant id =>
    have hresolver := orderly_beside (orderly_atTable h hasks id) (orderly_nobody h).2
    exact orderly_program hresolver action

theorem orderly_execute_choosing (h : manners.Lenient asks fine) (me : PlayerId)
    (chooser : Chooser) :
    OrderlyExecutor manners fine (.choosing (player me chooser)) := by
  intro origin action
  rw [Executor.choosing]
  split
  · exact orderly_program (orderly_beside (orderly_nobody h).1 (orderly_player h me chooser)) action
  · exact orderly_throw (h.other _ nofun)

theorem orderly_execute_crashing (h : manners.spares .crash) :
    OrderlyExecutor manners fine crashing :=
  fun _ _ => .spare h nofun

/-- The walk of an action that has arrived replies as it should. -/
theorem stands_delegated {execute : Executor Routine} {place : LinkEnd} {call : CallId}
    {action : Request} (hdisconnected : fine .disconnected)
    (hspares : ∀ value : Reply, value.Fits action →
      manners.spares (.send place (.result place.owner call value)))
    (h : OrderlyExecutor manners fine execute) (origin : Party) :
    Stands manners (Sound fine) (delegated execute place origin call action).run .free := by
  have hreply (value : Reply) (hvalue : value.Fits action) :
      Stands manners (Sound fine) (reply place call value).run .free := by
    refine .spare (hspares value hvalue) fun sent => ?_
    cases sent with
    | true => exact .done trivial
    | false => exact .done hdisconnected
  refine Stands.bind (h origin action) fun result hresult => ?_
  cases result with
  | ok value => exact hreply value (.inl hresult)
  | error failure =>
    refine (hreply _ (.inr ⟨_, rfl⟩)).bind fun sent hsent => ?_
    cases failure.isFatal with
    | true => exact .done hresult
    | false => exact .done hsent

theorem orderly_driveTurn (h : manners.Lenient asks fine) (hasks : ∀ id, asks (.ofServer id)) :
    Orderly manners (Sound fine) access.driveTurn := by
  refine orderly_observe h fun state => ?_
  split
  · exact orderly_throw (h.other _ nofun)
  · rename_i id _
    have hresolver := orderly_beside (orderly_atTable h hasks id)
      (orderly_participant_ofResolver (orderly_askParticipant h (hasks id)))
    exact (orderly_run hresolver _).andThen fun report =>
      (orderly_send h _).andThen fun _ => orderly_pure trivial

end Routine

end RoundTable
