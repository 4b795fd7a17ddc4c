import RoundTable.Proofs.Session.Released
import RoundTable.Proofs.Session.Undisturbed

/-!
# Where a call is while it waits

A call that waits for its result is at one place at a time: a task is about to send its action, the
action has arrived at the other end of the link, a walk there resolves it and has still to send the
result, or the result has arrived. What is at such a place is a token of the call. Who makes calls,
answers questions about the table and sends the result of an action in the end, passes tokens on,
and neither makes nor loses any.

A walk that resolves an action may make calls of its own, but only from ends of a lower rank than
the end that its own action came from. So no one waits for a result in a circle.

## Main definitions

* `Token`, `Session.Holds`: the places at which a call may be
* `Standing`, `Activity.StandsAt`: the result that a task owes, and the stage of the call that it
  makes
* `Activity.AsksAt`: what is asked by a task that stands like this
* `Tally`: the tokens of tasks and ends are those of the calls that wait

## Main results

* `Activity.StandsAt.asksAt`: there is nothing else that it asks
* `Activity.StandsAt.sends_iff`, `Activity.StandsAt.owes_iff`: the tokens that a task has
* `Tally.registered`, `Tally.asked`, `Tally.started`, `Tally.concluded`, `Tally.delivered`: a token
  is passed on
-/

namespace RoundTable

open Function (update)

variable {ρ α β : Type} {place : LinkEnd} {call : CallId}

/-! ### Tokens -/

/-- A place at which a call may be while it waits. -/
inductive Token where
  /-- A task is about to send its action. -/
  | unsent (task : Nat)
  /-- Its action has arrived at the other end. -/
  | asked
  /-- A walk at the other end resolves its action, and has still to send the result. -/
  | walked (task : Nat)
  /-- Its result has arrived. -/
  | answered
  deriving DecidableEq

/-- To send a result. -/
def Effect.IsResult : Effect → Prop
  | send _ (.result _ _ _) => True
  | _ => False

/-- Whatever it is answered, the routine sends the result of a call from the given end, and no other
result before. -/
inductive Routine.Owes (place : LinkEnd) (call : CallId) : Routine α → Prop where
  | due {origin : Party} {value : Reply} {next : Bool → Routine α} :
    Owes place call (Interaction.ask (.send place (.result origin call value)) next)
  | later {effect : Effect} {next : effect.Answer → Routine α} (hresult : ¬effect.IsResult)
    (hcrash : effect ≠ .crash) (hnext : ∀ answer, Owes place call (next answer)) :
    Owes place call (Interaction.ask effect next)

namespace Activity

/-- A task is about to send the action of a call from the given end. -/
def Sends (place : LinkEnd) (call : CallId) (activity : Activity ρ) : Prop :=
  ∃ origin action goOn,
    activity.question? = some ⟨.send place (.delegate origin call action), goOn⟩

/-- A walk of the given end's owner has still to send the result of a call. -/
def Owes (place : LinkEnd) (call : CallId) : Activity ρ → Prop
  | walk router routine => router = place.owner ∧ routine.Owes place call
  | job _ _ _ => False

end Activity

namespace Session

/-- The command that has arrived at an end. -/
def arrived? (session : Session ρ) (place : LinkEnd) : Option Command :=
  (session.desk? place).bind Desk.inbound

/-- A token of a call from the given end. -/
def Holds (session : Session ρ) (place : LinkEnd) (call : CallId) : Token → Prop
  | .unsent id => ∃ task, session.task? id = some task ∧ task.activity.Sends place call
  | .asked => ∃ origin action,
    session.arrived? place.opposite = some (.delegate origin call action)
  | .walked id => ∃ task, session.task? id = some task ∧ task.activity.Owes place.opposite call
  | .answered => ∃ origin value, session.arrived? place = some (.result origin call value)

end Session

/-! ### Routines that call from below -/

/-- A question about the table or the links. -/
def Effect.IsQuiet : Effect → Prop
  | observe | apply _ | applyOr _ _ | confirm | isLinked _ => True
  | _ => False

/-- Calls are made from ends below a rank, and come to anything. Besides there are only questions
about the table and the links. -/
def Manners.below (level : Nat) : Manners where
  calls place := place.rank < level
  spares effect := effect.IsQuiet
  answers _ _ := True

theorem Manners.lenient_below (level : Nat) :
    (below level).Lenient (fun place => place.rank < level) anyFailure where
  observe := trivial
  apply _ := trivial
  applyOr _ _ := trivial
  confirm := trivial
  isLinked _ := trivial
  call _ action h := Routine.orderly_call h action
  answer _ _ _ := sound_anyFailure _
  other _ _ := trivial

theorem Effect.nonempty_answer {effect : Effect} (h : effect ≠ .crash) :
    Nonempty effect.Answer := by
  cases effect with
  | observe => exact ⟨GameState.opening .zero [] []⟩
  | apply => exact ⟨.error (.store .closed)⟩
  | applyOr => exact ⟨.ok true⟩
  | confirm | cancel => exact ⟨()⟩
  | isLinked | send => exact ⟨true⟩
  | number => exact ⟨⟨0⟩⟩
  | register | await => exact ⟨.error .disconnected⟩
  | crash => exact absurd rfl h

/-- A routine owes one result at most. -/
theorem Routine.Owes.unique {routine : Routine α} {other : LinkEnd} {call' : CallId}
    (h : routine.Owes place call) (h' : routine.Owes other call') :
    place = other ∧ call = call' := by
  induction h with
  | due =>
    cases h' with
    | due => exact ⟨rfl, rfl⟩
    | later hresult => exact absurd trivial hresult
  | later hresult hcrash _ ih =>
    cases h' with
    | due => exact absurd trivial hresult
    | later _ _ hnext =>
      obtain ⟨answer⟩ := Effect.nonempty_answer hcrash
      exact ih answer (hnext answer)

/-- A routine that only makes calls and then sends a result owes that result. -/
theorem Routine.Stands.owes {P : α → Prop} {level : Nat} {routine : Routine α}
    {stage : CallStage} {next : α → Routine β} (h : Stands (.below level) P routine stage)
    (hnext : ∀ a, (next a).Owes place call) :
    Routine.Owes place call (Interaction.bind routine next) := by
  induction h with
  | done => exact hnext _
  | @spare effect _ hquiet _ ih =>
    refine .later ?_ ?_ ih
    · intro hresult
      cases effect <;> first | exact hresult | exact hquiet
    · rintro rfl
      exact hquiet
  | number _ _ ih => exact .later id nofun ih
  | register _ _ ihok iherror =>
    refine .later id nofun ?_
    intro answer
    cases answer with
    | ok => exact ihok
    | error failure => exact iherror failure trivial
  | send _ _ ihsent ihunsent =>
    refine .later id nofun ?_
    intro sent
    cases sent with
    | false => exact ihunsent
    | true => exact ihsent
  | await _ ih => exact .later id nofun fun reply => ih reply trivial
  | cancel _ ih => exact .later id nofun fun _ => ih trivial

/-! ### How tasks stand -/

/-- A stage of a call from an end below a rank, in which nothing has gone wrong. -/
def CallStage.Below (level : Nat) : CallStage → Prop
  | free => True
  | numbered place _ _ | registered place _ _ | waiting place _ _ => place.rank < level
  | withdrawing _ _ _ => False

/-- How a task stands. -/
structure Standing where
  /-- The result that it has still to send: the end from which, and the number of the call. -/
  debt : Option (LinkEnd × CallId)
  /-- The stage of the call that it makes. -/
  stage : CallStage

/-- The call whose action a task is about to send: its end and its number. -/
@[grind]
def Standing.unsent? (standing : Standing) : Option (LinkEnd × CallId) :=
  match standing.stage with
  | .registered place call _ => some (place, call)
  | _ => none

/-- A job that makes calls; a walk that makes calls from ends below the one where its action came
from, and then sends the result and is over; or a walk that is over. -/
inductive Activity.StandsAt : Standing → Activity ρ → Prop where
  | job {number : Nat} {holder : Party} {routine : Routine ρ} {stage : CallStage}
    (h : Routine.Stands (.below 3) (fun _ => True) routine stage) (hstage : stage.Below 3) :
    StandsAt ⟨none, stage⟩ (.job number holder routine)
  | walk {place : LinkEnd} {call : CallId} {inner : Routine (Except Failure Reply)}
    {next : Except Failure Reply → Bool → Routine (Except Failure Unit)} {stage : CallStage}
    (h : Routine.Stands (.below place.opposite.rank) (fun _ => True) inner stage)
    (hstage : stage.Below place.opposite.rank)
    (hnext : ∀ result, ∃ ended, next result true = Interaction.done ended) :
    StandsAt ⟨some (place, call), stage⟩ (.walk place.owner (Interaction.bind inner fun result =>
      Interaction.ask (.send place (.result place.owner call (delivered result))) (next result)))
  | finished {router : Party} {result : Except Failure Unit} :
    StandsAt ⟨none, .free⟩ (.walk router (Interaction.done result))

/-- What a task asks that stands like this, and how it stands after the answer. It is not said how
it stands when something could not be sent. -/
inductive Activity.AsksAt : Standing → (effect : Effect) → (effect.Answer → Activity ρ) → Prop where
  | quiet {debt : Option (LinkEnd × CallId)} {effect : Effect} {goOn : effect.Answer → Activity ρ}
    (h : effect.IsQuiet) (hnext : ∀ answer, StandsAt ⟨debt, .free⟩ (goOn answer)) :
    AsksAt ⟨debt, .free⟩ effect goOn
  | number {debt : Option (LinkEnd × CallId)} {place : LinkEnd} {action : Request}
    {goOn : CallId → Activity ρ}
    (hnext : ∀ call, StandsAt ⟨debt, .numbered place call action⟩ (goOn call)) :
    AsksAt ⟨debt, .free⟩ (.number place.owner) goOn
  | register {debt : Option (LinkEnd × CallId)} {place : LinkEnd} {call : CallId}
    {action : Request} {goOn : Except Failure Unit → Activity ρ}
    (hok : StandsAt ⟨debt, .registered place call action⟩ (goOn (.ok ())))
    (herror : ∀ failure, StandsAt ⟨debt, .free⟩ (goOn (.error failure))) :
    AsksAt ⟨debt, .numbered place call action⟩ (.register place call) goOn
  | send {debt : Option (LinkEnd × CallId)} {place : LinkEnd} {call : CallId} {action : Request}
    {goOn : Bool → Activity ρ}
    (hsent : StandsAt ⟨debt, .waiting place call action⟩ (goOn true)) :
    AsksAt ⟨debt, .registered place call action⟩
      (.send place (.delegate place.owner call action)) goOn
  | await {debt : Option (LinkEnd × CallId)} {place : LinkEnd} {call : CallId} {action : Request}
    {goOn : Except Failure Reply → Activity ρ}
    (hreply : ∀ reply, StandsAt ⟨debt, .free⟩ (goOn reply)) :
    AsksAt ⟨debt, .waiting place call action⟩ (.await place call) goOn
  | conclude {place : LinkEnd} {call : CallId} {value : Reply} {goOn : Bool → Activity ρ}
    (hsent : StandsAt ⟨none, .free⟩ (goOn true)) :
    AsksAt ⟨some (place, call), .free⟩ (.send place (.result place.owner call value)) goOn

namespace Activity

variable {standing : Standing} {activity : Activity ρ}

/-- A routine that makes calls asks as it stands, whoever its host is. -/
theorem asksAt_of_stands {level : Nat} {P : α → Prop} {debt : Option (LinkEnd × CallId)}
    (host : Routine α → Activity ρ)
    (hhost : ∀ routine stage, Routine.Stands (.below level) P routine stage → stage.Below level →
      StandsAt ⟨debt, stage⟩ (host routine))
    {effect : Effect} {next : effect.Answer → Routine α} {stage : CallStage}
    (h : Routine.Stands (.below level) P (Interaction.ask effect next) stage)
    (hstage : stage.Below level) :
    AsksAt ⟨debt, stage⟩ effect fun answer => host (next answer) := by
  cases h with
  | spare hquiet hnext => exact .quiet hquiet fun answer => hhost _ _ (hnext answer) trivial
  | number hplace hnext => exact .number fun call => hhost _ _ (hnext call) hplace
  | register hok herror =>
    exact .register (hhost _ _ hok hstage) fun failure => hhost _ _ (herror failure trivial) trivial
  | send hsent _ => exact .send (hhost _ _ hsent hstage)
  | await hreply => exact .await fun reply => hhost _ _ (hreply reply trivial) trivial
  | cancel _ => exact hstage.elim

/-- **There is nothing else that a task asks that stands like this.** -/
theorem StandsAt.asksAt (h : activity.StandsAt standing) {effect : Effect}
    {goOn : effect.Answer → Activity ρ} (hquestion : activity.question? = some ⟨effect, goOn⟩) :
    AsksAt standing effect goOn := by
  cases h with
  | finished => cases hquestion
  | @job number holder routine stage h hstage =>
    cases routine with
    | done => cases hquestion
    | ask effect next =>
      cases hquestion
      exact asksAt_of_stands (Activity.job number holder) (fun _ _ => .job) h hstage
  | @walk place call inner next stage h hstage hnext =>
    cases inner with
    | done result =>
      cases h
      cases hquestion
      obtain ⟨ended, hended⟩ := hnext result
      refine .conclude ?_
      rw [hended]
      exact .finished
    | ask effect inner =>
      cases hquestion
      exact asksAt_of_stands (fun inner => Activity.walk place.owner (Interaction.bind inner _))
        (fun _ _ h hstage => .walk h hstage hnext) h hstage

/-- A task that has no call and owes nothing may be over; any other one asks something. -/
theorem StandsAt.idle_or_asks (h : activity.StandsAt standing) :
    standing = ⟨none, .free⟩ ∨ ∃ effect goOn, activity.question? = some ⟨effect, goOn⟩ := by
  cases h with
  | finished => exact .inl rfl
  | job h =>
    cases h with
    | done => exact .inl rfl
    | spare | number | register | send | await | cancel => exact .inr ⟨_, _, rfl⟩
  | @walk place call inner =>
    refine .inr ?_
    cases inner with
    | done => exact ⟨_, _, rfl⟩
    | ask => exact ⟨_, _, rfl⟩

/-- A task is about to send the action of the call that it makes, and no other one. -/
theorem StandsAt.sends_iff (h : activity.StandsAt standing) :
    activity.Sends place call ↔ standing.unsent? = some (place, call) := by
  constructor
  · rintro ⟨origin, action, goOn, hquestion⟩
    cases h.asksAt hquestion with
    | quiet hquiet => exact hquiet.elim
    | send => rfl
  · intro hunsent
    obtain ⟨debt, stage⟩ := standing
    cases stage with
    | registered place' call' action =>
      cases hunsent
      obtain ⟨effect, goOn, hquestion⟩ := h.idle_or_asks.resolve_left nofun
      cases h.asksAt hquestion with
      | send => exact ⟨_, _, _, hquestion⟩
    | free | numbered | waiting | withdrawing => cases hunsent

/-- A task owes the result of the action that it resolves, and no other one. -/
theorem StandsAt.owes_iff (h : activity.StandsAt standing) :
    activity.Owes place call ↔ standing.debt = some (place, call) := by
  cases h with
  | job => exact ⟨False.elim, nofun⟩
  | finished =>
    constructor
    · rintro ⟨-, howes⟩
      cases howes
    · exact nofun
  | @walk other call' inner next stage h =>
    have howed : Routine.Owes other call' (Interaction.bind inner fun result => Interaction.ask
        (.send other (.result other.owner call' (delivered result))) (next result)) :=
      h.owes fun _ => .due
    constructor
    · rintro ⟨-, howes⟩
      obtain ⟨rfl, rfl⟩ := howed.unique howes
      rfl
    · intro hdebt
      cases hdebt
      exact ⟨rfl, howed⟩

end Activity

/-! ### Tallies -/

variable {standing : Nat → Option Standing} {arrived : LinkEnd → Option Command}
  {account : LinkEnd → Option (CallId × Token)} {id : Nat} {later : Option Standing}

/-- The call whose action a command is. -/
@[grind]
def Command.asked? : Command → Option CallId
  | delegate _ call _ => some call
  | result _ _ _ => none

/-- The call whose result a command is. -/
@[grind]
def Command.answered? : Command → Option CallId
  | delegate _ _ _ => none
  | result _ call _ => some call

/-- What the tasks and the ends have is a token of a call from the given end. -/
def Token.At (standing : Nat → Option Standing) (arrived : LinkEnd → Option Command)
    (place : LinkEnd) (call : CallId) : Token → Prop
  | unsent id => (standing id).bind Standing.unsent? = some (place, call)
  | asked => (arrived place.opposite).bind Command.asked? = some call
  | walked id => (standing id).bind Standing.debt = some (place.opposite, call)
  | answered => (arrived place).bind Command.answered? = some call

/-- The tokens that the tasks and the ends have are one token for each call in the account, and
there are no others. -/
def Tally (standing : Nat → Option Standing) (arrived : LinkEnd → Option Command)
    (account : LinkEnd → Option (CallId × Token)) : Prop :=
  ∀ place call (token : Token),
    token.At standing arrived place call ↔ account place = some (call, token)

namespace Tally

theorem empty : Tally (fun _ => none) (fun _ => none) fun _ => none := by
  intro place call token
  cases token <;> simp [Token.At]

/-- A task goes on in a way that does not concern the tokens. -/
theorem advanced (h : Tally standing arrived account)
    (hunsent : later.bind Standing.unsent? = (standing id).bind Standing.unsent?)
    (hdebt : later.bind Standing.debt = (standing id).bind Standing.debt) :
    Tally (update standing id later) arrived account := by
  intro place call token
  rw [← h place call token]
  cases token with
  | asked | answered => rfl
  | unsent other | walked other =>
    rcases eq_or_ne other id with rfl | hne
    · simp [Token.At, *]
    · simp [Token.At, hne]

/-- A call begins to wait, and its action is about to be sent. -/
theorem registered (h : Tally standing arrived account) {debt : Option (LinkEnd × CallId)}
    {action : Request} (hid : standing id = some ⟨debt, .numbered place call action⟩)
    (hplace : account place = none) :
    Tally (update standing id (some ⟨debt, .registered place call action⟩)) arrived
      (update account place (some (call, .unsent id))) := by
  intro other call' token
  have hother := h other call' token
  cases token <;> grind [Token.At, Function.update_apply]

/-- The action is sent, and arrives at the other end. -/
theorem asked (h : Tally standing arrived account) {debt : Option (LinkEnd × CallId)}
    {action : Request} {origin : Party}
    (hid : standing id = some ⟨debt, .registered place call action⟩)
    (hempty : arrived place.opposite = none) :
    Tally (update standing id (some ⟨debt, .waiting place call action⟩))
      (update arrived place.opposite (some (.delegate origin call action)))
      (update account place (some (call, .asked))) := by
  intro other call' token
  have hplace := h place call (.unsent id)
  have hother := h other call' token
  cases token <;> grind [Token.At, Function.update_apply]

/-- A walk is started that resolves the action. -/
theorem started (h : Tally standing arrived account) {action : Request} {origin : Party}
    (hid : standing id = none)
    (harrived : arrived place.opposite = some (.delegate origin call action)) :
    Tally (update standing id (some ⟨some (place.opposite, call), .free⟩))
      (update arrived place.opposite none) (update account place (some (call, .walked id))) := by
  intro other call' token
  have hplace := h place call .asked
  have hother := h other call' token
  cases token <;> grind [Token.At, Function.update_apply]

/-- The walk sends the result, which arrives at the end of the call. -/
theorem concluded (h : Tally standing arrived account) {value : Reply} {origin : Party}
    (hid : standing id = some ⟨some (place.opposite, call), .free⟩)
    (hempty : arrived place = none) :
    Tally (update standing id (some ⟨none, .free⟩))
      (update arrived place (some (.result origin call value)))
      (update account place (some (call, .answered))) := by
  intro other call' token
  have hplace := h place call (.walked id)
  have hother := h other call' token
  cases token <;> grind [Token.At, Function.update_apply]

/-- The result is taken in. -/
theorem delivered (h : Tally standing arrived account) {value : Reply} {origin : Party}
    (harrived : arrived place = some (.result origin call value)) :
    Tally standing (update arrived place none) (update account place none) := by
  intro other call' token
  have hplace := h place call .answered
  have hother := h other call' token
  cases token <;> grind [Token.At, Function.update_apply]

end Tally

end RoundTable
