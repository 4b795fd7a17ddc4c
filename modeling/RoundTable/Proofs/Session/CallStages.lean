import RoundTable.Proofs.Walk.StepTrees
import RoundTable.Session.Routine

/-!
# The stages of a call

A call takes a number, registers for its result, sends the action, and waits; or, when the action
cannot be sent, it is taken back. Nobody but a call may do any of this. So a routine that makes
calls stands at a stage of a call at every question that it asks, or between two calls, and what it
may ask depends on that stage.

## Main definitions

* `Manners`: which calls a routine makes, what they may come to, and what else it may ask
* `CallStage`, `Routine.Stands`: routines that make calls, from the given stage of a call on
* `Routine.Asks`: what is asked at a stage of a call
* `Routine.Orderly`: routines that make calls, from between two calls on

## Main results

* `Routine.Stands.bind`: one routine after another
* `Routine.orderly_call`: a call goes through its stages
-/

namespace RoundTable

/-- What is expected of routines. -/
structure Manners where
  /-- The ends at which calls are made. -/
  calls : LinkEnd → Prop
  /-- The questions that may be asked besides. -/
  spares : Effect → Prop
  /-- What calls may come to. -/
  answers : Request → Except Failure Reply → Prop

/-- A stage of a call. -/
inductive CallStage where
  /-- There is no call under way. -/
  | free
  /-- The call has a number and is about to register. -/
  | numbered (place : LinkEnd) (call : CallId) (action : Request)
  /-- The call has registered, and the action is about to be sent. -/
  | registered (place : LinkEnd) (call : CallId) (action : Request)
  /-- The call waits for its result. -/
  | waiting (place : LinkEnd) (call : CallId) (action : Request)
  /-- The action could not be sent, and the call is about to be taken back. -/
  | withdrawing (place : LinkEnd) (call : CallId) (action : Request)

namespace Routine

variable {α β : Type} {manners : Manners} {P : α → Prop} {Q : β → Prop}

/-- A routine that stands at a stage of a call. Whatever it is answered, it goes on to the next
stage, and it ends between two calls with a result as given. -/
inductive Stands (manners : Manners) {α : Type} (P : α → Prop) : Routine α → CallStage → Prop where
  | done {a : α} (h : P a) : Stands manners P (Interaction.done a) .free
  | spare {effect : Effect} {next : effect.Answer → Routine α} (h : manners.spares effect)
    (hnext : ∀ answer, Stands manners P (next answer) .free) :
    Stands manners P (Interaction.ask effect next) .free
  | number {place : LinkEnd} {action : Request} {next : CallId → Routine α}
    (h : manners.calls place)
    (hnext : ∀ call, Stands manners P (next call) (.numbered place call action)) :
    Stands manners P (Interaction.ask (.number place.owner) next) .free
  | register {place : LinkEnd} {call : CallId} {action : Request}
    {next : Except Failure Unit → Routine α}
    (hok : Stands manners P (next (.ok ())) (.registered place call action))
    (herror : ∀ failure, manners.answers action (.error failure) →
      Stands manners P (next (.error failure)) .free) :
    Stands manners P (Interaction.ask (.register place call) next) (.numbered place call action)
  | send {place : LinkEnd} {call : CallId} {action : Request} {next : Bool → Routine α}
    (hsent : Stands manners P (next true) (.waiting place call action))
    (hunsent : Stands manners P (next false) (.withdrawing place call action)) :
    Stands manners P (Interaction.ask (.send place (.delegate place.owner call action)) next)
      (.registered place call action)
  | await {place : LinkEnd} {call : CallId} {action : Request}
    {next : Except Failure Reply → Routine α}
    (hreply : ∀ reply, manners.answers action reply → Stands manners P (next reply) .free) :
    Stands manners P (Interaction.ask (.await place call) next) (.waiting place call action)
  | cancel {place : LinkEnd} {call : CallId} {action : Request} {next : Unit → Routine α}
    (hnext : manners.answers action (.error .disconnected) → Stands manners P (next ()) .free) :
    Stands manners P (Interaction.ask (.cancel place call) next) (.withdrawing place call action)

/-- What is asked at a stage of a call, and how it goes on: whatever is answered, it goes on to the
next stage. Here it is left open what it is that goes on. -/
inductive Asks {γ : Type} (manners : Manners) (S : γ → CallStage → Prop) :
    CallStage → (effect : Effect) → (effect.Answer → γ) → Prop where
  | spare {effect : Effect} {next : effect.Answer → γ} (h : manners.spares effect)
    (hnext : ∀ answer, S (next answer) .free) : Asks manners S .free effect next
  | number {place : LinkEnd} {action : Request} {next : CallId → γ} (h : manners.calls place)
    (hnext : ∀ call, S (next call) (.numbered place call action)) :
    Asks manners S .free (.number place.owner) next
  | register {place : LinkEnd} {call : CallId} {action : Request} {next : Except Failure Unit → γ}
    (hok : S (next (.ok ())) (.registered place call action))
    (herror : ∀ failure, manners.answers action (.error failure) →
      S (next (.error failure)) .free) :
    Asks manners S (.numbered place call action) (.register place call) next
  | send {place : LinkEnd} {call : CallId} {action : Request} {next : Bool → γ}
    (hsent : S (next true) (.waiting place call action))
    (hunsent : S (next false) (.withdrawing place call action)) :
    Asks manners S (.registered place call action)
      (.send place (.delegate place.owner call action)) next
  | await {place : LinkEnd} {call : CallId} {action : Request} {next : Except Failure Reply → γ}
    (hreply : ∀ reply, manners.answers action reply → S (next reply) .free) :
    Asks manners S (.waiting place call action) (.await place call) next
  | cancel {place : LinkEnd} {call : CallId} {action : Request} {next : Unit → γ}
    (hnext : manners.answers action (.error .disconnected) → S (next ()) .free) :
    Asks manners S (.withdrawing place call action) (.cancel place call) next

theorem Stands.asks {γ : Type} {S : γ → CallStage → Prop} (host : Routine α → γ) {effect : Effect}
    {next : effect.Answer → Routine α} {stage : CallStage}
    (h : Stands manners P (Interaction.ask effect next) stage)
    (hhost : ∀ routine stage, Stands manners P routine stage → S (host routine) stage) :
    Asks manners S stage effect fun answer => host (next answer) := by
  cases h with
  | spare h hnext => exact .spare h fun answer => hhost _ _ (hnext answer)
  | number h hnext => exact .number h fun call => hhost _ _ (hnext call)
  | register hok herror =>
    exact .register (hhost _ _ hok) fun failure hfailure => hhost _ _ (herror failure hfailure)
  | send hsent hunsent => exact .send (hhost _ _ hsent) (hhost _ _ hunsent)
  | await hreply => exact .await fun reply hanswers => hhost _ _ (hreply reply hanswers)
  | cancel hnext => exact .cancel fun hanswers => hhost _ _ (hnext hanswers)

/-- One routine after another. -/
theorem Stands.bind {routine : Routine α} {stage : CallStage} {next : α → Routine β}
    (h : Stands manners P routine stage) (hnext : ∀ a, P a → Stands manners Q (next a) .free) :
    Stands manners Q (Interaction.bind routine next) stage := by
  induction h with
  | done h => exact hnext _ h
  | spare h _ ih => exact .spare h ih
  | number h _ ih => exact .number h ih
  | register _ _ ihok iherror => exact .register ihok iherror
  | send _ _ ihsent ihunsent => exact .send ihsent ihunsent
  | await _ ih => exact .await ih
  | cancel _ ih => exact .cancel ih

theorem Stands.mono {Q : α → Prop} {routine : Routine α} {stage : CallStage}
    (h : Stands manners P routine stage) (hpost : ∀ a, P a → Q a) :
    Stands manners Q routine stage := by
  have hbind := h.bind fun a ha => Stands.done (hpost a ha)
  rwa [Interaction.bind_done] at hbind

/-! ### Routines that may fail -/

/-- A routine that may fail, from between two calls on. -/
def Orderly (manners : Manners) (P : Except Failure α → Prop)
    (routine : ExceptT Failure Routine α) :
    Prop :=
  Stands manners P routine.run .free

theorem run_bind (routine : ExceptT Failure Routine α) (next : α → ExceptT Failure Routine β) :
    (routine >>= next).run = Interaction.bind routine.run fun
      | .ok a => (next a).run
      | .error failure => .done (.error failure) := by
  refine congrArg (Interaction.bind routine.run) (funext fun result => ?_)
  cases result <;> rfl

theorem Orderly.bind {P : Except Failure α → Prop} {Q : Except Failure β → Prop}
    {routine : ExceptT Failure Routine α} {next : α → ExceptT Failure Routine β}
    (h : Orderly manners P routine) (hok : ∀ a, P (.ok a) → Orderly manners Q (next a))
    (herror : ∀ failure, P (.error failure) → Q (.error failure)) :
    Orderly manners Q (routine >>= next) := by
  rw [Orderly, run_bind]
  refine Stands.bind h fun result hresult => ?_
  cases result with
  | ok a => exact hok a hresult
  | error failure => exact .done (herror failure hresult)

theorem orderly_pure {P : Except Failure α → Prop} {a : α} (h : P (.ok a)) :
    Orderly manners P (pure a) :=
  .done h

theorem orderly_throw {P : Except Failure α → Prop} {failure : Failure} (h : P (.error failure)) :
    Orderly manners P (throw failure) :=
  .done h

/-- One question that does not belong to a call, and what follows. -/
theorem orderly_perform {P : Except Failure α → Prop} {effect : Effect}
    {next : effect.Answer → ExceptT Failure Routine α} (h : manners.spares effect)
    (hnext : ∀ answer, Orderly manners P (next answer)) :
    Orderly manners P (ExceptT.lift (perform effect) >>= next) :=
  .spare h hnext

/-! ### Calls -/

/-- A call that has its number, from there on. -/
def callFrom (place : LinkEnd) (action : Request) (call : CallId) :
    ExceptT Failure Routine Reply := do
  register place call
  let sent ← perform (.send place (.delegate place.owner call action))
  if sent then await place call
  else
    perform (.cancel place call)
    throw .disconnected

/-- A call, question by question. -/
theorem run_call (place : LinkEnd) (action : Request) :
    (call place action).run = Interaction.ask (.number place.owner) fun call =>
      Interaction.ask (.register place call) fun
        | .ok () =>
          Interaction.ask (.send place (.delegate place.owner call action)) fun sent =>
            if sent then Interaction.ask (.await place call) Interaction.done
            else Interaction.ask (.cancel place call) fun _ =>
              Interaction.done (.error .disconnected)
        | .error failure => Interaction.done (.error failure) := by
  refine congrArg (Interaction.ask _) (funext fun call => ?_)
  refine congrArg (Interaction.ask _) (funext fun registered => ?_)
  cases registered with
  | error failure => rfl
  | ok =>
    refine congrArg (Interaction.ask _) (funext fun sent => ?_)
    cases sent <;> rfl

/-- **A call goes through its stages.** -/
theorem orderly_call {place : LinkEnd} (h : manners.calls place) (action : Request) :
    Orderly manners (manners.answers action) (call place action) := by
  rw [Orderly, run_call]
  refine .number h fun call => .register ?_ fun failure hfailure => .done hfailure
  refine .send ?_ ?_
  · exact .await fun reply hreply => .done hreply
  · exact .cancel fun hfailure => .done hfailure

end Routine

end RoundTable
