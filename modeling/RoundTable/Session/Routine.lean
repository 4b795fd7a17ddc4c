import RoundTable.Session.Command
import RoundTable.Walk.AtTable
import RoundTable.Walk.Chooser

/-!
# Routines

What the parties of a session do, as interactions with the session they are part of: looking at the
table, sending events to it, and sending commands over links and waiting for results. The session
answers one question of one routine at a time, so the questions of different routines may fall in
any order.

## Main definitions

* `LinkEnd`: where a party sits at a link
* `Effect`, `Routine`: the questions, and computations that ask them
* `Routine.call`, `Routine.ask`: asking the other side of a link
* `Routine.delegated`: resolving an action of the other side and sending the result back
-/

namespace RoundTable

/-- One end of the link between the server and a participant. -/
inductive LinkEnd where
  /-- The server's end of the link with a participant. -/
  | ofServer (id : PlayerId)
  /-- The participant's end of the link. -/
  | ofParticipant (id : PlayerId)
  deriving DecidableEq

namespace LinkEnd

/-- Whose end it is. -/
def owner : LinkEnd → Party
  | ofServer _ => .server
  | ofParticipant id => .participant id

/-- Who sits at the other end. -/
def partner : LinkEnd → Party
  | ofServer id => .participant id
  | ofParticipant _ => .server

/-- The other end. -/
def opposite : LinkEnd → LinkEnd
  | ofServer id => ofParticipant id
  | ofParticipant id => ofServer id

end LinkEnd

/-- What a routine may ask of the session. -/
inductive Effect where
  /-- What does the table look like? -/
  | observe
  /-- Send an event to the table. -/
  | apply (event : GameEvent)
  /-- Send one of two events to the table. -/
  | applyOr (preferred fallback : GameEvent)
  /-- Wait until the table has confirmed the event that it has accepted. -/
  | confirm
  /-- Has the server a link with the participant? -/
  | isLinked (id : PlayerId)
  /-- Take the next call number of a party. -/
  | number (party : Party)
  /-- Let a call wait for its result. -/
  | register (place : LinkEnd) (call : CallId)
  /-- Send a command to the other end; it may have to wait until there is room. -/
  | send (place : LinkEnd) (command : Command)
  /-- Take a call back. -/
  | cancel (place : LinkEnd) (call : CallId)
  /-- Wait for the result of a call. -/
  | await (place : LinkEnd) (call : CallId)
  /-- Break down. -/
  | crash
  deriving DecidableEq

/-- The type of the session's answers. -/
@[reducible] def Effect.Answer : Effect → Type
  | observe => GameState
  | apply _ => Except Refusal (GameState × GameState)
  | applyOr _ _ => Except Refusal Bool
  | confirm => Unit
  | isLinked _ => Bool
  | number _ => CallId
  | register _ _ => Except Failure Unit
  | send _ _ => Bool
  | cancel _ _ => Unit
  | await _ _ => Except Failure Reply
  | crash => Empty

/-- A computation that is part of a session. -/
abbrev Routine := Interaction Effect Effect.Answer

namespace Routine

/-- Asks one question of the session. -/
def perform (effect : Effect) : Routine effect.Answer := Interaction.question effect

/-- Lets a call wait for its result. -/
def register (place : LinkEnd) (call : CallId) : ExceptT Failure Routine Unit :=
  ExceptT.mk (perform (.register place call))

/-- Waits for the result of a call. -/
def await (place : LinkEnd) (call : CallId) : ExceptT Failure Routine Reply :=
  ExceptT.mk (perform (.await place call))

/-! ### Calls -/

/-- Has the other side of a link resolve an action. -/
def call (place : LinkEnd) (action : Request) : ExceptT Failure Routine Reply := do
  let call ← perform (.number place.owner)
  register place call
  let sent ← perform (.send place (.delegate place.owner call action))
  if sent then await place call
  else
    perform (.cancel place call)
    throw .disconnected

/-- Has the other side of a link resolve an action, and takes the answer out of the reply. -/
def ask (place : LinkEnd) : Resolver Routine := fun request => do
  let reply ← call place request
  reply.read request.expectation

/-- Has a participant resolve an action, if the server has a link with that participant. -/
def callParticipant (id : PlayerId) (action : Request) : ExceptT Failure Routine Reply := do
  let linked ← perform (.isLinked id)
  if linked then call (.ofServer id) action
  else throw (.routing ("no session link for participant " ++ toString id))

/-- Has a participant resolve an action, and takes the answer out of the reply. -/
def askParticipant (id : PlayerId) : Resolver Routine := fun request => do
  let reply ← callParticipant id request
  reply.read request.expectation

/-! ### What the parties can do -/

/-- The answer of the table to an event. Whoever has an event accepted goes on after the table has
confirmed it; a refusal is known at once. -/
def confirmed {α : Type} (answer : Routine (Except Refusal α)) : Routine (Except Refusal α) := do
  let result ← answer
  if result.isOk then perform .confirm
  return result

/-- What the server of a session can do at the table. -/
def access : Access Routine where
  observe := perform .observe
  apply event := confirmed (perform (.apply event))
  applyOr preferred fallback := confirmed (perform (.applyOr preferred fallback))
  ask := askParticipant

/-- The participant who sits at a table and makes choices. -/
def player (me : PlayerId) (chooser : Chooser) : Participant Routine :=
  .choosing (perform .observe) me chooser

/-- Who resolves the steps of a program that a participant walks: the participant the own steps, and
the server all others. -/
def onParticipant (me : PlayerId) (chooser : Chooser) : Resolver Routine :=
  (Authority.ofResolver (ask (.ofParticipant me))).beside (player me chooser)

/-- Who resolves the steps of a program that the server walks for a player: the table the steps of
the server, and a participant the others, if one is named. -/
def onServer (origin : PlayerId) (target : Option PlayerId) : Resolver Routine :=
  (Authority.atTable access origin).beside
    (match target with
      | some id => .ofResolver (askParticipant id)
      | none => .nobody)

/-- Carries out nothing: it breaks down. -/
def crashing : Executor Routine := fun _ _ => ExceptT.mk do
  let never ← perform .crash
  nomatch never

/-! ### Delegated actions -/

/-- Sends the result of an action back to where the action came from. -/
def reply (place : LinkEnd) (call : CallId) (value : Reply) : ExceptT Failure Routine Unit := do
  let sent ← perform (.send place (.result place.owner call value))
  if sent then return () else throw .disconnected

/-- Resolves an action of the other side and sends the result back. A failure goes back as a reply
too, so that the caller does not wait in vain; and if it is fatal, it is the failure of this routine
after that. -/
def delegated (execute : Executor Routine) (place : LinkEnd) (origin : Party) (call : CallId)
    (action : Request) : ExceptT Failure Routine Unit := ExceptT.mk do
  let result ← (execute origin action).run
  match result with
  | .ok value => (reply place call value).run
  | .error failure =>
    let delivered ← (reply place call (.failed failure.message)).run
    return if failure.isFatal then .error failure else delivered

end Routine

end RoundTable
