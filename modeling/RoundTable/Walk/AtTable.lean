import RoundTable.Program.Turn
import RoundTable.Walk.Resolver

/-!
# Steps at the table

The steps of the server are events at the table. An authority acts for one player; where a step
takes the word of another player, the authority asks that player's participant. A card that the
table does not accept counts as no card.

## Main definitions

* `Access`: what one can do at a table
* `Authority.atTable`: resolves the steps of the server for one player
* `Participant.nobody`: stands for a participant where there is none
* `Executor.atTable`: carries out what participants ask of the server
* `Access.driveTurn`: plays the turn of the current player
-/

namespace RoundTable

/-- What one can do at a table, and whom one can ask. -/
structure Access (m : Type → Type) where
  /-- Looks at the state. -/
  observe : m GameState
  /-- Sends an event; shows the state before and after. -/
  apply : GameEvent → m (Except Refusal (GameState × GameState))
  /-- Sends the first event if it is allowed and the second one if not; says which. -/
  applyOr : GameEvent → GameEvent → m (Except Refusal Bool)
  /-- Puts a question to a participant. -/
  ask : PlayerId → Resolver m

variable {m : Type → Type} [Monad m]

namespace Access

/-- Sends an event; a refusal is a failure. -/
def send (access : Access m) (event : GameEvent) : ExceptT Failure m (GameState × GameState) := do
  let result ← access.apply event
  match result with
  | .ok states => return states
  | .error refusal => throw (.ofRefusal refusal)

/-- Sends one of two events; a refusal is a failure. -/
def sendOr (access : Access m) (preferred fallback : GameEvent) : ExceptT Failure m Bool := do
  let result ← access.applyOr preferred fallback
  match result with
  | .ok fits => return fits
  | .error refusal => throw (.ofRefusal refusal)

/-- Settles the attack on a victim, on behalf of `origin`. It is a failure of the attack if a card
deflects it. -/
def settleAttack (access : Access m) (origin victim : PlayerId) (defence : Option Card) :
    ExceptT Failure m Outcome := do
  let hit := GameEvent.reactWithoutCard origin victim
  match defence with
  | some card =>
    let deflected ← access.sendOr (.reactWithCard origin victim card) hit
    return if deflected then .failure else .success
  | none =>
    let _ ← access.send hit
    return .success

/-- What the victim of an attack answers with. No answer is an answer without a card, unless the
question has shown that the parties are connected wrongly. -/
def askVictim (access : Access m) (victim : PlayerId) : ExceptT Failure m (Option Card) :=
  tryCatch (access.ask victim .selectResponse) fun failure =>
    if failure.isFatal then throw failure else pure none

end Access

/-- Resolves the steps of the server for the player `origin`. -/
def Authority.atTable (access : Access m) (origin : PlayerId) : Authority m where
  drawCards := do
    let (before, after) ← access.send (.drawCards origin)
    return before.drawPile.take (before.drawPile.length - after.drawPile.length)
  attackPlayer target bug := do
    let _ ← access.send (.reportBug origin target bug)
    let defence ← access.askVictim target
    access.settleAttack origin target defence
  defendAttack defence := do
    let state ← access.observe
    if state.pendingAttack.any fun attack => attack.victim = origin then
      return (← access.settleAttack origin origin defence).opposite
    else throw (.rejected ("no pending attack against player " ++ toString origin))
  handleStumbling via := do
    let unanswered := GameEvent.resolveStumbling origin none
    match via with
    | some card =>
      let spent ← access.sendOr (.resolveStumbling origin (some card)) unanswered
      return if spent then .success else .failure
    | none =>
      let _ ← access.send unanswered
      return .failure
  discard cards := do
    let _ ← access.send (.discard origin cards)
    return ()

/-- Resolves nothing: where no participant is named, nobody can be asked. -/
def Participant.nobody : Participant m :=
  .ofResolver fun request =>
    throw (.routing (request.name ++ " needs a named participant on the server"))

/-- Carries out the requests of participants at the table, and refuses those of the server. -/
def Executor.atTable (access : Access m) : Executor m := fun origin request =>
  match origin with
  | .participant id =>
    request.program.run ((Authority.atTable access id).beside Participant.nobody)
  | .server => throw (.routing "server received an action attributed to itself")

/-- Plays the turn of the current player, with the player's participant making the choices, and
passes the turn on. -/
def Access.driveTurn (access : Access m) : ExceptT Failure m TurnReport := do
  let state ← access.observe
  match state.currentId? with
  | none => throw (.rejected "no players seated")
  | some id =>
    let report ← Program.playTurn.run
      ((Authority.atTable access id).beside (.ofResolver (access.ask id)))
    let _ ← access.send (.nextTurn id)
    return report

end RoundTable
