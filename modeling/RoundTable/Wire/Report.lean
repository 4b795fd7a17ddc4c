import RoundTable.Session.Basic
import RoundTable.Wire.Session

/-!
# Reports

The JSON of what does not travel itself but is reported to somebody outside: errors, with the kind
of error next to its message, and summaries of edges, histories, states and routers.

## Main definitions

* `Report`: types about whose values there is something to report
* `reportOf`: the outcome of something that may fail
* `GameState.digest`: the main numbers of a state
-/

namespace RoundTable

/-- Types about whose values there is something to report. -/
class Report (α : Type) where
  /-- The report. -/
  report : α → Json

export Report (report)

/-- What came of something that may fail: the report of the error, or a member `ok`. -/
def reportOf {ε α : Type} [Report ε] (value : α → Json) : Except ε α → Json
  | .ok a => .record [("ok", value a)]
  | .error e => report e

/-- The same where success has no value. -/
def reportUnit {ε : Type} [Report ε] : Except ε Unit → Json := reportOf fun _ => .null

/-! ### Errors -/

/-- What a failure is called. -/
def Failure.kind : Failure → String
  | routing _ => "RoutingContractViolation"
  | mismatch _ _ => "ResultTypeMismatch"
  | rejected _ => "Rejected"
  | noChoice _ => "NoChoice"
  | remote _ => "Remote"
  | disconnected => "Disconnected"
  | storeClosed => "StoreClosed"

instance : Report Failure where
  report failure := .record
    [("error", .text failure.kind), ("message", .text failure.message),
      ("fatal", .bool failure.isFatal)]

/-- What an error of a machine is called. -/
def TransitionError.kind {φ ε : Type} : TransitionError φ ε → String
  | noEdge _ _ => "InvalidTransition"
  | refused _ _ => "GuardFailed"
  | store _ => "Store"

instance {φ ε : Type} [Text.HasForm φ] [Text.HasForm ε] : Report (TransitionError φ ε) where
  report error := .record
    [("error", .text error.kind), ("message", .text error.message),
      ("recoverable", .bool error.isRecoverable)]

instance : Report StoreError where
  report error := .record [("error", encode error), ("message", .text error.message)]

instance : Report (List BuildError) where
  report errors := .record
    [("error", .text "BuildErrors"), ("message", .text (BuildError.messages errors)),
      ("errors", encode errors), ("len", .nat errors.length), ("empty", .bool errors.isEmpty)]

instance : Report ConfigError where
  report error :=
    match error.message? with
    | some message => .record [("error", .text "Invalid"), ("message", .text message)]
    | none => .record [("error", .text "Malformed")]

instance : Report SessionError where
  report
    | .failed failure => .record
      [("error", .text "Interpret"),
        ("message", .text (((SessionError.failed failure).message?).getD "")),
        ("cause", report failure)]
    | .crashed => .record [("error", .text "TaskFailed")]

/-- The report of what was ended from outside. -/
def reportAborted : Json := .record [("error", .text "Aborted")]

/-! ### Summaries -/

instance {φ κ ε σ : Type} [Wire φ] [Wire κ] [Text.HasForm φ] [Text.HasForm κ] :
    Report (Edge φ κ ε σ) where
  report edge := .record
    [("from", encode edge.source), ("to", encode edge.target),
      ("selector", encode edge.selector), ("debug", .text (Text.describe edge))]

instance {φ κ : Type} [Wire φ] [Wire κ] : Report (History φ κ) where
  report history := .record
    [("transitions", .array (history.passages.map fun p => .record
        [("from", encode p.source), ("to", encode p.target), ("event", encode p.tag)])),
      ("path", encode history.path), ("len", .nat history.length),
      ("empty", .bool history.passages.isEmpty)]

/-- The main numbers of a state. -/
def GameState.digest (state : GameState) : Json := .record
  [("turn", encode state.turn), ("current", encode state.current),
    ("pile", .nat state.drawPile.length), ("heap", .nat state.discardHeap.length),
    ("attack", encode state.pendingAttack),
    ("front", .array (state.frontCards.entries.map fun e =>
      .array [encode e.1, .nat e.2.length])),
    ("players", .array (state.players.map fun p =>
      .array [encode p.id, encode p.mentalHealth, .nat p.cards.length]))]

instance : Report RouterState where
  report
    | .absent | .running => .text "running"
    | .ended result => reportUnit result
    | .aborted => reportAborted

/-- The JSON of a value somebody has waited for. -/
def Expectation.encodeValue : (expectation : Expectation) → expectation.Value → Json
  | .cards, value => encode value
  | .card, value => encode value
  | .optionalCard, value => encode value
  | .player, value => encode value
  | .bug, value => encode value
  | .outcome, value => encode value
  | .state, value => encode value
  | .unit, () => .null
  | .anyReply, reply => encode reply

/-- What a reply means to somebody who waits, as JSON. -/
def Reply.readJson (reply : Reply) (expectation : Expectation) : Except Failure Json :=
  (reply.read expectation).map expectation.encodeValue

end RoundTable
