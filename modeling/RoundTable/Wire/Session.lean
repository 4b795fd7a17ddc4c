import RoundTable.Program.Turn
import RoundTable.Session.Command
import RoundTable.Wire.Game

/-!
# Sessions on the wire

The JSON of requests, replies and commands, and of what is reported about a turn.

## Main definitions

* `Wire` instances of what travels in a session
-/

namespace RoundTable.Wire

instance : Wire Request where
  encode
    | .selectDiscardCards amount => .tagged "SelectDiscardCards"
        (.record [("amount", encode amount)])
    | .attackPlayer target bug => .tagged "AttackPlayer"
        (.record [("target", encode target), ("bug", encode bug)])
    | .defendAttack defence => .tagged "DefendAttack" (.record [("defence", encode defence)])
    | .handleStumbling via => .tagged "HandleStumbling" (.record [("via", encode via)])
    | .discard cards => .tagged "Discard" (.record [("cards", encode cards)])
    | request => .text request.name
  decode? value := do
    let (name, content) ← value.variant?
    match name with
    | "CheckStumbling" => if Json.isBare content then some .checkStumbling else none
    | "SelectResponse" => if Json.isBare content then some .selectResponse else none
    | "PlayCard" => if Json.isBare content then some .playCard else none
    | "SelectPlayer" => if Json.isBare content then some .selectPlayer else none
    | "SelectAttack" => if Json.isBare content then some .selectAttack else none
    | "GetGameState" => if Json.isBare content then some .getGameState else none
    | "DrawCards" => if Json.isBare content then some .drawCards else none
    | "SelectDiscardCards" =>
      let [amount] ← (← content).fields? ["amount"] | none
      some (.selectDiscardCards (← required? amount))
    | "AttackPlayer" =>
      let [target, bug] ← (← content).fields? ["target", "bug"] | none
      some (.attackPlayer (← required? target) (← required? bug))
    | "DefendAttack" =>
      let [defence] ← (← content).fields? ["defence"] | none
      some (.defendAttack (← optional? defence))
    | "HandleStumbling" =>
      let [via] ← (← content).fields? ["via"] | none
      some (.handleStumbling (← optional? via))
    | "Discard" =>
      let [cards] ← (← content).fields? ["cards"] | none
      some (.discard (← required? cards))
    | _ => none

instance : Wire Reply where
  encode
    | .cards cards => .tagged "Cards" (encode cards)
    | .card card => .tagged "Card" (encode card)
    | .optionalCard card => .tagged "MaybeCard" (encode card)
    | .player id => .tagged "Player" (encode id)
    | .bug report => .tagged "Bug" (encode report)
    | .outcome outcome => .tagged "Outcome" (encode outcome)
    | .state state => .tagged "State" (encode state)
    | .unit => .text "Unit"
    | .failed reason => .tagged "Failed" (encode reason)
  decode? value := do
    let (name, content) ← value.variant?
    match name with
    | "Cards" => (decode? (← content)).map .cards
    | "Card" => (decode? (← content)).map .card
    | "MaybeCard" => (decode? (← content)).map .optionalCard
    | "Player" => (decode? (← content)).map .player
    | "Bug" => (decode? (← content)).map .bug
    | "Outcome" => (decode? (← content)).map .outcome
    | "State" => (decode? (← content)).map .state
    | "Unit" => if Json.isBare content then some .unit else none
    | "Failed" => (decode? (← content)).map .failed
    | _ => none

instance : Wire Party where
  encode
    | .server => .text "Server"
    | .participant id => .tagged "Participant" (encode id)
  decode? value := do
    let (name, content) ← value.variant?
    match name with
    | "Server" => if Json.isBare content then some .server else none
    | "Participant" => (decode? (← content)).map .participant
    | _ => none

instance : Wire CallId where
  encode call := encode call.number
  decode? value := (decode? value).map CallId.mk

instance : Wire Command where
  encode
    | .delegate origin call action => .tagged "ActionDelegate"
        (.record [("origin", encode origin), ("call", encode call), ("action", encode action)])
    | .result origin call value => .tagged "Result"
        (.record [("origin", encode origin), ("call", encode call), ("value", encode value)])
  decode? value := do
    let (name, content) ← value.variant?
    let content ← content
    match name with
    | "ActionDelegate" =>
      let [origin, call, action] ← content.fields? ["origin", "call", "action"] | none
      some (.delegate (← required? origin) (← required? call) (← required? action))
    | "Result" =>
      let [origin, call, value] ← content.fields? ["origin", "call", "value"] | none
      some (.result (← required? origin) (← required? call) (← required? value))
    | _ => none

instance : Wire TurnReport where
  encode report := .record
    [("stumbling", encode report.stumbling), ("drawn", encode report.drawn),
      ("attack", encode report.attack), ("discarded", encode report.discarded)]
  decode? value := do
    let [stumbling, drawn, attack, discarded] ←
      value.fields? ["stumbling", "drawn", "attack", "discarded"] | none
    some
      { stumbling := ← required? stumbling, drawn := ← required? drawn,
        attack := ← required? attack, discarded := ← required? discarded }

end RoundTable.Wire
