import RoundTable.Party
import RoundTable.Reply

/-!
# Commands

What goes over a link between the server and a participant: actions that the other side is to
resolve, and results of such actions. An action and its result carry the same call number.

## Main definitions

* `CallId`: the number of a call
* `Command`: an action or a result
-/

namespace RoundTable

/-- The number of a call. -/
structure CallId where
  /-- The number. -/
  number : Nat
  deriving DecidableEq

namespace CallId

/-- How messages call a call. -/
instance : ToString CallId := ⟨fun call => "#" ++ toString call.number⟩

instance : Text.HasForm CallId := ⟨fun call => .tuple "CallId" [Text.form call.number]⟩

end CallId

/-- What goes over a link. -/
inductive Command where
  /-- An action for the other side to resolve. -/
  | delegate (origin : Party) (call : CallId) (action : Request)
  /-- The result of an action that came from the other side. -/
  | result (origin : Party) (call : CallId) (value : Reply)
  deriving DecidableEq

end RoundTable
