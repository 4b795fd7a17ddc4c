import RoundTable.Json.Canonical
import RoundTable.Program.Turn
import RoundTable.Wire.Session

/-!
# Plans

A plan is a program that is written down: it is put together from the parts of a turn and single
steps, and its result is JSON. Two results are the same if they differ in nothing that carries
meaning.

## Main definitions

* `Plan`: programs written down
* `Plan.program`: what they mean
-/

namespace RoundTable

/-- A program that is written down. -/
inductive Plan where
  /-- A whole turn. -/
  | turn
  /-- An attack on somebody. -/
  | attack
  /-- Dealing with a stumbling card. -/
  | stumbling
  /-- Giving away what is too much. -/
  | excess
  /-- A single step; the result is the reply. -/
  | request (request : Request)
  /-- Nothing but a result. -/
  | done (result : Json)
  /-- One plan for its steps only, and then another. -/
  | followed (first second : Plan)
  /-- Plans in order; the result is the list of their results. -/
  | sequence (plans : List Plan)
  /-- A plan whose result becomes the member of an object. -/
  | wrapped (key : String) (plan : Plan)
  /-- A plan whose result decides between two others. -/
  | branch (plan : Plan) (expected : Json) (same different : Plan)
  /-- A plan over and over again; the result is how often. -/
  | repeated (times : Nat) (plan : Plan)

namespace Plan

/-- Repeats a program and counts how often, each round being put after all those before. -/
def rounds (body : Program Json) : Nat → Program Nat
  | 0 => .done 0
  | n + 1 => (rounds body n).andThen fun count => body.map fun _ => count + 1

/-- Whether two results are the same. -/
def same (a b : Json) : Bool := a.canonical.write == b.canonical.write

mutual

/-- What a plan means. -/
def program : Plan → Program Json
  | turn => Program.playTurn.map encode
  | attack => Program.attackSomebody.map encode
  | stumbling => Program.handleStumblingCard.map encode
  | excess => Program.discardExcess.map encode
  | request r => r.program.map encode
  | done result => .done result
  | followed first second => first.program.followedBy second.program
  | sequence plans => (programs plans).map Json.array
  | wrapped key plan => plan.program.map fun result => .record [(key, result)]
  | branch plan expected yes no =>
    plan.program.andThen fun result => if same result expected then yes.program else no.program
  | repeated times plan => (rounds plan.program times).map Json.nat

/-- What several plans mean, one after another. -/
def programs : List Plan → Program (List Json)
  | [] => .done []
  | plan :: rest => plan.program.andThen fun result => (programs rest).map (result :: ·)

end

end Plan

end RoundTable
