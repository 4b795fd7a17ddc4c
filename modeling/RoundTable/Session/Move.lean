import RoundTable.Session.Conduct

/-!
# Moves

What may happen to a session, one small thing at a time: it takes a step, or somebody outside does
something with it. The order is arbitrary; a list of moves is one course of events among all that
are possible. Who leaves drops both halves of its links; there is no move by which somebody drops
only the half by which it sends.

## Main definitions

* `Move`, `Session.move?`: what may happen
* `Session.run?`: one thing after another
-/

namespace RoundTable

/-- Something that may happen to a session. -/
inductive Move (ρ : Type) where
  /-- The session takes a step. -/
  | step (label : Session.Label)
  /-- Somebody starts a job for a party. -/
  | start (holder : Party) (routine : Routine ρ)
  /-- Somebody asks how a job ended. -/
  | poll (number : Nat)
  /-- Somebody gives up a job. -/
  | cancel (number : Nat)
  /-- Somebody sends a command by hand. -/
  | send (place : LinkEnd) (command : Command)
  /-- Somebody receives a command by hand. -/
  | take (place : LinkEnd)
  /-- Somebody sends an event to the table. -/
  | apply (event : GameEvent)
  /-- A participant leaves, and drops both halves of its link. -/
  | disconnect (id : PlayerId)
  /-- The server leaves, and drops both halves of its links. -/
  | stopServer

namespace Session

variable {ρ : Type}

/-- The session after a move; `none` if the move is not possible. -/
def move? (session : Session ρ) : Move ρ → Option (Session ρ)
  | .step label => session.step? label
  | .start holder routine => some (session.start holder routine).1
  | .poll number => some (session.poll number).1
  | .cancel number => some (session.cancel number)
  | .send place command => some (session.trySend place command).1
  | .take place => some (session.tryReceive place).1
  | .apply event => some (session.applyEvent event).1
  | .disconnect id => some (session.disconnect id)
  | .stopServer => some session.stopServer

/-- The session after moves in their order; `none` if one of them is not possible. -/
def run? (session : Session ρ) : List (Move ρ) → Option (Session ρ)
  | [] => some session
  | move :: moves => (session.move? move).bind fun next => next.run? moves

end Session

end RoundTable
