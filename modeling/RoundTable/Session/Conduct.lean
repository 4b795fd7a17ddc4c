import RoundTable.Session.Schedule

/-!
# Conducting a session

What somebody outside does with a session: opening it, starting jobs, asking how they ended, giving
up jobs, sending and receiving by hand at the ends of links, and disconnecting parties. In between
the session is left to itself until it has settled.

## Main definitions

* `Mode`: how participants take part
* `Session.opened`: a session before the first step
* `Session.start`, `Session.poll`, `Session.cancel`: jobs
* `Session.trySend`, `Session.tryReceive`: commands by hand
* `Session.disconnect`, `Session.stopServer`: parties that leave
-/

namespace RoundTable

/-- How a participant takes part in a session. -/
inductive Mode where
  /-- By making choices. -/
  | choosing (chooser : Chooser)
  /-- By breaking down as soon as anything is asked. -/
  | crashing
  /-- By somebody who sends and receives commands by hand. -/
  | byHand

namespace Mode

/-- How actions of the server are carried out; by hand, no router does it. -/
def execute? (me : PlayerId) : Mode → Option (Executor Routine)
  | choosing chooser => some (.choosing (Routine.player me chooser))
  | crashing => some Routine.crashing
  | byHand => none

/-- How choices are made in programs that the participant walks. -/
def chooser? : Mode → Option Chooser
  | choosing chooser => some chooser
  | crashing => some .first
  | byHand => none

end Mode

namespace Session

variable {ρ : Type}

/-! ### Opening -/

/-- A link with a participant who may have a way to carry out actions. -/
def openLink (id : PlayerId) (execute : Option (Executor Routine)) : Link where
  id
  station := .opened execute
  serverDesk := .opened
  participantDesk := .opened

/-- A session at a table. A party that has no way to carry out actions has no router. -/
def opened (table : Table) (server : Option (Executor Routine))
    (participants : List (PlayerId × Option (Executor Routine))) : Session ρ where
  table
  server := .opened server
  links := participants.map fun p => openLink p.1 p.2
  tasks := []
  spawned := 0
  started := 0
  ends := []

/-- The participants with whom the server has a link, in ascending order. -/
def participants (session : Session ρ) : List PlayerId :=
  (session.links.map Link.id).mergeSort fun a b => a.number ≤ b.number

/-! ### Jobs -/

/-- Starts a job for a party. -/
def start (session : Session ρ) (holder : Party) (routine : Routine ρ) : Session ρ × Nat :=
  let number := session.started
  (spawn { session with started := number + 1 } (.job number holder routine), number)

/-- What is known about a job. -/
inductive JobState (ρ : Type) where
  /-- It is under way. -/
  | pending
  /-- It has ended. -/
  | ended (jobEnd : JobEnd ρ)
  /-- Somebody has already asked how it ended. -/
  | taken

/-- Asks how a job ended. The answer is given once. -/
def poll (session : Session ρ) (number : Nat) : Session ρ × JobState ρ :=
  if session.tasks.any fun task => task.activity.isJob number then (session, .pending)
  else
    match session.ends.find? fun e => e.1 == number with
    | some (_, jobEnd) =>
      ({ session with ends := session.ends.filter fun e => e.1 != number }, .ended jobEnd)
    | none => (session, .taken)

/-- Gives up the jobs of a kind that are under way; a kind that walks are not of. -/
def cancelJobs (session : Session ρ) (cancels : Activity ρ → Bool) : Session ρ :=
  let numbers := session.tasks.filterMap fun task =>
    if cancels task.activity then task.activity.jobNumber? else none
  numbers.foldl (fun session number => session.endJob number .aborted)
    (session.dropTasks cancels)

/-- Gives up a job, if it is under way. -/
def cancel (session : Session ρ) (number : Nat) : Session ρ :=
  session.cancelJobs fun activity => activity.isJob number

/-! ### By hand -/

/-- What comes of sending by hand. -/
inductive TrySend where
  | sent | full | closed

/-- Sends a command from an end without waiting. -/
def trySend (session : Session ρ) (place : LinkEnd) (command : Command) : Session ρ × TrySend :=
  match session.push? place command with
  | none => (session, .full)
  | some (session, true) => (session, .sent)
  | some (session, false) => (session, .closed)

/-- What comes of receiving by hand. -/
inductive TryReceive where
  | received (command : Command) | empty | closed

/-- Receives a command at an end without waiting. -/
def tryReceive (session : Session ρ) (place : LinkEnd) : Session ρ × TryReceive :=
  match (session.desk? place).bind Desk.inbound with
  | some command =>
    (session.modifyDesk place fun desk => { desk with inbound := none }, .received command)
  | none => (session, if session.speaks place.opposite then .empty else .closed)

/-- Sends an event to the table. -/
def applyEvent (session : Session ρ) (event : GameEvent) : Session ρ × Except Refusal Unit :=
  let (table, result) := session.table.apply event
  ({ session with table }, result.map fun _ => ())

/-! ### Leaving -/

/-- A party leaves, with its router if that is still at work. At each of its ends it loses both
halves of the link at once: nobody can stop sending there and go on listening. -/
def leave (session : Session ρ) (party : Party) : Session ρ :=
  let session :=
    if session.isRouting party then session.shutRouter party .aborted
    else
      (session.endsOf party).foldl (fun session place => session.modifyDesk place Desk.shut) session
  session.modifyStation party fun station => { station with isPresent := false }

/-- A participant leaves. Jobs for the participant go on. -/
def disconnect (session : Session ρ) (id : PlayerId) : Session ρ := session.leave (.participant id)

/-- The server leaves, and its jobs are given up. -/
def stopServer (session : Session ρ) : Session ρ :=
  (session.cancelJobs fun activity => activity.isJobFor .server).leave .server

end Session

end RoundTable
