import RoundTable.Session.Routine
import RoundTable.Session.Slot

/-!
# Sessions

A table, a server and participants, joined by a link each. A link has room for one command in each
direction. At either end sits a router, which takes in what arrives: it starts a walk for every
action and delivers every result to the slot of that end. Walks, and jobs that somebody has started
on behalf of a party, do all the sending.

A session takes one small step at a time, chosen by a label: one question of a task is answered, a
router takes in a command, takes notice of the end of a walk or of the other side's hanging up, or
stops. Any sequence of labels is a possible course of events.

## Main definitions

* `Session`: the parties, their links, and the tasks under way
* `Label`, `Session.step?`: the small steps
* `Session.perform?`: what the session answers to a question
-/

namespace RoundTable

/-! ### Parts -/

/-- Why a router stops before its time. -/
inductive SessionError where
  /-- A walk failed fatally. -/
  | failed (failure : Failure)
  /-- A walk broke down. -/
  | crashed
  deriving DecidableEq

/-- What is said about the end of a session; there is nothing to say about a breakdown. -/
def SessionError.message? : SessionError → Option String
  | failed failure => some ("Session ended by fatal error: " ++ failure.message)
  | crashed => none

/-- What a router is doing. -/
inductive RouterState where
  /-- There is none. -/
  | absent
  /-- It takes in commands. -/
  | running
  /-- It has stopped. -/
  | ended (result : Except SessionError Unit)
  /-- It was stopped from outside. -/
  | aborted

/-- A party with its router. -/
structure Station where
  /-- The number of the next call. -/
  nextCall : Nat
  /-- What the router is doing. -/
  router : RouterState
  /-- How actions of the other side are carried out. -/
  execute : Executor Routine
  /-- Whether the party itself still takes part, apart from jobs on its behalf. -/
  isPresent : Bool

/-- A party before its first call, with a router if it has a way to carry out actions. -/
def Station.opened (execute : Option (Executor Routine)) : Station where
  nextCall := 1
  router := if execute.isSome then .running else .absent
  execute := execute.getD Routine.crashing
  isPresent := true

/-- Whether the router takes in commands. -/
def Station.isRunning (station : Station) : Bool :=
  match station.router with
  | .running => true
  | _ => false

/-- One end of a link. -/
structure Desk where
  /-- The slot for results. -/
  slot : Slot
  /-- The command that has arrived. -/
  inbound : Option Command
  /-- Whether commands may still arrive. -/
  isListening : Bool

/-- An end where nothing has arrived. -/
def Desk.opened : Desk := ⟨.vacant, none, true⟩

/-- The end where nothing arrives any more. -/
def Desk.shut (desk : Desk) : Desk := { desk with inbound := none, isListening := false }

/-- The link of the server with a participant. -/
structure Link where
  /-- Who the participant is. -/
  id : PlayerId
  /-- The participant. -/
  station : Station
  /-- The server's end. -/
  serverDesk : Desk
  /-- The participant's end. -/
  participantDesk : Desk

/-- What a task does, and on whose behalf. -/
inductive Activity (ρ : Type) where
  /-- A walk that a router has started. -/
  | walk (router : Party) (routine : Routine (Except Failure Unit))
  /-- A numbered job that somebody has started for a party. -/
  | job (number : Nat) (holder : Party) (routine : Routine ρ)

/-- Something under way. -/
structure Task (ρ : Type) where
  /-- The number of the task. -/
  id : Nat
  /-- What it does. -/
  activity : Activity ρ
  /-- The call whose result it waits for. -/
  pending : Option (LinkEnd × CallId)

/-- How a job ended. -/
inductive JobEnd (ρ : Type) where
  /-- It is done. -/
  | result (value : ρ)
  /-- It was ended from outside, or broke down. -/
  | aborted

/-- A session whose jobs have results of type `ρ`. -/
structure Session (ρ : Type) where
  /-- The table. -/
  table : Table
  /-- The server. -/
  server : Station
  /-- The links. -/
  links : List Link
  /-- The tasks, longest without a step first. -/
  tasks : List (Task ρ)
  /-- The number of tasks so far. -/
  spawned : Nat
  /-- The number of jobs started so far. -/
  started : Nat
  /-- The ends of jobs that nobody has asked for. -/
  ends : List (Nat × JobEnd ρ)

namespace Activity

variable {ρ : Type}

/-- Whether it is a walk of the given router. -/
def isWalkOf (party : Party) : Activity ρ → Bool
  | walk router _ => router = party
  | job _ _ _ => false

/-- Whether it is a job for the given party. -/
def isJobFor (party : Party) : Activity ρ → Bool
  | walk _ _ => false
  | job _ holder _ => holder = party

/-- The number of a job. -/
def jobNumber? : Activity ρ → Option Nat
  | walk _ _ => none
  | job number _ _ => some number

/-- Whether it is the job of the given number. -/
def isJob (number : Nat) (activity : Activity ρ) : Bool := activity.jobNumber? == some number

/-- Whether it waits for the table to confirm an event. -/
def awaitsConfirmation : Activity ρ → Bool
  | walk _ (Interaction.ask .confirm _) | job _ _ (Interaction.ask .confirm _) => true
  | _ => false

end Activity

namespace Session

variable {ρ : Type}

/-! ### Access to the parts -/

/-- The link with a participant. -/
def link? (session : Session ρ) (id : PlayerId) : Option Link :=
  session.links.find? fun link => link.id = id

/-- Changes the link with a participant. -/
def modifyLink (session : Session ρ) (id : PlayerId) (change : Link → Link) : Session ρ :=
  { session with links := session.links.map fun link => if link.id = id then change link else link }

/-- A party's station; a participant without a link has none. -/
def station? (session : Session ρ) : Party → Option Station
  | .server => some session.server
  | .participant id => (session.link? id).map Link.station

/-- Changes a party's station. -/
def modifyStation (session : Session ρ) (party : Party) (change : Station → Station) : Session ρ :=
  match party with
  | .server => { session with server := change session.server }
  | .participant id =>
    session.modifyLink id fun link => { link with station := change link.station }

/-- One end of a link. -/
def desk? (session : Session ρ) : LinkEnd → Option Desk
  | .ofServer id => (session.link? id).map Link.serverDesk
  | .ofParticipant id => (session.link? id).map Link.participantDesk

/-- Changes one end of a link. -/
def modifyDesk (session : Session ρ) (place : LinkEnd) (change : Desk → Desk) : Session ρ :=
  match place with
  | .ofServer id =>
    session.modifyLink id fun link => { link with serverDesk := change link.serverDesk }
  | .ofParticipant id =>
    session.modifyLink id fun link => { link with participantDesk := change link.participantDesk }

/-- Changes the slot at one end of a link. -/
def modifySlot (session : Session ρ) (place : LinkEnd) (change : Slot → Slot) : Session ρ :=
  session.modifyDesk place fun desk => { desk with slot := change desk.slot }

/-- The ends at which a party sits. -/
def endsOf (session : Session ρ) : Party → List LinkEnd
  | .server => session.links.map fun link => .ofServer link.id
  | .participant id => if (session.link? id).isSome then [.ofParticipant id] else []

/-- Whether a party's router takes in commands. -/
def isRouting (session : Session ρ) (party : Party) : Bool :=
  (session.station? party).any Station.isRunning

/-- Whether commands may still come from an end: its owner is there, or has jobs under way. -/
def speaks (session : Session ρ) (place : LinkEnd) : Bool :=
  (session.station? place.owner).any Station.isPresent ||
    session.tasks.any fun task => task.activity.isJobFor place.owner

/-! ### Answers -/

/-- Puts a command into a link. There may be no room; and if nobody listens at the other end, the
command is not sent at all. -/
def push? (session : Session ρ) (place : LinkEnd) (command : Command) :
    Option (Session ρ × Bool) :=
  match session.desk? place.opposite with
  | none => some (session, false)
  | some desk =>
    if desk.isListening then
      if desk.inbound.isSome then none
      else
        some (session.modifyDesk place.opposite fun desk =>
          { desk with inbound := some command }, true)
    else some (session, false)

/-- Lets a call wait for its result. -/
def register (session : Session ρ) (place : LinkEnd) (call : CallId) :
    Session ρ × Except Failure Unit :=
  match session.desk? place with
  | none => (session, .error .disconnected)
  | some desk =>
    match desk.slot.register call with
    | .error failure => (session, .error failure)
    | .ok slot => (session.modifySlot place fun _ => slot, .ok ())

/-- What the session answers to a question; `none` if the question has to wait. -/
def perform? (session : Session ρ) : (effect : Effect) → Option (Session ρ × effect.Answer)
  | .observe => some (session, session.table.state)
  | .apply event =>
    let (table, result) := session.table.apply event
    some ({ session with table }, result)
  | .applyOr preferred fallback =>
    let (table, result) := session.table.applyOr preferred fallback
    some ({ session with table }, result)
  | .confirm => some (session, ())
  | .isLinked id => some (session, (session.link? id).isSome)
  | .number party =>
    let number := ((session.station? party).map Station.nextCall).getD 0
    some (session.modifyStation party fun station =>
      { station with nextCall := station.nextCall + 1 }, ⟨number⟩)
  | .register place call => some (session.register place call)
  | .send place command => session.push? place command
  | .cancel place call => some (session.modifySlot place fun slot => slot.cancel call, ())
  | .await place call =>
    match session.desk? place with
    | none => some (session, .error .disconnected)
    | some desk => (desk.slot.answer? call).map fun answer => (session, answer)
  | .crash => none

/-- The call whose result a task waits for after a question is answered. -/
def pendingAfter (pending : Option (LinkEnd × CallId)) :
    (effect : Effect) → effect.Answer → Option (LinkEnd × CallId)
  | .register place call, .ok () => some (place, call)
  | .cancel _ _, _ => none
  | .await _ _, _ => none
  | _, _ => pending

/-! ### The end of tasks -/

/-- A task that is dropped gives up its call. -/
def abandon (session : Session ρ) (task : Task ρ) : Session ρ :=
  match task.pending with
  | some (place, call) => session.modifySlot place fun slot => slot.abandon call
  | none => session

/-- Drops the tasks of a kind. -/
def dropTasks (session : Session ρ) (drops : Activity ρ → Bool) : Session ρ :=
  let dropped := session.tasks.filter fun task => drops task.activity
  dropped.foldl abandon
    { session with tasks := session.tasks.filter fun task => !drops task.activity }

/-- A party's router is gone, in whatever way: nothing arrives any more, and its walks are
dropped. -/
def shutRouter (session : Session ρ) (party : Party) (router : RouterState) : Session ρ :=
  let shut := (session.endsOf party).foldl (fun session place => session.modifyDesk place Desk.shut)
    session
  (shut.modifyStation party fun station => { station with router }).dropTasks
    fun activity => activity.isWalkOf party

/-- A router learns how one of its walks ended. Only a fatal failure concerns it. -/
def join (session : Session ρ) (party : Party) (result : Except Failure Unit) : Session ρ :=
  match result with
  | .ok () => session
  | .error failure =>
    if failure.isFatal then session.shutRouter party (.ended (.error (.failed failure)))
    else session

/-- Records the end of a job. -/
def endJob (session : Session ρ) (number : Nat) (jobEnd : JobEnd ρ) : Session ρ :=
  { session with ends := session.ends ++ [(number, jobEnd)] }

/-! ### Steps -/

/-- The task of a number. -/
def task? (session : Session ρ) (id : Nat) : Option (Task ρ) :=
  session.tasks.find? fun task => task.id == id

/-- Takes a task out of the list. -/
def withoutTask (session : Session ρ) (id : Nat) : Session ρ :=
  { session with tasks := session.tasks.filter fun task => task.id != id }

/-- Puts a task behind all others. -/
def queueTask (session : Session ρ) (task : Task ρ) : Session ρ :=
  { session with tasks := session.tasks ++ [task] }

/-- Starts a new task. -/
def spawn (session : Session ρ) (activity : Activity ρ) : Session ρ :=
  queueTask { session with spawned := session.spawned + 1 } ⟨session.spawned, activity, none⟩

/-- Answers a question of a task, which has been taken out of the list, and puts it back. -/
def answer? (session : Session ρ) (task : Task ρ) (effect : Effect)
    (goOn : effect.Answer → Activity ρ) : Option (Session ρ) :=
  (session.perform? effect).map fun (session, answer) =>
    session.queueTask ⟨task.id, goOn answer, pendingAfter task.pending effect answer⟩

/-- A step of a task: its next question is answered, or the end of a job is recorded. -/
def advance? (session : Session ρ) (id : Nat) : Option (Session ρ) :=
  (session.task? id).bind fun task =>
    let others := session.withoutTask id
    match task.activity with
    | .walk _ (Interaction.done _) | .walk _ (Interaction.ask .crash _) => none
    | .walk router (Interaction.ask effect next) =>
      others.answer? task effect fun answer => .walk router (next answer)
    | .job number _ (Interaction.done result) => some (others.endJob number (.result result))
    | .job number _ (Interaction.ask .crash _) => some (others.endJob number .aborted)
    | .job number holder (Interaction.ask effect next) =>
      others.answer? task effect fun answer => .job number holder (next answer)

/-- The router of a walk that is over takes notice of how it ended. -/
def join? (session : Session ρ) (id : Nat) : Option (Session ρ) :=
  (session.task? id).bind fun task =>
    let others := session.withoutTask id
    match task.activity with
    | .walk router (Interaction.done result) => some (others.join router result)
    | .walk router (Interaction.ask .crash _) =>
      some (others.shutRouter router (.ended (.error .crashed)))
    | _ => none

/-- Who an action comes from that arrives at an end. The server goes by the link; a participant goes
by what the command says. -/
def attributed (place : LinkEnd) (origin : Party) : Party :=
  match place with
  | .ofServer id => .participant id
  | .ofParticipant _ => origin

/-- A router deals with a command that has arrived at an end. -/
def dispatch (session : Session ρ) (place : LinkEnd) (station : Station) :
    Command → Session ρ
  | .delegate origin call action =>
    session.spawn (.walk place.owner
      (Routine.delegated station.execute place (attributed place origin) call action).run)
  | .result _ call value => session.modifySlot place fun slot => (slot.deliver call value).1

/-- A router takes in a command. -/
def receive? (session : Session ρ) (place : LinkEnd) : Option (Session ρ) := do
  let station ← session.station? place.owner
  let desk ← session.desk? place
  let command ← desk.inbound
  if station.isRunning && desk.isListening then
    some ((session.modifyDesk place fun desk => { desk with inbound := none }).dispatch
      place station command)
  else none

/-- A router notices that nothing more will arrive at an end, and sends away who waits there. -/
def hangUp? (session : Session ρ) (place : LinkEnd) : Option (Session ρ) := do
  let desk ← session.desk? place
  if session.isRouting place.owner && desk.isListening && desk.inbound.isNone &&
      !session.speaks place.opposite then
    some (session.modifyDesk place fun desk =>
      { desk with isListening := false, slot := desk.slot.close })
  else none

/-- A router stops when nothing can arrive and no walk is left. -/
def stop? (session : Session ρ) (party : Party) : Option (Session ρ) :=
  let listens := (session.endsOf party).any fun place =>
    (session.desk? place).any Desk.isListening
  let walks := session.tasks.any fun task => task.activity.isWalkOf party
  if session.isRouting party && !listens && !walks then
    some (session.modifyStation party fun station => { station with router := .ended (.ok ()) })
  else none

/-- The choice of a step. -/
inductive Label where
  /-- The task of a number takes a step. -/
  | advance (task : Nat)
  /-- A router takes notice of the end of a walk. -/
  | join (task : Nat)
  /-- A command is taken in at an end. -/
  | receive (place : LinkEnd)
  /-- It is noticed at an end that the other side has hung up. -/
  | hangUp (place : LinkEnd)
  /-- A router stops. -/
  | stop (party : Party)
  deriving DecidableEq

/-- The session after a step; `none` if the step is not possible. -/
def step? (session : Session ρ) : Label → Option (Session ρ)
  | .advance task => session.advance? task
  | .join task => session.join? task
  | .receive place => session.receive? place
  | .hangUp place => session.hangUp? place
  | .stop party => session.stop? party

end Session

end RoundTable
