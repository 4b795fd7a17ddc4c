import RoundTable.Session.Basic

/-!
# Who is next

One course of events among those that are possible in a session. Whoever can take a step gets in
line. The first in line takes as many steps as it can and then leaves the line, and whoever can take
a step because of that gets in line behind the others. When the line is empty, nothing moves any
more.

A task also stops when the table has accepted an event of it. It gets in line again once the table
has had its turn and has confirmed the event; so those who were in line before are served first, and
may even see to it that the task never goes on.

## Main definitions

* `Actor`: those who get in line
* `Schedule`, `Schedule.next?`: a session and its line
* `Session.settle`: the session when nothing moves any more
-/

namespace RoundTable

variable {ρ : Type}

/-- Those who take steps in a session. -/
inductive Actor where
  /-- The task of a number. -/
  | task (id : Nat)
  /-- The table, which has to confirm an event of a task. -/
  | confirmation (task : Nat)
  /-- The router of a party. -/
  | router (party : Party)
  deriving DecidableEq

namespace Session

/-! ### Actors and their steps -/

/-- The server and all participants. -/
def parties (session : Session ρ) : List Party :=
  .server :: session.links.map fun link => .participant link.id

/-- The routers and the tasks. -/
def actors (session : Session ρ) : List Actor :=
  session.parties.map .router ++ session.tasks.map fun task => .task task.id

/-- The steps that an actor may be able to take, in the order in which it tries them. A router
notices first who has hung up, then which walks are over, and then what has arrived. -/
def labelsOf (session : Session ρ) : Actor → List Label
  | .task id => [.advance id]
  | .confirmation _ => []
  | .router party =>
    let places := session.endsOf party
    let walks := session.tasks.filter fun task => task.activity.isWalkOf party
    places.map .hangUp ++ walks.map (fun task => .join task.id) ++ places.map .receive ++
      [.stop party]

/-- The next step of an actor; `none` if it has to wait. -/
def act? (session : Session ρ) (actor : Actor) : Option (Session ρ) :=
  (session.labelsOf actor).findSome? session.step?

/-- Whether a task waits for the table to confirm an event. -/
def awaitsConfirmation (session : Session ρ) (id : Nat) : Bool :=
  (session.task? id).any fun task => task.activity.awaitsConfirmation

end Session

/-! ### The line -/

/-- A session, and who is in line for a turn. -/
structure Schedule (ρ : Type) where
  /-- The session. -/
  session : Session ρ
  /-- The line, first come first served. -/
  line : List Actor

namespace Schedule

/-- Whether an actor is in line, or, a task, waits for the table that is in line. -/
def isInLine (schedule : Schedule ρ) (actor : Actor) : Bool :=
  schedule.line.any fun other =>
    match actor, other with
    | .task id, .confirmation waiting => id == waiting
    | _, _ => actor == other

/-- All who can take a step get in line. -/
def gather (schedule : Schedule ρ) : Schedule ρ :=
  let comers := schedule.session.actors.filter fun actor =>
    !schedule.isInLine actor && (schedule.session.act? actor).isSome
  { schedule with line := schedule.line ++ comers }

/-- A session in which all who can take a step are in line. -/
def start (session : Session ρ) : Schedule ρ := gather ⟨session, []⟩

/-- The first in line takes a step, or leaves the line if there is none to take; `none` if nobody is
in line. -/
def next? (schedule : Schedule ρ) : Option (Schedule ρ) :=
  match schedule.line with
  | [] => none
  | .confirmation id :: others => some { schedule with line := others ++ [.task id] }
  | actor :: others =>
    match schedule.session.act? actor, actor with
    | none, _ => some { schedule with line := others }
    | some session, .task id =>
      if session.awaitsConfirmation id then some (gather ⟨session, others ++ [.confirmation id]⟩)
      else some (gather ⟨session, actor :: others⟩)
    | some session, _ => some (gather ⟨session, actor :: others⟩)

/-- At most `n` steps. -/
def run : Nat → Schedule ρ → Schedule ρ
  | 0, schedule => schedule
  | n + 1, schedule =>
    match schedule.next? with
    | some schedule => run n schedule
    | none => schedule

end Schedule

namespace Session

/-- More steps than a session takes in practice before it comes to rest. -/
def patience : Nat := 1000000000

/-- Lets the session take steps until nothing moves. -/
def settle (session : Session ρ) : Session ρ := ((Schedule.start session).run patience).session

end Session

end RoundTable
