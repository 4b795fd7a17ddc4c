import RoundTable.Walk.Resolver

/-!
# Scripts

A script resolves steps without a table: for each name of a step it has a list of replies, which it
gives in turn, starting over at the end of the list. Which reply comes next depends on how many
steps of the name there were, so a record is kept of the steps that were put to the script.

## Main definitions

* `Cues`: the steps that were put to a script
* `Script`, `Script.answer`: replies by the name of the step
* `Script.resolver`: resolves the steps and records them
* `Rehearsal`: the records of an authority and a participant who follow scripts
-/

namespace RoundTable

/-! ### Cues -/

/-- The steps that were put to a script. They are counted as they come. -/
structure Cues where
  /-- The steps, newest first. -/
  newest : List Request
  /-- How many steps there were of each name that has come up. -/
  counts : List (String × Nat)

namespace Cues

/-- No steps. -/
def none : Cues := ⟨[], []⟩

/-- The steps, oldest first. -/
def toList (cues : Cues) : List Request := cues.newest.reverse

/-- How many steps of a name there were. -/
def count (cues : Cues) (name : String) : Nat := (cues.counts.lookup name).getD 0

/-- The counts after one more step of a name. -/
def increment (name : String) : List (String × Nat) → List (String × Nat)
  | [] => [(name, 1)]
  | (other, n) :: rest =>
    if name = other then (other, n + 1) :: rest else (other, n) :: increment name rest

/-- One more step. -/
def push (cues : Cues) (request : Request) : Cues :=
  ⟨request :: cues.newest, increment request.name cues.counts⟩

end Cues

/-! ### Scripts -/

/-- Replies by the name of the step. -/
structure Script where
  /-- The replies to the steps of a name, in order. -/
  replies : String → List Reply

namespace Script

/-- The answer to a step that comes after others. -/
def answer (script : Script) (earlier : Cues) (request : Request) :
    Except Failure request.Answer :=
  let replies := script.replies request.name
  match replies[earlier.count request.name % replies.length]? with
  | some reply => reply.read request.expectation
  | none => .error (.noChoice "scripted answer")

/-- Resolves steps by the script and records them. -/
def resolver (script : Script) : Resolver (StateM Cues) := fun request =>
  ExceptT.mk do
    let earlier ← get
    set (earlier.push request)
    return script.answer earlier request

/-- Walks a program step by step. The programs that were met on the way come first. Where `limit`
steps have been walked the walk stops, and the result is missing even of a program that is done. -/
def walk {α : Type} (script : Script) (earlier : Cues) :
    Nat → Program α → List (Program α) × Option (Except Failure α)
  | 0, program => ([program], none)
  | _ + 1, .done result => ([.done result], some (.ok result))
  | limit + 1, .step request rest =>
    match script.answer earlier request with
    | .error failure => ([.step request rest], some (.error failure))
    | .ok answer =>
      let (programs, result) := script.walk (earlier.push request) limit (rest.settle answer)
      (.step request rest :: programs, result)

end Script

/-! ### Rehearsals -/

/-- The steps that were put to the two sides. -/
structure Rehearsal where
  /-- The steps of the authority. -/
  authority : Cues
  /-- The steps of the participant. -/
  participant : Cues

namespace Rehearsal

/-- Nothing has happened yet. -/
def start : Rehearsal := ⟨.none, .none⟩

/-- Walks a program with an authority and a participant who each follow the script on their own. -/
def run (script : Script) {α : Type} (program : Program α) :
    ExceptT Failure (StateM Rehearsal) α :=
  let authority : Authority (StateM Rehearsal) := .ofResolver fun request =>
    ExceptT.mk do
      let records ← get
      let (answer, record) := (script.resolver request).run.run records.authority
      set { records with authority := record }
      return answer
  let participant : Participant (StateM Rehearsal) := .ofResolver fun request =>
    ExceptT.mk do
      let records ← get
      let (answer, record) := (script.resolver request).run.run records.participant
      set { records with participant := record }
      return answer
  program.run (authority.beside participant)

end Rehearsal

end RoundTable
