import RoundTable.Proofs.Session.Chronicles

/-!
# Sessions with a host

The server of a session is the only one who does anything at its table: it carries out there what
participants ask of it, and plays turns. Participants look at the table, and for the rest they may
do what they like. So whatever has been done at the table, a walk has done for a player at whose
link an action has arrived, or the server of its own accord.

## Main definitions

* `Routine.SparesTable`, `Executor.SparesTable`: routines that send no events to the table
* `Move.IsHosted`: what may happen when the server is the host
* `Session.Hosted`: records of such sessions

## Main results

* `Routine.sparesTable_choosing`: participants who make choices send no events to the table
* `Session.hosted_of_run?`: the records of such sessions
* `Session.Hosted.begins`: what a task may have begun as
-/

namespace RoundTable

namespace Routine

variable {α β : Type}

/-- A routine that sends no events to the table. -/
def SparesTable (routine : Routine α) : Prop :=
  ∀ past, Proceeds (fun _ effect => effect.events = []) anyEnding past routine

theorem sparesTable_delegated {execute : Executor Routine} {place : LinkEnd} {origin : Party}
    {call : CallId} {action : Request} (h : (execute origin action).run.SparesTable) :
    (delegated execute place origin call action).run.SparesTable :=
  fun past => proceeds_delegated (fun _ _ => rfl) ((h past).mono fun _ _ _ _ => trivial)

end Routine

/-- An executor whose work sends no events to the table. -/
def Executor.SparesTable (execute : Executor Routine) : Prop :=
  ∀ origin action, (execute origin action).run.SparesTable

namespace Routine

/-- Participants who make choices only look at the table. -/
theorem sparesTable_choosing (me : PlayerId) (chooser : Chooser) :
    Executor.SparesTable (.choosing (player me chooser)) := by
  intro origin action past
  rw [Executor.choosing]
  split
  case isFalse => exact attempts_throw trivial
  case isTrue =>
    refine Attempts.program ?_
    have hchosen {α : Type} (past : List Exchange) (what : String) (choice : Option α) :
        Attempts (fun _ effect => effect.events = []) anyEnding past
          (Chooser.chosen what choice) := by
      cases choice with
      | none => exact attempts_throw trivial
      | some a => exact attempts_pure trivial
    cases action with
    | checkStumbling | selectResponse | getGameState =>
      exact attempts_observe rfl fun state => attempts_pure trivial
    | playCard | selectPlayer | selectAttack | selectDiscardCards =>
      exact attempts_observe rfl fun state => hchosen _ _ _
    | drawCards | attackPlayer | defendAttack | handleStumbling | discard =>
      exact attempts_throw trivial

theorem sparesTable_crashing : crashing.SparesTable :=
  fun _ _ _ => Proceeds.ask rfl fun never => nomatch never

end Routine

variable {ρ : Type}

/-- What may happen to a session whose server is the host, and of its own accord does what it may
do: anybody may send what they like, participants may do what they like but to send events to the
table, and nobody else does. -/
def Move.IsHosted (serves : Routine ρ → Prop) : Move ρ → Prop
  | .start .server routine => serves routine
  | .start (.participant _) routine => routine.SparesTable
  | .apply _ => False
  | _ => True

/-- A walk or a job that sends no events to the table. -/
def Activity.SparesTable : Activity ρ → Prop
  | .walk _ routine => routine.SparesTable
  | .job _ _ routine => routine.SparesTable

theorem Activity.SparesTable.goes {activity later : Activity ρ} {history : List Exchange}
    (h : activity.SparesTable) (hgoes : activity.Goes history later) :
    (∀ exchange ∈ history, exchange.effect.events = []) ∧
      ∀ effect goOn, later.question? = some ⟨effect, goOn⟩ → effect.events = [] := by
  cases activity with
  | walk router routine =>
    refine ⟨fun exchange hmem => ?_, fun effect goOn => hgoes.may_walk (h [])⟩
    cases hgoes with
    | walk hgoes => exact ((h []).may_of_mem hgoes hmem).choose_spec
  | job number holder routine =>
    refine ⟨fun exchange hmem => ?_, fun effect goOn => hgoes.may_job (h [])⟩
    cases hgoes with
    | job hgoes => exact ((h []).may_of_mem hgoes hmem).choose_spec

/-- The walk of an action that has arrived from a player. -/
def Activity.carriesOut (id : PlayerId) (call : CallId) (action : Request) : Activity ρ :=
  .walk .server
    (Routine.delegated (.atTable Routine.access) (.ofServer id) (.participant id) call action).run

namespace Session

/-- The record of a session whose server is the host. -/
structure Hosted (serves : Routine ρ → Prop) (execute? : Party → Option (Executor Routine))
    (chronicle : Chronicle ρ) : Prop where
  server : execute? .server = some (.atTable Routine.access)
  participants : ∀ id execute, execute? (.participant id) = some execute → execute.SparesTable
  jobs : ∀ task job, .started task job ∈ chronicle →
    (∃ number routine, job = .job number .server routine ∧ serves routine) ∨ job.SparesTable

variable {serves : Routine ρ → Prop} {execute? : Party → Option (Executor Routine)}
  {chronicle : Chronicle ρ}

/-- **What a task may have begun as**: the walk of an action of a player, something that the server
does of its own accord, or something that sends no events to the table. -/
theorem Hosted.begins (h : Hosted serves execute? chronicle) {occurrence : Occurrence ρ}
    (hmem : occurrence ∈ chronicle) {task : Nat} {activity : Activity ρ}
    (hbegins : occurrence.Begins execute? task activity) :
    (∃ id origin call action,
      occurrence = .received (.ofServer id) (.delegate origin call action) task ∧
        activity = .carriesOut id call action) ∨
    (∃ number routine, occurrence = .started task activity ∧
      activity = .job number .server routine ∧ serves routine) ∨
    activity.SparesTable := by
  cases hbegins with
  | @walk place execute origin call action walk hexecute =>
    cases place with
    | ofServer id =>
      cases h.server.symm.trans hexecute
      exact .inl ⟨id, origin, call, action, rfl, rfl⟩
    | ofParticipant id =>
      exact .inr (.inr (Routine.sparesTable_delegated (h.participants id execute hexecute _ _)))
  | job =>
    obtain ⟨number, routine, hjob, hserves⟩ | hspares := h.jobs task activity hmem
    · exact .inr (.inl ⟨number, routine, rfl, hjob, hserves⟩)
    · exact .inr (.inr hspares)

/-- **The records of sessions whose server is the host.** -/
theorem hosted_of_run? {table : Table} {participants : List (PlayerId × Option (Executor Routine))}
    (hparticipants : ∀ participant ∈ participants, ∀ execute ∈ participant.2, execute.SparesTable)
    {moves : List (Move ρ)} (hmoves : ∀ move ∈ moves, move.IsHosted serves) {after : Session ρ}
    (hrun : (opened table (some (.atTable Routine.access)) participants).run? moves = some after) :
    let opening : Session ρ := opened table (some (.atTable Routine.access)) participants
    after.Chronicled table opening.execute? (opening.chronicle moves) ∧
      Hosted serves opening.execute? (opening.chronicle moves) := by
  intro opening
  refine ⟨chronicled_of_run? (fun move hmem event heq => ?_) hrun, rfl,
    fun id execute hexecute => ?_, fun task job hstarted => ?_⟩
  · have hhosted := hmoves move hmem
    rw [heq] at hhosted
    exact hhosted
  · obtain ⟨station, hstation, rfl⟩ := Option.map_eq_some_iff.mp hexecute
    obtain ⟨link, hlink, rfl⟩ := Option.map_eq_some_iff.mp hstation
    obtain ⟨participant, hmem, rfl⟩ := link?_opened hlink
    change Executor.SparesTable (participant.2.getD Routine.crashing)
    cases hsome : participant.2 with
    | none => exact Routine.sparesTable_crashing
    | some execute => exact hparticipants participant hmem execute hsome
  · obtain ⟨holder, routine, number, hstart, rfl⟩ := start_of_mem_chronicle hstarted
    have hhosted := hmoves _ hstart
    cases holder with
    | server => exact .inl ⟨number, routine, rfl, hhosted⟩
    | participant id => exact .inr hhosted

end Session

end RoundTable
