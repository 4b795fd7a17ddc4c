import RoundTable.Proofs.Session.Losses

/-!
# What a move can do

A session has many kinds of moves, but there are few things that a move can do: answer a question
of a task, record the end of a job, let a router notice the end of a walk or take in a command,
start a job, send a command by hand or an event to the table; all others only lose something.

## Main definitions

* `Activity.question?`: the question that a walk or a job asks
* `Incident`, `Session.incident?`, `Session.log`: what happens to calls
* `Session.Stepped`, `Session.Moved`: what a step and what a move can do

## Main results

* `Session.stepped_of_step?`, `Session.moved_of_move?`: there is nothing else that they can do
* `Session.kept_of_run?`, `Session.logged_of_run?`: what each move keeps, all of them keep
-/

namespace RoundTable

/-! ### Incidents -/

/-- Something that happens to a call. -/
inductive Incident where
  /-- The call is let to wait for its result. -/
  | registered (place : LinkEnd) (call : CallId)
  /-- A result that arrives at an end is handed to the call. -/
  | delivered (place : LinkEnd) (call : CallId) (value : Reply)
  /-- The caller goes on with a result. -/
  | returned (place : LinkEnd) (call : CallId) (value : Reply)
  deriving DecidableEq

namespace Incident

/-- Where the caller sits. -/
def place : Incident → LinkEnd
  | registered place _ | delivered place _ _ | returned place _ _ => place

/-- The call. -/
def call : Incident → CallId
  | registered _ call | delivered _ call _ | returned _ call _ => call

/-- What happens to a call when a question is answered. -/
def ofAnswer? : (effect : Effect) → effect.Answer → Option Incident
  | .register place call, .ok () => some (registered place call)
  | .await place call, .ok value => some (returned place call value)
  | _, _ => none

end Incident

/-- The question that a walk or a job asks, and how it goes on with the answer. -/
def Activity.question? {ρ : Type} :
    Activity ρ → Option ((effect : Effect) × (effect.Answer → Activity ρ))
  | .walk router (Interaction.ask effect next) => some ⟨effect, fun a => .walk router (next a)⟩
  | .job number holder (Interaction.ask effect next) =>
    some ⟨effect, fun a => .job number holder (next a)⟩
  | _ => none

/-- To answer its question does not make a task the walk of another router. -/
theorem Activity.isWalkOf_of_question? {ρ : Type} {activity : Activity ρ} {effect : Effect}
    {goOn : effect.Answer → Activity ρ} (h : activity.question? = some ⟨effect, goOn⟩)
    (answer : effect.Answer) (party : Party) :
    (goOn answer).isWalkOf party = activity.isWalkOf party := by
  cases activity with
  | walk router routine | job number holder routine =>
    cases routine with
    | done => cases h
    | ask =>
      cases h
      rfl

namespace Session

variable {ρ : Type}

/-- What happens to a call in a move. -/
def incident? (session : Session ρ) : Move ρ → Option Incident
  | .step (.advance id) => do
    let task ← session.task? id
    let ⟨effect, _⟩ ← task.activity.question?
    let (_, answer) ← session.perform? effect
    Incident.ofAnswer? effect answer
  | .step (.receive place) => do
    let desk ← session.desk? place
    match desk.inbound with
    | some (.result _ call value) =>
      if desk.slot.live? = some call then some (.delivered place call value) else none
    | _ => none
  | _ => none

/-- What happens to calls in moves, in order. -/
def log (session : Session ρ) : List (Move ρ) → List Incident
  | [] => []
  | move :: moves =>
    (session.incident? move).toList ++
      match session.move? move with
      | some next => next.log moves
      | none => []

/-- A task whose question is not to break down is answered as soon as there is an answer. -/
theorem advance?_of_question? {session : Session ρ} {id : Nat} {task : Task ρ}
    (htask : session.task? id = some task) {effect : Effect} {goOn : effect.Answer → Activity ρ}
    (hquestion : task.activity.question? = some ⟨effect, goOn⟩) (hcrash : effect ≠ .crash) :
    session.advance? id = (session.withoutTask id).answer? task effect goOn := by
  rw [advance?, htask]
  obtain ⟨number, activity, pending⟩ := task
  cases activity with
  | walk router routine =>
    cases routine with
    | done result => cases hquestion
    | ask effect next =>
      cases hquestion
      cases effect <;> first | exact absurd rfl hcrash | rfl
  | job number holder routine =>
    cases routine with
    | done result => cases hquestion
    | ask effect next =>
      cases hquestion
      cases effect <;> first | exact absurd rfl hcrash | rfl

/-! ### What a step can do -/

/-- What has arrived at an end is taken away. -/
def taken (session : Session ρ) (place : LinkEnd) : Session ρ :=
  session.modifyDesk place fun desk => { desk with inbound := none }

theorem slot?_taken (session : Session ρ) (place other : LinkEnd) :
    (session.taken place).slot? other = session.slot? other :=
  slot?_modifyDesk session place other fun _ => rfl

/-- What a step does to a session, and when it is possible. -/
inductive Stepped (before : Session ρ) : Label → Session ρ → Prop where
  | answered {task : Task ρ} {effect : Effect} {goOn : effect.Answer → Activity ρ}
    {middle : Session ρ} {answer : effect.Answer} (found : before.task? task.id = some task)
    (asks : task.activity.question? = some ⟨effect, goOn⟩)
    (answers : (before.withoutTask task.id).perform? effect = some (middle, answer)) :
    Stepped before (.advance task.id)
      (middle.queueTask ⟨task.id, goOn answer, pendingAfter task.pending effect answer⟩)
  | ended {task : Task ρ} {number : Nat} {holder : Party} {result : ρ}
    (found : before.task? task.id = some task)
    (done : task.activity = .job number holder (Interaction.done result)) :
    Stepped before (.advance task.id)
      ((before.withoutTask task.id).endJob number (.result result))
  | brokeDown {task : Task ρ} {number : Nat} {holder : Party}
    {next : Effect.crash.Answer → Routine ρ} (found : before.task? task.id = some task)
    (crashes : task.activity = .job number holder (Interaction.ask .crash next)) :
    Stepped before (.advance task.id) ((before.withoutTask task.id).endJob number .aborted)
  | joined {task : Task ρ} {router : Party} {result : Except Failure Unit}
    (found : before.task? task.id = some task)
    (done : task.activity = .walk router (Interaction.done result)) :
    Stepped before (.join task.id) ((before.withoutTask task.id).join router result)
  | broken {task : Task ρ} {router : Party}
    {next : Effect.crash.Answer → Routine (Except Failure Unit)}
    (found : before.task? task.id = some task)
    (crashes : task.activity = .walk router (Interaction.ask .crash next)) :
    Stepped before (.join task.id)
      ((before.withoutTask task.id).shutRouter router (.ended (.error .crashed)))
  | delegated {place : LinkEnd} {station : Station} {desk : Desk} {origin : Party} {call : CallId}
    {action : Request} (hstation : before.station? place.owner = some station)
    (running : station.isRunning = true) (hdesk : before.desk? place = some desk)
    (listening : desk.isListening = true)
    (arrived : desk.inbound = some (.delegate origin call action)) :
    Stepped before (.receive place)
      ((before.taken place).spawn (.walk place.owner
        (Routine.delegated station.execute place (attributed place origin) call action).run))
  | resulted {place : LinkEnd} {desk : Desk} {origin : Party} {call : CallId} {value : Reply}
    (routing : before.isRouting place.owner = true) (hdesk : before.desk? place = some desk)
    (listening : desk.isListening = true)
    (arrived : desk.inbound = some (.result origin call value)) :
    Stepped before (.receive place)
      ((before.taken place).modifySlot place fun slot => (slot.deliver call value).1)
  | hungUp {place : LinkEnd} {desk : Desk} (hdesk : before.desk? place = some desk)
    (routing : before.isRouting place.owner = true) (listening : desk.isListening = true)
    (silent : before.speaks place.opposite = false) :
    Stepped before (.hangUp place) (before.modifyDesk place fun desk =>
      { desk with isListening := false, slot := desk.slot.close })
  | stopped {party : Party} (routing : before.isRouting party = true)
    (deaf : ∀ place ∈ before.endsOf party, (before.desk? place).any Desk.isListening = false)
    (idle : ∀ task ∈ before.tasks, task.activity.isWalkOf party = false) :
    Stepped before (.stop party)
      (before.modifyStation party fun station => { station with router := .ended (.ok ()) })

variable {before after : Session ρ}

theorem stepped_of_answer? {task : Task ρ} (htask : before.task? task.id = some task)
    {effect : Effect} {goOn : effect.Answer → Activity ρ}
    (hquestion : task.activity.question? = some ⟨effect, goOn⟩)
    (h : (before.withoutTask task.id).answer? task effect goOn = some after) :
    Stepped before (.advance task.id) after := by
  obtain ⟨⟨middle, answer⟩, hperform, rfl⟩ := Option.map_eq_some_iff.mp h
  exact .answered htask hquestion hperform

theorem stepped_of_advance? {id : Nat} (h : before.advance? id = some after) :
    Stepped before (.advance id) after := by
  obtain ⟨task, htask, h⟩ := Option.bind_eq_some_iff.mp h
  obtain ⟨-, rfl⟩ := mem_of_task? htask
  cases hactivity : task.activity with
  | walk router routine =>
    rw [hactivity] at h
    cases routine with
    | done result => cases h
    | ask effect next =>
      by_cases hcrash : effect = .crash
      · subst hcrash
        cases h
      · have hquestion : task.activity.question? =
            some ⟨effect, fun a => .walk router (next a)⟩ := by
          rw [hactivity]
          rfl
        refine stepped_of_answer? htask hquestion ?_
        cases effect <;> first | exact absurd rfl hcrash | exact h
  | job number holder routine =>
    rw [hactivity] at h
    cases routine with
    | done result =>
      cases h
      exact .ended htask hactivity
    | ask effect next =>
      by_cases hcrash : effect = .crash
      · subst hcrash
        cases h
        exact .brokeDown htask hactivity
      · have hquestion : task.activity.question? =
            some ⟨effect, fun a => .job number holder (next a)⟩ := by
          rw [hactivity]
          rfl
        refine stepped_of_answer? htask hquestion ?_
        cases effect <;> first | exact absurd rfl hcrash | exact h

theorem stepped_of_join? {id : Nat} (h : before.join? id = some after) :
    Stepped before (.join id) after := by
  obtain ⟨task, htask, h⟩ := Option.bind_eq_some_iff.mp h
  obtain ⟨-, rfl⟩ := mem_of_task? htask
  cases hactivity : task.activity with
  | job number holder routine =>
    rw [hactivity] at h
    cases h
  | walk router routine =>
    rw [hactivity] at h
    cases routine with
    | done result =>
      cases h
      exact .joined htask hactivity
    | ask effect next =>
      cases effect <;> cases h
      exact .broken htask hactivity

theorem stepped_of_receive? {place : LinkEnd} (h : before.receive? place = some after) :
    Stepped before (.receive place) after := by
  obtain ⟨station, hstation, h⟩ := Option.bind_eq_some_iff.mp h
  obtain ⟨desk, hdesk, h⟩ := Option.bind_eq_some_iff.mp h
  obtain ⟨command, harrived, h⟩ := Option.bind_eq_some_iff.mp h
  split at h
  case isFalse => cases h
  case isTrue hready =>
    cases h
    obtain ⟨hrunning, hlistening⟩ := Bool.and_eq_true_iff.mp hready
    cases command with
    | delegate origin call action => exact .delegated hstation hrunning hdesk hlistening harrived
    | result origin call value =>
      have hrouting : before.isRouting place.owner = true := by
        rw [isRouting, hstation]
        exact hrunning
      exact .resulted hrouting hdesk hlistening harrived

theorem stepped_of_hangUp? {place : LinkEnd} (h : before.hangUp? place = some after) :
    Stepped before (.hangUp place) after := by
  obtain ⟨desk, hdesk, h⟩ := Option.bind_eq_some_iff.mp h
  split at h
  case isFalse => cases h
  case isTrue hready =>
    cases h
    simp only [Bool.and_eq_true, Bool.not_eq_true'] at hready
    obtain ⟨⟨⟨hrouting, hlistening⟩, -⟩, hsilent⟩ := hready
    exact .hungUp hdesk hrouting hlistening hsilent

theorem stepped_of_stop? {party : Party} (h : before.stop? party = some after) :
    Stepped before (.stop party) after := by
  rw [stop?] at h
  split at h
  case isFalse => cases h
  case isTrue hready =>
    cases h
    simp only [Bool.and_eq_true, Bool.not_eq_true', List.any_eq_false] at hready
    obtain ⟨⟨hrouting, hdeaf⟩, hidle⟩ := hready
    exact .stopped hrouting (fun place hplace => Bool.eq_false_iff.mpr (hdeaf place hplace))
      fun task htask => Bool.eq_false_iff.mpr (hidle task htask)

/-- **There is nothing else that a step can do.** -/
theorem stepped_of_step? {label : Label} (h : before.step? label = some after) :
    Stepped before label after := by
  cases label with
  | advance id => exact stepped_of_advance? h
  | join id => exact stepped_of_join? h
  | receive place => exact stepped_of_receive? h
  | hangUp place => exact stepped_of_hangUp? h
  | stop party => exact stepped_of_stop? h

/-! ### What a move can do -/

/-- What a move can do to a session, and what happens to a call. -/
inductive Moved (before : Session ρ) : Move ρ → Option Incident → Session ρ → Prop where
  | answered {move : Move ρ} {task : Task ρ} {effect : Effect}
    {goOn : effect.Answer → Activity ρ} {middle : Session ρ} {answer : effect.Answer}
    (mem : task ∈ before.tasks) (asks : task.activity.question? = some ⟨effect, goOn⟩)
    (answers : (before.withoutTask task.id).perform? effect = some (middle, answer)) :
    Moved before move (Incident.ofAnswer? effect answer)
      (middle.queueTask ⟨task.id, goOn answer, pendingAfter task.pending effect answer⟩)
  | ended {move : Move ρ} {task : Task ρ} {number : Nat} {holder : Party} {result : ρ}
    (mem : task ∈ before.tasks)
    (done : task.activity = .job number holder (Interaction.done result)) :
    Moved before move none ((before.withoutTask task.id).endJob number (.result result))
  | joined {move : Move ρ} {task : Task ρ} {router : Party} {result : Except Failure Unit}
    (mem : task ∈ before.tasks) (done : task.activity = .walk router (Interaction.done result)) :
    Moved before move none ((before.withoutTask task.id).join router result)
  | delegated {place : LinkEnd} {station : Station} {desk : Desk} {origin : Party} {call : CallId}
    {action : Request} (hstation : before.station? place.owner = some station)
    (hdesk : before.desk? place = some desk)
    (arrived : desk.inbound = some (.delegate origin call action)) :
    Moved before (.step (.receive place)) none
      ((before.taken place).spawn (.walk place.owner
        (Routine.delegated station.execute place (attributed place origin) call action).run))
  | resulted {place : LinkEnd} {desk : Desk} {origin : Party} {call : CallId} {value : Reply}
    (hdesk : before.desk? place = some desk)
    (arrived : desk.inbound = some (.result origin call value)) :
    Moved before (.step (.receive place))
      (if desk.slot.live? = some call then some (.delivered place call value) else none)
      ((before.taken place).modifySlot place fun slot => (slot.deliver call value).1)
  | started {holder : Party} {routine : Routine ρ} :
    Moved before (.start holder routine) none (before.start holder routine).1
  | pushed {place : LinkEnd} {command : Command} {after : Session ρ} {sent : Bool}
    (h : before.push? place command = some (after, sent)) :
    Moved before (.send place command) none after
  | applied {event : GameEvent} :
    Moved before (.apply event) none (before.applyEvent event).1
  | lost {move : Move ρ} {after : Session ρ}
    (h : Loses (fun error => error = .crashed) before after) :
    Moved before move none after

theorem perform?_withoutTask (session : Session ρ) (id : Nat) (effect : Effect) :
    (session.withoutTask id).perform? effect =
      (session.perform? effect).map fun next => (next.1.withoutTask id, next.2) := by
  cases effect with
  | observe | apply | applyOr | confirm | isLinked | crash => rfl
  | number party => cases party <;> rfl
  | cancel place call => cases place <;> rfl
  | register place call =>
    simp only [perform?, register, desk?_withoutTask]
    cases session.desk? place with
    | none => rfl
    | some desk =>
      dsimp only
      cases desk.slot.register call with
      | error failure => rfl
      | ok slot => cases place <;> rfl
  | send place command =>
    simp only [perform?, push?, desk?_withoutTask]
    cases session.desk? place.opposite with
    | none => rfl
    | some desk =>
      dsimp only
      split
      · split
        · rfl
        · cases place <;> rfl
      · rfl
  | await place call =>
    simp only [perform?, desk?_withoutTask]
    cases session.desk? place with
    | none => rfl
    | some desk =>
      dsimp only
      cases desk.slot.answer? call <;> rfl

theorem moved_of_stepped {label : Label} (h : Stepped before label after) :
    Moved before (.step label) (before.incident? (.step label)) after := by
  cases h with
  | @answered task effect goOn middle answer found asks answers =>
    have hincident : before.incident? (.step (.advance task.id)) =
        Incident.ofAnswer? effect answer := by
      rw [perform?_withoutTask] at answers
      obtain ⟨⟨middle', answer'⟩, hperform, heq⟩ := Option.map_eq_some_iff.mp answers
      cases heq
      simp [incident?, found, asks, hperform]
    rw [hincident]
    exact .answered (mem_of_task? found).1 asks answers
  | @ended task number holder result found done =>
    have hincident : before.incident? (.step (.advance task.id)) = none := by
      simp [incident?, found, done, Activity.question?]
    rw [hincident]
    exact .ended (mem_of_task? found).1 done
  | @brokeDown task number holder next found crashes =>
    have hincident : before.incident? (.step (.advance task.id)) = none := by
      simp [incident?, found, crashes, Activity.question?, perform?]
    rw [hincident]
    exact .lost ((loses_withoutTask _ before task.id).trans (loses_endJob_aborted _ _ number))
  | joined found done => exact .joined (mem_of_task? found).1 done
  | @broken task router next found crashes =>
    refine .lost ((loses_withoutTask _ before task.id).trans (loses_shutRouter _ router ?_))
    rintro _ ⟨⟩
    rfl
  | @delegated place station desk origin call action hstation _ hdesk _ arrived =>
    have hincident : before.incident? (.step (.receive place)) = none := by
      simp [incident?, hdesk, arrived]
    rw [hincident]
    exact .delegated hstation hdesk arrived
  | @resulted place desk origin call value _ hdesk _ arrived =>
    have hincident : before.incident? (.step (.receive place)) =
        if desk.slot.live? = some call then some (.delivered place call value) else none := by
      simp [incident?, hdesk, arrived]
    rw [hincident]
    exact .resulted hdesk arrived
  | hungUp => exact .lost (loses_modifyDesk fun desk _ => ⟨.close desk.slot, fun _ h => h⟩)
  | stopped =>
    refine .lost (loses_modifyStation fun station => ⟨rfl, rfl, .inr fun error hended => ?_⟩)
    cases hended

/-- **There is nothing else that a move can do.** -/
theorem moved_of_move? {move : Move ρ} (h : before.move? move = some after) :
    Moved before move (before.incident? move) after := by
  cases move with
  | step label => exact moved_of_stepped (stepped_of_step? h)
  | start holder routine =>
    cases h
    exact .started
  | poll number =>
    cases h
    exact .lost (loses_poll _ before number)
  | cancel number =>
    cases h
    exact .lost (loses_cancelJobs _ before _)
  | send place command =>
    cases h
    rw [trySend]
    split
    case h_1 => exact .lost (.refl _ before)
    case h_2 hpush => exact .pushed hpush
    case h_3 hpush => exact .pushed hpush
  | take place =>
    cases h
    exact .lost (loses_tryReceive _ before place)
  | apply event =>
    cases h
    exact .applied
  | disconnect id =>
    cases h
    exact .lost (loses_leave _ before _)
  | stopServer =>
    cases h
    exact .lost ((loses_cancelJobs _ before _).trans (loses_leave _ _ _))

/-! ### One move after another -/

/-- The last move comes after all others. -/
theorem run?_concat {moves : List (Move ρ)} {move : Move ρ}
    (h : before.run? (moves ++ [move]) = some after) :
    ∃ middle, before.run? moves = some middle ∧ middle.move? move = some after := by
  induction moves generalizing before with
  | nil =>
    obtain ⟨middle, hmove, hrest⟩ := Option.bind_eq_some_iff.mp h
    cases hrest
    exact ⟨before, rfl, hmove⟩
  | cons first moves ih =>
    obtain ⟨next, hfirst, hrest⟩ := Option.bind_eq_some_iff.mp h
    obtain ⟨middle, hmoves, hmove⟩ := ih hrest
    exact ⟨middle, by rw [run?, hfirst, Option.bind_some, hmoves], hmove⟩

/-- What each of some moves keeps, all of them keep. -/
theorem kept_of_run? (keeps : Session ρ → Prop) {moves : List (Move ρ)}
    (hstep : ∀ move ∈ moves, ∀ {before after}, keeps before → before.move? move = some after →
      keeps after)
    (h : keeps before) (hrun : before.run? moves = some after) : keeps after := by
  induction moves generalizing before with
  | nil =>
    cases hrun
    exact h
  | cons move moves ih =>
    obtain ⟨middle, hmove, hrest⟩ := Option.bind_eq_some_iff.mp hrun
    exact ih (fun other hmem => hstep other (List.mem_cons_of_mem _ hmem))
      (hstep move List.mem_cons_self h hmove) hrest

/-- So it is with what is known of a session and of what has happened to calls. -/
theorem logged_of_run? (keeps : List Incident → Session ρ → Prop) {moves : List (Move ρ)}
    (hstep : ∀ move ∈ moves, ∀ {log before after}, keeps log before →
      before.move? move = some after → keeps (log ++ (before.incident? move).toList) after)
    {log : List Incident} (h : keeps log before) (hrun : before.run? moves = some after) :
    keeps (log ++ before.log moves) after := by
  induction moves generalizing before log with
  | nil =>
    cases hrun
    rw [Session.log, List.append_nil]
    exact h
  | cons move moves ih =>
    obtain ⟨middle, hmove, hrest⟩ := Option.bind_eq_some_iff.mp hrun
    rw [Session.log, hmove, ← List.append_assoc]
    exact ih (fun other hmem => hstep other (List.mem_cons_of_mem _ hmem))
      (hstep move List.mem_cons_self h hmove) hrest

end Session

end RoundTable
