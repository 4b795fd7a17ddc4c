import Mathlib.Data.List.Nodup
import RoundTable.Proofs.Session.Postures

/-!
# What has happened in a session

A session shows how things are and not how they came about. Here a record is kept beside it: which
questions of which tasks have been answered and how, what the routers have taken in, and which jobs
have been started. The rest of what happens to a session only passes: commands are put on their
way, and things are lost. The one thing that is never lost without notice is a walk, unless its
router has been cut short.

## Main definitions

* `Exchange`, `Occurrence`, `Chronicle`: questions with their answers, and what is recorded
* `Session.occurrence?`, `Session.chronicle`: the record of moves
* `Occurrence.Begins`: with what a task has begun
* `Session.Passes`, `Session.Occurs`: moves without and with an entry in the record

## Main results

* `Session.isWilling_of_move?`: a router that has been cut short stays so
* `Session.occurs_of_move?`: there is nothing else that a move can do
-/

namespace RoundTable

/-! ### Records -/

/-- A question that has been answered. -/
structure Exchange where
  /-- The question. -/
  effect : Effect
  /-- The answer. -/
  answer : effect.Answer

/-- Something that happens in a session. -/
inductive Occurrence (ρ : Type) where
  /-- A question of a task is answered. -/
  | answered (task : Nat) (exchange : Exchange)
  /-- A router takes in a command; if this is an action, the walk of the given number begins. -/
  | received (place : LinkEnd) (command : Command) (walk : Nat)
  /-- Somebody starts a job, which becomes the task of the given number. -/
  | started (task : Nat) (job : Activity ρ)

/-- What has happened in a session, in order. -/
abbrev Chronicle (ρ : Type) : Type := List (Occurrence ρ)

variable {ρ : Type}

/-- With this the task of a number begins to do something, if the parties carry out actions in the
given ways. -/
inductive Occurrence.Begins (execute? : Party → Option (Executor Routine)) :
    Occurrence ρ → Nat → Activity ρ → Prop where
  | walk {place : LinkEnd} {execute : Executor Routine} {origin : Party} {call : CallId}
    {action : Request} {walk : Nat} (h : execute? place.owner = some execute) :
    Begins execute? (.received place (.delegate origin call action) walk) walk
      (.walk place.owner
        (Routine.delegated execute place (Session.attributed place origin) call action).run)
  | job (task : Nat) (job : Activity ρ) : Begins execute? (.started task job) task job

namespace Session

/-- What is recorded of a move. -/
def occurrence? (session : Session ρ) : Move ρ → Option (Occurrence ρ)
  | .step (.advance id) => do
    let task ← session.task? id
    let ⟨effect, _⟩ ← task.activity.question?
    let (_, answer) ← session.perform? effect
    some (.answered id ⟨effect, answer⟩)
  | .step (.receive place) => do
    let desk ← session.desk? place
    let command ← desk.inbound
    some (.received place command session.spawned)
  | .start holder routine =>
    some (.started session.spawned (.job session.started holder routine))
  | _ => none

/-- The record of moves, in order. -/
def chronicle (session : Session ρ) : List (Move ρ) → Chronicle ρ
  | [] => []
  | move :: moves =>
    (session.occurrence? move).toList ++
      match session.move? move with
      | some next => next.chronicle moves
      | none => []

variable {before middle after session : Session ρ} {party : Party}

/-- What each of some moves keeps of a session and its record, all of them keep. -/
theorem recorded_of_run? (keeps : Chronicle ρ → Session ρ → Prop) {moves : List (Move ρ)}
    (hstep : ∀ move ∈ moves, ∀ {chronicle before after}, keeps chronicle before →
      before.move? move = some after →
        keeps (chronicle ++ (before.occurrence? move).toList) after)
    {chronicle : Chronicle ρ} (h : keeps chronicle before)
    (hrun : before.run? moves = some after) :
    keeps (chronicle ++ before.chronicle moves) after := by
  induction moves generalizing before chronicle with
  | nil =>
    cases hrun
    rw [Session.chronicle, List.append_nil]
    exact h
  | cons move moves ih =>
    obtain ⟨middle, hmove, hrest⟩ := Option.bind_eq_some_iff.mp hrun
    rw [Session.chronicle, hmove, ← List.append_assoc]
    exact ih (fun other hmem => hstep other (List.mem_cons_of_mem _ hmem))
      (hstep move List.mem_cons_self h hmove) hrest

/-! ### Routers that have been cut short -/

theorem isWilling_of_reposed (h : Reposed before after) (hwilling : after.IsWilling party) :
    before.IsWilling party := by
  cases h with
  | same hsame => exact hsame.isWilling.mp hwilling
  | @hungUp place routing absent =>
    rw [IsWilling, router?, hungUp, station?_modifyDesk] at hwilling
    exact hwilling
  | @stopped other routing deaf =>
    rw [IsWilling, router?_modifyStation] at hwilling
    split at hwilling
    case isTrue heq => exact heq ▸ .inl (router?_of_isRouting routing)
    case isFalse => exact hwilling
  | @shut _ other hshuts hcut =>
    by_cases heq : party = other
    · subst heq
      exact .inr (hcut.not_isWilling hwilling)
    · rwa [IsWilling, hshuts.router party heq] at hwilling

/-- A router that has been cut short stays so. -/
theorem isWilling_of_move? {move : Move ρ} (h : before.move? move = some after)
    (hwilling : after.IsWilling party) : before.IsWilling party :=
  isWilling_of_reposed (reposed_of_move? h) hwilling

theorem not_isWilling_shutRouter (session : Session ρ) (party : Party) {router : RouterState}
    (hrunning : router ≠ .running) (hstopped : router ≠ .ended (.ok ())) :
    ¬(session.shutRouter party router).IsWilling party := by
  rw [IsWilling, (shuts_shutRouter session party router).2]
  rintro (h | h)
  all_goals
    obtain ⟨_, -, rfl⟩ := Option.map_eq_some_iff.mp h
    contradiction

/-! ### What is dropped -/

theorem keeps_foldl_abandon (tasks : List (Task ρ)) (session : Session ρ) :
    (tasks.foldl abandon session).tasks = session.tasks ∧
      (tasks.foldl abandon session).spawned = session.spawned := by
  induction tasks generalizing session with
  | nil => exact ⟨rfl, rfl⟩
  | cons task tasks ih =>
    obtain ⟨htasks, hspawned⟩ := ih (session.abandon task)
    rw [List.foldl_cons, htasks, hspawned, abandon]
    split
    · exact ⟨tasks_modifyDesk _ _ _, spawned_modifyDesk _ _ _⟩
    · exact ⟨rfl, rfl⟩

theorem tasks_dropTasks (session : Session ρ) (drops : Activity ρ → Bool) :
    (session.dropTasks drops).tasks = session.tasks.filter fun task => !drops task.activity :=
  (keeps_foldl_abandon _ _).1

theorem spawned_dropTasks (session : Session ρ) (drops : Activity ρ → Bool) :
    (session.dropTasks drops).spawned = session.spawned :=
  (keeps_foldl_abandon _ _).2

theorem tasks_shutRouter (session : Session ρ) (party : Party) (router : RouterState) :
    (session.shutRouter party router).tasks =
      session.tasks.filter fun task => !task.activity.isWalkOf party := by
  obtain ⟨-, htasks, -⟩ := foldl_shut (session.endsOf party) session
  rw [shutRouter, tasks_dropTasks, tasks_modifyStation, htasks]

theorem spawned_shutRouter (session : Session ρ) (party : Party) (router : RouterState) :
    (session.shutRouter party router).spawned = session.spawned := by
  obtain ⟨-, -, -, hspawned, -⟩ := foldl_shut (session.endsOf party) session
  rw [shutRouter, spawned_dropTasks, spawned_modifyStation, hspawned]

theorem keeps_cancelJobs (session : Session ρ) (cancels : Activity ρ → Bool) :
    (session.cancelJobs cancels).tasks =
        session.tasks.filter (fun task => !cancels task.activity) ∧
      (session.cancelJobs cancels).spawned = session.spawned := by
  have hends (numbers : List Nat) (session : Session ρ) :
      (numbers.foldl (fun session number => session.endJob number .aborted) session).tasks =
          session.tasks ∧
        (numbers.foldl (fun session number => session.endJob number .aborted) session).spawned =
          session.spawned := by
    induction numbers generalizing session with
    | nil => exact ⟨rfl, rfl⟩
    | cons number numbers ih => exact ih (session.endJob number .aborted)
  obtain ⟨htasks, hspawned⟩ := hends
    (session.tasks.filterMap fun task =>
      if cancels task.activity then task.activity.jobNumber? else none) (session.dropTasks cancels)
  exact ⟨htasks.trans (tasks_dropTasks _ _), hspawned.trans (spawned_dropTasks _ _)⟩

theorem keeps_leave (session : Session ρ) (party : Party) :
    (session.leave party).tasks =
        (if session.isRouting party then
          session.tasks.filter fun task => !task.activity.isWalkOf party
        else session.tasks) ∧
      (session.leave party).spawned = session.spawned := by
  obtain ⟨-, htasks, -, hspawned, -⟩ := foldl_shut (session.endsOf party) session
  rw [leave, tasks_modifyStation, spawned_modifyStation]
  split
  · exact ⟨tasks_shutRouter _ _ _, spawned_shutRouter _ _ _⟩
  · exact ⟨htasks, hspawned⟩

/-! ### Walks that are kept -/

/-- No two tasks have the same number, and no task has a number that is still to come. -/
structure Numbered (session : Session ρ) : Prop where
  distinct : (session.tasks.map Task.id).Nodup
  lt_spawned : ∀ task ∈ session.tasks, task.id < session.spawned

theorem Numbered.eq_of_id (h : session.Numbered) {task other : Task ρ}
    (htask : task ∈ session.tasks) (hother : other ∈ session.tasks) (hid : task.id = other.id) :
    task = other :=
  List.inj_on_of_nodup_map h.distinct htask hother hid

theorem Numbered.mem_withoutTask (h : session.Numbered) {task other : Task ρ}
    (htask : task ∈ session.tasks) (hother : other ∈ session.tasks) (hne : other ≠ task) :
    other ∈ (session.withoutTask task.id).tasks := by
  refine List.mem_filter.mpr ⟨hother, ?_⟩
  exact bne_iff_ne.mpr fun hid => hne (h.eq_of_id hother htask hid)

end Session

/-- A walk has come to an end, and not because of a fatal failure. -/
def Routine.IsOver (routine : Routine (Except Failure Unit)) : Prop :=
  ∃ result, routine = Interaction.done result ∧
    ∀ failure, result = .error failure → failure.isFatal = false

namespace Session

variable {before middle after session : Session ρ} {party : Party}

/-- Every walk is still there, or over, or its router has been cut short. -/
def KeepsWalks (before after : Session ρ) : Prop :=
  ∀ task ∈ before.tasks, ∀ router routine, task.activity = .walk router routine →
    task ∈ after.tasks ∨ routine.IsOver ∨ ¬after.IsWilling router

theorem keepsWalks_of_tasks (h : after.tasks = before.tasks) : KeepsWalks before after :=
  fun _ hmem _ _ _ => .inl (h ▸ hmem)

theorem keepsWalks_of_filter {drops : Activity ρ → Bool}
    (hdrops : ∀ router routine, drops (.walk router routine) = false)
    (h : after.tasks = before.tasks.filter fun task => !drops task.activity) :
    KeepsWalks before after := by
  intro task hmem router routine hactivity
  rw [h]
  exact .inl (List.mem_filter.mpr ⟨hmem, by rw [hactivity, hdrops]; rfl⟩)

/-- Where only the walks of one router are dropped, that router has been cut short. -/
theorem keepsWalks_of_shut (hcut : ¬after.IsWilling party)
    (h : after.tasks = before.tasks.filter fun task => !task.activity.isWalkOf party) :
    KeepsWalks before after := by
  intro task hmem router routine hactivity
  by_cases heq : router = party
  · exact .inr (.inr (heq ▸ hcut))
  · rw [h]
    exact .inl (List.mem_filter.mpr ⟨hmem, by simp [hactivity, Activity.isWalkOf, heq]⟩)

theorem keepsWalks_shutRouter (session : Session ρ) (party : Party) {router : RouterState}
    (hrunning : router ≠ .running) (hstopped : router ≠ .ended (.ok ())) :
    KeepsWalks session (session.shutRouter party router) :=
  keepsWalks_of_shut (not_isWilling_shutRouter session party hrunning hstopped)
    (tasks_shutRouter session party router)

theorem keepsWalks_leave (session : Session ρ) (party : Party) :
    KeepsWalks session (session.leave party) := by
  have htasks := (keeps_leave session party).1
  cases hrouting : session.isRouting party with
  | false =>
    rw [hrouting, if_neg Bool.false_ne_true] at htasks
    exact keepsWalks_of_tasks htasks
  | true =>
    rw [hrouting, if_pos rfl] at htasks
    refine keepsWalks_of_shut (fun hwilling => ?_) htasks
    have hstopped := (shuts_leave session party).2.not_isWilling hwilling
    cases hstopped.symm.trans (router?_of_isRouting hrouting)

/-- A task is taken out, which is no walk or is over. -/
theorem Numbered.keepsWalks_withoutTask (h : session.Numbered) {task : Task ρ}
    (htask : task ∈ session.tasks)
    (hover : ∀ router routine, task.activity = .walk router routine → routine.IsOver) :
    KeepsWalks session (session.withoutTask task.id) := by
  intro other hother router routine hactivity
  by_cases heq : other = task
  · exact .inr (.inl (hover router routine (heq ▸ hactivity)))
  · exact .inl (h.mem_withoutTask htask hother heq)

/-- A task is taken out, and its router is cut short. -/
theorem Numbered.keepsWalks_broken (h : session.Numbered) {task : Task ρ}
    (htask : task ∈ session.tasks) {routine : Routine (Except Failure Unit)}
    (hactivity : task.activity = .walk party routine) {router : RouterState}
    (hrunning : router ≠ .running) (hstopped : router ≠ .ended (.ok ())) :
    KeepsWalks session ((session.withoutTask task.id).shutRouter party router) := by
  intro other hother router' routine' hother'
  by_cases heq : other = task
  · rw [heq, hactivity] at hother'
    cases hother'
    exact .inr (.inr (not_isWilling_shutRouter _ party hrunning hstopped))
  · exact keepsWalks_shutRouter _ party hrunning hstopped other
      (h.mem_withoutTask htask hother heq) router' routine' hother'

/-! ### What is not recorded -/

/-- Commands are put on their way, and things are lost. No task begins, nothing happens at the
table, and no result is handed to anybody. -/
structure Passes (before after : Session ρ) : Prop where
  table : after.table = before.table
  spawned : after.spawned = before.spawned
  tasks : after.tasks.Sublist before.tasks
  execute? : ∀ party, after.execute? party = before.execute? party
  handed : ∀ place,
    (after.slot? place).map Slot.handed = (before.slot? place).map Slot.handed
  walks : KeepsWalks before after

theorem Loses.passes {why : SessionError → Prop} (h : Loses why before after)
    (hspawned : after.spawned = before.spawned) (hwalks : KeepsWalks before after) :
    Passes before after where
  table := h.table
  spawned := hspawned
  tasks := h.tasks
  execute? party := by
    have hrel := h.station party
    rw [Session.execute?, Session.execute?]
    generalize before.station? party = earlier at hrel
    generalize after.station? party = later at hrel
    cases hrel with
    | none => rfl
    | some hloses => exact congrArg some hloses.execute
  handed place := by
    have hrel := h.desk place
    rw [slot?, slot?]
    generalize before.desk? place = earlier at hrel
    generalize after.desk? place = later at hrel
    cases hrel with
    | none => rfl
    | some hloses => exact congrArg some hloses.slot.handed
  walks := hwalks

theorem Passes.refl (session : Session ρ) : Passes session session :=
  (Loses.refl (fun _ => True) session).passes rfl (keepsWalks_of_tasks rfl)

theorem passes_push? {place : LinkEnd} {command : Command} {sent : Bool}
    (h : session.push? place command = some (after, sent)) : Passes session after := by
  obtain rfl | rfl := eq_of_push? h
  · exact .refl _
  · refine ⟨table_modifyDesk .., spawned_modifyDesk .., ?_, fun party => ?_, fun other => ?_, ?_⟩
    · rw [tasks_modifyDesk]
    · rw [execute?, station?_modifyDesk]
      rfl
    · exact congrArg _ (slot?_modifyDesk session place.opposite other fun _ => rfl)
    · exact keepsWalks_of_tasks (tasks_modifyDesk ..)

theorem spawned_poll (session : Session ρ) (number : Nat) :
    (session.poll number).1.spawned = session.spawned ∧
      (session.poll number).1.tasks = session.tasks := by
  rw [poll]
  split
  · exact ⟨rfl, rfl⟩
  · split <;> exact ⟨rfl, rfl⟩

theorem spawned_tryReceive (session : Session ρ) (place : LinkEnd) :
    (session.tryReceive place).1.spawned = session.spawned ∧
      (session.tryReceive place).1.tasks = session.tasks := by
  rw [tryReceive]
  split
  · exact ⟨spawned_modifyDesk .., tasks_modifyDesk ..⟩
  · exact ⟨rfl, rfl⟩

/-! ### What a move can do -/

/-- What a move can do to a session, and what is recorded of it. -/
inductive Occurs (before : Session ρ) : Option (Occurrence ρ) → Session ρ → Prop where
  | answered {task : Task ρ} {effect : Effect} {goOn : effect.Answer → Activity ρ}
    {middle : Session ρ} {answer : effect.Answer} (mem : task ∈ before.tasks)
    (asks : task.activity.question? = some ⟨effect, goOn⟩)
    (answers : (before.withoutTask task.id).perform? effect = some (middle, answer)) :
    Occurs before (some (.answered task.id ⟨effect, answer⟩))
      (middle.queueTask ⟨task.id, goOn answer, pendingAfter task.pending effect answer⟩)
  | delegated {place : LinkEnd} {station : Station} {desk : Desk} {origin : Party} {call : CallId}
    {action : Request} (hstation : before.station? place.owner = some station)
    (hdesk : before.desk? place = some desk)
    (arrived : desk.inbound = some (.delegate origin call action)) :
    Occurs before (some (.received place (.delegate origin call action) before.spawned))
      ((before.taken place).spawn (.walk place.owner
        (Routine.delegated station.execute place (attributed place origin) call action).run))
  | resulted {place : LinkEnd} {desk : Desk} {origin : Party} {call : CallId} {value : Reply}
    (hdesk : before.desk? place = some desk)
    (arrived : desk.inbound = some (.result origin call value)) :
    Occurs before (some (.received place (.result origin call value) before.spawned))
      ((before.taken place).modifySlot place fun slot => (slot.deliver call value).1)
  | started (holder : Party) (routine : Routine ρ) :
    Occurs before (some (.started before.spawned (.job before.started holder routine)))
      (before.start holder routine).1
  | passed {after : Session ρ} (passes : Passes before after) : Occurs before none after

theorem occurs_of_stepped (hnumbered : before.Numbered) {label : Label}
    (h : Stepped before label after) :
    Occurs before (before.occurrence? (.step label)) after := by
  cases h with
  | @answered task effect goOn middle answer found asks answers =>
    have hoccurrence : before.occurrence? (.step (.advance task.id)) =
        some (.answered task.id ⟨effect, answer⟩) := by
      rw [perform?_withoutTask] at answers
      obtain ⟨⟨middle', answer'⟩, hperform, heq⟩ := Option.map_eq_some_iff.mp answers
      cases heq
      simp [occurrence?, found, asks, hperform]
    rw [hoccurrence]
    exact .answered (mem_of_task? found).1 asks answers
  | @ended task number holder result found done =>
    have hoccurrence : before.occurrence? (.step (.advance task.id)) = none := by
      simp [occurrence?, found, done, Activity.question?]
    rw [hoccurrence]
    have hpasses : Passes before (before.withoutTask task.id) :=
      (loses_withoutTask (fun _ => True) before task.id).passes rfl
        (hnumbered.keepsWalks_withoutTask (mem_of_task? found).1 fun router routine hwalk => by
          cases done.symm.trans hwalk)
    refine .passed ⟨hpasses.table, hpasses.spawned, hpasses.tasks, fun party => ?_,
      fun place => ?_, fun other hother router routine hwalk => ?_⟩
    · rw [execute?, station?_endJob]
      exact hpasses.execute? party
    · rw [slot?, desk?_endJob]
      exact hpasses.handed place
    · obtain hmem | hover | hcut := hpasses.walks other hother router routine hwalk
      · exact .inl hmem
      · exact .inr (.inl hover)
      · exact .inr (.inr fun hwilling =>
          hcut ((SamePosture.endJob _ number _).isWilling.mp hwilling))
  | @brokeDown task number holder next found crashes =>
    have hoccurrence : before.occurrence? (.step (.advance task.id)) = none := by
      simp [occurrence?, found, crashes, Activity.question?, perform?]
    rw [hoccurrence]
    refine .passed (((loses_withoutTask (fun _ => True) before task.id).trans
      (loses_endJob_aborted _ _ number)).passes rfl ?_)
    exact hnumbered.keepsWalks_withoutTask (mem_of_task? found).1 fun router routine hwalk => by
      cases crashes.symm.trans hwalk
  | @joined task router result found done =>
    refine .passed ?_
    have hmem := (mem_of_task? found).1
    have hloses := (loses_withoutTask _ before task.id).trans
      (loses_join (before.withoutTask task.id) router result)
    have hover (hresult : ∀ failure, result = .error failure → failure.isFatal = false) :
        KeepsWalks before (before.withoutTask task.id) :=
      hnumbered.keepsWalks_withoutTask hmem fun router' routine hwalk => by
        cases done.symm.trans hwalk
        exact ⟨result, rfl, hresult⟩
    cases result with
    | ok => exact hloses.passes rfl (hover fun _ heq => by cases heq)
    | error failure =>
      cases hfatal : failure.isFatal with
      | false =>
        rw [join.eq_def] at hloses ⊢
        simp only [hfatal, Bool.false_eq_true, if_false] at hloses ⊢
        refine hloses.passes rfl (hover ?_)
        rintro _ ⟨⟩
        exact hfatal
      | true =>
        rw [join.eq_def] at hloses ⊢
        simp only [hfatal, if_true] at hloses ⊢
        exact hloses.passes (spawned_shutRouter _ _ _)
          (hnumbered.keepsWalks_broken hmem done (fun heq => by cases heq) fun heq => by cases heq)
  | @broken task router next found crashes =>
    refine .passed (((loses_withoutTask (fun _ => True) before task.id).trans
      (loses_shutRouter _ router fun _ _ => trivial)).passes (spawned_shutRouter _ _ _) ?_)
    exact hnumbered.keepsWalks_broken (mem_of_task? found).1 crashes (fun heq => by cases heq)
      fun heq => by cases heq
  | @delegated place station desk origin call action hstation _ hdesk _ arrived =>
    have hoccurrence : before.occurrence? (.step (.receive place)) =
        some (.received place (.delegate origin call action) before.spawned) := by
      simp [occurrence?, hdesk, arrived]
    rw [hoccurrence]
    exact .delegated hstation hdesk arrived
  | @resulted place desk origin call value _ hdesk _ arrived =>
    have hoccurrence : before.occurrence? (.step (.receive place)) =
        some (.received place (.result origin call value) before.spawned) := by
      simp [occurrence?, hdesk, arrived]
    rw [hoccurrence]
    exact .resulted hdesk arrived
  | @hungUp place =>
    have hloses : Loses (fun _ => True) before (before.hungUp place) :=
      loses_modifyDesk fun desk _ => ⟨.close desk.slot, fun _ h => h⟩
    exact .passed (hloses.passes (spawned_modifyDesk ..)
      (keepsWalks_of_tasks (tasks_modifyDesk ..)))
  | @stopped party =>
    have hloses : Loses (fun _ => True) before (before.modifyStation party fun station =>
        { station with router := .ended (.ok ()) }) :=
      loses_modifyStation fun station => ⟨rfl, rfl, .inr fun _ _ => trivial⟩
    exact .passed (hloses.passes (spawned_modifyStation ..)
      (keepsWalks_of_tasks (tasks_modifyStation ..)))

/-- **There is nothing else that a move can do**, as long as nobody acts at the table by hand. -/
theorem occurs_of_move? (hnumbered : before.Numbered) {move : Move ρ}
    (h : before.move? move = some after) (hmove : ∀ event, move ≠ .apply event) :
    Occurs before (before.occurrence? move) after := by
  cases move with
  | step label => exact occurs_of_stepped hnumbered (stepped_of_step? h)
  | start holder routine =>
    cases h
    exact .started holder routine
  | poll number =>
    cases h
    exact .passed ((loses_poll (fun _ => True) before number).passes (spawned_poll _ _).1
      (keepsWalks_of_tasks (spawned_poll _ _).2))
  | cancel number =>
    cases h
    exact .passed ((loses_cancelJobs (fun _ => True) before _).passes (keeps_cancelJobs _ _).2
      (keepsWalks_of_filter (fun _ _ => rfl) (keeps_cancelJobs _ _).1))
  | send place command =>
    cases h
    refine .passed ?_
    rw [trySend]
    split
    case h_1 => exact .refl before
    case h_2 hpush => exact passes_push? hpush
    case h_3 hpush => exact passes_push? hpush
  | take place =>
    cases h
    exact .passed ((loses_tryReceive (fun _ => True) before place).passes
      (spawned_tryReceive _ _).1 (keepsWalks_of_tasks (spawned_tryReceive _ _).2))
  | apply event => exact absurd rfl (hmove event)
  | disconnect id =>
    cases h
    exact .passed ((loses_leave (fun _ => True) before _).passes (keeps_leave _ _).2
      (keepsWalks_leave _ _))
  | stopServer =>
    cases h
    obtain ⟨htasks, hspawned⟩ := keeps_cancelJobs before fun activity => activity.isJobFor .server
    refine .passed (((loses_cancelJobs (fun _ => True) before _).trans
      (loses_leave _ _ _)).passes ((keeps_leave _ _).2.trans hspawned) ?_)
    intro task hmem router routine hactivity
    refine keepsWalks_leave _ _ task ?_ router routine hactivity
    rw [htasks]
    exact List.mem_filter.mpr ⟨hmem, by rw [hactivity]; rfl⟩

end Session

end RoundTable
