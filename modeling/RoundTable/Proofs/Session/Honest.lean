import RoundTable.Proofs.Session.Histories

/-!
# Participants who say who they are

A command says where it comes from, and a participant may lie about it. Every session has a twin in
which all that participants send says truly where it comes from, and all else is the same. Whatever
may happen in a session may happen in its twin, and the two remain twins.

## Main definitions

* `Command.saidBy`, `LinkEnd.honest`: commands about which a participant does not lie
* `Routine.honest`, `Executor.honest`, `Move.honest`: what parties do if they tell the truth
* `Session.honest`: the session in which everybody has told the truth

## Main results

* `Session.honest_move?`, `Session.honest_run?`: if everybody tells the truth, the same happens
* `Session.honest_opened`: how the twin of a session is opened
-/

namespace RoundTable

variable {ρ : Type}

/-! ### What is said -/

/-- The same command, said to come from somebody. -/
def Command.saidBy (origin : Party) : Command → Command
  | delegate _ call action => delegate origin call action
  | result _ call value => result origin call value

/-- A command that is sent from an end, with the truth about where it comes from if a participant
sends it. What the server says is left as it is. -/
def LinkEnd.honest : LinkEnd → Command → Command
  | ofServer _, command => command
  | ofParticipant id, command => command.saidBy (.participant id)

/-- The same routine, but whoever sends from the end of a participant says so. -/
def Routine.honest {α : Type} : Routine α → Routine α
  | Interaction.done result => Interaction.done result
  | Interaction.ask (Effect.send place command) next =>
    Interaction.ask (.send place (place.honest command)) fun sent => honest (next sent)
  | Interaction.ask effect next => Interaction.ask effect fun answer => honest (next answer)

/-- The same way to carry out actions, but with honest routines. -/
def Executor.honest (execute : Executor Routine) : Executor Routine :=
  fun origin action => ExceptT.mk (Routine.honest (execute origin action).run)

/-- The same walk or job, with an honest routine. -/
def Activity.honest : Activity ρ → Activity ρ
  | walk router routine => walk router routine.honest
  | job number holder routine => job number holder routine.honest

/-- The same task, with an honest routine. -/
def Task.honest (task : Task ρ) : Task ρ := { task with activity := task.activity.honest }

/-- The same party, which carries out actions honestly. -/
def Station.honest (station : Station) : Station :=
  { station with execute := station.execute.honest }

/-- What has arrived at an end was sent from the other one. -/
def Desk.honest (place : LinkEnd) (desk : Desk) : Desk :=
  { desk with inbound := desk.inbound.map place.opposite.honest }

/-- The same link, between honest parties. -/
def Link.honest (link : Link) : Link where
  id := link.id
  station := link.station.honest
  serverDesk := link.serverDesk.honest (.ofServer link.id)
  participantDesk := link.participantDesk.honest (.ofParticipant link.id)

/-- The session in which everybody has told the truth. -/
def Session.honest (session : Session ρ) : Session ρ :=
  { session with
    server := session.server.honest
    links := session.links.map Link.honest
    tasks := session.tasks.map Task.honest }

/-- The same move, but a participant who acts by hand tells the truth, and so do jobs. -/
def Move.honest : Move ρ → Move ρ
  | start holder routine => start holder routine.honest
  | send place command => send place (place.honest command)
  | move => move

/-! ### Routines -/

namespace Routine

variable {α β : Type}

theorem honest_bind (routine : Routine α) (next : α → Routine β) :
    Routine.honest (Interaction.bind routine next) =
      Interaction.bind routine.honest fun a => (next a).honest := by
  induction routine with
  | done a => rfl
  | ask effect goOn ih =>
    cases effect <;> exact congrArg (Interaction.ask _) (funext ih)

theorem honest_delegated (execute : Executor Routine) (place : LinkEnd) (origin : Party)
    (call : CallId) (action : Request) :
    Routine.honest (delegated execute place origin call action).run =
      (delegated execute.honest place origin call action).run := by
  have hsend (value : Reply) : place.honest (.result place.owner call value) =
      .result place.owner call value := by cases place <;> rfl
  refine (honest_bind _ _).trans (congrArg (Interaction.bind _) (funext fun result => ?_))
  cases result with
  | ok value =>
    show Interaction.ask (Effect.send place (place.honest (.result place.owner call value))) _ = _
    rw [hsend]
    refine congrArg (Interaction.ask _) (funext fun sent => ?_)
    cases sent <;> rfl
  | error failure =>
    show Interaction.ask (Effect.send place (place.honest (.result place.owner call _))) _ = _
    rw [hsend]
    refine congrArg (Interaction.ask _) (funext fun sent => ?_)
    cases sent <;> rfl

end Routine

/-! ### What one sees -/

@[simp]
theorem Activity.isWalkOf_honest (activity : Activity ρ) (party : Party) :
    activity.honest.isWalkOf party = activity.isWalkOf party := by
  cases activity <;> rfl

@[simp]
theorem Activity.isJobFor_honest (activity : Activity ρ) (party : Party) :
    activity.honest.isJobFor party = activity.isJobFor party := by
  cases activity <;> rfl

@[simp]
theorem Activity.jobNumber?_honest (activity : Activity ρ) :
    activity.honest.jobNumber? = activity.jobNumber? := by
  cases activity <;> rfl

@[simp]
theorem Activity.isJob_honest (activity : Activity ρ) (number : Nat) :
    activity.honest.isJob number = activity.isJob number := by
  rw [isJob, jobNumber?_honest, ← isJob]

namespace Session

variable (session : Session ρ)

@[simp]
theorem link?_honest (id : PlayerId) :
    session.honest.link? id = (session.link? id).map Link.honest :=
  List.find?_map ..

@[simp]
theorem station?_honest (party : Party) :
    session.honest.station? party = (session.station? party).map Station.honest := by
  cases party with
  | server => rfl
  | participant id =>
    simp only [station?, link?_honest, Option.map_map]
    rfl

@[simp]
theorem desk?_honest (place : LinkEnd) :
    session.honest.desk? place = (session.desk? place).map (Desk.honest place) := by
  have hid {id : PlayerId} {link : Link} (h : session.link? id = some link) : link.id = id := by
    simpa using List.find?_some h
  cases place with
  | ofServer id =>
    simp only [desk?, link?_honest, Option.map_map]
    cases hlink : session.link? id with
    | none => rfl
    | some link => simp [Link.honest, hid hlink]
  | ofParticipant id =>
    simp only [desk?, link?_honest, Option.map_map]
    cases hlink : session.link? id with
    | none => rfl
    | some link => simp [Link.honest, hid hlink]

@[simp]
theorem endsOf_honest (party : Party) : session.honest.endsOf party = session.endsOf party := by
  cases party with
  | server => exact (List.map_map ..).trans rfl
  | participant id => simp [endsOf]

@[simp]
theorem isRouting_honest (party : Party) :
    session.honest.isRouting party = session.isRouting party := by
  rw [isRouting, station?_honest, Option.any_map]
  rfl

@[simp]
theorem speaks_honest (place : LinkEnd) : session.honest.speaks place = session.speaks place := by
  rw [speaks, station?_honest, Option.any_map, speaks]
  congr 1
  simp [Session.honest, Task.honest, Function.comp_def]

@[simp]
theorem task?_honest (id : Nat) : session.honest.task? id = (session.task? id).map Task.honest :=
  List.find?_map ..

/-! ### What is changed -/

theorem honest_modifyLink (id : PlayerId) {change change' : Link → Link}
    (h : ∀ link, link.id = id → (change link).honest = change' link.honest) :
    (session.modifyLink id change).honest = session.honest.modifyLink id change' := by
  have hlinks : (session.modifyLink id change).links.map Link.honest =
      (session.honest.modifyLink id change').links := by
    simp only [modifyLink, Session.honest, List.map_map]
    refine List.map_congr_left fun link _ => ?_
    simp only [Function.comp_apply]
    by_cases hid : link.id = id
    · rw [if_pos hid, if_pos (show link.honest.id = id from hid), h link hid]
    · rw [if_neg hid, if_neg (show link.honest.id ≠ id from hid)]
  exact congrArg (fun links => { session.honest with links }) hlinks

theorem honest_modifyDesk (place : LinkEnd) {change change' : Desk → Desk}
    (h : ∀ desk, (change desk).honest place = change' (desk.honest place)) :
    (session.modifyDesk place change).honest = session.honest.modifyDesk place change' := by
  cases place with
  | ofServer id =>
    refine honest_modifyLink session id fun link hid => ?_
    subst hid
    simp [Link.honest, h]
  | ofParticipant id =>
    refine honest_modifyLink session id fun link hid => ?_
    subst hid
    simp [Link.honest, h]

theorem honest_modifySlot (place : LinkEnd) (change : Slot → Slot) :
    (session.modifySlot place change).honest = session.honest.modifySlot place change :=
  honest_modifyDesk session place fun _ => rfl

theorem honest_taken (place : LinkEnd) :
    (session.taken place).honest = session.honest.taken place :=
  honest_modifyDesk session place fun _ => rfl

theorem honest_modifyStation (party : Party) {change : Station → Station}
    (h : ∀ station, (change station).honest = change station.honest) :
    (session.modifyStation party change).honest = session.honest.modifyStation party change := by
  cases party with
  | server => simp [modifyStation, Session.honest, h]
  | participant id =>
    refine honest_modifyLink session id fun link _ => ?_
    simp [Link.honest, h]

theorem honest_withoutTask (id : Nat) :
    (session.withoutTask id).honest = session.honest.withoutTask id := by
  simp only [withoutTask, Session.honest, List.filter_map]
  rfl

theorem honest_queueTask (task : Task ρ) :
    (session.queueTask task).honest = session.honest.queueTask task.honest := by
  simp [queueTask, Session.honest]

theorem honest_spawn (activity : Activity ρ) :
    (session.spawn activity).honest = session.honest.spawn activity.honest :=
  honest_queueTask ..

theorem honest_abandon (task : Task ρ) :
    (session.abandon task).honest = session.honest.abandon task.honest := by
  obtain ⟨id, activity, pending⟩ := task
  cases pending with
  | none => rfl
  | some waits => exact honest_modifySlot ..

theorem honest_foldl_abandon (tasks : List (Task ρ)) :
    (tasks.foldl abandon session).honest =
      (tasks.map Task.honest).foldl abandon session.honest := by
  induction tasks generalizing session with
  | nil => rfl
  | cons task tasks ih => rw [List.foldl_cons, List.map_cons, List.foldl_cons, ih, honest_abandon]

theorem honest_dropTasks {drops : Activity ρ → Bool}
    (h : ∀ activity, drops activity.honest = drops activity) :
    (session.dropTasks drops).honest = session.honest.dropTasks drops := by
  have hfilter (keeps : Activity ρ → Bool)
      (hkeeps : ∀ activity, keeps activity.honest = keeps activity) :
      (session.tasks.filter fun task => keeps task.activity).map Task.honest =
        (session.tasks.map Task.honest).filter fun task => keeps task.activity := by
    rw [List.filter_map]
    simp [Function.comp_def, Task.honest, hkeeps]
  have hkept := hfilter (fun activity => !drops activity) fun activity => congrArg _ (h activity)
  rw [dropTasks, honest_foldl_abandon, hfilter drops h]
  refine congrArg (List.foldl abandon · _) ?_
  exact congrArg (fun tasks => { session.honest with tasks }) hkept

theorem honest_foldl_shut (places : List LinkEnd) :
    (places.foldl (fun session place => session.modifyDesk place Desk.shut) session).honest =
      places.foldl (fun session place => session.modifyDesk place Desk.shut) session.honest := by
  induction places generalizing session with
  | nil => rfl
  | cons place places ih =>
    have hshut : (session.modifyDesk place Desk.shut).honest =
        session.honest.modifyDesk place Desk.shut := honest_modifyDesk _ _ fun _ => rfl
    rw [List.foldl_cons, List.foldl_cons, ih, hshut]

theorem honest_shutRouter (party : Party) (router : RouterState) :
    (session.shutRouter party router).honest = session.honest.shutRouter party router := by
  rw [shutRouter, honest_dropTasks _ fun activity => activity.isWalkOf_honest party,
    honest_modifyStation _ party (by exact fun _ => rfl), honest_foldl_shut, shutRouter,
    endsOf_honest]

theorem honest_join (party : Party) (result : Except Failure Unit) :
    (session.join party result).honest = session.honest.join party result := by
  cases result with
  | ok => rfl
  | error failure =>
    simp only [join]
    split
    · exact honest_shutRouter ..
    · rfl

/-! ### What is answered -/

theorem honest_push? (place : LinkEnd) (command : Command) :
    session.honest.push? place (place.honest command) =
      (session.push? place command).map fun r => (r.1.honest, r.2) := by
  rw [push?, push?, desk?_honest]
  cases hdesk : session.desk? place.opposite with
  | none => rfl
  | some desk =>
    have hinbound : (desk.honest place.opposite).inbound.isSome = desk.inbound.isSome :=
      Option.isSome_map
    have hput : (session.modifyDesk place.opposite fun desk =>
        { desk with inbound := some command }).honest =
          session.honest.modifyDesk place.opposite fun desk =>
            { desk with inbound := some (place.honest command) } := by
      refine honest_modifyDesk _ _ fun desk => ?_
      simp [Desk.honest]
    simp only [Option.map_some, hinbound]
    show (if desk.isListening then _ else _) = _
    cases desk.isListening <;> cases desk.inbound.isSome <;> simp [hput]

theorem honest_register (place : LinkEnd) (call : CallId) :
    session.honest.register place call =
      ((session.register place call).1.honest, (session.register place call).2) := by
  rw [register, register, desk?_honest]
  cases hdesk : session.desk? place with
  | none => rfl
  | some desk =>
    simp only [Option.map_some, show (desk.honest place).slot = desk.slot from rfl]
    cases desk.slot.register call with
    | error failure => rfl
    | ok slot => simp only [honest_modifySlot]

/-- A question that sends nothing has the same answer. -/
theorem honest_perform? {effect : Effect} (h : ∀ place command, effect ≠ .send place command) :
    session.honest.perform? effect =
      (session.perform? effect).map fun r => (r.1.honest, r.2) := by
  cases effect with
  | observe | apply | applyOr | confirm | crash => rfl
  | isLinked id => simp [perform?]
  | number party =>
    have hstation : (session.honest.station? party).map Station.nextCall =
        (session.station? party).map Station.nextCall := by
      rw [station?_honest, Option.map_map]
      rfl
    rw [perform?, perform?, hstation, Option.map_some]
    dsimp only
    rw [honest_modifyStation _ party (by exact fun _ => rfl)]
  | register place call => simp only [perform?, honest_register, Option.map_some]
  | send place command => exact absurd rfl (h place command)
  | cancel place call => simp only [perform?, honest_modifySlot, Option.map_some]
  | await place call =>
    rw [perform?, perform?, desk?_honest]
    cases session.desk? place with
    | none => rfl
    | some desk =>
      simp only [Option.map_some, Option.map_map]
      rfl

/-! ### What happens -/

variable {session} {task : Task ρ}

theorem honest_answer? {effect : Effect} {goOn goOn' : effect.Answer → Activity ρ}
    (h : ∀ place command, effect ≠ .send place command)
    (hgoOn : ∀ answer, (goOn answer).honest = goOn' answer) :
    session.honest.answer? task.honest effect goOn' =
      (session.answer? task effect goOn).map Session.honest := by
  rw [answer?, answer?, honest_perform? session h, Option.map_map, Option.map_map]
  refine congrArg (Option.map · _) (funext fun r => ?_)
  simp only [Function.comp_apply, honest_queueTask]
  rw [← hgoOn]
  rfl

theorem honest_answer?_send {place : LinkEnd} {command : Command} {goOn goOn' : Bool → Activity ρ}
    (hgoOn : ∀ sent, (goOn sent).honest = goOn' sent) :
    session.honest.answer? task.honest (.send place (place.honest command)) goOn' =
      (session.answer? task (.send place command) goOn).map Session.honest := by
  rw [answer?, answer?, perform?, perform?, honest_push?, Option.map_map, Option.map_map]
  refine congrArg (Option.map · _) (funext fun r => ?_)
  simp only [Function.comp_apply, honest_queueTask]
  rw [← hgoOn]
  rfl

theorem task?_honest_of_some {id : Nat} (htask : session.task? id = some task) :
    session.honest.task? id = some task.honest := by
  rw [task?_honest, htask]
  rfl

/-- A task that asks something that is not sent is answered the same. -/
theorem honest_advance?_of_asks {id : Nat} (htask : session.task? id = some task)
    {effect : Effect} {goOn : effect.Answer → Activity ρ} (hcrash : effect ≠ .crash)
    (hsend : ∀ place command, effect ≠ .send place command)
    (hquestion : task.activity.question? = some ⟨effect, goOn⟩)
    (hquestion' : task.activity.honest.question? = some ⟨effect, fun a => (goOn a).honest⟩) :
    session.honest.advance? id = (session.advance? id).map Session.honest := by
  rw [advance?_of_question? htask hquestion hcrash,
    advance?_of_question? (task?_honest_of_some htask) hquestion' hcrash, ← honest_withoutTask]
  exact honest_answer? hsend fun _ => rfl

/-- A task that sends something sends the truth. -/
theorem honest_advance?_of_sends {id : Nat} (htask : session.task? id = some task)
    {place : LinkEnd} {command : Command} {goOn : Bool → Activity ρ}
    (hquestion : task.activity.question? = some ⟨.send place command, goOn⟩)
    (hquestion' : task.activity.honest.question? =
      some ⟨.send place (place.honest command), fun sent => (goOn sent).honest⟩) :
    session.honest.advance? id = (session.advance? id).map Session.honest := by
  rw [advance?_of_question? htask hquestion (by simp),
    advance?_of_question? (task?_honest_of_some htask) hquestion' (by simp), ← honest_withoutTask]
  exact honest_answer?_send fun _ => rfl

theorem honest_advance? (session : Session ρ) (id : Nat) :
    session.honest.advance? id = (session.advance? id).map Session.honest := by
  cases htask : session.task? id with
  | none =>
    rw [advance?, advance?, task?_honest, htask]
    rfl
  | some task =>
    have hhonest := task?_honest_of_some htask
    obtain ⟨number, activity, pending⟩ := task
    cases activity with
    | walk router routine =>
      cases routine with
      | done result =>
        rw [advance?, advance?, hhonest, htask]
        rfl
      | ask effect next =>
        cases effect with
        | send place command => exact honest_advance?_of_sends htask rfl rfl
        | crash =>
          rw [advance?, advance?, hhonest, htask]
          rfl
        | _ => exact honest_advance?_of_asks htask (by simp) (by simp) rfl rfl
    | job number holder routine =>
      cases routine with
      | done result =>
        rw [advance?, advance?, hhonest, htask, ← honest_withoutTask]
        rfl
      | ask effect next =>
        cases effect with
        | send place command => exact honest_advance?_of_sends htask rfl rfl
        | crash =>
          rw [advance?, advance?, hhonest, htask, ← honest_withoutTask]
          rfl
        | _ => exact honest_advance?_of_asks htask (by simp) (by simp) rfl rfl

theorem honest_join? (session : Session ρ) (id : Nat) :
    session.honest.join? id = (session.join? id).map Session.honest := by
  rw [join?, join?, task?_honest, ← honest_withoutTask]
  cases session.task? id with
  | none => rfl
  | some task =>
    obtain ⟨number, activity, pending⟩ := task
    cases activity with
    | walk router routine =>
      cases routine with
      | done result => exact congrArg some (honest_join ..).symm
      | ask effect next =>
        cases effect with
        | crash => exact congrArg some (honest_shutRouter ..).symm
        | _ => rfl
    | job number holder routine => rfl

/-- Where a command arrives, the truth about where it comes from is known already, or what it says
is not changed. -/
theorem honest_dispatch (session : Session ρ) (place : LinkEnd) (station : Station)
    (command : Command) :
    session.honest.dispatch place station.honest (place.opposite.honest command) =
      (session.dispatch place station command).honest := by
  cases command with
  | delegate origin call action =>
    rw [dispatch, honest_spawn, Activity.honest, Routine.honest_delegated]
    cases place <;> rfl
  | result origin call value =>
    rw [dispatch, honest_modifySlot]
    cases place <;> rfl

theorem honest_receive? (session : Session ρ) (place : LinkEnd) :
    session.honest.receive? place = (session.receive? place).map Session.honest := by
  rw [receive?, receive?, station?_honest, desk?_honest]
  cases session.station? place.owner with
  | none => rfl
  | some station =>
    cases session.desk? place with
    | none => rfl
    | some desk =>
      obtain ⟨slot, inbound, isListening⟩ := desk
      cases inbound with
      | none => rfl
      | some command =>
        show (if station.isRunning && isListening then _ else _) =
          Option.map _ (if station.isRunning && isListening then _ else _)
        cases station.isRunning && isListening with
        | false => rfl
        | true =>
          show some ((session.honest.taken place).dispatch ..) =
            some ((session.taken place).dispatch ..).honest
          rw [← honest_dispatch, honest_taken]

theorem honest_hangUp? (session : Session ρ) (place : LinkEnd) :
    session.honest.hangUp? place = (session.hangUp? place).map Session.honest := by
  have hhungUp : (session.modifyDesk place fun desk =>
      { desk with isListening := false, slot := desk.slot.close }).honest =
        session.honest.modifyDesk place fun desk =>
          { desk with isListening := false, slot := desk.slot.close } :=
    honest_modifyDesk _ _ fun _ => rfl
  rw [hangUp?, hangUp?, desk?_honest]
  cases session.desk? place with
  | none => rfl
  | some desk =>
    have hinbound : (desk.honest place).inbound.isNone = desk.inbound.isNone := by
      simp [Desk.honest]
    simp only [Option.map_some, Option.bind_eq_bind, Option.bind_some, isRouting_honest,
      speaks_honest, hinbound, ← hhungUp]
    show (if _ && desk.isListening && _ && _ then _ else _) = _
    split <;> rfl

theorem honest_stop? (session : Session ρ) (party : Party) :
    session.honest.stop? party = (session.stop? party).map Session.honest := by
  have hstopped : (session.modifyStation party fun station =>
      { station with router := .ended (.ok ()) }).honest =
        session.honest.modifyStation party fun station =>
          { station with router := .ended (.ok ()) } :=
    honest_modifyStation _ _ fun _ => rfl
  have hlistens (place : LinkEnd) : (session.honest.desk? place).any Desk.isListening =
      (session.desk? place).any Desk.isListening := by
    rw [desk?_honest, Option.any_map]
    rfl
  have hwalks : (session.honest.tasks.any fun task => task.activity.isWalkOf party) =
      session.tasks.any fun task => task.activity.isWalkOf party := by
    simp [Session.honest, Task.honest, Function.comp_def]
  simp only [stop?, endsOf_honest, isRouting_honest, hlistens, hwalks, ← hstopped]
  split <;> rfl

theorem honest_step? (session : Session ρ) (label : Label) :
    session.honest.step? label = (session.step? label).map Session.honest := by
  cases label with
  | advance task => exact honest_advance? session task
  | join task => exact honest_join? session task
  | receive place => exact honest_receive? session place
  | hangUp place => exact honest_hangUp? session place
  | stop party => exact honest_stop? session party

/-! ### What is done from outside -/

theorem honest_poll (session : Session ρ) (number : Nat) :
    (session.honest.poll number).1 = (session.poll number).1.honest := by
  have htasks : (session.honest.tasks.any fun task => task.activity.isJob number) =
      session.tasks.any fun task => task.activity.isJob number := by
    simp [Session.honest, Task.honest, Function.comp_def]
  rw [poll, poll, htasks, show session.honest.ends = session.ends from rfl]
  split
  · rfl
  · cases session.ends.find? fun e => e.1 == number <;> rfl

theorem honest_cancelJobs (session : Session ρ) {cancels : Activity ρ → Bool}
    (h : ∀ activity, cancels activity.honest = cancels activity) :
    (session.cancelJobs cancels).honest = session.honest.cancelJobs cancels := by
  have hends (numbers : List Nat) (session : Session ρ) :
      (numbers.foldl (fun session number => session.endJob number .aborted) session).honest =
        numbers.foldl (fun session number => session.endJob number .aborted) session.honest := by
    induction numbers generalizing session with
    | nil => rfl
    | cons number numbers ih => exact ih _
  have hnumbers : (session.honest.tasks.filterMap fun task =>
      if cancels task.activity then task.activity.jobNumber? else none) =
        session.tasks.filterMap fun task =>
          if cancels task.activity then task.activity.jobNumber? else none := by
    simp [Session.honest, Task.honest, List.filterMap_map, h]
  rw [cancelJobs, hends, honest_dropTasks session h, cancelJobs, hnumbers]

theorem honest_trySend (session : Session ρ) (place : LinkEnd) (command : Command) :
    (session.honest.trySend place (place.honest command)).1 =
      (session.trySend place command).1.honest := by
  rw [trySend, trySend, honest_push?]
  cases session.push? place command with
  | none => rfl
  | some r =>
    obtain ⟨later, sent⟩ := r
    cases sent <;> rfl

theorem honest_tryReceive (session : Session ρ) (place : LinkEnd) :
    (session.honest.tryReceive place).1 = (session.tryReceive place).1.honest := by
  rw [tryReceive, tryReceive, desk?_honest]
  cases session.desk? place with
  | none => rfl
  | some desk =>
    obtain ⟨slot, inbound, isListening⟩ := desk
    cases inbound with
    | none => rfl
    | some command => exact (honest_taken session place).symm

theorem honest_leave (session : Session ρ) (party : Party) :
    (session.leave party).honest = session.honest.leave party := by
  rw [leave, leave, isRouting_honest, honest_modifyStation _ party (by exact fun _ => rfl)]
  split
  · rw [honest_shutRouter]
  · rw [honest_foldl_shut, endsOf_honest]

/-- **If everybody tells the truth, the same happens.** -/
theorem honest_move? (session : Session ρ) (move : Move ρ) :
    session.honest.move? move.honest = (session.move? move).map Session.honest := by
  cases move with
  | step label => exact honest_step? session label
  | start holder routine =>
    exact congrArg some (honest_spawn { session with started := session.started + 1 }
      (.job session.started holder routine)).symm
  | poll number => exact congrArg some (honest_poll ..)
  | cancel number =>
    exact congrArg some (honest_cancelJobs _ fun activity => activity.isJob_honest number).symm
  | send place command => exact congrArg some (honest_trySend ..)
  | take place => exact congrArg some (honest_tryReceive ..)
  | apply event => rfl
  | disconnect id => exact congrArg some (honest_leave ..).symm
  | stopServer =>
    refine congrArg some ?_
    rw [stopServer, stopServer, honest_leave,
      honest_cancelJobs _ fun activity => activity.isJobFor_honest .server]

theorem honest_run? (session : Session ρ) (moves : List (Move ρ)) :
    session.honest.run? (moves.map Move.honest) = (session.run? moves).map Session.honest := by
  induction moves generalizing session with
  | nil => rfl
  | cons move moves ih =>
    rw [List.map_cons, run?, honest_move?, run?]
    cases session.move? move with
    | none => rfl
    | some next => exact ih next

theorem honest_opened (table : Table) (server : Option (Executor Routine))
    (participants : List (PlayerId × Option (Executor Routine))) :
    (opened table server participants : Session ρ).honest =
      opened table (server.map Executor.honest)
        (participants.map (Prod.map id (Option.map Executor.honest))) := by
  have hcrashing : Executor.honest Routine.crashing = Routine.crashing :=
    funext fun _ => funext fun _ =>
      congrArg (Interaction.ask Effect.crash) (funext fun never => nomatch never)
  have hstation (execute : Option (Executor Routine)) :
      (Station.opened execute).honest = .opened (execute.map Executor.honest) := by
    cases execute with
    | none => simp only [Station.honest, Station.opened, Option.getD_none, hcrashing]; rfl
    | some execute => rfl
  have hlink (participant : PlayerId × Option (Executor Routine)) :
      (openLink participant.1 participant.2).honest =
        openLink participant.1 (participant.2.map Executor.honest) := by
    simp only [openLink, Link.honest, hstation]
    rfl
  simp only [opened, Session.honest, hstation, List.map_map, List.map_nil]
  congr 1
  exact List.map_congr_left fun participant _ => hlink participant

end Session

end RoundTable
