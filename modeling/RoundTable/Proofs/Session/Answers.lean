import RoundTable.Proofs.Session.Arrivals
import RoundTable.Proofs.Session.Followed
import RoundTable.Proofs.Session.Stories

/-!
# Actions that have been taken in are answered

A walk first carries out its action, and then it sends back once what has come of that, and there is
nothing else to it. So as long as nobody cuts its router short, a walk that has not sent anything
back is still there, and if only its answer is left to be sent, this waits for nothing but room at
the other end.

## Main definitions

* `Routine.answering`: what is left of a walk when its action has been carried out
* `Executor.IsReticent`: nothing is sent back while actions are carried out
* `Session.Progress`: how far the walk of an action has come
* `Session.Answering`: sessions of which the record says where the tasks are, and who was deaf
* `Session.Endless`: courses that go on for ever

## Main results

* `Routine.goes_delegated`: a walk carries out its action and then sends back the result
* `Executor.isReticent_atTable`, `Executor.isReticent_choosing`: the parties send back nothing else
* `Session.Answering.progress`: how far walks may have come
* `Session.Answering.exists_answer`: a walk that has only its answer to send sends it at some time
-/

namespace RoundTable

variable {ρ : Type}

namespace Routine

/-! ### One routine after another -/

/-- Either the first routine is still under way, or it is done and the second one has begun. -/
theorem Goes.bind_cases {α β : Type} {routine : Routine α} {next : α → Routine β}
    {history : List Exchange} {later : Routine β}
    (h : Goes (Interaction.bind routine next) history later) :
    (∃ left, Goes routine history left ∧ (∀ a, left ≠ Interaction.done a) ∧
      later = Interaction.bind left next) ∨
    ∃ told more a, history = told ++ more ∧ Goes routine told (Interaction.done a) ∧
      Goes (next a) more later := by
  induction routine generalizing history with
  | done a => exact .inr ⟨[], history, a, rfl, .here _, h⟩
  | ask effect goOn ih =>
    cases h with
    | here => exact .inl ⟨_, .here _, fun _ => nofun, rfl⟩
    | @ask _ _ answer history later rest =>
      obtain ⟨left, hgoes, hunfinished, rfl⟩ | ⟨told, more, a, rfl, hgoes, hmore⟩ := ih answer rest
      · exact .inl ⟨left, .ask hgoes, hunfinished, rfl⟩
      · exact .inr ⟨_ :: told, more, a, rfl, .ask hgoes, hmore⟩

/-! ### Walks -/

variable {execute : Executor Routine} {place : LinkEnd} {origin : Party} {call : CallId}
  {action : Request} {history : List Exchange}

/-- What is left of the walk of an action that has been carried out. -/
def answering (place : LinkEnd) (call : CallId) (result : Except Failure Reply) :
    Routine (Except Failure Unit) :=
  Interaction.ask (.send place (.result place.owner call (delivered result))) fun sent =>
    Interaction.done (walkEnded result sent)

theorem run_delegated_eq (execute : Executor Routine) (place : LinkEnd) (origin : Party)
    (call : CallId) (action : Request) :
    (delegated execute place origin call action).run =
      Interaction.bind (execute origin action).run (answering place call) := by
  refine congrArg (Interaction.bind _) (funext fun result => ?_)
  cases result with
  | ok value | error failure =>
    refine congrArg (Interaction.ask _) (funext fun sent => ?_)
    cases sent <;> rfl

/-- **A walk carries out its action and then sends back the result**, and that is all. -/
theorem goes_delegated {later : Routine (Except Failure Unit)}
    (h : (delegated execute place origin call action).run.Goes history later) :
    (∃ left, (execute origin action).run.Goes history left ∧
      (∀ result, left ≠ Interaction.done result) ∧
      later = Interaction.bind left (answering place call)) ∨
    (∃ result, (execute origin action).run.Goes history (Interaction.done result) ∧
      later = answering place call result) ∨
    ∃ told result sent, (execute origin action).run.Goes told (Interaction.done result) ∧
      history = told ++ [⟨.send place (.result place.owner call (delivered result)), sent⟩] ∧
      later = Interaction.done (walkEnded result sent) := by
  rw [run_delegated_eq] at h
  obtain ⟨left, hgoes, hunfinished, rfl⟩ | ⟨told, more, result, rfl, hgoes, hmore⟩ := h.bind_cases
  · exact .inl ⟨left, hgoes, hunfinished, rfl⟩
  · cases hmore with
    | here => exact .inr (.inl ⟨result, by rwa [List.append_nil], rfl⟩)
    | ask rest =>
      cases rest
      exact .inr (.inr ⟨told, result, _, hgoes, rfl, rfl⟩)

/-- A walk that is over has sent back what its action has come to, just before. -/
theorem done_of_goes_delegated {ended : Except Failure Unit}
    (h : (delegated execute place origin call action).run.Goes history (Interaction.done ended)) :
    ∃ told result sent, (execute origin action).run.Goes told (Interaction.done result) ∧
      history = told ++ [⟨.send place (.result place.owner call (delivered result)), sent⟩] ∧
      ended = walkEnded result sent := by
  obtain ⟨left, -, hunfinished, hleft⟩ | ⟨result, -, hleft⟩ |
    ⟨told, result, sent, hdone, hhistory, hleft⟩ := goes_delegated h
  · cases left with
    | done result => exact absurd rfl (hunfinished result)
    | ask => cases hleft
  · cases hleft
  · exact ⟨told, result, sent, hdone, hhistory, Interaction.done.inj hleft⟩

/-- A walk that breaks down does so while it carries out its action. -/
theorem crash_of_goes_delegated {next : Effect.crash.Answer → Routine (Except Failure Unit)}
    (h : (delegated execute place origin call action).run.Goes history
      (Interaction.ask .crash next)) :
    ∃ next', (execute origin action).run.Goes history (Interaction.ask .crash next') := by
  obtain ⟨left, hworking, hunfinished, hleft⟩ | ⟨result, -, hleft⟩ |
    ⟨told, result, sent, -, -, hleft⟩ := goes_delegated h
  · cases left with
    | done result => exact absurd rfl (hunfinished result)
    | ask =>
      cases hleft
      exact ⟨_, hworking⟩
  · cases hleft
  · cases hleft

/-- A walk that has ended with a fatal failure has failed to carry out its action. -/
theorem eq_error_of_walkEnded {result : Except Failure Reply} {sent : Bool} {failure : Failure}
    (h : walkEnded result sent = .error failure) (hfatal : failure.isFatal = true) :
    result = .error failure := by
  cases result with
  | ok value => cases sent <;> cases h; cases hfatal
  | error other =>
    rw [walkEnded] at h
    split at h
    · cases h
      rfl
    · cases sent <;> cases h; cases hfatal

end Routine

/-! ### Who sends back nothing else -/

/-- No result is sent with the question. -/
def Effect.IsReticent (effect : Effect) : Prop :=
  ∀ place origin call value, effect ≠ .send place (.result origin call value)

/-- Nothing is sent back while actions are carried out. -/
def Executor.IsReticent (execute : Executor Routine) : Prop :=
  ∀ origin action, Routine.Proceeds (fun _ effect => effect.IsReticent) Routine.anyEnding []
    (execute origin action).run

/-- Calls may be made and come to anything; besides, no result may be sent. -/
def Manners.reticent : Manners where
  calls _ := True
  spares effect := effect.IsReticent
  answers _ _ := True

theorem Manners.lenient_reticent : reticent.Lenient anyEnd anyFailure where
  observe _ _ _ _ := nofun
  apply _ _ _ _ _ := nofun
  applyOr _ _ _ _ _ _ := nofun
  confirm _ _ _ _ := nofun
  isLinked _ _ _ _ _ := nofun
  call _ action _ := Routine.orderly_call trivial action
  answer _ _ _ := sound_anyFailure _
  other _ _ := trivial

/-- A call sends no result, at none of its stages. -/
theorem Routine.Stands.isReticent {α : Type} {P : α → Prop} {routine : Routine α}
    {stage : CallStage} (h : Stands .reticent P routine stage) (past : List Exchange) :
    Proceeds (fun _ effect => effect.IsReticent) anyEnding past routine := by
  induction h generalizing past with
  | done => exact .done trivial
  | spare h _ ih => exact .ask h fun answer => ih answer _
  | number _ _ ih => exact .ask (fun _ _ _ _ => nofun) fun call => ih call _
  | register _ _ ihok iherror =>
    refine .ask (fun _ _ _ _ => nofun) fun registered => ?_
    cases registered with
    | ok => exact ihok _
    | error failure => exact iherror failure trivial _
  | send _ _ ihsent ihunsent =>
    refine .ask (fun _ _ _ _ => nofun) fun sent => ?_
    cases sent with
    | true => exact ihsent _
    | false => exact ihunsent _
  | await _ ih => exact .ask (fun _ _ _ _ => nofun) fun reply => ih reply trivial _
  | cancel _ ih => exact .ask (fun _ _ _ _ => nofun) fun _ => ih trivial _

/-- The server at the table sends back nothing else. -/
theorem Executor.isReticent_atTable : (Executor.atTable Routine.access).IsReticent :=
  fun origin action => (Routine.orderly_execute_atTable Manners.lenient_reticent
    (fun _ => trivial) origin action).isReticent []

/-- Nor does a participant who makes choices. -/
theorem Executor.isReticent_choosing (me : PlayerId) (chooser : Chooser) :
    (Executor.choosing (Routine.player me chooser)).IsReticent :=
  fun origin action => (Routine.orderly_execute_choosing Manners.lenient_reticent me chooser
    origin action).isReticent []

theorem Executor.IsReticent.filterMap_reply? {execute : Executor Routine} (h : execute.IsReticent)
    {origin : Party} {action : Request} {told : List Exchange}
    {left : Routine (Except Failure Reply)} (hgoes : (execute origin action).run.Goes told left) :
    told.filterMap Exchange.reply? = [] := by
  refine List.filterMap_eq_nil_iff.mpr fun exchange hmem => ?_
  obtain ⟨-, hmay⟩ := (h origin action).may_of_mem hgoes hmem
  cases hreply : exchange.reply? with
  | none => rfl
  | some value =>
    unfold Exchange.reply? at hreply
    split at hreply
    case h_1 => exact absurd rfl (hmay _ _ _ _)
    case h_2 => cases hreply

namespace Session

variable {before after session : Session ρ} {chronicle : Chronicle ρ} {move : Move ρ}
  {execute? : Party → Option (Executor Routine)} {place : LinkEnd} {command : Command}

/-! ### Who is deaf -/

/-- Where nobody listens any more nobody ever will. -/
theorem listens_of_reposed (h : Reposed before after) (hdeaf : before.listens place = false) :
    after.listens place = false := by
  cases h with
  | same hsame => exact (hsame.listens place).trans hdeaf
  | hungUp => rw [listens_hungUp, hdeaf, ite_self]
  | stopped => rwa [listens_modifyStation]
  | shut hshuts => rw [hshuts.listens, hdeaf, ite_self]

/-- What cannot be sent has nobody to listen to it. -/
theorem listens_of_push? (h : session.push? place command = some (after, false)) :
    session.listens place.opposite = false := by
  rw [push?] at h
  rw [listens]
  cases hdesk : session.desk? place.opposite with
  | none => rfl
  | some desk =>
    rw [hdesk] at h
    simp only [Option.any_some]
    by_contra hlistens
    simp only [Bool.not_eq_false] at hlistens
    dsimp only at h
    rw [if_pos hlistens] at h
    split at h <;> cases h

/-- An answer that is recorded was given, and what is recorded to be started is a job. -/
theorem of_occurrence? {occurrence : Occurrence ρ} (h : before.occurrence? move = some occurrence) :
    (∀ task exchange, occurrence = .answered task exchange →
      ∃ later, before.perform? exchange.effect = some (later, exchange.answer)) ∧
    ∀ task job, occurrence = .started task job → ∀ party, job.isWalkOf party = false := by
  cases move with
  | start holder routine =>
    cases h
    refine ⟨fun _ _ => nofun, ?_⟩
    rintro task job ⟨⟩ party
    rfl
  | step label =>
    cases label with
    | advance id =>
      obtain ⟨task, -, h⟩ := Option.bind_eq_some_iff.mp h
      obtain ⟨⟨effect, goOn⟩, -, h⟩ := Option.bind_eq_some_iff.mp h
      obtain ⟨⟨later, answer⟩, hperform, h⟩ := Option.bind_eq_some_iff.mp h
      cases h
      refine ⟨?_, fun _ _ => nofun⟩
      rintro _ _ ⟨⟩
      exact ⟨later, hperform⟩
    | receive place =>
      obtain ⟨desk, -, h⟩ := Option.bind_eq_some_iff.mp h
      obtain ⟨command, -, h⟩ := Option.bind_eq_some_iff.mp h
      cases h
      exact ⟨fun _ _ => nofun, fun _ _ => nofun⟩
    | join | hangUp | stop => cases h
  | _ => cases h

/-- A session in which parties carry out actions in the given ways, whose tasks are where the record
says, and in which nobody listens where something could not be sent. -/
structure Answering (execute? : Party → Option (Executor Routine)) (chronicle : Chronicle ρ)
    (session : Session ρ) : Prop extends Followed execute? chronicle session where
  jobs : ∀ task job, .started task job ∈ chronicle → ∀ party, job.isWalkOf party = false
  unheard : ∀ task place command, .answered task ⟨.send place command, false⟩ ∈ chronicle →
    session.listens place.opposite = false

theorem Answering.moved (h : before.Answering execute? chronicle)
    (hmove : before.move? move = some after) :
    after.Answering execute? (chronicle ++ (before.occurrence? move).toList) where
  toFollowed := h.toFollowed.moved hmove
  jobs task job hmem := by
    obtain hmem | hmem := List.mem_append.mp hmem
    · exact h.jobs task job hmem
    · exact (of_occurrence? (Option.mem_toList.mp hmem)).2 task job rfl
  unheard task place command hmem := by
    refine listens_of_reposed (reposed_of_move? hmove) ?_
    obtain hmem | hmem := List.mem_append.mp hmem
    · exact h.unheard task place command hmem
    · obtain ⟨later, hpush⟩ := (of_occurrence? (Option.mem_toList.mp hmem)).1 task _ rfl
      exact listens_of_push? hpush

/-- Nobody listens where the answer of a walk could not be sent. -/
theorem Answering.listens_eq (h : after.Answering execute? chronicle) {walk : Nat}
    {told : List Exchange} (hhistory : chronicle.history walk =
      told ++ [⟨.send place command, false⟩]) : after.listens place.opposite = false := by
  refine h.unheard walk place command (Chronicle.mem_history.mp ?_)
  rw [hhistory]
  exact List.mem_append_right _ (List.mem_singleton_self _)

theorem answering_opened (table : Table) (server : Option (Executor Routine))
    (participants : List (PlayerId × Option (Executor Routine))) :
    (opened table server participants : Session ρ).Answering
      (opened table server participants : Session ρ).execute? [] where
  toFollowed := followed_opened table server participants
  jobs _ _ hmem := absurd hmem List.not_mem_nil
  unheard _ _ _ hmem := absurd hmem List.not_mem_nil

/-! ### How far walks have come -/

/-- How far the walk of an action has come that has arrived at an end: it is being carried out; or
that is done, and what has come of it is about to be sent back; or it has been sent back, unless
nobody listens any more. As long as the router has not been cut short, a walk that has not sent
anything back is there. -/
inductive Progress (session : Session ρ) (execute : Executor Routine) (place : LinkEnd)
    (origin : Party) (call : CallId) (action : Request) (walk : Nat) : List Exchange → Prop where
  | working {history : List Exchange} {left : Routine (Except Failure Reply)}
    (goes : (execute (attributed place origin) action).run.Goes history left)
    (unfinished : ∀ result, left ≠ Interaction.done result)
    (there : session.IsWilling place.owner → ∃ task ∈ session.tasks, task.id = walk) :
    Progress session execute place origin call action walk history
  | returned {history : List Exchange} {result : Except Failure Reply}
    (goes : (execute (attributed place origin) action).run.Goes history (Interaction.done result))
    (there : session.IsWilling place.owner → ∃ task ∈ session.tasks, task.id = walk ∧
      task.activity = .walk place.owner (Routine.answering place call result)) :
    Progress session execute place origin call action walk history
  | answered {told : List Exchange} {result : Except Failure Reply} {sent : Bool}
    (goes : (execute (attributed place origin) action).run.Goes told (Interaction.done result))
    (gone : sent = false → session.listens place.opposite = false) :
    Progress session execute place origin call action walk
      (told ++ [⟨.send place (.result place.owner call (delivered result)), sent⟩])

variable {execute : Executor Routine} {origin : Party} {call : CallId} {action : Request}
  {walk : Nat} {result : Except Failure Reply}

/-- **How far walks may have come.** -/
theorem Answering.progress (h : after.Answering execute? chronicle)
    (hreceived : .received place (.delegate origin call action) walk ∈ chronicle)
    (hexecute : execute? place.owner = some execute) :
    after.Progress execute place origin call action walk (chronicle.history walk) := by
  have hbegins : Occurrence.Begins execute?
      (.received place (.delegate origin call action) walk : Occurrence ρ) walk
      (.walk place.owner
        (Routine.delegated execute place (attributed place origin) call action).run) :=
    .walk hexecute
  obtain ⟨later, hgoes, hlater⟩ := h.traced.goes _ hreceived walk _ hbegins
  cases hgoes with
  | @walk _ _ later _ hgoes =>
    -- a walk that is not there any more is done, if its router has not been cut short
    have hthere (hasks : ∀ result, later ≠ Interaction.done result)
        (hwilling : after.IsWilling place.owner) :
        ∃ task ∈ after.tasks, task.id = walk ∧ task.activity = .walk place.owner later := by
      obtain ⟨task, hmem, hid⟩ | ⟨ended, hended, hover⟩ | hcut :=
        h.traced.ends _ hreceived walk _ _ hbegins
      · exact ⟨task, hmem, hid, hlater task hmem hid⟩
      · obtain ⟨result, rfl, -⟩ := hover
        exact absurd (hended.eq_of_done hgoes) (hasks result)
      · exact absurd hwilling hcut
    obtain ⟨left, hleft, hunfinished, rfl⟩ | ⟨result, hdone, rfl⟩ |
      ⟨told, result, sent, hdone, hhistory, rfl⟩ := Routine.goes_delegated hgoes
    · refine .working hleft hunfinished fun hwilling => ?_
      cases left with
      | done result => exact absurd rfl (hunfinished result)
      | ask effect next =>
        obtain ⟨task, hmem, hid, -⟩ := hthere (fun _ => nofun) hwilling
        exact ⟨task, hmem, hid⟩
    · exact .returned hdone (hthere fun _ => nofun)
    · rw [hhistory]
      refine .answered hdone ?_
      rintro rfl
      exact h.listens_eq hhistory

/-- If an action has been carried out, and nothing happened since, its answer is about to be
sent. -/
theorem Progress.there_of_done {history : List Exchange}
    (h : session.Progress execute place origin call action walk history)
    (hdone : (execute (attributed place origin) action).run.Goes history (Interaction.done result))
    (hwilling : session.IsWilling place.owner) :
    ∃ task ∈ session.tasks, task.id = walk ∧
      task.activity = .walk place.owner (Routine.answering place call result) := by
  cases h with
  | working goes unfinished => exact absurd (hdone.eq_of_done goes) (unfinished result)
  | returned goes there =>
    cases hdone.eq_of_done goes
    exact there hwilling
  | answered goes => cases (goes.unique_of_done hdone).1

/-- Unless anything else is sent back, there is at most one answer. -/
theorem Progress.replies {history : List Exchange}
    (h : session.Progress execute place origin call action walk history)
    (hreticent : execute.IsReticent) : (history.filterMap Exchange.reply?).length ≤ 1 := by
  cases h with
  | working goes | returned goes => rw [hreticent.filterMap_reply? goes]; exact Nat.zero_le 1
  | answered goes =>
    rw [List.filterMap_append, hreticent.filterMap_reply? goes]
    exact Nat.le_refl 1

/-! ### Walks that wait for room -/

/-- A walk that has only its answer to send goes on to wait until it has sent that. -/
theorem Answering.waits (h : before.Answering execute? chronicle)
    (hreceived : .received place (.delegate origin call action) walk ∈ chronicle)
    (hexecute : execute? place.owner = some execute)
    (hdone : (execute (attributed place origin) action).run.Goes (chronicle.history walk)
      (Interaction.done result)) (hmove : before.move? move = some after) :
    (execute (attributed place origin) action).run.Goes
        (Chronicle.history (chronicle ++ (before.occurrence? move).toList) walk)
        (Interaction.done result) ∨
      ∃ sent, before.occurrence? move = some (.answered walk
        ⟨.send place (.result place.owner call (delivered result)), sent⟩) := by
  have hprogress := (h.moved hmove).progress (List.mem_append_left _ hreceived) hexecute
  cases hoccurrence : before.occurrence? move with
  | none =>
    rw [Option.toList_none, List.append_nil]
    exact .inl hdone
  | some occurrence =>
    rw [hoccurrence, Option.toList_some, Chronicle.history_concat] at hprogress
    rw [Option.toList_some, Chronicle.history_concat]
    cases hexchange : occurrence.exchangeOf? walk with
    | none =>
      rw [Option.toList_none, List.append_nil]
      exact .inl hdone
    | some exchange =>
      rw [hexchange, Option.toList_some] at hprogress
      generalize hlonger : chronicle.history walk ++ [exchange] = longer at hprogress
      cases hprogress with
      | working goes =>
        subst hlonger
        cases (hdone.unique_of_done goes).1
      | returned goes =>
        subst hlonger
        cases (hdone.unique_of_done goes).1
      | @answered told result' sent goes =>
        obtain ⟨rfl, hlast⟩ := List.append_inj' hlonger rfl
        cases hlast
        cases hdone.eq_of_done goes
        exact .inr ⟨sent, congrArg some (Occurrence.eq_answered hexchange)⟩

/-- Whether what is sent to an end is sent at once, if anybody listens there. -/
def hasRoom (session : Session ρ) (place : LinkEnd) : Bool :=
  (session.desk? place).all fun desk => !desk.isListening || desk.inbound.isNone

theorem isSome_push? (h : session.hasRoom place.opposite = true) (command : Command) :
    (session.push? place command).isSome = true := by
  rw [hasRoom] at h
  rw [push?]
  cases hdesk : session.desk? place.opposite with
  | none => rfl
  | some desk =>
    rw [hdesk, Option.all_some] at h
    dsimp only
    split
    · split
      · simp_all
      · rfl
    · rfl

variable {task : Task ρ} {effect : Effect} {goOn : effect.Answer → Activity ρ}

/-- A step of a task that asks something is that this is answered. -/
theorem exists_occurrence?_advance (htask : session.task? walk = some task)
    (hquestion : task.activity.question? = some ⟨effect, goOn⟩) (hcrash : effect ≠ .crash)
    (hstep : session.step? (.advance walk) = some after) :
    ∃ answer, session.occurrence? (.step (.advance walk)) =
      some (.answered walk ⟨effect, answer⟩) := by
  rw [step?, advance?_of_question? htask hquestion hcrash, answer?, perform?_withoutTask,
    Option.map_map] at hstep
  obtain ⟨⟨middle, answer⟩, hperform, -⟩ := Option.map_eq_some_iff.mp hstep
  exact ⟨answer, by simp [occurrence?, htask, hquestion, hperform]⟩

/-- A task that sends something can do so if there is room. -/
theorem isSome_step?_of_hasRoom {goOn : Bool → Activity ρ} (htask : session.task? walk = some task)
    (hquestion : task.activity.question? = some ⟨.send place command, goOn⟩)
    (hroom : session.hasRoom place.opposite = true) :
    (session.step? (.advance walk)).isSome = true := by
  rw [step?, advance?_of_question? htask hquestion (by simp), answer?, perform?_withoutTask,
    Option.isSome_map, Option.isSome_map]
  exact isSome_push? hroom command

/-! ### Courses that go on for ever -/

/-- A course of events from a session on that goes on for ever. -/
structure Endless (session : Session ρ) (moves : Nat → Move ρ) (course : Nat → Session ρ) :
    Prop where
  start : course 0 = session
  moved : ∀ n, (course n).move? (moves n) = some (course (n + 1))

/-- A step that is possible again and again is taken again and again. -/
def IsFairTo (label : Label) (moves : Nat → Move ρ) (course : Nat → Session ρ) : Prop :=
  (∀ n, ∃ m ≥ n, ((course m).step? label).isSome = true) → ∀ n, ∃ m ≥ n, moves m = .step label

variable {moves : Nat → Move ρ} {course : Nat → Session ρ}

/-- Until it sends its answer, a walk goes on to wait. -/
theorem Endless.waits (hcourse : session.Endless moves course)
    (h : session.Answering execute? chronicle)
    (hreceived : .received place (.delegate origin call action) walk ∈ chronicle)
    (hexecute : execute? place.owner = some execute)
    (hdone : (execute (attributed place origin) action).run.Goes (chronicle.history walk)
      (Interaction.done result))
    (hsilent : ∀ n sent, (course n).occurrence? (moves n) ≠ some (.answered walk
      ⟨.send place (.result place.owner call (delivered result)), sent⟩)) (n : Nat) :
    ∃ told, (course n).Answering execute? told ∧
      .received place (.delegate origin call action) walk ∈ told ∧
      (execute (attributed place origin) action).run.Goes (Chronicle.history told walk)
        (Interaction.done result) := by
  induction n with
  | zero => exact ⟨chronicle, hcourse.start ▸ h, hreceived, hdone⟩
  | succ n ih =>
    obtain ⟨told, hanswering, hmem, hgoes⟩ := ih
    refine ⟨_, hanswering.moved (hcourse.moved n), List.mem_append_left _ hmem, ?_⟩
    refine (hanswering.waits hmem hexecute hgoes (hcourse.moved n)).resolve_right ?_
    rintro ⟨sent, hanswer⟩
    exact hsilent n sent hanswer

/-- **A walk that has only its answer to send sends it at some time**, if the other end is free
again and again, the walk has its turns, and its router is not cut short. -/
theorem Answering.exists_answer (h : session.Answering execute? chronicle)
    (hreceived : .received place (.delegate origin call action) walk ∈ chronicle)
    (hexecute : execute? place.owner = some execute)
    (hdone : (execute (attributed place origin) action).run.Goes (chronicle.history walk)
      (Interaction.done result))
    (hcourse : session.Endless moves course) (hfair : IsFairTo (.advance walk) moves course)
    (hroom : ∀ n, ∃ m ≥ n, (course m).hasRoom place.opposite = true) :
    ∃ n, ¬(course n).IsWilling place.owner ∨ ∃ sent, (course n).occurrence? (moves n) =
      some (.answered walk
        ⟨.send place (.result place.owner call (delivered result)), sent⟩) := by
  by_contra hnever
  simp only [not_exists, not_or, not_not] at hnever
  have hthere (n : Nat) : ∃ task goOn, (course n).task? walk = some task ∧
      task.activity.question? =
        some ⟨.send place (.result place.owner call (delivered result)), goOn⟩ := by
    obtain ⟨told, hanswering, hmem, hgoes⟩ :=
      hcourse.waits h hreceived hexecute hdone (fun n => (hnever n).2) n
    obtain ⟨task, htask, rfl, hactivity⟩ :=
      (hanswering.progress hmem hexecute).there_of_done hgoes (hnever n).1
    exact ⟨task, _, task?_of_mem hanswering.recorded.distinct htask,
      congrArg Activity.question? hactivity⟩
  have hpossible (n : Nat) : ∃ m ≥ n, ((course m).step? (.advance walk)).isSome = true := by
    obtain ⟨m, hle, hfree⟩ := hroom n
    obtain ⟨task, goOn, htask, hquestion⟩ := hthere m
    exact ⟨m, hle, isSome_step?_of_hasRoom htask hquestion hfree⟩
  obtain ⟨m, -, hmove⟩ := hfair hpossible 0
  obtain ⟨task, goOn, htask, hquestion⟩ := hthere m
  have hstep := hcourse.moved m
  rw [hmove] at hstep
  obtain ⟨sent, hanswer⟩ := exists_occurrence?_advance htask hquestion (by simp) hstep
  exact (hnever m).2 sent (hmove ▸ hanswer)

end Session

end RoundTable
