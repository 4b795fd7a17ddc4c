import Mathlib.Data.List.Induction
import RoundTable.Proofs.Session.Answers
import RoundTable.Proofs.Session.Stranded
import RoundTable.Proofs.Table.Linearizable

/-!
# How routers come to an end

A router stops when nothing can arrive any more and no walk is left, and otherwise it goes on, until
its party leaves, or until one of its walks fails fatally or breaks down. The walk has sent back by
then what has come of its action, as far as there was somebody left to send it to. Any other failure
is an answer like others, and so nothing comes of an answer that nobody listens to.

That nothing can arrive any more is more than that the router does not listen: as long as it is at
work, it stops listening at an end only by hanging up there, and for that the other side must have
gone and everything that it has sent must have been taken in.

## Main definitions

* `Session.Manned`: sessions in which every walk has a router
* `Session.HasClosed`, `Session.HungUp`: ends at which nothing will arrive any more, and ends at
  which a router has hung up for that reason
* `Session.Retires`: what brings a router to an end
* `Session.Ends`: how that has come about, by the record

## Main results

* `Session.hungUp_of_run?`: a router that is at work stops listening by hanging up
* `Session.Manned.router?_of_move?`: nothing else brings a router to an end
* `Session.Attended.exists_ends`: how a router that has come to an end has come to it
* `Session.actions_answered`: every action that is taken in is answered
-/

namespace RoundTable

variable {ρ : Type}

/-- The move with which a party leaves. -/
def Move.leaving : Party → Move ρ
  | .server => stopServer
  | .participant id => disconnect id

namespace Session

variable {before middle after session : Session ρ} {party : Party} {move : Move ρ}
  {state : RouterState}

/-! ### Walks and their routers -/

/-- Every walk has a router that is at work. -/
def Manned (session : Session ρ) : Prop :=
  ∀ task ∈ session.tasks, ∀ party, task.activity.isWalkOf party = true →
    session.isRouting party = true

theorem isRouting_of_receive? {place : LinkEnd} (h : before.receive? place = some after) :
    before.isRouting place.owner = true := by
  cases stepped_of_receive? h with
  | delegated hstation running => rw [isRouting, hstation, Option.any_some, running]
  | resulted routing => exact routing

/-- The router of a walk that is there after a move was at work before it. -/
theorem Manned.isRouting (h : before.Manned) (hmove : before.move? move = some after)
    {task : Task ρ} (hmem : task ∈ after.tasks) (hwalk : task.activity.isWalkOf party = true) :
    before.isRouting party = true := by
  have hmoved := moved_of_move? hmove
  generalize before.incident? move = incident at hmoved
  cases hmoved with
  | @answered _ asker effect goOn middle answer mem asks answers =>
    obtain ⟨htasks, -, -⟩ := keeps_perform? answers
    obtain hmem | hmem := List.mem_append.mp hmem
    · rw [htasks] at hmem
      exact h task (List.mem_filter.mp hmem).1 party hwalk
    · rw [List.mem_singleton.mp hmem] at hwalk
      exact h asker mem party ((Activity.isWalkOf_of_question? asks answer party).symm.trans hwalk)
  | ended => exact h task (List.mem_filter.mp hmem).1 party hwalk
  | @joined _ other router result =>
    have hloses := (loses_withoutTask _ before other.id).trans (loses_join _ router result)
    exact h task (hloses.tasks.subset hmem) party hwalk
  | @delegated place =>
    have htasks : (before.taken place).tasks = before.tasks := tasks_modifyDesk ..
    obtain hmem | hmem := List.mem_append.mp hmem
    · exact h task (htasks ▸ hmem) party hwalk
    · rw [List.mem_singleton.mp hmem] at hwalk
      rw [← of_decide_eq_true hwalk]
      exact isRouting_of_receive? hmove
  | resulted =>
    rw [modifySlot, tasks_modifyDesk, taken, tasks_modifyDesk] at hmem
    exact h task hmem party hwalk
  | started =>
    obtain hmem | hmem := List.mem_append.mp hmem
    · exact h task hmem party hwalk
    · rw [List.mem_singleton.mp hmem] at hwalk
      cases hwalk
  | pushed hpush => exact h task ((passes_push? hpush).tasks.subset hmem) party hwalk
  | applied => exact h task hmem party hwalk
  | lost hloses => exact h task (hloses.tasks.subset hmem) party hwalk

/-! ### Ends that have been hung up -/

/-- Nothing will arrive at an end any more: nobody speaks at the other side, and whatever has
arrived was taken in. -/
structure HasClosed (session : Session ρ) (place : LinkEnd) : Prop where
  silent : session.speaks place.opposite = false
  drained : (session.desk? place).bind Desk.inbound = none

/-- One of the moves was to hang up at an end, where nothing would arrive any more. -/
def HungUp (start : Session ρ) (moves : List (Move ρ)) (place : LinkEnd) : Prop :=
  ∃ earlier later middle, moves = earlier ++ .step (.hangUp place) :: later ∧
    start.run? earlier = some middle ∧ middle.HasClosed place

theorem hasClosed_of_hangUp? {place : LinkEnd} (h : before.hangUp? place = some after) :
    before.HasClosed place := by
  obtain ⟨desk, hdesk, h⟩ := Option.bind_eq_some_iff.mp h
  split at h
  case isFalse => cases h
  case isTrue hready =>
    simp only [Bool.and_eq_true, Bool.not_eq_true', Option.isNone_iff_eq_none] at hready
    obtain ⟨⟨-, hempty⟩, hsilent⟩ := hready
    refine ⟨hsilent, ?_⟩
    rw [hdesk, Option.bind_some, hempty]

theorem Cut.not_isRouting (h : Cut party before after) : after.isRouting party = false := by
  refine Bool.eq_false_iff.mpr fun hrouting => ?_
  have hrunning := router?_of_isRouting hrouting
  cases h with
  | failed h => cases h.symm.trans hrunning
  | aborted _ h => cases h.symm.trans hrunning
  | kept routing h => cases routing.symm.trans (isRouting_of_router? (h.symm.trans hrunning))

/-- A router that is at work was at work before. -/
theorem Reposed.isRouting (h : Reposed before after) (hrouting : after.isRouting party = true) :
    before.isRouting party = true := by
  refine isRouting_of_router? ?_
  have hrunning := router?_of_isRouting hrouting
  cases h with
  | same hsame => exact (hsame.router party).symm.trans hrunning
  | hungUp =>
    rw [router?, Session.hungUp, station?_modifyDesk] at hrunning
    exact hrunning
  | @stopped other =>
    rw [router?_modifyStation] at hrunning
    split at hrunning
    case isTrue =>
      obtain ⟨router, -, hrouter⟩ := Option.map_eq_some_iff.mp hrunning
      cases hrouter
    case isFalse => exact hrunning
  | @shut _ other hshuts hcut =>
    by_cases heq : party = other
    · subst heq
      cases hcut.not_isRouting.symm.trans hrouting
    · exact (hshuts.router party heq).symm.trans hrunning

/-- Who shuts the ends of another party leaves those of a router that is at work. -/
theorem Shuts.listens_eq {place : LinkEnd} (hshuts : Shuts party before after)
    (hcut : Cut party before after) (hrouting : after.isRouting place.owner = true) :
    after.listens place = before.listens place := by
  rw [hshuts.listens, if_neg]
  rintro rfl
  cases hcut.not_isRouting.symm.trans hrouting

/-- A router that goes on stops listening at an end only by hanging up there. -/
theorem hangUp_of_move? {place : LinkEnd} (hmove : before.move? move = some after)
    (hrouting : after.isRouting place.owner = true) (hlistened : before.listens place = true)
    (hdeaf : after.listens place = false) :
    move = .step (.hangUp place) ∧ before.HasClosed place := by
  have hchanges (hsame : after.listens place = before.listens place) : False := by
    cases (hdeaf.symm.trans hsame).trans hlistened
  by_cases hquiet : move.isQuiet = true
  case pos => exact (hchanges ((samePosture_of_move? hmove hquiet).listens place)).elim
  cases move with
  | start | poll | cancel | send | take | apply => exact absurd rfl hquiet
  | disconnect id =>
    cases hmove
    obtain ⟨hshuts, hcut⟩ := shuts_leave before (.participant id)
    exact (hchanges (hshuts.listens_eq hcut hrouting)).elim
  | stopServer =>
    cases hmove
    obtain ⟨hshuts, hcut⟩ := shuts_leave
      (before.cancelJobs fun activity => activity.isJobFor .server) .server
    have hsame := SamePosture.cancelJobs before fun activity => activity.isJobFor .server
    exact (hchanges ((hshuts.after_same hsame).listens_eq (hcut.after_same hsame) hrouting)).elim
  | step label =>
    cases stepped_of_step? hmove with
    | answered | ended | brokeDown | delegated | resulted => exact absurd rfl hquiet
    | @joined task router result found done =>
      have hwithout := SamePosture.withoutTask before task.id
      cases result with
      | ok => exact (hchanges (hwithout.listens place)).elim
      | error failure =>
        rw [join.eq_def] at hchanges hrouting
        dsimp only at hchanges hrouting
        split at hrouting
        case isFalse hmild =>
          rw [if_neg hmild] at hchanges
          exact (hchanges (hwithout.listens place)).elim
        case isTrue hfatal =>
          rw [if_pos hfatal] at hchanges
          have hshuts := (shuts_shutRouter (before.withoutTask task.id) router
            (.ended (.error (.failed failure)))).1.after_same hwithout
          have hcut := (cut_shutRouter (before.withoutTask task.id) router
            (.failed failure)).after_same hwithout
          exact (hchanges (hshuts.listens_eq hcut hrouting)).elim
    | @broken task router next found crashes =>
      have hwithout := SamePosture.withoutTask before task.id
      have hshuts := (shuts_shutRouter (before.withoutTask task.id) router
        (.ended (.error .crashed))).1.after_same hwithout
      have hcut := (cut_shutRouter (before.withoutTask task.id) router .crashed).after_same hwithout
      exact (hchanges (hshuts.listens_eq hcut hrouting)).elim
    | @hungUp other =>
      have hlistens := listens_hungUp before other place
      by_cases heq : place = other
      · subst heq
        exact ⟨rfl, hasClosed_of_hangUp? hmove⟩
      · rw [if_neg heq] at hlistens
        exact (hchanges hlistens).elim
    | stopped => exact (hchanges (listens_modifyStation before _ _ place)).elim

theorem HungUp.append {start : Session ρ} {moves : List (Move ρ)} {place : LinkEnd}
    (h : start.HungUp moves place) (more : List (Move ρ)) : start.HungUp (moves ++ more) place := by
  obtain ⟨earlier, later, middle, rfl, hearlier, hclosed⟩ := h
  exact ⟨earlier, later ++ more, middle, by simp, hearlier, hclosed⟩

/-- A router that is at work does not listen any more only where it has hung up. -/
theorem hungUp_of_run? {start : Session ρ} {moves : List (Move ρ)} {place : LinkEnd}
    (hrun : start.run? moves = some after) (hrouting : after.isRouting place.owner = true)
    (hlistened : start.listens place = true) (hdeaf : after.listens place = false) :
    start.HungUp moves place := by
  induction moves using List.reverseRecOn generalizing after with
  | nil =>
    cases hrun
    cases hlistened.symm.trans hdeaf
  | append_singleton moves move ih =>
    obtain ⟨middle, hmoves, hmove⟩ := run?_concat hrun
    cases hlistens : middle.listens place with
    | true =>
      obtain ⟨rfl, hclosed⟩ := hangUp_of_move? hmove hrouting hlistens hdeaf
      exact ⟨moves, [], middle, rfl, hmoves, hclosed⟩
    | false =>
      have hbefore := (reposed_of_move? hmove).isRouting hrouting
      exact (ih hmoves hbefore hlistens).append [move]

theorem listens_opened {table : Table} {server : Option (Executor Routine)}
    {participants : List (PlayerId × Option (Executor Routine))} {place : LinkEnd}
    (h : place ∈ (opened table server participants : Session ρ).endsOf party) :
    (opened table server participants : Session ρ).listens place = true := by
  obtain ⟨desk, hdesk⟩ := Option.isSome_iff_exists.mp (mem_endsOf.mp h).2
  rw [listens, hdesk, desk?_opened hdesk]
  rfl

/-! ### What brings a router to an end -/

/-- What may bring the router of a party to an end. -/
inductive Retires (before : Session ρ) (party : Party) : Move ρ → RouterState → Prop where
  | failed {task : Task ρ} {failure : Failure} (mem : task ∈ before.tasks)
    (done : task.activity = .walk party (Interaction.done (.error failure)))
    (fatal : failure.isFatal = true) :
    Retires before party (.step (.join task.id)) (.ended (.error (.failed failure)))
  | crashed {task : Task ρ} {next : Effect.crash.Answer → Routine (Except Failure Unit)}
    (mem : task ∈ before.tasks)
    (crashes : task.activity = .walk party (Interaction.ask .crash next)) :
    Retires before party (.step (.join task.id)) (.ended (.error .crashed))
  | stopped (routing : before.isRouting party = true)
    (deaf : ∀ place, place.owner = party → before.listens place = false)
    (idle : ∀ task ∈ before.tasks, task.activity.isWalkOf party = false) :
    Retires before party (.step (.stop party)) (.ended (.ok ()))
  | left : Retires before party (.leaving party) .aborted

/-- A router comes to an end, and none of its walks is left. -/
structure Retired (before : Session ρ) (party : Party) (state : RouterState) (after : Session ρ) :
    Prop where
  router : after.router? party = some state
  walks : ∀ task ∈ after.tasks, task.activity.isWalkOf party = false

/-- A router is cut short, and the others go on. -/
theorem retired_shutRouter {router : Party} (hsame : SamePosture before middle)
    (hrouting : before.isRouting router = true) (state : RouterState) (party : Party) :
    (middle.shutRouter router state).router? party = before.router? party ∨
      router = party ∧ Retired before party state (middle.shutRouter router state) := by
  obtain ⟨hshuts, hrouter⟩ := shuts_shutRouter middle router state
  by_cases heq : router = party
  · subst heq
    refine .inr ⟨rfl, ⟨?_, fun task hmem => ?_⟩⟩
    · rw [hrouter, hsame.router, router?_of_isRouting hrouting, Option.map_some]
    · rw [tasks_shutRouter] at hmem
      simpa using (List.mem_filter.mp hmem).2
  · exact .inl ((hshuts.router party (Ne.symm heq)).trans (hsame.router party))

theorem retired_leave (hsame : SamePosture before middle) (leaver party : Party) :
    (middle.leave leaver).router? party = before.router? party ∨
      leaver = party ∧ Retired before party .aborted (middle.leave leaver) := by
  by_cases heq : leaver = party
  · subst heq
    have hrouter := router?_leave middle leaver
    cases hrouting : middle.isRouting leaver with
    | false =>
      rw [hrouting, if_neg Bool.false_ne_true] at hrouter
      exact .inl (hrouter.trans (hsame.router leaver))
    | true =>
      rw [hrouting, if_pos rfl] at hrouter
      refine .inr ⟨rfl, hrouter, fun task hmem => ?_⟩
      rw [(keeps_leave middle leaver).1, hrouting, if_pos rfl] at hmem
      simpa using (List.mem_filter.mp hmem).2
  · exact .inl (((shuts_leave middle leaver).1.router party (Ne.symm heq)).trans
      (hsame.router party))

/-- **Nothing else brings a router to an end.** -/
theorem Manned.router?_of_move? (h : before.Manned) (hmove : before.move? move = some after)
    (party : Party) :
    after.router? party = before.router? party ∨
      ∃ state, before.Retires party move state ∧ Retired before party state after := by
  by_cases hquiet : move.isQuiet = true
  case pos => exact .inl ((samePosture_of_move? hmove hquiet).router party)
  cases move with
  | start | poll | cancel | send | take | apply => exact absurd rfl hquiet
  | disconnect id =>
    cases hmove
    obtain hkept | ⟨rfl, hretired⟩ := retired_leave (.refl before) (.participant id) party
    · exact .inl hkept
    · exact .inr ⟨_, .left, hretired⟩
  | stopServer =>
    cases hmove
    obtain hkept | ⟨rfl, hretired⟩ := retired_leave
      (.cancelJobs before fun activity => activity.isJobFor .server) .server party
    · exact .inl hkept
    · exact .inr ⟨_, .left, hretired⟩
  | step label =>
    have hstepped := stepped_of_step? hmove
    cases hstepped with
    | answered | ended | brokeDown | delegated | resulted => exact absurd rfl hquiet
    | @joined task router result found done =>
      have hwithout := SamePosture.withoutTask before task.id
      obtain ⟨hmem, -⟩ := mem_of_task? found
      have hrouting : before.isRouting router = true :=
        h task hmem router (by rw [done]; exact decide_eq_true rfl)
      cases result with
      | ok => exact .inl (hwithout.router party)
      | error failure =>
        rw [join.eq_def]
        dsimp only
        split
        case isFalse => exact .inl (hwithout.router party)
        case isTrue hfatal =>
          obtain hkept | ⟨rfl, hretired⟩ := retired_shutRouter hwithout hrouting _ party
          · exact .inl hkept
          · exact .inr ⟨_, .failed hmem done hfatal, hretired⟩
    | @broken task router next found crashes =>
      obtain ⟨hmem, -⟩ := mem_of_task? found
      have hrouting : before.isRouting router = true :=
        h task hmem router (by rw [crashes]; exact decide_eq_true rfl)
      obtain hkept | ⟨rfl, hretired⟩ :=
        retired_shutRouter (.withoutTask before task.id) hrouting _ party
      · exact .inl hkept
      · exact .inr ⟨_, .crashed hmem crashes, hretired⟩
    | hungUp =>
      refine .inl ?_
      rw [router?, station?_modifyDesk]
      rfl
    | @stopped other routing deaf idle =>
      by_cases heq : party = other
      · subst heq
        refine .inr ⟨_, .stopped routing (listens_of_endsOf deaf) idle, ?_, fun task hmem => ?_⟩
        · rw [router?_modifyStation, if_pos rfl, router?_of_isRouting routing, Option.map_some]
        · rw [tasks_modifyStation] at hmem
          exact idle task hmem
      · rw [router?_modifyStation, if_neg heq]
        exact .inl rfl

theorem Manned.moved (h : before.Manned) (hmove : before.move? move = some after) :
    after.Manned := by
  intro task hmem party hwalk
  obtain hkept | ⟨state, -, hretired⟩ := h.router?_of_move? hmove party
  · refine isRouting_of_router? ?_
    rw [hkept]
    exact router?_of_isRouting (h.isRouting hmove hmem hwalk)
  · cases (hretired.walks task hmem).symm.trans hwalk

theorem manned_opened (table : Table) (server : Option (Executor Routine))
    (participants : List (PlayerId × Option (Executor Routine))) :
    (opened table server participants : Session ρ).Manned :=
  fun _ hmem => absurd hmem List.not_mem_nil

/-! ### How it has come about -/

/-- How a move brings the router of a party to an end, after some moves from the start: an action
that it had taken in has failed fatally, and the answer that says so was sent, unless nobody listens
any more; or the carrying out of an action has broken down; or the router has hung up at every end
at which its party sits, where nothing would arrive any more, and no walk is left; or the party
leaves. -/
inductive Ends (start : Session ρ) (past : List (Move ρ)) (before : Session ρ) (party : Party) :
    Move ρ → RouterState → Prop where
  | failed {place : LinkEnd} {execute : Executor Routine} {origin : Party} {call : CallId}
    {action : Request} {walk : Nat} {told : List Exchange} {failure : Failure} {sent : Bool}
    (owner : place.owner = party) (executes : start.execute? party = some execute)
    (received : .received place (.delegate origin call action) walk ∈ start.chronicle past)
    (goes : (execute (attributed place origin) action).run.Goes told
      (Interaction.done (.error failure)))
    (fatal : failure.isFatal = true)
    (answered : (start.chronicle past).history walk =
      told ++ [⟨.send place (.result party call (.failed failure.message)), sent⟩])
    (gone : sent = false → before.listens place.opposite = false) :
    Ends start past before party (.step (.join walk)) (.ended (.error (.failed failure)))
  | crashed {place : LinkEnd} {execute : Executor Routine} {origin : Party} {call : CallId}
    {action : Request} {walk : Nat} {next : Effect.crash.Answer → Routine (Except Failure Reply)}
    (owner : place.owner = party) (executes : start.execute? party = some execute)
    (received : .received place (.delegate origin call action) walk ∈ start.chronicle past)
    (goes : (execute (attributed place origin) action).run.Goes
      ((start.chronicle past).history walk) (Interaction.ask .crash next)) :
    Ends start past before party (.step (.join walk)) (.ended (.error .crashed))
  | stopped (closed : ∀ place ∈ start.endsOf party, start.HungUp past place)
    (idle : ∀ task ∈ before.tasks, task.activity.isWalkOf party = false) :
    Ends start past before party (.step (.stop party)) (.ended (.ok ()))
  | left : Ends start past before party (.leaving party) .aborted

variable {execute? : Party → Option (Executor Routine)} {chronicle : Chronicle ρ}

/-- A walk that is there carries out an action that has been taken in. -/
theorem Answering.exists_received (h : before.Answering execute? chronicle) {task : Task ρ}
    (hmem : task ∈ before.tasks) {later : Routine (Except Failure Unit)}
    (hactivity : task.activity = .walk party later) :
    ∃ place execute origin call action, place.owner = party ∧ execute? party = some execute ∧
      .received place (.delegate origin call action) task.id ∈ chronicle ∧
      (Routine.delegated execute place (attributed place origin) call action).run.Goes
        (chronicle.history task.id) later := by
  obtain ⟨occurrence, hoccurrence, activity, hbegins, hgoes⟩ := h.exists_begins hmem
  rw [hactivity] at hgoes
  generalize task.id = walk at hbegins hgoes ⊢
  cases hgoes with
  | @walk _ routine _ _ hgoes =>
    cases hbegins with
    | @walk place execute origin call action _ hexecute =>
      exact ⟨place, execute, origin, call, action, rfl, hexecute, hoccurrence, hgoes⟩
    | job => simpa [Activity.isWalkOf] using h.jobs _ _ hoccurrence party

/-- Whatever brings a router to an end has come about in one of these ways. -/
theorem Answering.ends {start : Session ρ} {past : List (Move ρ)}
    (h : before.Answering start.execute? (start.chronicle past))
    (hrun : start.run? past = some before)
    (hlistens : ∀ place ∈ start.endsOf party, start.listens place = true)
    (hretires : before.Retires party move state) : start.Ends past before party move state := by
  cases hretires with
  | stopped routing deaf idle =>
    refine .stopped (fun place hmem => ?_) idle
    have howner := (mem_endsOf.mp hmem).1
    exact hungUp_of_run? hrun (howner ▸ routing) (hlistens place hmem) (deaf place howner)
  | left => exact .left
  | @failed task failure mem done fatal =>
    obtain ⟨place, execute, origin, call, action, rfl, hexecute, hreceived, hgoes⟩ :=
      h.exists_received mem done
    obtain ⟨told, result, sent, hdone, hhistory, hended⟩ := Routine.done_of_goes_delegated hgoes
    cases Routine.eq_error_of_walkEnded hended.symm fatal
    refine .failed rfl hexecute hreceived hdone fatal hhistory ?_
    rintro rfl
    exact h.listens_eq hhistory
  | @crashed task next mem crashes =>
    obtain ⟨place, execute, origin, call, action, rfl, hexecute, hreceived, hgoes⟩ :=
      h.exists_received mem crashes
    obtain ⟨next', hworking⟩ := Routine.crash_of_goes_delegated hgoes
    exact .crashed rfl hexecute hreceived hworking

/-! ### From the beginning to the end -/

/-- A session whose walks are where the record says, and have routers that are at work. -/
structure Attended (execute? : Party → Option (Executor Routine)) (chronicle : Chronicle ρ)
    (session : Session ρ) : Prop extends Answering execute? chronicle session where
  manned : session.Manned

theorem Attended.moved (h : before.Attended execute? chronicle)
    (hmove : before.move? move = some after) :
    after.Attended execute? (chronicle ++ (before.occurrence? move).toList) :=
  ⟨h.toAnswering.moved hmove, h.manned.moved hmove⟩

theorem attended_opened (table : Table) (server : Option (Executor Routine))
    (participants : List (PlayerId × Option (Executor Routine))) :
    (opened table server participants : Session ρ).Attended
      (opened table server participants : Session ρ).execute? [] :=
  ⟨answering_opened table server participants, manned_opened table server participants⟩

theorem Attended.run? {moves : List (Move ρ)} (h : before.Attended execute? chronicle)
    (hrun : before.run? moves = some after) :
    after.Attended execute? (chronicle ++ before.chronicle moves) :=
  recorded_of_run? (Attended execute?) (fun _ _ _ _ _ h hmove => h.moved hmove) h hrun

/-- With a move a router goes on as it is, or comes to an end in one of the known ways. -/
theorem Attended.ends_of_move? {start : Session ρ} {past : List (Move ρ)}
    (h : before.Attended start.execute? (start.chronicle past))
    (hrun : start.run? past = some before)
    (hlistens : ∀ place ∈ start.endsOf party, start.listens place = true)
    (hmove : before.move? move = some after) :
    after.router? party = before.router? party ∨
      ∃ state, start.Ends past before party move state ∧ after.router? party = some state := by
  obtain hkept | ⟨state, hretires, hretired⟩ := h.manned.router?_of_move? hmove party
  · exact .inl hkept
  · exact .inr ⟨state, h.ends hrun hlistens hretires, hretired.router⟩

/-- **How a router that has come to an end has come to it**: with one of the moves, in one of the
known ways. -/
theorem Attended.exists_ends {start : Session ρ} {moves : List (Move ρ)}
    (h : start.Attended start.execute? []) (hrun : start.run? moves = some after)
    (hlistens : ∀ place ∈ start.endsOf party, start.listens place = true) :
    after.router? party = start.router? party ∨
      ∃ earlier move later middle state, moves = earlier ++ move :: later ∧
        start.run? earlier = some middle ∧ start.Ends earlier middle party move state ∧
        after.router? party = some state := by
  induction moves using List.reverseRecOn generalizing after with
  | nil =>
    cases hrun
    exact .inl rfl
  | append_singleton moves last ih =>
    obtain ⟨middle, hmoves, hmove⟩ := run?_concat hrun
    obtain hsame | ⟨state, hends, hrouter⟩ :=
      (h.run? hmoves).ends_of_move? hmoves hlistens hmove
    · obtain hkept | ⟨earlier, move, later, before, state, rfl, hearlier, hends, hrouter⟩ :=
        ih hmoves
      · exact .inl (hsame.trans hkept)
      · exact .inr ⟨earlier, move, later ++ [last], before, state, by simp, hearlier, hends,
          hsame.trans hrouter⟩
    · exact .inr ⟨moves, last, [], middle, state, rfl, hmoves, hends, hrouter⟩

/-- **Every action that is taken in is answered.** The walk of an action is carrying it out, or has
nothing left to do but to send its answer, or has sent it, unless nobody listens any more; and it
sends one answer only, which is what has come of the action, or what is said of its failure. A walk
that has only its answer to send sends it at some time, unless its router is cut short. With a move
the router of a party goes on as it is, unless an action has failed fatally that it had taken in,
and the answer has been sent or nobody listens to it any more, or the carrying out of an action has
broken down, or the party leaves, or no walk is left and the router has hung up at every end at
which its party sits: at that time nobody spoke any more at the other side of the link, and nothing
had been left in it. A router that has come to an end has done so with one of the moves, in one of
these ways. -/
theorem actions_answered {table : Table} {server : Option (Executor Routine)}
    {participants : List (PlayerId × Option (Executor Routine))} {moves : List (Move ρ)}
    (hrun : (opened table server participants).run? moves = some after) :
    let session : Session ρ := opened table server participants
    let chronicle := session.chronicle moves
    (∀ place origin call action walk,
      .received place (.delegate origin call action) walk ∈ chronicle →
      ∃ execute, session.execute? place.owner = some execute ∧
        after.Progress execute place origin call action walk (chronicle.history walk) ∧
        (execute.IsReticent → ((chronicle.history walk).filterMap Exchange.reply?).length ≤ 1) ∧
        ∀ result, (execute (attributed place origin) action).run.Goes (chronicle.history walk)
            (Interaction.done result) →
          ∀ ahead course, after.Endless ahead course → IsFairTo (.advance walk) ahead course →
            (∀ n, ∃ m ≥ n, (course m).hasRoom place.opposite = true) →
            ∃ n, ¬(course n).IsWilling place.owner ∨
              ∃ sent, (course n).occurrence? (ahead n) = some (.answered walk
                ⟨.send place (.result place.owner call (delivered result)), sent⟩)) ∧
    (∀ move next party, after.move? move = some next →
      next.router? party = after.router? party ∨
        ∃ state, session.Ends moves after party move state ∧ next.router? party = some state) ∧
    ∀ party, after.router? party = session.router? party ∨
      ∃ earlier move later middle state, moves = earlier ++ move :: later ∧
        session.run? earlier = some middle ∧ session.Ends earlier middle party move state ∧
        after.router? party = some state := by
  intro session chronicle
  have hopened : session.Attended session.execute? [] := attended_opened table server participants
  have hattended : after.Attended session.execute? chronicle := hopened.run? hrun
  refine ⟨fun place origin call action walk hreceived => ?_,
    fun move next party hmove => hattended.ends_of_move? hrun (fun _ => listens_opened) hmove,
    fun party => hopened.exists_ends hrun fun _ => listens_opened⟩
  obtain ⟨activity, hbegins⟩ := hattended.traced.begins _ hreceived walk rfl
  cases hbegins with
  | @walk _ execute _ _ _ _ hexecute =>
    have hprogress := hattended.progress hreceived hexecute
    exact ⟨execute, hexecute, hprogress, hprogress.replies,
      fun result hdone ahead course hcourse hfair hroom =>
        hattended.exists_answer hreceived hexecute hdone hcourse hfair hroom⟩

/-- A player asks the server to choose, which only players can do. -/
def misdirection : List (Move Unit) :=
  [.send (.ofParticipant ⟨0⟩) (.delegate (.participant ⟨0⟩) ⟨1⟩ .selectPlayer),
    .step (.receive (.ofServer ⟨0⟩)), .step (.advance 0), .step (.join 0)]

theorem actions_answered_misdirection :
    let session : Session Unit :=
      opened Gate.duel (some (.atTable Routine.access)) [(⟨0⟩, none), (⟨1⟩, none)]
    let failure : Failure := .routing "SelectPlayer needs a named participant on the server"
    ∃ after, session.run? misdirection = some after ∧
      ((Chronicle.history (session.chronicle misdirection) 0).filterMap
        Exchange.reply?).length ≤ 1 ∧
      after.router? .server = some (.ended (.error (.failed failure))) ∧
      ∃ earlier move later middle, misdirection = earlier ++ move :: later ∧
        session.run? earlier = some middle ∧
        session.Ends earlier middle .server move (.ended (.error (.failed failure))) := by
  intro session failure
  have hcheck : ((session.run? misdirection).bind fun after =>
      (after.router? .server).bind RouterState.error?) = some (.failed failure) := by
    decide +kernel
  have harrivals : (session.chronicle misdirection).arrivals = [⟨⟨0⟩, .selectPlayer, 0⟩] := by
    decide +kernel
  obtain ⟨after, hrun, hfailed⟩ := Option.bind_eq_some_iff.mp hcheck
  obtain ⟨state, hrouter, hstate⟩ := Option.bind_eq_some_iff.mp hfailed
  cases RouterState.eq_of_error? hstate
  obtain ⟨hanswered, -, hended⟩ := actions_answered hrun
  obtain ⟨origin, call, hreceived⟩ := Chronicle.mem_arrivals.mp
    (harrivals ▸ List.mem_singleton_self _)
  obtain ⟨execute, hexecute, -, honce, -⟩ := hanswered _ _ _ _ _ hreceived
  cases hexecute
  refine ⟨after, hrun, honce Executor.isReticent_atTable, hrouter, ?_⟩
  obtain hsame | ⟨earlier, move, later, middle, state, hmoves, hmiddle, hends, hstate⟩ :=
    hended .server
  · cases hrouter.symm.trans hsame
  · cases hrouter.symm.trans hstate
    exact ⟨earlier, move, later, middle, hmoves, hmiddle, hends⟩

end Session

end RoundTable
