import RoundTable.Proofs.Session.Released
import RoundTable.Proofs.Session.Results

/-!
# Routers that fail strand who waits

A router that fails does not hang up. Its own walks are dropped, and their calls with them; but
whoever else waits for a result at one of its ends waits on. Nobody takes in a result there any
more, and nobody sends the caller away.

## Main definitions

* `Task.AsksFor`, `Move.GivesUp`: jobs that wait for the result of a call, and who gives them up
* `Session.PendingsTold`: a call is under way in one task at most
* `Session.IsStuck`: a call waits where a router has failed

## Main results

* `Session.Waits.perform?`: nobody else disturbs a call that waits
* `Session.IsStuck.moved`, `Session.IsStuck.run?`: it waits on, unless it is given up
* `Session.released_or_stranded`: what the end of a router means for those who wait
-/

namespace RoundTable

variable {ρ : Type} {party : Party} {place : LinkEnd} {call : CallId}

/-! ### Slots in which somebody waits -/

namespace Slot

variable {slot : Slot} {other : CallId}

theorem waiter_of_answer? (h : slot.answer? call = none) : slot.waiter = some ⟨call, true⟩ := by
  rw [answer?] at h
  split at h
  case h_1 => cases h
  case h_2 =>
    split at h
    case isFalse => cases h
    case isTrue hlive =>
      obtain ⟨⟨_, isLive⟩, hfilter, rfl⟩ := Option.map_eq_some_iff.mp hlive
      obtain ⟨hwaiter, hislive⟩ := Option.filter_eq_some_iff.mp hfilter
      cases (hislive : isLive = true)
      exact hwaiter

theorem isFor_of_answer? (h : slot.answer? call = none) (hne : other ≠ call) :
    slot.isFor other = false := by
  rw [isFor, waiter_of_answer? h, Option.any_some]
  exact decide_eq_false hne.symm

theorem live?_of_answer? (h : slot.answer? call = none) : slot.live? = some call := by
  rw [live?, waiter_of_answer? h]
  rfl

end Slot

/-! ### Routers that have failed -/

/-- The error with which a router has stopped. -/
def RouterState.error? : RouterState → Option SessionError
  | .ended (.error error) => some error
  | .ended (.ok _) | .absent | .running | .aborted => none

theorem RouterState.eq_of_error? {state : RouterState} {error : SessionError}
    (h : state.error? = some error) : state = .ended (.error error) := by
  cases state with
  | absent | running | aborted => cases h
  | ended result =>
    cases result with
    | ok => cases h
    | error =>
      cases h
      rfl

/-! ### Jobs -/

/-- A job asks for the result of a call that it has under way. -/
structure Task.AsksFor (number : Nat) (holder : Party) (place : LinkEnd) (call : CallId)
    (task : Task ρ) : Prop where
  isJob : ∃ routine, task.activity = .job number holder routine
  pending : task.pending = some (place, call)
  awaited : task.activity.awaited? = some (place, call)

/-- Somebody gives up a job, or its holder leaves and gives up all jobs. -/
def Move.GivesUp (number : Nat) (holder : Party) : Move ρ → Prop
  | .cancel other => other = number
  | .stopServer => holder = .server
  | _ => False

namespace Session

variable {before middle after session : Session ρ} {log : List Incident} {next : Nat}

/-! ### Calls under way -/

/-- No two tasks have one call of the party under way, and every call that is under way has a
story. -/
structure PendingsTold (party : Party) (log : List Incident) (session : Session ρ) : Prop where
  apart : session.tasks.Pairwise fun a b =>
    ∀ key ∈ a.pending, key.1.owner = party → key ∉ b.pending
  told : ∀ task ∈ session.tasks, ∀ key ∈ task.pending, key.1.owner = party →
    story party log key.2 ≠ []

/-- A task has a call under way that it has had already, or one that registers just now. -/
theorem mem_pendingAfter {pending : Option (LinkEnd × CallId)} {effect : Effect}
    {answer : effect.Answer} {key : LinkEnd × CallId}
    (h : key ∈ pendingAfter pending effect answer) :
    key ∈ pending ∨ effect = .register key.1 key.2 ∧
      Incident.ofAnswer? effect answer = some (.registered key.1 key.2) := by
  cases effect with
  | register place call =>
    cases answer with
    | ok =>
      cases h
      exact .inr ⟨rfl, rfl⟩
    | error failure => exact .inl h
  | cancel | await => cases h
  | _ => exact .inl h

theorem story_append_ne_nil {log' : List Incident} (h : story party log call ≠ []) :
    story party (log ++ log') call ≠ [] := by
  rw [story, List.filter_append]
  exact List.append_ne_nil_of_left_ne_nil h _

namespace PendingsTold

variable {log' : List Incident} {task : Task ρ}

theorem sublist (h : before.PendingsTold party log) (hsub : after.tasks.Sublist before.tasks) :
    after.PendingsTold party (log ++ log') where
  apart := h.apart.sublist hsub
  told task hmem key hkey howner :=
    story_append_ne_nil (h.told task (hsub.subset hmem) key hkey howner)

theorem congr (h : before.PendingsTold party log) (htasks : after.tasks = before.tasks) :
    after.PendingsTold party log :=
  ⟨htasks ▸ h.apart, htasks ▸ h.told⟩

theorem queueTask (h : session.PendingsTold party log)
    (hnew : ∀ key ∈ task.pending, key.1.owner = party →
      story party log key.2 ≠ [] ∧ ∀ other ∈ session.tasks, key ∉ other.pending) :
    (session.queueTask task).PendingsTold party log where
  apart := by
    refine List.pairwise_append.mpr ⟨h.apart, List.pairwise_singleton _ _, ?_⟩
    intro other hother last hlast key hkey howner hmem
    rw [List.mem_singleton.mp hlast] at hmem
    exact (hnew key hmem howner).2 other hother hkey
  told other hmem key hkey howner := by
    obtain hmem | hlast := List.mem_append.mp hmem
    · exact h.told other hmem key hkey howner
    · rw [List.mem_singleton.mp hlast] at hkey
      exact (hnew key hkey howner).1

theorem spawn (h : session.PendingsTold party log) (activity : Activity ρ) :
    (session.spawn activity).PendingsTold party log := by
  have hcounted : PendingsTold party log { session with spawned := session.spawned + 1 } :=
    ⟨h.apart, h.told⟩
  exact hcounted.queueTask nofun

/-- No other task has the call of a task under way. -/
theorem not_mem_pending (h : session.PendingsTold party log) (hmem : task ∈ session.tasks)
    {other : Task ρ} (hother : other ∈ session.tasks) (hne : task ≠ other)
    {key : LinkEnd × CallId} (hkey : key ∈ task.pending) (howner : key.1.owner = party) :
    key ∉ other.pending := by
  have hsymm : Std.Symm fun a b : Task ρ =>
      ∀ key ∈ a.pending, key.1.owner = party → key ∉ b.pending :=
    ⟨fun a b hab key hb howner ha => hab key ha howner hb⟩
  exact h.apart.forall hmem hother hne key hkey howner

theorem moved (h : before.PendingsTold party log) (htold : before.Told party log next)
    {move : Move ρ} {incident : Option Incident} (hmoved : Moved before move incident after) :
    after.PendingsTold party (log ++ incident.toList) := by
  cases hmoved with
  | @answered _ task effect goOn middle answer mem asks answers =>
    obtain ⟨stage, hstands, hstage, -⟩ := htold.tasks.take mem
    have hmiddle : middle.tasks = before.tasks.filter fun other => other.id != task.id :=
      (keeps_perform? answers).1
    have hsub : middle.tasks.Sublist before.tasks := by
      rw [hmiddle]
      exact List.filter_sublist
    refine (h.sublist hsub).queueTask fun key hkey howner => ?_
    obtain hkey | ⟨rfl, hincident⟩ := mem_pendingAfter hkey
    · refine ⟨story_append_ne_nil (h.told task mem key hkey howner), fun other hother => ?_⟩
      rw [hmiddle, List.mem_filter, bne_iff_ne] at hother
      exact h.not_mem_pending mem hother.1 (fun heq => hother.2 (congrArg Task.id heq.symm)) hkey
        howner
    · refine ⟨?_, fun other hother hmem => ?_⟩
      · have hself : story party (log ++ [.registered key.1 key.2]) key.2 =
            story party log key.2 ++ [.registered key.1 key.2] :=
          story_append_self (.registered key.1 key.2) howner
        rw [hincident, Option.toList_some, hself]
        exact List.append_ne_nil_of_right_ne_nil _ nofun
      · -- a call that registers just now has no story yet
        refine h.told other (hsub.subset hother) key hmem howner ?_
        cases hstands.asks asks with
        | spare hspares _ => exact absurd howner hspares
        | register => exact hstage.2.2
  | @delegated place =>
    have htasks : (before.taken place).tasks = before.tasks := tasks_modifyDesk before place _
    exact PendingsTold.spawn (h.sublist (htasks ▸ .refl _)) _
  | @started holder routine =>
    have hstarted : PendingsTold party (log ++ (none : Option Incident).toList)
        { before with started := before.started + 1 } := h.sublist (.refl _)
    exact hstarted.spawn _
  | ended => exact h.sublist List.filter_sublist
  | @joined _ task router result =>
    exact h.sublist ((loses_withoutTask _ before task.id).trans (loses_join _ router result)).tasks
  | @resulted place desk origin call value =>
    have htasks : ((before.taken place).modifySlot place fun slot =>
        (slot.deliver call value).1).tasks = before.tasks :=
      (tasks_modifyDesk _ place _).trans (tasks_modifyDesk before place _)
    exact h.sublist (htasks ▸ .refl _)
  | @pushed place command after sent hpush =>
    have hperform : before.perform? (.send place command) = some (after, sent) := hpush
    exact h.sublist ((keeps_perform? hperform).1 ▸ .refl _)
  | applied => exact h.sublist (.refl _)
  | lost hloses => exact h.sublist hloses.tasks

end PendingsTold

/-! ### Calls that wait -/

/-- The call waits for its result at an end. -/
def Waits (place : LinkEnd) (call : CallId) (session : Session ρ) : Prop :=
  ∃ slot, session.slot? place = some slot ∧ slot.answer? call = none

theorem waits_iff : session.Waits place call ↔ session.perform? (.await place call) = none := by
  rw [Waits, slot?, perform?]
  cases session.desk? place with
  | none => simp
  | some desk => simp

namespace Waits

variable {other : LinkEnd}

theorem of_slot? (h : before.Waits place call) (hslot : after.slot? place = before.slot? place) :
    after.Waits place call := by
  rwa [Waits, hslot]

theorem modifySlot (h : session.Waits place call) {change : Slot → Slot}
    (hchange : ∀ slot : Slot, place = other → slot.answer? call = none →
      (change slot).answer? call = none) :
    (session.modifySlot other change).Waits place call := by
  obtain ⟨slot, hslot, hanswer⟩ := h
  rw [Waits, slot?_modifySlot, hslot]
  split
  case isTrue heq => exact ⟨_, rfl, hchange slot heq hanswer⟩
  case isFalse => exact ⟨_, rfl, hanswer⟩

/-- Whoever asks something else does not disturb a call that waits. -/
theorem perform? (h : before.Waits place call) {effect : Effect} {answer : effect.Answer}
    (hperform : before.perform? effect = some (after, answer))
    (hcancel : effect ≠ .cancel place call) : after.Waits place call := by
  cases effect with
  | observe | apply | applyOr | confirm | isLinked =>
    cases hperform
    cases place <;> exact h
  | number other =>
    cases hperform
    refine h.of_slot? ?_
    rw [slot?, desk?_modifyStation]
    rfl
  | crash => cases hperform
  | send other command =>
    obtain rfl | rfl := eq_of_push? hperform
    · exact h
    · exact h.of_slot? (slot?_modifyDesk before _ place fun _ => rfl)
  | await other call' =>
    rw [Session.perform?] at hperform
    split at hperform
    · cases hperform
      exact h
    · obtain ⟨answer, -, heq⟩ := Option.map_eq_some_iff.mp hperform
      cases heq
      exact h
  | cancel other call' =>
    cases hperform
    refine h.modifySlot fun slot heq hanswer => ?_
    subst heq
    have hne : call' ≠ call := by
      rintro rfl
      exact hcancel rfl
    rw [Slot.cancel, Slot.isFor_of_answer? hanswer hne]
    exact hanswer
  | register other call' =>
    obtain ⟨failure, rfl, rfl⟩ | ⟨rfl, slot, hslot, hlive, rfl⟩ := register_cases hperform
    · exact h
    · obtain ⟨slot', hslot', hanswer⟩ := h
      have hne : place ≠ other := by
        rintro rfl
        cases hslot.symm.trans hslot'
        cases hlive.symm.trans (Slot.live?_of_answer? hanswer)
      refine ⟨slot', ?_, hanswer⟩
      rw [slot?_modifySlot, if_neg hne]
      exact hslot'

theorem foldl_abandon (h : session.Waits place call) {tasks : List (Task ρ)}
    (htasks : ∀ task ∈ tasks, (place, call) ∉ task.pending) :
    (tasks.foldl abandon session).Waits place call := by
  induction tasks generalizing session with
  | nil => exact h
  | cons task tasks ih =>
    refine ih ?_ fun other hother => htasks other (List.mem_cons_of_mem _ hother)
    rw [abandon]
    split
    case h_2 => exact h
    case h_1 other call' hpending =>
      refine h.modifySlot fun slot heq hanswer => ?_
      subst heq
      have hne : call' ≠ call := by
        rintro rfl
        exact htasks task List.mem_cons_self hpending
      rw [Slot.abandon, Slot.isFor_of_answer? hanswer hne]
      exact hanswer

end Waits

/-! ### Jobs that wait where a router has failed -/

variable {task : Task ρ} {number : Nat} {holder : Party}

/-- A task waits for the result of a call at an end whose router has failed. -/
structure IsStuck (place : LinkEnd) (call : CallId) (task : Task ρ) (session : Session ρ) :
    Prop where
  failed : ∃ error, session.router? place.owner = some (.ended (.error error))
  found : session.task? task.id = some task
  waits : session.Waits place call

namespace IsStuck

theorem same (h : before.IsStuck place call task) (hsame : SamePosture before after)
    (htask : after.task? task.id = before.task? task.id)
    (hslot : after.slot? place = before.slot? place) : after.IsStuck place call task where
  failed := by
    obtain ⟨error, herror⟩ := h.failed
    exact ⟨error, (hsame.router _).trans herror⟩
  found := htask.trans h.found
  waits := h.waits.of_slot? hslot

theorem not_isRouting (h : session.IsStuck place call task) :
    session.isRouting place.owner = false := by
  refine Bool.eq_false_iff.mpr fun hrouting => ?_
  obtain ⟨error, herror⟩ := h.failed
  cases herror.symm.trans (router?_of_isRouting hrouting)

theorem withoutTask (h : session.IsStuck place call task) {id : Nat} (hne : task.id ≠ id) :
    (session.withoutTask id).IsStuck place call task := by
  refine h.same (.withoutTask session id) ?_ ?_
  · rw [task?_withoutTask, if_neg hne]
  · rw [slot?, desk?_withoutTask]
    rfl

theorem queueTask (h : session.IsStuck place call task) (other : Task ρ) :
    (session.queueTask other).IsStuck place call task := by
  refine h.same (.queueTask session other) ?_ ?_
  · rw [task?_queueTask, h.found, Option.some_or]
  · rw [slot?, desk?_queueTask]
    rfl

theorem spawn (h : session.IsStuck place call task) (activity : Activity ρ) :
    (session.spawn activity).IsStuck place call task := by
  refine h.same (.spawn session activity) ?_ ?_
  · rw [Session.spawn, task?_queueTask]
    exact (congrArg (Option.or · _) h.found).trans (Option.some_or.trans h.found.symm)
  · rw [slot?, desk?_spawn]
    rfl

theorem modifyDesk (h : session.IsStuck place call task) {other : LinkEnd} {change : Desk → Desk}
    (hchange : place = other → ∀ desk, (change desk).slot = desk.slot) :
    (session.modifyDesk other change).IsStuck place call task where
  failed := by
    rw [router?, station?_modifyDesk]
    exact h.failed
  found := by
    rw [task?, tasks_modifyDesk]
    exact h.found
  waits := by
    refine h.waits.of_slot? ?_
    rw [slot?, desk?_modifyDesk]
    split
    case isTrue heq => simp [slot?, Function.comp_def, hchange heq]
    case isFalse => rfl

theorem taken (h : session.IsStuck place call task) (other : LinkEnd) :
    (session.taken other).IsStuck place call task :=
  h.modifyDesk fun _ _ => rfl

theorem modifySlot (h : session.IsStuck place call task) {other : LinkEnd} (hne : place ≠ other)
    (change : Slot → Slot) : (session.modifySlot other change).IsStuck place call task :=
  h.modifyDesk fun heq => absurd heq hne

theorem modifyStation (h : session.IsStuck place call task) {party : Party}
    {change : Station → Station}
    (hchange : place.owner = party → ∀ station, (∃ error, station.router = .ended (.error error)) →
      ∃ error, (change station).router = .ended (.error error)) :
    (session.modifyStation party change).IsStuck place call task where
  failed := by
    obtain ⟨error, herror⟩ := h.failed
    rw [router?, station?_modifyStation]
    split
    case isFalse => exact ⟨error, herror⟩
    case isTrue heq =>
      obtain ⟨station, hstation, hrouter⟩ := Option.map_eq_some_iff.mp herror
      obtain ⟨error, herror⟩ := hchange heq station ⟨error, hrouter⟩
      exact ⟨error, by rw [hstation, Option.map_some, Option.map_some, herror]⟩
  found := by
    rw [task?, tasks_modifyStation]
    exact h.found
  waits := by
    refine h.waits.of_slot? ?_
    rw [slot?, desk?_modifyStation]
    rfl

/-- To drop other tasks does not disturb it. -/
theorem dropTasks (h : session.IsStuck place call task)
    (hpending : session.PendingsTold place.owner log)
    (hasks : task.AsksFor number holder place call)
    {drops : Activity ρ → Bool} (hdrops : drops task.activity = false) :
    (session.dropTasks drops).IsStuck place call task where
  failed := by
    obtain ⟨error, herror⟩ := h.failed
    exact ⟨error, ((SamePosture.dropTasks session drops).router _).trans herror⟩
  found := by
    have htasks (tasks : List (Task ρ)) (session : Session ρ) :
        (tasks.foldl abandon session).tasks = session.tasks := by
      induction tasks generalizing session with
      | nil => rfl
      | cons other tasks ih =>
        rw [List.foldl_cons, ih, abandon]
        split
        · exact tasks_modifyDesk _ _ _
        · rfl
    have hfound := h.found
    rw [task?, Session.dropTasks, htasks]
    rw [task?] at hfound
    generalize session.tasks = tasks at hfound
    induction tasks with
    | nil => cases hfound
    | cons first tasks ih =>
      rw [List.find?_cons] at hfound
      cases hfirst : first.id == task.id with
      | true =>
        rw [hfirst] at hfound
        cases hfound
        rw [List.filter_cons_of_pos (by rw [hdrops]; rfl), List.find?_cons, hfirst]
      | false =>
        rw [hfirst] at hfound
        rw [List.filter_cons]
        split
        · rw [List.find?_cons, hfirst]
          exact ih hfound
        · exact ih hfound
  waits := by
    have hkept : Waits place call
        { session with tasks := session.tasks.filter fun other => !drops other.activity } := by
      refine h.waits.of_slot? ?_
      cases place <;> rfl
    refine hkept.foldl_abandon fun other hother => ?_
    obtain ⟨hother, hdropped⟩ := List.mem_filter.mp hother
    refine hpending.not_mem_pending (mem_of_task? h.found).1 hother ?_ hasks.pending rfl
    rintro rfl
    cases hdrops.symm.trans hdropped

theorem shutEnds (h : session.IsStuck place call task) (party : Party) :
    (session.shutEnds party).IsStuck place call task := by
  obtain ⟨-, htasks, -, -, hstation⟩ := foldl_shut (session.endsOf party) session
  obtain ⟨error, herror⟩ := h.failed
  refine ⟨⟨error, (congrArg (Option.map Station.router) (hstation _)).trans herror⟩, ?_, ?_⟩
  · rw [task?, Session.shutEnds, htasks]
    exact h.found
  · refine h.waits.of_slot? ?_
    rw [slot?, desk?_shutEnds]
    split
    · simp [slot?, Function.comp_def, Desk.shut]
    · rfl

/-- Nor does another router that comes to an end, or the same one that fails again. -/
theorem shutRouter (h : session.IsStuck place call task)
    (hpending : session.PendingsTold place.owner log)
    (hasks : task.AsksFor number holder place call)
    {party : Party} {router : RouterState}
    (hrouter : place.owner = party → ∃ error, router = .ended (.error error)) :
    (session.shutRouter party router).IsStuck place call task := by
  obtain ⟨routine, hjob⟩ := hasks.isJob
  have hdrops : task.activity.isWalkOf party = false := by rw [hjob]; rfl
  obtain ⟨-, htasks, -⟩ := foldl_shut (session.endsOf party) session
  have hstopped : ((session.shutEnds party).modifyStation party fun station =>
      { station with router }).IsStuck place call task :=
    (h.shutEnds party).modifyStation fun heq _ _ => hrouter heq
  refine hstopped.dropTasks (hpending.congr ?_) hasks hdrops
  rw [tasks_modifyStation]
  exact htasks

theorem leave (h : session.IsStuck place call task)
    (hpending : session.PendingsTold place.owner log)
    (hasks : task.AsksFor number holder place call)
    (party : Party) : (session.leave party).IsStuck place call task := by
  rw [Session.leave]
  refine modifyStation ?_ fun _ _ hfailed => hfailed
  split
  case isTrue hrouting =>
    refine h.shutRouter hpending hasks fun heq => ?_
    cases (heq ▸ h.not_isRouting).symm.trans hrouting
  case isFalse => exact h.shutEnds party

theorem cancelJobs (h : session.IsStuck place call task)
    (hpending : session.PendingsTold place.owner log)
    (hasks : task.AsksFor number holder place call)
    {cancels : Activity ρ → Bool} (hcancels : cancels task.activity = false) :
    (session.cancelJobs cancels).IsStuck place call task := by
  have hends (numbers : List Nat) (session : Session ρ) (h : session.IsStuck place call task) :
      (numbers.foldl (fun session number => session.endJob number .aborted) session).IsStuck place
        call task := by
    induction numbers generalizing session with
    | nil => exact h
    | cons number numbers ih =>
      refine ih _ (h.same (.endJob session number .aborted) rfl ?_)
      rw [slot?, desk?_endJob]
      rfl
  exact hends _ _ (h.dropTasks hpending hasks hcancels)

theorem stepped (h : before.IsStuck place call task) (hasks : task.AsksFor number holder place call)
    (htold : before.Told place.owner log next) (hpending : before.PendingsTold place.owner log)
    {label : Label} (hstepped : Stepped before label after) : after.IsStuck place call task := by
  obtain ⟨routine, hjob⟩ := hasks.isJob
  obtain ⟨goOn, hquestion⟩ := Activity.question?_of_awaited? hasks.awaited
  -- a task of the same number would be this one
  have hne {other : Task ρ} (found : before.task? other.id = some other)
      (hother : other ≠ task) : task.id ≠ other.id := by
    intro heq
    rw [← heq, h.found] at found
    exact hother (Option.some.inj found).symm
  have hwithout {id : Nat} : (before.withoutTask id).PendingsTold place.owner log :=
    ⟨hpending.apart.sublist List.filter_sublist,
      fun other hother => hpending.told other (List.mem_filter.mp hother).1⟩
  cases hstepped with
  | @answered other effect goOn' middle answer found asks answers =>
    have hother : other ≠ task := by
      rintro rfl
      cases hquestion.symm.trans asks
      rw [perform?_withoutTask, waits_iff.mp h.waits] at answers
      cases answers
    have hstuck := h.withoutTask (hne found hother)
    have hcancel : effect ≠ .cancel place call := by
      rintro rfl
      obtain ⟨stage, hstands, -, staged, hstaged, -, hfits⟩ :=
        htold.tasks.take (mem_of_task? found).1
      have hmem : task ∈ staged.map Prod.fst := by
        rw [hstaged, List.mem_filter, bne_iff_ne]
        exact ⟨(mem_of_task? h.found).1, hne found hother⟩
      obtain ⟨pair, hpair, rfl⟩ := List.mem_map.mp hmem
      obtain ⟨hwaits, -, hbesides⟩ := hfits pair hpair
      obtain ⟨action, heq⟩ := hwaits.stage_of_awaited? hasks.awaited rfl
      cases hstands.asks asks with
      | spare hspares _ => exact hspares rfl
      | cancel _ => exact hbesides call (by rw [heq]; rfl) rfl
    have hmiddle : middle.IsStuck place call task := by
      refine ⟨?_, ?_, hstuck.waits.perform? answers hcancel⟩
      · obtain ⟨error, herror⟩ := hstuck.failed
        exact ⟨error, ((SamePosture.perform? answers).router _).trans herror⟩
      · rw [task?, (keeps_perform? answers).1]
        exact hstuck.found
    exact hmiddle.queueTask _
  | @ended other number' holder' result found done =>
    have hother : other ≠ task := by
      rintro rfl
      rw [done] at hquestion
      cases hquestion
    refine (h.withoutTask (hne found hother)).same (.endJob _ number' _) rfl ?_
    rw [slot?, desk?_endJob]
    rfl
  | @brokeDown other number' holder' crash found crashes =>
    have hother : other ≠ task := by
      rintro rfl
      rw [crashes] at hquestion
      cases hquestion
    refine (h.withoutTask (hne found hother)).same (.endJob _ number' _) rfl ?_
    rw [slot?, desk?_endJob]
    rfl
  | @joined other router result found done =>
    have hother : other ≠ task := by
      rintro rfl
      cases done.symm.trans hjob
    have hstuck := h.withoutTask (hne found hother)
    cases result with
    | ok => exact hstuck
    | error failure =>
      rw [join.eq_def]
      dsimp only
      split
      · exact hstuck.shutRouter hwithout hasks fun _ => ⟨_, rfl⟩
      · exact hstuck
  | @broken other router crash found crashes =>
    have hother : other ≠ task := by
      rintro rfl
      cases crashes.symm.trans hjob
    exact (h.withoutTask (hne found hother)).shutRouter hwithout hasks fun _ => ⟨_, rfl⟩
  | @delegated other => exact (h.taken other).spawn _
  | @resulted other desk origin call' value routing =>
    refine (h.taken other).modifySlot ?_ _
    rintro rfl
    cases h.not_isRouting.symm.trans routing
  | hungUp _ routing =>
    refine h.modifyDesk fun heq => ?_
    subst heq
    cases h.not_isRouting.symm.trans routing
  | stopped routing =>
    refine h.modifyStation fun heq => ?_
    subst heq
    cases h.not_isRouting.symm.trans routing

/-- **A call that waits where a router has failed waits on**, unless it is given up. -/
theorem moved (h : before.IsStuck place call task) (hasks : task.AsksFor number holder place call)
    (htold : before.Told place.owner log next) (hpending : before.PendingsTold place.owner log)
    {move : Move ρ} (hkept : ¬move.GivesUp number holder) (hmove : before.move? move = some after) :
    after.IsStuck place call task := by
  obtain ⟨routine, hjob⟩ := hasks.isJob
  cases move with
  | step label => exact h.stepped hasks htold hpending (stepped_of_step? hmove)
  | start holder' routine' =>
    cases hmove
    have hstarted : IsStuck place call task { before with started := before.started + 1 } := by
      refine h.same (.of_views ?_ ?_) rfl ?_
      · intro other
        cases other <;> rfl
      · intro other
        cases other <;> rfl
      · cases place <;> rfl
    exact hstarted.spawn _
  | poll number' =>
    cases hmove
    refine h.same (.poll before number') ?_ ?_ <;> rw [poll] <;> split
    · rfl
    · split <;> rfl
    · rfl
    · split <;> cases place <;> rfl
  | cancel number' =>
    cases hmove
    refine h.cancelJobs hpending hasks ?_
    rw [hjob]
    exact beq_eq_false_iff_ne.mpr fun heq => hkept (Option.some.inj heq).symm
  | send other command =>
    cases hmove
    rw [trySend]
    have hpush {after : Session ρ} {sent : Bool}
        (hpush : before.push? other command = some (after, sent)) :
        after.IsStuck place call task := by
      obtain rfl | rfl := eq_of_push? hpush
      · exact h
      · exact h.modifyDesk fun _ _ => rfl
    split
    case h_1 => exact h
    case h_2 heq => exact hpush heq
    case h_3 heq => exact hpush heq
  | take other =>
    cases hmove
    rw [tryReceive]
    split
    · exact h.taken other
    · exact h
  | apply event =>
    cases hmove
    refine h.same (.of_views ?_ ?_) rfl ?_
    · intro other
      cases other <;> rfl
    · intro other
      cases other <;> rfl
    · cases place <;> rfl
  | disconnect id =>
    cases hmove
    exact h.leave hpending hasks _
  | stopServer =>
    cases hmove
    have hcancels : task.activity.isJobFor .server = false := by
      rw [hjob]
      exact decide_eq_false hkept
    have hsub := (loses_cancelJobs (fun _ => True) before fun activity =>
      activity.isJobFor .server).tasks
    have hcancelled : PendingsTold place.owner log
        (before.cancelJobs fun activity => activity.isJobFor .server) :=
      ⟨hpending.apart.sublist hsub, fun other hother => hpending.told other (hsub.subset hother)⟩
    exact (h.cancelJobs hpending hasks hcancels).leave hcancelled hasks _

theorem run? {moves : List (Move ρ)} (h : before.IsStuck place call task)
    (hasks : task.AsksFor number holder place call) (htold : before.Told place.owner log next)
    (hpending : before.PendingsTold place.owner log)
    (hmoves : ∀ move ∈ moves, move.IsOrderly place.owner ∧ ¬move.GivesUp number holder)
    (hrun : before.run? moves = some after) : after.IsStuck place call task := by
  refine (kept_of_run? (fun session => session.IsStuck place call task ∧
    ∃ log next, session.Told place.owner log next ∧ session.PendingsTold place.owner log)
    (fun move hmem {_ _} h hmove => ?_) ⟨h, log, next, htold, hpending⟩ hrun).1
  obtain ⟨hstuck, log, next, htold, hpending⟩ := h
  obtain ⟨horderly, hkept⟩ := hmoves move hmem
  have hmoved := moved_of_move? hmove
  obtain ⟨next, hafter⟩ := htold.moved hmoved horderly
  exact ⟨hstuck.moved hasks htold hpending hkept hmove, _, next, hafter,
    hpending.moved htold hmoved⟩

end IsStuck

theorem PendingsTold.run? {moves : List (Move ρ)} (h : before.PendingsTold party log)
    (htold : before.Told party log next) (hmoves : ∀ move ∈ moves, move.IsOrderly party)
    (hrun : before.run? moves = some after) :
    after.PendingsTold party (log ++ before.log moves) := by
  refine (logged_of_run? (fun log session => (∃ next, session.Told party log next) ∧
    session.PendingsTold party log) (fun move hmem {_ _ _} h hmove => ?_)
    ⟨⟨next, htold⟩, h⟩ hrun).2
  obtain ⟨⟨next, htold⟩, hpending⟩ := h
  have hmoved := moved_of_move? hmove
  exact ⟨htold.moved hmoved (hmoves move hmem), hpending.moved htold hmoved⟩

/-! ### Every course of events -/

/-- **Who waits when a router has come to an end.** Let a session be opened, let the routines that
are started, and what executors do, use the slots and numbers of a party only in calls, and let any
moves follow. Let the party's router have come to an end, and consider one of its ends.

* If the router has stopped because nothing was left to do, nothing can be sent from there any more,
  and nobody waits there: whoever asks for the result of a call is answered. This depends on how a
  party leaves. No move drops only that half of a link by which a party sends, so nobody listens at
  the other side of a link at which nobody speaks any more.
* If the router has failed, a job that waits there for the result of a call waits forever. Whatever
  happens, it is still there and gets no answer, unless the job is given up. -/
theorem released_or_stranded {table : Table} {server : Option (Executor Routine)}
    {participants : List (PlayerId × Option (Executor Routine))} {place : LinkEnd}
    (hplace : ((opened table server participants : Session ρ).desk? place).isSome = true)
    (hserver : ∀ execute ∈ server,
      Routine.OrderlyExecutor (.ofParty place.owner) anyFailure execute)
    (hparticipants : ∀ participant ∈ participants, ∀ execute ∈ participant.2,
      Routine.OrderlyExecutor (.ofParty place.owner) anyFailure execute)
    {moves : List (Move ρ)} (hmoves : ∀ move ∈ moves, move.IsOrderly place.owner)
    (hrun : (opened table server participants).run? moves = some session) :
    (session.router? place.owner = some (.ended (.ok ())) →
      (∀ command, session.perform? (.send place command) = some (session, false)) ∧
      ∀ task ∈ session.tasks, ∀ call, task.activity.awaited? = some (place, call) →
        (session.perform? (.await place call)).isSome = true) ∧
    ∀ error, session.router? place.owner = some (.ended (.error error)) →
      ∀ task number holder call, session.task? task.id = some task →
        task.AsksFor number holder place call → session.perform? (.await place call) = none →
          ∀ moves after, (∀ move ∈ moves, move.IsOrderly place.owner ∧
              ¬move.GivesUp number holder) → session.run? moves = some after →
            after.task? task.id = some task ∧ after.perform? (.await place call) = none := by
  have hopened : (opened table server participants : Session ρ).Told place.owner [] 1 :=
    told_opened hserver hparticipants (isSome_station?_owner _ place hplace)
  have hcomposed : (opened table server participants : Session ρ).Composed :=
    composed_opened table server participants
  obtain ⟨last, htold⟩ := hopened.run? hmoves hrun
  refine ⟨fun hstopped => ?_, fun error hfailed task number holder call found hasks hwaits => ?_⟩
  · have hwilling : session.IsWilling place.owner := .inr hstopped
    have hdeaf := (hcomposed.run? hrun).stopped place hstopped
    refine ⟨fun command => ?_, fun task hmem call hawaited => ?_⟩
    · have hopposite := (hcomposed.run? hrun).deaf place hwilling hdeaf
      rw [perform?, push?]
      rw [listens] at hopposite
      cases hdesk : session.desk? place.opposite with
      | none => rfl
      | some desk =>
        rw [hdesk, Option.any_some] at hopposite
        simp [hopposite]
    · have hnobody : (opened table server participants : Session ρ).Released place.owner :=
        fun _ _ _ _ task hmem => absurd hmem List.not_mem_nil
      exact isSome_perform?_await ((hnobody.run? hcomposed hopened hmoves hrun) hwilling place rfl
        hdeaf task hmem call hawaited)
  · intro more after hmore hafter
    have hpending : (opened table server participants : Session ρ).PendingsTold place.owner [] :=
      ⟨.nil, fun task hmem => absurd hmem List.not_mem_nil⟩
    have hstuck : session.IsStuck place call task :=
      ⟨⟨error, hfailed⟩, found, waits_iff.mpr hwaits⟩
    have hlast := hstuck.run? hasks htold (hpending.run? hopened hmoves hrun) hmore hafter
    exact ⟨hlast.found, waits_iff.mp hlast.waits⟩

/-- A session in which the first participant makes choices and the second one takes part by hand. -/
def parlour : Session (Except Failure Reply) :=
  .opened Gate.duel (some (.atTable Routine.access))
    [(⟨0⟩, some (.choosing (Routine.player ⟨0⟩ .first))), (⟨1⟩, none)]

/-- The server asks the second participant, who does not answer. Then the first one asks the server
for something that a participant has to resolve, and the server's router fails. -/
def breakdown : List (Move (Except Failure Reply)) :=
  [.start .server (Routine.callParticipant ⟨1⟩ .selectPlayer).run] ++
    List.replicate 4 (.step (.advance 0)) ++
    [.start (.participant ⟨0⟩) (Routine.call (.ofParticipant ⟨0⟩) .selectPlayer).run] ++
    List.replicate 3 (.step (.advance 1)) ++
    [.step (.receive (.ofServer ⟨0⟩)), .step (.advance 2), .step (.join 2)]

/-- The router has failed, and the server's job asks for the result of its call in vain. -/
theorem run?_breakdown :
    ∃ session error task, parlour.run? breakdown = some session ∧
      session.router? .server = some (.ended (.error error)) ∧ session.task? 0 = some task ∧
      task.id = 0 ∧ task.AsksFor 0 .server (.ofServer ⟨1⟩) ⟨1⟩ ∧
      session.perform? (.await (.ofServer ⟨1⟩) ⟨1⟩) = none := by
  have hcheck : ((parlour.run? breakdown).any fun session =>
      ((session.router? .server).bind RouterState.error?).isSome &&
      ((session.task? 0).any fun task =>
        (task.activity.isJob 0 && task.activity.isJobFor .server) &&
        (task.pending = some (.ofServer ⟨1⟩, ⟨1⟩) &&
          task.activity.awaited? = some (.ofServer ⟨1⟩, ⟨1⟩))) &&
      (session.perform? (.await (.ofServer ⟨1⟩) ⟨1⟩)).isNone) = true := by
    decide +kernel
  obtain ⟨session, hrun, hcheck⟩ := (Option.any_eq_true _ _).mp hcheck
  rw [Bool.and_eq_true, Bool.and_eq_true] at hcheck
  obtain ⟨⟨hfailed, htask⟩, hwaits⟩ := hcheck
  obtain ⟨task, found, hasks⟩ := (Option.any_eq_true _ _).mp htask
  simp only [Bool.and_eq_true, decide_eq_true_eq] at hasks
  obtain ⟨⟨hnumber, hholder⟩, hpending, hawaited⟩ := hasks
  have hjob : ∃ routine, task.activity = .job 0 .server routine := by
    cases hactivity : task.activity with
    | walk router routine => rw [hactivity] at hholder; cases hholder
    | job number holder routine =>
      rw [hactivity] at hnumber hholder
      cases (beq_iff_eq.mp hnumber : some number = some 0)
      cases (of_decide_eq_true hholder : holder = .server)
      exact ⟨routine, rfl⟩
  obtain ⟨error, herror⟩ := Option.isSome_iff_exists.mp hfailed
  obtain ⟨state, hrouter, hstate⟩ := Option.bind_eq_some_iff.mp herror
  rw [RouterState.eq_of_error? hstate] at hrouter
  exact ⟨session, error, task, hrun, hrouter, found, (mem_of_task? found).2,
    ⟨hjob, hpending, hawaited⟩, Option.isNone_iff_eq_none.mp hwaits⟩

theorem released_or_stranded_breakdown :
    ∃ session task, parlour.run? breakdown = some session ∧ session.task? 0 = some task ∧
      ∀ moves after, (∀ move ∈ moves, move.IsOrderly .server ∧ ¬move.GivesUp 0 .server) →
        session.run? moves = some after →
          after.task? 0 = some task ∧ after.perform? (.await (.ofServer ⟨1⟩) ⟨1⟩) = none := by
  obtain ⟨session, error, task, hrun, hfailed, found, hid, hasks, hwaits⟩ := run?_breakdown
  have hlenient := Manners.lenient_ofParty .server
  have hserver : ∀ execute ∈ some (Executor.atTable Routine.access),
      Routine.OrderlyExecutor (.ofParty .server) anyFailure execute := by
    rintro _ ⟨⟩
    exact Routine.orderly_execute_atTable hlenient fun _ => trivial
  have hparticipants : ∀ participant ∈
      [((⟨0⟩ : PlayerId), some (Executor.choosing (Routine.player ⟨0⟩ .first))), (⟨1⟩, none)],
      ∀ execute ∈ participant.2, Routine.OrderlyExecutor (.ofParty .server) anyFailure execute := by
    intro participant hmem execute hexecute
    obtain rfl | hmem := List.mem_cons.mp hmem
    · cases hexecute
      exact Routine.orderly_execute_choosing hlenient ⟨0⟩ .first
    · rw [List.mem_singleton.mp hmem] at hexecute
      cases hexecute
  have hmoves : ∀ move ∈ breakdown, move.IsOrderly .server := by
    have hask := (Routine.orderly_callParticipant hlenient ⟨1⟩ trivial .selectPlayer).mono
      fun _ _ => trivial
    have hcall := (hlenient.call (.ofParticipant ⟨0⟩) .selectPlayer trivial).mono
      fun _ _ => trivial
    simp [breakdown, Move.IsOrderly, hask, hcall]
  have hplace : (parlour.desk? (.ofServer ⟨1⟩)).isSome = true := by decide +kernel
  have hstranded := (released_or_stranded hplace hserver hparticipants hmoves hrun).2 error hfailed
    task 0 .server ⟨1⟩ (hid ▸ found) hasks hwaits
  rw [hid] at hstranded
  exact ⟨session, task, hrun, found, hstranded⟩

/-- **A router that fails strands who waits.** -/
theorem stranded_breakdown :
    ¬∀ (moves : List (Move (Except Failure Reply))) (session : Session (Except Failure Reply))
      (result : Except SessionError Unit), parlour.run? moves = some session →
        session.router? .server = some (.ended result) → ∀ task ∈ session.tasks, ∀ id call,
          task.activity.awaited? = some (.ofServer id, call) →
            (session.perform? (.await (.ofServer id) call)).isSome = true := by
  intro h
  obtain ⟨session, error, task, hrun, hfailed, found, -, hasks, hwaits⟩ := run?_breakdown
  have hsome := h breakdown session (.error error) hrun hfailed task (mem_of_task? found).1 ⟨1⟩ ⟨1⟩
    hasks.awaited
  rw [hwaits] at hsome
  cases hsome

end Session

end RoundTable
