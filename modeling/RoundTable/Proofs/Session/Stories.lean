import Mathlib.Data.List.Pairwise
import RoundTable.Proofs.Session.Moves
import RoundTable.Proofs.Session.Parties

/-!
# The stories of calls

Every call of a party has a story: it registers at an end, a result that arrives at that end is
delivered to it, and it returns with that result. The story may break off anywhere, but it never
takes another turn. What keeps it on its way is that no number is given out twice: whatever is
registered, delivered or returned has a number, and everything that has a number is at one place in
one story.

## Main definitions

* `Manners.ofParty`: routines that use slots and numbers of a party only through calls
* `story`, `wholeStory`: what happens to a call, and what can happen to it at most
* `Slot.Told`, `CallStage.Told`, `TasksTold`: slots, stages and tasks that fit the stories

## Main results

* `Slot.Told.loses`, `CallStage.Told.delivered`: they go on to fit
* `TasksTold.take`, `TasksTold.put`: a task may be taken out and come back at another stage
-/

namespace RoundTable

/-! ### Manners -/

/-- A question that has nothing to do with the slots and the numbers of a party. -/
def Effect.Spares (party : Party) : Effect → Prop
  | number other => other ≠ party
  | register place _ | await place _ | cancel place _ => place.owner ≠ party
  | _ => True

/-- Slots and numbers of a party are used only in calls; all else may be asked, and calls may come
to anything. -/
def Manners.ofParty (party : Party) : Manners where
  calls place := place.owner = party
  spares effect := effect.Spares party
  answers _ _ := True

/-- Nothing is expected of failures. -/
abbrev anyFailure (_ : Failure) : Prop := True

theorem Manners.sound_anyFailure {α : Type} (result : Except Failure α) :
    Manners.Sound anyFailure result := by
  cases result <;> trivial

theorem Manners.lenient_ofParty (party : Party) :
    (ofParty party).Lenient anyEnd anyFailure where
  observe := trivial
  apply _ := trivial
  applyOr _ _ := trivial
  confirm := trivial
  isLinked _ := trivial
  call place action _ := by
    by_cases h : place.owner = party
    · exact Routine.orderly_call h action
    · rw [Routine.Orderly, Routine.run_call]
      refine .spare h fun call => .spare h fun registered => ?_
      cases registered with
      | error failure => exact .done trivial
      | ok =>
        refine .spare trivial fun sent => ?_
        cases sent with
        | false => exact .spare h fun _ => .done trivial
        | true => exact .spare h fun _ => .done trivial
  answer _ _ _ := sound_anyFailure _
  other _ _ := trivial

variable {ρ : Type} {party : Party}

/-- Whoever starts a job starts one that uses slots and numbers of the party only in calls. -/
def Move.IsOrderly (party : Party) : Move ρ → Prop
  | .start _ routine => Routine.Stands (.ofParty party) (fun _ => True) routine .free
  | _ => True

/-- A walk or a job that stands at a stage of a call of the party. -/
def Activity.Stands (party : Party) : Activity ρ → CallStage → Prop
  | .walk _ routine, stage =>
    Routine.Stands (.ofParty party) (fun _ => True) routine stage
  | .job _ _ routine, stage =>
    Routine.Stands (.ofParty party) (fun _ => True) routine stage

theorem Activity.Stands.asks {activity : Activity ρ} {stage : CallStage}
    (h : activity.Stands party stage) {effect : Effect} {goOn : effect.Answer → Activity ρ}
    (hquestion : activity.question? = some ⟨effect, goOn⟩) :
    Routine.Asks (.ofParty party) (Activity.Stands party) stage effect goOn := by
  cases activity with
  | walk router routine =>
    cases routine with
    | done result => cases hquestion
    | ask effect next =>
      cases hquestion
      exact Routine.Stands.asks (Activity.walk router) h fun _ _ hstands => hstands
  | job number holder routine =>
    cases routine with
    | done result => cases hquestion
    | ask effect next =>
      cases hquestion
      exact Routine.Stands.asks (Activity.job number holder) h fun _ _ hstands => hstands

/-- The call that is under way. -/
def CallStage.call? : CallStage → Option CallId
  | free => none
  | numbered _ call _ | registered _ call _ | waiting _ call _ | withdrawing _ call _ => some call

/-! ### Stories -/

/-- What has happened to a call of the party. -/
def story (party : Party) (log : List Incident) (call : CallId) : List Incident :=
  log.filter fun incident => incident.place.owner = party ∧ incident.call = call

/-- What can happen to a call at most. -/
def wholeStory (place : LinkEnd) (call : CallId) (value : Reply) : List Incident :=
  [.registered place call, .delivered place call value, .returned place call value]

variable {log log' : List Incident} {incident : Incident} {call : CallId} {place : LinkEnd}
  {value : Reply}

theorem story_append_of_ne (h : incident.call ≠ call) :
    story party (log ++ [incident]) call = story party log call := by
  simp [story, List.filter_append, h]

theorem story_append_of_owner_ne (h : incident.place.owner ≠ party) (call : CallId) :
    story party (log ++ [incident]) call = story party log call := by
  simp [story, List.filter_append, h]

theorem story_append_self (incident : Incident) (h : incident.place.owner = party) :
    story party (log ++ [incident]) incident.call =
      story party log incident.call ++ [incident] := by
  simp [story, List.filter_append, h]

/-- Once a call has returned, its story is whole. -/
theorem story_of_returned {other : LinkEnd} {value' : Reply}
    (hreturned : .returned place call value ∈ log) (howner : place.owner = party)
    (hwhole : story party log call <+: wholeStory other call value') :
    story party log call = wholeStory place call value := by
  have hmem : .returned place call value ∈ story party log call :=
    List.mem_filter.mpr ⟨hreturned, by simp [Incident.place, Incident.call, howner]⟩
  obtain ⟨rest, hrest⟩ := hwhole
  generalize story party log call = told at *
  match told, hrest with
  | [], _ => cases hmem
  | [_], hrest =>
    cases hrest
    simp at hmem
  | [_, _], hrest =>
    cases hrest
    simp at hmem
  | [_, _, _], hrest =>
    cases hrest
    simp at hmem
    obtain ⟨rfl, rfl⟩ := hmem
    rfl
  | _ :: _ :: _ :: _ :: _, hrest => simp [wholeStory] at hrest

/-- A call has registered, and a result may have been delivered to it. -/
def IsUnderway (party : Party) (log : List Incident) (place : LinkEnd) (call : CallId) : Prop :=
  story party log call = [.registered place call] ∨
    ∃ value, story party log call = [.registered place call, .delivered place call value]

/-- A slot fits the stories: a call that waits in it has just registered, and a result that was
handed over was delivered. -/
structure Slot.Told (party : Party) (log : List Incident) (place : LinkEnd) (slot : Slot) :
    Prop where
  waiter : ∀ waiter ∈ slot.waiter, story party log waiter.call = [.registered place waiter.call]
  handed : ∀ entry ∈ slot.handed,
    story party log entry.1 =
        [.registered place entry.1, .delivered place entry.1 entry.2] ∨
      story party log entry.1 = wholeStory place entry.1 entry.2

/-- A stage of a call fits its story: a call with a number has none yet, and one that has registered
has not returned. -/
def CallStage.Told (party : Party) (log : List Incident) (next : Nat) : CallStage → Prop
  | free => True
  | numbered place call _ =>
    place.owner = party ∧ call.number < next ∧ story party log call = []
  | registered place call _ | waiting place call _ | withdrawing place call _ =>
    place.owner = party ∧ IsUnderway party log place call

/-- No story of a number that has not been given out. -/
def Fresh (party : Party) (log : List Incident) (next : Nat) : Prop :=
  ∀ call : CallId, next ≤ call.number → story party log call = []

theorem Slot.Told.loses {before after : Slot} (h : before.Told party log place)
    (hloses : before.Loses after) : after.Told party log place := by
  refine ⟨fun waiter hwaiter => ?_, fun entry hentry => ?_⟩
  · obtain ⟨earlier, hearlier, hcall, -⟩ := hloses.waiter waiter hwaiter
    rw [← hcall]
    exact h.waiter earlier hearlier
  · rw [hloses.handed] at hentry
    exact h.handed entry hentry

theorem Slot.Told.story_of_live? {slot : Slot} (h : slot.Told party log place)
    (hlive : slot.live? = some call) : story party log call = [.registered place call] := by
  obtain ⟨waiter, hfilter, rfl⟩ := Option.map_eq_some_iff.mp hlive
  exact h.waiter waiter (Option.filter_eq_some_iff.mp hfilter).1

/-- A slot fits longer stories that it does not mention. -/
theorem Slot.Told.congr {slot : Slot} (h : slot.Told party log place)
    (hwaiter : ∀ waiter ∈ slot.waiter,
      story party log' waiter.call = story party log waiter.call)
    (hhanded : ∀ entry ∈ slot.handed, story party log' entry.1 = story party log entry.1) :
    slot.Told party log' place := by
  refine ⟨fun waiter hmem => ?_, fun entry hmem => ?_⟩
  · rw [hwaiter waiter hmem]
    exact h.waiter waiter hmem
  · rw [hhanded entry hmem]
    exact h.handed entry hmem

theorem CallStage.Told.lt {stage : CallStage} {next : Nat} (h : stage.Told party log next)
    (hfresh : Fresh party log next) : ∀ call ∈ stage.call?, call.number < next := by
  intro call hcall
  cases stage with
  | free => cases hcall
  | numbered =>
    cases hcall
    exact h.2.1
  | registered | waiting | withdrawing =>
    cases hcall
    refine Nat.lt_of_not_le fun hge => ?_
    have hnone := hfresh call hge
    obtain hstory | ⟨value, hstory⟩ := h.2 <;> cases hnone.symm.trans hstory

theorem CallStage.Told.congr {stage : CallStage} {next next' : Nat}
    (h : stage.Told party log next) (hnext : next ≤ next')
    (hstory : ∀ call ∈ stage.call?, story party log' call = story party log call) :
    stage.Told party log' next' := by
  cases stage with
  | free => trivial
  | numbered place call action =>
    refine ⟨h.1, Nat.lt_of_lt_of_le h.2.1 hnext, ?_⟩
    rw [hstory call rfl]
    exact h.2.2
  | registered place call action | waiting place call action | withdrawing place call action =>
    refine ⟨h.1, ?_⟩
    rw [IsUnderway, hstory call rfl]
    exact h.2

/-- A result is delivered: a call that is under way stays so. -/
theorem CallStage.Told.delivered {stage : CallStage} {next : Nat} (h : stage.Told party log next)
    (howner : place.owner = party) (hstory : story party log call = [.registered place call]) :
    stage.Told party (log ++ [.delivered place call value]) next := by
  by_cases hcall : call ∈ stage.call?
  case neg =>
    refine h.congr (Nat.le_refl next) fun other hother => story_append_of_ne ?_
    rintro rfl
    exact hcall hother
  case pos =>
    have hself : story party (log ++ [.delivered place call value]) call =
        [.registered place call, .delivered place call value] := by
      refine (story_append_self (.delivered place call value) howner).trans ?_
      exact congrArg (· ++ _) hstory
    cases stage with
    | free => cases hcall
    | numbered other _ _ =>
      cases hcall
      exact absurd (hstory.symm.trans h.2.2) nofun
    | registered other _ _ | waiting other _ _ | withdrawing other _ _ =>
      cases hcall
      obtain hunderway | ⟨_, hunderway⟩ := h.2 <;> cases hstory.symm.trans hunderway
      exact ⟨howner, .inr ⟨value, hself⟩⟩

/-! ### Tasks -/

/-- Tasks fit the stories: each stands at a stage of a call, and no two of them are at the same
call; nor is any of them at the call of one more stage. -/
def TasksTold (party : Party) (log : List Incident) (next : Nat) (besides : CallStage)
    (tasks : List (Task ρ)) : Prop :=
  ∃ staged : List (Task ρ × CallStage),
    staged.map Prod.fst = tasks ∧
    staged.Pairwise (fun a b => ∀ call ∈ a.2.call?, call ∉ b.2.call?) ∧
    ∀ pair ∈ staged, pair.1.activity.Stands party pair.2 ∧ pair.2.Told party log next ∧
      ∀ call ∈ pair.2.call?, call ∉ besides.call?

namespace TasksTold

variable {tasks tasks' : List (Task ρ)} {task : Task ρ} {next next' : Nat}
  {stage stage' : CallStage}

theorem nil : TasksTold party log next .free ([] : List (Task ρ)) :=
  ⟨[], rfl, .nil, fun _ hpair => absurd hpair List.not_mem_nil⟩

theorem sublist (h : TasksTold party log next stage tasks) (hsub : tasks'.Sublist tasks) :
    TasksTold party log next stage tasks' := by
  obtain ⟨staged, rfl, hapart, hstaged⟩ := h
  obtain ⟨fewer, hfewer, rfl⟩ := List.sublist_map_iff.mp hsub
  exact ⟨fewer, rfl, hapart.sublist hfewer, fun pair hpair => hstaged pair (hfewer.subset hpair)⟩

theorem congr (h : TasksTold party log next stage tasks) (hnext : next ≤ next')
    (hstory : ∀ call, call ∉ stage.call? → story party log' call = story party log call) :
    TasksTold party log' next' stage tasks := by
  obtain ⟨staged, rfl, hapart, hstaged⟩ := h
  refine ⟨staged, rfl, hapart, fun pair hpair => ?_⟩
  obtain ⟨hstands, htold, hbesides⟩ := hstaged pair hpair
  exact ⟨hstands, htold.congr hnext fun call hcall => hstory call (hbesides call hcall), hbesides⟩

/-- The task besides may go to another stage of its call, or leave it. -/
theorem goOn (h : TasksTold party log next stage tasks)
    (hcall : ∀ call ∈ stage'.call?, call ∈ stage.call?) :
    TasksTold party log next stage' tasks := by
  obtain ⟨staged, rfl, hapart, hstaged⟩ := h
  refine ⟨staged, rfl, hapart, fun pair hpair => ?_⟩
  obtain ⟨hstands, htold, hbesides⟩ := hstaged pair hpair
  exact ⟨hstands, htold, fun call hmem hmem' => hbesides call hmem (hcall call hmem')⟩

/-- It may also begin a call with a fresh number. -/
theorem start (h : TasksTold party log next .free tasks) (hfresh : Fresh party log next)
    (hcall : ∀ call ∈ stage.call?, next ≤ call.number) : TasksTold party log next stage tasks := by
  obtain ⟨staged, rfl, hapart, hstaged⟩ := h
  refine ⟨staged, rfl, hapart, fun pair hpair => ?_⟩
  obtain ⟨hstands, htold, -⟩ := hstaged pair hpair
  refine ⟨hstands, htold, fun call hmem hmem' => ?_⟩
  exact absurd (htold.lt hfresh call hmem) (Nat.not_lt.mpr (hcall call hmem'))

/-- The task besides comes back to the others. -/
theorem put (h : TasksTold party log next stage tasks)
    (hstands : task.activity.Stands party stage) (htold : stage.Told party log next) :
    TasksTold party log next .free (tasks ++ [task]) := by
  obtain ⟨staged, rfl, hapart, hstaged⟩ := h
  refine ⟨staged ++ [(task, stage)], by simp, ?_, fun pair hpair => ?_⟩
  · rw [List.pairwise_append]
    refine ⟨hapart, List.pairwise_singleton _ _, fun pair hpair other hother => ?_⟩
    rw [List.mem_singleton.mp hother]
    exact (hstaged pair hpair).2.2
  · obtain hmem | hmem := List.mem_append.mp hpair
    · obtain ⟨hstands, htold, -⟩ := hstaged pair hmem
      exact ⟨hstands, htold, nofun⟩
    · rw [List.mem_singleton.mp hmem]
      exact ⟨hstands, htold, nofun⟩

/-- A result is delivered. -/
theorem delivered (h : TasksTold party log next stage tasks) (howner : place.owner = party)
    (hstory : story party log call = [.registered place call]) :
    TasksTold party (log ++ [.delivered place call value]) next stage tasks := by
  obtain ⟨staged, rfl, hapart, hstaged⟩ := h
  refine ⟨staged, rfl, hapart, fun pair hpair => ?_⟩
  obtain ⟨hstands, htold, hbesides⟩ := hstaged pair hpair
  exact ⟨hstands, htold.delivered howner hstory, hbesides⟩

/-- A task is taken out. -/
theorem take (h : TasksTold party log next .free tasks) (hmem : task ∈ tasks) :
    ∃ stage, task.activity.Stands party stage ∧ stage.Told party log next ∧
      TasksTold party log next stage (tasks.filter fun other => other.id != task.id) := by
  obtain ⟨staged, rfl, hapart, hstaged⟩ := h
  obtain ⟨⟨task, stage⟩, hpair, rfl⟩ := List.mem_map.mp hmem
  obtain ⟨hstands, htold, -⟩ := hstaged _ hpair
  refine ⟨stage, hstands, htold, staged.filter fun other => other.1.id != task.id, ?_,
    hapart.sublist List.filter_sublist, fun other hother => ?_⟩
  · rw [List.filter_map]
    rfl
  · obtain ⟨hother, hne⟩ := List.mem_filter.mp hother
    obtain ⟨hstands', htold', -⟩ := hstaged other hother
    refine ⟨hstands', htold', ?_⟩
    have hsymm : Std.Symm fun a b : Task ρ × CallStage =>
        ∀ call ∈ a.2.call?, call ∉ b.2.call? :=
      ⟨fun a b hab call hb ha => hab call ha hb⟩
    refine hapart.forall hother hpair ?_
    rintro rfl
    simp at hne

end TasksTold

end RoundTable
