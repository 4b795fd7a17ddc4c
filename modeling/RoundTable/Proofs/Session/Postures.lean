import RoundTable.Proofs.Session.Moves

/-!
# Who is there and who listens

Most moves leave it as it is which routers are at work, who takes part, and at which ends somebody
listens. It changes only when a router finds that the other side has hung up, when it stops, and
when it is stopped or its party leaves. So there are few ways in which a router may come to an end
that nothing arrives at any more, and whoever listens to a router that has hung up is gone.

## Main definitions

* `Session.router?`, `Session.isThere`, `Session.listens`: the posture of a session
* `Move.isQuiet`: moves that leave it as it is
* `Session.Reposed`: what a move can do to it
* `Session.Composed`: postures that a session may come to

## Main results

* `Session.reposed_of_move?`: there is nothing else that a move can do to the posture
* `Session.Composed.run?`: every session has such a posture
-/

namespace RoundTable

variable {ρ : Type}

/-- The steps of tasks, and the taking in of commands. -/
def Session.Label.isQuiet : Session.Label → Bool
  | advance _ | receive _ => true
  | join _ | hangUp _ | stop _ => false

/-- Nobody leaves, and no router notices that something is over. -/
def Move.isQuiet : Move ρ → Bool
  | step label => label.isQuiet
  | disconnect _ | stopServer => false
  | _ => true

namespace Session

variable {before middle after session : Session ρ} {party : Party} {place : LinkEnd}

/-- What the router of a party is doing. -/
def router? (session : Session ρ) (party : Party) : Option RouterState :=
  (session.station? party).map Station.router

/-- Whether a party takes part. -/
def isThere (session : Session ρ) (party : Party) : Bool :=
  (session.station? party).any Station.isPresent

/-- Whether commands may arrive at an end. -/
def listens (session : Session ρ) (place : LinkEnd) : Bool :=
  (session.desk? place).any Desk.isListening

theorem router?_of_isRouting (h : session.isRouting party = true) :
    session.router? party = some .running := by
  obtain ⟨station, hstation, hrunning⟩ := (Option.any_eq_true _ _).mp h
  rw [router?, hstation, Option.map_some]
  rw [Station.isRunning] at hrunning
  split at hrunning
  case h_1 hrouter => rw [hrouter]
  case h_2 => cases hrunning

theorem isRouting_of_router? (h : session.router? party = some .running) :
    session.isRouting party = true := by
  obtain ⟨station, hstation, hrouter⟩ := Option.map_eq_some_iff.mp h
  rw [isRouting, hstation, Option.any_some, Station.isRunning, hrouter]

/-! ### Moves that keep the posture -/

/-- The posture is the same. -/
structure SamePosture (before after : Session ρ) : Prop where
  router : ∀ party, after.router? party = before.router? party
  isThere : ∀ party, after.isThere party = before.isThere party
  listens : ∀ place, after.listens place = before.listens place

namespace SamePosture

theorem of_views (hdesk : ∀ place, after.desk? place = before.desk? place)
    (hstation : ∀ party, after.station? party = before.station? party) :
    SamePosture before after := by
  refine ⟨fun party => ?_, fun party => ?_, fun place => ?_⟩
  · rw [router?, hstation]
    rfl
  · rw [Session.isThere, hstation]
    rfl
  · rw [Session.listens, hdesk]
    rfl

theorem refl (session : Session ρ) : SamePosture session session :=
  of_views (fun _ => rfl) fun _ => rfl

theorem trans (first : SamePosture before middle) (second : SamePosture middle after) :
    SamePosture before after :=
  ⟨fun party => (second.router party).trans (first.router party),
    fun party => (second.isThere party).trans (first.isThere party),
    fun place => (second.listens place).trans (first.listens place)⟩

theorem isRouting (h : SamePosture before after) (party : Party) :
    after.isRouting party = before.isRouting party := by
  rw [Bool.eq_iff_iff]
  constructor
  · intro hafter
    refine isRouting_of_router? ?_
    rw [← h.router]
    exact router?_of_isRouting hafter
  · intro hbefore
    refine isRouting_of_router? ?_
    rw [h.router]
    exact router?_of_isRouting hbefore

theorem modifyDesk {change : Desk → Desk}
    (h : ∀ desk, (change desk).isListening = desk.isListening) :
    SamePosture session (session.modifyDesk place change) := by
  refine ⟨fun party => ?_, fun party => ?_, fun other => ?_⟩
  · rw [router?, station?_modifyDesk]
    rfl
  · rw [Session.isThere, station?_modifyDesk]
    rfl
  · rw [Session.listens, Session.listens, desk?_modifyDesk]
    split
    · simp [Option.any_map, h]
    · rfl

theorem modifySlot (session : Session ρ) (place : LinkEnd) (change : Slot → Slot) :
    SamePosture session (session.modifySlot place change) :=
  modifyDesk fun _ => rfl

theorem taken (session : Session ρ) (place : LinkEnd) :
    SamePosture session (session.taken place) :=
  modifyDesk fun _ => rfl

theorem modifyStation {change : Station → Station}
    (hrouter : ∀ station, (change station).router = station.router)
    (hpresent : ∀ station, (change station).isPresent = station.isPresent) :
    SamePosture session (session.modifyStation party change) := by
  refine ⟨fun other => ?_, fun other => ?_, fun place => ?_⟩
  · rw [router?, router?, station?_modifyStation]
    split
    · simp [Function.comp_def, hrouter]
    · rfl
  · rw [Session.isThere, Session.isThere, station?_modifyStation]
    split
    · simp [Option.any_map, hpresent]
    · rfl
  · rw [Session.listens, desk?_modifyStation]
    rfl

theorem withoutTask (session : Session ρ) (id : Nat) :
    SamePosture session (session.withoutTask id) :=
  of_views (desk?_withoutTask session id) (station?_withoutTask session id)

theorem queueTask (session : Session ρ) (task : Task ρ) :
    SamePosture session (session.queueTask task) :=
  of_views (desk?_queueTask session task) (station?_queueTask session task)

theorem spawn (session : Session ρ) (activity : Activity ρ) :
    SamePosture session (session.spawn activity) :=
  of_views (desk?_spawn session activity) (station?_spawn session activity)

theorem endJob (session : Session ρ) (number : Nat) (jobEnd : JobEnd ρ) :
    SamePosture session (session.endJob number jobEnd) :=
  of_views (desk?_endJob session number jobEnd) (station?_endJob session number jobEnd)

theorem push? {command : Command} {sent : Bool}
    (h : session.push? place command = some (after, sent)) : SamePosture session after := by
  obtain rfl | rfl := eq_of_push? h
  · exact .refl _
  · exact modifyDesk fun _ => rfl

theorem perform? {effect : Effect} {answer : effect.Answer}
    (h : session.perform? effect = some (after, answer)) : SamePosture session after := by
  cases effect with
  | observe | apply | applyOr | confirm | isLinked =>
    cases h
    exact of_views (fun place => by cases place <;> rfl) fun party => by cases party <;> rfl
  | number other =>
    cases h
    exact modifyStation (fun _ => rfl) fun _ => rfl
  | cancel place call =>
    cases h
    exact modifyDesk fun _ => rfl
  | crash => cases h
  | send place command => exact push? h
  | await place call =>
    rw [Session.perform?] at h
    split at h
    · cases h
      exact .refl _
    · obtain ⟨answer, -, heq⟩ := Option.map_eq_some_iff.mp h
      cases heq
      exact .refl _
  | register place call =>
    obtain ⟨failure, rfl, rfl⟩ | ⟨rfl, slot, -, -, rfl⟩ := register_cases h
    · exact .refl _
    · exact modifyDesk fun _ => rfl

theorem dropTasks (session : Session ρ) (drops : Activity ρ → Bool) :
    SamePosture session (session.dropTasks drops) := by
  have habandon (tasks : List (Task ρ)) (session : Session ρ) :
      SamePosture session (tasks.foldl abandon session) := by
    induction tasks generalizing session with
    | nil => exact .refl session
    | cons task tasks ih =>
      refine trans ?_ (ih (session.abandon task))
      rw [abandon]
      split
      · exact modifyDesk fun _ => rfl
      · exact .refl session
  refine trans ?_ (habandon _ _)
  exact of_views (fun place => by cases place <;> rfl) fun party => by cases party <;> rfl

theorem cancelJobs (session : Session ρ) (cancels : Activity ρ → Bool) :
    SamePosture session (session.cancelJobs cancels) := by
  have hends (numbers : List Nat) (session : Session ρ) : SamePosture session
      (numbers.foldl (fun session number => session.endJob number .aborted) session) := by
    induction numbers generalizing session with
    | nil => exact .refl session
    | cons number numbers ih => exact (endJob session number .aborted).trans (ih _)
  exact (dropTasks session cancels).trans (hends _ _)

theorem poll (session : Session ρ) (number : Nat) :
    SamePosture session (session.poll number).1 := by
  rw [Session.poll]
  split
  · exact .refl session
  · split
    · exact of_views (fun place => by cases place <;> rfl) fun party => by cases party <;> rfl
    · exact .refl session

theorem tryReceive (session : Session ρ) (place : LinkEnd) :
    SamePosture session (session.tryReceive place).1 := by
  rw [Session.tryReceive]
  split
  case h_1 => exact taken session place
  case h_2 => exact .refl session

theorem trySend (session : Session ρ) (place : LinkEnd) (command : Command) :
    SamePosture session (session.trySend place command).1 := by
  rw [Session.trySend]
  split
  case h_1 => exact .refl session
  case h_2 hpush => exact push? hpush
  case h_3 hpush => exact push? hpush

end SamePosture

/-! ### Moves that change it -/

/-- A router notices that nothing more will arrive, and sends away who waits. -/
def hungUp (session : Session ρ) (place : LinkEnd) : Session ρ :=
  session.modifyDesk place fun desk =>
    { desk with isListening := false, slot := desk.slot.close }

/-- Nobody listens any more where a party sits, and the other parties are as they were. -/
structure Shuts (party : Party) (before after : Session ρ) : Prop where
  router : ∀ other, other ≠ party → after.router? other = before.router? other
  isThere : ∀ other, other ≠ party → after.isThere other = before.isThere other
  listens : ∀ place,
    after.listens place = if place.owner = party then false else before.listens place

/-- How the router of a party has come to an end, if it was at work. -/
inductive Cut (party : Party) (before after : Session ρ) : Prop where
  | failed {error : SessionError} (h : after.router? party = some (.ended (.error error)))
  | aborted (routing : before.isRouting party = true) (h : after.router? party = some .aborted)
  | kept (routing : before.isRouting party = false)
    (h : after.router? party = before.router? party)

/-- What a move can do to the posture. -/
inductive Reposed (before : Session ρ) : Session ρ → Prop where
  | same {after : Session ρ} (h : SamePosture before after) : Reposed before after
  | hungUp {place : LinkEnd} (routing : before.isRouting place.owner = true)
    (absent : before.isThere place.opposite.owner = false) : Reposed before (before.hungUp place)
  | stopped {party : Party} (routing : before.isRouting party = true)
    (deaf : ∀ place, place.owner = party → before.listens place = false) :
    Reposed before
      (before.modifyStation party fun station => { station with router := .ended (.ok ()) })
  | shut {after : Session ρ} {party : Party} (h : Shuts party before after)
    (cut : Cut party before after) : Reposed before after

theorem Shuts.after_same (first : SamePosture before middle) (second : Shuts party middle after) :
    Shuts party before after where
  router other hne := (second.router other hne).trans (first.router other)
  isThere other hne := (second.isThere other hne).trans (first.isThere other)
  listens place := by rw [second.listens, first.listens]

theorem Cut.after_same (first : SamePosture before middle) (second : Cut party middle after) :
    Cut party before after := by
  have hrouting := first.isRouting party
  cases second with
  | failed h => exact .failed h
  | aborted routing h => exact .aborted (hrouting ▸ routing) h
  | kept routing h => exact .kept (hrouting ▸ routing) (h.trans (first.router party))

theorem shuts_shutEnds (session : Session ρ) (party : Party) :
    Shuts party session (session.shutEnds party) := by
  obtain ⟨-, -, -, -, hstation⟩ := foldl_shut (session.endsOf party) session
  refine ⟨fun other _ => congrArg _ (hstation other), fun other _ => ?_, fun place => ?_⟩
  · rw [Session.isThere, shutEnds, hstation]
    rfl
  · rw [Session.listens, desk?_shutEnds]
    split
    · simp [Option.any_map, Desk.shut]
    · rfl

theorem listens_modifyStation (session : Session ρ) (party : Party) (change : Station → Station)
    (place : LinkEnd) :
    (session.modifyStation party change).listens place = session.listens place := by
  rw [Session.listens, desk?_modifyStation]
  rfl

theorem router?_modifyStation (session : Session ρ) (party : Party) (router : RouterState)
    (other : Party) :
    (session.modifyStation party fun station => { station with router }).router? other =
      if other = party then (session.router? other).map fun _ => router
      else session.router? other := by
  rw [router?, station?_modifyStation]
  split <;> simp [router?, Function.comp_def]

theorem isThere_modifyStation (session : Session ρ) (change : Station → Station) {other : Party}
    (h : other ≠ party) :
    (session.modifyStation party change).isThere other = session.isThere other := by
  rw [isThere, station?_modifyStation, if_neg h]
  rfl

/-- The router of a party comes to an end, and nothing arrives where it sits any more. -/
theorem shuts_shutRouter (session : Session ρ) (party : Party) (router : RouterState) :
    Shuts party session (session.shutRouter party router) ∧
      (session.shutRouter party router).router? party =
        (session.router? party).map fun _ => router := by
  have hshut := shuts_shutEnds session party
  have hdrop := SamePosture.dropTasks ((session.shutEnds party).modifyStation party
    fun station => { station with router }) fun activity => activity.isWalkOf party
  refine ⟨⟨fun other hne => ?_, fun other hne => ?_, fun place => ?_⟩, ?_⟩
  · refine (hdrop.router other).trans ?_
    rw [router?_modifyStation, if_neg hne]
    exact hshut.router other hne
  · refine (hdrop.isThere other).trans ?_
    rw [isThere_modifyStation _ _ hne]
    exact hshut.isThere other hne
  · refine (hdrop.listens place).trans ?_
    rw [listens_modifyStation]
    exact hshut.listens place
  · refine (hdrop.router party).trans ?_
    obtain ⟨-, -, -, -, hstation⟩ := foldl_shut (session.endsOf party) session
    rw [router?_modifyStation, if_pos rfl]
    have hsame : (session.shutEnds party).router? party = session.router? party :=
      congrArg (Option.map Station.router) (hstation party)
    exact congrArg (Option.map fun _ => router) hsame

theorem cut_shutRouter (session : Session ρ) (party : Party) (error : SessionError) :
    Cut party session (session.shutRouter party (.ended (.error error))) := by
  obtain ⟨-, hrouter⟩ := shuts_shutRouter session party (.ended (.error error))
  cases hbefore : session.router? party with
  | some router => exact .failed (by rw [hrouter, hbefore, Option.map_some])
  | none =>
    refine .kept ?_ (by rw [hrouter, hbefore, Option.map_none])
    refine Bool.eq_false_iff.mpr fun hrouting => ?_
    cases hbefore.symm.trans (router?_of_isRouting hrouting)

theorem router?_absent (session : Session ρ) (party other : Party) :
    (session.modifyStation party fun station =>
      { station with isPresent := false }).router? other = session.router? other := by
  rw [router?, station?_modifyStation]
  split <;> simp [router?, Function.comp_def]

/-- A party that leaves stops its router, if this is at work. -/
theorem router?_leave (session : Session ρ) (party : Party) :
    (session.leave party).router? party =
      if session.isRouting party then some .aborted else session.router? party := by
  rw [leave, router?_absent]
  split
  case isTrue hrouting =>
    rw [(shuts_shutRouter session party .aborted).2, router?_of_isRouting hrouting,
      Option.map_some]
  case isFalse =>
    obtain ⟨-, -, -, -, hstation⟩ := foldl_shut (session.endsOf party) session
    exact congrArg (Option.map Station.router) (hstation party)

/-- A party leaves. -/
theorem shuts_leave (session : Session ρ) (party : Party) :
    Shuts party session (session.leave party) ∧ Cut party session (session.leave party) := by
  have hleft (middle : Session ρ) (hshuts : Shuts party session middle) :
      Shuts party session
        (middle.modifyStation party fun station => { station with isPresent := false }) := by
    refine ⟨fun other hne => ?_, fun other hne => ?_, fun place => ?_⟩
    · rw [router?_absent]
      exact hshuts.router other hne
    · rw [isThere_modifyStation _ _ hne]
      exact hshuts.isThere other hne
    · rw [listens_modifyStation]
      exact hshuts.listens place
  have hrouter := router?_leave session party
  cases hrouting : session.isRouting party with
  | true =>
    rw [hrouting, if_pos rfl] at hrouter
    refine ⟨?_, .aborted hrouting hrouter⟩
    rw [leave, hrouting, if_pos rfl]
    exact hleft _ (shuts_shutRouter session party .aborted).1
  | false =>
    rw [hrouting, if_neg Bool.false_ne_true] at hrouter
    refine ⟨?_, .kept hrouting hrouter⟩
    rw [leave, hrouting, if_neg Bool.false_ne_true]
    exact hleft _ (shuts_shutEnds session party)

/-! ### What a move can do to the posture -/

theorem Reposed.shut_after (first : SamePosture before middle) (second : Shuts party middle after)
    (cut : Cut party middle after) : Reposed before after :=
  .shut (second.after_same first) (cut.after_same first)

theorem Stepped.samePosture {label : Label} (h : Stepped before label after)
    (hquiet : label.isQuiet = true) : SamePosture before after := by
  cases h with
  | @answered task effect goOn middle answer found asks answers =>
    refine (SamePosture.withoutTask before task.id).trans ?_
    exact (SamePosture.perform? answers).trans (.queueTask middle _)
  | @ended task number => exact (SamePosture.withoutTask before task.id).trans (.endJob _ number _)
  | @brokeDown task number =>
    exact (SamePosture.withoutTask before task.id).trans (.endJob _ number _)
  | @delegated place => exact (SamePosture.taken before place).trans (.spawn _ _)
  | @resulted place => exact (SamePosture.taken before place).trans (.modifySlot _ place _)
  | joined | broken | hungUp | stopped => cases hquiet

/-- Quiet moves leave the posture as it is. -/
theorem samePosture_of_move? {move : Move ρ} (h : before.move? move = some after)
    (hquiet : move.isQuiet = true) : SamePosture before after := by
  cases move with
  | step label => exact (stepped_of_step? h).samePosture hquiet
  | start holder routine =>
    cases h
    exact (SamePosture.of_views (fun place => by cases place <;> rfl)
      fun party => by cases party <;> rfl).trans (.spawn { before with
        started := before.started + 1 } _)
  | poll number =>
    cases h
    exact .poll before number
  | cancel number =>
    cases h
    exact .cancelJobs before _
  | send place command =>
    cases h
    exact .trySend before place command
  | take place =>
    cases h
    exact .tryReceive before place
  | apply event =>
    cases h
    exact .of_views (fun place => by cases place <;> rfl) fun party => by cases party <;> rfl
  | disconnect | stopServer => cases hquiet

/-- A router that is about to stop listens nowhere. -/
theorem listens_of_endsOf
    (deaf : ∀ place ∈ session.endsOf party, (session.desk? place).any Desk.isListening = false)
    (place : LinkEnd) (howner : place.owner = party) : session.listens place = false := by
  cases hdesk : session.desk? place with
  | none => rw [listens, hdesk, Option.any_none]
  | some desk => exact deaf place (mem_endsOf.mpr ⟨howner, by rw [hdesk, Option.isSome_some]⟩)

theorem reposed_of_stepped {label : Label} (h : Stepped before label after) :
    Reposed before after := by
  by_cases hquiet : label.isQuiet = true
  case pos => exact .same (h.samePosture hquiet)
  cases h with
  | answered | ended | brokeDown | delegated | resulted => exact absurd rfl hquiet
  | @joined task router result found done =>
    have hwithout := SamePosture.withoutTask before task.id
    cases result with
    | ok => exact .same hwithout
    | error failure =>
      rw [join.eq_def]
      dsimp only
      split
      · exact .shut_after hwithout (shuts_shutRouter _ router _).1 (cut_shutRouter _ router _)
      · exact .same hwithout
  | @broken task router next found crashes =>
    exact .shut_after (.withoutTask before task.id) (shuts_shutRouter _ router _).1
      (cut_shutRouter _ router _)
  | @hungUp place desk hdesk routing listening silent =>
    exact .hungUp routing (Bool.or_eq_false_iff.mp silent).1
  | stopped routing deaf =>
    exact .stopped routing (listens_of_endsOf deaf)

/-- **There is nothing else that a move can do to the posture.** -/
theorem reposed_of_move? {move : Move ρ} (h : before.move? move = some after) :
    Reposed before after := by
  by_cases hquiet : move.isQuiet = true
  case pos => exact .same (samePosture_of_move? h hquiet)
  cases move with
  | step label => exact reposed_of_stepped (stepped_of_step? h)
  | start | poll | cancel | send | take | apply => exact absurd rfl hquiet
  | disconnect id =>
    cases h
    obtain ⟨hshuts, hcut⟩ := shuts_leave before (.participant id)
    exact .shut hshuts hcut
  | stopServer =>
    cases h
    obtain ⟨hshuts, hcut⟩ := shuts_leave
      (before.cancelJobs fun activity => activity.isJobFor .server) .server
    exact .shut_after (.cancelJobs before _) hshuts hcut

/-! ### Postures that a session may come to -/

/-- The router of a party is at work, or has stopped because there was nothing left to do. -/
def IsWilling (session : Session ρ) (party : Party) : Prop :=
  session.router? party = some .running ∨ session.router? party = some (.ended (.ok ()))

/-- Nobody listens on behalf of a party that is not there, nor of a router that has stopped; and a
router that does not listen any more where it has not been cut short has found nobody at the other
side. -/
structure Composed (session : Session ρ) : Prop where
  absent : ∀ place, session.isThere place.owner = false → session.listens place = false
  stopped : ∀ place, session.router? place.owner = some (.ended (.ok ())) →
    session.listens place = false
  deaf : ∀ place, session.IsWilling place.owner → session.listens place = false →
    session.listens place.opposite = false

theorem listens_hungUp (session : Session ρ) (place other : LinkEnd) :
    (session.hungUp place).listens other =
      if other = place then false else session.listens other := by
  rw [listens, hungUp, desk?_modifyDesk]
  split
  · simp [Option.any_map]
  · rfl

theorem SamePosture.isWilling (h : SamePosture before after) :
    after.IsWilling party ↔ before.IsWilling party := by
  rw [IsWilling, IsWilling, h.router]

theorem Cut.not_isWilling (h : Cut party before after) (hwilling : after.IsWilling party) :
    before.router? party = some (.ended (.ok ())) := by
  cases h with
  | failed h => obtain hrunning | hstopped := hwilling <;> cases h.symm.trans ‹_›
  | aborted _ h => obtain hrunning | hstopped := hwilling <;> cases h.symm.trans ‹_›
  | kept routing h =>
    rw [IsWilling, h] at hwilling
    obtain hrunning | hstopped := hwilling
    · cases routing.symm.trans (isRouting_of_router? hrunning)
    · exact hstopped

theorem Composed.reposed (h : before.Composed) (hreposed : Reposed before after) :
    after.Composed := by
  cases hreposed with
  | same hsame =>
    refine ⟨fun place habsent => ?_, fun place hstopped => ?_, fun place hwilling hdeaf => ?_⟩
    · rw [hsame.isThere] at habsent
      exact (hsame.listens place).trans (h.absent place habsent)
    · rw [hsame.router] at hstopped
      exact (hsame.listens place).trans (h.stopped place hstopped)
    · rw [hsame.listens] at hdeaf ⊢
      exact h.deaf place (hsame.isWilling.mp hwilling) hdeaf
  | @hungUp place routing absent =>
    have hrouter (party : Party) : (before.hungUp place).router? party = before.router? party := by
      rw [router?, hungUp, station?_modifyDesk]
      rfl
    have hthere (party : Party) : (before.hungUp place).isThere party = before.isThere party := by
      rw [isThere, hungUp, station?_modifyDesk]
      rfl
    have hmono (other : LinkEnd) (hdeaf : before.listens other = false) :
        (before.hungUp place).listens other = false := by
      rw [listens_hungUp, hdeaf, ite_self]
    refine ⟨fun other habsent => ?_, fun other hstopped => ?_, fun other hwilling hdeaf => ?_⟩
    · rw [hthere] at habsent
      exact hmono other (h.absent other habsent)
    · rw [hrouter] at hstopped
      exact hmono other (h.stopped other hstopped)
    · refine hmono _ ?_
      rw [listens_hungUp] at hdeaf
      split at hdeaf
      case isTrue heq =>
        rw [heq]
        exact h.absent _ absent
      case isFalse =>
        rw [IsWilling, hrouter] at hwilling
        exact h.deaf other hwilling hdeaf
  | @stopped party routing deaf =>
    have hthere (other : Party) : (before.modifyStation party fun station =>
        { station with router := .ended (.ok ()) }).isThere other = before.isThere other := by
      rw [isThere, isThere, station?_modifyStation]
      split <;> simp [Option.any_map]
    refine ⟨fun place habsent => ?_, fun place hstopped => ?_, fun place hwilling hdeaf => ?_⟩
    · rw [hthere] at habsent
      rw [listens_modifyStation]
      exact h.absent place habsent
    · rw [listens_modifyStation]
      rw [router?_modifyStation] at hstopped
      split at hstopped
      case isTrue howner => exact deaf place howner
      case isFalse => exact h.stopped place hstopped
    · rw [listens_modifyStation] at hdeaf ⊢
      rw [IsWilling, router?_modifyStation] at hwilling
      split at hwilling
      case isTrue howner =>
        exact h.deaf place (howner ▸ .inl (router?_of_isRouting routing)) hdeaf
      case isFalse => exact h.deaf place hwilling hdeaf
  | @shut after party hshuts hcut =>
    have hmono (place : LinkEnd) (hdeaf : before.listens place = false) :
        after.listens place = false := by
      rw [hshuts.listens, hdeaf, ite_self]
    refine ⟨fun place habsent => ?_, fun place hstopped => ?_, fun place hwilling hdeaf => ?_⟩
    · by_cases howner : place.owner = party
      · rw [hshuts.listens, if_pos howner]
      · rw [hshuts.isThere _ howner] at habsent
        exact hmono place (h.absent place habsent)
    · by_cases howner : place.owner = party
      · rw [hshuts.listens, if_pos howner]
      · rw [hshuts.router _ howner] at hstopped
        exact hmono place (h.stopped place hstopped)
    · by_cases howner : place.owner = party
      · have hbefore := hcut.not_isWilling (howner ▸ hwilling)
        rw [← howner] at hbefore
        exact hmono _ (h.deaf place (.inr hbefore) (h.stopped place hbefore))
      · rw [hshuts.listens, if_neg howner] at hdeaf
        rw [IsWilling, hshuts.router _ howner] at hwilling
        exact hmono _ (h.deaf place hwilling hdeaf)

theorem composed_opened (table : Table) (server : Option (Executor Routine))
    (participants : List (PlayerId × Option (Executor Routine))) :
    (opened table server participants : Session ρ).Composed := by
  have hlistens (place : LinkEnd) (desk : Desk)
      (hdesk : (opened table server participants : Session ρ).desk? place = some desk) :
      desk.isListening = true := by
    rw [desk?_opened hdesk]
    rfl
  refine ⟨fun place habsent => ?_, fun place hstopped => ?_, fun place _ hdeaf => ?_⟩
  · cases hdesk : (opened table server participants : Session ρ).desk? place with
    | none => rw [listens, hdesk, Option.any_none]
    | some desk =>
      obtain ⟨station, hstation⟩ := Option.isSome_iff_exists.mp
        (isSome_station?_owner _ place (by rw [hdesk, Option.isSome_some]))
      obtain ⟨execute, rfl, -⟩ := station?_opened hstation
      rw [isThere, hstation] at habsent
      cases habsent
  · obtain ⟨station, hstation, hrouter⟩ := Option.map_eq_some_iff.mp hstopped
    obtain ⟨execute, rfl, -⟩ := station?_opened hstation
    rw [Station.opened] at hrouter
    split at hrouter <;> cases hrouter
  · cases hdesk : (opened table server participants : Session ρ).desk? place with
    | some desk =>
      rw [listens, hdesk, Option.any_some, hlistens place desk hdesk] at hdeaf
      cases hdeaf
    | none =>
      have hopposite : (opened table server participants : Session ρ).desk? place.opposite =
          none := by
        cases place <;> exact Option.map_eq_none_iff.mpr (Option.map_eq_none_iff.mp hdesk)
      rw [listens, hopposite, Option.any_none]

/-- **Every session has such a posture.** -/
theorem Composed.run? {moves : List (Move ρ)} (h : before.Composed)
    (hrun : before.run? moves = some after) : after.Composed :=
  kept_of_run? Composed (fun _ _ _ _ h hmove => h.reposed (reposed_of_move? hmove)) h hrun

end Session

end RoundTable
